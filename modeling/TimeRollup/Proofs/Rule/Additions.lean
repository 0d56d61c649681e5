import TimeRollup.Proofs.Rule.Tables

/-!
# Adding rules

A table grows by one rule at a time.  A rule that is refused leaves no trace, so the table that is reached
is the table of the rules that were added.  A rule that is added is for a function that had none.  So it
changes nothing about an entry that was rolled up or carried over before, and nothing about calls of
other functions, and the order in which rules are added does not matter.
-/

namespace TimeRollup

open TimeRollup.Text

namespace RuleTable

variable {table added : RuleTable} {rule : CustomRule}

/-! ## One more rule -/

/-- What a table does with an entry depends on its rule for the called function alone. -/
theorem rewrite_congr {left right : RuleTable} {item : SelectItem}
    (h : ∀ function args, item.expr = .call function args →
      left.find? function = right.find? function) :
    left.rewrite item = right.rewrite item := by
  unfold rewrite
  cases hshape : item.shape with
  | call function =>
    cases hexpr : item.expr with
    | call called args =>
      rw [SelectItem.shape, hexpr, Expr.shape] at hshape
      obtain rfl := Expr.eq_of_callShape_eq_call hshape
      simp only [h called args hexpr]
    | _ => rfl
  | _ => rfl

/-- A call of a function that has no rule at all is forwarded. -/
theorem rewrite_of_find?_eq_none {item : SelectItem} {function : String} {args : List Expr}
    (hexpr : item.expr = .call function args) (hfixed : function ∉ fixedFunctions)
    (hsummary : function ∉ summaryFunctions) (hnone : table.find? function = none) :
    table.rewrite item = .forwarded item := by
  have hshape : item.shape = .call function := by
    rw [SelectItem.shape, hexpr]
    exact callShape_of_notMem hfixed hsummary args
  simp [rewrite, hshape, hexpr, hnone]

theorem find?_eq_none_iff {function : String} :
    table.find? function = none ↔ function ∉ table.custom.map CustomRule.function := by
  simp [find?]

theorem find?_of_add (h : table.add rule = .ok added) {function : String}
    (hother : function ≠ lowercase rule.function) :
    added.find? function = table.find? function := by
  obtain ⟨-, -, rfl⟩ := add_eq_ok_iff.1 h
  simp [find?, List.find?_append, Ne.symm hother]

/-- The table rewrites as the other one does, but for calls of a function that the other forwards. -/
structure Extends (added table : RuleTable) (function : String) : Prop where
  keeps : ∀ {item : SelectItem}, (table.rewrite item).isForwarded = false →
    added.rewrite item = table.rewrite item
  elsewhere : ∀ {item : SelectItem}, (∀ args, item.expr ≠ .call function args) →
    added.rewrite item = table.rewrite item

theorem extends_of_add (h : table.add rule = .ok added) :
    added.Extends table (lowercase rule.function) := by
  have helsewhere {item : SelectItem}
      (hother : ∀ args, item.expr ≠ .call (lowercase rule.function) args) :
      added.rewrite item = table.rewrite item := by
    refine rewrite_congr fun function args hexpr => find?_of_add h ?_
    rintro rfl
    exact hother args hexpr
  refine ⟨fun {item} hrule => helsewhere fun args hexpr => ?_, helsewhere⟩
  -- the table had no rule for the function, so it forwarded the call
  obtain ⟨hacceptable, hfresh, -⟩ := add_eq_ok_iff.1 h
  rw [rewrite_of_find?_eq_none hexpr hacceptable.notMem_fixedFunctions
    hacceptable.notMem_summaryFunctions (find?_eq_none_iff.2 hfresh)] at hrule
  simp [Rewrite.isForwarded] at hrule

/-! ## Histories of offers -/

theorem offer_eq_ok_iff : table.offer rule = (.ok (), added) ↔ table.add rule = .ok added := by
  unfold offer
  cases table.add rule <;> simp

theorem offer_eq_error_iff {error : RollupError} {after : RuleTable} :
    table.offer rule = (.error error, after) ↔ table.add rule = .error error ∧ after = table := by
  unfold offer
  cases table.add rule <;> simp [eq_comm]

/-- Rules that were refused might as well not have been offered. -/
theorem exists_sublist_of_offerAll (table : RuleTable) (offers : List CustomRule) :
    ∃ taken : List CustomRule, taken.Sublist offers ∧
      taken.foldlM add table = .ok (table.offerAll offers) := by
  induction offers generalizing table with
  | nil => exact ⟨[], .slnil, rfl⟩
  | cons rule offers ih =>
    cases hadd : table.add rule with
    | ok added =>
      obtain ⟨taken, hsublist, htaken⟩ := ih added
      refine ⟨rule :: taken, hsublist.cons_cons rule, ?_⟩
      rw [List.foldlM_cons, hadd, offerAll_cons, offer_eq_ok_iff.2 hadd]
      exact htaken
    | error error =>
      obtain ⟨taken, hsublist, htaken⟩ := ih table
      refine ⟨taken, hsublist.cons rule, ?_⟩
      rw [offerAll_cons, offer_eq_error_iff.2 ⟨hadd, rfl⟩]
      exact htaken

/-! ## The order of rules -/

theorem IsAccepted.of_sublist (h : table.IsAccepted) {part : List CustomRule}
    (hpart : part.Sublist table.custom) : IsAccepted ⟨part⟩ where
  isAcceptable rule hrule := h.isAcceptable rule (hpart.subset hrule)
  nodup := h.nodup.sublist (hpart.map _)

theorem IsAccepted.of_perm (h : table.IsAccepted) {custom : List CustomRule}
    (hperm : table.custom.Perm custom) : IsAccepted ⟨custom⟩ where
  isAcceptable rule hrule := h.isAcceptable rule (hperm.mem_iff.2 hrule)
  nodup := (hperm.map _).nodup_iff.1 h.nodup

theorem IsAccepted.find?_eq_some_iff (h : table.IsAccepted) {function : String} :
    table.find? function = some rule ↔ rule ∈ table.custom ∧ rule.function = function := by
  constructor
  · intro hfind
    exact ⟨List.mem_of_find?_eq_some hfind, by simpa using List.find?_some hfind⟩
  · rintro ⟨hrule, rfl⟩
    exact h.find?_eq_some hrule

theorem IsAccepted.find?_of_perm (h : table.IsAccepted) {custom : List CustomRule}
    (hperm : table.custom.Perm custom) (function : String) :
    find? ⟨custom⟩ function = table.find? function := by
  ext rule
  rw [(h.of_perm hperm).find?_eq_some_iff, h.find?_eq_some_iff, hperm.mem_iff]

/-- Rules are added to an accepted table exactly if the table with all of them is accepted. -/
theorem IsAccepted.foldlM_add_eq_ok_iff (h : table.IsAccepted) {rules : List CustomRule} :
    rules.foldlM RuleTable.add table = .ok added ↔
      added = ⟨table.custom ++ rules.map fun rule => .ofNames rule.function rule.template⟩ ∧
        added.IsAccepted := by
  constructor
  · intro hadd
    refine ⟨?_, h.foldlM_add hadd⟩
    induction rules generalizing table with
    | nil => simpa using (Except.ok.inj hadd).symm
    | cons rule rules ih =>
      rw [List.foldlM_cons, bind_eq_ok_iff] at hadd
      obtain ⟨next, hnext, hrest⟩ := hadd
      rw [ih (h.add hnext) hrest, (add_eq_ok_iff.1 hnext).2.2, List.append_assoc]
      rfl
  · rintro ⟨rfl, hadded⟩
    induction rules generalizing table with
    | nil =>
      rw [List.map_nil, List.append_nil]
      rfl
    | cons rule rules ih =>
      have hfront : IsAccepted ⟨table.custom ++ [.ofNames rule.function rule.template]⟩ :=
        hadded.of_sublist (by simp)
      have hnext : table.add rule =
          .ok ⟨table.custom ++ [.ofNames rule.function rule.template]⟩ := by
        refine add_eq_ok_iff.2 ⟨hfront.isAcceptable _ (by simp [CustomRule.ofNames]), ?_, rfl⟩
        have hnodup := hfront.nodup
        rw [List.map_append, List.map_singleton, List.nodup_append_comm, List.singleton_append,
          List.nodup_cons] at hnodup
        exact hnodup.1
      rw [List.map_cons, List.append_cons] at hadded ⊢
      rw [List.foldlM_cons, hnext]
      exact ih hfront hadded

theorem exists_ofRules_of_perm {rules reordered : List CustomRule}
    (h : ofRules rules = .ok table) (hperm : rules.Perm reordered) :
    ∃ other, ofRules reordered = .ok other ∧
      ∀ items, other.rewriteAll items = table.rewriteAll items := by
  obtain ⟨rfl, haccepted⟩ := isAccepted_empty.foldlM_add_eq_ok_iff.1 h
  have hcustom := (hperm.map fun rule => CustomRule.ofNames rule.function rule.template)
  refine ⟨_, isAccepted_empty.foldlM_add_eq_ok_iff.2
    ⟨rfl, haccepted.of_perm (hcustom.append_left _)⟩, fun items => ?_⟩
  exact List.map_congr_left fun item _ =>
    rewrite_congr fun function _ _ => haccepted.find?_of_perm (hcustom.append_left _) function

/-! ## Tables that are reached -/

/-- What is true of a table whatever rules were offered to it. -/
structure Conservative (table : RuleTable) : Prop where
  isAccepted : table.IsAccepted
  refused : ∀ {rule error after}, table.offer rule = (.error error, after) → after = table
  taken : ∀ {rule added}, table.offer rule = (.ok (), added) →
    added.Extends table (lowercase rule.function)

/-- Rules are kept apart from each other and from the fixed rules, a refused rule changes nothing, and a
rule that is added changes only what becomes of calls of its function, which were forwarded before.
Rules that make a table make it in every order. -/
theorem conservative_offerAll (offers : List CustomRule) :
    (empty.offerAll offers).Conservative ∧
      (∃ taken, taken.Sublist offers ∧ ofRules taken = .ok (empty.offerAll offers)) ∧
      ∀ {rules reordered table}, ofRules rules = .ok table → rules.Perm reordered →
        ∃ other, ofRules reordered = .ok other ∧
          ∀ items, other.rewriteAll items = table.rewriteAll items := by
  obtain ⟨taken, hsublist, htaken⟩ := exists_sublist_of_offerAll empty offers
  exact ⟨{
      isAccepted := isAccepted_ofRules htaken
      refused := fun hoffer => (offer_eq_error_iff.1 hoffer).2
      taken := fun hoffer => extends_of_add (offer_eq_ok_iff.1 hoffer) },
    ⟨taken, hsublist, htaken⟩, exists_ofRules_of_perm⟩

/-- A rule for sketches, under a name in capital letters. -/
def hllRule : CustomRule :=
  ⟨"HLL", "hll(\x7balias\x7d)"⟩

def avgRule : CustomRule :=
  ⟨"avg", "avg_merge(\x7balias\x7d)"⟩

/-- The second rule for sketches and the rule for sums are refused.  Averages are forwarded before there is
a rule for them. -/
theorem conservative_offerAll_hll :
    ∃ table added error,
      empty.offerAll [hllRule, ⟨"sum", "sum(\x7balias\x7d)"⟩, ⟨"hll", "f(\x7balias\x7d)"⟩] =
        table ∧
      table.custom = [⟨"hll", "hll(\x7balias\x7d)"⟩] ∧
      table.offer hllRule = (.error error, table) ∧ table.offer avgRule = (.ok (), added) ∧
      added.Extends table (lowercase "avg") ∧
      (table.rewrite ⟨.call "avg" [.column "price"], "mean"⟩).isForwarded = true ∧
      ∃ other, ofRules [avgRule, hllRule] = .ok other ∧
        ∀ items, other.rewriteAll items = added.rewriteAll items := by
  obtain ⟨hconservative, -, horder⟩ := conservative_offerAll
    [hllRule, ⟨"sum", "sum(\x7balias\x7d)"⟩, ⟨"hll", "f(\x7balias\x7d)"⟩]
  have htable : empty.offerAll
      [hllRule, ⟨"sum", "sum(\x7balias\x7d)"⟩, ⟨"hll", "f(\x7balias\x7d)"⟩] =
        ⟨[⟨"hll", "hll(\x7balias\x7d)"⟩]⟩ := by
    decide +kernel
  have hadded : ofRules [hllRule, avgRule] =
      .ok ⟨[⟨"hll", "hll(\x7balias\x7d)"⟩, avgRule]⟩ := by
    decide +kernel
  have htaken : offer ⟨[⟨"hll", "hll(\x7balias\x7d)"⟩]⟩ avgRule =
      (.ok (), ⟨[⟨"hll", "hll(\x7balias\x7d)"⟩, avgRule]⟩) :=
    offer_eq_ok_iff.2 (by decide +kernel)
  have hrefused : offer ⟨[⟨"hll", "hll(\x7balias\x7d)"⟩]⟩ hllRule =
      (.error (.ruleConflict "'hll' has more than one custom rule"),
        ⟨[⟨"hll", "hll(\x7balias\x7d)"⟩]⟩) :=
    offer_eq_error_iff.2 ⟨by decide +kernel, rfl⟩
  rw [htable] at hconservative
  exact ⟨_, _, _, htable, rfl, hrefused, htaken, hconservative.taken htaken, by decide +kernel,
    horder hadded (List.Perm.swap _ _ _)⟩

end RuleTable

end TimeRollup
