import TimeRollup.Proofs.Definition.Aliases
import TimeRollup.Proofs.Text.Lowercase
import TimeRollup.Rule.Table

/-!
# Accepted rule tables

A rule is added under a lower-case name that neither a fixed rule nor another custom rule has, with
a template that has a place for the alias.  All rules of a table that was accepted are of this
kind, so a custom rule never takes the place of a fixed one.
-/

namespace TimeRollup

open TimeRollup.Text

/-- The rule can be kept in a table: its function is a lower-case name of its own. -/
structure CustomRule.IsAcceptable (rule : CustomRule) : Prop where
  isIdentifier : Sql.isIdentifier rule.function.toList = true
  lowercase_function : lowercase rule.function = rule.function
  hasAliasPlace : occursIn Template.aliasPlace rule.template.toList = true
  notMem_fixedFunctions : rule.function ∉ fixedFunctions
  notMem_summaryFunctions : rule.function ∉ summaryFunctions

/-- A function without a rule of its own is rolled up by a custom rule or not at all. -/
theorem callShape_of_notMem {function : String} (hfixed : function ∉ fixedFunctions)
    (hsummary : function ∉ summaryFunctions) (args : List Expr) :
    Expr.callShape function args = .call function := by
  unfold Expr.callShape
  split
  all_goals first
    | exact absurd (by decide) hfixed
    | simp [hsummary]

namespace RuleTable

/-- Each rule can be kept, and no two are for the same function. -/
structure IsAccepted (table : RuleTable) : Prop where
  isAcceptable : ∀ rule ∈ table.custom, rule.IsAcceptable
  nodup : (table.custom.map CustomRule.function).Nodup

theorem add_eq_ok_iff {table added : RuleTable} {rule : CustomRule} :
    table.add rule = .ok added ↔
      (CustomRule.mk (lowercase rule.function) rule.template).IsAcceptable ∧
        lowercase rule.function ∉ table.custom.map CustomRule.function ∧
        added = ⟨table.custom ++ [⟨lowercase rule.function, rule.template⟩]⟩ := by
  have hlower : lowercase (lowercase rule.function) = lowercase rule.function := by
    simp [lowercase]
  have hnew : table.custom.any (·.function == lowercase rule.function) = true ↔
      lowercase rule.function ∈ table.custom.map CustomRule.function := by
    simp
  rw [add]
  constructor
  · intro h
    split_ifs at h with hname hplace hfixed hknown
    simp only [Bool.or_eq_true, List.contains_iff_mem, not_or] at hfixed
    exact ⟨⟨by simpa using hname, hlower, by simpa using hplace, hfixed.1, hfixed.2⟩,
      fun hmem => hknown (hnew.2 hmem), (Except.ok.inj h).symm⟩
  · rintro ⟨⟨hname, -, hplace, hfixed, hsummary⟩, hfresh, rfl⟩
    rw [if_neg (by simpa using hname), if_neg (by simpa using hplace),
      if_neg (by simp [hfixed, hsummary]), if_neg fun hknown => hfresh (hnew.1 hknown)]

theorem isAccepted_empty : IsAccepted empty :=
  ⟨by simp [empty], by simp [empty]⟩

theorem IsAccepted.add {table added : RuleTable} {rule : CustomRule} (h : table.IsAccepted)
    (hadd : table.add rule = .ok added) : added.IsAccepted := by
  obtain ⟨hacceptable, hfresh, rfl⟩ := add_eq_ok_iff.1 hadd
  refine ⟨?_, ?_⟩
  · intro other hother
    rcases List.mem_append.1 hother with hother | hother
    · exact h.isAcceptable other hother
    · rw [List.mem_singleton.1 hother]
      exact hacceptable
  · rw [List.map_append, List.map_singleton, List.nodup_append_comm, List.singleton_append,
      List.nodup_cons]
    exact ⟨hfresh, h.nodup⟩

theorem IsAccepted.foldlM_add {table added : RuleTable} {rules : List CustomRule}
    (h : table.IsAccepted) (hadd : rules.foldlM RuleTable.add table = .ok added) :
    added.IsAccepted := by
  induction rules generalizing table with
  | nil =>
    rw [List.foldlM_nil] at hadd
    rwa [← Except.ok.inj hadd]
  | cons rule rules ih =>
    rw [List.foldlM_cons, bind_eq_ok_iff] at hadd
    obtain ⟨next, hnext, hrest⟩ := hadd
    exact ih (h.add hnext) hrest

theorem isAccepted_ofRules {table : RuleTable} {rules : List CustomRule}
    (h : ofRules rules = .ok table) : table.IsAccepted :=
  isAccepted_empty.foldlM_add h

theorem IsAccepted.find?_eq_none {table : RuleTable} (h : table.IsAccepted) {function : String}
    (hfunction : function ∈ fixedFunctions) : table.find? function = none := by
  rw [find?, List.find?_eq_none]
  intro rule hrule hsame
  rw [beq_iff_eq] at hsame
  exact (h.isAcceptable rule hrule).notMem_fixedFunctions (hsame ▸ hfunction)

theorem IsAccepted.find?_eq_some {table : RuleTable} (h : table.IsAccepted) {rule : CustomRule}
    (hrule : rule ∈ table.custom) : table.find? rule.function = some rule :=
  find?_eq_some_of_nodup_map h.nodup hrule

/-- A call of the function of a custom rule is rolled up by that rule, if no place stays open. -/
theorem IsAccepted.rewrite_call {table : RuleTable} (h : table.IsAccepted) {rule : CustomRule}
    (hrule : rule ∈ table.custom) (args : List Expr) (aliasName : String) :
    table.rewrite ⟨.call rule.function args, aliasName⟩ =
      ((rule.coarser? aliasName args).map fun expr => Rewrite.rolled ⟨expr, aliasName⟩).getD
        (.forwarded ⟨.call rule.function args, aliasName⟩) := by
  have hacceptable := h.isAcceptable rule hrule
  have hshape : (SelectItem.mk (.call rule.function args) aliasName).shape = .call rule.function :=
    callShape_of_notMem hacceptable.notMem_fixedFunctions hacceptable.notMem_summaryFunctions args
  simp only [rewrite, hshape, h.find?_eq_some hrule]
  cases rule.coarser? aliasName args <;> rfl

end RuleTable

end TimeRollup
