import TimeRollup.Proofs.Chain.Columns

/-!
# Strict builders and the depth of a chain

An entry that a fixed rule rolls up is rolled up by a fixed rule at every coarser level as well.  A
custom rule promises no such thing: its template may be the call of a function without a rule,
which shows only when the view that has it is rolled up in turn.  So a strict build that gets past
the first coarser view can fail later for one reason only, an expansion of a custom rule that no
rule rolls up.
-/

namespace TimeRollup

namespace SelectItem

/-- Every rule table rolls the entry up by a fixed rule. -/
def HasFixedRule (item : SelectItem) : Prop :=
  (∀ function, item.shape ≠ .call function) ∧ item.shape ≠ .unrecognized

theorem HasFixedRule.isForwarded_rewrite {item : SelectItem} (h : item.HasFixedRule)
    (table : RuleTable) : (table.rewrite item).isForwarded = false := by
  unfold RuleTable.rewrite
  cases hshape : item.shape with
  | call function => exact absurd hshape (h.1 function)
  | unrecognized => exact absurd hshape h.2
  | _ => rfl

theorem HasFixedRule.not_expands {item : SelectItem} (h : item.HasFixedRule) {table : RuleTable}
    {expr : Expr} : ¬ table.Expands item expr := by
  rintro ⟨function, args, rule, hshape, -⟩
  exact h.1 function hshape

end SelectItem

namespace RuleTable

variable {table : RuleTable}

/-- What a fixed rule makes of an entry has a fixed rule again. -/
theorem RollsUp.expands_or_hasFixedRule {item : SelectItem} {expr : Expr}
    (h : table.RollsUp item expr) :
    table.Expands item expr ∨ SelectItem.HasFixedRule ⟨expr, item.aliasName⟩ := by
  cases h with
  | aggregate hfunction =>
    simp only [List.mem_cons, List.not_mem_nil, or_false] at hfunction
    rcases hfunction with rfl | rfl | rfl | rfl <;>
      exact .inr ⟨fun _ => Shape.noConfusion, Shape.noConfusion⟩
  | ordered hfunction =>
    simp only [List.mem_cons, List.not_mem_nil, or_false] at hfunction
    rcases hfunction with rfl | rfl <;>
      exact .inr ⟨fun _ => Shape.noConfusion, Shape.noConfusion⟩
  | column | constant => exact .inr ⟨fun _ => Shape.noConfusion, Shape.noConfusion⟩
  | expansion hexpands => exact .inl hexpands

theorem item_rewrite_of_expands {item : SelectItem} {expr : Expr}
    (h : table.Expands item expr) : (table.rewrite item).item = ⟨expr, item.aliasName⟩ := by
  rw [← expr_rewrite_of_expands h, ← table.aliasName_rewrite item]

theorem mem_iterate_coarserItems_succ {items : List SelectItem} {level : ℕ}
    {rewritten : SelectItem} :
    rewritten ∈ table.coarserItems^[level + 1] items ↔
      ∃ item ∈ table.coarserItems^[level] items, (table.rewrite item).item = rewritten := by
  rw [Function.iterate_succ_apply', coarserItems_eq_map, List.mem_map]

/-- Every entry that the select list has at the level is rolled up there. -/
def RollsUpAt (table : RuleTable) (items : List SelectItem) (level : ℕ) : Prop :=
  ∀ item ∈ table.coarserItems^[level] items, (table.rewrite item).isForwarded = false

/-- Every expansion of a custom rule at the level is rolled up at the next one. -/
def ExpansionsRollUpAt (table : RuleTable) (items : List SelectItem) (level : ℕ) : Prop :=
  ∀ item ∈ table.coarserItems^[level] items, ∀ expr, table.Expands item expr →
    (table.rewrite ⟨expr, item.aliasName⟩).isForwarded = false

theorem expansionsRollUpAt_of_rollsUpAt_succ {items : List SelectItem} {level : ℕ}
    (h : table.RollsUpAt items (level + 1)) : table.ExpansionsRollUpAt items level := by
  intro item hitem expr hexpands
  rw [← item_rewrite_of_expands hexpands]
  exact h _ (mem_iterate_coarserItems_succ.2 ⟨item, hitem, rfl⟩)

theorem rollsUpAt_succ {items : List SelectItem} {level : ℕ} (h : table.RollsUpAt items level)
    (hexpansions : table.ExpansionsRollUpAt items level) :
    table.RollsUpAt items (level + 1) := by
  intro rewritten hrewritten
  obtain ⟨item, hitem, rfl⟩ := mem_iterate_coarserItems_succ.1 hrewritten
  have hentry : (table.rewrite item).item = ⟨(table.rewrite item).item.expr, item.aliasName⟩ := by
    rw [← table.aliasName_rewrite item]
  rw [hentry]
  rcases (rollsUp_of_not_forwarded (h item hitem)).expands_or_hasFixedRule with
    hexpands | hfixed
  · exact hexpansions item hitem _ hexpands
  · exact hfixed.isForwarded_rewrite table

/-- From the first level on, only an expansion can stop the select list from being rolled up. -/
theorem rollsUpAt_of_expansions {items : List SelectItem} {levels : ℕ}
    (hfirst : table.RollsUpAt items 0)
    (hexpansions : ∀ level < levels, table.ExpansionsRollUpAt items level) :
    ∀ level ≤ levels, table.RollsUpAt items level := by
  intro level hlevel
  induction level with
  | zero => exact hfirst
  | succ level ih =>
    exact rollsUpAt_succ (ih (Nat.le_of_succ_le hlevel)) (hexpansions level hlevel)

/-- A select list without an entry for a custom rule has none at any level. -/
theorem not_expands_of_level {items : List SelectItem} (hfirst : table.RollsUpAt items 0)
    (hnone : ∀ item ∈ items, ∀ expr, ¬ table.Expands item expr) (level : ℕ) :
    table.RollsUpAt items level ∧
      ∀ item ∈ table.coarserItems^[level] items, ∀ expr, ¬ table.Expands item expr := by
  induction level with
  | zero => exact ⟨hfirst, hnone⟩
  | succ level ih =>
    obtain ⟨hrolls, hlevel⟩ := ih
    refine ⟨rollsUpAt_succ hrolls fun item hitem expr hexpands =>
      absurd hexpands (hlevel item hitem expr), ?_⟩
    intro rewritten hrewritten expr
    obtain ⟨item, hitem, rfl⟩ := mem_iterate_coarserItems_succ.1 hrewritten
    have hrolled := rollsUp_of_not_forwarded (hrolls item hitem)
    have hfixed := hrolled.expands_or_hasFixedRule.resolve_left (hlevel item hitem _)
    rw [← table.aliasName_rewrite item] at hfixed
    exact hfixed.not_expands

end RuleTable

namespace ChainBuilder

variable {table : RuleTable} {definition : AggregateDefinition}

/-- There is no warning about the views over a view exactly if its select list is rolled up at each
level below the last. -/
theorem warningsOver_eq_nil_iff {finer : View} {granularities : List Granularity} :
    warningsOver table definition finer granularities = [] ↔
      ∀ level < granularities.length, table.RollsUpAt finer.selectItems level := by
  induction granularities generalizing finer with
  | nil => simp [warningsOver]
  | cons granularity granularities ih =>
    rw [warningsOver, List.append_eq_nil_iff, ih, RuleTable.forwardWarnings_eq_nil_iff,
      List.length_cons, Nat.forall_lt_succ_left]
    rfl

theorem mem_aliases_of_buildOver {sequence : GranularitySequence} {chain : Chain}
    (htail : sequence.toList.tail ≠ [])
    (h : ((ChainBuilder.mk table false).buildOver definition sequence).result = .ok chain) :
    ∀ key ∈ definition.groupBy, key ∈ definition.aliases := by
  obtain ⟨granularity, granularities, htail⟩ := List.exists_cons_of_ne_nil htail
  cases hcheck : checkGroupKeys definition.groupBy (finestView definition sequence.finest) with
  | error error =>
    simp [buildOver, htail, coarserViews_of_missing hcheck, Outcome.notice, Outcome.fail] at h
  | ok checked => exact checkGroupKeys_eq_ok_iff.1 hcheck

theorem result_build_strict_eq_ok_iff {granularities : List Granularity}
    {sequence : GranularitySequence} {chain : Chain}
    (hsequence : GranularitySequence.ofList granularities = .ok sequence) :
    ((ChainBuilder.mk table true).build definition granularities).result = .ok chain ↔
      ((ChainBuilder.mk table false).buildOver definition sequence).result = .ok chain ∧
        chain.warnings = [] := by
  rw [build_of_ofList hsequence, buildOver_strict, Outcome.result_promote_eq_ok_iff]

/-- With all group keys selected, a strict build fails over the select list only. -/
theorem exists_build_strict_iff (hkeys : ∀ key ∈ definition.groupBy, key ∈ definition.aliases)
    {finest : Granularity} {coarser : List Granularity} {sequence : GranularitySequence}
    (hsequence : GranularitySequence.ofList (finest :: coarser) = .ok sequence) :
    (∃ chain, ((ChainBuilder.mk table true).build definition (finest :: coarser)).result =
        .ok chain) ↔
      ∀ level < coarser.length, table.RollsUpAt definition.selectItems level := by
  have hlist := GranularitySequence.toList_of_ofList hsequence
  have hwarnings : (chainOver table definition sequence).warnings = [] ↔
      ∀ level < coarser.length, table.RollsUpAt definition.selectItems level := by
    rw [chainOver, hlist]
    exact warningsOver_eq_nil_iff
  rw [← hwarnings]
  simp only [result_build_strict_eq_ok_iff hsequence, buildOver_lenient hkeys, lenientOutcome]
  constructor
  · rintro ⟨chain, hchain, hnone⟩
    rw [Except.ok.inj hchain]
    exact hnone
  · intro hnone
    exact ⟨_, rfl, hnone⟩

/-- Once a strict build succeeds over the two finest bucket widths, it succeeds over more of them
exactly if whatever custom rules put into a view below the coarsest is rolled up in turn.  So it
always succeeds if no custom rule applies to the definition. -/
theorem exists_build_strict_deeper_iff {finest next : Granularity} {deeper : List Granularity}
    {sequence : GranularitySequence} {short : Chain}
    (hsequence : GranularitySequence.ofList (finest :: next :: deeper) = .ok sequence)
    (hshort : ((ChainBuilder.mk table true).build definition [finest, next]).result =
      .ok short) :
    ((∃ chain, ((ChainBuilder.mk table true).build definition
          (finest :: next :: deeper)).result = .ok chain) ↔
        ∀ level < deeper.length, table.ExpansionsRollUpAt definition.selectItems level) ∧
      ((∀ item ∈ definition.selectItems, ∀ expr, ¬ table.Expands item expr) →
        ∃ chain, ((ChainBuilder.mk table true).build definition
          (finest :: next :: deeper)).result = .ok chain) := by
  obtain ⟨pair, hpair, -, -⟩ := exists_of_build hshort
  have htail : pair.toList.tail ≠ [] := by
    simp [GranularitySequence.toList_of_ofList hpair]
  have hkeys := mem_aliases_of_buildOver htail
    ((result_build_strict_eq_ok_iff hpair).1 hshort).1
  have hfirst : table.RollsUpAt definition.selectItems 0 :=
    (exists_build_strict_iff hkeys hpair).1 ⟨short, hshort⟩ 0 Nat.one_pos
  rw [exists_build_strict_iff hkeys hsequence, List.length_cons]
  refine ⟨⟨?_, ?_⟩, ?_⟩
  · intro hrolls level hlevel
    exact RuleTable.expansionsRollUpAt_of_rollsUpAt_succ
      (hrolls (level + 1) (Nat.succ_lt_succ hlevel))
  · intro hexpansions level hlevel
    exact RuleTable.rollsUpAt_of_expansions hfirst hexpansions level (Nat.le_of_lt_succ hlevel)
  · intro hnone level _
    exact (RuleTable.not_expands_of_level hfirst hnone level).1

/-- Visits with a sketch of the users and their number. -/
def visitors : AggregateDefinition where
  name := "visits"
  relation := "events"
  timeColumn := "ts"
  selectItems := [⟨.call "hll" [.column "user_id"], "visitors"⟩, ⟨.call "count" [.star], "total"⟩]
  groupBy := []
  filter := none
  refreshPlan := .empty

/-- Sketches are united, and unions in turn. -/
def unionRules : RuleTable :=
  ⟨[⟨"hll", "hll_union_agg(\x7balias\x7d)"⟩, ⟨"hll_union_agg", "hll_union_agg(\x7balias\x7d)"⟩]⟩

theorem exists_build_strict_visitors :
    ∃ short, ((ChainBuilder.mk unionRules true).build visitors [.minute, .hour]).result =
        .ok short ∧
      ((∃ chain, ((ChainBuilder.mk unionRules true).build visitors
            [.minute, .hour, .day, .month]).result = .ok chain) ↔
          ∀ level < [Granularity.day, .month].length,
            unionRules.ExpansionsRollUpAt visitors.selectItems level) ∧
      ((∀ item ∈ visitors.selectItems, ∀ expr, ¬ unionRules.Expands item expr) →
        ∃ chain, ((ChainBuilder.mk unionRules true).build visitors
          [.minute, .hour, .day, .month]).result = .ok chain) :=
  ⟨_, rfl, @exists_build_strict_deeper_iff unionRules visitors .minute .hour [.day, .month] _ _
    rfl rfl⟩

/-- Sketches are united, but there is no rule for unions. -/
def sketchRules : RuleTable :=
  ⟨[⟨"hll", "hll_union_agg(\x7balias\x7d)"⟩]⟩

/-- Without a rule for unions the strict build over two bucket widths succeeds, and the one over
three stops at the union that the third view would have to roll up. -/
theorem build_strict_visitors_day :
    RuleTable.ofRules sketchRules.custom = .ok sketchRules ∧
      Draft.build ⟨"visits", "events", "ts",
        [.sql "hll(user_id) as visitors", .sql "count(*) as total"], [], none, .empty⟩ =
          .ok visitors ∧
      (∃ sequence, GranularitySequence.ofList [.minute, .hour, .day] = .ok sequence) ∧
      (∃ short, ((ChainBuilder.mk sketchRules true).build visitors [.minute, .hour]).result =
        .ok short) ∧
      ((ChainBuilder.mk sketchRules true).build visitors [.minute, .hour, .day]).result =
        .error (.rewriteAmbiguity "visits_per_day" "visitors" "hll_union_agg(visitors)") :=
  ⟨rfl, rfl, ⟨_, rfl⟩, ⟨_, rfl⟩, by decide +kernel⟩

end ChainBuilder

end TimeRollup
