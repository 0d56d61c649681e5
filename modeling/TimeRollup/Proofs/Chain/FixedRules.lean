import TimeRollup.Proofs.Chain.Depth

/-!
# Chains under the fixed rules

What a fixed rule makes of an entry is an entry that the fixed rules make the same of again, and what they
do not roll up they leave alone.  So without custom rules a chain repeats itself from its second view on:
the select list stays the same, and so do the warnings but for the name of the view.
-/

namespace TimeRollup

namespace SelectItem

/-- What a fixed rule makes of an entry, it makes of that again. -/
theorem HasFixedRule.rewrite_item_rewrite {item : SelectItem} (h : item.HasFixedRule)
    (table : RuleTable) : table.rewrite (table.rewrite item).item = table.rewrite item := by
  unfold RuleTable.rewrite
  cases hshape : item.shape with
  | call function => exact absurd hshape (h.1 function)
  | unrecognized => exact absurd hshape h.2
  | constant => simp only [Rewrite.item, hshape]
  | _ => rfl

end SelectItem

namespace RuleTable

theorem rewrite_empty_of_not_hasFixedRule {item : SelectItem} (h : ¬ item.HasFixedRule) :
    empty.rewrite item = .forwarded item := by
  unfold rewrite
  cases hshape : item.shape with
  | call function =>
    cases item.expr <;> rfl
  | unrecognized => rfl
  | _ => exact absurd ⟨by simp [hshape], by simp [hshape]⟩ h

theorem rewrite_empty_item_rewrite_empty (item : SelectItem) :
    empty.rewrite (empty.rewrite item).item = empty.rewrite item := by
  by_cases hfixed : item.HasFixedRule
  · exact hfixed.rewrite_item_rewrite empty
  · rw [rewrite_empty_of_not_hasFixedRule hfixed]
    exact rewrite_empty_of_not_hasFixedRule hfixed

theorem rewriteAll_empty_coarserItems (items : List SelectItem) :
    empty.rewriteAll (empty.coarserItems items) = empty.rewriteAll items := by
  rw [coarserItems_eq_map, rewriteAll, List.map_map]
  apply List.map_congr_left
  intro item _
  exact rewrite_empty_item_rewrite_empty item

/-- The aliases and the texts of the entries that no rule rolls up. -/
def forwardedTexts (table : RuleTable) (items : List SelectItem) : List (String × String) :=
  ((table.rewriteAll items).filter Rewrite.isForwarded).map fun rewrite =>
    (rewrite.item.aliasName, rewrite.item.expr.text)

theorem forwardWarnings_eq_map (table : RuleTable) (view : String) (items : List SelectItem) :
    table.forwardWarnings view items =
      (table.forwardedTexts items).map fun text => ⟨view, text.1, text.2⟩ := by
  rw [forwardWarnings, forwardedTexts, List.map_map]
  rfl

end RuleTable

namespace ChainBuilder

variable {definition : AggregateDefinition} {finer view : View}

theorem selectItems_of_mem_viewsOver_empty {granularities : List Granularity}
    (hview : view ∈ viewsOver .empty definition finer granularities) :
    view.selectItems = RuleTable.empty.coarserItems finer.selectItems := by
  induction granularities generalizing finer with
  | nil => simp [viewsOver] at hview
  | cons granularity granularities ih =>
    rcases List.mem_cons.1 hview with rfl | hlater
    · rfl
    · rw [ih hlater]
      exact congrArg (List.map Rewrite.item)
        (RuleTable.rewriteAll_empty_coarserItems finer.selectItems)

theorem warningsOver_empty (finer : View) (granularities : List Granularity) :
    warningsOver .empty definition finer granularities =
      (viewsOver .empty definition finer granularities).flatMap fun view =>
        RuleTable.empty.forwardWarnings view.tableName finer.selectItems := by
  induction granularities generalizing finer with
  | nil => rfl
  | cons granularity granularities ih =>
    rw [warningsOver, viewsOver, List.flatMap_cons, ih]
    simp only [RuleTable.forwardWarnings, nextView, viewOver,
      RuleTable.rewriteAll_empty_coarserItems]

end ChainBuilder

/-- From its second view on, the chain has the same select list and the same warnings in every view. -/
structure Chain.Repeats (chain : Chain) (items : List SelectItem) (texts : List (String × String)) :
    Prop where
  selectItems : ∀ view ∈ chain.coarser, view.selectItems = items
  /-- Each view warns about the same entries under its own name, finest view first. -/
  warnings : chain.warnings = chain.coarser.flatMap fun view =>
    texts.map fun text => ⟨view.tableName, text.1, text.2⟩
  warnings_texts : chain.warnings.map (fun warning => (warning.aliasName, warning.expression)) =
    (List.replicate (chain.length - 1) texts).flatten

theorem Chain.repeats_of_warnings {chain : Chain} {items : List SelectItem}
    {texts : List (String × String)} (hitems : ∀ view ∈ chain.coarser, view.selectItems = items)
    (hwarnings : chain.warnings = chain.coarser.flatMap fun view =>
      texts.map fun text => ⟨view.tableName, text.1, text.2⟩) : chain.Repeats items texts where
  selectItems := hitems
  warnings := hwarnings
  warnings_texts := by
    have hlength : chain.length - 1 = chain.coarser.length := by
      rw [Chain.length, Chain.views, List.length_cons, Nat.add_sub_cancel]
    have htexts (view : View) :
        (texts.map fun text => (⟨view.tableName, text.1, text.2⟩ : RewriteWarning)).map
          (fun warning => (warning.aliasName, warning.expression)) = texts := by
      rw [List.map_map]
      exact List.map_id texts
    rw [hwarnings, List.map_flatMap, hlength]
    simp only [htexts]
    rw [← List.map_const', List.flatMap_def]

namespace ChainBuilder

theorem repeats_chainOver (definition : AggregateDefinition) (sequence : GranularitySequence) :
    (chainOver .empty definition sequence).Repeats
      (RuleTable.empty.coarserItems definition.selectItems)
      (RuleTable.empty.forwardedTexts definition.selectItems) := by
  apply Chain.repeats_of_warnings
  · intro view hview
    exact selectItems_of_mem_viewsOver_empty hview
  · have hwarnings := @warningsOver_empty definition
      (finestView definition sequence.finest) sequence.toList.tail
    simp only [RuleTable.forwardWarnings_eq_map] at hwarnings
    exact hwarnings

/-- Rewriting by the fixed rules changes nothing the second time, neither an entry nor what becomes of it,
and so a chain that is built by them repeats itself. -/
theorem repeats_of_fixedRules :
    (∀ items, RuleTable.empty.rewriteAll ((RuleTable.empty.rewriteAll items).map Rewrite.item) =
      RuleTable.empty.rewriteAll items) ∧
    ∀ (strict : Bool) (definition : AggregateDefinition) (granularities : List Granularity)
      (chain : Chain),
      ((ChainBuilder.mk .empty strict).build definition granularities).result = .ok chain →
        chain.Repeats (RuleTable.empty.coarserItems definition.selectItems)
          (RuleTable.empty.forwardedTexts definition.selectItems) := by
  refine ⟨RuleTable.rewriteAll_empty_coarserItems, ?_⟩
  intro strict definition granularities chain h
  obtain ⟨sequence, -, rfl, -⟩ := exists_of_build h
  exact repeats_chainOver definition sequence

/-- Ticks with a summary, an opening price by an order of its own, and two entries without a rule. -/
def priceTicks : AggregateDefinition where
  name := "ticks"
  relation := "trades"
  timeColumn := "ts"
  selectItems :=
    [⟨.call "stats_agg" [.column "price"], "price"⟩,
      ⟨.call "first" [.column "price", .call "coalesce" [.column "ts", .raw "now()::date"]], "open"⟩,
      ⟨.call "count" [.raw "DISTINCT trader"], "traders"⟩, ⟨.raw "price * 2", "double"⟩]
  groupBy := []
  filter := none
  refreshPlan := ⟨[]⟩

theorem repeats_of_fixedRules_priceTicks :
    ∃ chain, ((ChainBuilder.mk .empty false).build priceTicks [.minute, .hour, .day]).result =
        .ok chain ∧
      chain.Repeats
        [⟨.call "rollup" [.column "price"], "price"⟩,
          ⟨.call "first" [.column "open", .call "coalesce" [.column "ts", .raw "now()::date"]],
            "open"⟩,
          ⟨.call "count" [.raw "DISTINCT trader"], "traders"⟩, ⟨.raw "price * 2", "double"⟩]
        [("traders", "count(DISTINCT trader)"), ("double", "price * 2")] := by
  refine ⟨_, rfl, ?_⟩
  have htexts : RuleTable.empty.forwardedTexts priceTicks.selectItems =
      [("traders", "count(DISTINCT trader)"), ("double", "price * 2")] := by
    decide +kernel
  rw [← htexts]
  exact repeats_of_fixedRules.2 false priceTicks [.minute, .hour, .day] _ rfl

end ChainBuilder

end TimeRollup
