import TimeRollup.Proofs.Chain.Strictness
import TimeRollup.Proofs.Definition.Aliases
import Mathlib.Data.List.Nodup
import Mathlib.Logic.Function.Iterate

/-!
# The structure of a built chain

Each view of a chain is derived from the view one step finer, so what holds of the finest view and is
kept by one step holds of the whole chain.  Aliases, the time column and the group keys never change,
the select list is rewritten once more at each step, and the row filter stays with the finest view.
-/

namespace TimeRollup

/-- What the definition fixes about the view at a level, the finest being at level zero. -/
structure IsLevel (table : RuleTable) (definition : AggregateDefinition) (level : ℕ)
    (view : View) : Prop where
  tableName : view.tableName = definition.name ++ "_per_" ++ view.granularity.name
  timeColumn : view.timeColumn = definition.timeColumn
  groupKeys : view.groupKeys = definition.groupBy
  aliases : view.aliases = definition.aliases
  selectItems : view.selectItems = table.coarserItems^[level] definition.selectItems
  refreshPolicy : view.refreshPolicy = definition.refreshPlan.get? view.granularity

namespace ChainBuilder

variable {table : RuleTable} {definition : AggregateDefinition}

theorem isLevel_finestView (granularity : Granularity) :
    IsLevel table definition 0 (finestView definition granularity) where
  tableName := rfl
  timeColumn := rfl
  groupKeys := rfl
  aliases := rfl
  selectItems := rfl
  refreshPolicy := rfl

theorem isLevel_nextView {level : ℕ} {finer : View} (hfiner : IsLevel table definition level finer)
    (granularity : Granularity) :
    IsLevel table definition (level + 1) (nextView table definition finer granularity) where
  tableName := rfl
  timeColumn := rfl
  groupKeys := rfl
  aliases := by rw [aliases_nextView, hfiner.aliases]
  selectItems := by
    rw [Function.iterate_succ_apply', ← hfiner.selectItems]
    rfl
  refreshPolicy := rfl

theorem map_granularity_viewsOver (finer : View) (granularities : List Granularity) :
    (viewsOver table definition finer granularities).map View.granularity = granularities := by
  induction granularities generalizing finer with
  | nil => rfl
  | cons granularity granularities ih =>
    rw [viewsOver, List.map_cons, ih]
    rfl

/-- Of two neighbours among the views, the second is the one over the first, and the warnings about it
are among those about the chain. -/
theorem neighbours_of_getElem? {finer view next : View} {granularities : List Granularity}
    {index : ℕ}
    (hview : (finer :: viewsOver table definition finer granularities)[index]? = some view)
    (hnext : (finer :: viewsOver table definition finer granularities)[index + 1]? =
      some next) :
    next = nextView table definition view next.granularity ∧
      table.forwardWarnings next.tableName view.selectItems ⊆
        warningsOver table definition finer granularities := by
  induction granularities generalizing finer index with
  | nil => simp [viewsOver] at hnext
  | cons granularity granularities ih =>
    rw [viewsOver] at hview hnext
    rw [warningsOver]
    cases index with
    | zero =>
      simp only [List.getElem?_cons_zero, Option.some.injEq, List.getElem?_cons_succ] at hview hnext
      rw [← hnext, ← hview]
      exact ⟨rfl, List.subset_append_left _ _⟩
    | succ index =>
      rw [List.getElem?_cons_succ] at hview hnext
      have hlater := ih hview hnext
      exact ⟨hlater.1, fun _ hmem => List.mem_append_right _ (hlater.2 hmem)⟩

theorem exists_getElem?_of_succ {views : List View} {index : ℕ} {view : View}
    (hview : views[index + 1]? = some view) : ∃ below, views[index]? = some below := by
  have hlength := (List.getElem?_eq_some_iff.1 hview).1
  exact ⟨_, List.getElem?_eq_getElem (Nat.lt_of_succ_lt hlength)⟩

theorem isLevel_of_getElem? {finer view : View} {granularities : List Granularity} {index : ℕ}
    (hfinest : IsLevel table definition 0 finer)
    (hview : (finer :: viewsOver table definition finer granularities)[index]? = some view) :
    IsLevel table definition index view := by
  induction index generalizing view with
  | zero =>
    simp only [List.getElem?_cons_zero, Option.some.injEq] at hview
    exact hview ▸ hfinest
  | succ index ih =>
    obtain ⟨below, hbelow⟩ := exists_getElem?_of_succ hview
    rw [(neighbours_of_getElem? hbelow hview).1]
    exact isLevel_nextView (ih hbelow) _

theorem map_granularity_views_chainOver (sequence : GranularitySequence) :
    (chainOver table definition sequence).views.map View.granularity = sequence.toList := by
  rw [Chain.views, chainOver, List.map_cons, map_granularity_viewsOver]
  exact List.cons_head_tail sequence.ne_nil

end ChainBuilder

namespace Chain

/-- The second view comes right after the first. -/
def Neighbours (chain : Chain) (finer view : View) : Prop :=
  ∃ level, chain.views[level]? = some finer ∧ chain.views[level + 1]? = some view

/-- With one view for each bucket width, looking up a bucket width finds the view that has it. -/
theorem view?_eq_some_iff {chain : Chain} (hnodup : (chain.views.map View.granularity).Nodup)
    {granularity : Granularity} {view : View} :
    chain.view? granularity = some view ↔
      view ∈ chain.views ∧ view.granularity = granularity := by
  constructor
  · intro h
    exact ⟨List.mem_of_find?_eq_some h, granularity_of_view? h⟩
  · rintro ⟨hmem, rfl⟩
    exact find?_eq_some_of_nodup_map hnodup hmem

/-- What a chain is, as a function of the definition, the rules and the bucket widths. -/
structure DerivesFrom (chain : Chain) (table : RuleTable) (definition : AggregateDefinition)
    (granularities : List Granularity) : Prop where
  definition_eq : chain.definition = definition
  /-- There is one view for each bucket width, in the given order. -/
  granularities_eq : chain.views.map View.granularity = granularities
  finestSource : chain.finest.source = .relation definition.relation
  finestFilter : chain.finest.filter = definition.filter
  /-- Each other view reads the view before it, all of its rows. -/
  reads : ∀ {finer view}, chain.Neighbours finer view →
    view.source = .view finer.granularity finer.tableName ∧ view.filter = none
  levels : ∀ {level view}, chain.views[level]? = some view → IsLevel table definition level view
  /-- Looking up a bucket width of the chain finds its only view of that width. -/
  lookup : ∀ {granularity view}, chain.view? granularity = some view ↔
    view ∈ chain.views ∧ view.granularity = granularity
  lookup_isSome : ∀ {granularity}, (chain.view? granularity).isSome ↔
    granularity ∈ granularities

end Chain

namespace ChainBuilder

theorem neighbours_chainOver {table : RuleTable} {definition : AggregateDefinition}
    {sequence : GranularitySequence} {finer view : View}
    (h : (chainOver table definition sequence).Neighbours finer view) :
    view = nextView table definition finer view.granularity ∧
      table.forwardWarnings view.tableName finer.selectItems ⊆
        (chainOver table definition sequence).warnings := by
  obtain ⟨level, hfiner, hview⟩ := h
  exact neighbours_of_getElem? hfiner hview

theorem isLevel_of_build {builder : ChainBuilder} {definition : AggregateDefinition}
    {granularities : List Granularity} {chain : Chain}
    (h : (builder.build definition granularities).result = .ok chain) {level : ℕ} {view : View}
    (hview : chain.views[level]? = some view) :
    IsLevel builder.rules definition level view := by
  obtain ⟨sequence, -, rfl, -⟩ := exists_of_build h
  exact isLevel_of_getElem? (isLevel_finestView _) hview

/-- Every chain that is built, by whatever rules and from whatever definition, derives from it. -/
theorem derivesFrom_of_build {builder : ChainBuilder} {definition : AggregateDefinition}
    {granularities : List Granularity} {chain : Chain}
    (h : (builder.build definition granularities).result = .ok chain) :
    chain.DerivesFrom builder.rules definition granularities := by
  obtain ⟨sequence, hsequence, rfl, -⟩ := exists_of_build h
  have hgranularities : (chainOver builder.rules definition sequence).views.map
      View.granularity = sequence.toList := map_granularity_views_chainOver sequence
  have hlist := GranularitySequence.toList_of_ofList hsequence
  have hlookup : ∀ {granularity view},
      (chainOver builder.rules definition sequence).view? granularity = some view ↔
        view ∈ (chainOver builder.rules definition sequence).views ∧
          view.granularity = granularity :=
    Chain.view?_eq_some_iff (hgranularities ▸ sequence.nodup)
  exact {
    definition_eq := rfl
    granularities_eq := hgranularities.trans hlist
    finestSource := rfl
    finestFilter := rfl
    reads := fun hneighbours => by
      rw [(neighbours_chainOver hneighbours).1]
      exact ⟨rfl, rfl⟩
    levels := isLevel_of_getElem? (isLevel_finestView _)
    lookup := hlookup
    lookup_isSome := by
      intro granularity
      rw [← hlist, ← hgranularities, List.mem_map, Option.isSome_iff_exists]
      simp only [hlookup] }

/-- Trades by symbol, rolled up with a sketch of the traders. -/
def trades : AggregateDefinition where
  name := "ticks"
  relation := "trades"
  timeColumn := "ts"
  selectItems :=
    [⟨.column "symbol", "symbol"⟩, ⟨.call "count" [.star], "total"⟩,
      ⟨.call "first" [.column "price", .column "ts"], "open"⟩,
      ⟨.call "hll" [.column "trader"], "traders"⟩]
  groupBy := ["symbol"]
  filter := some "price > 0"
  refreshPlan := ⟨[(.hour, ⟨none, none, .ofGranularity .minute⟩)]⟩

theorem derivesFrom_trades :
    ∃ chain, ((ChainBuilder.mk ⟨[⟨"hll", "hll(\x7balias\x7d)"⟩]⟩ true).build trades
        [.minute, .hour, .day]).result = .ok chain ∧
      chain.DerivesFrom ⟨[⟨"hll", "hll(\x7balias\x7d)"⟩]⟩ trades [.minute, .hour, .day] :=
  ⟨_, rfl, @derivesFrom_of_build ⟨_, true⟩ _ [.minute, .hour, .day] _ rfl⟩

end ChainBuilder

end TimeRollup
