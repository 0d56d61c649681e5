import TimeRollup.Chain.Builder

/-!
# The levels of a chain

What a builder makes of a definition, level by level and without its checks: the views over a given
view, and the warnings and notices that come with them.  A lenient builder fails only where a group key
is missing in the finest view, because aliases stay the same on the way up, and otherwise gives exactly
these levels.
-/

namespace TimeRollup

namespace RuleTable

/-- The select list of the view that reads a view with the given select list. -/
def coarserItems (table : RuleTable) (items : List SelectItem) : List SelectItem :=
  (table.rewriteAll items).map Rewrite.item

@[simp]
theorem coarserItems_nil (table : RuleTable) : table.coarserItems [] = [] :=
  rfl

@[simp]
theorem coarserItems_cons (table : RuleTable) (item : SelectItem) (items : List SelectItem) :
    table.coarserItems (item :: items) =
      (table.rewrite item).item :: table.coarserItems items :=
  rfl

theorem coarserItems_eq_map (table : RuleTable) (items : List SelectItem) :
    table.coarserItems items = items.map fun item => (table.rewrite item).item := by
  rw [coarserItems, rewriteAll, List.map_map]
  rfl

@[simp]
theorem map_aliasName_coarserItems (table : RuleTable) (items : List SelectItem) :
    (table.coarserItems items).map SelectItem.aliasName = items.map SelectItem.aliasName := by
  rw [coarserItems_eq_map, List.map_map]
  apply List.map_congr_left
  intro item _
  exact table.aliasName_rewrite item

/-- The warnings about the entries of a select list that no rule rolls up. -/
def forwardWarnings (table : RuleTable) (view : String) (items : List SelectItem) :
    List RewriteWarning :=
  ((table.rewriteAll items).filter Rewrite.isForwarded).map fun rewrite =>
    ChainBuilder.forwardedWarning view rewrite.item

theorem forwardWarnings_cons (table : RuleTable) (view : String) (item : SelectItem)
    (items : List SelectItem) :
    table.forwardWarnings view (item :: items) =
      if (table.rewrite item).isForwarded then
        ChainBuilder.forwardedWarning view (table.rewrite item).item ::
          table.forwardWarnings view items
      else table.forwardWarnings view items := by
  simp only [forwardWarnings, rewriteAll, List.map_cons, List.filter_cons]
  split <;> rfl

theorem forwardWarnings_eq_nil_iff {table : RuleTable} {view : String}
    {items : List SelectItem} :
    table.forwardWarnings view items = [] ↔
      ∀ item ∈ items, (table.rewrite item).isForwarded = false := by
  simp [forwardWarnings, rewriteAll]

end RuleTable

@[simp]
theorem Outcome.ofExcept_ok_bind {ε α β : Type} (value : α) (next : α → Outcome ε β) :
    Outcome.ofExcept (.ok value) >>= next = next value :=
  rfl

namespace ChainBuilder

variable {table : RuleTable} {definition : AggregateDefinition}

theorem build_of_ofList {granularities : List Granularity} {sequence : GranularitySequence}
    (hsequence : GranularitySequence.ofList granularities = .ok sequence)
    (builder : ChainBuilder) :
    builder.build definition granularities = builder.buildOver definition sequence := by
  rw [build, hsequence, Outcome.ofExcept_ok_bind]

theorem build_of_ofList_error {granularities : List Granularity} {error : RollupError}
    (hsequence : GranularitySequence.ofList granularities = .error error)
    (builder : ChainBuilder) :
    builder.build definition granularities = .fail error := by
  rw [build, hsequence]
  rfl

theorem checkGroupKeys_eq_ok_iff {groupKeys : List String} {view : View} :
    checkGroupKeys groupKeys view = .ok () ↔ ∀ key ∈ groupKeys, key ∈ view.aliases := by
  unfold checkGroupKeys
  split
  · rename_i column hfind
    have hmissing := List.find?_some hfind
    have hmem := List.mem_of_find?_eq_some hfind
    constructor
    · simp
    · intro hkeys
      simp [hkeys column hmem] at hmissing
  · rename_i hfind
    simpa using hfind

/-- The view over `finer`. -/
def nextView (table : RuleTable) (definition : AggregateDefinition) (finer : View)
    (granularity : Granularity) : View :=
  viewOver definition finer granularity (table.coarserItems finer.selectItems)

/-- The views over `finer`, each over the one before it. -/
def viewsOver (table : RuleTable) (definition : AggregateDefinition) (finer : View) :
    List Granularity → List View
  | [] => []
  | granularity :: granularities =>
    let view := nextView table definition finer granularity
    view :: viewsOver table definition view granularities

/-- The warnings about the views over `finer`. -/
def warningsOver (table : RuleTable) (definition : AggregateDefinition) (finer : View) :
    List Granularity → List RewriteWarning
  | [] => []
  | granularity :: granularities =>
    table.forwardWarnings (definition.tableName granularity) finer.selectItems ++
      warningsOver table definition (nextView table definition finer granularity) granularities

/-- The notices about the views over `finer`. -/
def noticesOver (table : RuleTable) (definition : AggregateDefinition) (finer : View) :
    List Granularity → List Notice
  | [] => []
  | granularity :: granularities =>
    let view := nextView table definition finer granularity
    (table.forwardWarnings (definition.tableName granularity) finer.selectItems).map .forwarded ++
      scheduleNotices finer view ++ noticesOver table definition view granularities

@[simp]
theorem aliases_nextView (finer : View) (granularity : Granularity) :
    (nextView table definition finer granularity).aliases = finer.aliases := by
  simp [nextView, viewOver, View.aliases]

theorem rewriteItems_lenient (view : String) (items : List SelectItem) :
    (ChainBuilder.mk table false).rewriteItems view items =
      ⟨(table.forwardWarnings view items).map .forwarded,
        .ok (table.coarserItems items, table.forwardWarnings view items)⟩ := by
  induction items with
  | nil => rfl
  | cons item items ih =>
    rw [rewriteItems, ih, RuleTable.forwardWarnings_cons, RuleTable.coarserItems_cons]
    cases table.rewrite item <;>
      simp [Outcome.notice, Rewrite.isForwarded, Rewrite.item]

theorem coarserView_lenient {finer : View}
    (hkeys : ∀ key ∈ definition.groupBy, key ∈ finer.aliases) (granularity : Granularity) :
    (ChainBuilder.mk table false).coarserView definition finer granularity =
      ⟨(table.forwardWarnings (definition.tableName granularity) finer.selectItems).map
          .forwarded ++
          scheduleNotices finer (nextView table definition finer granularity),
        .ok (nextView table definition finer granularity,
          table.forwardWarnings (definition.tableName granularity) finer.selectItems)⟩ := by
  rw [coarserView, checkGroupKeys_eq_ok_iff.2 hkeys, rewriteItems_lenient]
  simp [Outcome.ofExcept, Outcome.notice, nextView]

theorem coarserViews_of_missing {finer : View} {error : RollupError}
    (hmissing : checkGroupKeys definition.groupBy finer = .error error) (builder : ChainBuilder)
    (granularity : Granularity) (granularities : List Granularity) :
    builder.coarserViews definition finer (granularity :: granularities) = .fail error := by
  rw [coarserViews, coarserView, hmissing]
  rfl

/-- Once the group keys are among the aliases of a view, a lenient builder gets through all
levels over it. -/
theorem coarserViews_lenient {finer : View}
    (hkeys : ∀ key ∈ definition.groupBy, key ∈ finer.aliases)
    (granularities : List Granularity) :
    (ChainBuilder.mk table false).coarserViews definition finer granularities =
      ⟨noticesOver table definition finer granularities,
        .ok (viewsOver table definition finer granularities,
          warningsOver table definition finer granularities)⟩ := by
  induction granularities generalizing finer with
  | nil => rfl
  | cons granularity granularities ih =>
    have hnext : ∀ key ∈ definition.groupBy,
        key ∈ (nextView table definition finer granularity).aliases := by
      simpa using hkeys
    rw [coarserViews, coarserView_lenient hkeys]
    simp [ih hnext, viewsOver, warningsOver, noticesOver]

/-- The chain whose levels lie over the finest view of the sequence. -/
def chainOver (table : RuleTable) (definition : AggregateDefinition)
    (sequence : GranularitySequence) : Chain :=
  let finest := finestView definition sequence.finest
  ⟨definition, sequence, finest, viewsOver table definition finest sequence.toList.tail,
    warningsOver table definition finest sequence.toList.tail⟩

/-- What a lenient builder does once nothing is missing. -/
def lenientOutcome (table : RuleTable) (definition : AggregateDefinition)
    (sequence : GranularitySequence) : Outcome RollupError Chain :=
  ⟨planNotices definition sequence ++
      noticesOver table definition (finestView definition sequence.finest) sequence.toList.tail,
    .ok (chainOver table definition sequence)⟩

theorem buildOver_lenient (hkeys : ∀ key ∈ definition.groupBy, key ∈ definition.aliases)
    (sequence : GranularitySequence) :
    (ChainBuilder.mk table false).buildOver definition sequence =
      lenientOutcome table definition sequence := by
  have hfinest : ∀ key ∈ definition.groupBy,
      key ∈ (finestView definition sequence.finest).aliases := hkeys
  simp [buildOver, coarserViews_lenient hfinest, Outcome.notice, chainOver, lenientOutcome]

theorem buildOver_lenient_of_ok {sequence : GranularitySequence} {chain : Chain}
    (h : ((ChainBuilder.mk table false).buildOver definition sequence).result = .ok chain) :
    (ChainBuilder.mk table false).buildOver definition sequence =
      lenientOutcome table definition sequence := by
  cases htail : sequence.toList.tail with
  | nil =>
    simp [buildOver, htail, coarserViews, Outcome.notice, chainOver, lenientOutcome, viewsOver,
      warningsOver, noticesOver]
  | cons granularity granularities =>
    cases hcheck : checkGroupKeys definition.groupBy
        (finestView definition sequence.finest) with
    | error error =>
      simp [buildOver, htail, coarserViews_of_missing hcheck, Outcome.notice, Outcome.fail] at h
    | ok checked => exact buildOver_lenient (checkGroupKeys_eq_ok_iff.1 hcheck) sequence

theorem eq_chainOver_of_buildOver_lenient {sequence : GranularitySequence} {chain : Chain}
    (h : ((ChainBuilder.mk table false).buildOver definition sequence).result = .ok chain) :
    chain = chainOver table definition sequence := by
  rw [buildOver_lenient_of_ok h] at h
  exact (Except.ok.inj h).symm

end ChainBuilder

end TimeRollup
