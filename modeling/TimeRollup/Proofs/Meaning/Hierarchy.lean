import TimeRollup.Proofs.Chain.Strictness
import TimeRollup.Proofs.Meaning.Tables

/-!
# Rolling up keeps the meaning

Along the chain of a standard definition every view has the rows that the definition's own select list
makes of the raw rows at the bucket width of the view.  The finest view does so by definition, and from
there on each view makes the rows of its width from those of the width before it.
-/

namespace TimeRollup

namespace RuleTable

theorem coarserItems_coarserItems {rules : RuleTable} {timeColumn : String} {keys : List String}
    {items : List SelectItem} (hitems : ∀ item ∈ items, item.Standard timeColumn keys) :
    rules.coarserItems (rules.coarserItems items) = rules.coarserItems items := by
  rw [coarserItems_eq_map, coarserItems_eq_map, List.map_map]
  apply List.map_congr_left
  intro item hitem
  exact (hitems item hitem).rewrite_rewrite rules

theorem standard_coarserItems {rules : RuleTable} {timeColumn : String} {keys : List String}
    {items : List SelectItem} (hitems : ∀ item ∈ items, item.Standard timeColumn keys) :
    ∀ item ∈ rules.coarserItems items, item.Standard timeColumn keys := by
  rw [coarserItems_eq_map, List.forall_mem_map]
  intro item hitem
  exact (hitems item hitem).rewrite rules

theorem forwardWarnings_of_standard {rules : RuleTable} {timeColumn : String} {keys : List String}
    {items : List SelectItem} (hitems : ∀ item ∈ items, item.Standard timeColumn keys)
    (view : String) : rules.forwardWarnings view items = [] := by
  rw [forwardWarnings_eq_nil_iff]
  intro item hitem
  exact (hitems item hitem).isForwarded_rewrite rules

end RuleTable

namespace Engine

theorem Nests.tail {engine : Engine} {granularity : Granularity}
    {granularities : List Granularity} (h : engine.Nests (granularity :: granularities)) :
    engine.Nests granularities where
  monotone coarser hmem := h.monotone coarser (List.mem_cons_of_mem _ hmem)
  nested := h.nested.of_cons

theorem filter_accepts_none (engine : Engine) (rows : List Row) :
    rows.filter (engine.accepts none) = rows :=
  List.filter_true rows

end Engine

theorem tables?_cons {engine : Engine} {source rows : List Row} {view : View} {views : List View}
    {tables : List (List Row)} (hrows : view.rows? engine source = some rows)
    (htables : tables? engine rows views = some tables) :
    tables? engine source (view :: views) = some (rows :: tables) := by
  rw [tables?, hrows, Option.bind_eq_bind, Option.bind_some, htables]
  rfl

namespace ChainBuilder

variable {rules : RuleTable} {definition : AggregateDefinition} {engine : Engine}
  {rows : List (String → ℤ)}

theorem warningsOver_of_standard {finer : View} (hitems : ∀ item ∈ finer.selectItems,
      item.Standard definition.timeColumn definition.groupBy)
    (granularities : List Granularity) :
    warningsOver rules definition finer granularities = [] := by
  induction granularities generalizing finer with
  | nil => rfl
  | cons granularity granularities ih =>
    rw [warningsOver, RuleTable.forwardWarnings_of_standard hitems, List.nil_append]
    exact ih (RuleTable.standard_coarserItems hitems)

/-- Strict or not, a builder gets through all levels of a standard definition. -/
theorem build_of_isStandard (hstandard : definition.IsStandard)
    {granularities : List Granularity} {sequence : GranularitySequence}
    (hsequence : GranularitySequence.ofList granularities = .ok sequence)
    (builder : ChainBuilder) :
    builder.build definition granularities =
      lenientOutcome builder.rules definition sequence := by
  have hkeys : ∀ key ∈ definition.groupBy, key ∈ definition.aliases := by
    intro key hkey
    exact List.mem_map.2 ⟨_, hstandard.keys key hkey, rfl⟩
  have hlenient : (ChainBuilder.mk builder.rules false).buildOver definition sequence =
      lenientOutcome builder.rules definition sequence := buildOver_lenient hkeys sequence
  rw [build_of_ofList hsequence]
  obtain ⟨rules, strict⟩ := builder
  cases strict with
  | false => exact hlenient
  | true =>
    rw [buildOver_strict, hlenient]
    apply Outcome.promote_of_nil
    exact warningsOver_of_standard hstandard.items _

/-- Each view over one that has the rows of its width has the rows of its own width. -/
theorem tables?_viewsOver (hstandard : definition.IsStandard) (hnames : definition.WellNamed)
    (hdistinct : definition.DistinctTimes rows) {finer : View}
    (hitems : rules.coarserItems finer.selectItems = rules.coarserItems definition.selectItems)
    {granularities : List Granularity}
    (hnests : engine.Nests (finer.granularity :: granularities)) :
    tables? engine (definition.table (engine.bucket finer.granularity) rows)
        (viewsOver rules definition finer granularities) =
      some (granularities.map fun granularity =>
        definition.table (engine.bucket granularity) rows) := by
  induction granularities generalizing finer with
  | nil => rfl
  | cons granularity granularities ih =>
    have hmonotone := hnests.monotone finer.granularity List.mem_cons_self
    have hnested := (List.isChain_cons_cons.1 hnests.nested).1
    have hrows : (nextView rules definition finer granularity).rows? engine
        (definition.table (engine.bucket finer.granularity) rows) =
          some (definition.table (engine.bucket granularity) rows) := by
      have htable := AggregateDefinition.evaluate?_table hstandard hnames hmonotone hnested
        hdistinct rules
      rw [View.rows?, nextView, viewOver, Engine.filter_accepts_none, hitems]
      exact htable
    have hagain : rules.coarserItems (nextView rules definition finer granularity).selectItems =
        rules.coarserItems definition.selectItems := by
      rw [nextView, viewOver, hitems, RuleTable.coarserItems_coarserItems hstandard.items]
    have hrest := ih hagain hnests.tail
    rw [viewsOver, List.map_cons]
    exact tables?_cons hrows hrest

theorem rows?_ofValues (hstandard : definition.IsStandard) (raw : List (String → ℤ))
    (granularity : Granularity) :
    definition.rows? engine (raw.map Row.ofValues) granularity =
      some (definition.table (engine.bucket granularity)
        (raw.filter fun values => engine.accepts definition.filter (Row.ofValues values))) := by
  rw [AggregateDefinition.rows?, List.filter_map]
  exact AggregateDefinition.evaluate?_ofValues hstandard

/-- Whatever the rules and the bucket widths, a chain is built from every standard definition, and each
of its views, computed from the view before it, has exactly the rows that the definition makes of the raw
rows at once. -/
theorem tables?_eq_rows? {draft : Draft} (hdraft : draft.build = .ok definition)
    (hstandard : definition.IsStandard) {granularities : List Granularity}
    {sequence : GranularitySequence}
    (hsequence : GranularitySequence.ofList granularities = .ok sequence)
    (hnests : engine.Nests granularities) {raw : List (String → ℤ)}
    (hdistinct : definition.DistinctTimes
      (raw.filter fun values => engine.accepts definition.filter (Row.ofValues values)))
    (builder : ChainBuilder) :
    ∃ chain, (builder.build definition granularities).result = .ok chain ∧
      ∃ tables, chain.tables? engine (raw.map Row.ofValues) = some tables ∧
        granularities.mapM (definition.rows? engine (raw.map Row.ofValues)) = some tables := by
  have hnames : definition.WellNamed := Draft.wellNamed_of_build hdraft
  have hlist : sequence.toList = granularities := GranularitySequence.toList_of_ofList hsequence
  have hcons : sequence.finest :: sequence.toList.tail = granularities := by
    rw [← hlist]
    exact List.cons_head_tail sequence.ne_nil
  have hfinest : (finestView definition sequence.finest).rows? engine (raw.map Row.ofValues) =
      some (definition.table (engine.bucket sequence.finest)
        (raw.filter fun values => engine.accepts definition.filter (Row.ofValues values))) :=
    rows?_ofValues hstandard raw sequence.finest
  have hitems : builder.rules.coarserItems
      (finestView definition sequence.finest).selectItems =
        builder.rules.coarserItems definition.selectItems := rfl
  have hcoarser := tables?_viewsOver hstandard hnames hdistinct hitems (hcons ▸ hnests)
  refine ⟨chainOver builder.rules definition sequence, ?_, _, ?_,
    mapM_eq_some_map fun granularity _ => rows?_ofValues hstandard raw granularity⟩
  · rw [build_of_isStandard hstandard hsequence]
    rfl
  · rw [← hcons, List.map_cons]
    exact tables?_cons hfinest hcoarser

/-- Prices by symbol, with all six aggregates. -/
def quotesDraft : Draft where
  name := "quotes"
  relation := "ticks"
  timeColumn := "ts"
  select :=
    [.sql "symbol", .sql "COUNT(*) AS total", .sql "sum(price) AS turnover",
      .sql "min(price) AS low", .sql "max(price) AS high", .sql "first(price, ts) AS open",
      .sql "last(price, ts) AS close"]
  groupBy := ["symbol"]
  filter := some "price > 0"
  refreshPlan := .empty

def quotes : AggregateDefinition where
  name := "quotes"
  relation := "ticks"
  timeColumn := "ts"
  selectItems :=
    [⟨.column "symbol", "symbol"⟩, ⟨.call "count" [.star], "total"⟩,
      ⟨.call "sum" [.column "price"], "turnover"⟩, ⟨.call "min" [.column "price"], "low"⟩,
      ⟨.call "max" [.column "price"], "high"⟩,
      ⟨.call "first" [.column "price", .column "ts"], "open"⟩,
      ⟨.call "last" [.column "price", .column "ts"], "close"⟩]
  groupBy := ["symbol"]
  filter := some "price > 0"
  refreshPlan := .empty

/-- Buckets that start at the multiples of their width, and a condition on prices. -/
def tickEngine : Engine where
  bucket granularity time := time / granularity.approxSecs * granularity.approxSecs
  holds condition row := condition == "price > 0" && (row "price").any (0 < ·)

def ticks : List (String → ℤ) :=
  [(1, 30, 100), (1, 90, 80), (2, 100, 7), (1, 95, -1), (1, 4000, 120)].map
    fun (symbol, time, price) column =>
      if column = "symbol" then symbol else if column = "ts" then time else price

theorem isStandard_quotes : quotes.IsStandard where
  items := by
    simp only [quotes, List.forall_mem_cons, List.not_mem_nil, false_implies, implies_true,
      and_true]
    exact ⟨.key (by simp), .countRows _, .sum _ _, .min _ _, .max _ _, .first _ _, .last _ _⟩
  keys := by simp [quotes]

theorem nests_tickEngine : tickEngine.Nests [.minute, .hour, .day] where
  monotone granularity _ := by
    have hpos : 0 < granularity.approxSecs := by cases granularity <;> decide
    intro time later hle
    exact Int.mul_le_mul_of_nonneg_right (Int.ediv_le_ediv hpos hle) hpos.le
  nested := by
    have hhour (time : ℤ) : tickEngine.bucket .hour (tickEngine.bucket .minute time) =
        tickEngine.bucket .hour time := by
      simp only [tickEngine, Granularity.approxSecs]
      omega
    have hday (time : ℤ) : tickEngine.bucket .day (tickEngine.bucket .hour time) =
        tickEngine.bucket .day time := by
      simp only [tickEngine, Granularity.approxSecs]
      omega
    exact .cons_cons hhour (.cons_cons hday (.singleton _))

theorem distinctTimes_ticks : quotes.DistinctTimes
    (ticks.filter fun values => tickEngine.accepts quotes.filter (Row.ofValues values)) := by
  unfold AggregateDefinition.DistinctTimes
  decide +kernel

theorem tables?_quotes :
    quotesDraft.build = .ok quotes ∧ quotes.IsStandard ∧
      GranularitySequence.ofList [.minute, .hour, .day] =
        .ok ⟨[.minute, .hour, .day], by decide, by decide⟩ ∧
      tickEngine.Nests [.minute, .hour, .day] ∧
      quotes.DistinctTimes
        (ticks.filter fun values => tickEngine.accepts quotes.filter (Row.ofValues values)) ∧
      ∃ chain, ((ChainBuilder.mk .empty true).build quotes [.minute, .hour, .day]).result =
          .ok chain ∧
        ∃ tables, chain.tables? tickEngine (ticks.map Row.ofValues) = some tables ∧
          [.minute, .hour, .day].mapM (quotes.rows? tickEngine (ticks.map Row.ofValues)) =
            some tables :=
  ⟨rfl, isStandard_quotes, rfl, nests_tickEngine, distinctTimes_ticks,
    tables?_eq_rows? (rfl : quotesDraft.build = .ok quotes) isStandard_quotes rfl
      nests_tickEngine distinctTimes_ticks _⟩

example :
    (quotes.rows? tickEngine (ticks.map Row.ofValues) .hour).map
        (List.map fun row => ["ts", "symbol", "total", "open", "close"].map row) =
      some [[some 0, some 1, some 2, some 100, some 80],
        [some 0, some 2, some 1, some 7, some 7],
        [some 3600, some 1, some 1, some 120, some 120]] := by
  decide +kernel

end ChainBuilder

end TimeRollup
