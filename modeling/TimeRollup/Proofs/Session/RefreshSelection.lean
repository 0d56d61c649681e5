import TimeRollup.Proofs.Session.Execution
import TimeRollup.Proofs.Session.Registrations

/-!
# Refreshing some views of a chain

The bucket widths to refresh are a set, however they are listed: the calls for them are those for the
whole chain with the others left out.  So a view is refreshed once at most, and after the views that are
finer.  Only where a bucket width has no view does the order of the list matter, as the first such is the
one that is refused.
-/

namespace TimeRollup

/-! ## Selections by position -/

/-- The members at the positions of the selected bucket widths. -/
def selectAt {α : Type} (selected granularities : List Granularity) (members : List α) : List α :=
  ((granularities.zip members).filter fun entry => selected.contains entry.1).map Prod.snd

theorem selectAt_map {α β : Type} (selected : List Granularity) (granularity : α → Granularity)
    (f : α → β) (members : List α) :
    selectAt selected (members.map granularity) (members.map f) =
      (members.filter fun member => selected.contains (granularity member)).map f := by
  rw [selectAt, List.zip_map', List.filter_map, List.map_map]
  rfl

theorem selectAt_of_subset {α : Type} {selected granularities : List Granularity} {members : List α}
    (hsubset : granularities ⊆ selected) (hlength : members.length = granularities.length) :
    selectAt selected granularities members = members := by
  have hall : (granularities.zip members).filter (fun entry => selected.contains entry.1) =
      granularities.zip members := by
    apply List.filter_eq_self.2
    intro entry hentry
    simpa using hsubset (List.of_mem_zip hentry).1
  rw [selectAt, hall, List.map_snd_zip (Nat.le_of_eq hlength)]

/-! ## Built chains -/

namespace ChainBuilder

variable {builder : ChainBuilder} {definition : AggregateDefinition}
  {granularities : List Granularity} {chain : Chain}

theorem map_granularity_views_of_build
    (h : (builder.build definition granularities).result = .ok chain) :
    chain.views.map View.granularity = chain.granularities.toList := by
  obtain ⟨sequence, -, rfl, -⟩ := exists_of_build h
  exact map_granularity_views_chainOver sequence

theorem tableName_of_build (h : (builder.build definition granularities).result = .ok chain)
    {view : View} (hview : view ∈ chain.views) :
    view.tableName = chain.definition.tableName view.granularity := by
  obtain ⟨level, hlevel⟩ := List.mem_iff_getElem?.1 hview
  rw [(derivesFrom_of_build h).definition_eq]
  exact (isLevel_of_build h hlevel).tableName

end ChainBuilder

/-- The call that refreshes a view. -/
def View.refreshText (view : View) (window : RefreshWindow) : String :=
  (Statement.refresh view.tableName window).sql

/-- Calls for one window differ by their tables. -/
theorem Statement.table_eq_of_sql_refresh_eq {left right : String} {window : RefreshWindow}
    (h : (refresh left window).sql = (refresh right window).sql) : left = right := by
  have hsql (table : String) : (refresh table window).sql =
      "CALL refresh_continuous_aggregate('" ++ (table ++ ("', " ++ (timestampLiteral window.start ++
        (", " ++ (timestampLiteral window.stop ++ ")"))))) := by
    unfold sql
    simp only [String.append_assoc]
  rw [hsql, hsql, String.append_right_inj, String.append_left_inj] at h
  exact h

namespace Chain

/-- The calls for some bucket widths are those of the whole chain at the positions of these widths. -/
theorem refreshStatements_some_eq_selectAt {chain : Chain}
    (hgranularities : chain.views.map View.granularity = chain.granularities.toList)
    (window : RefreshWindow) (only : List Granularity) :
    chain.refreshStatements window (some only) =
      selectAt only chain.granularities.toList (chain.refreshStatements window none) := by
  have hnone : chain.refreshStatements window none =
      chain.views.map fun view => .refresh view.tableName window := by
    rw [refreshStatements, List.filter_true]
  rw [hnone, ← hgranularities, selectAt_map]
  rfl

theorem refreshStatements_congr (chain : Chain) (window : RefreshWindow)
    {only only' : List Granularity}
    (h : ∀ granularity, granularity ∈ only ↔ granularity ∈ only') :
    chain.refreshStatements window (some only) = chain.refreshStatements window (some only') := by
  simp only [refreshStatements, List.contains_eq_mem, h]

theorem map_sql_refreshStatements (chain : Chain) (window : RefreshWindow)
    (only : List Granularity) :
    (chain.refreshStatements window (some only)).map Statement.sql =
      (chain.views.filter fun view => only.contains view.granularity).map
        (View.refreshText · window) := by
  rw [refreshStatements, List.map_map]
  rfl

end Chain

section Built

variable {builder : ChainBuilder} {definition : AggregateDefinition}
  {granularities : List Granularity} {chain : Chain} {window : RefreshWindow} {view other : View}

theorem View.granularity_eq_of_refreshText_eq
    (h : (builder.build definition granularities).result = .ok chain) (hview : view ∈ chain.views)
    (hother : other ∈ chain.views) (htext : view.refreshText window = other.refreshText window) :
    view.granularity = other.granularity := by
  have htable : view.tableName = other.tableName := Statement.table_eq_of_sql_refresh_eq htext
  rw [ChainBuilder.tableName_of_build h hview, ChainBuilder.tableName_of_build h hother] at htable
  exact (AggregateDefinition.eq_of_tableName_eq htable).2

theorem Chain.pairwise_granularity_views
    (h : (builder.build definition granularities).result = .ok chain) :
    chain.views.Pairwise fun finer coarser => finer.granularity < coarser.granularity := by
  rw [← List.pairwise_map (f := View.granularity), ChainBuilder.map_granularity_views_of_build h]
  exact chain.granularities.increasing

/-- A view is refreshed by one call if its bucket width is selected, and by none otherwise. -/
theorem Chain.count_refreshText (h : (builder.build definition granularities).result = .ok chain)
    (hview : view ∈ chain.views) (only : List Granularity) :
    ((chain.refreshStatements window (some only)).map Statement.sql).count
        (view.refreshText window) = if view.granularity ∈ only then 1 else 0 := by
  rw [map_sql_refreshStatements]
  split
  · rename_i hselected
    have hdistinct : chain.views.Pairwise fun finer coarser =>
        finer.refreshText window ≠ coarser.refreshText window := by
      refine (pairwise_granularity_views h).imp_of_mem fun {finer coarser} hfiner hcoarser hlt heq => ?_
      rw [View.granularity_eq_of_refreshText_eq h hfiner hcoarser heq] at hlt
      exact Granularity.lt_irrefl _ hlt
    apply List.count_eq_one_of_mem
    · exact List.pairwise_map.2 (hdistinct.filter _)
    · exact List.mem_map_of_mem (List.mem_filter.2 ⟨hview, by simpa using hselected⟩)
  · rename_i hleft
    apply List.count_eq_zero_of_not_mem
    intro hmem
    obtain ⟨other, hother, htext⟩ := List.mem_map.1 hmem
    obtain ⟨hother, hselected⟩ := List.mem_filter.1 hother
    rw [View.granularity_eq_of_refreshText_eq h hother hview htext] at hselected
    exact hleft (by simpa using hselected)

/-- No call for a view comes before the call for a finer one. -/
theorem Chain.not_coarser_before_finer
    (h : (builder.build definition granularities).result = .ok chain) (hview : view ∈ chain.views)
    (hother : other ∈ chain.views) (hlt : view.granularity < other.granularity)
    (only : List Granularity) :
    ¬ [other.refreshText window, view.refreshText window].Sublist
      ((chain.refreshStatements window (some only)).map Statement.sql) := by
  intro hpair
  rw [map_sql_refreshStatements] at hpair
  obtain ⟨pair, hsublist, htexts⟩ := List.sublist_map_iff.1 hpair
  have hviews : pair.Sublist chain.views := hsublist.trans List.filter_sublist
  obtain ⟨first, last, rfl⟩ : ∃ first last, pair = [first, last] :=
    List.length_eq_two.1 (by simpa using (congrArg List.length htexts).symm)
  simp only [List.map_cons, List.map_nil, List.cons.injEq, and_true] at htexts
  have hfirst := View.granularity_eq_of_refreshText_eq h hother
    (hviews.subset List.mem_cons_self) htexts.1
  have hlast := View.granularity_eq_of_refreshText_eq h hview
    (hviews.subset (List.mem_cons_of_mem _ List.mem_cons_self)) htexts.2
  have hordered := List.rel_of_pairwise_cons ((pairwise_granularity_views h).sublist hviews)
    List.mem_cons_self
  rw [← hfirst, ← hlast] at hordered
  exact Granularity.lt_irrefl _ (Granularity.lt_trans hlt hordered)

end Built

/-! ## Registries -/

namespace Registry

variable {registry : Registry} {name : String} {chain : Chain} {window : RefreshWindow}
  {only : List Granularity}

theorem refreshStatements_none (hchain : registry.chain name = .ok chain) :
    registry.refreshStatements name window none = .ok (chain.refreshStatements window none) := by
  simp [refreshStatements, hchain, bind, Except.bind]

/-- Every bucket width must have a view. -/
theorem refreshStatements_some_eq_ok_iff (hchain : registry.chain name = .ok chain)
    {statements : List Statement} :
    registry.refreshStatements name window (some only) = .ok statements ↔
      (∀ granularity ∈ only, (chain.view? granularity).isSome) ∧
        chain.refreshStatements window (some only) = statements := by
  simp only [refreshStatements, hchain, bind, Except.bind, Option.getD_some]
  split
  · rename_i missing hmissing
    have hnone : chain.view? missing = none := by simpa using List.find?_some hmissing
    have hmem : missing ∈ only := List.mem_of_find?_eq_some hmissing
    constructor
    · intro h
      cases h
    · intro h
      have hsome := h.1 missing hmem
      rw [hnone] at hsome
      cases hsome
  · rename_i hfind
    have hviews : ∀ granularity ∈ only, (chain.view? granularity).isSome := by
      simpa [Option.isSome_iff_ne_none] using List.find?_eq_none.1 hfind
    rw [Except.ok.injEq]
    exact (and_iff_right hviews).symm

/-- The error names the first bucket width that has no view. -/
theorem refreshStatements_some_eq_error_iff (hchain : registry.chain name = .ok chain)
    {error : RollupError} :
    registry.refreshStatements name window (some only) = .error error ↔
      ∃ before missing after, only = before ++ missing :: after ∧
        (∀ granularity ∈ before, (chain.view? granularity).isSome) ∧
        chain.view? missing = none ∧ error = .granularityNotInChain name missing.name := by
  refine (@statements_eq_error_iff registry (.refresh name window (some only)) error).trans ?_
  constructor
  · intro h
    cases h with
    | unknownName hunknown =>
      rw [chain_eq_error_of_unknown hunknown] at hchain
      cases hchain
    | unknownWidth hother hbefore hmissing =>
      obtain rfl := Except.ok.inj (hother.symm.trans hchain)
      exact ⟨_, _, _, rfl, hbefore, hmissing, rfl⟩
  · rintro ⟨before, missing, after, rfl, hbefore, hmissing, rfl⟩
    exact .unknownWidth hchain hbefore hmissing

/-- What a refresh of some views of a chain has to do with a refresh of all of them. -/
structure RefreshesSelections (registry : Registry) (name : String) (chain : Chain)
    (window : RefreshWindow) (all : List Statement) : Prop where
  all_eq : registry.refreshStatements name window none = .ok all
  /-- There is one call for each bucket width, finest first. -/
  tables : all.map Statement.table =
    chain.granularities.toList.map chain.definition.tableName
  /-- The error names the first bucket width that is not in the chain. -/
  error_iff : ∀ {only error}, registry.refreshStatements name window (some only) = .error error ↔
    ∃ before missing after, only = before ++ missing :: after ∧
      before ⊆ chain.granularities.toList ∧ missing ∉ chain.granularities.toList ∧
      error = .granularityNotInChain name missing.name
  selected : ∀ {only}, only ⊆ chain.granularities.toList →
    registry.refreshStatements name window (some only) =
      .ok (selectAt only chain.granularities.toList all)
  /-- Neither the order of the bucket widths nor how often one is given matters. -/
  congr : ∀ {only only'}, (∀ granularity, granularity ∈ only ↔ granularity ∈ only') →
    ∀ {statements}, registry.refreshStatements name window (some only) = .ok statements →
      registry.refreshStatements name window (some only') = .ok statements
  covered : ∀ {only}, (∀ granularity, granularity ∈ only ↔
      granularity ∈ chain.granularities.toList) →
    registry.refreshStatements name window (some only) = .ok all
  /-- A selected view is refreshed by one call, and any other by none. -/
  count_eq : ∀ {only statements},
    registry.refreshStatements name window (some only) = .ok statements →
      ∀ view ∈ chain.views, (statements.map Statement.sql).count (view.refreshText window) =
        if view.granularity ∈ only then 1 else 0
  finer_first : ∀ {only statements},
    registry.refreshStatements name window (some only) = .ok statements →
      ∀ finer ∈ chain.views, ∀ coarser ∈ chain.views, finer.granularity < coarser.granularity →
        ¬ [coarser.refreshText window, finer.refreshText window].Sublist
          (statements.map Statement.sql)

theorem Holds.exists_build_of_chain {builder : ChainBuilder} {requests : List Request}
    (hholds : registry.Holds builder requests) (hchain : registry.chain name = .ok chain) :
    ∃ definition granularities, (builder.build definition granularities).result = .ok chain := by
  unfold Registry.chain at hchain
  split at hchain
  · rename_i found hfound
    obtain rfl := Except.ok.inj hchain
    exact hholds.built found (List.mem_of_find?_eq_some hfound)
  · cases hchain

theorem refreshesSelections_of_build {builder : ChainBuilder} {definition : AggregateDefinition}
    {granularities : List Granularity}
    (hbuild : (builder.build definition granularities).result = .ok chain)
    (hchain : registry.chain name = .ok chain) (window : RefreshWindow) :
    registry.RefreshesSelections name chain window (chain.refreshStatements window none) := by
  have hwidths := ChainBuilder.map_granularity_views_of_build hbuild
  have hview {granularity : Granularity} : (chain.view? granularity).isSome ↔
      granularity ∈ chain.granularities.toList := by
    have hderives := ChainBuilder.derivesFrom_of_build hbuild
    rw [hderives.lookup_isSome, ← hwidths, hderives.granularities_eq]
  have htables : (chain.refreshStatements window none).map Statement.table =
      chain.granularities.toList.map chain.definition.tableName := by
    rw [← hwidths, Chain.refreshStatements, List.filter_true, List.map_map, List.map_map]
    exact List.map_congr_left fun view hmem => ChainBuilder.tableName_of_build hbuild hmem
  have hselected {only : List Granularity} (hsubset : only ⊆ chain.granularities.toList) :
      registry.refreshStatements name window (some only) =
        .ok (selectAt only chain.granularities.toList (chain.refreshStatements window none)) :=
    (refreshStatements_some_eq_ok_iff hchain).2 ⟨fun _ hmem => hview.2 (hsubset hmem),
      Chain.refreshStatements_some_eq_selectAt hwidths window only⟩
  exact {
    all_eq := refreshStatements_none hchain
    tables := htables
    error_iff := by
      simp only [refreshStatements_some_eq_error_iff hchain, hview, List.subset_def,
        ← Option.not_isSome_iff_eq_none, implies_true]
    selected := hselected
    congr := by
      intro only only' hmem statements hok
      rw [refreshStatements_some_eq_ok_iff hchain] at hok ⊢
      exact ⟨fun granularity h => hok.1 granularity ((hmem granularity).2 h),
        (chain.refreshStatements_congr window hmem).symm.trans hok.2⟩
    covered := by
      intro only hcovers
      have hlength := congrArg List.length htables
      rw [List.length_map, List.length_map] at hlength
      rw [hselected fun granularity => (hcovers granularity).1,
        selectAt_of_subset (fun granularity => (hcovers granularity).2) hlength]
    count_eq := by
      intro only statements hok view hmem
      rw [← ((refreshStatements_some_eq_ok_iff hchain).1 hok).2]
      exact Chain.count_refreshText hbuild hmem only
    finer_first := by
      intro only statements hok finer hfiner coarser hcoarser hlt
      rw [← ((refreshStatements_some_eq_ok_iff hchain).1 hok).2]
      exact Chain.not_coarser_before_finer hbuild hfiner hcoarser hlt only }

end Registry

/-- Whatever has been registered, and whatever has failed. -/
theorem Session.refreshesSelections_run (builder : ChainBuilder) (options : ViewOptions)
    (log : StatementLog) (requests : List Request) {name : String} {chain : Chain}
    (hchain : ((start builder options log).run requests).registry.chain name = .ok chain)
    (window : RefreshWindow) :
    ((start builder options log).run requests).registry.RefreshesSelections name chain window
      (chain.refreshStatements window none) := by
  obtain ⟨definition, granularities, hbuild⟩ :=
    (holds_run builder options log requests).exists_build_of_chain hchain
  exact Registry.refreshesSelections_of_build hbuild hchain window

theorem Session.refreshesSelections_run_trades :
    ∃ chain, ((start ⟨⟨[⟨"hll", "hll(\x7balias\x7d)"⟩]⟩, true⟩ ⟨false, true⟩ (.empty none)).run
        [.register ChainBuilder.trades [.minute, .hour, .day]]).registry.chain "ticks" =
          .ok chain ∧
      ((start ⟨⟨[⟨"hll", "hll(\x7balias\x7d)"⟩]⟩, true⟩ ⟨false, true⟩ (.empty none)).run
        [.register ChainBuilder.trades [.minute, .hour, .day]]).registry.RefreshesSelections
          "ticks" chain .all (chain.refreshStatements .all none) :=
  ⟨_, rfl, refreshesSelections_run _ _ _
    [.register ChainBuilder.trades [.minute, .hour, .day]] rfl .all⟩

end TimeRollup
