import TimeRollup.Proofs.Chain.Structure
import TimeRollup.Proofs.Definition.Aliases

/-!
# Chains and their extensions

A chain over more bucket widths begins with the chain over the first of them, and goes on over its last
view.  So the level that one more bucket width adds depends on that view alone, and an ad-hoc rollup of
the view to that width makes the same selection without building the level.
-/

namespace TimeRollup

theorem Outcome.result_bind {ε α β : Type} (outcome : Outcome ε α) (next : α → Outcome ε β) :
    (outcome >>= next).result = outcome.result >>= fun value => (next value).result := by
  obtain ⟨notices, result⟩ := outcome
  cases result <;> rfl

theorem GranularitySequence.exists_ofList_of_append {nearer farther : List Granularity}
    {sequence : GranularitySequence} (hnearer : nearer ≠ [])
    (h : ofList (nearer ++ farther) = .ok sequence) :
    ∃ begun, ofList nearer = .ok begun := by
  have hincreasing := (exists_ofList_iff.1 ⟨sequence, h⟩).2
  exact exists_ofList_iff.2 ⟨hnearer, (List.pairwise_append.1 hincreasing).1⟩

namespace ChainBuilder

variable {builder : ChainBuilder} {definition : AggregateDefinition}

/-- The views over `finer` for a list of bucket widths are those for its first part, followed by the
views over the last of them for the rest. -/
theorem coarserViews_append (builder : ChainBuilder) (definition : AggregateDefinition)
    (finer : View) (nearer farther : List Granularity) :
    builder.coarserViews definition finer (nearer ++ farther) = (do
      let (views, warnings) ← builder.coarserViews definition finer nearer
      let (deeper, more) ← builder.coarserViews definition (views.getLastD finer) farther
      return (views ++ deeper, warnings ++ more)) := by
  induction nearer generalizing finer with
  | nil =>
    simp only [coarserViews, List.nil_append, pure_bind, List.getLastD_nil]
    exact (bind_pure _).symm
  | cons granularity nearer ih =>
    simp only [List.cons_append, coarserViews, ih, bind_assoc, pure_bind, List.getLastD_cons,
      List.append_assoc]

theorem result_coarserViews_append_eq_ok_iff {finer : View} {nearer farther : List Granularity}
    {views : List View} {warnings : List RewriteWarning} :
    (builder.coarserViews definition finer (nearer ++ farther)).result =
        .ok (views, warnings) ↔
      ∃ near first far more,
        (builder.coarserViews definition finer nearer).result = .ok (near, first) ∧
        (builder.coarserViews definition (near.getLastD finer) farther).result =
          .ok (far, more) ∧
        views = near ++ far ∧ warnings = first ++ more := by
  simp only [coarserViews_append, Outcome.result_bind, bind_eq_ok_iff, Prod.exists,
    Outcome.pure_eq, Except.ok.injEq, Prod.mk.injEq]
  constructor
  · rintro ⟨near, first, hnear, far, more, hfar, rfl, rfl⟩
    exact ⟨near, first, far, more, hnear, hfar, rfl, rfl⟩
  · rintro ⟨near, first, far, more, hnear, hfar, rfl, rfl⟩
    exact ⟨near, first, hnear, far, more, hfar, rfl, rfl⟩

theorem result_coarserViews_append_of_error {finer : View} {nearer : List Granularity}
    {error : RollupError}
    (h : (builder.coarserViews definition finer nearer).result = .error error)
    (farther : List Granularity) :
    (builder.coarserViews definition finer (nearer ++ farther)).result = .error error := by
  rw [coarserViews_append, Outcome.result_bind, h]
  rfl

/-- The builder can roll the view up: nothing is missing to group by, and a strict builder has a rule
for every entry. -/
structure CanRollUp (builder : ChainBuilder) (groupKeys : List String) (view : View) : Prop where
  keys : ∀ key ∈ groupKeys, key ∈ view.aliases
  rules : builder.strict = true →
    ∀ item ∈ view.selectItems, (builder.rules.rewrite item).isForwarded = false

theorem result_rewriteItems_eq_ok_iff {name : String} {items rewritten : List SelectItem}
    {warnings : List RewriteWarning} :
    (builder.rewriteItems name items).result = .ok (rewritten, warnings) ↔
      (builder.strict = true →
          ∀ item ∈ items, (builder.rules.rewrite item).isForwarded = false) ∧
        rewritten = builder.rules.coarserItems items ∧
        warnings = builder.rules.forwardWarnings name items := by
  obtain ⟨table, strict⟩ := builder
  cases strict with
  | false =>
    rw [rewriteItems_lenient, Except.ok.injEq, Prod.mk.injEq, eq_comm (b := rewritten),
      eq_comm (b := warnings)]
    simp
  | true =>
    rw [rewriteItems_strict, rewriteItems_lenient, Outcome.result_promote_eq_ok_iff,
      Except.ok.injEq, Prod.mk.injEq]
    constructor
    · rintro ⟨⟨rfl, rfl⟩, hnone⟩
      exact ⟨fun _ => RuleTable.forwardWarnings_eq_nil_iff.1 hnone, rfl, rfl⟩
    · rintro ⟨hrules, rfl, rfl⟩
      exact ⟨⟨rfl, rfl⟩, RuleTable.forwardWarnings_eq_nil_iff.2 (hrules rfl)⟩

theorem result_coarserView_eq_ok_iff {finer view : View} {granularity : Granularity}
    {warnings : List RewriteWarning} :
    (builder.coarserView definition finer granularity).result = .ok (view, warnings) ↔
      builder.CanRollUp definition.groupBy finer ∧
        view = nextView builder.rules definition finer granularity ∧
        warnings =
          builder.rules.forwardWarnings (definition.tableName granularity) finer.selectItems := by
  simp only [coarserView, Outcome.result_bind, bind_eq_ok_iff, Prod.exists,
    result_rewriteItems_eq_ok_iff, Outcome.ofExcept, Outcome.notice, Outcome.pure_eq,
    Except.ok.injEq, Prod.mk.injEq]
  constructor
  · rintro ⟨⟨⟩, hcheck, items, _, ⟨hrules, rfl, rfl⟩, ⟨⟩, -, rfl, rfl⟩
    exact ⟨⟨checkGroupKeys_eq_ok_iff.1 hcheck, hrules⟩, rfl, rfl⟩
  · rintro ⟨⟨hkeys, hrules⟩, rfl, rfl⟩
    exact ⟨(), checkGroupKeys_eq_ok_iff.2 hkeys, _, _, ⟨hrules, rfl, rfl⟩, (), trivial, rfl, rfl⟩

/-- An ad-hoc rollup fails where a further level would, and where the interval is too short. -/
theorem result_adHocRollup_eq_ok_iff {view : View} {interval : Interval} {select : Sql.Select} :
    (builder.adHocRollup view interval).result = .ok select ↔
      view.granularity.approxSecs ≤ interval.approxSecs ∧
        builder.CanRollUp view.groupKeys view ∧
        select = ⟨interval.text, view.timeColumn,
          builder.rules.coarserItems view.selectItems, view.tableName, none, view.groupKeys⟩ := by
  unfold adHocRollup
  split
  · rename_i hshort
    simp [Outcome.fail, Int.not_le.2 hshort]
  · rename_i hlong
    simp only [Outcome.result_bind, bind_eq_ok_iff, Prod.exists, result_rewriteItems_eq_ok_iff,
      Outcome.ofExcept, Outcome.pure_eq, Except.ok.injEq]
    constructor
    · rintro ⟨items, warnings, ⟨hrules, rfl, rfl⟩, ⟨⟩, hcheck, rfl⟩
      exact ⟨Int.not_lt.1 hlong, ⟨checkGroupKeys_eq_ok_iff.1 hcheck, hrules⟩, rfl⟩
    · rintro ⟨-, ⟨hkeys, hrules⟩, rfl⟩
      exact ⟨_, _, ⟨hrules, rfl, rfl⟩, (), checkGroupKeys_eq_ok_iff.2 hkeys, rfl⟩

theorem result_coarserViews_singleton_eq_ok_iff {finer : View} {granularity : Granularity}
    {views : List View} {warnings : List RewriteWarning} :
    (builder.coarserViews definition finer [granularity]).result = .ok (views, warnings) ↔
      builder.CanRollUp definition.groupBy finer ∧
        views = [nextView builder.rules definition finer granularity] ∧
        warnings =
          builder.rules.forwardWarnings (definition.tableName granularity) finer.selectItems := by
  simp only [coarserViews, Outcome.result_bind, bind_eq_ok_iff, Prod.exists,
    result_coarserView_eq_ok_iff, Outcome.pure_eq, Except.ok.injEq, Prod.mk.injEq]
  constructor
  · rintro ⟨_, _, ⟨hroll, rfl, rfl⟩, _, _, ⟨rfl, rfl⟩, rfl, rfl⟩
    exact ⟨hroll, rfl, List.append_nil _⟩
  · rintro ⟨hroll, rfl, rfl⟩
    exact ⟨_, _, ⟨hroll, rfl, rfl⟩, _, _, ⟨rfl, rfl⟩, rfl, List.append_nil _⟩

/-- The views that a builder gives are the levels over `finer`. -/
theorem eq_viewsOver_of_coarserViews {finer : View} {granularities : List Granularity}
    {views : List View} {warnings : List RewriteWarning}
    (h : (builder.coarserViews definition finer granularities).result = .ok (views, warnings)) :
    views = viewsOver builder.rules definition finer granularities := by
  induction granularities generalizing finer views warnings with
  | nil =>
    simp only [coarserViews, Outcome.pure_eq, Except.ok.injEq, Prod.mk.injEq] at h
    exact h.1.symm
  | cons granularity granularities ih =>
    simp only [coarserViews, Outcome.result_bind, bind_eq_ok_iff, Prod.exists,
      result_coarserView_eq_ok_iff, Outcome.pure_eq, Except.ok.injEq, Prod.mk.injEq] at h
    obtain ⟨_, _, ⟨-, rfl, -⟩, deeper, more, hdeeper, rfl, -⟩ := h
    rw [viewsOver, ih hdeeper]

theorem length_of_coarserViews {finer : View} {granularities : List Granularity}
    {views : List View} {warnings : List RewriteWarning}
    (h : (builder.coarserViews definition finer granularities).result = .ok (views, warnings)) :
    views.length = granularities.length := by
  rw [eq_viewsOver_of_coarserViews h, ← List.length_map View.granularity,
    map_granularity_viewsOver]

/-- Building up to a level ends at the view of that level. -/
theorem exists_coarserViews_take {finer view : View} {granularities : List Granularity}
    {views : List View} {warnings : List RewriteWarning}
    (h : (builder.coarserViews definition finer granularities).result = .ok (views, warnings))
    {level : ℕ} (hview : (finer :: views)[level]? = some view) :
    ∃ near first,
      (builder.coarserViews definition finer (granularities.take level)).result =
        .ok (near, first) ∧
      near.getLastD finer = view := by
  have hbound : level ≤ granularities.length := by
    have hlt := (List.getElem?_eq_some_iff.1 hview).1
    rw [List.length_cons, length_of_coarserViews h] at hlt
    exact Nat.le_of_lt_succ hlt
  rw [← List.take_append_drop level granularities, result_coarserViews_append_eq_ok_iff] at h
  obtain ⟨near, first, far, more, hnear, -, rfl, -⟩ := h
  have hlength : near.length = level := by
    rw [length_of_coarserViews hnear, List.length_take_of_le hbound]
  refine ⟨near, first, hnear, ?_⟩
  rw [← List.cons_append, List.getElem?_append_left (by simp [hlength]), ← hlength] at hview
  rw [← Option.some.injEq, ← hview, List.getLastD_eq_getLast?, ← List.getLast?_cons,
    List.getLast?_eq_getElem?, List.length_cons, Nat.add_sub_cancel]

/-- Once the bucket widths are accepted, a build succeeds or fails as the views over the finest one
do. -/
theorem result_build_of_ofList {finest : Granularity} {coarser : List Granularity}
    {sequence : GranularitySequence}
    (hsequence : GranularitySequence.ofList (finest :: coarser) = .ok sequence) :
    (builder.build definition (finest :: coarser)).result =
      (builder.coarserViews definition (finestView definition finest) coarser).result.map
        fun (views, warnings) =>
          ⟨definition, sequence, finestView definition finest, views, warnings⟩ := by
  rw [build_of_ofList hsequence, buildOver, Outcome.notice, Outcome.bind_ok,
    GranularitySequence.toList_of_ofList hsequence,
    GranularitySequence.finest_of_ofList hsequence, List.tail_cons]
  simp only [Outcome.result_bind]
  cases (builder.coarserViews definition (finestView definition finest) coarser).result <;> rfl

theorem result_build_eq_ok_iff {finest : Granularity} {coarser : List Granularity}
    {sequence : GranularitySequence} {chain : Chain}
    (hsequence : GranularitySequence.ofList (finest :: coarser) = .ok sequence) :
    (builder.build definition (finest :: coarser)).result = .ok chain ↔
      ∃ views warnings,
        (builder.coarserViews definition (finestView definition finest) coarser).result =
          .ok (views, warnings) ∧
        chain = ⟨definition, sequence, finestView definition finest, views, warnings⟩ := by
  rw [result_build_of_ofList hsequence]
  cases (builder.coarserViews definition (finestView definition finest) coarser).result with
  | error error => simp [Except.map]
  | ok levels =>
    obtain ⟨views, warnings⟩ := levels
    simp [Except.map, eq_comm]

theorem result_build_eq_error_iff {finest : Granularity} {coarser : List Granularity}
    {sequence : GranularitySequence} {error : RollupError}
    (hsequence : GranularitySequence.ofList (finest :: coarser) = .ok sequence) :
    (builder.build definition (finest :: coarser)).result = .error error ↔
      (builder.coarserViews definition (finestView definition finest) coarser).result =
        .error error := by
  rw [result_build_of_ofList hsequence]
  cases (builder.coarserViews definition (finestView definition finest) coarser).result <;>
    simp [Except.map]

/-- A bucket width that is coarser than the one at a level may follow the widths up to that level. -/
theorem exists_ofList_take_append {granularities : List Granularity} {level : ℕ}
    {granularity coarse : Granularity} (hincreasing : granularities.Pairwise (· < ·))
    (hlevel : granularities[level]? = some granularity) (hcoarse : granularity < coarse) :
    ∃ sequence, GranularitySequence.ofList (granularities.take (level + 1) ++ [coarse]) =
      .ok sequence := by
  have htake : granularities.take (level + 1) = granularities.take level ++ [granularity] := by
    rw [List.take_add_one, hlevel]
    rfl
  have hbegin : (granularities.take level ++ [granularity]).Pairwise (· < ·) :=
    htake ▸ hincreasing.sublist (List.take_sublist _ _)
  have hbelow : ∀ fine ∈ granularities.take level, fine < granularity := fun fine hfine =>
    (List.pairwise_append.1 hbegin).2.2 fine hfine granularity (List.mem_singleton_self _)
  rw [GranularitySequence.exists_ofList_iff, htake]
  refine ⟨by simp, List.pairwise_append.2 ⟨hbegin, List.pairwise_singleton _ _, ?_⟩⟩
  intro fine hfine top htop
  rw [List.mem_singleton.1 htop]
  rcases List.mem_append.1 hfine with hfine | hfine
  · exact Granularity.lt_trans (hbelow fine hfine) hcoarse
  · rw [List.mem_singleton.1 hfine]
    exact hcoarse

/-- One more level over a view of a chain: it can be built exactly if the view can be rolled up. -/
theorem exists_build_take_append_iff {granularities : List Granularity} {chain : Chain}
    (h : (builder.build definition granularities).result = .ok chain) {level : ℕ} {view : View}
    (hview : chain.views[level]? = some view) {coarse : Granularity} {longer : GranularitySequence}
    (hlonger : GranularitySequence.ofList (granularities.take (level + 1) ++ [coarse]) =
      .ok longer) {top : View} :
    (∃ deeper, (builder.build definition
        (granularities.take (level + 1) ++ [coarse])).result = .ok deeper ∧
          deeper.coarsest = top) ↔
      builder.CanRollUp definition.groupBy view ∧
        top = nextView builder.rules definition view coarse := by
  obtain ⟨sequence, hsequence, -, -⟩ := exists_of_build h
  cases granularities with
  | nil => simp [GranularitySequence.ofList] at hsequence
  | cons finest coarser =>
    obtain ⟨views, warnings, hviews, rfl⟩ := (result_build_eq_ok_iff hsequence).1 h
    obtain ⟨near, first, hnear, hlast⟩ := exists_coarserViews_take hviews hview
    rw [List.take_succ_cons, List.cons_append] at hlonger ⊢
    simp only [result_build_eq_ok_iff hlonger, result_coarserViews_append_eq_ok_iff]
    constructor
    · rintro ⟨deeper, ⟨views, _, ⟨near', first', top', _, hnear', htop, rfl, rfl⟩, rfl⟩, rfl⟩
      cases hnear.symm.trans hnear'
      rw [hlast, result_coarserViews_singleton_eq_ok_iff] at htop
      obtain ⟨hroll, rfl, -⟩ := htop
      exact ⟨hroll, by simp [Chain.coarsest, Chain.views]⟩
    · rintro ⟨hroll, rfl⟩
      have htop : (builder.coarserViews definition (near.getLastD (finestView definition finest))
          [coarse]).result = .ok ([nextView builder.rules definition view coarse],
            builder.rules.forwardWarnings (definition.tableName coarse) view.selectItems) := by
        rw [hlast, result_coarserViews_singleton_eq_ok_iff]
        exact ⟨hroll, rfl, rfl⟩
      exact ⟨_, ⟨_, _, ⟨near, first, _, _, hnear, htop, rfl, rfl⟩, rfl⟩,
        by simp [Chain.coarsest, Chain.views]⟩

/-- An ad-hoc rollup of a view of a chain to a coarser bucket width succeeds exactly if the chain up to
that view can be extended by this width, and then selects what the view on top of it selects. -/
theorem adHocRollup_eq_coarsest_of_build {granularities : List Granularity} {chain : Chain}
    (h : (builder.build definition granularities).result = .ok chain) {level : ℕ}
    {granularity coarse : Granularity} (hlevel : granularities[level]? = some granularity)
    (hcoarse : granularity < coarse) :
    ∃ view, chain.views[level]? = some view ∧
      ((∃ select, (builder.adHocRollup view (.ofGranularity coarse)).result = .ok select) ↔
        ∃ deeper, (builder.build definition
          (granularities.take (level + 1) ++ [coarse])).result = .ok deeper) ∧
      ∀ {select deeper},
        (builder.adHocRollup view (.ofGranularity coarse)).result = .ok select →
          (builder.build definition
              (granularities.take (level + 1) ++ [coarse])).result = .ok deeper →
            select.sql = deeper.coarsest.selectSql := by
  obtain ⟨sequence, hsequence, hchain, -⟩ := exists_of_build h
  have hlist := GranularitySequence.toList_of_ofList hsequence
  obtain ⟨longer, hlonger⟩ :=
    exists_ofList_take_append (hlist ▸ sequence.increasing) hlevel hcoarse
  have hwidth : (chain.views.map View.granularity)[level]? = some granularity := by
    rw [hchain, map_granularity_views_chainOver, hlist, hlevel]
  rw [List.getElem?_map, Option.map_eq_some_iff] at hwidth
  obtain ⟨view, hview, hgranularity⟩ := hwidth
  have hbase : IsLevel builder.rules definition level view :=
    isLevel_of_getElem? (isLevel_finestView _) (hchain ▸ hview)
  have hlong : view.granularity.approxSecs ≤ (Interval.ofGranularity coarse).approxSecs := by
    rw [Interval.approxSecs_ofGranularity, hgranularity]
    exact Int.le_of_lt (Granularity.approxSecs_lt_iff.2 hcoarse)
  refine ⟨view, hview, ⟨?_, ?_⟩, ?_⟩
  · rintro ⟨select, hselect⟩
    obtain ⟨-, hroll, -⟩ := result_adHocRollup_eq_ok_iff.1 hselect
    rw [hbase.groupKeys] at hroll
    obtain ⟨deeper, hdeeper, -⟩ :=
      (exists_build_take_append_iff h hview hlonger).2 ⟨hroll, rfl⟩
    exact ⟨deeper, hdeeper⟩
  · rintro ⟨deeper, hdeeper⟩
    have hroll := ((exists_build_take_append_iff h hview hlonger).1 ⟨deeper, hdeeper, rfl⟩).1
    rw [← hbase.groupKeys] at hroll
    exact ⟨_, result_adHocRollup_eq_ok_iff.2 ⟨hlong, hroll, rfl⟩⟩
  · intro select deeper hselect hdeeper
    obtain ⟨-, -, rfl⟩ := result_adHocRollup_eq_ok_iff.1 hselect
    have htop := ((exists_build_take_append_iff h hview hlonger).1 ⟨deeper, hdeeper, rfl⟩).2
    rw [htop, hbase.timeColumn, hbase.groupKeys]
    rfl

/-- A strict builder that keeps sketches of the traders. -/
def sketchBuilder : ChainBuilder :=
  ⟨⟨[⟨"hll", "hll(\x7balias\x7d)"⟩]⟩, true⟩

theorem adHocRollup_trades :
    ∃ chain, (sketchBuilder.build trades [.minute, .hour, .day]).result = .ok chain ∧
      [Granularity.minute, .hour, .day][1]? = some .hour ∧ Granularity.hour < .month ∧
      ∃ view, chain.views[1]? = some view ∧
        ((∃ select, (sketchBuilder.adHocRollup view (.ofGranularity .month)).result =
            .ok select) ↔
          ∃ deeper, (sketchBuilder.build trades [.minute, .hour, .month]).result = .ok deeper) ∧
        ∀ {select deeper},
          (sketchBuilder.adHocRollup view (.ofGranularity .month)).result = .ok select →
            (sketchBuilder.build trades [.minute, .hour, .month]).result = .ok deeper →
              select.sql = deeper.coarsest.selectSql :=
  ⟨_, rfl, rfl, by decide,
    @adHocRollup_eq_coarsest_of_build sketchBuilder trades [.minute, .hour, .day] _ rfl 1 .hour
      .month rfl (by decide)⟩

/-- A chain begins with the chain over its first bucket widths: with all views of it, and with all
warnings about it.  What stops the shorter chain stops the longer one. -/
theorem build_append_begins {nearer farther : List Granularity} {sequence : GranularitySequence}
    (hnearer : nearer ≠ [])
    (hsequence : GranularitySequence.ofList (nearer ++ farther) = .ok sequence) :
    (∀ {longer}, (builder.build definition (nearer ++ farther)).result = .ok longer →
      ∃ shorter, (builder.build definition nearer).result = .ok shorter ∧
        shorter.views.length = nearer.length ∧ shorter.views <+: longer.views ∧
        shorter.warnings <+: longer.warnings) ∧
      ∀ {error}, (builder.build definition nearer).result = .error error →
        (builder.build definition (nearer ++ farther)).result = .error error := by
  obtain ⟨begun, hbegun⟩ := GranularitySequence.exists_ofList_of_append hnearer hsequence
  cases nearer with
  | nil => exact absurd rfl hnearer
  | cons finest nearer =>
    rw [List.cons_append] at hsequence ⊢
    constructor
    · intro longer hlonger
      obtain ⟨views, warnings, hviews, rfl⟩ := (result_build_eq_ok_iff hsequence).1 hlonger
      obtain ⟨near, first, far, more, hnear, -, rfl, rfl⟩ :=
        result_coarserViews_append_eq_ok_iff.1 hviews
      refine ⟨_, (result_build_eq_ok_iff hbegun).2 ⟨near, first, hnear, rfl⟩, ?_, ?_, ?_⟩
      · rw [Chain.views, List.length_cons, List.length_cons, length_of_coarserViews hnear]
      · exact ⟨far, by simp [Chain.views]⟩
      · exact List.prefix_append first more
    · intro error herror
      rw [result_build_eq_error_iff hbegun] at herror
      rw [result_build_eq_error_iff hsequence]
      exact result_coarserViews_append_of_error herror farther

/-- Without a rule for sketches, the day goes on with the sketch and with a second warning, and a strict
builder does not even get to the hour. -/
theorem build_append_begins_trades :
    [Granularity.minute, .hour] ≠ [] ∧
      (∃ sequence, GranularitySequence.ofList ([.minute, .hour] ++ [.day]) = .ok sequence) ∧
      (∃ longer, ((ChainBuilder.mk ⟨[]⟩ false).build trades
            ([.minute, .hour] ++ [.day])).result = .ok longer ∧
          longer.warnings.length = 2 ∧
          ∃ shorter, ((ChainBuilder.mk ⟨[]⟩ false).build trades [.minute, .hour]).result =
              .ok shorter ∧
            shorter.views.length = 2 ∧ shorter.views <+: longer.views ∧
            shorter.warnings <+: longer.warnings) ∧
      ∃ error, ((ChainBuilder.mk ⟨[]⟩ true).build trades [.minute, .hour]).result =
          .error error ∧
        ((ChainBuilder.mk ⟨[]⟩ true).build trades ([.minute, .hour] ++ [.day])).result =
          .error error :=
  ⟨by simp, ⟨_, rfl⟩,
    ⟨_, rfl, rfl, (@build_append_begins ⟨⟨[]⟩, false⟩ trades [.minute, .hour] [.day] _
      (by simp) rfl).1 rfl⟩,
    _, rfl, (@build_append_begins ⟨⟨[]⟩, true⟩ trades [.minute, .hour] [.day] _
      (by simp) rfl).2 rfl⟩

end ChainBuilder

end TimeRollup
