import TimeRollup.Proofs.Chain.Levels

/-!
# Strict builders

A strict builder does what a lenient one does, up to the first warning, which it turns into an error.
Both check the group keys before each level.  They cannot differ there, since a group key that is
missing at all is missing in the finest view, before any entry has been rewritten.
-/

namespace TimeRollup

namespace Notice

/-- The warning that a notice about a forwarded entry passes on. -/
def warning? : Notice → Option RewriteWarning
  | .forwarded warning => some warning
  | _ => none

def isForwarded (notice : Notice) : Bool :=
  notice.warning?.isSome

/-- The notices up to the first one about a forwarded entry, and that one. -/
def throughForwarded : List Notice → List Notice
  | [] => []
  | notice :: notices =>
    if notice.isForwarded then [notice] else notice :: throughForwarded notices

theorem throughForwarded_append {before : List Notice}
    (hbefore : ∀ notice ∈ before, notice.isForwarded = false) (after : List Notice) :
    throughForwarded (before ++ after) = before ++ throughForwarded after := by
  induction before with
  | nil => rfl
  | cons notice before ih =>
    have hnotice : notice.isForwarded = false := hbefore notice List.mem_cons_self
    rw [List.cons_append, throughForwarded, if_neg (by simp [hnotice]),
      ih fun later hlater => hbefore later (List.mem_cons_of_mem _ hlater)]
    rfl

theorem filterMap_warning?_eq_nil {notices : List Notice}
    (hnotices : ∀ notice ∈ notices, notice.isForwarded = false) :
    notices.filterMap warning? = [] := by
  rw [List.filterMap_eq_nil_iff]
  intro notice hmem
  simpa [isForwarded] using hnotices notice hmem

end Notice

namespace Outcome

variable {α : Type} {warnings : α → List RewriteWarning}

/-- The outcome in which the first warning about the value is the error instead.  Nothing that comes
after the warning is noticed. -/
def promote (warnings : α → List RewriteWarning) (outcome : Outcome RollupError α) :
    Outcome RollupError α :=
  match outcome.result with
  | .error _ => outcome
  | .ok value =>
    match warnings value with
    | [] => outcome
    | warning :: _ => ⟨Notice.throughForwarded outcome.notices, .error warning.toError⟩

theorem promote_error (notices : List Notice) (error : RollupError) :
    promote warnings ⟨notices, .error error⟩ = ⟨notices, .error error⟩ :=
  rfl

theorem promote_of_nil {notices : List Notice} {value : α} (h : warnings value = []) :
    promote warnings ⟨notices, .ok value⟩ = ⟨notices, .ok value⟩ := by
  simp [promote, h]

theorem promote_of_cons {notices : List Notice} {value : α} {warning : RewriteWarning}
    {more : List RewriteWarning} (h : warnings value = warning :: more) :
    promote warnings ⟨notices, .ok value⟩ =
      ⟨Notice.throughForwarded notices, .error warning.toError⟩ := by
  simp [promote, h]

/-- A promoted outcome succeeds only if there was nothing to promote. -/
theorem result_promote_eq_ok_iff {outcome : Outcome RollupError α} {value : α} :
    (outcome.promote warnings).result = .ok value ↔
      outcome.result = .ok value ∧ warnings value = [] := by
  obtain ⟨notices, result⟩ := outcome
  cases result with
  | error error => simp [promote_error]
  | ok middle =>
    cases hwarnings : warnings middle with
    | nil =>
      rw [promote_of_nil hwarnings]
      constructor
      · intro h
        exact ⟨h, Except.ok.inj h ▸ hwarnings⟩
      · exact And.left
    | cons warning more =>
      rw [promote_of_cons hwarnings]
      simp only [reduceCtorEq, Except.ok.injEq, false_iff]
      rintro ⟨rfl, hnil⟩
      simp [hnil] at hwarnings

end Outcome

namespace ChainBuilder

open Notice

variable {table : RuleTable} {definition : AggregateDefinition}

theorem isForwarded_of_mem_scheduleNotices {finer view : View} {notice : Notice}
    (hmem : notice ∈ scheduleNotices finer view) : notice.isForwarded = false := by
  unfold scheduleNotices at hmem
  split at hmem
  · split at hmem
    · rw [List.mem_singleton.1 hmem]
      rfl
    · simp at hmem
  · simp at hmem

theorem isForwarded_of_mem_planNotices {sequence : GranularitySequence} {notice : Notice}
    (hmem : notice ∈ planNotices definition sequence) : notice.isForwarded = false := by
  obtain ⟨granularity, -, rfl⟩ := List.mem_map.1 hmem
  rfl

theorem rewriteItems_strict (view : String) (items : List SelectItem) :
    (ChainBuilder.mk table true).rewriteItems view items =
      ((ChainBuilder.mk table false).rewriteItems view items).promote Prod.snd := by
  rw [rewriteItems_lenient]
  induction items with
  | nil => rfl
  | cons item items ih =>
    rw [rewriteItems, RuleTable.forwardWarnings_cons, RuleTable.coarserItems_cons]
    cases hrewrite : table.rewrite item with
    | forwarded forwarded =>
      simp [Outcome.notice, Outcome.fail, Outcome.promote, throughForwarded,
        Rewrite.isForwarded, Rewrite.item, Notice.isForwarded, warning?]
    | rolled rolled | passThrough rolled =>
      rw [ih]
      cases hwarnings : table.forwardWarnings view items <;>
        simp [Outcome.promote, Rewrite.isForwarded, Rewrite.item]

theorem coarserView_strict (finer : View) (granularity : Granularity) :
    (ChainBuilder.mk table true).coarserView definition finer granularity =
      ((ChainBuilder.mk table false).coarserView definition finer granularity).promote
        Prod.snd := by
  rw [coarserView, coarserView, rewriteItems_strict, rewriteItems_lenient]
  cases checkGroupKeys definition.groupBy finer with
  | error error => rfl
  | ok checked =>
    cases hwarnings : table.forwardWarnings (definition.tableName granularity)
        finer.selectItems with
    | nil => simp [Outcome.ofExcept, Outcome.notice, Outcome.promote]
    | cons warning more =>
      simp [Outcome.ofExcept, Outcome.notice, Outcome.promote, throughForwarded,
        Notice.isForwarded, warning?]

/-- The error of a later level would come after a warning of an earlier one, but there is none: with all
group keys in the view below, every level passes the check. -/
theorem coarserViews_strict (finer : View) (granularities : List Granularity) :
    (ChainBuilder.mk table true).coarserViews definition finer granularities =
      ((ChainBuilder.mk table false).coarserViews definition finer granularities).promote
        Prod.snd := by
  induction granularities generalizing finer with
  | nil => rfl
  | cons granularity granularities ih =>
    cases hcheck : checkGroupKeys definition.groupBy finer with
    | error error =>
      rw [coarserViews_of_missing hcheck, coarserViews_of_missing hcheck]
      rfl
    | ok checked =>
      have hkeys := checkGroupKeys_eq_ok_iff.1 hcheck
      have hnext : ∀ key ∈ definition.groupBy,
          key ∈ (nextView table definition finer granularity).aliases := by
        simpa using hkeys
      rw [coarserViews, coarserView_strict, coarserView_lenient hkeys,
        coarserViews_lenient hkeys]
      simp only [noticesOver, viewsOver, warningsOver]
      cases table.forwardWarnings (definition.tableName granularity) finer.selectItems with
      | nil =>
        have hschedule (later : List Notice) :
            throughForwarded
                (scheduleNotices finer (nextView table definition finer granularity) ++ later) =
              scheduleNotices finer (nextView table definition finer granularity) ++
                throughForwarded later :=
          throughForwarded_append (fun _ => isForwarded_of_mem_scheduleNotices) later
        simp only [List.map_nil, List.nil_append]
        rw [Outcome.promote_of_nil rfl, Outcome.bind_ok, ih, coarserViews_lenient hnext]
        cases hwarnings : warningsOver table definition
            (nextView table definition finer granularity) granularities <;>
          simp [Outcome.promote, hschedule]
      | cons warning more =>
        simp [Outcome.promote, throughForwarded, Notice.isForwarded, warning?]

theorem buildOver_strict (sequence : GranularitySequence) :
    (ChainBuilder.mk table true).buildOver definition sequence =
      ((ChainBuilder.mk table false).buildOver definition sequence).promote
        Chain.warnings := by
  have hplan (later : List Notice) :
      throughForwarded (planNotices definition sequence ++ later) =
        planNotices definition sequence ++ throughForwarded later :=
    throughForwarded_append (fun _ => isForwarded_of_mem_planNotices) later
  simp only [buildOver, coarserViews_strict]
  obtain ⟨notices, result⟩ := (ChainBuilder.mk table false).coarserViews definition
    (finestView definition sequence.finest) sequence.toList.tail
  cases result with
  | error error => simp [Outcome.notice, Outcome.promote]
  | ok levels =>
    obtain ⟨views, warnings⟩ := levels
    cases warnings <;> simp [Outcome.notice, Outcome.promote, hplan]

/-- Whatever the builder, a chain that is built consists of the levels over its finest view. -/
theorem exists_of_build {builder : ChainBuilder} {granularities : List Granularity}
    {chain : Chain} (h : (builder.build definition granularities).result = .ok chain) :
    ∃ sequence, GranularitySequence.ofList granularities = .ok sequence ∧
      chain = chainOver builder.rules definition sequence ∧
      (builder.strict = true → chain.warnings = []) := by
  obtain ⟨table, strict⟩ := builder
  cases hsequence : GranularitySequence.ofList granularities with
  | error error => simp [build_of_ofList_error hsequence, Outcome.fail] at h
  | ok sequence =>
    rw [build_of_ofList hsequence] at h
    refine ⟨sequence, rfl, ?_⟩
    cases strict with
    | false => exact ⟨eq_chainOver_of_buildOver_lenient h, by simp⟩
    | true =>
      rw [buildOver_strict, Outcome.result_promote_eq_ok_iff] at h
      exact ⟨eq_chainOver_of_buildOver_lenient h.1, fun _ => h.2⟩

/-- The warnings of a chain are those that were noticed, in the same order. -/
theorem filterMap_warning?_noticesOver (finer : View) (granularities : List Granularity) :
    (noticesOver table definition finer granularities).filterMap warning? =
      warningsOver table definition finer granularities := by
  induction granularities generalizing finer with
  | nil => rfl
  | cons granularity granularities ih =>
    have hschedule : (scheduleNotices finer
        (nextView table definition finer granularity)).filterMap warning? = [] :=
      filterMap_warning?_eq_nil fun _ => isForwarded_of_mem_scheduleNotices
    simp only [noticesOver, warningsOver, List.filterMap_append, ih, hschedule,
      List.append_nil, List.filterMap_map]
    congr 1
    exact List.filterMap_some

theorem filterMap_warning?_lenientOutcome (sequence : GranularitySequence) :
    (lenientOutcome table definition sequence).notices.filterMap warning? =
      (chainOver table definition sequence).warnings := by
  have hplan : (planNotices definition sequence).filterMap warning? = [] :=
    filterMap_warning?_eq_nil fun _ => isForwarded_of_mem_planNotices
  rw [lenientOutcome, List.filterMap_append, hplan, List.nil_append, chainOver]
  exact filterMap_warning?_noticesOver _ _

/-- A strict builder makes of a definition what a lenient one makes of it, with the first warning
promoted to an error.  The notices tell of exactly the warnings, so that the first notice about a
forwarded entry, where a strict builder stops, is the one about the first warning. -/
theorem build_strict_eq_promote (table : RuleTable) (definition : AggregateDefinition)
    (granularities : List Granularity) :
    (ChainBuilder.mk table true).build definition granularities =
        ((ChainBuilder.mk table false).build definition granularities).promote
          Chain.warnings ∧
      ∀ {chain : Chain},
        ((ChainBuilder.mk table false).build definition granularities).result = .ok chain →
          ((ChainBuilder.mk table false).build definition granularities).notices.filterMap
            warning? = chain.warnings := by
  cases hsequence : GranularitySequence.ofList granularities with
  | error error =>
    rw [build_of_ofList_error hsequence, build_of_ofList_error hsequence]
    exact ⟨rfl, by simp [Outcome.fail]⟩
  | ok sequence =>
    rw [build_of_ofList hsequence, build_of_ofList hsequence]
    refine ⟨buildOver_strict sequence, ?_⟩
    intro chain hover
    rw [buildOver_lenient_of_ok hover, filterMap_warning?_lenientOutcome,
      eq_chainOver_of_buildOver_lenient hover]

end ChainBuilder

end TimeRollup
