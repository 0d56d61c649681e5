import TimeRollup.Proofs.Chain.Structure

/-!
# What a lenient builder refuses

The bucket widths have to increase, and where there is more than one of them, every group key has to be an
alias.  Nothing else stops a lenient builder: the keys are checked at every level, but aliases are the same
at all levels, so a missing key is found at the finest view or never.  Of several faults the first is
reported, the faults of the bucket widths before those of the keys.
-/

namespace TimeRollup

/-! ## Bucket widths -/

theorem firstFall?_append {before : List Granularity} {previous next : Granularity}
    (hbefore : (before ++ [previous]).Pairwise (· < ·)) (hfall : ¬ previous < next)
    (after : List Granularity) :
    firstFall? (before ++ previous :: next :: after) = some (previous, next) := by
  induction before with
  | nil => rw [List.nil_append, firstFall?, if_neg hfall]
  | cons low before ih =>
    rw [List.cons_append, List.pairwise_cons] at hbefore
    obtain ⟨hlow, hrest⟩ := hbefore
    cases before with
    | nil =>
      rw [List.cons_append, List.nil_append, firstFall?, if_pos (hlow previous (by simp))]
      exact ih hrest
    | cons high before =>
      rw [List.cons_append, List.cons_append, firstFall?, if_pos (hlow high (by simp))]
      exact ih hrest

/-- Before the first fall the bucket widths increase. -/
theorem exists_of_firstFall?_eq_some {granularities : List Granularity}
    {previous next : Granularity} (h : firstFall? granularities = some (previous, next)) :
    ∃ before after, granularities = before ++ previous :: next :: after ∧
      (before ++ [previous]).Pairwise (· < ·) ∧ ¬ previous < next := by
  simp only [← firstFall?_eq_none_iff]
  induction granularities with
  | nil => simp [firstFall?] at h
  | cons low rest ih =>
    cases rest with
    | nil => simp [firstFall?] at h
    | cons high rest =>
      rw [firstFall?] at h
      split at h
      · rename_i hlt
        obtain ⟨before, after, hrest, hbefore, hfall⟩ := ih h
        refine ⟨low :: before, after, by rw [hrest, List.cons_append], ?_, hfall⟩
        cases before with
        | nil =>
          obtain rfl := (List.cons.inj hrest).1
          rw [List.cons_append, List.nil_append, firstFall?, if_pos hlt]
          rfl
        | cons lowest before =>
          obtain rfl := (List.cons.inj hrest).1
          rw [List.cons_append, List.cons_append, firstFall?, if_pos hlt]
          exact hbefore
      · rename_i hfall
        obtain ⟨rfl, rfl⟩ : low = previous ∧ high = next := by simpa using h
        exact ⟨[], rest, rfl, rfl, hfall⟩

namespace GranularitySequence

theorem ofList_of_firstFall?_eq_some {granularities : List Granularity}
    {previous next : Granularity} (h : firstFall? granularities = some (previous, next)) :
    ofList granularities = .error (.nonMonotonicGranularity previous.name next.name) := by
  unfold ofList
  split
  · rename_i hempty
    simp [hempty, firstFall?] at h
  · split
    · rename_i found after hfall
      obtain ⟨rfl, rfl⟩ : found = previous ∧ after = next := by simpa [hfall] using h
      rfl
    · rename_i hnone
      simp [hnone] at h

end GranularitySequence

namespace ChainBuilder

variable {definition : AggregateDefinition}

/-! ## Group keys -/

/-- The first key that is missing is reported. -/
theorem checkGroupKeys_eq_error_iff {groupKeys : List String} {view : View}
    {error : RollupError} :
    checkGroupKeys groupKeys view = .error error ↔
      ∃ before key after, groupKeys = before ++ key :: after ∧
        (∀ known ∈ before, known ∈ view.aliases) ∧ key ∉ view.aliases ∧
        error = .missingGroupColumn key view.tableName := by
  have hfind (key : String) : (groupKeys.find? fun column => !view.aliases.contains column) =
      some key ↔ ∃ before after, groupKeys = before ++ key :: after ∧
        (∀ known ∈ before, known ∈ view.aliases) ∧ key ∉ view.aliases := by
    simp only [List.find?_eq_some_iff_append, Bool.not_eq_true', Bool.not_not,
      List.contains_iff_mem]
    constructor
    · rintro ⟨hkey, before, after, hkeys, hbefore⟩
      exact ⟨before, after, hkeys, hbefore, by simpa using hkey⟩
    · rintro ⟨before, after, hkeys, hbefore, hkey⟩
      exact ⟨by simpa using hkey, before, after, hkeys, hbefore⟩
  unfold checkGroupKeys
  split
  · rename_i column hcolumn
    constructor
    · intro h
      obtain ⟨before, after, hkeys, hbefore, hkey⟩ := (hfind column).1 hcolumn
      exact ⟨before, column, after, hkeys, hbefore, hkey, (Except.error.inj h).symm⟩
    · rintro ⟨before, key, after, hkeys, hbefore, hkey, rfl⟩
      obtain rfl := Option.some.inj
        (hcolumn.symm.trans ((hfind key).2 ⟨before, after, hkeys, hbefore, hkey⟩))
      rfl
  · rename_i hnone
    simp only [reduceCtorEq, false_iff]
    rintro ⟨before, key, after, hkeys, hbefore, hkey, -⟩
    rw [(hfind key).2 ⟨before, after, hkeys, hbefore, hkey⟩] at hnone
    simp at hnone

/-! ## Faults -/

/-- Whether a lenient builder gets through is decided by the keys, at the finest view. -/
theorem result_buildOver_lenient (table : RuleTable) (sequence : GranularitySequence) :
    ((ChainBuilder.mk table false).buildOver definition sequence).result =
      if sequence.toList.tail = [] then .ok (chainOver table definition sequence)
      else (checkGroupKeys definition.groupBy (finestView definition sequence.finest)).map
        fun _ => chainOver table definition sequence := by
  cases htail : sequence.toList.tail with
  | nil =>
    simp [buildOver, htail, coarserViews, Outcome.notice, chainOver, viewsOver, warningsOver]
  | cons granularity granularities =>
    rw [if_neg (by simp)]
    cases hcheck : checkGroupKeys definition.groupBy (finestView definition sequence.finest) with
    | error error =>
      simp [buildOver, htail, coarserViews_of_missing hcheck, Outcome.notice, Outcome.fail,
        Except.map]
    | ok checked =>
      rw [buildOver_lenient (checkGroupKeys_eq_ok_iff.1 hcheck)]
      rfl

/-- The faults that stop a lenient builder, with what is reported of them. -/
inductive BuildFault (definition : AggregateDefinition) : List Granularity → RollupError → Prop
  | empty : BuildFault definition [] (.configuration "granularity sequence is empty")
  /-- The first two neighbours that do not increase. -/
  | fall {before after : List Granularity} {previous next : Granularity}
      (hbefore : (before ++ [previous]).Pairwise (· < ·)) (hfall : ¬ previous < next) :
      BuildFault definition (before ++ previous :: next :: after)
        (.nonMonotonicGranularity previous.name next.name)
  /-- The first key that is no alias, missed in the finest view. -/
  | missing {finest next : Granularity} {coarser : List Granularity} {before after : List String}
      {key : String} (hincreasing : (finest :: next :: coarser).Pairwise (· < ·))
      (hgroupBy : definition.groupBy = before ++ key :: after)
      (hbefore : ∀ known ∈ before, known ∈ definition.aliases)
      (hkey : key ∉ definition.aliases) :
      BuildFault definition (finest :: next :: coarser)
        (.missingGroupColumn key (definition.tableName finest))

/-- Widths that are refused are refused for the first fault. -/
theorem buildFault_iff_of_ofList_error {granularities : List Granularity}
    {refusal error : RollupError}
    (hsequence : GranularitySequence.ofList granularities = .error refusal) :
    BuildFault definition granularities error ↔ refusal = error := by
  constructor
  · rintro (_ | ⟨hbefore, hfall⟩ | ⟨hincreasing, -, -, -⟩)
    · exact (Except.error.inj hsequence).symm
    · rw [GranularitySequence.ofList_of_firstFall?_eq_some (firstFall?_append hbefore hfall _)]
        at hsequence
      exact (Except.error.inj hsequence).symm
    · obtain ⟨sequence, hok⟩ := GranularitySequence.exists_ofList_iff.2
        ⟨List.cons_ne_nil _ _, hincreasing⟩
      simp [hok] at hsequence
  · rintro rfl
    cases hfall : firstFall? granularities with
    | some fall =>
      obtain ⟨previous, next⟩ := fall
      rw [GranularitySequence.ofList_of_firstFall?_eq_some hfall, Except.error.injEq] at hsequence
      obtain ⟨before, after, rfl, hbefore, hnot⟩ := exists_of_firstFall?_eq_some hfall
      exact hsequence ▸ .fall hbefore hnot
    | none =>
      cases granularities with
      | nil => exact Except.error.inj hsequence ▸ .empty
      | cons finest coarser =>
        obtain ⟨sequence, hok⟩ := GranularitySequence.exists_ofList_iff.2
          ⟨List.cons_ne_nil finest coarser, firstFall?_eq_none_iff.1 hfall⟩
        simp [hok] at hsequence

/-- Widths that increase are not at fault, so the keys are. -/
theorem buildFault_iff_of_ofList {granularities : List Granularity} {error : RollupError}
    {sequence : GranularitySequence}
    (hsequence : GranularitySequence.ofList granularities = .ok sequence) :
    BuildFault definition granularities error ↔
      sequence.toList.tail ≠ [] ∧
        checkGroupKeys definition.groupBy (finestView definition sequence.finest) =
          .error error := by
  have hlist := GranularitySequence.toList_of_ofList hsequence
  constructor
  · rintro (_ | ⟨hbefore, hfall⟩ | ⟨-, hgroupBy, hbefore, hkey⟩)
    · exact absurd hlist sequence.ne_nil
    · rw [GranularitySequence.ofList_of_firstFall?_eq_some (firstFall?_append hbefore hfall _)]
        at hsequence
      simp at hsequence
    · rw [hlist, GranularitySequence.finest_of_ofList hsequence]
      exact ⟨by simp, checkGroupKeys_eq_error_iff.2 ⟨_, _, _, hgroupBy, hbefore, hkey, rfl⟩⟩
  · rintro ⟨htail, hcheck⟩
    obtain ⟨before, key, after, hgroupBy, hbefore, hkey, rfl⟩ :=
      checkGroupKeys_eq_error_iff.1 hcheck
    have hincreasing := sequence.increasing
    rw [hlist] at htail hincreasing
    cases granularities with
    | nil => exact absurd hlist sequence.ne_nil
    | cons finest coarser =>
      rw [List.tail_cons] at htail
      obtain ⟨next, coarser, rfl⟩ := List.exists_cons_of_ne_nil htail
      rw [GranularitySequence.finest_of_ofList hsequence]
      exact .missing hincreasing hgroupBy hbefore hkey

/-- A lenient builder succeeds exactly on increasing bucket widths, of which there is only one or every
group key is an alias, and otherwise reports the first fault. -/
theorem build_lenient_accepts_iff (table : RuleTable) (definition : AggregateDefinition)
    (granularities : List Granularity) :
    ((∃ chain, ((ChainBuilder.mk table false).build definition granularities).result = .ok chain) ↔
        granularities ≠ [] ∧ granularities.Pairwise (· < ·) ∧
          (granularities.length = 1 ∨ ∀ key ∈ definition.groupBy, key ∈ definition.aliases)) ∧
      ∀ error, ((ChainBuilder.mk table false).build definition granularities).result =
          .error error ↔ BuildFault definition granularities error := by
  rw [← and_assoc, ← GranularitySequence.exists_ofList_iff]
  cases hsequence : GranularitySequence.ofList granularities with
  | error refusal =>
    rw [build_of_ofList_error hsequence]
    refine ⟨by simp [Outcome.fail], fun error => ?_⟩
    rw [buildFault_iff_of_ofList_error hsequence, Outcome.fail, Except.error.injEq]
  | ok sequence =>
    have hone : granularities.length = 1 ↔ sequence.toList.tail = [] := by
      rw [← GranularitySequence.toList_of_ofList hsequence, ← List.length_eq_zero_iff,
        List.length_tail, Nat.sub_eq_zero_iff_le]
      have hpos := List.length_pos_iff.2 sequence.ne_nil
      omega
    have hkeys : (∀ key ∈ definition.groupBy, key ∈ definition.aliases) ↔
        checkGroupKeys definition.groupBy (finestView definition sequence.finest) = .ok () :=
      (@checkGroupKeys_eq_ok_iff _ (finestView definition sequence.finest)).symm
    rw [build_of_ofList hsequence, result_buildOver_lenient, hone, hkeys]
    simp only [buildFault_iff_of_ofList hsequence]
    by_cases htail : sequence.toList.tail = []
    · simp [htail]
    · cases checkGroupKeys definition.groupBy (finestView definition sequence.finest) <;>
        simp [htail, Except.map]

/-- The week comes before the day, and the fall is reported although a key is missing as well; between
minute and hour the first missing key is. -/
theorem build_lenient_accepts_iff_trades :
    (∃ chain, ((ChainBuilder.mk ⟨[]⟩ false).build
        { trades with groupBy := ["venue"] } [.hour]).result = .ok chain) ∧
      ((ChainBuilder.mk ⟨[]⟩ false).build
          { trades with groupBy := ["venue"] } [.minute, .week, .day, .hour]).result =
        .error (.nonMonotonicGranularity "week" "day") ∧
      ((ChainBuilder.mk ⟨[]⟩ false).build
          { trades with groupBy := ["symbol", "venue", "side"] } [.minute, .hour]).result =
        .error (.missingGroupColumn "venue" "ticks_per_minute") := by
  have hclosed := build_lenient_accepts_iff ⟨[]⟩ { trades with groupBy := ["venue"] }
  refine ⟨(hclosed [.hour]).1.2 ⟨by simp, by simp, .inl rfl⟩, ?_, ?_⟩
  · exact ((hclosed [.minute, .week, .day, .hour]).2 _).2
      (@BuildFault.fall _ [.minute] [.hour] .week .day (by decide) (by decide))
  · exact ((build_lenient_accepts_iff ⟨[]⟩ _ [.minute, .hour]).2 _).2
      (@BuildFault.missing _ .minute .hour [] ["symbol"] ["side"] "venue" (by decide) rfl
        (by simp; decide) (by decide))

end ChainBuilder

end TimeRollup
