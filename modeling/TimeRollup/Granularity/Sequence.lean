import TimeRollup.Granularity.Basic

/-!
# Increasing sequences of bucket widths

The widths of a chain of views: at least one, each coarser than the one before.  A list that is not
increasing is refused at its first pair of neighbours that does not increase.
-/

namespace TimeRollup

/-- The first two neighbours of which the second is not the coarser one. -/
def firstFall? : List Granularity → Option (Granularity × Granularity)
  | [] => none
  | [_] => none
  | previous :: next :: rest =>
    if previous < next then firstFall? (next :: rest) else some (previous, next)

theorem firstFall?_eq_none_iff {granularities : List Granularity} :
    firstFall? granularities = none ↔ granularities.Pairwise (· < ·) := by
  induction granularities with
  | nil => simp [firstFall?]
  | cons previous rest ih =>
    cases rest with
    | nil => simp [firstFall?]
    | cons next rest =>
      rw [firstFall?, List.pairwise_cons]
      constructor
      · intro h
        split at h
        · rename_i hlt
          have hrest := ih.1 h
          refine ⟨fun later hmem => ?_, hrest⟩
          rcases List.mem_cons.1 hmem with rfl | hmem
          · exact hlt
          · exact Granularity.lt_trans hlt ((List.pairwise_cons.1 hrest).1 later hmem)
        · simp at h
      · rintro ⟨hlt, hrest⟩
        rw [if_pos (hlt next List.mem_cons_self)]
        exact ih.2 hrest

structure GranularitySequence where
  toList : List Granularity
  ne_nil : toList ≠ []
  increasing : toList.Pairwise (· < ·)
  deriving DecidableEq, Repr

namespace GranularitySequence

def ofList (granularities : List Granularity) : Except RollupError GranularitySequence :=
  if hempty : granularities = [] then
    .error (.configuration "granularity sequence is empty")
  else
    match hfall : firstFall? granularities with
    | some (previous, next) => .error (.nonMonotonicGranularity previous.name next.name)
    | none => .ok ⟨granularities, hempty, firstFall?_eq_none_iff.1 hfall⟩

/-- Reads names of bucket widths; the first name that is none decides the error. -/
def ofNames (names : List String) : Except RollupError GranularitySequence := do
  ofList (← names.mapM Granularity.ofText)

/-- The widths of a chain for which none are given. -/
def standard : GranularitySequence :=
  ⟨[.minute, .hour, .day, .month], by decide, by decide⟩

/-- The width of the buckets that are computed from raw rows. -/
def finest (sequence : GranularitySequence) : Granularity :=
  sequence.toList.head sequence.ne_nil

def coarsest (sequence : GranularitySequence) : Granularity :=
  sequence.toList.getLast sequence.ne_nil

def length (sequence : GranularitySequence) : Nat :=
  sequence.toList.length

def isEmpty (sequence : GranularitySequence) : Bool :=
  sequence.toList.isEmpty

def contains (sequence : GranularitySequence) (granularity : Granularity) : Bool :=
  sequence.toList.contains granularity

theorem toList_of_ofList {granularities : List Granularity} {sequence : GranularitySequence}
    (h : ofList granularities = .ok sequence) : sequence.toList = granularities := by
  unfold ofList at h
  split at h
  · simp at h
  · split at h
    · simp at h
    · simp only [Except.ok.injEq] at h
      rw [← h]

theorem exists_ofList_iff {granularities : List Granularity} :
    (∃ sequence, ofList granularities = .ok sequence) ↔
      granularities ≠ [] ∧ granularities.Pairwise (· < ·) := by
  constructor
  · rintro ⟨sequence, h⟩
    rw [← toList_of_ofList h]
    exact ⟨sequence.ne_nil, sequence.increasing⟩
  · rintro ⟨hnonempty, hincreasing⟩
    have hfall := firstFall?_eq_none_iff.2 hincreasing
    refine ⟨⟨granularities, hnonempty, hincreasing⟩, ?_⟩
    unfold ofList
    rw [dif_neg hnonempty]
    split
    · simp_all
    · rfl

theorem finest_of_ofList {finest : Granularity} {coarser : List Granularity}
    {sequence : GranularitySequence} (h : ofList (finest :: coarser) = .ok sequence) :
    sequence.finest = finest := by
  simp [GranularitySequence.finest, toList_of_ofList h]

theorem isEmpty_eq_false (sequence : GranularitySequence) : sequence.isEmpty = false := by
  simp [isEmpty, sequence.ne_nil]

theorem nodup (sequence : GranularitySequence) : sequence.toList.Nodup :=
  sequence.increasing.imp fun {left right} (hlt : left < right) (heq : left = right) =>
    Granularity.lt_irrefl right (heq ▸ hlt)

end GranularitySequence

end TimeRollup
