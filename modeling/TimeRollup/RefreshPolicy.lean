import TimeRollup.Interval.Basic

/-!
# Refresh policies

A view with a policy is refreshed on a schedule, each time over the window between two offsets before
the moment of the refresh.  A missing offset leaves its side of the window open.
-/

namespace TimeRollup

structure RefreshPolicy where
  startOffset : Option Interval
  endOffset : Option Interval
  scheduleInterval : Interval
  deriving DecidableEq, Repr

namespace RefreshPolicy

/-- Reads the intervals in the order of the arguments; the first that is none decides the error. -/
def ofTexts (startOffset endOffset : Option String) (schedule : String) :
    Except RollupError RefreshPolicy := do
  return ⟨← startOffset.mapM Interval.ofText, ← endOffset.mapM Interval.ofText,
    ← Interval.ofText schedule⟩

end RefreshPolicy

/-- The policies of the views of a chain, by bucket width, finest first. -/
structure RefreshPlan where
  entries : List (Granularity × RefreshPolicy)
  deriving DecidableEq, Repr, Inhabited

namespace RefreshPlan

def empty : RefreshPlan :=
  ⟨[]⟩

def get? (plan : RefreshPlan) (granularity : Granularity) : Option RefreshPolicy :=
  plan.entries.lookup granularity

def insertEntry (granularity : Granularity) (policy : RefreshPolicy) :
    List (Granularity × RefreshPolicy) → List (Granularity × RefreshPolicy)
  | [] => [(granularity, policy)]
  | entry :: entries =>
    if granularity < entry.1 then (granularity, policy) :: entry :: entries
    else if granularity = entry.1 then (granularity, policy) :: entries
    else entry :: insertEntry granularity policy entries

/-- Sets the policy of a bucket width in place of the one that it has. -/
def insert (plan : RefreshPlan) (granularity : Granularity) (policy : RefreshPolicy) :
    RefreshPlan :=
  ⟨insertEntry granularity policy plan.entries⟩

def granularities (plan : RefreshPlan) : List Granularity :=
  plan.entries.map Prod.fst

private theorem lookup_entry_cons (granularity : Granularity)
    (entry : Granularity × RefreshPolicy) (entries : List (Granularity × RefreshPolicy)) :
    (entry :: entries).lookup granularity =
      if granularity = entry.1 then some entry.2 else entries.lookup granularity := by
  rw [List.lookup_cons]
  by_cases h : granularity = entry.1
  · simp [h]
  · simp [h, beq_false_of_ne h]

theorem lookup_insertEntry (granularity other : Granularity) (policy : RefreshPolicy)
    (entries : List (Granularity × RefreshPolicy)) :
    (insertEntry granularity policy entries).lookup other =
      if other = granularity then some policy else entries.lookup other := by
  induction entries with
  | nil => simp [insertEntry, lookup_entry_cons]
  | cons entry entries ih =>
    simp only [insertEntry]
    split
    · simp only [lookup_entry_cons]
    split
    · rename_i heq
      simp only [lookup_entry_cons, heq]
      split <;> rfl
    · rename_i hne
      simp only [lookup_entry_cons, ih]
      by_cases h : other = granularity
      · simp [h, hne]
      · simp [h]

/-- Setting a policy changes the policy of its bucket width only. -/
theorem get?_insert (plan : RefreshPlan) (granularity other : Granularity)
    (policy : RefreshPolicy) :
    (plan.insert granularity policy).get? other =
      if other = granularity then some policy else plan.get? other :=
  lookup_insertEntry granularity other policy plan.entries

end RefreshPlan

end TimeRollup
