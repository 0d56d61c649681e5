import TimeRollup.Calendar.Instant
import TimeRollup.Error

/-!
# Refresh windows

The span of time over which a view is refreshed.  An open end reaches as far as there are rows.
-/

namespace TimeRollup

open TimeRollup.Calendar

structure RefreshWindow where
  start : Option Instant
  stop : Option Instant
  deriving DecidableEq, Repr, Inhabited

namespace RefreshWindow

def all : RefreshWindow :=
  ⟨none, none⟩

/-- A window whose bounds, if it has both, are in order. -/
def ofBounds (start stop : Option Instant) : Except RollupError RefreshWindow :=
  match start, stop with
  | some first, some last =>
    if first < last then .ok ⟨start, stop⟩
    else .error (.configuration ("refresh window start " ++ first.displayText ++
      " is not before end " ++ last.displayText))
  | _, _ => .ok ⟨start, stop⟩

/-- The window of the given number of seconds up to `now`, if the calendar has its start. -/
def last? (now : Instant) (seconds : Int) : Option RefreshWindow :=
  (now.before? seconds).map fun start => ⟨some start, some now⟩

theorem ofBounds_eq_ok_iff {start stop : Option Instant} {window : RefreshWindow} :
    ofBounds start stop = .ok window ↔
      window = ⟨start, stop⟩ ∧ ∀ first ∈ start, ∀ last ∈ stop, first < last := by
  unfold ofBounds
  split
  · rename_i first last
    by_cases h : first < last
    · simp [h, eq_comm]
    · simp [h]
  · rename_i hnone
    cases start with
    | none => simp [eq_comm]
    | some first =>
      cases stop with
      | none => simp [eq_comm]
      | some last => exact absurd rfl (hnone first last rfl)

end RefreshWindow

end TimeRollup
