import TimeRollup.Calendar.Duration
import TimeRollup.Config.Basic
import TimeRollup.FileTree

/-!
# Reports

What the program prints and how it exits.  A failure is reported with the cause behind it, if that is
not the failure itself.
-/

namespace TimeRollup.CommandLine

open TimeRollup.Calendar

inductive Failure where
  | load (path : String) (error : ConfigError)
  | build (error : ConfigError)
  | format (text : String)
  | rollup (error : RollupError)
  | timestamp (text : String)
  | duration (fault : DurationFault)
  | file (fault : FileFault)
  /-- A window would start outside of the calendar. -/
  | outsideCalendar
  deriving DecidableEq, Repr

namespace Failure

def message : Failure → String
  | .load path _ => "loading config from " ++ Text.quoted path
  | .build _ => "building rollup chains"
  | .format text => "Unknown output format: " ++ text ++ ". Use: text, json"
  | .rollup error => error.message
  | .timestamp text => "Invalid timestamp: " ++ text ++ ". Use RFC 3339"
  | .duration fault => fault.message
  | .file fault => fault.message
  | .outsideCalendar => "the window starts outside of the calendar"

def cause? : Failure → Option String
  | .load _ error | .build error => some error.message
  | _ => none

/-- The lines of the cause are indented. -/
def causeText : Option String → String
  | none => ""
  | some cause =>
    "\n\nCaused by:\n    " ++ String.ofList (cause.toList.flatMap fun c =>
      if c = '\n' then ['\n', ' ', ' ', ' ', ' '] else [c])

def text (failure : Failure) : String :=
  "Error: " ++ failure.message ++ causeText failure.cause?

def exitCode : Failure → Nat
  | .outsideCalendar => 101
  | _ => 1

end Failure

structure Report where
  exitCode : Nat
  output : String
  errors : String
  deriving DecidableEq, Repr

namespace Report

def success (output : String) : Report :=
  ⟨0, output, ""⟩

def ofResult : Except Failure String → Report
  | .ok output => success output
  | .error failure => ⟨failure.exitCode, "", failure.text ++ "\n"⟩

theorem exitCode_ne_zero (failure : Failure) : failure.exitCode ≠ 0 := by
  cases failure <;> simp [Failure.exitCode]

/-- Only what fails exits with another code than zero, and it prints nothing but its errors. -/
theorem exitCode_ofResult_eq_zero_iff (result : Except Failure String) :
    (ofResult result).exitCode = 0 ↔ ∃ output, result = .ok output := by
  cases result with
  | error failure => simp [ofResult, exitCode_ne_zero]
  | ok output => simp [ofResult, success]

theorem output_ofResult_error (failure : Failure) : (ofResult (.error failure)).output = "" :=
  rfl

end Report

end TimeRollup.CommandLine
