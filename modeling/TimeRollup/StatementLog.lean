import TimeRollup.Error
import TimeRollup.Text.Substring

/-!
# Logs of statements

A log stands in for a database: it records the statements that it is given.  A log may reject every
statement that contains some text; a run of statements ends at the first that is rejected.
-/

namespace TimeRollup

structure StatementLog where
  statements : List String
  /-- Statements with this text are rejected. -/
  rejects : Option String
  deriving DecidableEq, Repr, Inhabited

namespace StatementLog

def empty (rejects : Option String) : StatementLog :=
  ⟨[], rejects⟩

def isRejected (log : StatementLog) (statement : String) : Bool :=
  match log.rejects with
  | none => false
  | some pattern => Text.contains statement pattern

/-- Records a statement, or rejects it. -/
def execute (log : StatementLog) (statement : String) :
    Except RollupError Unit × StatementLog :=
  if log.isRejected statement then
    (.error (.executor ("statement rejected: " ++ statement)), log)
  else (.ok (), { log with statements := log.statements ++ [statement] })

/-- Executes statements up to the first that is rejected. -/
def executeAll (log : StatementLog) : List String → Except RollupError Unit × StatementLog
  | [] => (.ok (), log)
  | statement :: statements =>
    match log.execute statement with
    | (.ok (), log) => log.executeAll statements
    | (.error error, log) => (.error error, log)

/-- Executes statements and counts them. -/
def run (log : StatementLog) (statements : List String) :
    Except RollupError Nat × StatementLog :=
  let (result, log) := log.executeAll statements
  (result.map fun () => statements.length, log)

/-- Hands out the statements and forgets them. -/
def take (log : StatementLog) : List String × StatementLog :=
  (log.statements, { log with statements := [] })

end StatementLog

end TimeRollup
