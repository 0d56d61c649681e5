import Mathlib.Data.List.TakeWhile
import TimeRollup.Session

/-!
# Running the statements of a registry

A log records the statements that it is given up to the first that it rejects.  So an operation adds to
the log what comes before that statement, and the log of a session is what its operations have added.
-/

namespace TimeRollup

/-! ## Runs on a log -/

namespace StatementLog

/-- A log rejects the statements in which its pattern occurs. -/
def Rejects (log : StatementLog) (statement : String) : Prop :=
  ∃ pattern, log.rejects = some pattern ∧
    ∃ before after, statement = before ++ pattern ++ after

theorem isRejected_iff {log : StatementLog} {statement : String} :
    log.isRejected statement = true ↔ log.Rejects statement := by
  unfold isRejected Rejects
  cases log.rejects with
  | none => simp
  | some pattern =>
    simp only [Text.contains, Text.occursIn_iff_exists, Option.some.injEq, exists_eq_left']
    constructor
    · rintro ⟨before, after, h⟩
      refine ⟨.ofList before, .ofList after, String.toList_inj.1 ?_⟩
      simpa using h
    · rintro ⟨before, after, rfl⟩
      exact ⟨before.toList, after.toList, by simp⟩

theorem isRejected_eq_false_iff {log : StatementLog} {statement : String} :
    log.isRejected statement = false ↔ ¬ log.Rejects statement := by
  rw [← isRejected_iff, Bool.not_eq_true]

/-- The log with further statements. -/
def record (log : StatementLog) (statements : List String) : StatementLog :=
  { log with statements := log.statements ++ statements }

/-- The statements before the first that is rejected. -/
def accepted (log : StatementLog) (statements : List String) : List String :=
  statements.takeWhile fun statement => !log.isRejected statement

variable {log : StatementLog} {before after : List String} {statement : String}

theorem record_nil (log : StatementLog) : log.record [] = log := by
  simp [record]

theorem record_record (log : StatementLog) (first second : List String) :
    (log.record first).record second = log.record (first ++ second) := by
  simp [record]

theorem accepted_of_accepted {statements : List String}
    (h : ∀ statement ∈ statements, ¬ log.Rejects statement) :
    log.accepted statements = statements := by
  rw [accepted, List.takeWhile_eq_self_iff]
  intro statement hmem
  simpa using isRejected_eq_false_iff.2 (h statement hmem)

theorem accepted_of_rejected (hbefore : ∀ earlier ∈ before, ¬ log.Rejects earlier)
    (hstatement : log.Rejects statement) :
    log.accepted (before ++ statement :: after) = before := by
  rw [accepted, List.takeWhile_append_of_pos,
    List.takeWhile_cons_of_neg (by simpa using isRejected_iff.2 hstatement), List.append_nil]
  intro earlier hmem
  simpa using isRejected_eq_false_iff.2 (hbefore earlier hmem)

theorem executeAll_append (hbefore : ∀ earlier ∈ before, ¬ log.Rejects earlier) :
    log.executeAll (before ++ after) = (log.record before).executeAll after := by
  induction before generalizing log with
  | nil => rw [List.nil_append, record_nil]
  | cons earlier before ih =>
    have hfirst := isRejected_eq_false_iff.2 (hbefore earlier List.mem_cons_self)
    have hexecute : log.execute earlier = (.ok (), log.record [earlier]) := by
      simp [execute, hfirst, record]
    rw [List.cons_append, executeAll, hexecute]
    -- What the log rejects depends on its pattern only, so `before` is as acceptable as it was.
    have hrest : ∀ later ∈ before, ¬ (log.record [earlier]).Rejects later := fun later hmem =>
      hbefore later (List.mem_cons_of_mem _ hmem)
    exact (ih hrest).trans (by rw [record_record]; rfl)

/-- A run in which nothing is rejected records and counts everything. -/
theorem run_of_accepted {statements : List String}
    (h : ∀ statement ∈ statements, ¬ log.Rejects statement) :
    log.run statements = (.ok statements.length, log.record statements) := by
  have hall : log.executeAll (statements ++ []) = (.ok (), log.record statements) :=
    executeAll_append h
  rw [List.append_nil] at hall
  rw [run, hall]
  rfl

/-- A run ends at the first statement that is rejected and records what comes before it. -/
theorem run_of_rejected (hbefore : ∀ earlier ∈ before, ¬ log.Rejects earlier)
    (hstatement : log.Rejects statement) :
    log.run (before ++ statement :: after) =
      (.error (.executor ("statement rejected: " ++ statement)), log.record before) := by
  have hrejected : (log.record before).isRejected statement = true := isRejected_iff.2 hstatement
  rw [run, executeAll_append hbefore, executeAll, execute, if_pos hrejected]
  rfl

example : (empty (some "hour")).run ["per minute", "per hour", "per day"] =
    (.error (.executor "statement rejected: per hour"), ⟨["per minute"], some "hour"⟩) := by
  decide

/-- Either a log rejects none of the statements, or one of them is the first that it rejects. -/
theorem accepted_or_rejected (log : StatementLog) (statements : List String) :
    (∀ statement ∈ statements, ¬ log.Rejects statement) ∨
      ∃ before statement after, statements = before ++ statement :: after ∧
        (∀ earlier ∈ before, ¬ log.Rejects earlier) ∧ log.Rejects statement := by
  cases hfind : statements.find? log.isRejected with
  | none =>
    refine .inl fun statement hmem => ?_
    simpa [isRejected_iff] using List.find?_eq_none.1 hfind statement hmem
  | some statement =>
    obtain ⟨hstatement, before, after, rfl, hbefore⟩ := List.find?_eq_some_iff_append.1 hfind
    refine .inr ⟨before, statement, after, rfl, fun earlier hmem => ?_, isRejected_iff.1 hstatement⟩
    exact isRejected_eq_false_iff.1 (by simpa using hbefore earlier hmem)

theorem log_run (log : StatementLog) (statements : List String) :
    (log.run statements).2 = log.record (log.accepted statements) := by
  rcases log.accepted_or_rejected statements with h | ⟨before, statement, after, rfl, hbefore, h⟩
  · rw [run_of_accepted h, accepted_of_accepted h]
  · rw [run_of_rejected hbefore h, accepted_of_rejected hbefore h]

end StatementLog

/-! ## Operations of a session -/

namespace Registry

/-- The statements of an operation cannot be made, for a name or a bucket width that is unknown. -/
inductive Refuses (registry : Registry) : Operation → RollupError → Prop where
  | unknownName {name : String} {window : RefreshWindow} {only : Option (List Granularity)}
    (hunknown : ∀ chain ∈ registry.chains, chain.name ≠ name) :
    Refuses registry (.refresh name window only) (.definitionNotFound name)
  /-- The first bucket width of which the chain has no view is the error. -/
  | unknownWidth {name : String} {window : RefreshWindow} {chain : Chain}
    {before after : List Granularity} {granularity : Granularity}
    (hchain : registry.chain name = .ok chain)
    (hbefore : ∀ width ∈ before, (chain.view? width).isSome)
    (hmissing : chain.view? granularity = none) :
    Refuses registry (.refresh name window (some (before ++ granularity :: after)))
      (.granularityNotInChain name granularity.name)

variable {registry : Registry} {operation : Operation} {error : RollupError}

theorem chain_eq_error_of_unknown {name : String}
    (hunknown : ∀ chain ∈ registry.chains, chain.name ≠ name) :
    registry.chain name = .error (.definitionNotFound name) := by
  have hfind : registry.chains.find? (·.name == name) = none := by
    simpa using hunknown
  rw [chain, hfind]

theorem refuses_of_refreshStatements {name : String} {window : RefreshWindow}
    {only : Option (List Granularity)}
    (h : registry.refreshStatements name window only = .error error) :
    registry.Refuses (.refresh name window only) error := by
  unfold refreshStatements at h
  cases hfind : registry.chains.find? (·.name == name) with
  | none =>
    have hunknown : ∀ chain ∈ registry.chains, chain.name ≠ name := by
      simpa using hfind
    rw [chain_eq_error_of_unknown hunknown] at h
    cases h
    exact .unknownName hunknown
  | some chain =>
    have hchain : registry.chain name = .ok chain := by
      rw [Registry.chain, hfind]
    simp only [hchain, bind, Except.bind] at h
    split at h
    · rename_i granularity hmissing
      cases h
      cases only with
      | none => cases hmissing
      | some only =>
        obtain ⟨hnone, before, after, rfl, hbefore⟩ := List.find?_eq_some_iff_append.1 hmissing
        refine .unknownWidth hchain (fun width hmem => ?_) (by simpa using hnone)
        simpa [Option.isSome_iff_ne_none] using hbefore width hmem
    · cases h

theorem statements_eq_error_iff :
    registry.statements operation = .error error ↔ registry.Refuses operation error := by
  constructor
  · intro h
    cases operation with
    | refresh name window only => exact refuses_of_refreshStatements h
    | _ => cases h
  · intro h
    cases h with
    | unknownName hunknown =>
      rw [statements, refreshStatements, chain_eq_error_of_unknown hunknown]
      rfl
    | @unknownWidth name window chain before after granularity hchain hbefore hmissing =>
      have hfind : (before ++ granularity :: after).find?
          (fun granularity => (chain.view? granularity).isNone) = some granularity := by
        refine List.find?_eq_some_iff_append.2 ⟨by simp [hmissing], before, after, rfl, ?_⟩
        intro width hmem
        simpa [Option.isSome_iff_ne_none] using hbefore width hmem
      simp only [statements, refreshStatements, hchain, bind, Except.bind, Option.getD_some, hfind]

end Registry

namespace Session

/-- What an operation adds to the log. -/
def contribution (session : Session) (operation : Operation) : List String :=
  match session.registry.statements operation with
  | .ok statements => session.log.accepted (statements.map Statement.sql)
  | .error _ => []

/-- What becomes of a session that performs an operation. -/
structure Performs (session : Session) (operation : Operation) : Prop where
  registry_eq : (session.step (.perform operation)).2.registry = session.registry
  log_eq : (session.step (.perform operation)).2.log =
    session.log.record (session.contribution operation)
  unformed_iff : ∀ {error}, session.registry.statements operation = .error error ↔
    session.registry.Refuses operation error
  /-- Nothing is executed if the statements cannot be made. -/
  unformed : ∀ {error}, session.registry.statements operation = .error error →
    (session.step (.perform operation)).1.result = .error error ∧
      (session.step (.perform operation)).2 = session
  /-- If no statement is rejected, all are recorded and counted. -/
  completed : ∀ {statements}, session.registry.statements operation = .ok statements →
    (∀ statement ∈ statements, ¬ session.log.Rejects statement.sql) →
      (session.step (.perform operation)).1.result = .ok (.executed statements.length) ∧
        (session.step (.perform operation)).2.log =
          session.log.record (statements.map Statement.sql)
  /-- The first statement that is rejected is the error, and those before it are recorded. -/
  stopped : ∀ {before statement after},
    session.registry.statements operation = .ok (before ++ statement :: after) →
      (∀ earlier ∈ before, ¬ session.log.Rejects earlier.sql) →
        session.log.Rejects statement.sql →
          (session.step (.perform operation)).1.result =
              .error (.executor ("statement rejected: " ++ statement.sql)) ∧
            (session.step (.perform operation)).2.log =
              session.log.record (before.map Statement.sql)

variable {session : Session} {operation : Operation}

theorem step_perform_of_error {error : RollupError}
    (h : session.registry.statements operation = .error error) :
    session.step (.perform operation) = (.fail error, session) := by
  rw [step, Registry.perform_of_error h]
  rfl

theorem step_perform_of_ok {statements : List Statement}
    (h : session.registry.statements operation = .ok statements) :
    session.step (.perform operation) =
      (.ofExcept ((session.log.run (statements.map Statement.sql)).1.map .executed),
        { session with log := (session.log.run (statements.map Statement.sql)).2 }) := by
  rw [step, Registry.perform_of_ok h]

theorem log_step_perform (session : Session) (operation : Operation) :
    (session.step (.perform operation)).2.log =
      session.log.record (session.contribution operation) := by
  cases h : session.registry.statements operation with
  | error error =>
    rw [step_perform_of_error h, contribution, h, StatementLog.record_nil]
  | ok statements =>
    rw [step_perform_of_ok h, contribution, h, StatementLog.log_run]

theorem performs (session : Session) (operation : Operation) : session.Performs operation where
  registry_eq := registry_step_perform session operation
  log_eq := log_step_perform session operation
  unformed_iff := Registry.statements_eq_error_iff
  unformed h := by
    rw [step_perform_of_error h]
    exact ⟨rfl, rfl⟩
  completed h hall := by
    have hrun := StatementLog.run_of_accepted (List.forall_mem_map.2 hall)
    rw [step_perform_of_ok h, hrun, List.length_map]
    exact ⟨rfl, rfl⟩
  stopped {before statement after} h hbefore hstatement := by
    rw [step_perform_of_ok h, List.map_append, List.map_cons,
      StatementLog.run_of_rejected (List.forall_mem_map.2 hbefore) hstatement]
    exact ⟨rfl, rfl⟩

/-- What an operation adds depends on the registry and on what the log rejects, not on what has been
recorded. -/
theorem contribution_record (session : Session) (statements : List String) :
    contribution { session with log := session.log.record statements } = session.contribution :=
  rfl

theorem run_perform (session : Session) (operations : List Operation) :
    session.run (operations.map .perform) =
      { session with log := session.log.record (operations.flatMap session.contribution) } := by
  induction operations generalizing session with
  | nil => rw [List.map_nil, run_nil, List.flatMap_nil, StatementLog.record_nil]
  | cons operation operations ih =>
    have hstep : (session.step (.perform operation)).2 =
        { session with log := session.log.record (session.contribution operation) } := by
      rw [← log_step_perform]
      rfl
    rw [List.map_cons, run_cons, hstep, ih, contribution_record, List.flatMap_cons,
      StatementLog.record_record]

/-- Each operation is performed up to the first statement that is rejected, and several operations add to
the log what each of them adds to it. -/
theorem executes_operations (session : Session) (operations : List Operation) :
    (∀ operation, session.Performs operation) ∧
      session.run (operations.map .perform) =
        { session with
          log := session.log.record (operations.flatMap session.contribution) } :=
  ⟨session.performs, session.run_perform operations⟩

end Session

end TimeRollup
