import TimeRollup.Registry

/-!
# Sessions

A session works on a registry and on the log that the statements of the registry are run against.  A
request that fails is answered with its error, and the session goes on.
-/

namespace TimeRollup

/-- What a registry can have the database do. -/
inductive Operation where
  | createAll
  | dropAll
  | removePolicies
  /-- Refreshes the views of a chain, or only those of some bucket widths. -/
  | refresh (name : String) (window : RefreshWindow) (only : Option (List Granularity))
  deriving DecidableEq, Repr

namespace Registry

def statements (registry : Registry) : Operation → Except RollupError (List Statement)
  | .createAll => .ok registry.createStatements
  | .dropAll => .ok registry.dropStatements
  | .removePolicies => .ok registry.removePolicyStatements
  | .refresh name window only => registry.refreshStatements name window only

def perform (registry : Registry) :
    Operation → StatementLog → Except RollupError Nat × StatementLog
  | .createAll => registry.createAll
  | .dropAll => registry.dropAll
  | .removePolicies => registry.removePolicies
  | .refresh name window only => registry.refresh name window only

theorem perform_of_error {registry : Registry} {operation : Operation} {error : RollupError}
    (h : registry.statements operation = .error error) (log : StatementLog) :
    registry.perform operation log = (.error error, log) := by
  cases operation with
  | refresh name window only =>
    rw [statements] at h
    rw [perform, refresh, h]
  | _ => simp [statements] at h

theorem perform_of_ok {registry : Registry} {operation : Operation} {statements : List Statement}
    (h : registry.statements operation = .ok statements) (log : StatementLog) :
    registry.perform operation log = log.run (statements.map Statement.sql) := by
  cases operation with
  | refresh name window only =>
    rw [Registry.statements] at h
    rw [perform, refresh, h]
    rfl
  | _ =>
    cases h
    rfl

end Registry

inductive Request where
  | register (definition : AggregateDefinition) (granularities : List Granularity)
  | perform (operation : Operation)
  deriving DecidableEq, Repr

inductive Answer where
  | registered (chain : Chain)
  | executed (count : Nat)
  deriving DecidableEq, Repr

structure Session where
  registry : Registry
  log : StatementLog
  deriving DecidableEq, Repr, Inhabited

namespace Session

def start (builder : ChainBuilder) (options : ViewOptions) (log : StatementLog) : Session :=
  ⟨.empty builder options, log⟩

/-- The answer to a request, and the session after it. -/
def step (session : Session) : Request → Outcome RollupError Answer × Session
  | .register definition granularities =>
    let outcome := session.registry.register definition granularities
    match outcome.result with
    | .ok (chain, registry) =>
      (⟨outcome.notices, .ok (.registered chain)⟩, { session with registry := registry })
    | .error error => (⟨outcome.notices, .error error⟩, session)
  | .perform operation =>
    let (result, log) := session.registry.perform operation session.log
    (.ofExcept (result.map .executed), { session with log := log })

theorem registry_step_perform (session : Session) (operation : Operation) :
    (session.step (.perform operation)).2.registry = session.registry :=
  rfl

theorem step_register_of_error {session : Session} {definition : AggregateDefinition}
    {granularities : List Granularity} {error : RollupError}
    (h : (session.registry.buildChain definition granularities).result = .error error) :
    session.step (.register definition granularities) =
      (⟨(session.registry.buildChain definition granularities).notices, .error error⟩,
        session) := by
  simp only [step, Registry.register]
  generalize session.registry.buildChain definition granularities = outcome at h ⊢
  obtain ⟨notices, result⟩ := outcome
  obtain rfl : result = .error error := h
  simp

theorem step_register_of_ok {session : Session} {definition : AggregateDefinition}
    {granularities : List Granularity} {chain : Chain}
    (h : (session.registry.buildChain definition granularities).result = .ok chain) :
    session.step (.register definition granularities) =
      (⟨(session.registry.buildChain definition granularities).notices,
          .ok (.registered chain)⟩,
        { session with
          registry := { session.registry with chains := session.registry.chains ++ [chain] } }) := by
  simp only [step, Registry.register]
  generalize session.registry.buildChain definition granularities = outcome at h ⊢
  obtain ⟨notices, result⟩ := outcome
  obtain rfl : result = .ok chain := h
  simp

/-- The session after several requests, whatever they are answered with. -/
def run (session : Session) (requests : List Request) : Session :=
  requests.foldl (fun session request => (session.step request).2) session

@[simp]
theorem run_nil (session : Session) : session.run [] = session :=
  rfl

@[simp]
theorem run_cons (session : Session) (request : Request) (requests : List Request) :
    session.run (request :: requests) = ((session.step request).2).run requests :=
  rfl

theorem run_concat (session : Session) (requests : List Request) (request : Request) :
    session.run (requests ++ [request]) = ((session.run requests).step request).2 := by
  simp [run, List.foldl_append]

end Session

end TimeRollup
