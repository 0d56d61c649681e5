import TimeRollup.Granularity.Basic

/-!
# Outcomes with notices

Building a chain may call attention to something without failing.  Such notices are kept in the order in
which they arise, and those that came before an error stay.
-/

namespace TimeRollup

inductive Notice where
  /-- The chain has no view for the policy. -/
  | policyOutsideChain (aggregate : String) (granularity : Granularity)
  | forwarded (warning : RewriteWarning)
  /-- A view that is refreshed more often than the view it reads sees the same rows again. -/
  | refreshesFaster (view schedule source sourceSchedule : String)
  deriving DecidableEq, Repr

namespace Notice

def message : Notice → String
  | .policyOutsideChain _ _ =>
    "Refresh policy configured for a granularity outside the chain, ignoring"
  | .forwarded _ => "No rollup rule matched, forwarding expression unchanged"
  | .refreshesFaster _ _ _ _ => "View refreshes more often than its source"

/-- What the notice is about, by name. -/
def fields : Notice → List (String × String)
  | .policyOutsideChain aggregate granularity =>
    [("aggregate", aggregate), ("granularity", granularity.name)]
  | .forwarded warning =>
    [("view", warning.view), ("alias", warning.aliasName), ("expression", warning.expression)]
  | .refreshesFaster view schedule source sourceSchedule =>
    [("view", view), ("schedule", schedule), ("source", source),
     ("source_schedule", sourceSchedule)]

end Notice

structure Outcome (ε α : Type) where
  notices : List Notice
  result : Except ε α

namespace Outcome

variable {ε ε' α β : Type}

def ofExcept (result : Except ε α) : Outcome ε α :=
  ⟨[], result⟩

def fail (error : ε) : Outcome ε α :=
  ⟨[], .error error⟩

def notice (notices : List Notice) : Outcome ε Unit :=
  ⟨notices, .ok ()⟩

def bind (outcome : Outcome ε α) (next : α → Outcome ε β) : Outcome ε β :=
  match outcome.result with
  | .ok value => ⟨outcome.notices ++ (next value).notices, (next value).result⟩
  | .error error => ⟨outcome.notices, .error error⟩

def mapError (f : ε → ε') (outcome : Outcome ε α) : Outcome ε' α :=
  ⟨outcome.notices, outcome.result.mapError f⟩

instance : Monad (Outcome ε) where
  pure value := ⟨[], .ok value⟩
  bind := bind

@[simp]
theorem pure_eq (value : α) : (pure value : Outcome ε α) = ⟨[], .ok value⟩ :=
  rfl

@[simp]
theorem bind_ok (notices : List Notice) (value : α) (next : α → Outcome ε β) :
    (⟨notices, .ok value⟩ : Outcome ε α) >>= next =
      ⟨notices ++ (next value).notices, (next value).result⟩ :=
  rfl

@[simp]
theorem bind_error (notices : List Notice) (error : ε) (next : α → Outcome ε β) :
    (⟨notices, .error error⟩ : Outcome ε α) >>= next = ⟨notices, .error error⟩ :=
  rfl

instance : LawfulMonad (Outcome ε) :=
  LawfulMonad.mk' (Outcome ε)
    (fun ⟨notices, result⟩ => by cases result <;> simp [Functor.map, bind])
    (fun value next => by simp)
    (fun ⟨notices, result⟩ next more => by
      cases result with
      | error error => rfl
      | ok value => cases h : (next value).result <;> simp [Bind.bind, bind, h])

/-- An outcome succeeds after another exactly when both do, and the notices of both are kept. -/
theorem bind_eq_ok_iff {outcome : Outcome ε α} {next : α → Outcome ε β} {notices : List Notice}
    {value : β} :
    outcome >>= next = ⟨notices, .ok value⟩ ↔
      ∃ first middle later, outcome = ⟨first, .ok middle⟩ ∧
        next middle = ⟨later, .ok value⟩ ∧ notices = first ++ later := by
  obtain ⟨first, result⟩ := outcome
  cases result with
  | error error => simp
  | ok middle =>
    simp only [bind_ok, Outcome.mk.injEq, Except.ok.injEq]
    constructor
    · rintro ⟨rfl, hresult⟩
      exact ⟨first, middle, (next middle).notices, ⟨rfl, rfl⟩, by rw [← hresult], rfl⟩
    · rintro ⟨_, _, later, ⟨rfl, rfl⟩, hnext, rfl⟩
      simp [hnext]

end Outcome

end TimeRollup
