import TimeRollup.Granularity.Sequence
import TimeRollup.View

/-!
# Chains of views

The views of one definition, one for each bucket width of an increasing sequence.
-/

namespace TimeRollup

structure Chain where
  definition : AggregateDefinition
  granularities : GranularitySequence
  /-- The view that reads raw rows. -/
  finest : View
  /-- The other views, finest first. -/
  coarser : List View
  /-- The expressions that a coarser view reads unchanged. -/
  warnings : List RewriteWarning
  deriving DecidableEq, Repr

namespace Chain

def name (chain : Chain) : String :=
  chain.definition.name

/-- All views, finest first. -/
def views (chain : Chain) : List View :=
  chain.finest :: chain.coarser

def viewsCoarsestFirst (chain : Chain) : List View :=
  chain.views.reverse

def coarsest (chain : Chain) : View :=
  chain.views.getLast (List.cons_ne_nil _ _)

/-- The view of a bucket width. -/
def view? (chain : Chain) (granularity : Granularity) : Option View :=
  chain.views.find? (·.granularity == granularity)

def length (chain : Chain) : Nat :=
  chain.views.length

def isEmpty (chain : Chain) : Bool :=
  chain.views.isEmpty

theorem isEmpty_eq_false (chain : Chain) : chain.isEmpty = false :=
  rfl

theorem granularity_of_view? {chain : Chain} {granularity : Granularity} {view : View}
    (h : chain.view? granularity = some view) : view.granularity = granularity := by
  simpa using List.find?_some h

end Chain

end TimeRollup
