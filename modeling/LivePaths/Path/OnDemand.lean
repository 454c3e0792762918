set_option relaxedAutoImplicit false
set_option autoImplicit false

/-!
# On-demand activation

Where something stands that runs only while somebody asks for it: a source that is started, or a
command that is launched to publish. Times are in milliseconds.

## Main definitions

* `DemandPhase` — the four phases.
* `OnDemand` — an activation: its phase and its two timers.
-/

namespace LivePaths

/-- **Phases** of an on-demand activation. -/
inductive DemandPhase where
  /-- Nobody has asked. -/
  | idle
  /-- It was started and is not ready yet. -/
  | starting
  /-- It is ready, and somebody reads. -/
  | inUse
  /-- It is ready, and nobody reads. -/
  | closing
  deriving DecidableEq, Repr

/-- **Activation** on demand. A timer that is not armed has no time. -/
structure OnDemand where
  phase : DemandPhase := .idle
  /-- When it has to be ready. -/
  readyAt : Option Nat := none
  /-- When it is stopped because nobody reads. -/
  closeAt : Option Nat := none
  deriving DecidableEq, Repr

namespace OnDemand

/-- Whether nobody has asked. -/
def isIdle (o : OnDemand) : Bool := o.phase = .idle

/-- The times of the armed timers. -/
def deadlines (o : OnDemand) : List Nat := o.readyAt.toList ++ o.closeAt.toList

/-- **Somebody has asked**: it has to be ready at the deadline. -/
def begin (o : OnDemand) (deadline : Nat) : OnDemand :=
  { o with phase := .starting, readyAt := some deadline }

/-- It is stopped at the deadline. -/
def scheduleClose (o : OnDemand) (deadline : Nat) : OnDemand :=
  { o with phase := .closing, closeAt := some deadline }

/-- **It has become ready**, and is stopped at the deadline unless somebody reads. -/
def ready (o : OnDemand) (deadline : Nat) : OnDemand :=
  { o with readyAt := none }.scheduleClose deadline

/-- **A reader has come**: nothing is stopped any more. -/
def readerAttached (o : OnDemand) : OnDemand :=
  if o.phase = .closing then { o with phase := .inUse, closeAt := none } else o

/-- **The last reader has gone**: what is in use is stopped at the deadline. -/
def readersGone (o : OnDemand) (deadline : Nat) : OnDemand :=
  if o.phase = .inUse then o.scheduleClose deadline else o

/-- Both timers are stopped. -/
def stopTimers (o : OnDemand) : OnDemand := { o with readyAt := none, closeAt := none }

/-- **The end**: nobody has asked any more. -/
def reset (o : OnDemand) : OnDemand := { o.stopTimers with phase := .idle }

end OnDemand

end LivePaths
