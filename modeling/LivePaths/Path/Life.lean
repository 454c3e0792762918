import LivePaths.Conf.Set
import LivePaths.Path.Request

set_option relaxedAutoImplicit false
set_option autoImplicit false

/-!
# The life of a path

A path is created for a name that a configuration governs. It takes messages one at a time, follows
changes of its configuration and the passing of time, and ends when it is not needed any more or is
destroyed.

## Main definitions

* `Path.create` — the beginning.
* `PathMessage`, `Path.receive` — messages.
* `Path.reload` — a new configuration.
* `Path.advance` — passing of time.
* `Path.shutdown`, `Path.destroy` — the end.

## Main results

* `Path.receive_of_ended` — a path that has ended does not react to messages.
-/

namespace LivePaths

namespace Path

/-! ## The beginning -/

/-- Takes up the source that the configuration names, if the path need not wait for it. -/
def takeSource (p : Path) : Path :=
  match p.conf.source with
  | .redirect => { p with source := some .redirect }
  | .publisher => p
  | source =>
    let url := source.toText
    let created :=
      { p with source := some (.static url) }.emit (.sourceCreated p.name url p.captures)
    if p.conf.sourceOnDemand then created else created.emit (.sourceStarted false "")

/-- Launches what is to be launched when the path begins. -/
def launchInit (p : Path) : Path :=
  let (launcher, teardown) := p.launcher.onInit p.baseEnvironment p.conf.commands
  { p with launcher, onUninit := some teardown }

/-- **The beginning** of a path at a time. -/
def create (settings : PathSettings) (now id : Nat) (name : String) (found : ConfSet.Found) :
    Path :=
  let p : Path :=
    { id, name, conf := found.conf, captures := found.captures, settings
      launcher := { now } }
  p.takeSource.launchInit.emit .init

/-! ## The end -/

/-- Releases the source: one that the path runs itself is closed if it runs, a publisher is
disconnected. -/
def releaseSource (p : Path) : Path :=
  let left := { p with source := none }
  match p.source with
  | some (.static _) =>
    if p.conf.sourceOnDemand && p.sourceDemand.isIdle then left
    else left.emit (.sourceClosed "path is closing")
  | some (.publisher client) => left.emit (.publisherClosed client)
  | some .redirect | none => left

/-- **The end**; the registry is notified unless it wanted this end. -/
def shutdown (p : Path) : Path :=
  let ending :=
    { p.notify .closed with
      ended := true
      sourceDemand := p.sourceDemand.stopTimers
      launchDemand := p.launchDemand.stopTimers }
  let uninit := { ending.tearDown ending.onUninit with onUninit := none }.emit .uninit
  let released := (uninit.failHeld .terminated).becomeUnready.releaseSource
  if released.launchDemand.isIdle then released else released.stopLaunch "path destroyed"

/-- **Destruction**: the end that the registry wants. -/
def destroy (p : Path) : Path := if p.ended then p else { p with ended := true }.shutdown

/-- Ends if the path is not used any more. -/
def closeIfUnused (p : Path) : Path := if p.isUnused then p.shutdown else p

/-! ## New configurations -/

/-- The path runs with a configuration from now on, and its source is told. -/
def follow (p : Path) (c : Conf) : Path :=
  match p.source with
  | some (.static _) =>
    { p with conf := c, source := some (.static c.source.toText) }.emit (.sourceReloaded c.name)
  | _ => { p with conf := c }

/-- **A new configuration**: what is recorded also changes if the path is ready. -/
def reload (p : Path) (c : Conf) : Path :=
  let told := p.follow c
  if p.isReady && p.conf.recordChanged c then
    let stopped := told.stopRecording
    if c.record.enabled then stopped.startRecording else stopped
  else told

end Path

/-! ## Messages -/

/-- **Messages** to a path; requests carry a number under which they are answered. -/
inductive PathMessage where
  | describe (request : Nat) (query : String)
  | addPublisher (request : Nat) (client : Client) (description : MediaDescription)
      (rtp : Bool) (query : String) (expected : Option Conf)
  | removePublisher (client : Client)
  | addReader (request : Nat) (client : Client) (query : String)
  | removeReader (client : Client)
  | sourceReady (request : Nat) (description : MediaDescription) (rtp : Bool)
  | sourceNotReady
  | abandon (request : Nat)
  deriving DecidableEq

namespace Path

/-- **One message.** After a message that may have taken away the last use of the path, it ends. -/
def receive (p : Path) (m : PathMessage) : Path :=
  if p.ended then p
  else
    match m with
    | .describe request query => (p.describe request query).closeIfUnused
    | .addPublisher request client d rtp query expected =>
      match p.addPublisher request client d rtp query expected with
      | .ok p => p
      | .error e => (p.answer request (.refused e)).closeIfUnused
    | .removePublisher client => (p.removePublisher client).closeIfUnused
    | .addReader request client query => (p.addReader request client query).closeIfUnused
    | .removeReader client => p.removeReader client
    | .sourceReady request d rtp => p.sourceReady request d rtp
    | .sourceNotReady => p.sourceNotReady.closeIfUnused
    | .abandon request => p.abandon request

/-- A path that has ended does not react to messages. -/
theorem receive_of_ended {p : Path} (h : p.ended = true) (m : PathMessage) : p.receive m = p := by
  simp [receive, h]

/-! ## Time -/

/-- The commands of the path follow the clock up to a time. -/
def runTo (p : Path) (time : Nat) : Path := { p with launcher := p.launcher.advance time }

/-- The next deadline of what runs on demand. -/
def deadline? (p : Path) : Option Nat :=
  if p.ended then none else (p.sourceDemand.deadlines ++ p.launchDemand.deadlines).min?

/-- Whether a timer has come to its time. -/
def isDue (p : Path) (timer : Option Nat) : Bool := timer.any (· ≤ p.now)

/-- The source was not ready in time. -/
def failSource (p : Path) : Path :=
  ((p.failHeld (.sourceTimedOut p.name)).stopSource "timed out").closeIfUnused

/-- Nobody has come to read from the source. -/
def retireSource (p : Path) : Path :=
  (p.becomeUnready.stopSource "not needed by anyone").closeIfUnused

/-- Nobody has published in time. -/
def failLaunch (p : Path) : Path :=
  ((p.failHeld (.sourceTimedOut p.name)).stopLaunch "timed out").closeIfUnused

/-- Nobody has come to read what was launched for. This does not end the path. -/
def retireLaunch (p : Path) : Path := p.stopLaunch "not needed by anyone"

/-- **A timer goes off**; of several that are due the first one in this order. -/
def expire (p : Path) : Path :=
  if p.isDue p.sourceDemand.readyAt then p.failSource
  else if p.isDue p.sourceDemand.closeAt then p.retireSource
  else if p.isDue p.launchDemand.readyAt then p.failLaunch
  else if p.isDue p.launchDemand.closeAt then p.retireLaunch
  else p

/-- Time passes up to the next deadline, if there is one up to a time. -/
def passDeadline (p : Path) (time : Nat) : Path :=
  match p.deadline? with
  | none => p
  | some d => if d ≤ time then (p.runTo d).expire else p

/-- **Passing of time** up to a later time. Both activations may come to a deadline. A timer that
goes off stops the timers of its activation and arms no other one, so two passes are enough. -/
def advance (p : Path) (time : Nat) : Path :=
  ((p.passDeadline time).passDeadline time).runTo time

/-- What is due at the present time is done. -/
def settle (p : Path) : Path := p.advance p.now

end Path

end LivePaths
