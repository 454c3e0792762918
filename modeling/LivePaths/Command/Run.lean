import LivePaths.Command.Hooks

set_option relaxedAutoImplicit false
set_option autoImplicit false

/-!
# Runs of hooks

The commands of one path alone: a sequence of beginnings, ends and pauses, and what is launched in
it. The teardowns are numbered in the order of the beginnings, and each can be used once.

## Main definitions

* `HookStep` — a step of a run.
* `HookRun` — a run so far, with `HookRun.step` and `HookRun.finish`.
-/

namespace LivePaths

/-- **Steps** of a run. -/
inductive HookStep where
  | init
  | demand (query : String)
  | ready (source : Option Descriptor) (query : String)
  /-- Uses the teardown of a number, if there is one that was not used. -/
  | tearDown (number : Nat)
  | segmentCreate (segment : String)
  | segmentComplete (segment : String) (secs nanos : Nat)
  | sleep (ms : Nat)
  deriving DecidableEq, Repr

/-- **Run** so far. -/
structure HookRun where
  base : Environment
  launcher : Launcher := {}
  /-- The teardowns that were not used, under their numbers. -/
  teardowns : List (Nat × Teardown) := []
  /-- How many teardowns there have been. -/
  numbered : Nat := 0
  deriving DecidableEq

namespace HookRun

/-- Takes up a beginning. -/
def begun (r : HookRun) (b : Launcher × Teardown) : HookRun :=
  { r with
    launcher := b.1
    teardowns := r.teardowns ++ [(r.numbered, b.2)]
    numbered := r.numbered + 1 }

/-- Uses the teardown of a number. -/
def tearDown (r : HookRun) (number : Nat) : HookRun :=
  match r.teardowns.lookup number with
  | none => r
  | some t =>
    { r with
      launcher := r.launcher.tearDown t
      teardowns := r.teardowns.filter fun e => e.1 ≠ number }

/-- **One step**, under the commands of a configuration. -/
def step (r : HookRun) (c : CommandConf) : HookStep → HookRun
  | .init => r.begun (r.launcher.onInit r.base c)
  | .demand query => r.begun (r.launcher.onDemand r.base c query)
  | .ready source query => r.begun (r.launcher.onReady r.base c source query)
  | .tearDown number => r.tearDown number
  | .segmentCreate segment =>
    { r with launcher := r.launcher.onSegmentCreate r.base c.onSegmentCreate segment }
  | .segmentComplete segment secs nanos =>
    { r with
      launcher := r.launcher.onSegmentComplete r.base c.onSegmentComplete segment secs nanos }
  | .sleep ms => { r with launcher := r.launcher.advance (r.launcher.now + ms) }

/-- **The end** of a run: the teardowns that were not used are used, in their order. -/
def finish (r : HookRun) : HookRun :=
  (r.teardowns.map (·.1)).foldl tearDown r

/-- How many commands are alive. -/
def running (r : HookRun) : Nat := r.launcher.jobs.length

/-- What is launched from one point of a run to another, in the order of its lines. -/
def launchesBetween (before after : HookRun) : List Launch :=
  Text.sortByLine Launch.text (after.launcher.launches.drop before.launcher.launches.length)

end HookRun

end LivePaths
