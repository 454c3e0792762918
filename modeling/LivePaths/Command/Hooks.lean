import LivePaths.Command.Launcher

set_option relaxedAutoImplicit false
set_option autoImplicit false

/-!
# Commands in the life of a path

Which commands are launched when something begins, and what has to be done when it ends. What is
done at the end is fixed at the beginning: the command, its environment and the job that is stopped.

## Main definitions

* `Teardown` — what is done at an end, carried out by `Launcher.tearDown`.
* `Launcher.onInit`, `Launcher.onDemand`, `Launcher.onReady` — what is done at a beginning.
* `Launcher.onSegmentCreate`, `Launcher.onSegmentComplete` — what is done for the segments of a
  recording.
-/

namespace LivePaths

/-- **Teardown**: what is done at the end of something. -/
structure Teardown where
  /-- The job that is stopped. -/
  job : Option Nat
  /-- The command that is launched then, none if it is empty. -/
  line : String
  environment : Environment
  deriving DecidableEq

namespace Launcher

/-- **The end**: the job is stopped, then the command is launched. -/
def tearDown (l : Launcher) (t : Teardown) : Launcher :=
  (l.stop t.job).runOnce t.line t.environment

/-- Starts a command and says what is done when it ends. -/
def begin (l : Launcher) (c : CommandLine) (atEnd : String) (env : Environment) :
    Launcher × Teardown :=
  let (l, job) := l.start c env
  (l, ⟨job, atEnd, env⟩)

/-- A path begins. Nothing is launched at its end. -/
def onInit (l : Launcher) (base : Environment) (c : CommandConf) : Launcher × Teardown :=
  l.begin c.onInit "" base

/-- A path is asked for. -/
def onDemand (l : Launcher) (base : Environment) (c : CommandConf) (query : String) :
    Launcher × Teardown :=
  l.begin c.onDemand c.onUndemand (base.forDemand query)

/-- A path becomes ready. -/
def onReady (l : Launcher) (base : Environment) (c : CommandConf) (source : Option Descriptor)
    (query : String) : Launcher × Teardown :=
  l.begin c.onReady c.onNotReady (base.forReady source query)

/-- A segment is created; `line` is the command for this. -/
def onSegmentCreate (l : Launcher) (base : Environment) (line segment : String) : Launcher :=
  l.runOnce line (base.forSegment segment)

/-- A segment is complete and has some length; `line` is the command for this. -/
def onSegmentComplete (l : Launcher) (base : Environment) (line segment : String)
    (secs nanos : Nat) : Launcher :=
  l.runOnce line (base.forCompleteSegment segment secs nanos)

end Launcher

end LivePaths
