import LivePaths.Command.Environment
import LivePaths.Conf.Basic

set_option relaxedAutoImplicit false
set_option autoImplicit false

/-!
# Launching commands

A launcher starts commands at points of a clock. A command ends as soon as it has started; one that
is to be restarted is launched again after a pause, over and over, until it is stopped. Times are in
milliseconds.

## Main definitions

* `Launch` — one start of a command.
* `Launcher` — a clock, the commands that wait to be launched again, and all launches so far.
* `Launcher.start`, `Launcher.stop` — the beginning and the end of a command.
* `Launcher.advance` — passing of time.

## Main results

* `Launcher.nextRelaunch_lt` — launching what is due moves the next launch into the future, so that
  time can pass.
-/

namespace LivePaths

/-- **Launch** of a command. -/
structure Launch where
  time : Nat
  line : String
  environment : Environment
  deriving DecidableEq

/-- A launch, but for its time, as one line of text. -/
def Launch.text (l : Launch) : String :=
  Text.jsonObject
    [("cmd", Text.jsonString l.line),
      ("env", Text.jsonObject (l.environment.entries.map fun e => (e.1, Text.jsonString e.2)))]

/-- **Job**: a command that waits to be launched again. -/
structure Job where
  id : Nat
  nextLaunch : Nat
  line : String
  environment : Environment
  deriving DecidableEq

/-- **Launcher** of commands. -/
structure Launcher where
  now : Nat := 0
  /-- Whether commands can be launched at all. -/
  available : Bool := true
  /-- The restarting commands that were not stopped. -/
  jobs : List Job := []
  /-- How many jobs there have been. -/
  started : Nat := 0
  /-- All launches, the first one at the head. -/
  launches : List Launch := []
  deriving DecidableEq

namespace Launcher

/-- The time between the end of a command and its next launch. -/
def pause : Nat := 5000

/-! ## Starting and stopping -/

/-- Whether a command can be launched: neither its line nor a variable holds a null character. -/
def canLaunch (line : String) (env : Environment) : Bool :=
  !line.contains '\x00' && env.isLaunchable

/-- Launches a command now, if this is possible. -/
def launch (l : Launcher) (line : String) (env : Environment) : Launcher :=
  if canLaunch line env then { l with launches := l.launches ++ [⟨l.now, line, env⟩] } else l

/-- Launches a command once, if there is one. -/
def runOnce (l : Launcher) (line : String) (env : Environment) : Launcher :=
  if line.isEmpty || !l.available then l else l.launch line env

/-- **Start** of a command, if there is one; also gives its job if it is to be restarted. -/
def start (l : Launcher) (c : CommandLine) (env : Environment) : Launcher × Option Nat :=
  if c.isSet && l.available then
    if c.restart then
      ({ l.launch c.line env with
          jobs := l.jobs ++ [⟨l.started, l.now + pause, c.line, env⟩]
          started := l.started + 1 },
        some l.started)
    else (l.launch c.line env, none)
  else (l, none)

/-- **Stop** of a job. -/
def stop (l : Launcher) (job : Option Nat) : Launcher :=
  { l with jobs := l.jobs.filter fun j => some j.id ≠ job }

/-! ## Time -/

/-- The time of the next launch. -/
def nextRelaunch? (l : Launcher) : Option Nat := (l.jobs.map (·.nextLaunch)).min?

/-- Launches the jobs that are due at a time. -/
def relaunch (l : Launcher) (time : Nat) : Launcher :=
  let due := l.jobs.filter (·.nextLaunch = time)
  let launched := due.foldl (fun l j => l.launch j.line j.environment) { l with now := time }
  { launched with
    jobs := l.jobs.map fun j =>
      if j.nextLaunch = time then { j with nextLaunch := time + pause } else j }

/-- Launching what is due moves the next launch into the future. -/
theorem nextRelaunch_lt {l : Launcher} {time next : Nat}
    (h : l.nextRelaunch? = some time) (hn : (l.relaunch time).nextRelaunch? = some next) :
    time < next := by
  simp only [nextRelaunch?, List.min?_eq_some_iff] at h hn
  obtain ⟨j, hj, rfl⟩ := List.mem_map.1 hn.1
  simp only [relaunch, List.mem_map] at hj
  obtain ⟨k, hk, rfl⟩ := hj
  have hle : time ≤ k.nextLaunch := h.2 k.nextLaunch (List.mem_map_of_mem hk)
  have hpause : 0 < pause := by decide
  by_cases hd : k.nextLaunch = time
  · simpa only [hd, ↓reduceIte] using Nat.lt_add_of_pos_right hpause
  · simpa only [hd, ↓reduceIte] using Nat.lt_of_le_of_ne hle (Ne.symm hd)

/-- **Passing of time** up to a later time: all jobs are launched whenever they are due. -/
def advance (l : Launcher) (time : Nat) : Launcher :=
  match _h : l.nextRelaunch? with
  | some due =>
    if _ : due ≤ time then (l.relaunch due).advance time else { l with now := time }
  | none => { l with now := time }
termination_by time + 1 - (l.nextRelaunch?.getD (time + 1))
decreasing_by
  have h : l.nextRelaunch? = some due := by assumption
  rw [h]
  cases hn : (l.relaunch due).nextRelaunch? with
  | none => simp only [Option.getD_some, Option.getD_none]; omega
  | some next =>
    have := nextRelaunch_lt h hn
    simp only [Option.getD_some]
    omega

end Launcher

end LivePaths
