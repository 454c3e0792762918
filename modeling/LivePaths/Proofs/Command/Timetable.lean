import Mathlib.Data.List.Flatten
import LivePaths.Proofs.Command.Launches

set_option relaxedAutoImplicit false
set_option autoImplicit false

/-!
# The times of launches

When a launcher launches what: a command at the time when it is started or, if it answers an end, at
the time of this end, and a job whenever a pause has passed since its last launch. What passing time
launches is told job by job, though the jobs take turns.

## Main definitions

* `Launch.allowed` — the launches that are possible.
* `Launch.once` — the launch of a command, if there is one.
* `Job.launchesUntil`, `Job.after` — what a job launches up to a time, and the job at this time.

## Main results

* `Launcher.launches_runOnce`, `Launcher.launches_start`, `Launcher.launches_tearDown` — what is
  launched when something begins or ends.
* `Launcher.launches_advance`, `Launcher.jobs_advance` — what is launched as time passes.
-/

namespace LivePaths

open Launcher (pause)

/-! ## Launches -/

namespace Launch

/-- **Allowed launches**: those of commands without null characters in environments without null
characters. -/
def allowed (launches : List Launch) : List Launch :=
  launches.filter fun x => Launcher.canLaunch x.line x.environment

@[simp]
lemma allowed_nil : allowed [] = [] := rfl

@[simp]
lemma allowed_append (ls ms : List Launch) : allowed (ls ++ ms) = allowed ls ++ allowed ms :=
  List.filter_append ..

lemma allowed_perm {ls ms : List Launch} (h : ls.Perm ms) : (allowed ls).Perm (allowed ms) :=
  h.filter _

/-- **One launch** of a command, if there is one. -/
def once (time : Nat) (line : String) (env : Environment) : List Launch :=
  if line.isEmpty then [] else [⟨time, line, env⟩]

lemma environment_of_mem_once {x : Launch} {time : Nat} {line : String} {env : Environment}
    (h : x ∈ once time line env) : x.environment = env := by
  unfold once at h
  split at h
  · cases h
  · rw [List.mem_singleton.1 h]

end Launch

open Launch (allowed)

namespace Job

variable (j : Job) (time : Nat)

/-- The launch of a job at a time. -/
def launchAt : Launch := ⟨time, j.line, j.environment⟩

/-- How often a job is due up to a time. -/
def due : Nat := (time + pause - j.nextLaunch) / pause

/-- **What a job launches** up to a time. -/
def launchesUntil : List Launch :=
  (List.range (j.due time)).map fun k => j.launchAt (j.nextLaunch + pause * k)

/-- **A job after a time** up to which it was launched whenever it was due. -/
def after : Job := { j with nextLaunch := j.nextLaunch + pause * j.due time }

variable {j time}

lemma due_eq_zero (h : time < j.nextLaunch) : j.due time = 0 := by
  have hpause : 0 < pause := by decide
  unfold due
  exact Nat.div_eq_of_lt (by omega)

/-- A job that is not due yet launches nothing. -/
lemma launchesUntil_of_lt (h : time < j.nextLaunch) : j.launchesUntil time = [] := by
  simp [launchesUntil, due_eq_zero h]

lemma after_of_lt (h : time < j.nextLaunch) : j.after time = j := by
  simp [after, due_eq_zero h]

/-- A job that was launched is due once less. -/
lemma due_succ (h : j.nextLaunch ≤ time) :
    j.due time = ({ j with nextLaunch := j.nextLaunch + pause } : Job).due time + 1 := by
  have hpause : 0 < pause := by decide
  unfold due
  rw [← Nat.add_div_right _ hpause]
  congr 1
  dsimp only
  omega

/-- **A job that is due** is launched, and then again from the next time on. -/
lemma launchesUntil_succ (h : j.nextLaunch ≤ time) : j.launchesUntil time =
    j.launchAt j.nextLaunch ::
      ({ j with nextLaunch := j.nextLaunch + pause } : Job).launchesUntil time := by
  unfold launchesUntil
  rw [due_succ h, List.range_succ_eq_map, List.map_cons, List.map_map]
  congr 1
  refine List.map_congr_left fun k _ => ?_
  rw [Function.comp_apply, Nat.mul_succ, Nat.add_comm (pause * k), ← Nat.add_assoc]
  rfl

lemma after_succ (h : j.nextLaunch ≤ time) :
    ({ j with nextLaunch := j.nextLaunch + pause } : Job).after time = j.after time := by
  rw [after, after, due_succ h, Nat.mul_succ, Nat.add_comm (pause * _), ← Nat.add_assoc]

end Job

namespace Launcher

variable {l : Launcher}

/-! ## Beginnings and ends -/

lemma launch_eq_allowed (l : Launcher) (line : String) (env : Environment) :
    l.launch line env = { l with launches := l.launches ++ allowed [⟨l.now, line, env⟩] } := by
  rw [launch_eq, Launch.allowed, List.filter_singleton]
  cases canLaunch line env <;> rfl

/-- **A command that is launched once.** -/
lemma launches_runOnce (hl : l.available = true) (line : String) (env : Environment) :
    (l.runOnce line env).launches = l.launches ++ allowed (Launch.once l.now line env) := by
  unfold runOnce Launch.once
  cases hline : line.isEmpty with
  | true => simp
  | false =>
    rw [if_neg (by simp [hl]), launch_eq_allowed]
    rfl

/-- **The start** of a command. -/
lemma launches_start (hl : l.available = true) (c : CommandLine) (env : Environment) :
    (l.start c env).1.launches = l.launches ++ allowed (Launch.once l.now c.line env) := by
  unfold start Launch.once
  cases hline : c.line.isEmpty with
  | true => simp [CommandLine.isSet, hline]
  | false =>
    have hset : (c.isSet && l.available) = true := by simp [CommandLine.isSet, hline, hl]
    rw [if_pos hset, launch_eq_allowed]
    cases c.restart <;> rfl

/-- **An end.** -/
lemma launches_tearDown (hl : l.available = true) (t : Teardown) :
    (l.tearDown t).launches = l.launches ++ allowed (Launch.once l.now t.line t.environment) :=
  launches_runOnce (l := l.stop t.job) hl t.line t.environment

/-! ## Time -/

/-- Jobs that are launched one after another. -/
lemma foldl_launch_eq (js : List Job) (l : Launcher) :
    js.foldl (fun l j => l.launch j.line j.environment) l =
      { l with launches := l.launches ++ allowed (js.map (·.launchAt l.now)) } := by
  induction js generalizing l with
  | nil => simp
  | cons j rest ih =>
    rw [List.foldl_cons, launch_eq_allowed, ih, List.map_cons,
      ← List.singleton_append (x := j.launchAt l.now), Launch.allowed_append, ← List.append_assoc]
    rfl

/-- All jobs that are due are launched. -/
lemma relaunch_eq (l : Launcher) (time : Nat) : l.relaunch time =
    { l with
      now := time
      launches := l.launches ++
        allowed ((l.jobs.filter (·.nextLaunch = time)).map (·.launchAt time))
      jobs := l.jobs.map fun j =>
        if j.nextLaunch = time then { j with nextLaunch := time + pause } else j } := by
  unfold relaunch
  dsimp only
  rw [foldl_launch_eq]

/-- What is launched at the first time that is due comes before what the jobs launch later. -/
lemma perm_launchesUntil (js : List Job) {due time : Nat} (hle : due ≤ time) :
    ((js.filter (·.nextLaunch = due)).map (·.launchAt due) ++
      (js.map fun j =>
        if j.nextLaunch = due then { j with nextLaunch := due + pause } else j).flatMap
          (·.launchesUntil time)).Perm (js.flatMap (·.launchesUntil time)) := by
  induction js with
  | nil => exact .refl _
  | cons j rest ih =>
    by_cases hj : j.nextLaunch = due
    · subst hj
      rw [List.filter_cons_of_pos (by simp), List.map_cons, List.map_cons, if_pos rfl,
        List.flatMap_cons, List.flatMap_cons, Job.launchesUntil_succ hle, List.cons_append,
        List.cons_append]
      refine .cons _ ((List.perm_append_comm_assoc ..).trans (ih.append_left _))
    · rw [List.filter_cons_of_neg (by simpa using hj), List.map_cons, if_neg hj, List.flatMap_cons,
        List.flatMap_cons]
      exact (List.perm_append_comm_assoc ..).trans (ih.append_left _)

/-- **Passing of time** launches each job whenever it is due.

**Proof sketch.** Induction on the times at which something is due. What is launched at the first
time is the first launch of each of some jobs, and no job is due earlier. -/
theorem launches_advance (l : Launcher) (time : Nat) : (l.advance time).launches.Perm
    (l.launches ++ allowed (l.jobs.flatMap (·.launchesUntil time))) := by
  fun_induction advance l time with
  | case1 l due hdue hle ih =>
    refine ih.trans ?_
    rw [relaunch_eq]
    dsimp only
    rw [List.append_assoc, ← Launch.allowed_append]
    exact (Launch.allowed_perm (perm_launchesUntil l.jobs hle)).append_left _
  | case2 l due hdue hlt =>
    have hnone : l.jobs.flatMap (·.launchesUntil time) = [] :=
      List.flatMap_eq_nil_iff.2 fun j hj => Job.launchesUntil_of_lt <|
        Nat.lt_of_lt_of_le (Nat.not_le.1 hlt) (le_of_nextRelaunch hdue j hj)
    simp [hnone]
  | case3 l hnone => simp [jobs_eq_nil_of_nextRelaunch hnone]

/-- After some time all jobs are due later.

**Proof sketch.** Induction on the times at which something is due. -/
theorem jobs_advance (l : Launcher) (time : Nat) :
    (l.advance time).jobs = l.jobs.map (·.after time) := by
  fun_induction advance l time with
  | case1 l due hdue hle ih =>
    rw [ih, relaunch_eq]
    dsimp only
    rw [List.map_map]
    refine List.map_congr_left fun j _ => ?_
    rw [Function.comp_apply]
    split
    · next hj =>
      subst hj
      exact Job.after_succ hle
    · rfl
  | case2 l due hdue hlt =>
    have hlater : ∀ j ∈ l.jobs, j.after time = j := fun j hj => Job.after_of_lt <|
      Nat.lt_of_lt_of_le (Nat.not_le.1 hlt) (le_of_nextRelaunch hdue j hj)
    exact ((List.map_congr_left hlater).trans (List.map_id' l.jobs)).symm
  | case3 l hnone => simp [jobs_eq_nil_of_nextRelaunch hnone]

end Launcher

end LivePaths
