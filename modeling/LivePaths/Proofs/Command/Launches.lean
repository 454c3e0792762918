import Mathlib.Data.List.Nodup
import Mathlib.Data.List.Perm.Basic
import Mathlib.Tactic.Common
import LivePaths.Command.Hooks

set_option relaxedAutoImplicit false
set_option autoImplicit false

/-!
# What is launched

What each operation of a launcher adds to its launches, and what it does to the jobs that wait to be
launched again. The times of the launches are left out, as they are those of the clock.

## Main definitions

* `NullFree`, `Environment.IsNullFree` — texts and environments without null characters.
* `launchOf` — the launches of a command in an environment: one if this is possible.
* `Launcher.commands` — all launches so far.
* `Launcher.Relaunches` — jobs are launched again, and all of them remain.
* `Duty`, `Launcher.Serves` — what is done at an end, and a launcher with exactly the jobs that
  are stopped then.

## Main results

* `Environment.canLaunch_iff` — null characters prevent launches, and nothing else does.
* `Launcher.commands_start`, `Launcher.start_eq` — the start of a command.
* `Launcher.commands_tearDown`, `Launcher.tearDown_eq` — an end.
* `Launcher.relaunches_advance`, `Launcher.advance_now` — passing of time only launches jobs again,
  and only later.
* `Launcher.advance_advance` — time passes in parts as it passes at once.
* `Launcher.Serves.start`, `Launcher.Serves.tearDown` — a duty is taken up and fulfilled.
-/

namespace LivePaths

/-! ## What prevents a launch -/

/-- **A text without null characters.** -/
def NullFree (text : String) : Prop := '\x00' ∉ text.toList

instance (text : String) : Decidable (NullFree text) :=
  inferInstanceAs (Decidable ('\x00' ∉ text.toList))

namespace Environment

variable {env : Environment}

/-- **An environment without null characters**, neither in a name nor in a value. -/
def IsNullFree (env : Environment) : Prop := ∀ e ∈ env.entries, NullFree e.1 ∧ NullFree e.2

instance (env : Environment) : Decidable env.IsNullFree :=
  inferInstanceAs (Decidable (∀ e ∈ env.entries, NullFree e.1 ∧ NullFree e.2))

lemma isLaunchable_iff : env.isLaunchable = true ↔ env.IsNullFree := by
  simp [isLaunchable, IsNullFree, NullFree, String.contains_char_eq]

/-- **What can be launched**: a line without null characters, in an environment without them. -/
lemma canLaunch_iff {line : String} : Launcher.canLaunch line env = true ↔
    NullFree line ∧ env.IsNullFree := by
  simp [Launcher.canLaunch, isLaunchable_iff, NullFree, String.contains_char_eq]

end Environment

/-- The command of a launch and its environment. -/
def Launch.command (l : Launch) : String × Environment := (l.line, l.environment)

/-- **What is launched** when a command is to be launched in an environment: nothing if there is no
command, or if a null character in it or in its environment prevents it. -/
def launchOf (line : String) (env : Environment) : List (String × Environment) :=
  if line.isEmpty = false ∧ NullFree line ∧ env.IsNullFree then [(line, env)] else []

@[simp]
lemma launchOf_empty (env : Environment) : launchOf "" env = [] := rfl

/-- A line with a null character is launched in no environment. -/
lemma launchOf_of_null {line : String} (h : ¬ NullFree line) (env : Environment) :
    launchOf line env = [] :=
  if_neg fun hline => h hline.2.1

/-- The launcher decides what can be launched. -/
lemma launchOf_eq (line : String) (env : Environment) : launchOf line env =
    if line.isEmpty then [] else if Launcher.canLaunch line env then [(line, env)] else [] := by
  simp only [launchOf, ← Environment.canLaunch_iff]
  cases line.isEmpty <;> cases Launcher.canLaunch line env <;> rfl

/-- What a job launches, told apart from other jobs by its number. -/
def Job.key (j : Job) : Nat × String × Environment := (j.id, j.line, j.environment)

namespace Launcher

/-- **All launches** so far, the first one at the head. -/
def commands (l : Launcher) : List (String × Environment) := l.launches.map Launch.command

/-- Whether a command becomes a job when it is started. -/
def keeps (l : Launcher) (c : CommandLine) : Bool := c.isSet && l.available && c.restart

/-! ## The clock -/

@[simp]
lemma now_launch (l : Launcher) (line : String) (env : Environment) :
    (l.launch line env).now = l.now := by
  unfold launch
  split <;> rfl

@[simp]
lemma now_runOnce (l : Launcher) (line : String) (env : Environment) :
    (l.runOnce line env).now = l.now := by
  unfold runOnce
  split
  · rfl
  · exact now_launch l line env

@[simp]
lemma now_start (l : Launcher) (c : CommandLine) (env : Environment) :
    (l.start c env).1.now = l.now := by
  unfold start
  split
  · split
    · exact now_launch l c.line env
    · exact now_launch l c.line env
  · rfl

@[simp]
lemma now_begin (l : Launcher) (c : CommandLine) (atEnd : String) (env : Environment) :
    (l.begin c atEnd env).1.now = l.now :=
  now_start l c env

@[simp]
lemma now_onSegmentCreate (l : Launcher) (base : Environment) (line segment : String) :
    (l.onSegmentCreate base line segment).now = l.now :=
  now_runOnce ..

@[simp]
lemma now_onSegmentComplete (l : Launcher) (base : Environment) (line segment : String)
    (secs nanos : Nat) : (l.onSegmentComplete base line segment secs nanos).now = l.now :=
  now_runOnce ..

@[simp]
lemma now_onInit (l : Launcher) (base : Environment) (c : CommandConf) :
    (l.onInit base c).1.now = l.now :=
  now_begin ..

@[simp]
lemma now_onDemand (l : Launcher) (base : Environment) (c : CommandConf) (query : String) :
    (l.onDemand base c query).1.now = l.now :=
  now_begin ..

@[simp]
lemma now_onReady (l : Launcher) (base : Environment) (c : CommandConf)
    (source : Option Descriptor) (query : String) :
    (l.onReady base c source query).1.now = l.now :=
  now_begin ..

@[simp]
lemma now_tearDown (l : Launcher) (t : Teardown) : (l.tearDown t).now = l.now :=
  now_runOnce (l.stop t.job) t.line t.environment

/-- The clock shows the time up to which it has moved on.

**Proof sketch.** Induction on the launches that are due before this time. -/
@[simp]
lemma now_advance (l : Launcher) (time : Nat) : (l.advance time).now = time := by
  fun_induction advance l time with
  | case1 _ _ _ _ ih => exact ih
  | case2 => rfl
  | case3 => rfl

/-! ## Small steps -/

section Steps

variable (l : Launcher) (line : String) (env : Environment)

lemma launch_eq : l.launch line env =
    { l with
      launches := l.launches ++ if canLaunch line env then [⟨l.now, line, env⟩] else [] } := by
  unfold launch
  split
  · rfl
  · simp

lemma commands_launch : (l.launch line env).commands =
    l.commands ++ if canLaunch line env then [(line, env)] else [] := by
  rw [launch_eq]
  simp only [commands, List.map_append]
  split <;> rfl

lemma runOnce_eq : ∃ launches, l.runOnce line env = { l with launches } := by
  unfold runOnce
  split
  · exact ⟨l.launches, rfl⟩
  · exact ⟨_, l.launch_eq line env⟩

variable {l} (hl : l.available = true)

include hl

lemma commands_runOnce : (l.runOnce line env).commands = l.commands ++ launchOf line env := by
  unfold runOnce
  rw [launchOf_eq]
  cases line.isEmpty with
  | true => simp
  | false =>
    rw [if_neg (by simp [hl]), commands_launch]
    rfl

/-! ## Starting and ending -/

/-- **The start** of a command launches it. -/
lemma commands_start (c : CommandLine) :
    (l.start c env).1.commands = l.commands ++ launchOf c.line env := by
  have hlaunch : launchOf c.line env =
      if c.isSet then if canLaunch c.line env then [(c.line, env)] else [] else [] := by
    rw [launchOf_eq, CommandLine.isSet]
    cases c.line.isEmpty <;> rfl
  unfold start
  rw [hlaunch, hl, Bool.and_true]
  split
  · split
    · exact l.commands_launch c.line env
    · exact l.commands_launch c.line env
  · simp

end Steps

/-- **The start** of a command that is to be restarted adds a job. -/
lemma start_eq (l : Launcher) (c : CommandLine) (env : Environment) : ∃ launches,
    l.start c env =
      if l.keeps c then
        ({ l with
            launches
            jobs := l.jobs ++ [⟨l.started, l.now + pause, c.line, env⟩]
            started := l.started + 1 },
          some l.started)
      else ({ l with launches }, none) := by
  unfold start keeps
  rw [launch_eq]
  by_cases hset : (c.isSet && l.available) = true
  · cases hr : c.restart <;> simp [hset]
  · exact ⟨l.launches, by simp [hset]⟩

/-- **An end** launches its command. -/
lemma commands_tearDown {l : Launcher} (hl : l.available = true) (t : Teardown) :
    (l.tearDown t).commands = l.commands ++ launchOf t.line t.environment :=
  commands_runOnce t.line t.environment (l := l.stop t.job) hl

/-- **An end** stops its job. -/
lemma tearDown_eq (l : Launcher) (t : Teardown) : ∃ launches, l.tearDown t =
    { l with launches, jobs := l.jobs.filter fun j => some j.id ≠ t.job } :=
  (l.stop t.job).runOnce_eq t.line t.environment

/-! ## Time -/

/-- **Launching again**: some of the jobs are launched, and all of them remain. -/
structure Relaunches (l l' : Launcher) : Prop where
  available : l'.available = l.available
  started : l'.started = l.started
  keys : l'.jobs.map Job.key = l.jobs.map Job.key
  commands : ∃ cs, l'.commands = l.commands ++ cs ∧
    ∀ c ∈ cs, ∃ j ∈ l.jobs, (j.line, j.environment) = c ∧ canLaunch j.line j.environment = true

namespace Relaunches

variable {l l' l'' : Launcher}

/-- Only the clock moves on. -/
lemma pass (l : Launcher) (time : Nat) : Relaunches l { l with now := time } :=
  ⟨rfl, rfl, rfl, [], (List.append_nil _).symm, by simp⟩

/-- Jobs with the same keys launch the same commands. -/
lemma exists_of_keys (h : l'.jobs.map Job.key = l.jobs.map Job.key) {j' : Job}
    (hj : j' ∈ l'.jobs) : ∃ j ∈ l.jobs, j.key = j'.key := by
  have hmem : j'.key ∈ l.jobs.map Job.key := h ▸ List.mem_map_of_mem hj
  exact List.mem_map.1 hmem

lemma trans (h : Relaunches l l') (h' : Relaunches l' l'') : Relaunches l l'' := by
  obtain ⟨cs, hcs, hall⟩ := h.commands
  obtain ⟨ds, hds, hall'⟩ := h'.commands
  refine ⟨h'.available.trans h.available, h'.started.trans h.started, h'.keys.trans h.keys,
    cs ++ ds, ?_, ?_⟩
  · rw [hds, hcs, List.append_assoc]
  · refine List.forall_mem_append.2 ⟨hall, fun c hc => ?_⟩
    obtain ⟨j', hj', rfl, hlaunch⟩ := hall' c hc
    obtain ⟨j, hj, hkey⟩ := exists_of_keys h.keys hj'
    simp only [Job.key, Prod.mk.injEq] at hkey
    exact ⟨j, hj, by rw [hkey.2.1, hkey.2.2], by rwa [hkey.2.1, hkey.2.2]⟩

end Relaunches

/-- Launching several jobs one after another. -/
lemma foldl_launch (js : List Job) (l : Launcher) : ∃ launches cs,
    js.foldl (fun l j => l.launch j.line j.environment) l = { l with launches } ∧
      launches.map Launch.command = l.commands ++ cs ∧
      ∀ c ∈ cs, ∃ j ∈ js, (j.line, j.environment) = c ∧
        canLaunch j.line j.environment = true := by
  induction js generalizing l with
  | nil => exact ⟨l.launches, [], rfl, (List.append_nil _).symm, by simp⟩
  | cons j rest ih =>
    obtain ⟨launches, cs, hfold, hcs, hall⟩ := ih (l.launch j.line j.environment)
    refine ⟨launches,
      (if canLaunch j.line j.environment then [(j.line, j.environment)] else []) ++ cs,
      ?_, ?_, List.forall_mem_append.2 ⟨fun c hc => ?_, fun c hc => ?_⟩⟩
    · rw [List.foldl_cons, hfold, launch_eq]
    · rw [hcs, commands_launch, List.append_assoc]
    · split at hc
      · next hlaunch => exact ⟨j, List.mem_cons_self, (List.mem_singleton.1 hc).symm, hlaunch⟩
      · cases hc
    · obtain ⟨k, hk, heq⟩ := hall c hc
      exact ⟨k, List.mem_cons_of_mem j hk, heq⟩

/-- The jobs that are due are launched. -/
lemma relaunches_relaunch (l : Launcher) (time : Nat) : Relaunches l (l.relaunch time) := by
  obtain ⟨launches, cs, hfold, hcs, hall⟩ :=
    foldl_launch (l.jobs.filter (·.nextLaunch = time)) { l with now := time }
  unfold relaunch
  dsimp only
  rw [hfold]
  refine ⟨rfl, rfl, ?_, cs, hcs, fun c hc => ?_⟩
  · rw [List.map_map]
    refine List.map_congr_left fun j _ => ?_
    simp only [Function.comp_apply]
    split <;> rfl
  · obtain ⟨j, hj, heq⟩ := hall c hc
    exact ⟨j, (List.mem_filter.1 hj).1, heq⟩

/-- **Passing of time** launches jobs again, over and over.

**Proof sketch.** Induction on the launches that are due before the time. -/
lemma relaunches_advance (l : Launcher) (time : Nat) : Relaunches l (l.advance time) := by
  fun_induction advance l time with
  | case1 l due hdue hle ih => exact (l.relaunches_relaunch due).trans ih
  | case2 l due hdue hle => exact .pass l time
  | case3 l hnone => exact .pass l time

/-- Jobs are due after the time of the next launch, if at all. -/
lemma le_of_nextRelaunch {l : Launcher} {due : Nat} (h : l.nextRelaunch? = some due) :
    ∀ j ∈ l.jobs, due ≤ j.nextLaunch := by
  simp only [nextRelaunch?, List.min?_eq_some_iff] at h
  exact fun j hj => h.2 _ (List.mem_map_of_mem hj)

/-- Without a next launch there are no jobs. -/
lemma jobs_eq_nil_of_nextRelaunch {l : Launcher} (h : l.nextRelaunch? = none) : l.jobs = [] := by
  simpa [nextRelaunch?] using h

/-- After some time has passed, whatever is launched again is due later.

**Proof sketch.** Induction on the launches that are due before the time. -/
lemma lt_of_mem_advance (l : Launcher) (time : Nat) :
    ∀ j ∈ (l.advance time).jobs, time < j.nextLaunch := by
  fun_induction advance l time with
  | case1 l due hdue hle ih => exact ih
  | case2 l due hdue hle =>
    exact fun j hj => Nat.lt_of_lt_of_le (Nat.not_le.1 hle) (le_of_nextRelaunch hdue j hj)
  | case3 l hnone => simp [jobs_eq_nil_of_nextRelaunch hnone]

/-- Without jobs only the clock moves on. -/
lemma advance_of_jobs_nil {l : Launcher} (h : l.jobs = []) (time : Nat) :
    l.advance time = { l with now := time } := by
  unfold advance
  split
  · next due hdue => simp [nextRelaunch?, h] at hdue
  · rfl

/-- Where whatever is launched again is due later, nothing happens at the present time. -/
lemma advance_now {l : Launcher} (h : ∀ j ∈ l.jobs, l.now < j.nextLaunch) :
    l.advance l.now = l := by
  unfold advance
  split
  · next due hdue =>
    have hmem : due ∈ l.jobs.map (·.nextLaunch) := (List.min?_eq_some_iff.1 hdue).1
    obtain ⟨j, hj, rfl⟩ := List.mem_map.1 hmem
    rw [dif_neg (Nat.not_le.2 (h j hj))]
  · rfl

/-! ### Time in parts -/

/-- What is due by a time is launched first. -/
lemma advance_of_due {l : Launcher} {due time : Nat} (h : l.nextRelaunch? = some due)
    (hle : due ≤ time) : l.advance time = (l.relaunch due).advance time := by
  rw [advance]
  split
  · next due' hdue =>
    obtain rfl := Option.some.inj (h.symm.trans hdue)
    rw [dif_pos hle]
  · next hnone => rw [hnone] at h; cases h

/-- If nothing is due by a time, only the clock moves on. -/
lemma advance_of_ahead {l : Launcher} {time : Nat} (h : ∀ due ∈ l.nextRelaunch?, time < due) :
    l.advance time = { l with now := time } := by
  rw [advance]
  split
  · next due hdue => rw [dif_neg (Nat.not_le.2 (h due hdue))]
  · rfl

/-- Where the clock stood before does not matter. -/
lemma advance_of_clock (l : Launcher) (now time : Nat) :
    { l with now }.advance time = l.advance time := by
  by_cases hdue : ∃ due ∈ l.nextRelaunch?, due ≤ time
  · obtain ⟨due, hdue, hle⟩ := hdue
    rw [advance_of_due hdue hle, advance_of_due (l := { l with now }) hdue hle]
    rfl
  · have hahead : ∀ due ∈ l.nextRelaunch?, time < due :=
      fun due hmem => Nat.lt_of_not_le fun hle => hdue ⟨due, hmem, hle⟩
    rw [advance_of_ahead hahead, advance_of_ahead (l := { l with now }) hahead]

/-- **Time passes in parts** as it passes at once.

**Proof sketch.** Induction on the launches that are due in the first part: these are the first ones
of the whole. After the last of them only the clock has moved on, which does not matter. -/
theorem advance_advance (l : Launcher) {time later : Nat} (hle : time ≤ later) :
    (l.advance time).advance later = l.advance later := by
  fun_induction advance l time with
  | case1 l due hdue hdt ih => rw [ih, advance_of_due hdue (Nat.le_trans hdt hle)]
  | case2 l due hdue hdt => exact l.advance_of_clock time later
  | case3 l hnone => exact l.advance_of_clock time later

end Launcher

/-! ## Duties -/

/-- **Duty**: a command that was started, and what is done at the end of what it was started for. -/
structure Duty where
  command : CommandLine
  teardown : Teardown

namespace Duty

/-- The key of the job that a duty has to stop, if there is one. -/
def keys (d : Duty) : List (Nat × String × Environment) :=
  d.teardown.job.toList.map fun n => (n, d.command.line, d.teardown.environment)

/-- Whether the command of a duty is launched again and again. -/
def restarts (d : Duty) : Bool := d.command.isSet && d.command.restart

end Duty

namespace Launcher

/-- **Serving duties**: the jobs of a launcher are exactly those that its duties have to stop, each
under a number of its own, and they are launched again later. -/
structure Serves (l : Launcher) (ds : List Duty) : Prop where
  available : l.available = true
  jobs : (l.jobs.map Job.key).Perm (ds.flatMap Duty.keys)
  nodup : ((l.jobs.map Job.key).map Prod.fst).Nodup
  numbered : ∀ j ∈ l.jobs, j.id < l.started
  ahead : ∀ j ∈ l.jobs, l.now < j.nextLaunch
  restarts : ∀ d ∈ ds, d.teardown.job.isSome = d.restarts

namespace Serves

variable {l l' : Launcher} {ds es : List Duty} (h : l.Serves ds)

include h

/-- The order of the duties does not matter. -/
lemma perm (hp : ds.Perm es) : l.Serves es :=
  ⟨h.available, h.jobs.trans (hp.flatMap_right _), h.nodup, h.numbered, h.ahead,
    fun d hd => h.restarts d (hp.mem_iff.2 hd)⟩

/-- Launches do not matter. -/
lemma of_eq {launches : List Launch} (heq : l' = { l with launches }) : l'.Serves ds := by
  subst heq
  exact ⟨h.available, h.jobs, h.nodup, h.numbered, h.ahead, h.restarts⟩

/-- A command that is launched once is no duty. -/
lemma runOnce (line : String) (env : Environment) : (l.runOnce line env).Serves ds := by
  obtain ⟨launches, heq⟩ := l.runOnce_eq line env
  exact h.of_eq heq

/-- Time passes. -/
lemma advance (time : Nat) : (l.advance time).Serves ds := by
  have hl := l.relaunches_advance time
  refine ⟨hl.available.trans h.available, hl.keys ▸ h.jobs, hl.keys ▸ h.nodup, fun j' hj' => ?_,
    fun j hj => (l.now_advance time).symm ▸ l.lt_of_mem_advance time j hj, h.restarts⟩
  obtain ⟨j, hj, hkey⟩ := Relaunches.exists_of_keys hl.keys hj'
  have hid : j.id = j'.id := congrArg Prod.fst hkey
  rw [hl.started, ← hid]
  exact h.numbered j hj

/-- **The start** of a command adds a duty. -/
lemma start (c : CommandLine) (atEnd : String) (env : Environment) :
    (l.begin c atEnd env).1.Serves (ds ++ [⟨c, (l.begin c atEnd env).2⟩]) := by
  obtain ⟨launches, heq⟩ := l.start_eq c env
  have hbegin : l.begin c atEnd env = ((l.start c env).1, ⟨(l.start c env).2, atEnd, env⟩) := rfl
  have hkeeps : l.keeps c = (c.isSet && c.restart) := by simp [keeps, h.available]
  rw [hbegin, heq]
  split
  · next hk =>
    refine ⟨h.available, ?_, ?_, ?_, ?_, ?_⟩
    · simpa [Duty.keys, Job.key] using h.jobs.append_right [(l.started, c.line, env)]
    · simp only [List.map_append, List.map_cons, List.map_nil]
      refine List.nodup_append.2 ⟨h.nodup, by simp, ?_⟩
      rintro n hn m hm rfl
      obtain ⟨key, hkey, rfl⟩ := List.mem_map.1 hn
      obtain ⟨j, hj, rfl⟩ := List.mem_map.1 hkey
      have hlt := h.numbered j hj
      simp only [List.mem_singleton, Job.key] at hm
      exact absurd hm (Nat.ne_of_lt hlt)
    · intro j hj
      rcases List.mem_append.1 hj with hj | hj
      · exact Nat.lt_succ_of_lt (h.numbered j hj)
      · obtain rfl := List.mem_singleton.1 hj
        exact Nat.lt_succ_self _
    · intro j hj
      rcases List.mem_append.1 hj with hj | hj
      · exact h.ahead j hj
      · obtain rfl := List.mem_singleton.1 hj
        exact Nat.lt_add_of_pos_right (by decide)
    · intro d hd
      rcases List.mem_append.1 hd with hd | hd
      · exact h.restarts d hd
      · obtain rfl := List.mem_singleton.1 hd
        simpa [Duty.restarts, hkeeps] using hk.symm
  · next hk =>
    refine ⟨h.available, ?_, h.nodup, h.numbered, h.ahead, ?_⟩
    · simpa [Duty.keys] using h.jobs
    · intro d hd
      rcases List.mem_append.1 hd with hd | hd
      · exact h.restarts d hd
      · obtain rfl := List.mem_singleton.1 hd
        simpa [Duty.restarts, hkeeps] using hk

/-- Whatever a launcher launches again belongs to a duty. -/
lemma exists_duty {j : Job} (hj : j ∈ l.jobs) :
    ∃ d ∈ ds, d.restarts = true ∧ d.command.line = j.line ∧
      d.teardown.environment = j.environment := by
  have hkey : j.key ∈ ds.flatMap Duty.keys := h.jobs.mem_iff.1 (List.mem_map_of_mem hj)
  obtain ⟨d, hd, hmem⟩ := List.mem_flatMap.1 hkey
  obtain ⟨n, hn, heq⟩ := List.mem_map.1 hmem
  simp only [Job.key, Prod.mk.injEq] at heq
  refine ⟨d, hd, ?_, heq.2.1, heq.2.2⟩
  rw [← h.restarts d hd, Option.mem_toList.1 hn]
  rfl

/-- Without duties nothing is launched again. -/
lemma jobs_eq_nil (hds : ds = []) : l.jobs = [] := by
  have hperm := h.jobs
  rw [hds] at hperm
  simpa using hperm

end Serves

/-- **An end** fulfils a duty. -/
lemma Serves.tearDown {l : Launcher} {ds : List Duty} {d : Duty} (h : l.Serves (ds ++ [d])) :
    (l.tearDown d.teardown).Serves ds := by
  obtain ⟨launches, heq⟩ := l.tearDown_eq d.teardown
  have hkeys : ((l.jobs.filter fun j => some j.id ≠ d.teardown.job).map Job.key) =
      (l.jobs.map Job.key).filter fun k => some k.1 ≠ d.teardown.job := by
    rw [List.filter_map]
    rfl
  have hsub : (l.jobs.filter fun j => some j.id ≠ d.teardown.job).Sublist l.jobs :=
    List.filter_sublist
  have hrest : (ds ++ [d]).flatMap Duty.keys = ds.flatMap Duty.keys ++ d.keys := by simp
  have hjobs := h.jobs
  rw [hrest] at hjobs
  have hnodup := (hjobs.map Prod.fst).nodup_iff.1 h.nodup
  rw [heq]
  refine ⟨h.available, ?_, h.nodup.sublist ((hsub.map _).map _), fun j hj =>
    h.numbered j (hsub.subset hj), fun j hj => h.ahead j (hsub.subset hj),
    fun d' hd' => h.restarts d' (List.mem_append_left _ hd')⟩
  rw [hkeys]
  refine (hjobs.filter _).trans (.of_eq ?_)
  rw [List.filter_append]
  -- the job of the duty is stopped, and all others have other numbers
  have hothers : ∀ k ∈ ds.flatMap Duty.keys, some k.1 ≠ d.teardown.job := by
    intro k hk hjob
    rw [List.map_append] at hnodup
    refine (List.nodup_append.1 hnodup).2.2 k.1 (List.mem_map_of_mem hk) k.1 ?_ rfl
    simp [Duty.keys, ← hjob]
  have hown : ∀ k ∈ d.keys, ¬ some k.1 ≠ d.teardown.job := by
    intro k hk
    obtain ⟨n, hn, rfl⟩ := List.mem_map.1 hk
    simpa using (Option.mem_toList.1 hn).symm
  rw [List.filter_eq_self.2 (by simpa using hothers),
    List.filter_eq_nil_iff.2 (by simpa using hown), List.append_nil]

/-- **An end** fulfils one of several duties. -/
lemma Serves.fulfil {l : Launcher} {ds es : List Duty} {d : Duty} (h : l.Serves es)
    (hp : es.Perm (ds ++ [d])) : (l.tearDown d.teardown).Serves ds :=
  (h.perm hp).tearDown

end Launcher

end LivePaths
