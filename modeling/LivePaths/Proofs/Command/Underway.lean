import LivePaths.Proofs.Command.Outlook

set_option relaxedAutoImplicit false
set_option autoImplicit false

/-!
# What is underway

What is underway in a run accounts for all its jobs and all its teardowns. Each step launches what
is then due and leaves an account of the same kind.

## Main definitions

* `Underway` — an occasion that did not end, with its job.
* `HookRun.Tracks` — what is underway in a run.

## Main results

* `HookRun.Tracks.begin`, `HookRun.Tracks.tearDown`, `HookRun.Tracks.advance` — beginnings, ends and
  time.
* `HookRun.Tracks.step` — one step.
-/

namespace LivePaths

open Launcher (pause)
open Launch (allowed)

/-- **Underway**: an occasion that began and did not end, with the job that launches its command
again. -/
structure Underway where
  occasion : Occasion
  job : Option Nat

/-- Between two times there are as many whole pauses as until the later one, but for those until
the earlier one. -/
lemma pauses_between (p start time later : Nat) :
    (later + p - (start + p * ((time - start) / p + 1))) / p =
      (later - start) / p - (time - start) / p := by
  rw [← Nat.sub_mul_div _ p, Nat.mul_succ]
  congr 1
  omega

namespace Underway

variable (u : Underway)

/-- What is done at the end. -/
def teardown : Teardown := ⟨u.job, u.occasion.atEnd, u.occasion.environment⟩

/-- The job at a time. -/
def jobAt (time : Nat) : Option Job :=
  u.job.map fun id =>
    { id
      nextLaunch := u.occasion.start + pause * ((time - u.occasion.start) / pause + 1)
      line := u.occasion.command.line
      environment := u.occasion.environment }

variable {u} {time later : Nat}

/-- How often a job is due in some time. -/
lemma due_jobAt {j : Job} (hj : u.jobAt time = some j) (later : Nat) : j.due later =
    (later - u.occasion.start) / pause - (time - u.occasion.start) / pause := by
  obtain ⟨id, -, rfl⟩ := Option.map_eq_some_iff.1 hj
  exact pauses_between pause ..

lemma job_of_jobAt {j : Job} (hj : u.jobAt time = some j) : u.job = some j.id := by
  obtain ⟨id, hid, rfl⟩ := Option.map_eq_some_iff.1 hj
  exact hid

/-- After some time a job is where it should be. -/
lemma after_jobAt (hlater : time ≤ later) : (u.jobAt time).map (·.after later) = u.jobAt later := by
  cases hj : u.jobAt time with
  | none =>
    have hnone : u.job = none := Option.map_eq_none_iff.1 hj
    simp [jobAt, hnone]
  | some j =>
    have hdue := due_jobAt hj later
    obtain ⟨id, hid, rfl⟩ := Option.map_eq_some_iff.1 hj
    have hmono := Nat.div_le_div_right (c := pause) (Nat.sub_le_sub_right hlater u.occasion.start)
    rw [Option.map_some, Job.after, hdue, jobAt, hid, Option.map_some, Nat.add_assoc,
      ← Nat.mul_add, Nat.add_right_comm, Nat.add_sub_cancel' hmono]

/-- **In some time a job launches** what is then due on its occasion. -/
lemma launchesUntil_jobAt (hrestarts : u.job.isSome = u.occasion.restarts) :
    (u.jobAt time).toList.flatMap (·.launchesUntil later) = u.occasion.relaunches time later := by
  unfold Occasion.relaunches
  rw [← hrestarts]
  cases hj : u.jobAt time with
  | none =>
    have hnone : u.job = none := Option.map_eq_none_iff.1 hj
    simp [hnone]
  | some j =>
    have hdue := due_jobAt hj later
    obtain ⟨id, hid, rfl⟩ := Option.map_eq_some_iff.1 hj
    rw [hid, Option.isSome_some, if_pos rfl, Option.toList_some, List.flatMap_singleton,
      Job.launchesUntil, hdue, List.range'_eq_map_range, List.map_map]
    refine List.map_congr_left fun k _ => ?_
    rw [Function.comp_apply, Nat.add_assoc, ← Nat.mul_add]
    rfl

end Underway

/-- What one member of a list contributes is left out. -/
lemma filter_middle {α β : Type} {f : α → Option β} {p : β → Prop} [DecidablePred p] {a : α}
    {before after : List α} (hown : ∀ b, f a = some b → ¬ p b)
    (hothers : ∀ c ∈ before ++ after, ∀ b, f c = some b → p b) :
    ((before ++ a :: after).filterMap f).filter p = (before ++ after).filterMap f := by
  have hkept : ∀ l ⊆ before ++ after, (l.filterMap f).filter p = l.filterMap f := by
    intro l hl
    refine List.filter_eq_self.2 fun b hb => ?_
    obtain ⟨c, hc, hfc⟩ := List.mem_filterMap.1 hb
    simpa using hothers c (hl hc) b hfc
  have hleft : ((f a).toList).filter p = [] :=
    List.filter_eq_nil_iff.2 fun b hb => by simpa using hown b (Option.mem_toList.1 hb)
  have hsplit : (before ++ a :: after).filterMap f =
      before.filterMap f ++ ((f a).toList ++ after.filterMap f) := by
    rw [List.filterMap_append]
    cases hfa : f a <;> simp [hfa]
  rw [hsplit, List.filter_append, List.filter_append, hleft, hkept before (by simp),
    hkept after (by simp), List.nil_append, List.filterMap_append]

/-- **The start** of a command adds its job, under a new number, if there is one. -/
lemma Launcher.start_eq_job (l : Launcher) (c : CommandLine) (env : Environment) :
    ∃ (launches : List Launch) (started : Nat) (job : Option Nat),
      l.start c env =
        ({ l with
            launches
            jobs := l.jobs ++ (job.map fun id => ⟨id, l.now + pause, c.line, env⟩).toList
            started },
          job) ∧
      job.isSome = l.keeps c ∧ l.started ≤ started ∧ ∀ id ∈ job, l.started ≤ id ∧ id < started := by
  obtain ⟨launches, heq⟩ := l.start_eq c env
  cases hkeeps : l.keeps c with
  | true =>
    refine ⟨launches, l.started + 1, some l.started, ?_, rfl, Nat.le_succ _, by simp⟩
    rw [heq, if_pos hkeeps]
    rfl
  | false =>
    refine ⟨launches, l.started, none, ?_, rfl, Nat.le_refl _, by simp⟩
    rw [heq, if_neg (by simp [hkeeps])]
    simp

namespace HookRun

/-- **Account of a run**: its jobs and its teardowns are those of what is underway, each occasion
with a number and a job of its own. -/
structure Tracks (r : HookRun) (us : List Underway) : Prop where
  available : r.launcher.available = true
  jobs : r.launcher.jobs = us.filterMap (·.jobAt r.launcher.now)
  teardowns : r.teardowns = us.map fun u => (u.occasion.number, u.teardown)
  restarts : ∀ u ∈ us, u.job.isSome = u.occasion.restarts
  distinct : us.Pairwise fun u v =>
    u.occasion.number ≠ v.occasion.number ∧ ∀ id ∈ u.job, id ∉ v.job
  numbered : ∀ u ∈ us, u.occasion.number < r.numbered
  started : ∀ u ∈ us, ∀ id ∈ u.job, id < r.launcher.started

variable {r : HookRun} {us : List Underway}

namespace Tracks

/-- Launches do not matter. -/
lemma of_launches (h : r.Tracks us) (launches : List Launch) :
    Tracks { r with launcher := { r.launcher with launches } } us :=
  ⟨h.available, h.jobs, h.teardowns, h.restarts, h.distinct, h.numbered, h.started⟩

/-- **A command that is launched once** is not underway. -/
lemma runOnce (h : r.Tracks us) (line : String) (env : Environment) :
    Tracks { r with launcher := r.launcher.runOnce line env } us := by
  obtain ⟨launches, heq⟩ := r.launcher.runOnce_eq line env
  rw [heq]
  exact h.of_launches launches

/-- **What begins** is underway. -/
lemma begin (h : r.Tracks us) {o : Occasion} (hnumber : o.number = r.numbered)
    (hstart : o.start = r.launcher.now) :
    (r.begun (r.launcher.begin o.command o.atEnd o.environment)).Tracks
      (us ++ [⟨o, (r.launcher.start o.command o.environment).2⟩]) := by
  obtain ⟨launches, started, job, heq, hjob, hle, hids⟩ :=
    r.launcher.start_eq_job o.command o.environment
  have hbegin : r.launcher.begin o.command o.atEnd o.environment =
      ((r.launcher.start o.command o.environment).1,
        ⟨(r.launcher.start o.command o.environment).2, o.atEnd, o.environment⟩) := rfl
  have hkeeps : r.launcher.keeps o.command = o.restarts := by
    simp [Launcher.keeps, Occasion.restarts, h.available]
  rw [hbegin, heq, begun]
  refine ⟨h.available, ?_, ?_, ?_, ?_, ?_, ?_⟩
  · have hnew : List.filterMap (·.jobAt r.launcher.now) [(⟨o, job⟩ : Underway)] =
        (job.map fun id =>
          (⟨id, r.launcher.now + pause, o.command.line, o.environment⟩ : Job)).toList := by
      cases job <;> simp [Underway.jobAt, hstart]
    dsimp only
    rw [List.filterMap_append, hnew, ← h.jobs]
  · simp [h.teardowns, Underway.teardown, hnumber]
  · exact List.forall_mem_append.2 ⟨h.restarts, by simp [hjob, hkeeps]⟩
  · refine List.pairwise_append.2 ⟨h.distinct, List.pairwise_singleton .., fun u hu v hv => ?_⟩
    obtain rfl := List.mem_singleton.1 hv
    refine ⟨hnumber ▸ Nat.ne_of_lt (h.numbered u hu), fun id hid hlast => ?_⟩
    exact Nat.not_lt.2 (hids id hlast).1 (h.started u hu id hid)
  · exact List.forall_mem_append.2 ⟨fun u hu => Nat.lt_succ_of_lt (h.numbered u hu),
      by simp [hnumber]⟩
  · refine List.forall_mem_append.2 ⟨fun u hu id hid => ?_, ?_⟩
    · exact Nat.lt_of_lt_of_le (h.started u hu id hid) hle
    · simpa using fun id hid => (hids id hid).2

/-- **Time passes** and what is underway remains so. -/
lemma advance (h : r.Tracks us) {time : Nat} (hle : r.launcher.now ≤ time) :
    Tracks { r with launcher := r.launcher.advance time } us := by
  have hl := r.launcher.relaunches_advance time
  refine ⟨hl.available.trans h.available, ?_, h.teardowns, h.restarts, h.distinct, h.numbered, ?_⟩
  · dsimp only
    rw [Launcher.jobs_advance, Launcher.now_advance, h.jobs, List.map_filterMap]
    exact List.filterMap_congr fun u _ => Underway.after_jobAt hle
  · intro u hu id hid
    exact hl.started ▸ h.started u hu id hid

/-- What jobs launch as time passes. -/
lemma launches_advance (h : r.Tracks us) (time : Nat) :
    (r.launcher.advance time).launches.Perm (r.launcher.launches ++
      allowed (us.flatMap fun u => u.occasion.relaunches r.launcher.now time)) := by
  have hdue : r.launcher.jobs.flatMap (·.launchesUntil time) =
      us.flatMap fun u => u.occasion.relaunches r.launcher.now time := by
    rw [h.jobs, List.filterMap_eq_flatMap_toList, List.flatMap_assoc]
    exact List.flatMap_congr fun u hu => Underway.launchesUntil_jobAt (h.restarts u hu)
  rw [← hdue]
  exact r.launcher.launches_advance time

/-- The commands that are alive are those that restart. -/
lemma running_eq (h : r.Tracks us) : r.running = (us.map (·.occasion)).countP (·.restarts) := by
  rw [running, h.jobs, List.length_filterMap_eq_countP, List.countP_map]
  refine List.countP_congr fun u hu => ?_
  have hjob : (u.jobAt r.launcher.now).isSome = u.job.isSome := Option.isSome_map
  rw [hjob, h.restarts u hu]
  rfl

/-! ### Ends -/

section End

variable {u : Underway} {before after : List Underway}

/-- All others have other numbers and other jobs. -/
lemma others (h : r.Tracks (before ++ u :: after)) : ∀ v ∈ before ++ after,
    v.occasion.number ≠ u.occasion.number ∧ ∀ id ∈ v.job, id ∉ u.job := by
  obtain ⟨-, hafter, hbefore⟩ := List.pairwise_append.1 h.distinct
  intro v hv
  rcases List.mem_append.1 hv with hv | hv
  · exact hbefore v hv u List.mem_cons_self
  · obtain ⟨hnumber, hjob⟩ := (List.pairwise_cons.1 hafter).1 v hv
    exact ⟨hnumber.symm, fun id hid hu => hjob id hu hid⟩

/-- The teardown of an end is found. -/
lemma tearDown_eq (h : r.Tracks (before ++ u :: after)) : r.tearDown u.occasion.number =
    { r with
      launcher := r.launcher.tearDown u.teardown
      teardowns := r.teardowns.filter fun e => e.1 ≠ u.occasion.number } := by
  have hlookup : r.teardowns.lookup u.occasion.number = some u.teardown := by
    rw [List.lookup_eq_some_iff, h.teardowns, List.map_append, List.map_cons]
    refine ⟨_, _, rfl, fun e he => ?_⟩
    obtain ⟨v, hv, rfl⟩ := List.mem_map.1 he
    simpa using ((h.others v (List.mem_append_left _ hv)).1).symm
  rw [HookRun.tearDown, hlookup]

/-- **The end**: what ends is not underway any more. -/
lemma tearDown (h : r.Tracks (before ++ u :: after)) :
    (r.tearDown u.occasion.number).Tracks (before ++ after) := by
  have hsub : (before ++ after).Sublist (before ++ u :: after) :=
    (List.sublist_cons_self u after).append_left before
  obtain ⟨launches, hlauncher⟩ := r.launcher.tearDown_eq u.teardown
  rw [h.tearDown_eq, hlauncher]
  refine ⟨h.available, ?_, ?_, fun v hv => h.restarts v (hsub.subset hv), h.distinct.sublist hsub,
    fun v hv => h.numbered v (hsub.subset hv), fun v hv => h.started v (hsub.subset hv)⟩
  · dsimp only
    rw [h.jobs]
    exact filter_middle (fun j hj => by simp [Underway.teardown, Underway.job_of_jobAt hj])
      fun v hv j hj hjob => (h.others v hv).2 _ (Underway.job_of_jobAt hj) hjob.symm
  · dsimp only
    rw [h.teardowns, ← List.filterMap_eq_map]
    refine filter_middle (fun e he => ?_) fun v hv e he => ?_
    · obtain rfl := Option.some.inj he
      simp
    · obtain rfl := Option.some.inj he
      exact (h.others v hv).1

/-- Without an end nothing changes. -/
lemma tearDown_of_ne (h : r.Tracks us) {number : Nat}
    (hne : ∀ u ∈ us, u.occasion.number ≠ number) : r.tearDown number = r := by
  have hlookup : r.teardowns.lookup number = none := by
    rw [List.lookup_eq_none_iff, h.teardowns]
    intro e he
    obtain ⟨u, hu, rfl⟩ := List.mem_map.1 he
    simpa using (hne u hu).symm
  rw [HookRun.tearDown, hlookup]

end End

/-! ### Steps -/

/-- What begins at a step. -/
lemma step_of_occasion? {c : CommandConf} {s : HookStep} {o : Occasion}
    (ho : s.occasion? r.base c r.numbered r.launcher.now = some o) :
    r.step c s = r.begun (r.launcher.begin o.command o.atEnd o.environment) ∧
      (o.number = r.numbered ∧ o.start = r.launcher.now) ∧
      (∀ n, s ≠ .tearDown n) ∧ s.duration = 0 ∧ s.single r.base c r.launcher.now = [] := by
  cases s <;> cases ho <;> exact ⟨rfl, ⟨rfl, rfl⟩, nofun, rfl, rfl⟩

/-- **A teardown** is used. -/
lemma step_tearDown (h : r.Tracks us) (c : CommandConf) (number : Nat) :
    ∃ us', (r.step c (.tearDown number)).Tracks us' ∧
      us'.map (·.occasion) = (HookStep.tearDown number).lasting r.base c r.numbered
        r.launcher.now (us.map (·.occasion)) ∧
      (r.step c (.tearDown number)).launcher.launches = r.launcher.launches ++ allowed
        ((HookStep.tearDown number).launches r.base c r.numbered r.launcher.now
          (us.map (·.occasion))) := by
  rw [HookStep.lasting_tearDown, HookStep.launches_tearDown, List.flatMap_map]
  have hothers : ∀ vs : List Underway, (∀ v ∈ vs, v.occasion.number ≠ number) →
      (vs.flatMap fun v => v.occasion.launchesIn r.launcher.now (.tearDown number)) = [] :=
    fun vs hvs => List.flatMap_eq_nil_iff.2 fun v hv => Occasion.launchesIn_of_ne (hvs v hv)
  by_cases hex : ∃ u ∈ us, u.occasion.number = number
  · obtain ⟨u, hu, rfl⟩ := hex
    obtain ⟨before, after, rfl⟩ := List.append_of_mem hu
    have hstep : r.step c (.tearDown u.occasion.number) = r.tearDown u.occasion.number := rfl
    refine ⟨before ++ after, h.tearDown, ?_, ?_⟩
    · rw [← List.filterMap_eq_map]
      refine (filter_middle (fun o ho => ?_) fun v hv o ho => ?_).symm
      · obtain rfl := Option.some.inj ho
        simp
      · obtain rfl := Option.some.inj ho
        exact (h.others v hv).1
    · rw [hstep, h.tearDown_eq, Launcher.launches_tearDown h.available, List.flatMap_append,
        List.flatMap_cons, u.occasion.launchesIn_tearDown,
        hothers before fun v hv => (h.others v (List.mem_append_left _ hv)).1,
        hothers after fun v hv => (h.others v (List.mem_append_right _ hv)).1,
        List.nil_append, List.append_nil]
      rfl
  · have hnone : ∀ u ∈ us, u.occasion.number ≠ number := fun u hu heq => hex ⟨u, hu, heq⟩
    have hstep : r.step c (.tearDown number) = r := h.tearDown_of_ne hnone
    rw [hstep, hothers us hnone]
    refine ⟨us, h, ?_, (List.append_nil _).symm⟩
    rw [List.filter_eq_self.2]
    intro o ho
    obtain ⟨u, hu, rfl⟩ := List.mem_map.1 ho
    simpa using hnone u hu

/-- **A segment**: a command is launched once. -/
lemma step_single (h : r.Tracks us) {c : CommandConf} {s : HookStep} {line : String}
    {env : Environment} (hs : ∀ n, s ≠ .tearDown n) (hd : s.duration = 0)
    (ho : s.occasion? r.base c r.numbered r.launcher.now = none)
    (hsingle : s.single r.base c r.launcher.now = Launch.once r.launcher.now line env)
    (hstep : r.step c s = { r with launcher := r.launcher.runOnce line env }) :
    (r.step c s).Tracks us ∧
      us.map (·.occasion) = s.lasting r.base c r.numbered r.launcher.now (us.map (·.occasion)) ∧
      (r.step c s).launcher.launches = r.launcher.launches ++ allowed
        (s.launches r.base c r.numbered r.launcher.now (us.map (·.occasion))) := by
  rw [HookStep.lasting_of_ne hs, HookStep.launches_of_ne hs hd, ho, hsingle, hstep]
  exact ⟨h.runOnce line env, (List.append_nil _).symm,
    Launcher.launches_runOnce h.available line env⟩

/-- **Time** passes. -/
lemma step_sleep (h : r.Tracks us) (c : CommandConf) (ms : Nat) :
    (r.step c (.sleep ms)).Tracks us ∧
      us.map (·.occasion) = (HookStep.sleep ms).lasting r.base c r.numbered r.launcher.now
        (us.map (·.occasion)) ∧
      (r.step c (.sleep ms)).launcher.launches.Perm (r.launcher.launches ++ allowed
        ((HookStep.sleep ms).launches r.base c r.numbered r.launcher.now
          (us.map (·.occasion)))) := by
  have hlaunches : (HookStep.sleep ms).launches r.base c r.numbered r.launcher.now
      (us.map (·.occasion)) =
        us.flatMap fun u => u.occasion.relaunches r.launcher.now (r.launcher.now + ms) := by
    simp [HookStep.launches, HookStep.occasion?, HookStep.single, List.flatMap_map,
      Occasion.launchesIn, HookStep.duration]
  have hs : ∀ n, HookStep.sleep ms ≠ .tearDown n := by simp
  rw [hlaunches, HookStep.lasting_of_ne hs]
  exact ⟨h.advance (Nat.le_add_right ..), (List.append_nil _).symm, h.launches_advance _⟩

/-- **A step** launches what is due, and what is underway after it is accounted for.

**Proof sketch.** What begins is underway from then on. Otherwise a teardown is used, a command is
launched for a segment, or time passes. -/
lemma step (h : r.Tracks us) (c : CommandConf) (s : HookStep) : ∃ us', (r.step c s).Tracks us' ∧
    us'.map (·.occasion) = s.lasting r.base c r.numbered r.launcher.now (us.map (·.occasion)) ∧
    (r.step c s).launcher.launches.Perm (r.launcher.launches ++ allowed
      (s.launches r.base c r.numbered r.launcher.now (us.map (·.occasion)))) := by
  cases ho : s.occasion? r.base c r.numbered r.launcher.now with
  | some o =>
    obtain ⟨hstep, ⟨hnumber, hstart⟩, hs, hd, hsingle⟩ := step_of_occasion? ho
    refine ⟨_, hstep ▸ h.begin hnumber hstart, ?_, ?_⟩
    · rw [HookStep.lasting_of_ne hs, ho]
      simp
    · rw [HookStep.launches_of_ne hs hd, ho, hsingle, hstep]
      refine .of_eq ((Launcher.launches_start h.available ..).trans ?_)
      simp [hstart]
  | none =>
    cases s with
    | init | demand | ready => cases ho
    | tearDown number =>
      obtain ⟨us', hus', hlasting, hlaunches⟩ := h.step_tearDown c number
      exact ⟨us', hus', hlasting, .of_eq hlaunches⟩
    | segmentCreate segment =>
      have hs : ∀ n, HookStep.segmentCreate segment ≠ .tearDown n := by simp
      obtain ⟨hus, hlasting, hlaunches⟩ := h.step_single hs rfl ho rfl rfl
      exact ⟨us, hus, hlasting, .of_eq hlaunches⟩
    | segmentComplete segment secs nanos =>
      have hs : ∀ n, HookStep.segmentComplete segment secs nanos ≠ .tearDown n := by simp
      obtain ⟨hus, hlasting, hlaunches⟩ := h.step_single hs rfl ho rfl rfl
      exact ⟨us, hus, hlasting, .of_eq hlaunches⟩
    | sleep ms => exact ⟨us, h.step_sleep c ms⟩

end Tracks

end HookRun

end LivePaths
