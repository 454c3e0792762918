import LivePaths.Proofs.Command.Underway

set_option relaxedAutoImplicit false
set_option autoImplicit false

/-!
# Runs go to plan

A run launches what the plan of its history says: the same commands at the same times in the same
environments, each as often. What has a null character in its line or its environment is planned in
vain.

## Main definitions

* `HookRun.run`, `HookRun.ofHistory` — runs of histories.
* `HookRun.KeepsPlan` — all that is said of the run of a history.

## Main results

* `HookRun.Tracks.run` — runs launch what was to come.
* `HookRun.keepsPlan_ofHistory` — every run goes to plan.
* `HookRun.unlaunched_nullLine` — a line with a null character is never launched.
-/

namespace LivePaths

open Launch (allowed)

namespace HookRun

/-! ## Steps one after another -/

@[simp]
lemma base_step (r : HookRun) (c : CommandConf) (s : HookStep) : (r.step c s).base = r.base := by
  cases s with
  | tearDown number =>
    simp only [step, tearDown]
    split <;> rfl
  | _ => rfl

/-- The clock moves on while a step takes time. -/
lemma now_step (r : HookRun) (c : CommandConf) (s : HookStep) :
    (r.step c s).launcher.now = r.launcher.now + s.duration := by
  cases s with
  | tearDown number =>
    simp only [step, tearDown]
    split
    · rfl
    · exact Launcher.now_tearDown ..
  | sleep ms => exact Launcher.now_advance ..
  | _ => simp [step, begun, HookStep.duration]

/-- Teardowns are numbered in the order of what begins. -/
lemma numbered_step (r : HookRun) (c : CommandConf) (s : HookStep) :
    (r.step c s).numbered = s.nextNumber r.base c r.numbered r.launcher.now := by
  cases s with
  | tearDown number =>
    simp only [step, tearDown]
    split <;> rfl
  | _ => rfl

/-- **The run of a history** from some state on. -/
def run (r : HookRun) (h : HookHistory) : HookRun := h.foldl (fun r x => r.step x.1 x.2) r

/-- **A run** launches what was to come, and what remains underway is accounted for.

**Proof sketch.** Induction on the history. What is to come before a step is launched by it or to
come after it (`HookHistory.outlook_perm`), and the step launches its part
(`HookRun.Tracks.step`). -/
theorem Tracks.run (h : HookHistory) {r : HookRun} {us : List Underway} (hr : r.Tracks us) :
    ∃ us', (r.run h).Tracks us' ∧
      us'.map (·.occasion) =
        h.remaining r.base r.numbered r.launcher.now (us.map (·.occasion)) ∧
      (r.run h).launcher.launches.Perm (r.launcher.launches ++ allowed
        (h.outlook r.base r.numbered r.launcher.now (us.map (·.occasion)))) := by
  induction h generalizing r us with
  | nil =>
    refine ⟨us, hr, ?_, ?_⟩
    · simp [HookHistory.remaining, HookHistory.occasions]
    · have hnone : (us.map (·.occasion)).flatMap (·.toCome [] r.launcher.now) = [] :=
        List.flatMap_eq_nil_iff.2 fun o _ => o.toCome_nil _
      rw [HookHistory.outlook, hnone]
      simp [HookRun.run, HookHistory.occasions, HookHistory.singles]
  | cons x later ih =>
    obtain ⟨c, s⟩ := x
    obtain ⟨us₁, hr₁, hlasting, hstep⟩ := hr.step c s
    obtain ⟨us₂, hr₂, hremaining, hrun⟩ := ih hr₁
    rw [base_step, now_step, numbered_step, hlasting] at hremaining hrun
    refine ⟨us₂, hr₂, ?_, ?_⟩
    · rw [hremaining, HookHistory.remaining_cons]
    · refine hrun.trans ((hstep.append_right _).trans ?_)
      rw [List.append_assoc, ← Launch.allowed_append]
      exact (Launch.allowed_perm (HookHistory.outlook_perm ..).symm).append_left _

lemma numbered_run (r : HookRun) (h : HookHistory) : (r.run h).numbered =
    r.numbered + (h.occasions r.base r.numbered r.launcher.now).length := by
  induction h generalizing r with
  | nil => rfl
  | cons x later ih =>
    obtain ⟨c, s⟩ := x
    have hrun : r.run ((c, s) :: later) = (r.step c s).run later := rfl
    rw [hrun, ih, base_step, now_step, numbered_step, HookHistory.occasions_cons,
      HookStep.nextNumber, List.length_append, List.length_map, Nat.add_assoc]

/-- **The run of a history** for a path. -/
def ofHistory (path rtspAddress : String) (captures : List String) (h : HookHistory) : HookRun :=
  run { base := .base path rtspAddress captures } h

/-- **Going to plan**: all that is said of the run of a history. -/
structure KeepsPlan (path rtspAddress : String) (captures : List String) (h : HookHistory) :
    Prop where
  /-- What is planned is launched where the line and the environment allow it, and nothing else. -/
  launches : (ofHistory path rtspAddress captures h).launcher.launches.Perm
    (allowed (h.plan (.base path rtspAddress captures)))
  /-- Without null characters in the environments every command line is launched as planned that has
  none either, and no other one. -/
  nullFree : NullFree path → NullFree rtspAddress → (∀ text ∈ captures, NullFree text) →
    (∀ x ∈ h, ∀ text ∈ x.2.texts, NullFree text) →
      (ofHistory path rtspAddress captures h).launcher.launches.Perm
        ((h.plan (.base path rtspAddress captures)).filter fun x => NullFree x.line)
  /-- Commands that restart are alive until their teardown is used. -/
  running : (ofHistory path rtspAddress captures h).running =
    ((h.occasions (.base path rtspAddress captures) 0 0).filter fun x =>
      x.1.restarts ∧ ¬ x.2.TearsDown x.1.number).length
  /-- Teardowns have the numbers of what began. -/
  numbers : (h.occasions (.base path rtspAddress captures) 0 0).map (·.1.number) =
    List.range (ofHistory path rtspAddress captures h).numbered
  /-- A teardown that was used, or that there is not, does nothing. -/
  once : ∀ c number, (∀ x ∈ h.occasions (.base path rtspAddress captures) 0 0,
      x.1.number = number → x.2.TearsDown number) →
    (ofHistory path rtspAddress captures h).step c (.tearDown number) =
      ofHistory path rtspAddress captures h
  /-- All environments tell the path, the port and the groups. -/
  environments : ∀ x ∈ h.plan (.base path rtspAddress captures),
    Environment.Describes path rtspAddress captures x.environment
  /-- The port is what comes after the last colon of the address. -/
  port : ∀ host port, rtspAddress = host ++ ":" ++ port → ':' ∉ port.toList →
    Environment.portOf rtspAddress = port
  /-- Without a colon the port is empty. -/
  noPort : ':' ∉ rtspAddress.toList → Environment.portOf rtspAddress = ""

section Plan

variable (path rtspAddress : String) (captures : List String) (h : HookHistory)

/-- **The end of a run**: what remains underway is accounted for, and what was planned is
launched. -/
lemma tracks_ofHistory : ∃ us, (ofHistory path rtspAddress captures h).Tracks us ∧
    us.map (·.occasion) = ((h.occasions (.base path rtspAddress captures) 0 0).filter
      fun x => ¬ x.2.TearsDown x.1.number).map (·.1) ∧
    (ofHistory path rtspAddress captures h).launcher.launches.Perm
      (allowed (h.plan (.base path rtspAddress captures))) := by
  have hstart : Tracks { base := .base path rtspAddress captures } [] :=
    ⟨rfl, rfl, rfl, by simp, .nil, by simp, by simp⟩
  exact hstart.run h

/-- Only the lines decide what can be launched, if nobody brings a null character in. -/
lemma allowed_plan (hpath : NullFree path) (haddress : NullFree rtspAddress)
    (hcaptures : ∀ text ∈ captures, NullFree text)
    (hh : ∀ x ∈ h, ∀ text ∈ x.2.texts, NullFree text) :
    allowed (h.plan (.base path rtspAddress captures)) =
      (h.plan (.base path rtspAddress captures)).filter fun x => NullFree x.line := by
  refine List.filter_congr fun x hx => ?_
  obtain ⟨y, hy, henv⟩ := HookHistory.exists_of_mem_plan hx
  have hfree : x.environment.IsNullFree :=
    HookStep.isNullFree (Environment.isNullFree_base hpath haddress hcaptures) (hh y hy) henv
  rw [Bool.eq_iff_iff, Environment.canLaunch_iff, decide_eq_true_iff, and_iff_left hfree]

/-- **Every run goes to plan.**

**Proof sketch.** At the end of a run all jobs and teardowns are those of what is still underway,
and all launches are those of the plan (`HookRun.tracks_ofHistory`). -/
theorem keepsPlan_ofHistory : KeepsPlan path rtspAddress captures h := by
  obtain ⟨us, htracks, hus, hlaunches⟩ := tracks_ofHistory path rtspAddress captures h
  refine
    { launches := hlaunches
      nullFree := fun hpath haddress hcaptures hh => ?_
      running := ?_
      numbers := ?_
      once := fun c number hended => ?_
      environments := fun x hx => ?_
      port := ?_
      noPort := Environment.portOf_of_notMem }
  · rwa [allowed_plan path rtspAddress captures h hpath haddress hcaptures hh] at hlaunches
  · rw [htracks.running_eq, hus, List.countP_map, List.countP_filter, List.countP_eq_length_filter]
    simp
  · rw [HookHistory.numbers_occasions, ofHistory, numbered_run, List.range_eq_range']
    simp
  · refine htracks.tearDown_of_ne fun u hu heq => ?_
    have hmem : u.occasion ∈ us.map (·.occasion) := List.mem_map_of_mem hu
    rw [hus] at hmem
    obtain ⟨x, hx, hxu⟩ := List.mem_map.1 hmem
    obtain ⟨hx, hlasts⟩ := List.mem_filter.1 hx
    rw [hxu, heq] at hlasts
    exact absurd (hended x hx (by rw [hxu, heq])) (by simpa using hlasts)
  · obtain ⟨y, -, henv⟩ := HookHistory.exists_of_mem_plan hx
    exact HookStep.describes henv
  · rintro host port rfl hport
    exact Environment.portOf_append host hport

end Plan

/-- A camera is watched; after some time it is ready, and it is not asked for any more. All commands
are gone from the configuration by the time of the ends, and one end is carried out twice. A command
whose line has a null character stands beside all this. -/
def cameraHistory : HookHistory :=
  let conf : CommandConf :=
    { onInit := { line := "watch", restart := true }
      onReady := { line := "count", restart := true }
      onUndemand := "cool" }
  [(conf, .init), (conf, .demand "?"), (conf, .sleep 7000), (conf, .ready none ""),
    ({ onInit := { line := "\x00", restart := true } }, .init), (conf, .sleep 5000),
    ({}, .tearDown 0), ({}, .tearDown 1), ({}, .tearDown 0), ({}, .sleep 10000)]

/-- What the camera launches, whose camera it is, and what is alive in the end: what counts, and
what cannot be launched and is tried again and again. -/
theorem keepsPlan_camera :
    ((ofHistory "cam1" "host:8554" ["cam1", "1"] cameraHistory).launcher.launches.map
        fun x => (x.time, x.line)).Perm
      [(0, "watch"), (5000, "watch"), (10000, "watch"), (12000, "cool"),
        (7000, "count"), (12000, "count"), (17000, "count"), (22000, "count")] ∧
      (∀ x ∈ (ofHistory "cam1" "host:8554" ["cam1", "1"] cameraHistory).launcher.launches,
        x.environment.get? "G1" = some "1" ∧ x.environment.get? "RTSP_PORT" = some "8554") ∧
      (ofHistory "cam1" "host:8554" ["cam1", "1"] cameraHistory).running = 2 ∧
      (ofHistory "cam1" "host:8554" ["cam1", "1"] cameraHistory).step {} (.tearDown 1) =
        ofHistory "cam1" "host:8554" ["cam1", "1"] cameraHistory := by
  have hplan := keepsPlan_ofHistory "cam1" "host:8554" ["cam1", "1"] cameraHistory
  have hlaunches := hplan.nullFree (by decide) (by decide) (by decide) (by decide)
  refine ⟨(hlaunches.map _).trans (.of_eq (by decide +kernel)), fun x hx => ?_, ?_, ?_⟩
  · have henv := hplan.environments x (List.mem_of_mem_filter (hlaunches.subset hx))
    have hport := hplan.port "host" "8554" rfl (by decide)
    exact ⟨henv.groups 1, henv.rtspPort.trans (congrArg some hport)⟩
  · rw [hplan.running]
    decide +kernel
  · exact hplan.once {} 1 (by decide +kernel)

/-- A command is to be launched in the beginning, and its line has a null character. -/
def nullLine : HookHistory := [({ onInit := { line := "a\x00b" } }, .init)]

/-- **A line with a null character** is planned but not launched, though its environment allows
launches. -/
theorem unlaunched_nullLine :
    NullFree "cam" ∧ NullFree ":8554" ∧ (∀ x ∈ nullLine, ∀ text ∈ x.2.texts, NullFree text) ∧
      (nullLine.plan (.base "cam" ":8554" [])).map (fun x => (x.time, x.line)) =
        [(0, "a\x00b")] ∧
      (ofHistory "cam" ":8554" [] nullLine).launcher.launches = [] ∧
      ¬ (ofHistory "cam" ":8554" [] nullLine).launcher.launches.Perm
        (nullLine.plan (.base "cam" ":8554" [])) := by
  have hpath : NullFree "cam" := by decide
  have haddress : NullFree ":8554" := by decide
  have htexts : ∀ x ∈ nullLine, ∀ text ∈ x.2.texts, NullFree text := by decide
  have hplan : (nullLine.plan (.base "cam" ":8554" [])).map (fun x => (x.time, x.line)) =
      [(0, "a\x00b")] := by decide +kernel
  obtain ⟨-, -, -, hlaunches⟩ := tracks_ofHistory "cam" ":8554" [] nullLine
  have hnone : (ofHistory "cam" ":8554" [] nullLine).launcher.launches = [] := by
    refine List.Perm.eq_nil (hlaunches.trans (.of_eq ?_))
    rw [allowed_plan _ _ _ _ hpath haddress (by simp) htexts]
    decide +kernel
  refine ⟨hpath, haddress, htexts, hplan, hnone, fun h => ?_⟩
  have hlength := h.length_eq
  rw [hnone] at hlength
  exact absurd hlength (by decide +kernel)

end HookRun

end LivePaths
