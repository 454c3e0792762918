import LivePaths.Proofs.Path.Equipment

set_option relaxedAutoImplicit false
set_option autoImplicit false

/-!
# The milestones of a life

All along the life of a path its beginning, its end, its readiness and its launches are told in
pairs, and at each end the last command is launched in the environment that was fixed at the
beginning. Passing of time only launches again what is running, and recordings only launch the
commands of their segments.

## Main definitions

* `Path.Accords` — what is told and launched in an act belongs together.
* `Path.Bracketed` — the milestones of a path are well bracketed.

## Main results

* `Path.Lived.equipped` — paths are equipped all their lives.
* `Path.Lived.accords` — in every act of a life, what is told and launched belongs together.
* `Path.milestones_of_life` — the milestones and the launches of a whole life.
-/

namespace LivePaths

namespace Path

/-! ## Acts -/

/-- **The launches of a media act**: the commands of the last recording for its segments. -/
def segmentLaunches (p : Path) : MediaAct → List (String × Environment)
  | .segmentCreate segment =>
    p.lastRecording?.toList.flatMap fun r =>
      launchOf r.onSegmentCreate (p.baseEnvironment.forSegment segment)
  | .segmentComplete segment ms =>
    p.lastRecording?.toList.flatMap fun r =>
      launchOf r.onSegmentComplete
        (p.baseEnvironment.forCompleteSegment segment (ms / 1000) (ms % 1000 * 1000000))
  | .write .. | .subscribe _ | .unsubscribe _ => []

/-- **Running again**: a command that was started for what has begun and that is to be restarted. -/
def Reruns (c : CommandConf) (o : Openings) (l : String × Environment) : Prop :=
  ∃ r ∈ o.running c, r.1.isSet = true ∧ r.1.restart = true ∧ l = (r.1.line, r.2)

/-- **Accord**: what is told and launched in an act belongs together, under some commands and the
environment that they have in common. While time passes nothing is told, and running commands are
launched again; media acts launch the commands of segments; all other acts are chronicles. -/
def Accords (c : CommandConf) (base : Environment) (p : Path) (a : PathAct) (es : List PathEvent)
    (ls : List (String × Environment)) : Prop :=
  match a with
  | .media m => es = [] ∧ ls = p.segmentLaunches m ∧ (p.media m).openings = p.openings
  | .step (.pass time) =>
    es = [] ∧ (∀ l ∈ ls, Reruns c p.openings l) ∧ (p.runTo time).openings = p.openings
  | .step s => Chronicle c base p.openings es ls (p.step s).openings

/-- **Whatever the act** is, what is told in it is a chronicle. -/
lemma Accords.chronicle {c : CommandConf} {base : Environment} {p : Path} {a : PathAct}
    {es : List PathEvent} {ls : List (String × Environment)} (h : Accords c base p a es ls) :
    ∃ ms, Chronicle c base p.openings es ms (p.act a).openings := by
  have hquiet (hes : es = []) (hopenings : (p.act a).openings = p.openings) :
      ∃ ms, Chronicle c base p.openings es ms (p.act a).openings := by
    rw [hes, hopenings]
    exact ⟨[], .nil _⟩
  cases a with
  | media m => exact hquiet h.1 h.2.2
  | step s =>
    cases s with
    | pass time => exact hquiet h.1 h.2.2
    | message m => exact ⟨ls, h⟩
    | reload conf => exact ⟨ls, h⟩
    | expire => exact ⟨ls, h⟩
    | destroy => exact ⟨ls, h⟩

/-- All steps but the passing of time take no time. -/
lemma now_step (p : Path) {s : PathStep} (hs : ∀ time, s ≠ .pass time) :
    (p.step s).now = p.now := by
  cases s with
  | message m => exact p.now_receive m
  | reload c =>
    rw [step, reload_eq]
    rfl
  | pass time => exact absurd rfl (hs time)
  | expire => exact p.now_expire
  | destroy =>
    unfold step destroy
    dsimp only
    split
    · rfl
    · exact now_shutdown _

namespace Equipped

variable {p q : Path} (h : p.Equipped)

include h

/-- **Sequences of changes** keep the equipment. -/
lemma changes (hq : PureChanges p q) : Recounts p q := by
  induction hq with
  | refl => exact ⟨h, .refl p⟩
  | tail _ hchange ih =>
    have hlast := ih.equipped.change hchange
    exact ⟨hlast.equipped, ih.narrates.trans hlast.narrates⟩

/-- Launching something once leaves the equipment as it is. -/
lemma runOnce (line : String) (env : Environment) :
    { p with launcher := p.launcher.runOnce line env }.Equipped :=
  ⟨h.init, h.ready, h.demand, h.atEnd, h.atNotReady, h.atUndemand, h.serves.runOnce line env⟩

/-- **Media acts** keep the equipment, and launch the commands of segments. -/
lemma media (m : MediaAct) : (p.media m).Equipped ∧ (p.media m).log = p.log ∧
    (p.media m).launcher.commands = p.launcher.commands ++ p.segmentLaunches m ∧
      (p.media m).openings = p.openings := by
  have hmodify (serial : Nat) (f : Stream → Stream) : (p.modifyStream serial f).Equipped ∧
      (p.modifyStream serial f).log = p.log ∧
      (p.modifyStream serial f).launcher.commands = p.launcher.commands ++ [] ∧
        (p.modifyStream serial f).openings = p.openings := by
    obtain ⟨stream, pastStreams, hsome, -, heq⟩ := p.modifyStream_eq serial f
    have hsame : (p.modifyStream serial f).equipment = p.equipment := by
      simp [heq, equipment, isReady, baseEnvironment, hsome]
    refine ⟨(h.silently hsame (by rw [heq])).equipped, by rw [heq], ?_, by rw [heq]; rfl⟩
    rw [heq, List.append_nil]
  cases m with
  | write serial u => exact hmodify serial _
  | subscribe serial => exact hmodify serial _
  | unsubscribe serial => exact hmodify serial _
  | segmentCreate segment | segmentComplete segment ms =>
    unfold Path.media segmentLaunches
    dsimp only
    cases p.lastRecording? with
    | none => exact ⟨h, rfl, (List.append_nil _).symm, rfl⟩
    | some r =>
      refine ⟨h.runOnce _ _, rfl, ?_, rfl⟩
      rw [Option.toList_some, List.flatMap_singleton]
      exact Launcher.commands_runOnce _ _ h.serves.available

/-- **Passing of time** launches again what is running. -/
lemma accords_runTo (time : Nat) : (p.runTo time).log = p.log ∧
    (p.runTo time).openings = p.openings ∧
      ∃ ls, (p.runTo time).launcher.commands = p.launcher.commands ++ ls ∧
        ∀ l ∈ ls, Reruns p.conf.commands p.openings l := by
  obtain ⟨ls, hcommands, hall⟩ := (p.launcher.relaunches_advance time).commands
  refine ⟨rfl, rfl, ls, hcommands, fun l hl => ?_⟩
  obtain ⟨j, hj, rfl, -⟩ := hall l hl
  obtain ⟨d, hd, hrestarts, hline, henv⟩ := h.serves.exists_duty hj
  have hset := Bool.and_eq_true_iff.1 hrestarts
  refine ⟨(d.command, d.teardown.environment), ?_, hset.1, hset.2, by simp [hline, henv]⟩
  rw [running_openings]
  exact List.mem_map_of_mem hd

end Equipped

/-! ## Lives -/

/-- **Paths are equipped** all their lives. -/
theorem Lived.equipped {p : Path} (h : p.Lived) : p.Equipped :=
  h.induction equipped_create (fun _ _ hchange hp => (hp.change hchange).equipped)
    fun _ m hp => (hp.media m).1

/-- The commands of a path and what they find in their environment stay the same. -/
lemma Lived.standing_act {p : Path} (h : p.Lived) {a : PathAct} (ha : p.Allows a) :
    (p.act a).conf.commands = p.conf.commands ∧ (p.act a).baseEnvironment = p.baseEnvironment := by
  cases a with
  | step s =>
    have hrecounts := h.equipped.changes (h.changes_step ha)
    exact ⟨hrecounts.narrates.commands, hrecounts.narrates.base⟩
  | media m =>
    obtain ⟨stream, pastStreams, launcher, -, -, heq⟩ := p.media_eq m
    have hact : p.act (.media m) = { p with stream, pastStreams, launcher } := heq
    rw [hact]
    exact ⟨rfl, rfl⟩

/-- **In every act of a life** what is told and launched belongs together. -/
theorem Lived.accords {p : Path} (h : p.Lived) {a : PathAct} (ha : p.Allows a) :
    ∃ es ls, (p.act a).log = p.log ++ es ∧
      (p.act a).launcher.commands = p.launcher.commands ++ ls ∧
      Accords p.conf.commands p.baseEnvironment p a es ls := by
  have hequipped := h.equipped
  cases a with
  | media m =>
    obtain ⟨-, hlog, hcommands, hopenings⟩ := hequipped.media m
    exact ⟨[], _, hlog.trans (List.append_nil _).symm, hcommands, rfl, rfl, hopenings⟩
  | step s =>
    have htold : Recounts p (p.step s) := hequipped.changes (h.changes_step ha)
    cases s with
    | pass time =>
      obtain ⟨hlog, hopenings, ls, hcommands, hall⟩ := hequipped.accords_runTo time
      exact ⟨[], ls, hlog.trans (List.append_nil _).symm, hcommands, rfl, hall, hopenings⟩
    | message m => exact htold.narrates.chronicle (p.now_step (by simp))
    | reload c => exact htold.narrates.chronicle (p.now_step (by simp))
    | expire => exact htold.narrates.chronicle (p.now_step (by simp))
    | destroy => exact htold.narrates.chronicle (p.now_step (by simp))

/-! ### Milestones -/

/-- **Brackets**: a path is told to begin before anything else but calls of its source, once, and to
end once if it has ended. That it is ready and that it is not, that a command is to publish and that
it is not needed, are told in turn; the last one tells how it is. After the end nothing begins, and
what has begun is over. -/
structure Bracketed (p : Path) : Prop where
  begins : ∃ before rest, p.log = before ++ .init :: rest ∧
    (∀ e ∈ before, e.isSourceCall = true) ∧ .init ∉ rest
  ends : p.log.count .uninit = p.ended.toNat
  readiness : Alternates false (p.log.filterMap PathEvent.readiness?)
  isReady : p.isReady = levelAfter false (p.log.filterMap PathEvent.readiness?)
  demand : Alternates false (p.log.filterMap PathEvent.demanded?)
  isIdle : p.launchDemand.isIdle = !levelAfter false (p.log.filterMap PathEvent.demanded?)
  afterEnd : ∀ before rest, p.log = before ++ .uninit :: rest →
    ∀ e ∈ rest, e ≠ .ready ∧ ∀ query, e ≠ .demand query
  settled : p.ended = true →
    (p.log.filterMap PathEvent.readiness?).count true =
        (p.log.filterMap PathEvent.readiness?).count false ∧
      (p.log.filterMap PathEvent.demanded?).count true =
        (p.log.filterMap PathEvent.demanded?).count false

/-- **The whole history** of a path is a chronicle after its beginning. -/
lemma Lived.chronicle {p : Path} (h : p.Lived) : ∃ before rest ls, p.log = before ++ .init :: rest ∧
    (∀ e ∈ before, e.isSourceCall = true) ∧
      Chronicle p.conf.commands p.baseEnvironment { init := some p.baseEnvironment } rest ls
        p.openings := by
  induction h with
  | create settings now id name found =>
    refine ⟨found.sourceStart name, [], [], ?_, ?_, ?_⟩
    · rw [create_eq]
    · unfold ConfSet.Found.sourceStart
      split
      · split <;> simp [PathEvent.isSourceCall]
      · simp
    · rw [create_eq]
      exact .nil _
  | @act p hp a ha ih =>
    obtain ⟨before, rest, ls, hlog, hbefore, hchronicle⟩ := ih
    obtain ⟨hcommands, hbase⟩ := hp.standing_act ha
    obtain ⟨es, _, hmore, -, haccords⟩ := hp.accords ha
    obtain ⟨ms, hlast⟩ := haccords.chronicle
    rw [hcommands, hbase]
    refine ⟨before, rest ++ es, ls ++ ms, ?_, hbefore, hchronicle.append hlast⟩
    rw [hmore, hlog, List.append_assoc, List.cons_append]

/-- Calls of the source are no milestones. -/
lemma isMilestone_of_isSourceCall {e : PathEvent} (h : e.isSourceCall = true) :
    e.isMilestone = false := by
  cases e <;> simp_all [PathEvent.isSourceCall, PathEvent.isMilestone]

/-- **Signals of readiness** are told in turn, and the last one tells how it is. -/
lemma Lived.readiness {p : Path} (h : p.Lived) :
    Alternates false (p.log.filterMap PathEvent.readiness?) ∧
      p.isReady = levelAfter false (p.log.filterMap PathEvent.readiness?) := by
  obtain ⟨before, rest, ls, hlog, hbefore, hchronicle⟩ := h.chronicle
  obtain ⟨halternates, hlevel⟩ := hchronicle.readiness
  have hopen : p.openings.ready.isSome = p.isReady := by
    simp [openings, h.equipped.ready]
  have hsignals : p.log.filterMap PathEvent.readiness? = rest.filterMap PathEvent.readiness? := by
    rw [hlog, List.filterMap_append, List.filterMap_eq_nil_iff.2 fun e he =>
      PathEvent.readiness?_of_not_milestone (isMilestone_of_isSourceCall (hbefore e he))]
    rfl
  rw [hsignals]
  exact ⟨halternates, (hlevel.trans hopen).symm⟩

/-- **Signals of demand** are told in turn, and the last one tells how it is. -/
lemma Lived.demands {p : Path} (h : p.Lived) :
    Alternates false (p.log.filterMap PathEvent.demanded?) ∧
      p.launchDemand.isIdle = !levelAfter false (p.log.filterMap PathEvent.demanded?) := by
  obtain ⟨before, rest, ls, hlog, hbefore, hchronicle⟩ := h.chronicle
  obtain ⟨halternates, hlevel⟩ := hchronicle.demands
  have hopen : p.openings.demand.isSome = !p.launchDemand.isIdle := by
    simp [openings, h.equipped.demand]
  have hsignals : p.log.filterMap PathEvent.demanded? = rest.filterMap PathEvent.demanded? := by
    rw [hlog, List.filterMap_append, List.filterMap_eq_nil_iff.2 fun e he =>
      PathEvent.demanded?_of_not_milestone (isMilestone_of_isSourceCall (hbefore e he))]
    rfl
  rw [hsignals]
  refine ⟨halternates, ?_⟩
  rw [← Bool.not_not p.launchDemand.isIdle, ← hopen]
  exact congrArg _ hlevel.symm

/-- **The end** is told once, if the path has ended. -/
lemma Lived.count_uninit {p : Path} (h : p.Lived) : p.log.count .uninit = p.ended.toNat := by
  obtain ⟨before, rest, ls, hlog, hbefore, hchronicle⟩ := h.chronicle
  have hnone : before.count .uninit = 0 := by
    refine List.count_eq_zero.2 fun hmem => ?_
    simpa [PathEvent.isSourceCall] using hbefore _ hmem
  have hcount := hchronicle.count_uninit
  have hinit := h.equipped.init
  rw [hlog, List.count_append, hnone, List.count_cons_of_ne (by simp)]
  cases hopen : p.onUninit <;> cases hended : p.ended <;> simp_all [openings]

/-- **After the end** nothing begins. -/
lemma Lived.nothing_begins_after {p : Path} (h : p.Lived) {earlier later : List PathEvent}
    (hsplit : p.log = earlier ++ .uninit :: later) :
    ∀ e ∈ later, e ≠ .ready ∧ ∀ query, e ≠ .demand query := by
  obtain ⟨before, rest, ls, hlog, hbefore, hchronicle⟩ := h.chronicle
  rw [hlog] at hsplit
  rcases List.append_eq_append_iff.1 hsplit with
    ⟨middle, -, hmiddle⟩ | ⟨middle, hearlier, hmiddle⟩
  · obtain ⟨between, hrest⟩ := Chronicle.exists_of_cons_eq (by simp) hmiddle
    exact hchronicle.nothing_begins_after hrest
  · -- the end is not told before the beginning
    cases middle with
    | nil => simp at hmiddle
    | cons e middle' =>
      obtain rfl := (List.cons.inj hmiddle).1
      have hmem : .uninit ∈ before := by simp [hearlier]
      simpa [PathEvent.isSourceCall] using hbefore _ hmem

/-- **The milestones of a path** are well bracketed in every state of a life. -/
theorem Lived.bracketed {p : Path} (h : p.Lived) : p.Bracketed := by
  obtain ⟨before, rest, ls, hlog, hbefore, hchronicle⟩ := h.chronicle
  obtain ⟨hreadiness, hisReady⟩ := h.readiness
  obtain ⟨hdemands, hisIdle⟩ := h.demands
  refine ⟨⟨before, rest, hlog, hbefore, hchronicle.not_mem_init⟩, h.count_uninit, hreadiness,
    hisReady, hdemands, hisIdle, fun _ _ => h.nothing_begins_after, fun hended => ?_⟩
  -- a path that has ended is neither ready nor wanted
  have hover := h.reached.orderly.gone hended
  have hunready : levelAfter false (p.log.filterMap PathEvent.readiness?) = false := by
    rw [← hisReady]
    simp [isReady, hover.stream]
  have hunwanted : levelAfter false (p.log.filterMap PathEvent.demanded?) = false := by
    rw [hover.launch] at hisIdle
    simpa [OnDemand.isIdle] using hisIdle
  have hpairs := count_of_alternates hreadiness
  have hpairs' := count_of_alternates hdemands
  simp only [hunready, hunwanted, Bool.toNat_false, Nat.add_zero] at hpairs hpairs'
  exact ⟨hpairs, hpairs'⟩

/-- All along a life a path keeps its commands and what they find in their environment. -/
lemma Lived.standing_episode {p : Path} (h : p.Lived) {as : List PathAct} (has : p.AllowsAll as) :
    ∀ e ∈ p.episodes as, e.1.conf.commands = p.conf.commands ∧
      e.1.baseEnvironment = p.baseEnvironment := by
  induction as generalizing p with
  | nil => simp [episodes]
  | cons a rest ih =>
    obtain ⟨hcommands, hbase⟩ := h.standing_act has.1
    refine List.forall_mem_cons.2 ⟨⟨rfl, rfl⟩, fun e he => ?_⟩
    obtain ⟨hcommands', hbase'⟩ := ih (h.act has.1) has.2 e he
    exact ⟨hcommands'.trans hcommands, hbase'.trans hbase⟩

/-- **The milestones of a whole life.** A new path is told to begin, after calls of its source, and
launches its first command. From then on, whatever happens, what is told and launched in every act
belongs together: each time something begins or ends, its command is launched once if there is one,
and at the end with the environment of the beginning, unless a null character in the command or the
environment prevents it; nothing else is launched but running commands while time passes and the
commands of segments. The milestones are well bracketed all along.

**Proof sketch.** What remains to be done at an end is there exactly for what has begun, with the
environment of the beginning. The few changes that begin or end something keep this, and all others
neither tell nor launch anything. -/
theorem milestones_of_life {settings : PathSettings} {now id : Nat} {name : String}
    {found : ConfSet.Found} {as : List PathAct}
    (has : (create settings now id name found).AllowsAll as) :
    ((create settings now id name found).log = found.sourceStart name ++ [.init] ∧
      (create settings now id name found).launcher.commands =
        launchOf found.conf.commands.onInit.line
          (.base name settings.rtspAddress found.captures) ∧
      (create settings now id name found).openings =
        { init := some (.base name settings.rtspAddress found.captures) }) ∧
    (∀ e ∈ (create settings now id name found).episodes as, ∃ es ls,
      (e.1.act e.2).log = e.1.log ++ es ∧
      (e.1.act e.2).launcher.commands = e.1.launcher.commands ++ ls ∧
      Accords found.conf.commands (.base name settings.rtspAddress found.captures)
        e.1 e.2 es ls) ∧
    ((create settings now id name found).after as).Bracketed := by
  have hnew := Lived.create settings now id name found
  refine ⟨⟨?_, commands_create .., openings_create ..⟩, fun e he => ?_, (hnew.after has).bracketed⟩
  · rw [create_eq]
  · obtain ⟨hlived, hallows⟩ := hnew.of_episode has e he
    obtain ⟨hcommands, hbase⟩ := hnew.standing_episode has e he
    have haccords := hlived.accords hallows
    rw [hcommands, hbase] at haccords
    rw [create_eq] at haccords
    exact haccords

/-- A configuration with commands for most occasions. -/
def attended : ConfSet.Found where
  conf :=
    { name := "cam"
      commands :=
        { onDemand := { line := "launch", restart := true }
          onUndemand := "recall"
          onReady := { line := "follow", restart := true }
          onNotReady := "report" } }
  captures := []

/-- Somebody asks, somebody publishes and is replaced, and the path is destroyed. -/
def attendedLife : List PathAct :=
  [.step (.message (.describe 0 "q")),
    .step (.message (.addPublisher 1 ⟨0, ⟨"rtspSession", "a"⟩⟩ ⟨[⟨.video, "H264"⟩]⟩ false "" none)),
    .step (.message (.addPublisher 2 ⟨1, ⟨"rtspSession", "b"⟩⟩ ⟨[⟨.video, "H264"⟩]⟩ false "" none)),
    .step .destroy]

/-- The path is ready twice, and what was launched once is recalled once. -/
theorem milestones_attendedLife :
    (create {} 0 1 "cam" attended).AllowsAll attendedLife ∧
      ((create {} 0 1 "cam" attended).after attendedLife).log.filter PathEvent.isMilestone =
        [.init, .demand "q", .ready, .notReady, .ready, .uninit, .notReady,
          .undemand "path destroyed"] ∧
      ((create {} 0 1 "cam" attended).after attendedLife).Bracketed := by
  have hallows : (create {} 0 1 "cam" attended).AllowsAll attendedLife := by decide
  obtain ⟨-, -, hbracketed⟩ := milestones_of_life hallows
  exact ⟨hallows, by decide, hbracketed⟩

/-- A configuration in which the command for the loss of readiness has a null character. -/
def reportedInVain : ConfSet.Found where
  conf := { name := "cam", commands := { onNotReady := "a\x00b" } }
  captures := []

/-- Somebody publishes and leaves. -/
def briefLife : List PathAct :=
  [.step (.message (.addPublisher 0 ⟨0, ⟨"rtspSession", "a"⟩⟩ ⟨[⟨.video, "H264"⟩]⟩ false "" none)),
    .step (.message (.removePublisher ⟨0, ⟨"rtspSession", "a"⟩⟩))]

/-- The environment of the readiness in this life. -/
def reportedEnvironment : Environment :=
  (Environment.base "cam" ":8554" []).forReady (some ⟨"rtspSession", "a"⟩) ""

/-- **A command with a null character is not launched** when the path ceases to be ready, though the
environment of the readiness has none. -/
theorem unlaunched_reportedInVain :
    (create {} 0 1 "cam" reportedInVain).AllowsAll briefLife ∧
      reportedInVain.conf.commands.onNotReady.isEmpty = false ∧
      ((create {} 0 1 "cam" reportedInVain).after (briefLife.take 1)).openings.ready =
        some reportedEnvironment ∧ reportedEnvironment.IsNullFree ∧
      ((create {} 0 1 "cam" reportedInVain).after briefLife).log.count .notReady = 1 ∧
      ((create {} 0 1 "cam" reportedInVain).after briefLife).launcher.commands = [] := by
  have hallows : (create {} 0 1 "cam" reportedInVain).AllowsAll briefLife := by decide
  refine ⟨hallows, by decide, rfl, by decide, by decide, ?_⟩
  -- nothing is launched by the publisher, and what is to be launched in the end cannot be
  have hfirst := (Lived.create {} 0 1 "cam" reportedInVain).act hallows.1
  obtain ⟨es, ls, -, hcommands, haccords⟩ := hfirst.accords hallows.2.1
  have hnone : ls = [] := Chronicle.launches_eq_nil haccords fun line hline env => by
    simp only [List.mem_cons, List.not_mem_nil, or_false] at hline
    rcases hline with rfl | rfl | rfl | rfl
    · rfl
    · exact launchOf_of_null (by decide) env
    · rfl
    · rfl
  rw [hnone] at hcommands
  exact hcommands.trans rfl

end Path

end LivePaths
