import LivePaths.Proofs.Path.Chronicle
import LivePaths.Proofs.Path.Lives

set_option relaxedAutoImplicit false
set_option autoImplicit false

/-!
# What a path has to do at the ends

What remains to be done at the end of something is part of the state of a path: it is there exactly
for what has begun, with the environment of the beginning, and the launcher keeps exactly the jobs
that are stopped then. However a path comes to such an end, it hence tells of it once and launches
its last command once.

## Main definitions

* `Path.openings`, `Path.duties` — what has begun on a path and not ended, and what is to be done
  then.
* `Path.Equipped` — the state of a path agrees with what has begun, and its launcher with its
  duties.
* `Path.Narrates` — what has happened between two states is a chronicle.

## Main results

* `Path.Equipped.change` — every change keeps the equipment and adds a chronicle.
-/

namespace LivePaths

namespace Path

/-! ## Equipment -/

/-- **What has begun** on a path and not ended. -/
def openings (p : Path) : Openings where
  init := p.onUninit.map (·.environment)
  ready := p.onNotReady.map (·.environment)
  demand := p.onUndemand.map (·.environment)

/-- **The duties of a path**: what it has to do at the ends of what has begun. -/
def duties (p : Path) : List Duty :=
  p.onUninit.toList.map (⟨p.conf.commands.onInit, ·⟩) ++
    p.onNotReady.toList.map (⟨p.conf.commands.onReady, ·⟩) ++
      p.onUndemand.toList.map (⟨p.conf.commands.onDemand, ·⟩)

/-- What was started for the openings of a path. -/
lemma running_openings (p : Path) : p.openings.running p.conf.commands =
    p.duties.map fun d => (d.command, d.teardown.environment) := by
  unfold openings Openings.running duties
  cases p.onUninit <;> cases p.onNotReady <;> cases p.onUndemand <;> rfl

/-- **An equipped path**: what remains to be done at the ends is there exactly for what has begun,
with the last commands of the configuration, and the launcher serves these duties. -/
structure Equipped (p : Path) : Prop where
  init : p.onUninit.isSome = !p.ended
  ready : p.onNotReady.isSome = p.isReady
  demand : p.onUndemand.isSome = !p.launchDemand.isIdle
  atEnd : ∀ t ∈ p.onUninit, t.line = ""
  atNotReady : ∀ t ∈ p.onNotReady, t.line = p.conf.commands.onNotReady
  atUndemand : ∀ t ∈ p.onUndemand, t.line = p.conf.commands.onUndemand
  serves : p.launcher.Serves p.duties

/-- **Equipment**: what it depends on whether a path is equipped. -/
def equipment (p : Path) : CommandConf × Environment × Launcher × Option Teardown ×
    Option Teardown × Option Teardown × Bool × Bool × Bool :=
  (p.conf.commands, p.baseEnvironment, p.launcher, p.onUninit, p.onNotReady, p.onUndemand, p.ended,
    p.isReady, p.launchDemand.isIdle)

/-- Of a launch it matters only whether it is idle. -/
lemma equipment_of_isIdle (p : Path) {o : OnDemand} (h : o.isIdle = p.launchDemand.isIdle) :
    { p with launchDemand := o }.equipment = p.equipment := by
  simp [equipment, isReady, baseEnvironment, h]

/-! ### New paths -/

section Create

variable (settings : PathSettings) (now id : Nat) (name : String) (found : ConfSet.Found)

/-- **A new path** has begun, and nothing else has. -/
lemma openings_create : (create settings now id name found).openings =
    { init := some (.base name settings.rtspAddress found.captures) } := by
  rw [create_eq]
  rfl

/-- What a new path launches. -/
lemma commands_create : (create settings now id name found).launcher.commands =
    launchOf found.conf.commands.onInit.line (.base name settings.rtspAddress found.captures) := by
  rw [create_eq]
  exact Launcher.commands_start _ rfl _

/-- **A new path** is equipped. -/
lemma equipped_create : (create settings now id name found).Equipped := by
  have hserves : ({ now } : Launcher).Serves [] := by
    constructor <;> simp
  rw [create_eq]
  refine ⟨rfl, rfl, rfl, ?_, by simp, by simp, ?_⟩
  · rintro t ⟨⟩
    rfl
  · exact hserves.start found.conf.commands.onInit ""
      (.base name settings.rtspAddress found.captures)

end Create

/-! ## Narration -/

/-- **Narration**: a path goes on under the same commands, and unless time passes what happens is a
chronicle. -/
structure Narrates (p q : Path) : Prop where
  commands : q.conf.commands = p.conf.commands
  base : q.baseEnvironment = p.baseEnvironment
  later : p.now ≤ q.now
  chronicle : q.now = p.now → ∃ es ls, q.log = p.log ++ es ∧
    q.launcher.commands = p.launcher.commands ++ ls ∧
      Chronicle p.conf.commands p.baseEnvironment p.openings es ls q.openings

namespace Narrates

variable {p q r : Path}

lemma refl (p : Path) : Narrates p p :=
  ⟨rfl, rfl, le_rfl, fun _ => ⟨[], [], (List.append_nil _).symm, (List.append_nil _).symm, .nil _⟩⟩

lemma trans (h : Narrates p q) (h' : Narrates q r) : Narrates p r := by
  refine ⟨h'.commands.trans h.commands, h'.base.trans h.base, h.later.trans h'.later,
    fun hnow => ?_⟩
  -- if no time has passed in all, none has passed in either part
  have hlater := h.later
  have hlater' := h'.later
  obtain ⟨es, ls, hlog, hcommands, hchronicle⟩ := h.chronicle (by omega)
  obtain ⟨fs, ms, hlog', hcommands', hchronicle'⟩ := h'.chronicle (by omega)
  rw [h.commands, h.base] at hchronicle'
  refine ⟨es ++ fs, ls ++ ms, ?_, ?_, hchronicle.append hchronicle'⟩
  · rw [hlog', hlog, List.append_assoc]
  · rw [hcommands', hcommands, List.append_assoc]

end Narrates

/-- **A recounted change**: the path is equipped afterwards, and what has happened is a
chronicle. -/
structure Recounts (p q : Path) : Prop where
  equipped : q.Equipped
  narrates : Narrates p q

/-! ## Changes -/

namespace Equipped

variable {p q : Path} (h : p.Equipped)

include h

/-- Nothing remains to be done for what has not begun. -/
lemma onNotReady_eq_none (hstream : p.stream = none) : p.onNotReady = none := by
  simpa [isReady, hstream] using h.ready

/-- **Asides** leave the equipment as it is. -/
lemma aside (heq : q.equipment = p.equipment) {es : List PathEvent} (hlog : q.log = p.log ++ es)
    (hes : ∀ e ∈ es, e.isMilestone = false) : Recounts p q := by
  simp only [equipment, Prod.mk.injEq] at heq
  obtain ⟨hcommands, hbase, hlauncher, hinit, hready, hdemand, hended, hisReady, hidle⟩ := heq
  have hduties : q.duties = p.duties := by simp [duties, hcommands, hinit, hready, hdemand]
  have hopenings : q.openings = p.openings := by simp [openings, hinit, hready, hdemand]
  refine ⟨⟨?_, ?_, ?_, ?_, ?_, ?_, ?_⟩, hcommands, hbase, ?_, fun _ => ⟨es, [], hlog, ?_, ?_⟩⟩
  · rw [hinit, hended, h.init]
  · rw [hready, hisReady, h.ready]
  · rw [hdemand, hidle, h.demand]
  · rw [hinit]
    exact h.atEnd
  · rw [hready, hcommands]
    exact h.atNotReady
  · rw [hdemand, hcommands]
    exact h.atUndemand
  · rw [hlauncher, hduties]
    exact h.serves
  · rw [now, now, hlauncher]
  · rw [hlauncher, List.append_nil]
  · rw [hopenings]
    exact .asides _ hes

/-- Nothing is told, and the equipment stays as it is. -/
lemma silently (heq : q.equipment = p.equipment) (hlog : q.log = p.log) : Recounts p q :=
  h.aside heq (hlog.trans (List.append_nil _).symm) (by simp)

/-! ### Beginnings -/

/-- **Becoming ready** begins something. -/
lemma becomeReady (hlive : p.ended = false) (hstream : p.stream = none) (s : Stream) :
    Recounts p (p.becomeReady s) := by
  set env := p.baseEnvironment.forReady p.sourceDescriptor p.query with henv
  have hclosed := h.onNotReady_eq_none hstream
  have hopen : p.onUninit.isSome = true := by simp [h.init, hlive]
  have hserves := h.serves.start p.conf.commands.onReady p.conf.commands.onNotReady env
  have hchronicle : Chronicle p.conf.commands p.baseEnvironment p.openings (p.readyEvents s)
      (launchOf p.conf.commands.onReady.line env) { p.openings with ready := some env } := by
    have hready : Chronicle p.conf.commands p.baseEnvironment p.openings [.ready] _ _ :=
      .ready p.sourceDescriptor p.query (by simpa [openings] using hopen)
        (by simp [openings, hclosed]) (.nil _)
    rw [List.append_nil] at hready
    refine hready.among ?_ (p.forall_noticed rfl)
    split
    · exact p.forall_recordingStart (P := (·.isMilestone = false)) (fun _ => rfl) s
    · simp
  have hcommands :=
    Launcher.commands_start env h.serves.available p.conf.commands.onReady
  have hlog := p.log_becomeReady s
  rw [becomeReady_eq] at hlog ⊢
  refine ⟨⟨h.init, rfl, h.demand, h.atEnd, ?_, h.atUndemand, hserves.perm ?_⟩, rfl, rfl,
    (p.launcher.now_onReady ..).ge, fun _ => ⟨p.readyEvents s, _, hlog, hcommands, hchronicle⟩⟩
  · rintro t ⟨⟩
    rfl
  · -- the new duty has its place before the one of a launch
    simp only [duties, hclosed, Option.toList_none, List.map_nil, List.append_nil,
      List.append_assoc]
    exact List.perm_append_comm.append_left _

/-- **A launch** on demand begins something. -/
lemma startLaunch (hlive : p.ended = false) (hidle : p.launchDemand.phase = .idle)
    (query : String) : Recounts p (p.startLaunch query) := by
  set env := p.baseEnvironment.forDemand query with henv
  have hclosed : p.onUndemand = none := by simpa [OnDemand.isIdle, hidle] using h.demand
  have hopen : p.onUninit.isSome = true := by simp [h.init, hlive]
  have hserves := h.serves.start p.conf.commands.onDemand p.conf.commands.onUndemand env
  have hchronicle : Chronicle p.conf.commands p.baseEnvironment p.openings [.demand query]
      (launchOf p.conf.commands.onDemand.line env ++ []) { p.openings with demand := some env } :=
    .demand query (by simpa [openings] using hopen) (by simp [openings, hclosed]) (.nil _)
  rw [List.append_nil] at hchronicle
  have hcommands :=
    Launcher.commands_start env h.serves.available p.conf.commands.onDemand
  rw [startLaunch_eq]
  refine ⟨⟨h.init, h.ready, rfl, h.atEnd, h.atNotReady, ?_, hserves.perm ?_⟩, rfl, rfl,
    (p.launcher.now_onDemand ..).ge, fun _ => ⟨_, _, rfl, hcommands, hchronicle⟩⟩
  · rintro t ⟨⟩
    rfl
  · simp only [duties, hclosed, Option.toList_none, List.map_nil, List.append_nil]
    rfl

/-! ### Ends -/

/-- **Ceasing to be ready** ends what has begun. -/
lemma becomeUnready {s : Stream} (hstream : p.stream = some s) : Recounts p p.becomeUnready := by
  obtain ⟨t, ht⟩ := Option.isSome_iff_exists.1 (h.ready.trans (by simp [isReady, hstream]))
  have hserves := h.serves
  have hchronicle : Chronicle p.conf.commands p.baseEnvironment p.openings p.unreadyEvents
      (launchOf t.line t.environment) { p.openings with ready := none } := by
    have hunready : Chronicle p.conf.commands p.baseEnvironment p.openings [.notReady] _ _ :=
      .notReady (show p.openings.ready = some t.environment by simp [openings, ht]) (.nil _)
    rw [List.append_nil, ← h.atNotReady t ht] at hunready
    refine hunready.among ?_ (p.forall_recordingEnd fun _ => rfl)
    exact List.forall_mem_append.2 ⟨p.forall_noticed rfl, by simp [PathEvent.isMilestone]⟩
  have hcommands := Launcher.commands_tearDown h.serves.available t
  have hlog := p.log_becomeUnready hstream
  rw [becomeUnready_eq p hstream] at hlog ⊢
  simp only [ht, launcherAfter] at hlog ⊢
  refine ⟨⟨h.init, rfl, h.demand, h.atEnd, by simp, h.atUndemand, ?_⟩, rfl, rfl,
    (p.launcher.now_tearDown t).ge, fun _ => ⟨p.unreadyEvents, _, hlog, hcommands, hchronicle⟩⟩
  refine hserves.fulfil (d := ⟨p.conf.commands.onReady, t⟩) ?_
  simp only [duties, ht, Option.toList_some, Option.toList_none, List.map_cons, List.map_nil,
    List.append_nil, List.append_assoc]
  exact List.perm_append_comm.append_left _

/-- **The end of a launch** ends what has begun. -/
lemma stopLaunch (hbusy : p.launchDemand.phase ≠ .idle) (reason : String) :
    Recounts p (p.stopLaunch reason) := by
  obtain ⟨t, ht⟩ :=
    Option.isSome_iff_exists.1 (h.demand.trans (by simp [OnDemand.isIdle, hbusy]))
  have hserves := h.serves
  have hchronicle : Chronicle p.conf.commands p.baseEnvironment p.openings [.undemand reason]
      (launchOf t.line t.environment ++ []) { p.openings with demand := none } := by
    rw [h.atUndemand t ht]
    exact .undemand reason (by simp [openings, ht]) (.nil _)
  rw [List.append_nil] at hchronicle
  have hcommands := Launcher.commands_tearDown h.serves.available t
  rw [stopLaunch_eq]
  simp only [ht, launcherAfter]
  refine ⟨⟨h.init, h.ready, rfl, h.atEnd, h.atNotReady, by simp, ?_⟩, rfl, rfl,
    (p.launcher.now_tearDown t).ge, fun _ => ⟨_, _, rfl, hcommands, hchronicle⟩⟩
  refine hserves.fulfil (d := ⟨p.conf.commands.onDemand, t⟩) ?_
  simp only [duties, ht, Option.toList_some, Option.toList_none, List.map_cons, List.map_nil,
    List.append_nil]
  exact .refl _

/-- **The beginning of the end** ends the path itself, and launches nothing. -/
lemma beginEnd (hlive : p.ended = false) (silent : Bool) :
    Recounts p { p with ended := silent }.beginEnd := by
  obtain ⟨t, ht⟩ := Option.isSome_iff_exists.1 (h.init.trans (by simp [hlive]))
  have hserves := h.serves
  have hchronicle : Chronicle p.conf.commands p.baseEnvironment p.openings
      { p with ended := silent }.endEvents (launchOf t.line t.environment)
      { p.openings with init := none } := by
    rw [h.atEnd t ht]
    have huninit : Chronicle p.conf.commands p.baseEnvironment p.openings [.uninit] [] _ :=
      .uninit (by simp [openings, ht]) (.nil _)
    exact huninit.among (forall_noticed _ rfl) (forall_answerEvents fun _ _ => rfl)
  have hcommands := Launcher.commands_tearDown h.serves.available t
  have hlog := { p with ended := silent }.log_beginEnd
  unfold Path.beginEnd at hlog ⊢
  simp only [ht, launcherAfter] at hlog ⊢
  refine ⟨⟨rfl, h.ready, ?_, by simp, h.atNotReady, h.atUndemand, ?_⟩, rfl, rfl,
    (p.launcher.now_tearDown t).ge, fun _ => ⟨_, _, hlog, hcommands, hchronicle⟩⟩
  · exact h.demand
  · refine hserves.fulfil (d := ⟨p.conf.commands.onInit, t⟩) ?_
    simp only [duties, ht, Option.toList_some, Option.toList_none, List.map_cons, List.map_nil,
      List.nil_append, List.append_assoc]
    exact List.perm_append_comm.trans (.of_eq (List.append_assoc ..))

/-! ### All changes -/

/-- **Passing of time** keeps the equipment, and at the present time nothing happens. -/
lemma runTo {time : Nat} (hle : p.now ≤ time) : Recounts p (p.runTo time) := by
  have hnow : (p.runTo time).now = time := p.launcher.now_advance time
  refine ⟨⟨h.init, h.ready, h.demand, h.atEnd, h.atNotReady, h.atUndemand, h.serves.advance time⟩,
    rfl, rfl, hle.trans hnow.ge, fun hsame => ?_⟩
  obtain rfl : time = p.now := hnow.symm.trans hsame
  have hstays : p.runTo p.now = p := by
    unfold Path.runTo now
    rw [Launcher.advance_now h.serves.ahead]
  rw [hstays]
  exact (Narrates.refl p).chronicle rfl

/-- **What runs on demand** is begun and ended. -/
lemma drive (hq : p.Drive q) : Recounts p q := by
  cases hq with
  | pass time hle => exact h.runTo hle
  | startSource query hlive hidle =>
    rw [startSource_eq, List.append_assoc]
    exact h.aside rfl rfl (List.forall_mem_append.2
      ⟨p.forall_sourceCall rfl, List.forall_mem_singleton.2 rfl⟩)
  | stopSource reason hbusy =>
    rw [stopSource_eq, List.append_assoc]
    exact h.aside rfl rfl (List.forall_mem_append.2
      ⟨p.forall_sourceCall rfl, List.forall_mem_singleton.2 rfl⟩)
  | startLaunch query hlive hidle => exact h.startLaunch hlive hidle query
  | stopLaunch reason hbusy => exact h.stopLaunch hbusy reason
  | sourceReady =>
    rw [noteSourceReady_eq]
    exact h.silently rfl rfl
  | publisherReady =>
    -- only what is not idle is found ready
    rw [notePublisherReady_eq]
    refine h.silently (p.equipment_of_isIdle ?_) rfl
    split
    · next hbusy =>
      have hidle : p.launchDemand.isIdle = false := by
        simpa using (Bool.and_eq_true_iff.1 hbusy).2
      exact hidle.symm
    · rfl

/-- **Every change** keeps the equipment, and what happens is a chronicle unless time passes. -/
theorem change (hq : PureChange p q) : Recounts p q := by
  cases hq with
  | drive hq => exact h.drive hq
  | goOn hq => exact hq.elim
  | answer n hlive ha => exact h.aside rfl rfl (List.forall_mem_singleton.2 rfl)
  | holdDescribe n query hlive hready hm => exact h.silently rfl rfl
  | holdReader n client query hlive hready hm => exact h.silently rfl rfl
  | abandon n hlive => exact h.silently rfl rfl
  | attach n client hlive hready hm =>
    obtain ⟨cs, a, -, heq⟩ := p.attach_eq hready n client
    rw [heq]
    refine h.aside (p.equipment_of_isIdle (o := (p.takeIn cs).launchDemand) ?_) rfl
      (List.forall_mem_singleton.2 rfl)
    unfold takeIn
    dsimp only
    split
    · exact OnDemand.isIdle_readerAttached _
    · rfl
  | clear hlive hready => exact h.silently rfl rfl
  | failHeld hlive =>
    rw [failHeld_eq]
    exact h.aside rfl rfl (forall_answerEvents fun _ _ => rfl)
  | removeReader client hlive =>
    rw [removeReader_eq]
    refine h.silently (p.equipment_of_isIdle ?_) rfl
    split
    · exact OnDemand.isIdle_readersGone ..
    · rfl
  | becomeReady s hlive hstream hd => exact h.becomeReady hlive hstream s
  | becomeUnready hstream => exact h.becomeUnready hstream
  | evict client hlive hclient => exact h.aside rfl rfl (List.forall_mem_singleton.2 rfl)
  | vacate client hlive hclient hstream => exact h.silently rfl rfl
  | occupy n client d rtp query expected hlive hsource hstream hm => exact h.silently rfl rfl
  | reload c hlive hc =>
    rw [reload_eq, List.append_assoc]
    have hcommands : c.commands = p.conf.commands := (Conf.eq_of_canHotReload hc).2.2
    refine h.aside (Prod.ext hcommands rfl) rfl (List.forall_mem_append.2 ⟨?_, ?_⟩)
    · exact p.forall_sourceCall rfl
    · exact p.forall_recordingChange c (fun _ => rfl) fun _ => rfl
  | beginEnd hlive silent => exact h.beginEnd hlive silent
  | releaseSource hended hstream =>
    rw [releaseSource_eq]
    exact h.aside rfl rfl (p.forall_sourceRelease (fun _ => rfl) fun _ => rfl)

end Equipped

end Path

end LivePaths
