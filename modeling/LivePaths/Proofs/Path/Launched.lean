import LivePaths.Proofs.Command.Environments
import LivePaths.Proofs.Path.Lives

set_option relaxedAutoImplicit false
set_option autoImplicit false

/-!
# What a path launches

Launches only ever come after those of before, and every command of a path finds the groups of the
path's captures in its environment. Both follow from one look at the changes of a path: whatever a
change launches has one of the environments of the path, which are made of its base environment, or
one that was kept for an end or a relaunch.

## Main definitions

* `Path.Suits` — a property of all environments that a path can give to a command.
* `Path.Outfitted` — everything that a path keeps to be launched has environments of one kind.
* `Path.LaunchesIn` — a path goes on, and whatever it launches has environments of one kind.

## Main results

* `Path.Outfitted.change` — what a change launches.
* `Path.Lived.launches_advance` — launches as time passes come after those of before.
* `Path.Lived.hasGroups` — every command of a path finds the groups of its captures.
-/

namespace LivePaths

namespace Path

/-! ## Environments of one kind -/

/-- **Suitable properties**: all environments have them that a path can give to a command. -/
structure Suits (P : Environment → Prop) (base : Environment) : Prop where
  init : P base
  demand : ∀ query, P (base.forDemand query)
  ready : ∀ source query, P (base.forReady source query)
  segment : ∀ segment, P (base.forSegment segment)
  complete : ∀ segment secs nanos, P (base.forCompleteSegment segment secs nanos)

/-- **Outfitted paths**: whatever they can give to a command, and what they keep for an end or to be
launched again, is of one kind. -/
structure Outfitted (P : Environment → Prop) (p : Path) : Prop where
  suits : Suits P p.baseEnvironment
  jobs : ∀ j ∈ p.launcher.jobs, P j.environment
  init : ∀ t ∈ p.onUninit, P t.environment
  ready : ∀ t ∈ p.onNotReady, P t.environment
  demand : ∀ t ∈ p.onUndemand, P t.environment

/-- **Launching in environments of one kind**: the path stays outfitted and keeps its captures. -/
structure LaunchesIn (P : Environment → Prop) (p q : Path) : Prop where
  outfitted : q.Outfitted P
  captures : q.captures = p.captures
  adds : Launcher.Adds P p.launcher q.launcher

lemma LaunchesIn.trans {P : Environment → Prop} {p q r : Path} (h : LaunchesIn P p q)
    (h' : LaunchesIn P q r) : LaunchesIn P p r :=
  ⟨h'.outfitted, h'.captures.trans h.captures, h.adds.trans h'.adds⟩

/-- **Outfit**: what it depends on whether a path is outfitted. -/
def outfit (p : Path) : Environment × List String × Launcher × Option Teardown ×
    Option Teardown × Option Teardown :=
  (p.baseEnvironment, p.captures, p.launcher, p.onUninit, p.onNotReady, p.onUndemand)

namespace Outfitted

variable {P : Environment → Prop} {p q : Path} (h : p.Outfitted P)

include h

/-- A change that does not concern the outfit launches nothing. -/
lemma of_outfit (heq : q.outfit = p.outfit) : LaunchesIn P p q := by
  simp only [outfit, Prod.mk.injEq] at heq
  obtain ⟨hbase, hcaptures, hlauncher, hinit, hready, hdemand⟩ := heq
  refine ⟨⟨hbase ▸ h.suits, hlauncher ▸ h.jobs, hinit ▸ h.init, hready ▸ h.ready,
    hdemand ▸ h.demand⟩, hcaptures, ?_⟩
  rw [hlauncher]
  exact Launcher.adds_refl h.jobs

/-- Carrying out a teardown that is there launches in its environment. -/
lemma adds_launcherAfter {t : Option Teardown} (ht : ∀ t' ∈ t, P t'.environment) :
    Launcher.Adds P p.launcher (p.launcherAfter t) := by
  cases t with
  | none => exact Launcher.adds_refl h.jobs
  | some t => exact Launcher.adds_tearDown h.jobs (ht t rfl)

/-- What runs on demand. -/
lemma drive (hq : p.Drive q) : LaunchesIn P p q := by
  cases hq with
  | pass time hle =>
    have hl := Launcher.adds_advance h.jobs time
    exact ⟨⟨h.suits, hl.jobs, h.init, h.ready, h.demand⟩, rfl, hl⟩
  | startSource query hlive hidle =>
    rw [startSource_eq]
    exact h.of_outfit rfl
  | stopSource reason hbusy =>
    rw [stopSource_eq]
    exact h.of_outfit rfl
  | startLaunch query hlive hidle =>
    have hl := Launcher.adds_begin h.jobs p.conf.commands.onDemand p.conf.commands.onUndemand
      (h.suits.demand query)
    refine ⟨⟨h.suits, hl.jobs, h.init, h.ready, fun t ht => ?_⟩, rfl, hl⟩
    obtain rfl := Option.some.inj ht
    exact h.suits.demand query
  | stopLaunch reason hbusy =>
    have hl := h.adds_launcherAfter h.demand
    rw [stopLaunch_eq]
    exact ⟨⟨h.suits, hl.jobs, h.init, h.ready, by simp⟩, rfl, hl⟩
  | sourceReady =>
    rw [noteSourceReady_eq]
    exact h.of_outfit rfl
  | publisherReady =>
    rw [notePublisherReady_eq]
    exact h.of_outfit rfl

/-- **Every change** launches in environments of the kind, after what was launched before, and keeps
the path outfitted. -/
theorem change (hq : PureChange p q) : LaunchesIn P p q := by
  cases hq with
  | drive hq => exact h.drive hq
  | goOn hq => exact hq.elim
  | answer | holdDescribe | holdReader | abandon | clear | evict | vacate | occupy =>
    exact h.of_outfit rfl
  | attach n client hlive hready hm =>
    obtain ⟨cs, a, -, heq⟩ := p.attach_eq hready n client
    rw [heq]
    exact h.of_outfit rfl
  | failHeld hlive =>
    rw [failHeld_eq]
    exact h.of_outfit rfl
  | removeReader client hlive =>
    rw [removeReader_eq]
    exact h.of_outfit rfl
  | becomeReady s hlive hstream hd hnew =>
    have hl := Launcher.adds_begin h.jobs p.conf.commands.onReady p.conf.commands.onNotReady
      (h.suits.ready p.sourceDescriptor p.query)
    rw [becomeReady_eq]
    refine ⟨⟨h.suits, hl.jobs, h.init, fun t ht => ?_, h.demand⟩, rfl, hl⟩
    obtain rfl := Option.some.inj ht
    exact h.suits.ready p.sourceDescriptor p.query
  | becomeUnready hstream =>
    have hl := h.adds_launcherAfter h.ready
    rw [becomeUnready_eq p hstream]
    exact ⟨⟨h.suits, hl.jobs, h.init, by simp, h.demand⟩, rfl, hl⟩
  | reload c hlive hc =>
    rw [reload_eq]
    exact h.of_outfit rfl
  | beginEnd hlive silent =>
    have hl := h.adds_launcherAfter h.init
    exact ⟨⟨h.suits, hl.jobs, by simp [beginEnd], h.ready, h.demand⟩, rfl, hl⟩
  | releaseSource hended hstream =>
    rw [releaseSource_eq]
    exact h.of_outfit rfl

/-- Changes launch one after another. -/
lemma changes (hq : PureChanges p q) : LaunchesIn P p q := by
  induction hq with
  | refl => exact h.of_outfit rfl
  | tail _ hchange ih => exact ih.trans (ih.outfitted.change hchange)

/-- **Media acts** launch the commands of segments. -/
lemma media (m : MediaAct) : LaunchesIn P p (p.media m) := by
  have hmodify (serial : Nat) (f : Stream → Stream) :
      LaunchesIn P p (p.modifyStream serial f) := by
    obtain ⟨stream, pastStreams, -, -, heq⟩ := p.modifyStream_eq serial f
    rw [heq]
    exact h.of_outfit rfl
  have hrun (line : String) {env : Environment} (henv : P env) :
      LaunchesIn P p { p with launcher := p.launcher.runOnce line env } :=
    have hl := Launcher.adds_runOnce h.jobs line henv
    ⟨⟨h.suits, hl.jobs, h.init, h.ready, h.demand⟩, rfl, hl⟩
  cases m with
  | write serial u => exact hmodify serial _
  | subscribe serial => exact hmodify serial _
  | unsubscribe serial => exact hmodify serial _
  | segmentCreate segment =>
    unfold Path.media
    dsimp only
    split
    · exact h.of_outfit rfl
    · exact hrun _ (h.suits.segment segment)
  | segmentComplete segment ms =>
    unfold Path.media
    dsimp only
    split
    · exact h.of_outfit rfl
    · exact hrun _ (h.suits.complete segment _ _)

end Outfitted

/-! ## Lives -/

/-- **Launches as time passes** come after those of before. -/
lemma Lived.launches_advance {p : Path} (h : p.Lived) {time : Nat} (hle : p.now ≤ time) :
    p.launcher.launches <+: (p.advance time).launcher.launches := by
  have hall : p.Outfitted fun _ => True :=
    ⟨⟨trivial, fun _ => trivial, fun _ _ => trivial, fun _ => trivial, fun _ _ _ => trivial⟩,
      fun _ _ => trivial, fun _ _ => trivial, fun _ _ => trivial, fun _ _ => trivial⟩
  obtain ⟨ss, -, hss, heq⟩ := h.reached.orderly.advance_eq_run hle
  have hchanges : PureChanges p (p.run ss) :=
    changes_run h.reached.orderly hss fun _ _ => trivial
  rw [heq]
  exact (hall.changes hchanges).adds.grows

/-- The groups of some captures suit the base environment that is made of them. -/
lemma suits_hasGroups (path rtspAddress : String) (captures : List String) :
    Suits (Environment.HasGroups captures) (.base path rtspAddress captures) :=
  have hbase := Environment.hasGroups_base path rtspAddress captures
  ⟨hbase, hbase.forDemand, hbase.forReady, hbase.forSegment, hbase.forCompleteSegment⟩

/-- **Every command of a path** finds the groups of its captures in its environment, and so does
every one that it keeps to be launched.

**Proof sketch.** The captures of a path never change, and its base environment holds their groups.
Occasions only add other variables. -/
theorem Lived.hasGroups {p : Path} (h : p.Lived) :
    p.Outfitted (Environment.HasGroups p.captures) ∧
      ∀ x ∈ p.launcher.launches, Environment.HasGroups p.captures x.environment := by
  have hgoes {p q : Path} (hq : LaunchesIn (Environment.HasGroups p.captures) p q)
      (hp : ∀ x ∈ p.launcher.launches, Environment.HasGroups p.captures x.environment) :
      q.Outfitted (Environment.HasGroups q.captures) ∧
        ∀ x ∈ q.launcher.launches, Environment.HasGroups q.captures x.environment := by
    obtain ⟨ls, hls, hall⟩ := hq.adds.launches
    rw [hq.captures, hls]
    exact ⟨hq.outfitted, List.forall_mem_append.2 ⟨hp, hall⟩⟩
  refine h.induction (I := fun p => p.Outfitted (Environment.HasGroups p.captures) ∧
      ∀ x ∈ p.launcher.launches, Environment.HasGroups p.captures x.environment)
    (fun settings now id name found => ?_)
    (fun p q hchange ⟨hp, hlaunches⟩ => hgoes (hp.change hchange) hlaunches)
    fun p m ⟨hp, hlaunches⟩ => hgoes (hp.media m) hlaunches
  -- a new path has launched at most its first command
  have hsuits := suits_hasGroups name settings.rtspAddress found.captures
  have hl := Launcher.adds_begin (l := { now }) (by simp) found.conf.commands.onInit ""
    hsuits.init
  obtain ⟨ls, hls, hall⟩ := hl.launches
  rw [create_eq]
  refine ⟨⟨hsuits, hl.jobs, fun t ht => ?_, by simp, by simp⟩, fun x hx => ?_⟩
  · obtain rfl := Option.some.inj ht
    exact hsuits.init
  · rw [Launcher.onInit, hls] at hx
    exact hall x (by simpa using hx)

end Path

end LivePaths
