import LivePaths.Proofs.Path.Coherence
import LivePaths.Proofs.Path.Deadline

set_option relaxedAutoImplicit false
set_option autoImplicit false

/-!
# The pace of activations

Each of the two activations of a path has its timers armed exactly in the phases that they belong
to, is used only if the configuration has something to run on demand, and follows the readers while
the path is ready: what is in use has readers, and what is closing has none.

## Main definitions

* `OnDemand.Fits` — an activation that follows the readers of a stream.
* `OnDemand.Paced` — an activation in pace with a path.
* `Path.Paced` — both activations of a path in pace.

## Main results

* `OnDemand.Paced.takeIn`, `OnDemand.Paced.leave`, … — the operations keep an activation in pace.
* `Path.Paced.describe`, `Path.Paced.sourceReady`, … — the operations keep both in pace.
-/

namespace LivePaths

/-! ## One activation -/

namespace OnDemand

/-- **Fitting the readers** of a stream: unless it is idle, an activation is in use, and somebody
reads, or closing, and nobody does. -/
def Fits (o : OnDemand) (readers : List Client) : Prop :=
  o.phase = .idle ∨ (o.phase = .inUse ∧ readers ≠ []) ∨ (o.phase = .closing ∧ readers = [])

/-- **In pace**: an activation has its timers, is used only if it is allowed, and fits the readers
while the path is ready. -/
structure Paced (o : OnDemand) (now : Nat) (allowed ready : Bool) (readers : List Client) :
    Prop where
  timed : o.Timed now
  idle : allowed = false → o = {}
  fits : ready = true → o.Fits readers

/-- An idle activation is in pace with everything. -/
lemma paced_idle (now : Nat) (allowed ready : Bool) (readers : List Client) :
    Paced {} now allowed ready readers :=
  ⟨timed_idle now, fun _ => rfl, fun _ => .inl rfl⟩

namespace Paced

variable {o : OnDemand} {now d : Nat} {allowed isReady : Bool} {readers : List Client}

/-- Without a stream there is nothing to fit. -/
lemma unready (h : o.Paced now allowed isReady readers) (readers' : List Client) :
    o.Paced now allowed false readers' :=
  ⟨h.timed, h.idle, fun hr => by cases hr⟩

/-- What is idle fits all readers. -/
lemma of_idle (h : o.Paced now allowed isReady readers) (hp : o.phase = .idle) (isReady' : Bool)
    (readers' : List Client) : o.Paced now allowed isReady' readers' :=
  ⟨h.timed, h.idle, fun _ => .inl hp⟩

/-- Somebody asks while the path is not ready. -/
lemma begin (h : o.Paced now allowed isReady readers) (ha : allowed = true)
    (hr : isReady = false) (hp : o.phase = .idle) (hd : now ≤ d) :
    (o.begin d).Paced now allowed isReady readers :=
  ⟨h.timed.begin hp hd, fun hn => by simp [ha] at hn, fun hn => by simp [hr] at hn⟩

/-- The path becomes ready while nobody reads. -/
lemma ready (ha : allowed = true) (hr : readers = []) (hd : now ≤ d) :
    (o.ready d).Paced now allowed isReady readers :=
  ⟨.ready hd, fun hn => by simp [ha] at hn, fun _ => .inr (.inr ⟨rfl, hr⟩)⟩

/-- **Readers come**: what was closing is in use. -/
lemma takeIn (h : o.Paced now allowed isReady readers) (cs : List Client) :
    (if allowed && !cs.isEmpty then o.readerAttached else o).Paced now allowed isReady
      (readers ++ cs) := by
  by_cases hcs : (allowed && !cs.isEmpty) = true
  · rw [if_pos hcs]
    obtain ⟨ha, hne⟩ := Bool.and_eq_true_iff.1 hcs
    refine ⟨h.timed.readerAttached, fun hn => by simp [ha] at hn, fun hr => ?_⟩
    have hcs : cs ≠ [] := by simpa using hne
    unfold readerAttached
    rcases h.fits hr with hp | ⟨hp, -⟩ | ⟨hp, -⟩
    · exact .inl (by simp [hp])
    · exact .inr (.inl ⟨by simp [hp], by simp [hcs]⟩)
    · exact .inr (.inl ⟨by simp [hp], by simp [hcs]⟩)
  · rw [if_neg hcs]
    refine ⟨h.timed, h.idle, fun hr => ?_⟩
    cases ha : allowed with
    | false => exact .inl (by simp [h.idle ha])
    | true =>
      have hempty : cs = [] := by simpa [ha] using hcs
      simpa [hempty] using h.fits hr

/-- **Readers leave**: when nobody is left, what is in use is closing. -/
lemma leave (h : o.Paced now allowed isReady readers) (hd : now ≤ d) {rest : List Client}
    (hrest : readers = [] → rest = []) :
    (if allowed && rest.isEmpty then o.readersGone d else o).Paced now allowed isReady rest := by
  by_cases hgone : (allowed && rest.isEmpty) = true
  · rw [if_pos hgone]
    obtain ⟨ha, hempty⟩ := Bool.and_eq_true_iff.1 hgone
    have hempty : rest = [] := by simpa using hempty
    refine ⟨h.timed.readersGone hd, fun hn => by simp [ha] at hn, fun hr => ?_⟩
    unfold readersGone
    rcases h.fits hr with hp | ⟨hp, -⟩ | ⟨hp, -⟩
    · exact .inl (by simp [hp])
    · exact .inr (.inr ⟨by simp [hp, scheduleClose], hempty⟩)
    · exact .inr (.inr ⟨by simp [hp], hempty⟩)
  · rw [if_neg hgone]
    refine ⟨h.timed, h.idle, fun hr => ?_⟩
    cases ha : allowed with
    | false => exact .inl (by simp [h.idle ha])
    | true =>
      have hne : rest ≠ [] := by simpa [ha] using hgone
      rcases h.fits hr with hp | ⟨hp, -⟩ | ⟨hp, hnone⟩
      · exact .inl hp
      · exact .inr (.inl ⟨hp, hne⟩)
      · exact absurd (hrest hnone) hne

/-- **Time passes**, but not by a deadline. -/
lemma pass (h : o.Paced now allowed isReady readers) {time : Nat}
    (hle : ∀ d ∈ o.deadlines, time ≤ d) : o.Paced time allowed isReady readers :=
  ⟨h.timed.pass hle, h.idle, h.fits⟩

end Paced

end OnDemand

namespace Path

/-! ## Both activations -/

/-- **In pace**: both activations are in pace with the path, and while the path is ready, a source
that it runs on demand is not idle. -/
structure Paced (p : Path) : Prop where
  source : p.sourceDemand.Paced p.now p.conf.hasOnDemandSource p.isReady p.readers
  launch : p.launchDemand.Paced p.now p.conf.hasOnDemandLaunch p.isReady p.readers
  up : p.isReady = true → p.conf.hasOnDemandSource = true → p.sourceDemand.isIdle = false

/-- **Tempo**: what the pace is about. -/
def tempo (p : Path) : OnDemand × OnDemand × Nat × Bool × Bool × Bool × List Client :=
  (p.sourceDemand, p.launchDemand, p.now, p.conf.hasOnDemandSource, p.conf.hasOnDemandLaunch,
    p.isReady, p.readers)

/-- **A new path** is in pace. -/
lemma paced_create (settings : PathSettings) (now id : Nat) (name : String)
    (found : ConfSet.Found) : (create settings now id name found).Paced := by
  rw [create_eq]
  exact ⟨OnDemand.paced_idle .., OnDemand.paced_idle .., fun hr => by cases hr⟩

/-- Two activations that are in pace at the time of another path. -/
lemma Paced.of_now {p q : Path} (hnow : q.now = p.now)
    (hsource : q.sourceDemand.Paced p.now q.conf.hasOnDemandSource q.isReady q.readers)
    (hlaunch : q.launchDemand.Paced p.now q.conf.hasOnDemandLaunch q.isReady q.readers)
    (hup : q.isReady = true → q.conf.hasOnDemandSource = true → q.sourceDemand.isIdle = false) :
    q.Paced :=
  ⟨hnow.symm ▸ hsource, hnow.symm ▸ hlaunch, hup⟩

namespace Paced

variable {p q : Path} (h : p.Paced)

include h

/-- Only the tempo matters. -/
lemma of_tempo (hq : q.tempo = p.tempo) : q.Paced := by
  simp only [tempo, Prod.mk.injEq] at hq
  obtain ⟨hsource, hlaunch, hnow, hs, hl, hready, hreaders⟩ := hq
  refine ⟨?_, ?_, fun hr hd => ?_⟩
  · rw [hsource, hnow, hs, hready, hreaders]
    exact h.source
  · rw [hlaunch, hnow, hl, hready, hreaders]
    exact h.launch
  · rw [hsource]
    exact h.up (hready ▸ hr) (hs ▸ hd)

/-! ## Losing the stream -/

/-- Losing the stream changes neither activation. -/
lemma becomeUnready : p.becomeUnready.Paced ∧ p.becomeUnready.isReady = false := by
  cases hs : p.stream with
  | none =>
    rw [becomeUnready_of_none p hs]
    exact ⟨h, by simp [isReady, hs]⟩
  | some s =>
    rw [becomeUnready_eq p hs]
    exact ⟨.of_now (now_launcherAfter ..) (h.source.unready []) (h.launch.unready [])
      (fun hr => by cases hr), rfl⟩

/-- The end of a source that runs on demand. -/
lemma stopSource (hr : p.isReady = false) (reason : String) : (p.stopSource reason).Paced := by
  rw [stopSource_eq]
  exact ⟨OnDemand.paced_idle .., h.launch, fun hready => by simp_all [isReady]⟩

/-- The end of a launch. -/
lemma stopLaunch (reason : String) : (p.stopLaunch reason).Paced := by
  rw [stopLaunch_eq]
  exact .of_now (now_launcherAfter ..) h.source (OnDemand.paced_idle ..) h.up

/-! ## Requests of readers -/

/-- Asking for what runs on demand starts it while the path is not ready. -/
lemma awaken (hr : p.isReady = false) {query : String} (hq : p.awaken? query = some q) :
    q.Paced := by
  obtain rfl | ⟨hc, hi, rfl⟩ | ⟨hc, hi, rfl⟩ := awaken?_cases hq
  · exact h
  · rw [startSource_eq]
    exact ⟨h.source.begin hc hr hi (Nat.le_add_right ..), h.launch, fun _ _ => rfl⟩
  · rw [startLaunch_eq]
    exact .of_now (Launcher.now_onDemand ..) h.source
      (h.launch.begin hc hr hi (Nat.le_add_right ..)) h.up

/-- **Asking for the stream.** -/
lemma describe (request : Nat) (query : String) : (p.describe request query).Paced := by
  unfold Path.describe
  split
  · exact h.of_tempo rfl
  · split
    · exact h.of_tempo rfl
    · next hr =>
      split
      · next q hq => exact (h.awaken (by simpa using hr) hq).of_tempo rfl
      · split <;> exact h.of_tempo rfl

/-- Readers who are taken in bring what was closing into use. -/
lemma takeIn (cs : List Client) : (p.takeIn cs).Paced := by
  refine ⟨h.source.takeIn cs, h.launch.takeIn cs, fun hr hs => ?_⟩
  have hup := h.up hr hs
  unfold Path.takeIn
  split <;> simpa using hup

/-- **Asking to read.** -/
lemma addReader (request : Nat) (client : Client) (query : String) :
    (p.addReader request client query).Paced := by
  unfold Path.addReader
  split
  · next hr =>
    obtain ⟨cs, a, -, heq⟩ := p.attach_eq hr request client
    rw [heq]
    exact (h.takeIn cs).of_tempo rfl
  · next hr =>
    split
    · next q hq => exact (h.awaken (by simpa using hr) hq).of_tempo rfl
    · exact h.of_tempo rfl

/-- **Readers who leave** put what was in use to closing when nobody is left. -/
lemma removeReader (client : Client) : (p.removeReader client).Paced := by
  have hrest : p.readers = [] → p.readers.filter (· ≠ client) = [] := fun hn => by simp [hn]
  rw [removeReader_eq]
  refine ⟨h.source.leave (Nat.le_add_right ..) hrest, h.launch.leave (Nat.le_add_right ..) hrest,
    fun hr hs => ?_⟩
  have hup := h.up hr hs
  dsimp only
  split <;> simpa using hup

/-! ## Publishers and sources -/

/-- A release of held requests takes readers in. -/
lemma releaseHeld (hr : p.isReady = true) (e : PathEvent) : (p.releaseHeld.emit e).Paced := by
  obtain ⟨cs, answers, -, -, heq⟩ := p.releaseHeld_eq hr
  rw [heq]
  exact (h.takeIn cs).of_tempo rfl

/-- A path from which nobody reads becomes ready on behalf of a publisher: a launch that was started
for it counts as ready. -/
lemma published (hp : p.conf.source = .publisher) (hreaders : p.readers = []) (s : Stream) :
    (p.becomeReady s).notePublisherReady.Paced := by
  have hs : p.conf.hasOnDemandSource = false := by
    simp [Conf.hasOnDemandSource, Conf.hasStaticSource, hp, SourceKind.isStatic]
  have hnow := p.now_becomeReady s
  rw [becomeReady_eq] at hnow
  rw [notePublisherReady_eq, becomeReady_eq]
  refine .of_now (p := p) hnow ?_ ?_ fun _ hd => by simp [hs] at hd
  · exact h.source.of_idle (by simp [h.source.idle hs]) _ _
  · dsimp only
    split
    · next hc =>
      obtain ⟨hl, -⟩ := Bool.and_eq_true_iff.1 hc
      exact .ready hl hreaders (hnow ▸ Nat.le_add_right ..)
    · next hc =>
      refine h.launch.of_idle ?_ _ _
      cases hl : p.conf.hasOnDemandLaunch with
      | false => simp [h.launch.idle hl]
      | true => simpa [hl, OnDemand.isIdle] using hc

/-- A path from which nobody reads becomes ready on behalf of the source that it runs. -/
lemma reported (hs : p.conf.hasStaticSource = true) (hreaders : p.readers = []) (s : Stream) :
    (p.becomeReady s).noteSourceReady.Paced := by
  have hidle := h.launch.idle (Conf.hasOnDemandLaunch_of_static hs)
  have hnow := p.now_becomeReady s
  rw [becomeReady_eq] at hnow
  rw [noteSourceReady_eq, becomeReady_eq]
  refine .of_now (p := p) hnow ?_ (h.launch.of_idle (by simp [hidle]) _ _) fun _ hd => ?_
  · dsimp only
    split
    · next hc => exact .ready hc hreaders (hnow ▸ Nat.le_add_right ..)
    · next hc => exact h.source.of_idle (by simp [h.source.idle (by simpa using hc)]) _ _
  · dsimp only at hd ⊢
    rw [if_pos hd]
    rfl

/-- A publisher takes over the path. -/
lemma takenOver (client : Client) (query : String) : (p.takenOver client query).Paced := by
  unfold Path.takenOver evictPublisher
  split
  · exact h.of_tempo rfl
  · next present _ =>
    have hemitted : (p.emit (.publisherClosed present)).Paced := h.of_tempo rfl
    exact hemitted.becomeUnready.1.of_tempo rfl

/-- **A publisher who is taken** on a coherent path. -/
lemma addPublisher (hco : p.Coherent) {request : Nat} {client : Client} {d : MediaDescription}
    {rtp : Bool} {query : String} {expected : Option Conf}
    (hq : p.addPublisher request client d rtp query expected = .ok q) : q.Paced := by
  rw [addPublisher_eq] at hq
  split at hq
  · cases hq
  · next hf =>
    have hp := source_eq_publisher hf
    have hready := (h.takenOver client query).published
      ((congrArg Conf.source (p.conf_takenOver client query)).trans hp)
      (hco.readers_takenOver hp client query) (p.announced d rtp)
    rw [← Except.ok.inj hq]
    refine hready.releaseHeld ?_ _
    rw [notePublisherReady_eq, becomeReady_eq]
    rfl

/-- **A publisher leaves.** -/
lemma removePublisher (client : Client) : (p.removePublisher client).Paced := by
  unfold Path.removePublisher
  split
  · exact h.becomeUnready.1.of_tempo rfl
  · exact h

/-- **The source is ready** on a coherent path, or has nothing to announce. -/
lemma sourceReady (hco : p.Coherent) (hs : p.conf.hasStaticSource = true) (request : Nat)
    (d : MediaDescription) (rtp : Bool) : (p.sourceReady request d rtp).Paced := by
  obtain ⟨hu, -⟩ := h.becomeUnready
  rw [← p.sources_becomeUnready.1] at hs
  unfold Path.sourceReady
  split
  · exact hu.of_tempo rfl
  · next s _ =>
    refine (hu.reported hs hco.bare_becomeUnready.readers s).releaseHeld ?_ _
    rw [noteSourceReady_eq, becomeReady_eq]
    rfl

/-- **The source has failed.** -/
lemma sourceNotReady : p.sourceNotReady.Paced := by
  obtain ⟨hu, hr⟩ := h.becomeUnready
  unfold Path.sourceNotReady
  dsimp only
  split
  · exact hu.stopSource hr _
  · exact hu

/-! ## Deadlines and configurations -/

/-- **Refusing** all who wait. -/
lemma failHeld (e : PathError) : (p.failHeld e).Paced := by
  rw [failHeld_eq]
  exact h.of_tempo rfl

/-- **Time passes** up to the next deadline of a live path at most. -/
lemma pass (he : p.ended = false) {time : Nat} (hle : ∀ d ∈ p.deadline?, time ≤ d) :
    (p.runTo time).Paced := by
  have hall {d : Nat} := le_of_le_deadline? he hle (d := d)
  refine ⟨?_, ?_, h.up⟩
  · rw [now_runTo]
    exact h.source.pass fun d hd => hall (List.mem_append_left _ hd)
  · rw [now_runTo]
    exact h.launch.pass fun d hd => hall (List.mem_append_right _ hd)

/-- **A new configuration** that a running path can absorb. -/
lemma reload {c : Conf} (hc : p.conf.canHotReload c = true) : (p.reload c).Paced := by
  rw [reload_eq]
  refine h.of_tempo ?_
  simp [tempo, now, isReady, Conf.hasOnDemandSource_of_canHotReload hc,
    Conf.hasOnDemandLaunch_of_canHotReload hc]

end Paced

end Path

end LivePaths
