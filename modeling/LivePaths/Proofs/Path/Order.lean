import LivePaths.Proofs.Path.Pace
import LivePaths.Proofs.Path.SourceDemand

set_option relaxedAutoImplicit false
set_option autoImplicit false

/-!
# The order of a path

A live path is coherent and in pace, and a path that has ended is over. Every possible step keeps
this, so that it holds in all states that a path can reach. In particular the timers of an orderly
path go off one at a time, and the passing of time is a run of such steps.

## Main definitions

* `Path.InOrder` — a live path that is coherent and in pace.
* `Path.Orderly` — a path that is in order while it lives and over afterwards.

## Main results

* `Path.InOrder.expire_cases` — which timer goes off.
* `Path.Orderly.step`, `Path.Reached.orderly` — every reached state is orderly.
* `Path.Orderly.advance_eq_run` — time passes in possible steps.
* `Path.Reached.coherent_of_live`, `Path.Reached.paced_of_live` — all that a live path knows of its
  readiness agrees, and its activations follow its readers.
-/

namespace LivePaths

/-- **Ticks**: time passes, or a timer goes off. -/
def PathStep.isTick : PathStep → Bool
  | .pass _ | .expire => true
  | .message _ | .reload _ | .destroy => false

/-! ## Timers and what they belong to -/

namespace OnDemand.Paced

variable {o : OnDemand} {now : Nat} {allowed isReady : Bool} {readers : List Client}
  (h : o.Paced now allowed isReady readers)

include h

/-- What is not idle is allowed. -/
lemma allowed_of_ne (hp : o.phase ≠ .idle) : allowed = true := by
  by_contra ha
  exact hp (by simp [h.idle (by simpa using ha)])

/-- What starts does so without a stream. -/
lemma not_ready_of_starting (hp : o.phase = .starting) : isReady = false := by
  by_contra hr
  rcases h.fits (by simpa using hr) with hq | ⟨hq, -⟩ | ⟨hq, -⟩ <;> simp [hp] at hq

/-- A deadline by which something has to be ready belongs to what starts. -/
lemma starting_of_readyAt {d : Nat} (hd : o.readyAt = some d) :
    o.phase = .starting ∧ allowed = true ∧ isReady = false := by
  have hp := h.timed.readyAt_isSome.1 (by simp [hd])
  exact ⟨hp, h.allowed_of_ne (by simp [hp]), h.not_ready_of_starting hp⟩

/-- A deadline at which something is stopped belongs to what is closing. -/
lemma closing_of_closeAt {d : Nat} (hd : o.closeAt = some d) :
    o.phase = .closing ∧ allowed = true := by
  have hp := h.timed.closeAt_isSome.1 (by simp [hd])
  exact ⟨hp, h.allowed_of_ne (by simp [hp])⟩

/-- No deadline has passed. -/
lemma le_of_mem_deadlines {d : Nat} (hd : d ∈ o.deadlines) : now ≤ d := by
  rcases List.mem_append.1 hd with hd | hd
  · exact h.timed.le_readyAt d (by simpa using hd)
  · exact h.timed.le_closeAt d (by simpa using hd)

end OnDemand.Paced

namespace Path

/-- A timer that is due is armed. -/
lemma exists_of_isDue {p : Path} {timer : Option Nat} (h : p.isDue timer = true) :
    ∃ d, timer = some d ∧ d ≤ p.now := by
  cases timer with
  | none => simp [isDue] at h
  | some d => exact ⟨d, rfl, by simpa [isDue] using h⟩

/-! ## Order -/

/-- **Order of a live path**: what it knows of its readiness agrees, and its activations are in
pace. -/
structure InOrder (p : Path) : Prop where
  coherent : p.Coherent
  paced : p.Paced

/-- **Orderly paths** are in order while they live, and over afterwards. -/
structure Orderly (p : Path) : Prop where
  live : p.ended = false → p.InOrder
  gone : p.ended = true → p.IsOver

/-- What is over is orderly. -/
lemma IsOver.orderly {p : Path} (h : p.IsOver) : p.Orderly :=
  ⟨fun he => by simp [h.ended] at he, fun _ => h⟩

namespace InOrder

variable {p : Path} (h : p.InOrder)

include h

/-- A live path in order is orderly. -/
lemma orderly (he : p.ended = false) : p.Orderly :=
  ⟨fun _ => h, fun hn => by simp [he] at hn⟩

/-- A path in order is orderly after it has ended because it is unused. -/
lemma closeIfUnused (he : p.ended = false) : p.closeIfUnused.Orderly := by
  unfold Path.closeIfUnused
  split
  · exact p.isOver_shutdown.orderly
  · exact h.orderly he

/-- What is written down does not disturb the order. -/
lemma emit (e : PathEvent) : (p.emit e).InOrder :=
  ⟨h.coherent.of_vitals rfl, h.paced.of_tempo rfl⟩

/-! ## Messages -/

/-- **A message** to a live path; only a source that the path runs itself reports to it. -/
lemma receive (he : p.ended = false) (m : PathMessage)
    (hm : m.isReport = true → p.conf.hasStaticSource = true) : (p.receive m).Orderly := by
  obtain ⟨hc, hp⟩ := h
  unfold Path.receive
  rw [if_neg (by simp [he])]
  cases m with
  | describe request query =>
    have ho : (p.describe request query).InOrder := ⟨hc.describe .., hp.describe ..⟩
    exact ho.closeIfUnused ((p.proceeds_describe request query).ended.trans he)
  | addPublisher request client d rtp query expected =>
    dsimp only
    split
    · next q hq =>
      exact InOrder.orderly ⟨coherent_addPublisher hq, hp.addPublisher hc hq⟩
        ((p.proceeds_addPublisher hq).ended.trans he)
    · exact (InOrder.emit ⟨hc, hp⟩ _).closeIfUnused he
  | removePublisher client =>
    have ho : (p.removePublisher client).InOrder := ⟨hc.removePublisher _, hp.removePublisher _⟩
    exact ho.closeIfUnused ((p.proceeds_removePublisher client).ended.trans he)
  | addReader request client query =>
    have ho : (p.addReader request client query).InOrder := ⟨hc.addReader .., hp.addReader ..⟩
    exact ho.closeIfUnused ((p.proceeds_addReader request client query).ended.trans he)
  | removeReader client =>
    exact InOrder.orderly ⟨hc.removeReader _, hp.removeReader _⟩
      ((p.proceeds_removeReader client).ended.trans he)
  | sourceReady request d rtp =>
    exact InOrder.orderly ⟨hc.sourceReady (hm rfl) .., hp.sourceReady hc (hm rfl) ..⟩
      ((p.proceeds_sourceReady request d rtp).ended.trans he)
  | sourceNotReady =>
    have ho : p.sourceNotReady.InOrder := ⟨hc.sourceNotReady (hm rfl), hp.sourceNotReady⟩
    exact ho.closeIfUnused (p.proceeds_sourceNotReady.ended.trans he)
  | abandon request =>
    exact InOrder.orderly ⟨hc.abandon _, hp.of_tempo rfl⟩ he

/-! ## Timers -/

/-- **The timer that goes off** is that of an activation that starts, which has no stream then, or
that of one that is closing. -/
lemma expire_cases (hdue : ∃ d ∈ p.deadline?, d ≤ p.now) :
    (p.sourceDemand.phase = .starting ∧ p.conf.hasOnDemandSource = true ∧ p.isReady = false ∧
        p.expire = p.failSource) ∨
      (p.sourceDemand.phase = .closing ∧ p.conf.hasOnDemandSource = true ∧
        p.expire = p.retireSource) ∨
      (p.launchDemand.phase = .starting ∧ p.conf.hasOnDemandLaunch = true ∧ p.isReady = false ∧
        p.expire = p.failLaunch) ∨
      (p.launchDemand.phase = .closing ∧ p.conf.hasOnDemandLaunch = true ∧
        p.expire = p.retireLaunch) := by
  unfold expire
  split
  · next hfail =>
    obtain ⟨d, hd, -⟩ := exists_of_isDue hfail
    obtain ⟨hp, ha, hr⟩ := h.paced.source.starting_of_readyAt hd
    exact .inl ⟨hp, ha, hr, rfl⟩
  · next hfail =>
    split
    · next hretire =>
      obtain ⟨d, hd, -⟩ := exists_of_isDue hretire
      obtain ⟨hp, ha⟩ := h.paced.source.closing_of_closeAt hd
      exact .inr (.inl ⟨hp, ha, rfl⟩)
    · next hretire =>
      split
      · next hfail' =>
        obtain ⟨d, hd, -⟩ := exists_of_isDue hfail'
        obtain ⟨hp, ha, hr⟩ := h.paced.launch.starting_of_readyAt hd
        exact .inr (.inr (.inl ⟨hp, ha, hr, rfl⟩))
      · next hfail' =>
        split
        · next hretire' =>
          obtain ⟨d, hd, -⟩ := exists_of_isDue hretire'
          obtain ⟨hp, ha⟩ := h.paced.launch.closing_of_closeAt hd
          exact .inr (.inr (.inr ⟨hp, ha, rfl⟩))
        · next hretire' =>
          -- the next deadline is one of the four timers
          obtain ⟨d, hd, hle⟩ := hdue
          have hmem := (mem_deadlines_of_deadline? hd).2
          simp only [OnDemand.deadlines, List.mem_append, Option.mem_toList] at hmem
          exfalso
          rcases hmem with (hd | hd) | hd | hd <;> simp_all [isDue]

/-- What runs its source on demand has no launch. -/
lemma launch_eq_idle (hs : p.conf.hasOnDemandSource = true) : p.launchDemand = {} :=
  h.paced.launch.idle (Conf.hasOnDemandLaunch_of_static (Bool.and_eq_true_iff.1 hs).1)

/-- What launches on demand does not run its source. -/
lemma source_eq_idle (hl : p.conf.hasOnDemandLaunch = true) : p.sourceDemand = {} :=
  h.paced.source.idle (Conf.hasOnDemandSource_of_launch hl)

/-- Refusing all who wait because something was not ready in time. -/
lemma failHeld (e : PathError) : (p.failHeld e).InOrder :=
  ⟨h.coherent.failHeld e, h.paced.failHeld e⟩

/-- A source that has no stream is stopped. -/
lemma stopSource (hr : p.isReady = false) (reason : String) : (p.stopSource reason).InOrder := by
  refine ⟨?_, h.paced.stopSource hr reason⟩
  rw [stopSource_eq]
  exact h.coherent.of_vitals rfl

/-- A launch is stopped. -/
lemma stopLaunch (reason : String) : (p.stopLaunch reason).InOrder := by
  refine ⟨?_, h.paced.stopLaunch reason⟩
  rw [stopLaunch_eq]
  exact h.coherent.of_vitals rfl

/-- **A timer goes off**: the order stays, and no timer is armed afterwards. -/
lemma expire (he : p.ended = false) (hdue : ∃ d ∈ p.deadline?, d ≤ p.now) :
    p.expire.Orderly ∧ p.expire.deadline? = none := by
  have hfail := p.proceeds_failHeld (e := .sourceTimedOut p.name) (by simp)
  rcases h.expire_cases hdue with ⟨-, hs, hr, heq⟩ | ⟨-, hs, heq⟩ | ⟨-, hl, hr, heq⟩ | ⟨-, hl, heq⟩
  · have ho := (h.failHeld (.sourceTimedOut p.name)).stopSource (by simpa [failHeld_eq, isReady]
      using hr) "timed out"
    have hlaunch := h.launch_eq_idle hs
    rw [heq]
    refine ⟨ho.closeIfUnused ((hfail.trans (proceeds_stopSource _ _)).ended.trans he), ?_⟩
    refine deadline?_closeIfUnused ?_
    simp [deadline?, failHeld_eq, stopSource_eq, hlaunch]
  · have hstatic := (Bool.and_eq_true_iff.1 hs).1
    obtain ⟨hu, hr⟩ := h.paced.becomeUnready
    have ho := InOrder.stopSource ⟨h.coherent.becomeUnready hstatic, hu⟩ hr "not needed by anyone"
    have hlaunch : p.becomeUnready.launchDemand = {} :=
      (InOrder.mk (h.coherent.becomeUnready hstatic) hu).launch_eq_idle
        ((congrArg Conf.hasOnDemandSource p.sources_becomeUnready.1).trans hs)
    have hproceeds := p.proceeds_becomeUnready.trans
      (proceeds_stopSource p.becomeUnready "not needed by anyone")
    rw [heq]
    refine ⟨ho.closeIfUnused (hproceeds.ended.trans he), deadline?_closeIfUnused ?_⟩
    simp [deadline?, stopSource_eq, hlaunch]
  · have ho := (h.failHeld (.sourceTimedOut p.name)).stopLaunch "timed out"
    have hsource := h.source_eq_idle hl
    rw [heq]
    refine ⟨ho.closeIfUnused ((hfail.trans (proceeds_stopLaunch _ _)).ended.trans he), ?_⟩
    refine deadline?_closeIfUnused ?_
    simp [deadline?, failHeld_eq, stopLaunch_eq, hsource]
  · have hsource := h.source_eq_idle hl
    rw [heq]
    refine ⟨(h.stopLaunch _).orderly ((p.proceeds_stopLaunch _).ended.trans he), ?_⟩
    unfold retireLaunch
    simp [deadline?, stopLaunch_eq, hsource]

end InOrder

/-! ## All steps -/

/-- **Every possible step** keeps a path orderly.

**Proof sketch.** After its end nothing concerns a path but time. While it lives, the order is kept
message by message and timer by timer, and the end leaves nothing. -/
theorem Orderly.step {p : Path} (h : p.Orderly) {s : PathStep} (hs : p.Permits s) :
    (p.step s).Orderly := by
  cases he : p.ended with
  | true => exact ((h.gone he).step hs).orderly
  | false =>
    have ho := h.live he
    cases s with
    | message m => exact ho.receive he m hs
    | reload c =>
      exact InOrder.orderly ⟨ho.coherent.reload hs.2, ho.paced.reload hs.2⟩
        ((p.proceeds_reload c).ended.trans he)
    | pass time =>
      exact InOrder.orderly ⟨ho.coherent.of_vitals rfl, ho.paced.pass he hs.2⟩ he
    | expire => exact (ho.expire he hs).1
    | destroy =>
      have heq : p.step .destroy = { p with ended := true }.shutdown := by
        simp [Path.step, destroy, he]
      exact heq ▸ (isOver_shutdown _).orderly

/-- What happens between steps disturbs nothing. -/
lemma Orderly.goOn {p q : Path} (h : p.Orderly) (hq : p.GoesOn q) : q.Orderly := by
  have hended : q.ended = p.ended := by rw [hq.same]
  have hready : q.isReady = p.isReady := by
    simpa [isReady] using congrArg Option.isSome hq.descriptions
  have hvitals : q.vitals = p.vitals :=
    (congrArg vitals hq.same).trans (by simp [vitals, hq.descriptions, holdsRequests])
  have htempo : q.tempo = p.tempo := by
    have hnow := hq.now_eq
    refine (congrArg tempo hq.same).trans ?_
    simp only [tempo, Prod.mk.injEq, true_and, and_true]
    exact ⟨hnow, hready⟩
  refine ⟨fun he => ?_, fun he => ?_⟩
  · have ho := h.live (hended ▸ he)
    exact ⟨ho.coherent.of_vitals hvitals, ho.paced.of_tempo htempo⟩
  · obtain ⟨-, hheld, hstream, hsource, hreadyAt, hcloseAt, hlaunch⟩ := h.gone (hended ▸ he)
    have hdesc := hq.descriptions
    refine ⟨he, (congrArg holdsRequests hq.same).trans hheld, ?_,
      (congrArg Path.source hq.same).trans hsource,
      (congrArg (·.sourceDemand.readyAt) hq.same).trans hreadyAt,
      (congrArg (·.sourceDemand.closeAt) hq.same).trans hcloseAt,
      (congrArg Path.launchDemand hq.same).trans hlaunch⟩
    simpa [hstream] using hdesc

/-- **Every reached state** is orderly. -/
theorem Reached.orderly {p : Path} (h : p.Reached) : p.Orderly := by
  induction h with
  | create settings now id name found =>
    exact InOrder.orderly ⟨coherent_create .., paced_create ..⟩
      (create_history settings now id name found).2.1
  | step _ hs ih => exact ih.step hs
  | goOn _ hq ih => exact ih.goOn hq

/-! ## Passing of time -/

namespace Orderly

variable {p : Path} (h : p.Orderly)

include h

/-- No deadline has passed. -/
lemma now_le_deadline {d : Nat} (hd : p.deadline? = some d) : p.now ≤ d := by
  obtain ⟨he, hmem⟩ := mem_deadlines_of_deadline? hd
  obtain ⟨-, hp⟩ := h.live he
  rcases List.mem_append.1 hmem with hmem | hmem
  · exact hp.source.le_of_mem_deadlines hmem
  · exact hp.launch.le_of_mem_deadlines hmem

/-- **How time passes**: up to the next deadline, at which a timer goes off, after which no other
one is armed, and on to the time; or at once to the time if all deadlines lie after it.

**Proof sketch.** Of the two activations one is idle, and after its one timer has gone off the other
one is idle too. -/
lemma advance_cases (time : Nat) :
    (∃ d, d ≤ time ∧ p.Permits (.pass d) ∧ (p.runTo d).Permits .expire ∧
        (p.runTo d).expire.deadline? = none ∧
        p.advance time = (p.runTo d).expire.runTo time) ∨
      ((∀ d ∈ p.deadline?, time < d) ∧ p.advance time = p.runTo time) := by
  by_cases hdue : ∃ d ∈ p.deadline?, d ≤ time
  · obtain ⟨d, hd, hdt⟩ := hdue
    have hpass : p.Permits (.pass d) :=
      ⟨h.now_le_deadline hd, fun d' hd' => Nat.le_of_eq (Option.some.inj (hd.symm.trans hd'))⟩
    have hexpire : (p.runTo d).Permits .expire := ⟨d, hd, Nat.le_of_eq (now_runTo ..).symm⟩
    have he : (p.runTo d).ended = false := (mem_deadlines_of_deadline? hd).1
    have hnone : (p.runTo d).expire.deadline? = none :=
      (((h.step hpass).live he).expire he hexpire).2
    exact .inl ⟨d, hdt, hpass, hexpire, hnone, advance_of_deadline hd hdt hnone⟩
  · have hsame : p.passDeadline time = p := by
      unfold passDeadline
      split
      · rfl
      · next d hd => rw [if_neg fun hdt => hdue ⟨d, hd, hdt⟩]
    refine .inr ⟨fun d hd => Nat.lt_of_not_le fun hdt => hdue ⟨d, hd, hdt⟩, ?_⟩
    rw [advance, hsame, hsame]

/-- **Time passes in possible steps.** -/
theorem advance_eq_run {time : Nat} (hle : p.now ≤ time) :
    ∃ ss, (∀ s ∈ ss, s.isTick = true) ∧ p.PermitsAll ss ∧ p.advance time = p.run ss := by
  rcases h.advance_cases time with ⟨d, hdt, hpass, hexpire, hnone, heq⟩ | ⟨hahead, heq⟩
  · refine ⟨[.pass d, .expire, .pass time], by simp [PathStep.isTick],
      ⟨hpass, hexpire, ⟨?_, fun d' hd' => ?_⟩, trivial⟩, heq⟩
    · exact Nat.le_trans (Nat.le_of_eq ((now_expire _).trans (now_runTo ..))) hdt
    · simp [Path.step, hnone] at hd'
  · exact ⟨[.pass time], by simp [PathStep.isTick],
      ⟨⟨hle, fun d hd => Nat.le_of_lt (hahead d hd)⟩, trivial⟩, heq⟩

end Orderly

/-- Time leads from reached states to reached states. -/
lemma Reached.advance {p : Path} (h : p.Reached) {time : Nat} (hle : p.now ≤ time) :
    (p.advance time).Reached := by
  obtain ⟨ss, -, hs, heq⟩ := h.orderly.advance_eq_run hle
  exact heq ▸ h.run hs

/-! ## What can be relied on -/

/-- **Readiness agrees** in every reached state of a live path: the stream, its time and its
teardown are there together, readers and recordings need it, nothing is held besides it, it has a
media, and the source fits the configuration. Hence nothing but its name, its configuration and its
source can be seen of a path that is not ready.

**Proof sketch.** Every reached state is orderly, because every possible step keeps this: each
message, timer and configuration either touches none of these facts or takes the stream away, after
which the path is bare, or brings one, after which nothing is held. -/
theorem Reached.coherent_of_live {p : Path} (h : p.Reached) (he : p.ended = false) :
    p.Coherent ∧ (p.snapshot.ready = false →
      p.snapshot = { Snapshot.idle p.name p.conf.name with source := p.sourceDescriptor }) := by
  have hc := (h.orderly.live he).coherent
  refine ⟨hc, fun hr => hc.snapshot_eq ?_⟩
  cases hs : p.stream with
  | none => simp [isReady, hs]
  | some s => simp [snapshot, hs] at hr

/-- A path whose source was asked for and has become ready, and from which nobody reads yet. -/
def servedPulled : Path :=
  newPulled.run [.message (.describe 0 "q"),
    .message (.sourceReady 1 ⟨[⟨.video, "H264"⟩]⟩ false)]

/-- This path can be reached. -/
lemma reached_servedPulled : servedPulled.Reached :=
  Reached.run (.create {} 0 1 "cam" pulledOnDemand) (by decide)

/-- It has a stream and holds nothing; before, only its name and its source could be seen. -/
theorem coherent_servedPulled :
    servedPulled.Reached ∧ servedPulled.ended = false ∧ servedPulled.Coherent ∧
      servedPulled.isReady = true ∧ servedPulled.holdsRequests = false ∧
      newPulled.snapshot =
        { Path.Snapshot.idle "cam" "cam" with source := newPulled.sourceDescriptor } := by
  have hlive : servedPulled.ended = false := by decide
  have hready : servedPulled.isReady = true := by decide
  have hc := (reached_servedPulled.coherent_of_live hlive).1
  have hnew : newPulled.Reached := .create {} 0 1 "cam" pulledOnDemand
  exact ⟨reached_servedPulled, hlive, hc, hready, hc.held hready,
    (hnew.coherent_of_live (by decide)).2 (by decide)⟩

/-- **Activations follow the readers** in every reached state of a live path: each has its timers
exactly in their phases and is used only if the configuration has something to run on demand, and
while the path is ready, it is idle, in use with readers or closing without; a source that runs on
demand is not idle then, so that it is about to be stopped exactly while nobody reads. -/
theorem Reached.paced_of_live {p : Path} (h : p.Reached) (he : p.ended = false) :
    p.Paced ∧ (p.isReady = true → p.conf.hasOnDemandSource = true →
      (p.sourceDemand.closeAt.isSome = true ↔ p.readers = [])) := by
  have hp := (h.orderly.live he).paced
  refine ⟨hp, fun hr hs => ?_⟩
  rw [hp.source.timed.closeAt_isSome]
  have hup := hp.up hr hs
  rcases hp.source.fits hr with hidle | ⟨hphase, hreaders⟩ | ⟨hphase, hreaders⟩
  · simp [OnDemand.isIdle, hidle] at hup
  · simp [hphase, hreaders]
  · simp [hphase, hreaders]

/-- As long as nobody reads from the path above, its source is about to be stopped. -/
theorem paced_servedPulled :
    servedPulled.Reached ∧ servedPulled.ended = false ∧ servedPulled.Paced ∧
      servedPulled.readers = [] ∧ servedPulled.sourceDemand.closeAt.isSome = true := by
  have hlive : servedPulled.ended = false := by decide
  have hreaders : servedPulled.readers = [] := by decide
  obtain ⟨hp, hcloses⟩ := reached_servedPulled.paced_of_live hlive
  exact ⟨reached_servedPulled, hlive, hp, hreaders, (hcloses (by decide) (by decide)).2 hreaders⟩

end Path

end LivePaths

