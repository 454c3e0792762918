import LivePaths.Proofs.Path.Deadline

set_option relaxedAutoImplicit false
set_option autoImplicit false

/-!
# Waiting for a source that runs on demand

A path that runs its source on demand holds requests until the source is ready. They should wait for
a source that is starting and has a deadline. Two kinds of steps break this: the source fails while
requests are held, or somebody asks for a path that has lost its stream to an empty report and whose
source still counts as ready.

## Main definitions

* `Path.RunsOnDemand` — the order of a live path that runs its source on demand.
* `Path.AwaitsSource` — the law: held requests wait for a source that starts.
* `Path.Deserted` — a path without a stream whose source counts as ready.
* `Path.StrandsHeld`, `Path.LosesStream` — the steps that break the law and those that desert.

## Main results

* `Path.SourceOrder.step` — what every possible step does to order, law and desertion.
* `Path.awaitsSource_run` — when the law holds all along a run, and what it is good for.
-/

namespace LivePaths

namespace Path

/-! ## The order of a path that runs its source on demand -/

/-- **Order of a live path that runs its source on demand**: the source is there and has its timers,
nothing else runs on demand, and on a ready path the source is up and nothing is held. -/
structure RunsOnDemand (p : Path) : Prop where
  onDemand : p.conf.hasOnDemandSource = true
  source : p.runsSource = true
  launch : p.launchDemand = {}
  timed : p.sourceDemand.Timed p.now
  ready : p.isReady = true → p.sourceDemand.isUp = true ∧ p.holdsRequests = false

/-- **Order of a path** that runs its source on demand or has done so until its end. -/
structure SourceOrder (p : Path) : Prop where
  live : p.ended = false → p.RunsOnDemand
  gone : p.ended = true → p.IsOver

namespace RunsOnDemand

variable {p : Path} (h : p.RunsOnDemand)

include h

lemma static : p.conf.hasStaticSource = true :=
  (Bool.and_eq_true_iff.1 h.onDemand).1

lemma noLaunch : p.conf.hasOnDemandLaunch = false :=
  Conf.hasOnDemandLaunch_of_static h.static

lemma source_eq : ∃ url, p.source = some (.static url) := by
  have := h.source
  unfold runsSource at this
  split at this
  · next url hs => exact ⟨url, hs⟩
  · cases this

lemma source_ne_redirect : p.source ≠ some .redirect := by
  obtain ⟨url, hs⟩ := h.source_eq
  simp [hs]

lemma publisher?_eq_none : p.publisher? = none := by
  obtain ⟨url, hs⟩ := h.source_eq
  simp [publisher?, hs]

/-- A path that has a source does not end by itself. -/
lemma closeIfUnused : p.closeIfUnused = p := by
  obtain ⟨url, hs⟩ := h.source_eq
  exact closeIfUnused_of_source (by simp [hs])

/-- What is written down concerns nothing else. -/
lemma log (es : List PathEvent) : { p with log := es }.RunsOnDemand :=
  ⟨h.onDemand, h.source, h.launch, h.timed, h.ready⟩

/-- While the path is not ready, requests can be held. -/
lemma hold (hr : p.isReady = false) (ds : List HeldDescribe) (rs : List HeldReader) :
    { p with heldDescribes := ds, heldReaders := rs }.RunsOnDemand :=
  ⟨h.onDemand, h.source, h.launch, h.timed, fun hready => by simp_all [isReady]⟩

lemma startSource (hr : p.isReady = false) (hi : p.sourceDemand.phase = .idle) (query : String) :
    (p.startSource query).RunsOnDemand := by
  rw [startSource_eq]
  exact ⟨h.onDemand, h.source, h.launch, h.timed.begin hi (Nat.le_add_right ..),
    fun hready => by simp_all [isReady]⟩

lemma stopSource (hr : p.isReady = false) (reason : String) :
    (p.stopSource reason).RunsOnDemand := by
  rw [stopSource_eq]
  exact ⟨h.onDemand, h.source, h.launch, OnDemand.timed_idle _,
    fun hready => by simp_all [isReady]⟩

/-- Losing the stream leaves the source as it is. -/
lemma becomeUnready : p.becomeUnready.RunsOnDemand ∧ p.becomeUnready.isReady = false ∧
    p.becomeUnready.ended = p.ended ∧ p.becomeUnready.sourceDemand = p.sourceDemand ∧
    p.becomeUnready.holdsRequests = p.holdsRequests ∧ p.becomeUnready.waiting = p.waiting := by
  cases hs : p.stream with
  | none =>
    rw [becomeUnready_of_none p hs]
    exact ⟨h, by simp [isReady, hs], rfl, rfl, rfl, rfl⟩
  | some s =>
    rw [becomeUnready_eq p hs]
    refine ⟨⟨h.onDemand, h.source, h.launch, ?_, fun hready => ?_⟩, rfl, rfl, rfl, rfl, rfl⟩
    · simpa [now] using h.timed
    · simp [isReady] at hready

lemma failHeld (e : PathError) : (p.failHeld e).RunsOnDemand := by
  rw [failHeld_eq]
  exact ⟨h.onDemand, h.source, h.launch, h.timed,
    fun hready => ⟨(h.ready hready).1, by simp [holdsRequests]⟩⟩

/-- Readers who are taken in only stop the timer that would end the activation. -/
lemma takeIn (cs : List Client) : (p.takeIn cs).RunsOnDemand := by
  refine ⟨h.onDemand, h.source, ?_, ?_, fun hready => ⟨?_, (h.ready hready).2⟩⟩
  · simp [Path.takeIn, h.noLaunch, h.launch]
  · unfold Path.takeIn
    split
    · exact h.timed.readerAttached
    · exact h.timed
  · have := (h.ready hready).1
    unfold Path.takeIn
    split <;> simpa using this

/-- Readers who leave only arm that timer. -/
lemma removeReader (client : Client) : (p.removeReader client).RunsOnDemand := by
  rw [removeReader_eq]
  refine ⟨h.onDemand, h.source, ?_, ?_, fun hready => ⟨?_, (h.ready hready).2⟩⟩
  · simp [h.noLaunch, h.launch]
  · dsimp only
    split
    · exact h.timed.readersGone (Nat.le_add_right ..)
    · exact h.timed
  · have := (h.ready hready).1
    dsimp only
    split <;> simpa using this

end RunsOnDemand

/-! ## The law -/

/-- **The law of held requests**: they wait for a source that starts, with the timer armed that ends
the waiting. -/
def AwaitsSource (p : Path) : Prop :=
  p.holdsRequests = true →
    p.stream = none ∧ p.sourceDemand.phase = .starting ∧ p.sourceDemand.readyAt.isSome = true

instance (p : Path) : Decidable p.AwaitsSource :=
  inferInstanceAs (Decidable (_ → _))

/-- **Deserted paths** have no stream, but their source counts as ready. -/
def Deserted (p : Path) : Prop :=
  p.ended = false ∧ p.isReady = false ∧ p.sourceDemand.isUp = true

/-- **The steps that strand requests**: somebody asks for a deserted path, or the source fails while
requests are held. -/
def StrandsHeld (p : Path) : PathStep → Prop
  | .message (.describe ..) | .message (.addReader ..) => p.Deserted
  | .message .sourceNotReady => p.holdsRequests = true
  | _ => False

/-- **The steps that desert a path**: while it is ready, its source reports that there is nothing.
-/
def LosesStream (p : Path) : PathStep → Prop
  | .message (.sourceReady _ d _) => p.ended = false ∧ p.isReady = true ∧ d.isEmpty = true
  | _ => False

/-- In an ordered path only the phase matters for the law. -/
lemma RunsOnDemand.awaitsSource_iff {p : Path} (h : p.RunsOnDemand) :
    p.AwaitsSource ↔ (p.holdsRequests = true → p.sourceDemand.phase = .starting) := by
  refine ⟨fun hL hh => (hL hh).2.1, fun hL hh => ⟨?_, hL hh, h.timed.readyAt_isSome.2 (hL hh)⟩⟩
  cases hs : p.stream with
  | none => rfl
  | some s =>
    have hup := (h.ready (by simp [isReady, hs])).1
    exact absurd (hL hh) (OnDemand.not_starting_of_isUp hup)

/-! ## Moves -/

/-- **What a step does** to a path in order: the order stays, the law breaks only if the step
strands requests, the path becomes deserted only if it loses its stream, and unless requests are
stranded, whoever waits for a source that starts is answered or waits on until the same deadline.
-/
structure SourceStep (p : Path) (s : PathStep) (q : Path) : Prop where
  order : q.SourceOrder
  law : p.AwaitsSource → (q.AwaitsSource ↔ ¬ p.StrandsHeld s)
  desertion : ¬ p.Deserted → (q.Deserted ↔ p.LosesStream s)
  serves : ¬ p.StrandsHeld s → Serves (·.sourceDemand.readyAt) p s q

/-- **A step of a live path** after which it is alive. -/
structure SourceMove (p : Path) (s : PathStep) (q : Path) : Prop extends SourceStep p s q where
  alive : q.ended = false

namespace SourceMove

variable {p q : Path} {s : PathStep}

/-- The order and the law, said by phases. -/
lemma of_phases (he : q.ended = false) (h : q.RunsOnDemand)
    (law : p.AwaitsSource →
      ((q.holdsRequests = true → q.sourceDemand.phase = .starting) ↔ ¬ p.StrandsHeld s))
    (desertion : ¬ p.Deserted → (q.isReady = false ∧ q.sourceDemand.isUp = true ↔ p.LosesStream s))
    (serves : ¬ p.StrandsHeld s → Serves (·.sourceDemand.readyAt) p s q) :
    SourceMove p s q where
  order := ⟨fun _ => h, fun hend => by simp [he] at hend⟩
  law hL := h.awaitsSource_iff.trans (law hL)
  desertion hd := by simpa [Deserted, he] using desertion hd
  serves := serves
  alive := he

/-- A step after which everything that matters is as before. -/
lemma of_same (hs : ¬ p.StrandsHeld s) (hl : ¬ p.LosesStream s) (he : p.ended = false)
    (hend : q.ended = p.ended) (h : q.RunsOnDemand)
    (hheld : q.holdsRequests = p.holdsRequests) (hready : q.isReady = p.isReady)
    (hphase : q.sourceDemand.phase = .starting ↔ p.sourceDemand.phase = .starting)
    (hup : q.sourceDemand.isUp = p.sourceDemand.isUp)
    (hdeadline : p.sourceDemand.readyAt.isSome = true →
      q.sourceDemand.readyAt = p.sourceDemand.readyAt)
    (hwaits : ∀ n ∈ p.waiting, s ≠ .message (.abandon n) → n ∈ q.waiting) : SourceMove p s q := by
  refine .of_phases (hend.trans he) h (fun hL => iff_of_true (fun hh => ?_) hs) (fun hd => ?_)
    fun _ n hn hne hd => .inl ⟨hwaits n hn hne, hdeadline hd⟩
  · exact hphase.2 (hL (hheld ▸ hh)).2.1
  · rw [hready, hup]
    exact iff_of_false (fun hq => hd ⟨he, hq⟩) hl

/-- A step that only writes something down. -/
lemma of_log (hs : ¬ p.StrandsHeld s) (hl : ¬ p.LosesStream s) (he : p.ended = false)
    (h : p.RunsOnDemand) (es : List PathEvent) : SourceMove p s { p with log := es } :=
  .of_same hs hl he rfl (h.log es) rfl rfl Iff.rfl rfl (fun _ => rfl) fun _ hn _ => hn

/-- A step that answers everybody and does not leave the path deserted. -/
lemma of_answered (hs : ¬ p.StrandsHeld s) (hl : ¬ p.LosesStream s) (he : q.ended = false)
    (h : q.RunsOnDemand) (hheld : q.holdsRequests = false)
    (hup : q.isReady = true ∨ q.sourceDemand.isUp = false)
    (hanswered : ∀ n ∈ p.waiting, p.HasAnswered q n) : SourceMove p s q := by
  refine .of_phases he h (fun _ => iff_of_true (fun hh => ?_) hs) (fun _ => ?_)
    fun _ n hn _ _ => .inr (hanswered n hn)
  · simp [hheld] at hh
  · refine iff_of_false (fun hq => ?_) hl
    rcases hup with hup | hup <;> simp_all

/-- That an unused path ends does not concern a path that has a source. -/
lemma closeIfUnused (hm : SourceMove p s q) : SourceMove p s q.closeIfUnused := by
  rwa [(hm.order.live hm.alive).closeIfUnused]

end SourceMove

/-! ## Asking -/

/-- The path for which somebody asks: its source is started unless it was started before. -/
def awakened (p : Path) (query : String) : Path :=
  if p.sourceDemand.isIdle then p.startSource query else p

section Messages

variable {p : Path} (h : p.RunsOnDemand)

include h

/-- Asking changes neither readiness nor what is held, and leaves a source that starts unless it is
up. -/
lemma RunsOnDemand.awakened (hr : p.isReady = false) (query : String) :
    (p.awakened query).RunsOnDemand ∧ (p.awakened query).isReady = false ∧
      (p.awakened query).ended = p.ended ∧
      (p.awakened query).heldDescribes = p.heldDescribes ∧
      (p.awakened query).heldReaders = p.heldReaders ∧
      (p.awakened query).sourceDemand.isUp = p.sourceDemand.isUp ∧
      (p.sourceDemand.isUp = false → (p.awakened query).sourceDemand.phase = .starting) ∧
      (p.sourceDemand.readyAt.isSome = true →
        (p.awakened query).sourceDemand.readyAt = p.sourceDemand.readyAt) := by
  unfold Path.awakened
  split
  · next hi =>
    have hi : p.sourceDemand.phase = .idle := by simpa [OnDemand.isIdle] using hi
    have hnone := h.timed.readyAt_eq_none (by simp [hi])
    refine ⟨h.startSource hr hi query, ?_⟩
    rw [startSource_eq]
    exact ⟨hr, rfl, rfl, rfl, by simp [OnDemand.isUp, hi, OnDemand.begin], fun _ => rfl,
      by simp [hnone]⟩
  · next hi =>
    refine ⟨h, hr, rfl, rfl, rfl, rfl, fun hup => ?_, fun _ => rfl⟩
    by_contra hs
    simp [OnDemand.isUp_of_not_idle (by simpa using hi) hs] at hup

lemma awaken?_of_runs (query : String) : p.awaken? query = some (p.awakened query) := by
  simp [awaken?, h.onDemand, Path.awakened]

lemma describe_of_runs (request : Nat) (query : String) :
    p.describe request query =
      if p.isReady then p.answer request (.stream p.streamId)
      else { p.awakened query with
        heldDescribes := (p.awakened query).heldDescribes ++ [{ request }] } := by
  unfold describe
  rw [if_neg h.source_ne_redirect, awaken?_of_runs h]

lemma addReader_of_runs (request : Nat) (client : Client) (query : String) :
    p.addReader request client query =
      if p.isReady then p.attach request client
      else { p.awakened query with
        heldReaders := (p.awakened query).heldReaders ++ [{ request, client }] } := by
  unfold addReader
  rw [awaken?_of_runs h]

/-- **Holding** further requests on a path for which somebody asks: they wait in vain exactly if the
path is deserted. -/
lemma hold_move (he : p.ended = false) (hr : p.isReady = false) {s : PathStep}
    (hs : p.StrandsHeld s ↔ p.Deserted) (hl : ¬ p.LosesStream s) (query : String)
    (ds : List HeldDescribe) (rs : List HeldReader) (hnew : (!ds.isEmpty || !rs.isEmpty) = true) :
    SourceMove p s { p.awakened query with
      heldDescribes := (p.awakened query).heldDescribes ++ ds
      heldReaders := (p.awakened query).heldReaders ++ rs } := by
  obtain ⟨ho, hr', he', hds, hrs, hup, hstart, hdeadline⟩ := h.awakened hr query
  have hdes : p.Deserted ↔ p.sourceDemand.isUp = true := by simp [Deserted, he, hr]
  refine .of_phases (he'.trans he) (ho.hold hr' _ _) (fun _ => ?_) (fun hd => ?_)
    fun _ n hn _ hd => .inl ⟨?_, hdeadline hd⟩
  · rw [hs, hdes]
    constructor
    · intro hlaw hu
      refine OnDemand.not_starting_of_isUp (hup.trans hu) (hlaw ?_)
      rcases Bool.or_eq_true_iff.1 hnew with hnew | hnew
      · simp_all [holdsRequests]
      · simp_all [holdsRequests]
    · intro hu _
      exact hstart (by simpa using hu)
  · refine iff_of_false (fun hq => hd (hdes.2 ?_)) hl
    exact hup ▸ hq.2
  · exact mem_waiting_of_append ds rs (by rw [hds]) (by rw [hrs]) hn

/-- **Asking for the stream.** -/
lemma describe_move (he : p.ended = false) (request : Nat) (query : String) :
    SourceMove p (.message (.describe request query)) (p.describe request query) := by
  rw [describe_of_runs h]
  split
  · next hr =>
    have hs : ¬ p.StrandsHeld (.message (.describe request query)) := by
      simp [StrandsHeld, Deserted, hr]
    exact .of_log hs not_false he h _
  · next hr =>
    have hm := hold_move h he (by simpa using hr) (s := .message (.describe request query))
      Iff.rfl not_false query [{ request }] [] rfl
    simpa using hm

/-- **Asking to read.** -/
lemma addReader_move (he : p.ended = false) (request : Nat) (client : Client)
    (query : String) :
    SourceMove p (.message (.addReader request client query))
      (p.addReader request client query) := by
  rw [addReader_of_runs h]
  split
  · next hr =>
    have hs : ¬ p.StrandsHeld (.message (.addReader request client query)) := by
      simp [StrandsHeld, Deserted, hr]
    have hnone := (h.ready hr).2
    obtain ⟨cs, a, -, heq⟩ := p.attach_eq hr request client
    rw [heq]
    exact .of_answered hs not_false he ((h.takeIn cs).log _) hnone (.inl hr)
      (by simp [waiting_eq_nil hnone])
  · next hr =>
    have hm := hold_move h he (by simpa using hr) (s := .message (.addReader request client query))
      Iff.rfl not_false query [] [{ request, client }] rfl
    simpa using hm

/-- **Leaving** only arms the timer that ends the activation. -/
lemma removeReader_move (he : p.ended = false) (client : Client) :
    SourceMove p (.message (.removeReader client)) (p.removeReader client) := by
  have ho := h.removeReader client
  rw [removeReader_eq] at ho ⊢
  refine .of_same not_false not_false he rfl ho rfl rfl ?_ ?_ (fun _ => ?_) fun _ hn _ => hn
  · dsimp only
    split <;> simp
  · dsimp only
    split <;> simp
  · dsimp only
    split <;> simp

/-- **Giving up** leaves the request in its place. -/
lemma abandon_move (he : p.ended = false) (request : Nat) :
    SourceMove p (.message (.abandon request)) (p.abandon request) := by
  have hheld : (p.abandon request).holdsRequests = p.holdsRequests := by
    simp [holdsRequests, abandon]
  refine .of_same not_false not_false he rfl ?_ hheld rfl Iff.rfl rfl (fun _ => rfl) ?_
  · exact ⟨h.onDemand, h.source, h.launch, h.timed,
      fun hready => ⟨(h.ready hready).1, hheld.trans (h.ready hready).2⟩⟩
  · intro n hn hne
    exact mem_waiting_abandon (fun heq => hne (by rw [heq])) hn

/-! ## Reports of the source -/

/-- **An empty report** leaves what is held. -/
lemma rejected_move (he : p.ended = false) (request : Nat) {d : MediaDescription} {rtp : Bool}
    (hd : d.isEmpty = true) (e : PathEvent) :
    SourceMove p (.message (.sourceReady request d rtp)) (p.becomeUnready.emit e) := by
  obtain ⟨ho, hr, hend, hdem, hheld, hwait⟩ := h.becomeUnready
  have hdem' : (p.becomeUnready.emit e).sourceDemand = p.sourceDemand := hdem
  have hheld' : (p.becomeUnready.emit e).holdsRequests = p.holdsRequests := hheld
  refine .of_phases (hend.trans he) (ho.log _)
    (fun hL => iff_of_true (fun hh => ?_) not_false) (fun hdes => ?_)
    fun _ n hn _ _ => .inl ⟨?_, congrArg OnDemand.readyAt hdem'⟩
  · rw [hdem']
    exact (hL (hheld' ▸ hh)).2.1
  · rw [hdem', show (p.becomeUnready.emit e).isReady = false from hr]
    constructor
    · rintro ⟨-, hup⟩
      by_contra hn
      exact hdes ⟨he, by simpa [LosesStream, he, hd] using hn, hup⟩
    · exact fun hl => ⟨rfl, (h.ready hl.2.1).1⟩
  · exact (show (p.becomeUnready.emit e).waiting = p.waiting from hwait) ▸ hn

/-- **A report that becomes a stream** ends all waiting. -/
lemma RunsOnDemand.accepted (he : p.ended = false) (s : Stream) (e : PathEvent) :
    let q := (p.becomeReady s).noteSourceReady.releaseHeld.emit e
    q.RunsOnDemand ∧ q.ended = false ∧ q.isReady = true ∧ q.holdsRequests = false ∧
      ∀ n ∈ p.waiting, p.HasAnswered q n := by
  set r := (p.becomeReady s).noteSourceReady with hrdef
  have hgrows : p.log <+: r.log :=
    ((proceeds_becomeReady p s).trans (proceeds_noteSourceReady _)).grows
  have hfields : r = { p.becomeReady s with
      sourceDemand := p.sourceDemand.ready (p.now + p.conf.sourceCloseAfter) } := by
    rw [hrdef]
    simp [noteSourceReady, becomeReady_eq, h.onDemand, now, Launcher.onReady]
  rw [becomeReady_eq] at hfields
  have hready : r.isReady = true := by simp [hfields, isReady]
  have hwait : r.waiting = p.waiting := by simp [hfields, waiting]
  have hend : r.ended = false := by simpa [hfields] using he
  have ho : { r with heldDescribes := [], heldReaders := [] }.RunsOnDemand := by
    rw [hfields]
    refine ⟨h.onDemand, h.source, h.launch, ?_, fun _ => ⟨by simp, rfl⟩⟩
    simpa [now, Launcher.onReady] using OnDemand.Timed.ready (Nat.le_add_right ..)
  have hanswered : ∀ n ∈ p.waiting, p.HasAnswered (r.releaseHeld.emit e) n :=
    fun n hn => hasAnswered_released hgrows hready hwait e hn
  obtain ⟨cs, answers, -, -, hrel⟩ := r.releaseHeld_eq hready
  rw [hrel] at hanswered ⊢
  exact ⟨(ho.takeIn cs).log _, hend, hready, rfl, hanswered⟩

/-- **A report of readiness.** -/
lemma sourceReady_move (he : p.ended = false) (request : Nat) (d : MediaDescription) (rtp : Bool) :
    SourceMove p (.message (.sourceReady request d rtp)) (p.sourceReady request d rtp) := by
  obtain ⟨ho, -, hend, -, -, hwait⟩ := h.becomeUnready
  unfold sourceReady Stream.open?
  by_cases hd : d.isEmpty = true
  · simp only [hd, ↓reduceIte]
    exact rejected_move h he request hd _
  · simp only [hd]
    obtain ⟨ha, hlive, hready, hnone, hanswered⟩ := ho.accepted (hend.trans he) _ _
    have hl : ¬ p.LosesStream (.message (.sourceReady request d rtp)) := by
      simp [LosesStream, hd]
    refine .of_answered not_false hl hlive ha hnone (.inl hready) fun n hn => ?_
    exact (hanswered n (hwait ▸ hn)).of_later p.proceeds_becomeUnready.grows

/-- **A report of failure** stops the source, but keeps what is held. -/
lemma sourceNotReady_move (he : p.ended = false) :
    SourceMove p (.message .sourceNotReady) p.sourceNotReady := by
  obtain ⟨ho, hr, hend, -, hheld, hwait⟩ := h.becomeUnready
  have hstop : p.sourceNotReady.RunsOnDemand ∧ p.sourceNotReady.sourceDemand = {} ∧
      p.sourceNotReady.ended = false ∧ p.sourceNotReady.holdsRequests = p.holdsRequests := by
    unfold sourceNotReady
    simp only [ho.onDemand, Bool.true_and, Bool.not_eq_eq_eq_not, Bool.not_true]
    split
    · refine ⟨ho.stopSource hr _, ?_⟩
      rw [stopSource_eq]
      exact ⟨rfl, hend.trans he, hheld⟩
    · next hi =>
      exact ⟨ho, ho.timed.eq_idle (by simpa [OnDemand.isIdle] using hi), hend.trans he, hheld⟩
  obtain ⟨hord, hidle, hlive, hsame⟩ := hstop
  refine .of_phases hlive hord (fun _ => ?_) (fun _ => ?_) fun hs n hn _ _ => ?_
  · rw [hidle, hsame]
    simp [StrandsHeld]
  · rw [hidle]
    simp [LosesStream]
  · have hnone : p.holdsRequests = false := by simpa [StrandsHeld] using hs
    simp [waiting_eq_nil hnone] at hn

/-! ## Time -/

/-- **The deadline of a source that starts**: everybody who waits is refused. -/
lemma failSource_move (he : p.ended = false) (hr : p.isReady = false) :
    SourceMove p .expire p.failSource := by
  have ho := (h.failHeld (.sourceTimedOut p.name)).stopSource
    (by simpa [failHeld_eq, isReady] using hr) "timed out"
  have hanswered : ∀ n ∈ p.waiting,
      p.HasAnswered ((p.failHeld (.sourceTimedOut p.name)).stopSource "timed out") n :=
    fun n hn => (p.hasAnswered_failHeld _ hn).mono (proceeds_stopSource _ _).grows
  unfold failSource
  rw [ho.closeIfUnused]
  rw [failHeld_eq, stopSource_eq] at ho hanswered ⊢
  exact .of_answered not_false not_false he ho rfl (.inr rfl) hanswered

/-- **The deadline of a source from which nobody reads.** -/
lemma retireSource_move (he : p.ended = false) (hc : p.sourceDemand.phase = .closing) :
    SourceMove p .expire p.retireSource := by
  obtain ⟨ho, hr, hend, -, hheld, -⟩ := h.becomeUnready
  have hs := ho.stopSource hr "not needed by anyone"
  unfold retireSource
  rw [hs.closeIfUnused]
  rw [stopSource_eq] at hs ⊢
  have hnone := h.timed.readyAt_eq_none (by simp [hc])
  refine .of_phases (hend.trans he) hs (fun hL => iff_of_true (fun hh => ?_) not_false)
    (fun _ => ?_) fun _ n hn _ hd => ?_
  · have := (hL (hheld ▸ hh)).2.1
    simp [hc] at this
  · simp [LosesStream]
  · simp [hnone] at hd

/-- **A timer goes off**: only those of the source can. -/
lemma expire_move (he : p.ended = false) (hdue : ∃ d ∈ p.deadline?, d ≤ p.now) :
    SourceMove p .expire p.expire := by
  obtain ⟨d, hd, hle⟩ := hdue
  have hmem : d ∈ p.sourceDemand.deadlines := by
    simpa [h.launch] using (mem_deadlines_of_deadline? hd).2
  unfold expire
  split
  · next hfail =>
    refine failSource_move h he ?_
    have hs : p.sourceDemand.phase = .starting := by
      refine h.timed.readyAt_isSome.1 ?_
      cases hr : p.sourceDemand.readyAt <;> simp_all [isDue]
    by_contra hready
    exact OnDemand.not_starting_of_isUp (h.ready (by simpa using hready)).1 hs
  · split
    · next hretire =>
      refine retireSource_move h he (h.timed.closeAt_isSome.1 ?_)
      cases hr : p.sourceDemand.closeAt <;> simp_all [isDue]
    · next hfail hretire =>
      exfalso
      rcases List.mem_append.1 hmem with hd | hd
      · exact hfail (by simp_all [isDue])
      · exact hretire (by simp_all [isDue])

/-- **Time passes** up to the next deadline at most. -/
lemma pass_move (he : p.ended = false) {time : Nat} (hle : ∀ d ∈ p.deadline?, time ≤ d) :
    SourceMove p (.pass time) (p.runTo time) := by
  refine .of_same not_false not_false he rfl ?_ rfl rfl Iff.rfl rfl (fun _ => rfl) fun _ hn _ => hn
  refine ⟨h.onDemand, h.source, h.launch, ?_, h.ready⟩
  rw [now_runTo]
  exact h.timed.pass fun d hd => le_of_le_deadline? he hle (List.mem_append_left _ hd)

/-! ## All steps -/

/-- **A new configuration** that a running path can absorb changes nothing here. -/
lemma reload_move (he : p.ended = false) {c : Conf} (hc : p.conf.canHotReload c = true) :
    SourceMove p (.reload c) (p.reload c) := by
  rw [reload_eq]
  refine .of_same not_false not_false he rfl ⟨?_, ?_, h.launch, h.timed, h.ready⟩ rfl rfl Iff.rfl
    rfl (fun _ => rfl) fun _ hn _ => hn
  · exact (Conf.hasOnDemandSource_of_canHotReload hc).trans h.onDemand
  · obtain ⟨url, hs⟩ := h.source_eq
    simp [runsSource, sourceUnder, hs]

/-- **A message** to a live path. -/
lemma receive_move (he : p.ended = false) (m : PathMessage) :
    SourceMove p (.message m) (p.receive m) := by
  unfold receive
  rw [if_neg (by simp [he])]
  cases m with
  | describe request query => exact (describe_move h he request query).closeIfUnused
  | addPublisher request client d rtp query expected =>
    have hfault : p.publisherFault? expected d = some (.notPublisherSource p.name) := by
      have := h.static
      unfold publisherFault?
      rw [if_pos fun hs => by simp [Conf.hasStaticSource, SourceKind.isStatic, hs] at this]
    have hm := SourceMove.of_log (s := .message (.addPublisher request client d rtp query expected))
      not_false not_false he h
      (p.log ++ [.answered request (.refused (.notPublisherSource p.name))])
    simp only [addPublisher, hfault]
    exact hm.closeIfUnused
  | removePublisher client =>
    have hsame : p.removePublisher client = p := by
      simp [removePublisher, h.publisher?_eq_none]
    have hm := SourceMove.of_log (s := .message (.removePublisher client)) not_false not_false he h
      p.log
    simp only [hsame]
    exact hm.closeIfUnused
  | addReader request client query => exact (addReader_move h he request client query).closeIfUnused
  | removeReader client => exact removeReader_move h he client
  | sourceReady request d rtp => exact sourceReady_move h he request d rtp
  | sourceNotReady => exact (sourceNotReady_move h he).closeIfUnused
  | abandon request => exact abandon_move h he request

end Messages

/-- **After its end** a path stays over. -/
lemma SourceStep.of_over {p q : Path} {s : PathStep} (hs : ¬ p.StrandsHeld s)
    (hl : ¬ p.LosesStream s) (hq : q.IsOver) (hanswered : ∀ n ∈ p.waiting, p.HasAnswered q n) :
    SourceStep p s q where
  order := ⟨fun hlive => by simp [hq.ended] at hlive, fun _ => hq⟩
  law _ := iff_of_true (fun hheld => by simp [hq.held] at hheld) hs
  desertion _ := iff_of_false (fun hd => by simp [Deserted, hq.ended] at hd) hl
  serves _ n hn _ _ := .inr (hanswered n hn)

/-- **Every possible step** keeps the order; it breaks the law only if it strands requests, and
deserts the path only if the path loses its stream. -/
theorem SourceOrder.step {p : Path} (h : p.SourceOrder) {s : PathStep} (hs : p.Permits s) :
    SourceStep p s (p.step s) := by
  cases he : p.ended with
  | true =>
    have hgone := h.gone he
    have hstrands : ¬ p.StrandsHeld s := by
      unfold StrandsHeld
      split <;> simp [Deserted, he, hgone.held]
    have hloses : ¬ p.LosesStream s := by
      unfold LosesStream
      split <;> simp [he]
    exact .of_over hstrands hloses (hgone.step hs) (by simp [waiting_eq_nil hgone.held])
  | false =>
    have ho := h.live he
    cases s with
    | message m => exact (receive_move ho he m).toSourceStep
    | reload c => exact (reload_move ho he hs.2).toSourceStep
    | pass time => exact (pass_move ho he hs.2).toSourceStep
    | expire => exact (expire_move ho he hs).toSourceStep
    | destroy =>
      have heq : p.step .destroy = { p with ended := true }.shutdown := by
        simp [Path.step, destroy, he]
      rw [heq]
      refine .of_over not_false not_false (isOver_shutdown _) fun n hn => ?_
      exact hasAnswered_shutdown { p with ended := true } hn

/-! ## Whole runs -/

/-- **A new path** is in order, holds nothing and is not deserted. -/
lemma sourceOrder_create {found : ConfSet.Found} (hc : found.conf.hasOnDemandSource = true)
    (settings : PathSettings) (now id : Nat) (name : String) :
    (create settings now id name found).SourceOrder ∧
      (create settings now id name found).AwaitsSource ∧
      ¬ (create settings now id name found).Deserted := by
  set p := create settings now id name found with hp
  have hstatic := (Bool.and_eq_true_iff.1 hc).1
  have hdemand := (Bool.and_eq_true_iff.1 hc).2
  have hfields : p.conf = found.conf ∧ p.runsSource = true ∧ p.ended = false ∧ p.stream = none ∧
      p.sourceDemand = {} ∧ p.launchDemand = {} ∧ p.holdsRequests = false := by
    rw [hp]
    unfold create takeSource
    cases hs : found.conf.source <;>
      simp_all [Conf.hasStaticSource, SourceKind.isStatic, launchInit, emit, runsSource,
        holdsRequests]
  obtain ⟨hconf, hruns, hend, hstream, hsource, hlaunch, hheld⟩ := hfields
  have horder : p.RunsOnDemand :=
    ⟨by rw [hconf]; exact hc, hruns, hlaunch, by rw [hsource]; exact OnDemand.timed_idle _,
      fun hready => by simp [isReady, hstream] at hready⟩
  refine ⟨⟨fun _ => horder, fun hgone => by simp [hend] at hgone⟩, ?_, ?_⟩
  · exact fun hh => by simp [hheld] at hh
  · simp [Deserted, hsource]

/-- **Waiting for a source along a run.** On a path that runs its source on demand, held requests
wait for a source that starts and has a deadline, all along a run, exactly if no step of the run
strands requests. Wherever this law holds, held requests are answered at the deadline if nothing
else happens, and in every further run that strands no requests they are answered when the deadline
is over. The path becomes deserted only by an empty report on a ready path.

**Proof sketch.** The order of the path is kept by every possible step, and within it a step that
strands no requests keeps the law; both follow message by message. Held requests keep their
deadline or are answered, so that the deadline bounds the waiting. -/
theorem awaitsSource_run {found : ConfSet.Found} (hc : found.conf.hasOnDemandSource = true)
    (settings : PathSettings) (now id : Nat) (name : String) {ss : List PathStep}
    (hs : (create settings now id name found).PermitsAll ss) :
    ((∀ p ∈ (create settings now id name found).visited ss, p.AwaitsSource) ↔
      ∀ m ∈ (create settings now id name found).moves ss, ¬ m.1.StrandsHeld m.2) ∧
    (∀ p ∈ (create settings now id name found).visited ss, p.AwaitsSource →
      p.holdsRequests = true → ∃ d, p.sourceDemand.readyAt = some d ∧ p.now ≤ d ∧
        p.SettledBy d ∧ p.AnsweredBy StrandsHeld d) ∧
    (∀ m ∈ (create settings now id name found).moves ss, ¬ m.1.Deserted →
      ((m.1.step m.2).Deserted ↔ m.1.LosesStream m.2)) := by
  obtain ⟨horder, hlaw, -⟩ := sourceOrder_create hc settings now id name
  have keeps : ∀ p s, SourceOrder p → p.Permits s → (p.step s).SourceOrder :=
    fun p s h hs => (h.step hs).order
  refine ⟨?_, fun p hp hL hh => ?_, fun m hm hd => ?_⟩
  · exact forall_visited_iff keeps (fun p s h hs hL => (h.step hs).law hL) horder hlaw hs
  · have ho := forall_visited keeps horder hs p hp
    have he : p.ended = false := by
      by_contra hend
      simp [(ho.gone (by simpa using hend)).held] at hh
    obtain ⟨d, hd, hle, hdeadlines⟩ := (ho.live he).timed.deadlines_of_starting (hL hh).2.1
    refine ⟨d, hd, hle, settledBy_source he hdeadlines hd (ho.live he).launch, ?_⟩
    refine answeredBy_of_step (fun p => p.sourceDemand.readyAt) keeps ?_ ?_ ho hd
    · exact fun p s h hs hb => (h.step hs).serves hb
    · intro q hq d hd
      cases hend : q.ended with
      | true => simp [(hq.gone hend).readyAt] at hd
      | false => exact (hq.live hend).timed.le_readyAt d hd
  · obtain ⟨ho, hpermits⟩ := forall_moves keeps horder hs m hm
    exact (ho.step hpermits).desertion hd

/-- A configuration whose source runs on demand. -/
def pulledOnDemand : ConfSet.Found where
  conf := { name := "cam", source := .pull "rtsp://host/s", sourceOnDemand := true }
  captures := []

/-- A new path of this configuration. -/
def newPulled : Path := create {} 0 1 "cam" pulledOnDemand

/-- The first request for a path is held, and is answered after ten seconds at the latest. -/
theorem answeredBy_newPulled :
    pulledOnDemand.conf.hasOnDemandSource = true ∧
      newPulled.PermitsAll [.message (.describe 0 "q")] ∧
      (newPulled.describe 0 "q").waiting = [0] ∧
      (newPulled.describe 0 "q").SettledBy 10000 ∧
      (newPulled.describe 0 "q").AnsweredBy StrandsHeld 10000 := by
  have hruns : pulledOnDemand.conf.hasOnDemandSource = true := by decide
  have hpermits : newPulled.PermitsAll [.message (.describe 0 "q")] := by decide
  obtain ⟨-, hanswered, -⟩ := awaitsSource_run hruns {} 0 1 "cam" hpermits
  obtain ⟨d, hd, -, hsettled, hby⟩ :=
    hanswered (newPulled.describe 0 "q") (List.mem_cons_of_mem _ List.mem_cons_self) (by decide)
      (by decide)
  obtain rfl : 10000 = d := Option.some.inj ((by decide : _ = some 10000).symm.trans hd)
  exact ⟨hruns, hpermits, by decide, hsettled, hby⟩

/-- **Two ways to wait in vain**: the source fails while a request is held, or its source announces
nothing while the path is ready and somebody asks afterwards. The source has been stopped or counts
as ready, and nothing is left that would answer those who wait. -/
theorem not_awaitsSource_newPulled :
    (newPulled.PermitsAll [.message (.describe 0 "q"), .message .sourceNotReady] ∧
      ∃ p ∈ newPulled.visited [.message (.describe 0 "q"), .message .sourceNotReady],
        p.waiting = [0] ∧ p.sourceDemand = {} ∧ ¬ p.AwaitsSource) ∧
    (newPulled.PermitsAll [.message (.sourceReady 0 ⟨[⟨.video, "H264"⟩]⟩ false),
        .message (.sourceReady 1 {} false), .message (.describe 2 "q")] ∧
      ∃ p ∈ newPulled.visited [.message (.sourceReady 0 ⟨[⟨.video, "H264"⟩]⟩ false),
        .message (.sourceReady 1 {} false), .message (.describe 2 "q")],
        p.waiting = [2] ∧ p.sourceDemand.phase = .closing ∧ ¬ p.AwaitsSource) := by
  decide

end Path

end LivePaths
