import LivePaths.Proofs.Path.Deadline

set_option relaxedAutoImplicit false
set_option autoImplicit false

/-!
# Waiting for a command that is to publish

A path that launches a command on demand holds requests until somebody publishes. While nobody does,
the launch should be idle, with nothing held, or starting, with a deadline. This breaks when a
publisher leaves for whom the command was launched: the launch still counts as ready, so that nobody
launches the command again.

## Main definitions

* `Path.LaunchesOnDemand` — the order of a live path that launches on demand.
* `Path.AwaitsLaunch` — the law of a path on which nobody publishes.
* `Path.ForgetsLaunch` — the steps that break it.
* `Path.StartsLaunch`, `Path.JoinsLaunch` — what somebody does who asks.

## Main results

* `Path.LaunchOrder.step` — what every possible step does to order and law.
* `Path.awaitsLaunch_run` — when the law holds all along a run, and what it is good for.
-/

namespace LivePaths

/-- The request and the query of a message by which somebody asks for the stream. -/
def PathMessage.asks? : PathMessage → Option (Nat × String)
  | .describe request query | .addReader request _ query => some (request, query)
  | _ => none

namespace Path

/-! ## The order of a path that launches on demand -/

/-- **Order of a live path that launches on demand**: only publishers are its sources, it is ready
exactly while somebody publishes, the launch has its timers, and on a ready path nothing is held or
starts. -/
structure LaunchesOnDemand (p : Path) : Prop where
  onDemand : p.conf.hasOnDemandLaunch = true
  source : p.sourceDemand = {}
  publishers : p.source = p.publisher?.map .publisher
  published : p.isReady = p.publisher?.isSome
  timed : p.launchDemand.Timed p.now
  ready : p.isReady = true → p.launchDemand.phase ≠ .starting ∧ p.holdsRequests = false

/-- **Order of a path** that launches on demand or has done so until its end. -/
structure LaunchOrder (p : Path) : Prop where
  live : p.ended = false → p.LaunchesOnDemand
  gone : p.ended = true → p.IsOver

namespace LaunchesOnDemand

variable {p : Path} (h : p.LaunchesOnDemand)

include h

lemma noSource : p.conf.hasOnDemandSource = false :=
  Conf.hasOnDemandSource_of_launch h.onDemand

lemma source_ne_redirect : p.source ≠ some .redirect := by
  rw [h.publishers]
  cases p.publisher? <;> simp

/-- What is written down concerns nothing else. -/
lemma log (es : List PathEvent) : { p with log := es }.LaunchesOnDemand :=
  ⟨h.onDemand, h.source, h.publishers, h.published, h.timed, h.ready⟩

/-- While the path is not ready, requests can be held. -/
lemma hold (hr : p.isReady = false) (ds : List HeldDescribe) (rs : List HeldReader) :
    { p with heldDescribes := ds, heldReaders := rs }.LaunchesOnDemand :=
  ⟨h.onDemand, h.source, h.publishers, h.published, h.timed,
    fun hready => by simp_all [isReady]⟩

lemma startLaunch (hr : p.isReady = false) (hi : p.launchDemand.phase = .idle) (query : String) :
    (p.startLaunch query).LaunchesOnDemand := by
  rw [startLaunch_eq]
  refine ⟨h.onDemand, h.source, h.publishers, h.published, ?_, fun hready => ?_⟩
  · simpa [now, Launcher.onDemand] using h.timed.begin hi (Nat.le_add_right ..)
  · simp_all [isReady]

lemma stopLaunch (reason : String) : (p.stopLaunch reason).LaunchesOnDemand := by
  rw [stopLaunch_eq]
  exact ⟨h.onDemand, h.source, h.publishers, h.published, OnDemand.timed_idle _,
    fun hready => ⟨by simp, (h.ready hready).2⟩⟩

lemma failHeld (e : PathError) : (p.failHeld e).LaunchesOnDemand := by
  rw [failHeld_eq]
  exact ⟨h.onDemand, h.source, h.publishers, h.published, h.timed,
    fun hready => ⟨(h.ready hready).1, rfl⟩⟩

/-- Readers who are taken in only stop the timer that would end the activation. -/
lemma takeIn (cs : List Client) : (p.takeIn cs).LaunchesOnDemand := by
  refine ⟨h.onDemand, ?_, h.publishers, h.published, ?_, fun hready => ⟨?_, (h.ready hready).2⟩⟩
  · simp [Path.takeIn, h.noSource, h.source]
  · dsimp only [Path.takeIn]
    split
    · exact h.timed.readerAttached
    · exact h.timed
  · have := (h.ready hready).1
    dsimp only [Path.takeIn]
    split
    · simpa using this
    · exact this

/-- Readers who leave only arm that timer. -/
lemma removeReader (client : Client) : (p.removeReader client).LaunchesOnDemand := by
  rw [removeReader_eq]
  refine ⟨h.onDemand, ?_, h.publishers, h.published, ?_, fun hready => ⟨?_, (h.ready hready).2⟩⟩
  · simp [h.noSource, h.source]
  · dsimp only
    split
    · exact h.timed.readersGone (Nat.le_add_right ..)
    · exact h.timed
  · have := (h.ready hready).1
    dsimp only
    split
    · simpa using this
    · exact this

/-- A publisher who leaves takes the stream with it and leaves the launch as it is. -/
lemma vacated : p.vacated.LaunchesOnDemand ∧ p.vacated.isReady = false ∧
    p.vacated.ended = p.ended ∧ p.vacated.launchDemand = p.launchDemand ∧
    p.vacated.conf = p.conf ∧ p.vacated.holdsRequests = p.holdsRequests ∧
    p.vacated.waiting = p.waiting := by
  unfold Path.vacated
  cases hs : p.stream with
  | none =>
    rw [becomeUnready_of_none p hs]
    refine ⟨⟨h.onDemand, h.source, rfl, ?_, h.timed, fun hready => ?_⟩, ?_, rfl, rfl, rfl, rfl, rfl⟩
    · simp [isReady, hs, publisher?]
    · simp [isReady, hs] at hready
    · simp [isReady, hs]
  | some s =>
    rw [becomeUnready_eq p hs]
    refine ⟨⟨h.onDemand, h.source, rfl, rfl, ?_, fun hready => ?_⟩, rfl, rfl, rfl, rfl, rfl, rfl⟩
    · simpa [now] using h.timed
    · simp [isReady] at hready

/-- A publisher who is replaced takes the stream with it. -/
lemma evicted (he : p.ended = false) : p.evictPublisher.LaunchesOnDemand ∧
    p.evictPublisher.ended = false ∧ p.evictPublisher.waiting = p.waiting := by
  unfold evictPublisher
  split
  · exact ⟨h, he, rfl⟩
  · next client _ =>
    obtain ⟨ho, -, hend, -, -, -, hwait⟩ := (h.log (p.log ++ [.publisherClosed client])).vacated
    exact ⟨ho, hend.trans he, hwait⟩

/-- **A publisher who comes** ends all waiting. -/
lemma taken (he : p.ended = false) (client : Client) (query : String) (s : Stream)
    (e : PathEvent) :
    let q := ({ p with source := some (.publisher client), query }.becomeReady s
      |>.notePublisherReady.releaseHeld.emit e)
    q.LaunchesOnDemand ∧ q.ended = false ∧ q.isReady = true ∧ q.holdsRequests = false ∧
      ∀ n ∈ p.waiting, p.HasAnswered q n := by
  set r := ({ p with source := some (.publisher client), query }.becomeReady s).notePublisherReady
    with hrdef
  have hgrows : p.log <+: r.log :=
    ((proceeds_becomeReady { p with source := some (.publisher client), query } s).trans
      (proceeds_notePublisherReady _)).grows
  have hfields : r = { { p with source := some (.publisher client), query }.becomeReady s with
      launchDemand :=
        if p.launchDemand.isIdle then p.launchDemand
        else p.launchDemand.ready (p.now + p.conf.launchCloseAfter) } := by
    rw [hrdef, becomeReady_eq]
    unfold notePublisherReady
    cases hi : p.launchDemand.isIdle <;> simp [h.onDemand, now, Launcher.onReady]
  rw [becomeReady_eq] at hfields
  have hready : r.isReady = true := by simp [hfields, isReady]
  have hwait : r.waiting = p.waiting := by simp [hfields, waiting]
  have hend : r.ended = false := by simpa [hfields] using he
  have ho : { r with heldDescribes := [], heldReaders := [] }.LaunchesOnDemand := by
    rw [hfields]
    refine ⟨h.onDemand, h.source, rfl, rfl, ?_, fun _ => ⟨?_, rfl⟩⟩
    · dsimp only
      split
      · simpa [now, Launcher.onReady] using h.timed
      · simpa [now, Launcher.onReady] using OnDemand.Timed.ready (Nat.le_add_right ..)
    · dsimp only
      split
      · next hi =>
        have hi : p.launchDemand.phase = .idle := by simpa [OnDemand.isIdle] using hi
        simp [hi]
      · exact OnDemand.not_starting_of_isUp (OnDemand.isUp_ready ..)
  have hanswered : ∀ n ∈ p.waiting, p.HasAnswered (r.releaseHeld.emit e) n :=
    fun n hn => hasAnswered_released hgrows hready hwait e hn
  obtain ⟨cs, answers, -, -, hrel⟩ := r.releaseHeld_eq hready
  rw [hrel] at hanswered ⊢
  exact ⟨(ho.takeIn cs).log _, hend, hready, rfl, hanswered⟩

end LaunchesOnDemand

/-! ## The law -/

/-- **The law of a path on which nobody publishes**: the launch is idle, and nothing is held, or it
starts, with the timer armed that ends the waiting. -/
def AwaitsLaunch (p : Path) : Prop :=
  p.stream = none →
    (p.launchDemand.phase = .idle ∧ p.holdsRequests = false) ∨
      (p.launchDemand.phase = .starting ∧ p.launchDemand.readyAt.isSome = true)

instance (p : Path) : Decidable p.AwaitsLaunch :=
  inferInstanceAs (Decidable (_ → _))

/-- **The steps that forget a launch**: the publisher leaves while the launch is not idle, and the
path does not end with it. -/
def ForgetsLaunch (p : Path) : PathStep → Prop
  | .message (.removePublisher client) =>
    p.publisher? = some client ∧ p.launchDemand.isIdle = false ∧ p.conf.hasPattern = false
  | _ => False

instance (p : Path) (s : PathStep) : Decidable (p.ForgetsLaunch s) := by
  unfold ForgetsLaunch
  split <;> infer_instance

/-- In an ordered path only phases matter for the law. -/
lemma LaunchesOnDemand.awaitsLaunch_iff {p : Path} (h : p.LaunchesOnDemand) :
    p.AwaitsLaunch ↔ (p.isReady = false → p.launchDemand.isUp = false ∧
      (p.launchDemand.isIdle = true → p.holdsRequests = false)) := by
  have harmed := h.timed.readyAt_isSome
  unfold AwaitsLaunch isReady OnDemand.isUp OnDemand.isIdle
  cases hp : p.launchDemand.phase <;> simp_all

/-- **What a step does** to a path in order: the order stays, the law breaks only if the step
forgets the launch, and whoever waits for a launch that starts is answered or waits on until the
same deadline. -/
structure LaunchStep (p : Path) (s : PathStep) (q : Path) : Prop where
  order : q.LaunchOrder
  law : p.AwaitsLaunch → (q.AwaitsLaunch ↔ ¬ p.ForgetsLaunch s)
  serves : Serves (·.launchDemand.readyAt) p s q

/-- **A step of a live path** after which it is alive. -/
structure LaunchMove (p : Path) (s : PathStep) (q : Path) : Prop extends LaunchStep p s q where
  alive : q.ended = false

/-- **After its end** a path stays over. -/
lemma LaunchStep.of_over {p q : Path} {s : PathStep} (hs : ¬ p.ForgetsLaunch s) (hq : q.IsOver)
    (hserves : Serves (·.launchDemand.readyAt) p s q) : LaunchStep p s q where
  order := ⟨fun hlive => by simp [hq.ended] at hlive, fun _ => hq⟩
  law _ := iff_of_true (fun _ => .inl ⟨by simp [hq.launch], hq.held⟩) hs
  serves := hserves

namespace LaunchMove

variable {p q : Path} {s : PathStep}

/-- The order and the law, said by phases. -/
lemma of_phases (he : q.ended = false) (h : q.LaunchesOnDemand)
    (law : p.AwaitsLaunch →
      ((q.isReady = false → q.launchDemand.isUp = false ∧
        (q.launchDemand.isIdle = true → q.holdsRequests = false)) ↔ ¬ p.ForgetsLaunch s))
    (serves : Serves (·.launchDemand.readyAt) p s q) : LaunchMove p s q where
  order := ⟨fun _ => h, fun hend => by simp [he] at hend⟩
  law hL := h.awaitsLaunch_iff.trans (law hL)
  serves := serves
  alive := he

/-- A step after which everything that matters is as before. -/
lemma of_same (hp : p.LaunchesOnDemand) (hs : ¬ p.ForgetsLaunch s) (he : p.ended = false)
    (hend : q.ended = p.ended) (h : q.LaunchesOnDemand)
    (hheld : q.holdsRequests = p.holdsRequests) (hready : q.isReady = p.isReady)
    (hup : q.launchDemand.isUp = p.launchDemand.isUp)
    (hidle : q.launchDemand.isIdle = p.launchDemand.isIdle)
    (hdeadline : q.launchDemand.readyAt = p.launchDemand.readyAt)
    (hwaits : ∀ n ∈ p.waiting, s ≠ .message (.abandon n) → n ∈ q.waiting) : LaunchMove p s q := by
  refine .of_phases (hend.trans he) h (fun hL => iff_of_true ?_ hs)
    fun n hn hne _ => .inl ⟨hwaits n hn hne, hdeadline⟩
  rw [hready, hup, hidle, hheld]
  exact hp.awaitsLaunch_iff.1 hL

/-- A step that only writes something down. -/
lemma of_log (hs : ¬ p.ForgetsLaunch s) (he : p.ended = false) (h : p.LaunchesOnDemand)
    (es : List PathEvent) : LaunchMove p s { p with log := es } :=
  .of_same h hs he rfl (h.log es) rfl rfl rfl rfl rfl fun _ hn _ => hn

/-- A step after which the path is ready, and everybody has been answered. -/
lemma of_ready (hs : ¬ p.ForgetsLaunch s) (he : q.ended = false) (h : q.LaunchesOnDemand)
    (hready : q.isReady = true) (hanswered : ∀ n ∈ p.waiting, p.HasAnswered q n) :
    LaunchMove p s q := by
  refine .of_phases he h (fun _ => iff_of_true (fun hq => ?_) hs)
    fun n hn _ _ => .inr (hanswered n hn)
  simp [hready] at hq

/-- A step after which the path may end because it is unused. -/
lemma closeIfUnused (hm : LaunchMove p s q) (hs : ¬ p.ForgetsLaunch s) :
    LaunchStep p s q.closeIfUnused := by
  unfold Path.closeIfUnused
  split
  · next hu =>
    have hnone : q.holdsRequests = false := by simp_all [isUnused, holdsRequests]
    refine .of_over hs q.isOver_shutdown fun n hn hne hd => ?_
    rcases hm.serves n hn hne hd with ⟨hwaits, -⟩ | hanswered
    · simp [waiting_eq_nil hnone] at hwaits
    · exact .inr (hanswered.mono q.log_shutdown)
  · exact hm.toLaunchStep

end LaunchMove

/-! ## Asking -/

/-- **The launch starts** because somebody asks. -/
def StartsLaunch (p q : Path) (query : String) : Prop :=
  q.log = p.log ++ [.demand query] ∧
    q.launcher = (p.launcher.onDemand p.baseEnvironment p.conf.commands query).1 ∧
    q.launchDemand.readyAt = some (p.now + p.conf.launchStartTimeout)

/-- **The launch goes on** when somebody asks. -/
def JoinsLaunch (p q : Path) : Prop :=
  q.log = p.log ∧ q.launcher = p.launcher ∧ q.launchDemand = p.launchDemand

/-- The path for which somebody asks: the launch is started unless it was started before. -/
def launched (p : Path) (query : String) : Path :=
  if p.launchDemand.isIdle then p.startLaunch query else p

section Messages

variable {p : Path} (h : p.LaunchesOnDemand)

include h

lemma awaken?_of_launches (query : String) : p.awaken? query = some (p.launched query) := by
  simp [awaken?, h.noSource, h.onDemand, launched]

lemma describe_of_launches (request : Nat) (query : String) :
    p.describe request query =
      if p.isReady then p.answer request (.stream p.streamId)
      else { p.launched query with
        heldDescribes := (p.launched query).heldDescribes ++ [{ request }] } := by
  unfold describe
  rw [if_neg h.source_ne_redirect, awaken?_of_launches h]

lemma addReader_of_launches (request : Nat) (client : Client) (query : String) :
    p.addReader request client query =
      if p.isReady then p.attach request client
      else { p.launched query with
        heldReaders := (p.launched query).heldReaders ++ [{ request, client }] } := by
  unfold addReader
  rw [awaken?_of_launches h]

/-- Asking for a path on which nobody publishes starts the launch or lets it go on. -/
lemma LaunchesOnDemand.launched (hr : p.isReady = false) (query : String) :
    (p.launched query).LaunchesOnDemand ∧ (p.launched query).isReady = false ∧
      (p.launched query).ended = p.ended ∧
      (p.launched query).heldDescribes = p.heldDescribes ∧
      (p.launched query).heldReaders = p.heldReaders ∧
      (p.launched query).launchDemand.isUp = p.launchDemand.isUp ∧
      (p.launched query).launchDemand.isIdle = false ∧
      (p.StartsLaunch (p.launched query) query ∨ p.JoinsLaunch (p.launched query)) := by
  unfold Path.launched
  split
  · next hi =>
    have hi : p.launchDemand.phase = .idle := by simpa [OnDemand.isIdle] using hi
    refine ⟨h.startLaunch hr hi query, ?_⟩
    rw [startLaunch_eq]
    exact ⟨hr, rfl, rfl, rfl, by simp [OnDemand.isUp, hi, OnDemand.begin], rfl,
      .inl ⟨rfl, rfl, rfl⟩⟩
  · next hi => exact ⟨h, hr, rfl, rfl, rfl, rfl, by simpa using hi, .inr ⟨rfl, rfl, rfl⟩⟩

/-- **Holding** further requests on a path for which somebody asks. -/
lemma hold_launchMove (he : p.ended = false) (hr : p.isReady = false) {s : PathStep}
    (hs : ¬ p.ForgetsLaunch s) (query : String) (ds : List HeldDescribe) (rs : List HeldReader) :
    LaunchMove p s { p.launched query with
      heldDescribes := (p.launched query).heldDescribes ++ ds
      heldReaders := (p.launched query).heldReaders ++ rs } := by
  obtain ⟨ho, hr', he', hds, hrs, hup, hidle, hasks⟩ := h.launched hr query
  refine .of_phases (he'.trans he) (ho.hold hr' _ _) (fun hL => iff_of_true (fun _ => ?_) hs)
    fun n hn _ hd => .inl ⟨?_, ?_⟩
  · refine ⟨hup.trans (h.awaitsLaunch_iff.1 hL hr).1, fun hi => ?_⟩
    simp [show (p.launched query).launchDemand.isIdle = true from hi] at hidle
  · exact mem_waiting_of_append ds rs (by rw [hds]) (by rw [hrs]) hn
  · have hstarting : p.launchDemand.isIdle = false := by
      simp [OnDemand.isIdle, h.timed.readyAt_isSome.1 hd]
    simp [Path.launched, hstarting]

/-- **Asking for the stream.** -/
lemma describe_launchMove (he : p.ended = false) (request : Nat) (query : String) :
    LaunchMove p (.message (.describe request query)) (p.describe request query) := by
  have hs : ¬ p.ForgetsLaunch (.message (.describe request query)) := not_false
  rw [describe_of_launches h]
  split
  · exact .of_log hs he h _
  · next hr =>
    have hm := hold_launchMove h he (by simpa using hr) hs query [{ request }] []
    simpa using hm

/-- **Asking to read.** -/
lemma addReader_launchMove (he : p.ended = false) (request : Nat) (client : Client)
    (query : String) :
    LaunchMove p (.message (.addReader request client query))
      (p.addReader request client query) := by
  have hs : ¬ p.ForgetsLaunch (.message (.addReader request client query)) := not_false
  rw [addReader_of_launches h]
  split
  · next hr =>
    obtain ⟨cs, a, -, heq⟩ := p.attach_eq hr request client
    rw [heq]
    exact .of_ready hs he ((h.takeIn cs).log _) hr (by simp [waiting_eq_nil (h.ready hr).2])
  · next hr =>
    have hm := hold_launchMove h he (by simpa using hr) hs query [] [{ request, client }]
    simpa using hm

/-- **Leaving** only arms the timer that ends the activation. -/
lemma removeReader_launchMove (he : p.ended = false) (client : Client) :
    LaunchMove p (.message (.removeReader client)) (p.removeReader client) := by
  have ho := h.removeReader client
  rw [removeReader_eq] at ho ⊢
  refine .of_same h not_false he rfl ho rfl rfl ?_ ?_ ?_ fun _ hn _ => hn
  · dsimp only
    split <;> simp
  · dsimp only
    split <;> simp
  · dsimp only
    split <;> simp

/-- **Giving up** leaves the request in its place. -/
lemma abandon_launchMove (he : p.ended = false) (request : Nat) :
    LaunchMove p (.message (.abandon request)) (p.abandon request) := by
  have hheld : (p.abandon request).holdsRequests = p.holdsRequests := by
    simp [holdsRequests, abandon]
  refine .of_same h not_false he rfl ?_ hheld rfl rfl rfl rfl ?_
  · exact ⟨h.onDemand, h.source, h.publishers, h.published, h.timed,
      fun hready => ⟨(h.ready hready).1, hheld.trans (h.ready hready).2⟩⟩
  · intro n hn hne
    exact mem_waiting_abandon (fun heq => hne (by rw [heq])) hn

/-! ## Publishers -/

/-- **The publisher leaves**: a path of a pattern ends with it, and any other one has forgotten its
launch unless that was idle. -/
lemma removePublisher_launchStep (he : p.ended = false) (client : Client) :
    LaunchStep p (.message (.removePublisher client))
      (p.removePublisher client).closeIfUnused := by
  unfold removePublisher
  split
  · next hc =>
    have hready : p.isReady = true := by rw [h.published, hc]; rfl
    obtain ⟨hstarting, hnone⟩ := h.ready hready
    obtain ⟨ho, hr, hend, hdem, hconf, hheld, -⟩ := h.vacated
    have hforgets : p.ForgetsLaunch (.message (.removePublisher client)) ↔
        p.launchDemand.isIdle = false ∧ p.conf.hasPattern = false := by
      simp [ForgetsLaunch, hc]
    change LaunchStep p _ p.vacated.closeIfUnused
    cases hpat : p.conf.hasPattern with
    | true =>
      have hunused : p.vacated.isUnused = true := by
        obtain ⟨s, hs⟩ := Option.isSome_iff_exists.1 hready
        have hempty : p.heldDescribes = [] ∧ p.heldReaders = [] := by
          simpa [holdsRequests] using hnone
        simp [isUnused, vacated, becomeUnready_eq p hs, hpat, hempty]
      rw [closeIfUnused, if_pos hunused]
      exact .of_over (by simp [hforgets, hpat]) (isOver_shutdown _)
        fun n hn => by simp [waiting_eq_nil hnone] at hn
    | false =>
      have hup : p.launchDemand.isUp = false ↔ p.launchDemand.isIdle = true := by
        simp only [OnDemand.isUp, OnDemand.isIdle]
        cases hp : p.launchDemand.phase <;> simp_all
      rw [closeIfUnused_of_fixed (hconf ▸ hpat)]
      refine (LaunchMove.of_phases (hend.trans he) ho (fun _ => ?_) fun n hn => ?_).toLaunchStep
      · rw [hforgets, hr, hdem, hup, hheld, hnone]
        simp [hpat]
      · simp [waiting_eq_nil hnone] at hn
  · next hc =>
    have hs : ¬ p.ForgetsLaunch (.message (.removePublisher client)) := fun hf => hc hf.1
    exact (LaunchMove.of_log hs he h p.log).closeIfUnused hs

/-- **A client wants to publish**: it is refused, or it ends all waiting. -/
lemma addPublisher_launchStep (he : p.ended = false) (request : Nat) (client : Client)
    (d : MediaDescription) (rtp : Bool) (query : String) (expected : Option Conf) :
    LaunchStep p (.message (.addPublisher request client d rtp query expected))
      (p.receive (.addPublisher request client d rtp query expected)) := by
  have hs : ¬ p.ForgetsLaunch (.message (.addPublisher request client d rtp query expected)) :=
    not_false
  simp only [receive, he, addPublisher_eq]
  cases p.publisherFault? expected d with
  | some e =>
    have hm := LaunchMove.of_log hs he h (p.log ++ [.answered request (.refused e)])
    exact hm.closeIfUnused hs
  | none =>
    obtain ⟨ho, hlive, hwait⟩ := h.evicted he
    obtain ⟨hq, hend, hready, -, hanswered⟩ := ho.taken hlive client query (p.announced d rtp) _
    refine (LaunchMove.of_ready hs hend hq hready fun n hn => ?_).toLaunchStep
    exact (hanswered n (hwait ▸ hn)).of_later p.proceeds_evictPublisher.grows

/-! ## Time -/

/-- **The deadline of a launch that starts**: everybody who waits is refused. -/
lemma failLaunch_launchStep (he : p.ended = false) : LaunchStep p .expire p.failLaunch := by
  have ho := (h.failHeld (.sourceTimedOut p.name)).stopLaunch "timed out"
  have hanswered : ∀ n ∈ p.waiting,
      p.HasAnswered ((p.failHeld (.sourceTimedOut p.name)).stopLaunch "timed out") n :=
    fun n hn => (p.hasAnswered_failHeld _ hn).mono (proceeds_stopLaunch _ _).grows
  refine LaunchMove.closeIfUnused ?_ not_false
  rw [failHeld_eq, stopLaunch_eq] at ho hanswered ⊢
  exact .of_phases he ho (fun _ => iff_of_true (fun _ => ⟨rfl, fun _ => rfl⟩) not_false)
    fun n hn _ _ => .inr (hanswered n hn)

/-- **The deadline of a launch whose publisher nobody reads**: the launch is idle again. -/
lemma retireLaunch_launchMove (he : p.ended = false) (hc : p.launchDemand.phase = .closing) :
    LaunchMove p .expire p.retireLaunch := by
  have ho := h.stopLaunch "not needed by anyone"
  have hnone := h.timed.readyAt_eq_none (by simp [hc])
  unfold retireLaunch
  rw [stopLaunch_eq] at ho ⊢
  refine .of_phases he ho (fun hL => iff_of_true (fun hr => ?_) not_false) fun n hn _ hd => ?_
  · have := (h.awaitsLaunch_iff.1 hL hr).1
    simp [OnDemand.isUp, hc] at this
  · simp [hnone] at hd

/-- **A timer goes off**: only those of the launch can. -/
lemma expire_launchStep (he : p.ended = false) (hdue : ∃ d ∈ p.deadline?, d ≤ p.now) :
    LaunchStep p .expire p.expire := by
  obtain ⟨d, hd, hle⟩ := hdue
  have hmem : d ∈ p.launchDemand.deadlines := by
    simpa [h.source] using (mem_deadlines_of_deadline? hd).2
  have hidle : p.isDue p.sourceDemand.readyAt = false ∧ p.isDue p.sourceDemand.closeAt = false := by
    simp [h.source, isDue]
  unfold expire
  simp only [hidle, Bool.false_eq_true, ↓reduceIte]
  split
  · exact failLaunch_launchStep h he
  · split
    · next hretire =>
      refine (retireLaunch_launchMove h he (h.timed.closeAt_isSome.1 ?_)).toLaunchStep
      cases hr : p.launchDemand.closeAt <;> simp_all [isDue]
    · next hfail hretire =>
      exfalso
      rcases List.mem_append.1 hmem with hd | hd
      · exact hfail (by simp_all [isDue])
      · exact hretire (by simp_all [isDue])

/-- **Time passes** up to the next deadline at most. -/
lemma pass_launchMove (he : p.ended = false) {time : Nat} (hle : ∀ d ∈ p.deadline?, time ≤ d) :
    LaunchMove p (.pass time) (p.runTo time) := by
  refine .of_same h not_false he rfl ?_ rfl rfl rfl rfl rfl fun _ hn _ => hn
  refine ⟨h.onDemand, h.source, h.publishers, h.published, ?_, h.ready⟩
  rw [now_runTo]
  exact h.timed.pass fun d hd => le_of_le_deadline? he hle (List.mem_append_right _ hd)

/-! ## All steps -/

/-- **A new configuration** that a running path can absorb changes nothing here. -/
lemma reload_launchMove (he : p.ended = false) {c : Conf} (hc : p.conf.canHotReload c = true) :
    LaunchMove p (.reload c) (p.reload c) := by
  have hsource : p.sourceUnder c = p.source := by
    unfold sourceUnder
    rw [h.publishers]
    cases p.publisher? <;> rfl
  rw [reload_eq, hsource]
  refine .of_same h not_false he rfl ?_ rfl rfl rfl rfl rfl fun _ hn _ => hn
  exact ⟨(Conf.hasOnDemandLaunch_of_canHotReload hc).trans h.onDemand, h.source, h.publishers,
    h.published, h.timed, h.ready⟩

/-- **A message** to a live path; sources that the path runs itself do not report to it. -/
lemma receive_launchStep (he : p.ended = false) (m : PathMessage)
    (hm : m.isReport = true → p.conf.hasStaticSource = true) :
    LaunchStep p (.message m) (p.receive m) := by
  have hnone : p.conf.hasStaticSource = false := by
    have hs : p.conf.source = .publisher := by simpa using (Bool.and_eq_true_iff.1 h.onDemand).1
    simp [Conf.hasStaticSource, SourceKind.isStatic, hs]
  cases m with
  | addPublisher request client d rtp query expected =>
    exact addPublisher_launchStep h he request client d rtp query expected
  | describe request query =>
    simpa [receive, he] using (describe_launchMove h he request query).closeIfUnused not_false
  | removePublisher client => simpa [receive, he] using removePublisher_launchStep h he client
  | addReader request client query =>
    simpa [receive, he] using
      (addReader_launchMove h he request client query).closeIfUnused not_false
  | removeReader client =>
    simpa [receive, he] using (removeReader_launchMove h he client).toLaunchStep
  | abandon request => simpa [receive, he] using (abandon_launchMove h he request).toLaunchStep
  | sourceReady request d rtp => simp [hm rfl] at hnone
  | sourceNotReady => simp [hm rfl] at hnone

end Messages

/-- **Every possible step** keeps the order, and breaks the law only if it forgets the launch. -/
theorem LaunchOrder.step {p : Path} (h : p.LaunchOrder) {s : PathStep} (hs : p.Permits s) :
    LaunchStep p s (p.step s) := by
  cases he : p.ended with
  | true =>
    have hgone := h.gone he
    have hforgets : ¬ p.ForgetsLaunch s := by
      unfold ForgetsLaunch
      split <;> simp [publisher?, hgone.source]
    refine .of_over hforgets ?_ fun n hn => by simp [waiting_eq_nil hgone.held] at hn
    exact hgone.step hs
  | false =>
    have ho := h.live he
    cases s with
    | message m => exact receive_launchStep ho he m hs
    | reload c => exact (reload_launchMove ho he hs.2).toLaunchStep
    | pass time => exact (pass_launchMove ho he hs.2).toLaunchStep
    | expire => exact expire_launchStep ho he hs
    | destroy =>
      have heq : p.step .destroy = { p with ended := true }.shutdown := by
        simp [Path.step, destroy, he]
      rw [heq]
      refine .of_over not_false (isOver_shutdown _) fun n hn _ _ => .inr ?_
      exact hasAnswered_shutdown { p with ended := true } hn

/-! ## Whole runs -/

/-- **A new path** is in order, and nothing is held. -/
lemma launchOrder_create {found : ConfSet.Found} (hc : found.conf.hasOnDemandLaunch = true)
    (settings : PathSettings) (now id : Nat) (name : String) :
    (create settings now id name found).LaunchOrder ∧
      (create settings now id name found).AwaitsLaunch := by
  have hs : found.conf.source = .publisher := by simpa using (Bool.and_eq_true_iff.1 hc).1
  have htake (p : Path) (hp : p.conf.source = .publisher) : p.takeSource = p := by
    simp [takeSource, hp]
  unfold create
  dsimp only
  rw [htake _ hs]
  refine ⟨⟨fun _ => ?_, fun hgone => by simp [launchInit, emit] at hgone⟩, fun _ => .inl ⟨rfl, rfl⟩⟩
  exact ⟨hc, rfl, rfl, rfl, OnDemand.timed_idle _, fun hready => by
    simp [launchInit, emit, isReady] at hready⟩

/-- **Deadlines of launches**: whoever waits for a launch that starts is answered at its deadline.
-/
lemma LaunchOrder.answeredBy {p : Path} (h : p.LaunchOrder) (hL : p.AwaitsLaunch)
    (hh : p.holdsRequests = true) : ∃ d, p.launchDemand.readyAt = some d ∧ p.now ≤ d ∧
      p.SettledBy d ∧ p.AnsweredBy (fun _ _ => False) d := by
  have he : p.ended = false := by
    by_contra hend
    simp [(h.gone (by simpa using hend)).held] at hh
  have ho := h.live he
  have hstream : p.stream = none := by
    by_contra hs
    have hready : p.isReady = true := by simpa [isReady, Option.isSome_iff_ne_none] using hs
    simp [(ho.ready hready).2] at hh
  have hphase : p.launchDemand.phase = .starting := by
    rcases hL hstream with ⟨-, hnone⟩ | ⟨hphase, -⟩
    · simp [hnone] at hh
    · exact hphase
  obtain ⟨d, hd, hle, hdeadlines⟩ := ho.timed.deadlines_of_starting hphase
  refine ⟨d, hd, hle, settledBy_launch he hdeadlines hd ho.source, ?_⟩
  refine answeredBy_of_step (I := LaunchOrder) (fun p => p.launchDemand.readyAt)
    (fun p s h hs => (h.step hs).order) (fun p s h hs _ => (h.step hs).serves) ?_ h hd
  intro q hq d hd
  cases hend : q.ended with
  | true => simp [(hq.gone hend).launch] at hd
  | false => exact (hq.live hend).timed.le_readyAt d hd

/-- **Asking** for a path on which nobody publishes. -/
lemma LaunchOrder.asks {p : Path} (h : p.LaunchOrder) (he : p.ended = false)
    (hr : p.isReady = false) {m : PathMessage} {request : Nat} {query : String}
    (hm : m.asks? = some (request, query)) :
    request ∈ (p.receive m).waiting ∧
      (p.StartsLaunch (p.receive m) query ∨ p.JoinsLaunch (p.receive m)) := by
  have ho := h.live he
  obtain ⟨-, -, -, -, -, -, -, hasks⟩ := ho.launched hr query
  cases m with
  | describe n q =>
    obtain ⟨rfl, rfl⟩ : n = request ∧ q = query := by simpa [PathMessage.asks?] using hm
    have heq : p.receive (.describe n q) = { p.launched q with
        heldDescribes := (p.launched q).heldDescribes ++ [{ request := n }] } := by
      simp only [receive, he, describe_of_launches ho, hr]
      exact closeIfUnused_of_held (by simp [holdsRequests])
    rw [heq]
    exact ⟨by simp [waiting], hasks⟩
  | addReader n client q =>
    obtain ⟨rfl, rfl⟩ : n = request ∧ q = query := by simpa [PathMessage.asks?] using hm
    have heq : p.receive (.addReader n client q) = { p.launched q with
        heldReaders := (p.launched q).heldReaders ++ [{ request := n, client }] } := by
      simp only [receive, he, addReader_of_launches ho, hr]
      exact closeIfUnused_of_held (by simp [holdsRequests])
    rw [heq]
    exact ⟨by simp [waiting], hasks⟩
  | _ => cases hm

/-- **Waiting for a launch along a run.** On a path that launches a command on demand, while nobody
publishes the launch is idle with nothing held or starts with a deadline, all along a run, exactly
if no step of the run forgets the launch. Wherever this law holds, held requests are answered at
the deadline, and when somebody asks for a live path on which nobody publishes, this starts the
launch or joins it, and is answered at the deadline.

**Proof sketch.** The order of the path is kept by every possible step, and within it a step that
does not forget the launch keeps the law. Held requests keep their deadline or are answered,
whatever happens, so that the deadline bounds the waiting. -/
theorem awaitsLaunch_run {found : ConfSet.Found} (hc : found.conf.hasOnDemandLaunch = true)
    (settings : PathSettings) (now id : Nat) (name : String) {ss : List PathStep}
    (hs : (create settings now id name found).PermitsAll ss) :
    ((∀ p ∈ (create settings now id name found).visited ss, p.AwaitsLaunch) ↔
      ∀ m ∈ (create settings now id name found).moves ss, ¬ m.1.ForgetsLaunch m.2) ∧
    (∀ p ∈ (create settings now id name found).visited ss, p.AwaitsLaunch →
      p.holdsRequests = true → ∃ d, p.launchDemand.readyAt = some d ∧ p.now ≤ d ∧
        p.SettledBy d ∧ p.AnsweredBy (fun _ _ => False) d) ∧
    (∀ p ∈ (create settings now id name found).visited ss, p.AwaitsLaunch → p.ended = false →
      p.isReady = false → ∀ m request query, m.asks? = some (request, query) →
        request ∈ (p.receive m).waiting ∧
        (p.StartsLaunch (p.receive m) query ∨ p.JoinsLaunch (p.receive m)) ∧
        ∃ d, (p.receive m).launchDemand.readyAt = some d ∧ (p.receive m).now ≤ d ∧
          (p.receive m).SettledBy d ∧ (p.receive m).AnsweredBy (fun _ _ => False) d) := by
  obtain ⟨horder, hlaw⟩ := launchOrder_create hc settings now id name
  have keeps : ∀ p s, LaunchOrder p → p.Permits s → (p.step s).LaunchOrder :=
    fun p s h hs => (h.step hs).order
  refine ⟨?_, fun p hp hL hh => ?_, fun p hp hL he hr m request query hm => ?_⟩
  · exact forall_visited_iff keeps (fun p s h hs hL => (h.step hs).law hL) horder hlaw hs
  · exact (forall_visited keeps horder hs p hp).answeredBy hL hh
  · have ho := forall_visited keeps horder hs p hp
    have hpermits : p.Permits (.message m) := by
      cases m <;> simp_all [Permits, PathMessage.isReport, PathMessage.asks?]
    have hforgets : ¬ p.ForgetsLaunch (.message m) := by
      cases m <;> simp_all [ForgetsLaunch, PathMessage.asks?]
    obtain ⟨hwaits, hasks⟩ := ho.asks he hr hm
    have hstep := ho.step hpermits
    refine ⟨hwaits, hasks, hstep.order.answeredBy ((hstep.law hL).2 hforgets) ?_⟩
    by_contra hnone
    have hempty : (p.receive m).waiting = [] := waiting_eq_nil (eq_false_of_ne_true hnone)
    simp [hempty] at hwaits

/-- A configuration that launches a command on demand. -/
def launchedOnDemand : ConfSet.Found where
  conf := { name := "cam", commands := { onDemand := { line := "launch" } } }
  captures := []

/-- A new path of this configuration. -/
def newLaunched : Path := create {} 0 1 "cam" launchedOnDemand

/-- The first request for a path launches the command, and is answered after ten seconds at the
latest. -/
theorem answeredBy_newLaunched :
    launchedOnDemand.conf.hasOnDemandLaunch = true ∧ newLaunched.PermitsAll [] ∧
      newLaunched.AwaitsLaunch ∧ 0 ∈ (newLaunched.receive (.describe 0 "q")).waiting ∧
      newLaunched.StartsLaunch (newLaunched.receive (.describe 0 "q")) "q" ∧
      (newLaunched.receive (.describe 0 "q")).AnsweredBy (fun _ _ => False) 10000 := by
  have hlaunch : launchedOnDemand.conf.hasOnDemandLaunch = true := by decide
  have hlaw : newLaunched.AwaitsLaunch := by decide
  obtain ⟨-, -, hasked⟩ := awaitsLaunch_run hlaunch {} 0 1 "cam"
    (show newLaunched.PermitsAll [] from trivial)
  obtain ⟨hwaits, hasks, d, hd, -, -, hby⟩ := hasked newLaunched List.mem_cons_self hlaw
    (by decide) (by decide) (.describe 0 "q") 0 "q" rfl
  have hnew : ¬ newLaunched.JoinsLaunch (newLaunched.receive (.describe 0 "q")) := by
    rintro ⟨hlog, -, -⟩
    exact absurd hlog (by decide)
  obtain rfl : 10000 = d := Option.some.inj ((by decide : _ = some 10000).symm.trans hd)
  exact ⟨hlaunch, trivial, hlaw, hwaits, hasks.resolve_right hnew, hby⟩

/-- **Waiting in vain**: after a publisher for whom the command was launched has come and gone, the
next request neither launches the command nor joins a launch that starts. -/
theorem not_awaitsLaunch_newLaunched :
    newLaunched.PermitsAll [.message (.describe 0 "q"),
        .message (.addPublisher 1 ⟨0, ⟨"publisher", "a"⟩⟩ ⟨[⟨.video, "H264"⟩]⟩ false "" none),
        .message (.removePublisher ⟨0, ⟨"publisher", "a"⟩⟩), .message (.describe 2 "q")] ∧
      ∃ p ∈ newLaunched.visited [.message (.describe 0 "q"),
        .message (.addPublisher 1 ⟨0, ⟨"publisher", "a"⟩⟩ ⟨[⟨.video, "H264"⟩]⟩ false "" none),
        .message (.removePublisher ⟨0, ⟨"publisher", "a"⟩⟩), .message (.describe 2 "q")],
        p.stream = none ∧ p.waiting = [2] ∧ p.launchDemand.phase = .closing ∧
          ¬ p.AwaitsLaunch := by
  decide

end Path

end LivePaths
