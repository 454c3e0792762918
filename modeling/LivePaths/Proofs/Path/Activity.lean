import LivePaths.Proofs.Path.Absorption
import LivePaths.Proofs.Path.Gathering
import LivePaths.Proofs.Path.Reports

set_option relaxedAutoImplicit false
set_option autoImplicit false

/-!
# What becomes of what runs on demand

Whatever happens to a live path moves its activity in one of a few ways: it is started by the first
who asks, follows the readers who come and leave, is found ready with a new stream, outlives a
stream that is lost, is stopped, or stays what it is. Each of these moves says what becomes of the
stream and of the readers at the same time, so that a property of activities has to be shown for the
moves only.

## Main definitions

* `Path.serial?`, `Path.closeAfter` — which stream the path carries, and how long it is kept running
  without readers.
* `Path.Opens`, `Path.Forsakes` — acts that bring a stream, and acts that take it away but leave on
  what runs on demand.
* `Path.ActivityMove` — the moves.

## Main results

* `Path.InOrder.activity_paced` — the activity is in pace with the path.
* `Path.Reached.activityMove` — every act that is possible in a live path moves its activity so.
* `Path.ActivityMove.starting_cases`, `Path.ActivityMove.closing_cases` — since when something
  starts or is closing.
* `Path.Lived.holds_of_starting` — what starts does so for somebody who waits.
-/

namespace LivePaths

namespace OnDemand

variable {o : OnDemand}

/-- Only what is in use is stopped for want of readers. -/
lemma readersGone_of_ne (h : o.phase ≠ .inUse) (d : Nat) : o.readersGone d = o := if_neg h

/-- What is closing is in use again when a reader comes. -/
lemma readerAttached_of_closing (h : o.phase = .closing) :
    o.readerAttached = { o with phase := .inUse, closeAt := none } := if_pos h

/-- Readers who come or leave do not concern what nobody has asked for. -/
@[simp]
lemma readerAttached_idle : ({} : OnDemand).readerAttached = {} := rfl

@[simp]
lemma readersGone_idle (d : Nat) : ({} : OnDemand).readersGone d = {} := rfl

/-- Nothing is closing any more after a reader has come. -/
lemma phase_readerAttached_ne (o : OnDemand) : o.readerAttached.phase ≠ .closing := by
  unfold readerAttached
  split
  · simp
  · assumption

end OnDemand

namespace Path

variable {p q r : Path} {a : PathAct}

/-! ## The activity of a path -/

/-- How long what runs on demand is kept running while nobody reads. -/
def closeAfter (p : Path) : Nat :=
  if p.conf.hasOnDemandSource then p.conf.sourceCloseAfter else p.conf.launchCloseAfter

/-- **Which stream** of the path it carries, if it is ready. -/
def serial? (p : Path) : Option Nat := p.stream.map fun _ => p.pastStreams.length

lemma isReady_of_serial? (h : q.serial? = p.serial?) : q.isReady = p.isReady := by
  simpa [serial?, isReady] using congrArg Option.isSome h

/-- Paths with the same configuration and the same activations have the same activity. -/
lemma activity_congr (hconf : q.conf = p.conf) (hsource : q.sourceDemand = p.sourceDemand)
    (hlaunch : q.launchDemand = p.launchDemand) : q.activity = p.activity := by
  simp only [activity, hconf, hsource, hlaunch]

/-- The loss of a stream alone stops nothing. -/
lemma activity_becomeUnready (p : Path) : p.becomeUnready.activity = p.activity :=
  activity_congr p.sources_becomeUnready.1 p.demands_becomeUnready.1 p.demands_becomeUnready.2

lemma isReady_becomeUnready (p : Path) : p.becomeUnready.isReady = false := by
  simp [isReady, p.stream_becomeUnready]

namespace InOrder

variable (h : p.InOrder)

include h

/-- **The activity is in pace** with the path. -/
lemma activity_paced : p.activity.Paced p.now p.hasOnDemand p.isReady p.readers := by
  unfold activity hasOnDemand
  cases hs : p.conf.hasOnDemandSource with
  | true => simpa [hs] using h.paced.source
  | false => simpa using h.paced.launch

/-- Of the two activations one is the activity, and the other one is idle. -/
lemma demands_eq :
    p.sourceDemand = (if p.conf.hasOnDemandSource then p.activity else {}) ∧
      p.launchDemand = if p.conf.hasOnDemandSource then {} else p.activity := by
  unfold activity
  cases hs : p.conf.hasOnDemandSource with
  | true => exact ⟨rfl, h.launch_eq_idle hs⟩
  | false => exact ⟨h.paced.source.idle hs, rfl⟩

/-- On a path where nothing runs on demand the activity is idle. -/
lemma activity_eq_idle (hon : p.hasOnDemand = false) : p.activity = {} := h.activity_paced.idle hon

/-- An activation that is not idle is the activity. -/
lemma activity_phase_of_demands {phase : DemandPhase} (hphase : phase ≠ .idle)
    (hdemand : p.sourceDemand.phase = phase ∨ p.launchDemand.phase = phase) :
    p.activity.phase = phase := by
  obtain ⟨hs, hl⟩ := h.demands_eq
  rw [hs, hl] at hdemand
  cases hc : p.conf.hasOnDemandSource with
  | true => simpa [hc, hphase.symm] using hdemand
  | false => simpa [hc, hphase.symm] using hdemand

/-- What is in use on a ready path is read. -/
lemma readers_ne_nil (hready : p.isReady = true) (hphase : p.activity.phase = .inUse) :
    p.readers ≠ [] := by
  rcases h.activity_paced.fits hready with hp | ⟨-, hp⟩ | ⟨hp, -⟩
  · simp [hphase] at hp
  · exact hp
  · simp [hphase] at hp

/-- Nobody reads from what is closing on a ready path. -/
lemma readers_eq_nil_of_closing (hready : p.isReady = true)
    (hphase : p.activity.phase = .closing) : p.readers = [] := by
  rcases h.activity_paced.fits hready with hp | ⟨hp, -⟩ | ⟨-, hp⟩
  · simp [hphase] at hp
  · simp [hphase] at hp
  · exact hp

end InOrder

/-- Taking readers in keeps the activity from being stopped. -/
lemma activity_takeIn (hidle : p.hasOnDemand = false → p.activity = {}) (cs : List Client) :
    (p.takeIn cs).activity = if cs.isEmpty then p.activity else p.activity.readerAttached := by
  unfold activity at hidle ⊢
  unfold takeIn
  cases hs : p.conf.hasOnDemandSource with
  | true => cases cs <;> simp
  | false =>
    cases hl : p.conf.hasOnDemandLaunch with
    | true => cases cs <;> simp
    | false =>
      have hnone : p.launchDemand = {} := by simpa [hasOnDemand, hs, hl] using hidle
      cases cs <;> simp [hnone]

/-- When the last reader has gone, what is in use is going to be stopped. -/
lemma activity_noteReadersGone (hidle : p.hasOnDemand = false → p.activity = {}) :
    p.noteReadersGone.activity = p.activity.readersGone (p.now + p.closeAfter) := by
  unfold activity at hidle ⊢
  unfold noteReadersGone closeAfter
  cases hs : p.conf.hasOnDemandSource with
  | true => simp
  | false =>
    cases hl : p.conf.hasOnDemandLaunch with
    | true => simp
    | false =>
      have hnone : p.launchDemand = {} := by simpa [hasOnDemand, hs, hl] using hidle
      simp [hnone]

/-- Whoever leaves may be the last reader. -/
lemma activity_removeReader (hidle : p.hasOnDemand = false → p.activity = {})
    (client : Client) :
    (p.removeReader client).activity =
      if (p.readers.filter (· ≠ client)).isEmpty then
        p.activity.readersGone (p.now + p.closeAfter)
      else p.activity := by
  unfold removeReader
  dsimp only
  split
  · exact activity_noteReadersGone hidle
  · rfl

/-! ## Moves -/

/-- **An act that brings a stream**: a publisher is taken, or the source announces something. -/
def Opens (p : Path) : PathAct → Prop
  | .step (.message (.addPublisher _ _ d _ _ expected)) => p.publisherFault? expected d = none
  | .step (.message (.sourceReady _ d _)) => d.isEmpty = false
  | _ => False

/-- **An act that forsakes what runs on demand**: the stream goes, because its publisher leaves or
the source announces nothing, but nothing is stopped. -/
def Forsakes (p : Path) : PathAct → Prop
  | .step (.message (.removePublisher client)) => p.isReady = true ∧ p.publisher? = some client
  | .step (.message (.sourceReady _ d _)) => p.isReady = true ∧ d.isEmpty = true
  | _ => False

/-- Only a ready path can lose its stream. -/
lemma Forsakes.isReady (h : p.Forsakes a) : p.isReady = true := by
  unfold Forsakes at h
  split at h
  · exact h.1
  · exact h.1
  · exact h.elim

/-- **Moves of the activity** of a live path by an act, with what becomes of its stream and of its
readers. -/
inductive ActivityMove (p : Path) (a : PathAct) (q : Path) : Prop where
  | ends (hended : q.ended = true)
    (hcause : p.isUnused = true ∨ p.Forsakes a ∨ a = .step .expire ∨ a = .step .destroy)
  | stays (hlive : q.ended = false) (hactivity : q.activity = p.activity)
    (hserial : q.serial? = p.serial?) (hreaders : q.readers = p.readers)
    (hheld : p.holdsRequests = true → q.holdsRequests = true)
  /-- Somebody is the first to ask. -/
  | starts (hlive : q.ended = false) (hready : p.isReady = false)
    (hidle : p.activity.phase = .idle)
    (hactivity : q.activity = { phase := .starting, readyAt := some (p.now + p.startTimeout) })
    (hserial : q.serial? = p.serial?) (hreaders : q.readers = p.readers)
    (hheld : q.holdsRequests = true)
  /-- A reader is attached. -/
  | joins (n : Nat) (client : Client) (query : String)
    (ha : a = .step (.message (.addReader n client query))) (hlive : q.ended = false)
    (hready : p.isReady = true) (hactivity : q.activity = p.activity.readerAttached)
    (hserial : q.serial? = p.serial?) (hreaders : q.readers = p.readers ++ [client])
  /-- A reader leaves. -/
  | leaves (client : Client) (ha : a = .step (.message (.removeReader client)))
    (hlive : q.ended = false)
    (hactivity : q.activity =
      if q.readers.isEmpty then p.activity.readersGone (p.now + p.closeAfter) else p.activity)
    (hserial : q.serial? = p.serial?) (hreaders : q.readers = p.readers.filter (· ≠ client))
    (hheld : q.holdsRequests = p.holdsRequests)
  /-- The path carries a new stream. -/
  | opens (ha : p.Opens a) (hlive : q.ended = false) (hready : q.isReady = true)
    (hserial : q.serial? ≠ p.serial?)
    (hactivity : q.activity = {} ∨
      q.readers = [] ∧
        q.activity = { phase := .closing, closeAt := some (p.now + p.closeAfter) } ∨
      q.readers ≠ [] ∧ q.activity = { phase := .inUse })
  /-- The stream is lost, and what runs on demand runs on. -/
  | forsakes (ha : p.Forsakes a) (hlive : q.ended = false) (hready : q.isReady = false)
    (hactivity : q.activity = p.activity) (hreaders : q.readers = [])
  /-- What runs on demand is idle after the act. -/
  | stops (ha : a = .step (.message .sourceNotReady) ∨ a = .step .expire) (hlive : q.ended = false)
    (hactivity : q.activity = {})

namespace ActivityMove

/-- An answer moves nothing, after which an unused path may end. -/
lemma answer_closeIfUnused (hlive : p.ended = false) (n : Nat) (answer : Answer) :
    p.ActivityMove a (p.answer n answer).closeIfUnused := by
  unfold closeIfUnused
  split
  · next hunused => exact .ends (isOver_shutdown _).ended (.inl hunused)
  · exact .stays hlive rfl rfl rfl fun hheld => hheld

/-- An unused path ends by itself. -/
lemma closeIfUnused (hlive : p.ended = false) : p.ActivityMove a p.closeIfUnused := by
  unfold Path.closeIfUnused
  split
  · next hunused => exact .ends (isOver_shutdown _).ended (.inl hunused)
  · exact .stays hlive rfl rfl rfl fun hheld => hheld

end ActivityMove

/-! ### Asking -/

/-- Nothing is started where nothing runs on demand. -/
lemma awaken?_eq_none (hon : p.hasOnDemand = false) (query : String) :
    p.awaken? query = none := by
  obtain ⟨hs, hl⟩ := Bool.or_eq_false_iff.1 hon
  simp [awaken?, hs, hl]

section Asking

variable (h : p.Reached) (hlive : p.ended = false)

include h hlive

/-- **Asking for a path that is not ready** where something runs on demand. -/
lemma activityMove_asking (hready : p.isReady = false) (hon : p.hasOnDemand = true)
    {m : PathMessage} {n : Nat} {query : String} (hm : m.asks? = some (n, query)) :
    p.ActivityMove a (p.receive m) := by
  have ho := h.orderly.live hlive
  have hheld (r : Path) : (r.join (.message m)).holdsRequests = true := by
    cases m with
    | describe | addReader => simp [join, holdsRequests, PathStep.describer?, PathStep.reader?]
    | _ => cases hm
  rw [receive_asking hlive hready hon (ho.source_ne_redirect hon) hm]
  split
  · next hidle =>
    refine .starts ?_ hready (by simpa [OnDemand.isIdle] using hidle)
      (ho.activity_activated hidle query) ?_ ?_ (hheld _)
    all_goals rw [ho.activated_eq query]
    · exact hlive
    · rfl
    · rfl
  · exact .stays hlive rfl rfl rfl fun _ => hheld p

/-- **Asking for the stream.** -/
lemma activityMove_describe (n : Nat) (query : String) :
    p.ActivityMove a (p.receive (.describe n query)) := by
  by_cases hwait : p.isReady = false ∧ p.hasOnDemand = true
  · exact activityMove_asking h hlive hwait.1 hwait.2 (m := .describe n query) rfl
  · have hanswer : ∃ answer, p.describe n query = p.answer n answer := by
      unfold describe
      split
      · exact ⟨_, rfl⟩
      · split
        · exact ⟨_, rfl⟩
        · next hready =>
          have hon : p.hasOnDemand = false := by simpa [hready] using hwait
          rw [awaken?_eq_none hon]
          dsimp only
          split <;> exact ⟨_, rfl⟩
    obtain ⟨answer, heq⟩ := hanswer
    simp only [receive, hlive, heq]
    exact .answer_closeIfUnused hlive n answer

/-- **Asking to read.** -/
lemma activityMove_addReader (n : Nat) (client : Client) (query : String) :
    p.ActivityMove (.step (.message (.addReader n client query)))
      (p.receive (.addReader n client query)) := by
  have ho := h.orderly.live hlive
  cases hready : p.isReady with
  | true =>
    rw [receive_addReader h hlive hready, attach_of_ready hready]
    split
    · exact .stays hlive rfl rfl rfl fun hheld => hheld
    · split
      · exact .stays hlive rfl rfl rfl fun hheld => hheld
      · refine .joins n client query rfl hlive hready ?_ rfl rfl
        exact activity_takeIn ho.activity_eq_idle [client]
  | false =>
    cases hon : p.hasOnDemand with
    | true => exact activityMove_asking h hlive hready hon (m := .addReader n client query) rfl
    | false =>
      have heq : p.addReader n client query =
          p.answer n (.refused (.noStreamAvailable p.name)) := by
        simp [addReader, hready, awaken?_eq_none hon]
      simp only [receive, hlive, heq]
      exact .answer_closeIfUnused hlive n _

/-- **A reader leaves**, or somebody who does not read. -/
lemma activityMove_removeReader (client : Client) :
    p.ActivityMove (.step (.message (.removeReader client)))
      (p.receive (.removeReader client)) := by
  have ho := h.orderly.live hlive
  have hreceive : p.receive (.removeReader client) = p.removeReader client := by
    simp [receive, hlive]
  have hactivity := p.activity_removeReader ho.activity_eq_idle client
  rw [hreceive]
  rw [removeReader_eq] at hactivity ⊢
  exact .leaves client rfl hlive hactivity rfl rfl rfl

end Asking

/-! ### Coming and going of streams -/

/-- The stream that is lost is the last one of the past. -/
lemma pastStreams_becomeUnready (p : Path) : p.becomeUnready.pastStreams =
    p.pastStreams ++ (p.stream.map Stream.close).toList := by
  cases hs : p.stream with
  | none => simp [becomeUnready_of_none p hs]
  | some s => simp [becomeUnready_eq p hs]

/-- Whoever stops publishing without publishing is ignored. -/
lemma receive_removePublisher_stranger (hlive : p.ended = false) {client : Client}
    (hclient : p.publisher? ≠ some client) :
    p.receive (.removePublisher client) = if p.isUnused then p.shutdown else p := by
  simp only [receive, hlive, removePublisher, if_neg hclient, closeIfUnused]
  rfl

/-- Whoever stops publishing takes the stream away, which ends an unused path. -/
lemma receive_removePublisher_publisher (hlive : p.ended = false) {client : Client}
    (hclient : p.publisher? = some client) :
    p.receive (.removePublisher client) = p.vacated.closeIfUnused := by
  simp only [receive, hlive, removePublisher, if_pos hclient]
  rfl

/-- A stream that is carried after the present one is another one. -/
lemma serial?_ne_of_opened {s : Stream} (hstream : r.stream = some s)
    (hpast : r.pastStreams = p.pastStreams ++ (p.stream.map Stream.close).toList) :
    r.serial? ≠ p.serial? := by
  unfold serial?
  rw [hstream, hpast]
  cases p.stream <;> simp

/-- **A path that has become ready** with a new stream while nobody read moves its activity by
serving those who wait. -/
lemma Opens.serve (ha : p.Opens a) (hlive : r.ended = false) {s : Stream}
    (hstream : r.stream = some s)
    (hpast : r.pastStreams = p.pastStreams ++ (p.stream.map Stream.close).toList)
    (hnobody : r.readers = []) (hidle : r.hasOnDemand = false → r.activity = {})
    (hactivity : r.activity = {} ∨
      r.activity = { phase := .closing, closeAt := some (p.now + p.closeAfter) }) (n : Nat) :
    p.ActivityMove a (r.serve n) := by
  have hready : r.isReady = true := by simp [isReady, hstream]
  have hserved := serve_eq hready hnobody n
  have hreaders : (r.serve n).readers = r.seated := by simp [hserved, takeIn, hnobody]
  have htaken : (r.serve n).activity =
      if r.seated.isEmpty then r.activity else r.activity.readerAttached := by
    rw [← activity_takeIn hidle, hserved]
    rfl
  refine .opens ha ?_ ?_ ?_ ?_
  · rw [hserved]
    exact hlive
  · rw [hserved]
    exact hready
  · have hserial : (r.serve n).serial? = r.serial? := by
      rw [hserved]
      rfl
    exact hserial ▸ serial?_ne_of_opened hstream hpast
  · rw [hreaders, htaken]
    rcases hactivity with hr | hr
    · exact .inl (by simp [hr])
    · rw [hr]
      cases hseated : r.seated with
      | nil => exact .inr (.inl ⟨rfl, rfl⟩)
      | cons c cs => exact .inr (.inr ⟨by simp, rfl⟩)

section Streams

variable (h : p.Reached) (hlive : p.ended = false)

include h hlive

/-- **A client wants to publish.** -/
lemma activityMove_addPublisher (n : Nat) (client : Client) (d : MediaDescription) (rtp : Bool)
    (query : String) (expected : Option Conf) :
    p.ActivityMove (.step (.message (.addPublisher n client d rtp query expected)))
      (p.receive (.addPublisher n client d rtp query expected)) := by
  have ho := h.orderly.live hlive
  cases hf : p.publisherFault? expected d with
  | some e =>
    simp only [receive, hlive, addPublisher_eq, hf]
    exact .answer_closeIfUnused hlive n _
  | none =>
    have hk : p.conf.source = .publisher := source_eq_publisher hf
    have hs : p.conf.hasOnDemandSource = false := by
      simp [Conf.hasOnDemandSource, Conf.hasStaticSource, hk, SourceKind.isStatic]
    have hpaced := ho.activity_paced
    have hactivity : (p.accepted client d rtp query).activity =
        if p.hasOnDemand && !p.activity.isIdle then p.activity.ready (p.now + p.closeAfter)
        else p.activity := by
      unfold accepted
      have hnow := (p.takenOver client query).now_becomeReady (p.announced d rtp)
      rw [notePublisherReady_eq, hnow, becomeReady_eq, ho.coherent.takenOver_eq hk]
      simp [activity, hs, hasOnDemand, closeAfter, now, now_launcherAfter]
    obtain ⟨readySince, recording, onNotReady, launcher, launchDemand, haccepted⟩ :=
      ho.coherent.accepted_eq hk client d rtp query
    have hconf : (p.accepted client d rtp query).conf = p.conf := by rw [haccepted]
    have hon : (p.accepted client d rtp query).hasOnDemand = p.hasOnDemand := by
      simp only [hasOnDemand, hconf]
    have hopens : p.Opens (.step (.message (.addPublisher n client d rtp query expected))) := hf
    rw [receive_addPublisher hlive hf]
    refine hopens.serve ?_ (s := p.announced d rtp) ?_ ?_ ?_ (fun hnone => ?_) ?_ n
    · rw [haccepted]
      exact hlive
    · rw [haccepted]
    · rw [haccepted]
    · rw [haccepted]
    · rw [hactivity, hpaced.idle (hon ▸ hnone)]
      simp [OnDemand.isIdle]
    · -- what nobody has asked for stays idle, whoever publishes
      rw [hactivity]
      by_cases hidle : p.activity.phase = .idle
      · simp [hpaced.timed.eq_idle hidle, OnDemand.isIdle]
      · have hbusy : (p.hasOnDemand && !p.activity.isIdle) = true := by
          simp [hpaced.allowed_of_ne hidle, OnDemand.isIdle, hidle]
        rw [if_pos hbusy]
        exact .inr rfl

/-- **The source is ready**, or has nothing to announce. -/
lemma activityMove_sourceReady (hstatic : p.conf.hasStaticSource = true) (n : Nat)
    (d : MediaDescription) (rtp : Bool) :
    p.ActivityMove (.step (.message (.sourceReady n d rtp)))
      (p.receive (.sourceReady n d rtp)) := by
  have ho := h.orderly.live hlive
  have hended : p.becomeUnready.ended = false := p.ended_becomeUnready.trans hlive
  cases hd : d.isEmpty with
  | true =>
    rw [receive_sourceReady_of_isEmpty hlive hd]
    cases hs : p.stream with
    | none =>
      rw [becomeUnready_of_none p hs]
      exact .stays hlive rfl rfl rfl fun hheld => hheld
    | some s =>
      -- the stream is given up before it is found out that there is none to replace it
      exact .forsakes ⟨by simp [isReady, hs], hd⟩ hended p.isReady_becomeUnready
        p.activity_becomeUnready ho.coherent.bare_becomeUnready.readers
  | false =>
    set r := (p.becomeUnready.becomeReady (p.announced d rtp)).noteSourceReady with hr
    have hreceive : p.receive (.sourceReady n d rtp) = r.serve n := by
      simp only [receive, hlive, sourceReady, Stream.open?, hd]
      rfl
    have hpaced := ho.activity_paced
    have hnow : (p.becomeUnready.becomeReady (p.announced d rtp)).now = p.now :=
      (now_becomeReady _ _).trans p.now_becomeUnready
    have hready : r.activity =
        if p.hasOnDemand then p.activity.ready (p.now + p.closeAfter) else p.activity := by
      have hl : p.conf.hasOnDemandLaunch = false := Conf.hasOnDemandLaunch_of_static hstatic
      rw [hr, noteSourceReady_eq, hnow, becomeReady_eq]
      simp only [activity, hasOnDemand, closeAfter, p.sources_becomeUnready.1,
        p.demands_becomeUnready.1, p.demands_becomeUnready.2, hl, Bool.or_false]
      split <;> rfl
    have hconf : r.conf = p.conf := by
      rw [hr, noteSourceReady_eq, becomeReady_eq]
      exact p.sources_becomeUnready.1
    have hon : r.hasOnDemand = p.hasOnDemand := by simp only [hasOnDemand, hconf]
    have hopens : p.Opens (.step (.message (.sourceReady n d rtp))) := hd
    rw [hreceive]
    refine hopens.serve ?_ (s := p.announced d rtp) ?_ ?_ ?_ (fun hnone => ?_) ?_ n
    · rw [hr, noteSourceReady_eq, becomeReady_eq]
      exact hended
    · rw [hr, noteSourceReady_eq, becomeReady_eq]
    · rw [hr, noteSourceReady_eq, becomeReady_eq]
      exact p.pastStreams_becomeUnready
    · rw [hr, noteSourceReady_eq, becomeReady_eq]
      exact ho.coherent.bare_becomeUnready.readers
    · rw [hon] at hnone
      rw [hready, if_neg (by simp [hnone]), hpaced.idle hnone]
    · rw [hready]
      cases honDemand : p.hasOnDemand with
      | false => exact .inl (hpaced.idle honDemand)
      | true => exact .inr rfl

/-- **A client stops publishing**, or somebody who does not publish. -/
lemma activityMove_removePublisher (client : Client) :
    p.ActivityMove (.step (.message (.removePublisher client)))
      (p.receive (.removePublisher client)) := by
  have hc := (h.orderly.live hlive).coherent
  by_cases hclient : p.publisher? = some client
  · have hready : p.isReady = true := by
      have hsource := publisher?_eq_some.1 hclient
      have hk : p.conf.source = .publisher := (hsource ▸ hc.source).eq_publisher
      simp [hc.isReady_eq hk, hclient]
    have hforsakes : p.Forsakes (.step (.message (.removePublisher client))) := ⟨hready, hclient⟩
    rw [receive_removePublisher_publisher hlive hclient, Path.closeIfUnused]
    split
    · exact .ends (isOver_shutdown _).ended (.inr (.inl hforsakes))
    · exact .forsakes hforsakes (p.ended_becomeUnready.trans hlive) p.isReady_becomeUnready
        p.activity_becomeUnready hc.bare_becomeUnready.readers
  · rw [receive_removePublisher_stranger hlive hclient]
    exact .closeIfUnused hlive

/-- **The source has failed**, which stops it if it runs on demand. -/
lemma activityMove_sourceNotReady (hstatic : p.conf.hasStaticSource = true) :
    p.ActivityMove (.step (.message .sourceNotReady)) (p.receive .sourceNotReady) := by
  have ho := h.orderly.live hlive
  have hended : p.sourceNotReady.ended = false := p.proceeds_sourceNotReady.ended.trans hlive
  have hconf : p.sourceNotReady.conf = p.conf :=
    congrArg (·.2.2.1) p.proceeds_sourceNotReady.same
  have hsource : p.sourceNotReady.source.isSome = true :=
    (ho.coherent.sourceNotReady hstatic).source.isSome_of_isStatic (hconf ▸ hstatic)
  have hreceive : p.receive .sourceNotReady = p.sourceNotReady := by
    simp only [receive, hlive, Bool.false_eq_true, ↓reduceIte]
    exact closeIfUnused_of_source hsource
  have hl : p.launchDemand = {} :=
    ho.paced.launch.idle (Conf.hasOnDemandLaunch_of_static hstatic)
  rw [hreceive]
  refine .stops (.inl rfl) hended ?_
  unfold sourceNotReady
  dsimp only
  split
  · next hbusy =>
    have hs := (Bool.and_eq_true_iff.1 hbusy).1
    rw [stopSource_eq]
    simp [activity, hs]
  · next hidle =>
    simp only [p.demands_becomeUnready.1, p.sources_becomeUnready.1] at hidle
    rw [activity_becomeUnready]
    cases hs : p.conf.hasOnDemandSource with
    | false => simp [activity, hs, hl]
    | true =>
      have hphase : p.sourceDemand.phase = .idle := by simpa [hs, OnDemand.isIdle] using hidle
      simp [activity, hs, ho.paced.source.timed.eq_idle hphase]

end Streams

/-! ### All acts -/

/-- A timer that goes off stops what runs on demand, after which an unused path may end. -/
lemma ActivityMove.stop_closeIfUnused (hlive : r.ended = false) (hactivity : r.activity = {}) :
    p.ActivityMove (.step .expire) r.closeIfUnused := by
  unfold Path.closeIfUnused
  split
  · exact .ends (isOver_shutdown _).ended (.inr (.inr (.inl rfl)))
  · exact .stops (.inr rfl) hlive hactivity

/-- **A timer goes off.** -/
lemma InOrder.activityMove_expire (h : p.InOrder) (hlive : p.ended = false)
    (hdue : ∃ d ∈ p.deadline?, d ≤ p.now) : p.ActivityMove (.step .expire) p.expire := by
  have hfail := p.proceeds_failHeld (e := .sourceTimedOut p.name) (by simp)
  rcases h.expire_cases hdue with ⟨-, hs, -, heq⟩ | ⟨-, hs, heq⟩ | ⟨-, hl, -, heq⟩ | ⟨-, hl, heq⟩
  · rw [heq]
    refine .stop_closeIfUnused ((hfail.trans (proceeds_stopSource _ _)).ended.trans hlive) ?_
    simp [activity, stopSource_eq, failHeld_eq, hs]
  · rw [heq]
    have hproceeds := p.proceeds_becomeUnready.trans
      (proceeds_stopSource p.becomeUnready "not needed by anyone")
    refine .stop_closeIfUnused (hproceeds.ended.trans hlive) ?_
    simp [activity, stopSource_eq, p.sources_becomeUnready.1, hs]
  · rw [heq]
    refine .stop_closeIfUnused ((hfail.trans (proceeds_stopLaunch _ _)).ended.trans hlive) ?_
    simp [activity, stopLaunch_eq, failHeld_eq, Conf.hasOnDemandSource_of_launch hl]
  · rw [heq]
    refine .stops (.inr rfl) ((p.proceeds_stopLaunch _).ended.trans hlive) ?_
    unfold retireLaunch
    simp [activity, stopLaunch_eq, Conf.hasOnDemandSource_of_launch hl]

/-- **Every message** that can come to a live path moves its activity. -/
lemma Reached.activityMove_receive (h : p.Reached) (hlive : p.ended = false) {m : PathMessage}
    (hm : m.isReport = true → p.conf.hasStaticSource = true) :
    p.ActivityMove (.step (.message m)) (p.receive m) := by
  cases m with
  | describe n query => exact activityMove_describe h hlive n query
  | addPublisher n client d rtp query expected =>
    exact activityMove_addPublisher h hlive n client d rtp query expected
  | removePublisher client => exact activityMove_removePublisher h hlive client
  | addReader n client query => exact activityMove_addReader h hlive n client query
  | removeReader client => exact activityMove_removeReader h hlive client
  | sourceReady n d rtp => exact activityMove_sourceReady h hlive (hm rfl) n d rtp
  | sourceNotReady => exact activityMove_sourceNotReady h hlive (hm rfl)
  | abandon n =>
    have hreceive : p.receive (.abandon n) = p.abandon n := by simp [receive, hlive]
    rw [hreceive]
    exact .stays hlive rfl rfl rfl (by simp [holdsRequests, abandon])

/-- **Every act** that is possible in a live path moves its activity.

**Proof sketch.** Whoever asks first starts it, readers who come and leave are followed, and a new
stream is served to those who wait; whatever else is said to the path changes neither its stream nor
its activity, or ends it because it is unused. A timer that goes off stops it. -/
theorem Reached.activityMove (h : p.Reached) (hlive : p.ended = false) (ha : p.Allows a) :
    p.ActivityMove a (p.act a) := by
  cases a with
  | media between =>
    obtain ⟨stream, pastStreams, launcher, hsome, hlength, heq⟩ := p.media_eq between
    rw [act, heq]
    refine .stays hlive rfl ?_ rfl fun hheld => hheld
    unfold serial?
    cases hs : p.stream <;> cases stream <;> simp_all
  | step s =>
    cases s with
    | message m => exact h.activityMove_receive hlive ha
    | reload c =>
      have hs := Conf.hasOnDemandSource_of_canHotReload ha.2
      rw [act, Path.step, reload_eq]
      exact .stays hlive (by simp only [activity, hs]) rfl rfl fun hheld => hheld
    | pass time => exact .stays hlive rfl rfl rfl fun hheld => hheld
    | expire => exact (h.orderly.live hlive).activityMove_expire hlive ha
    | destroy => exact .ends (isOver_destroy hlive).ended (.inr (.inr (.inr rfl)))

/-! ## What follows from the moves -/

/-- **What starts** has done so before, for the same time, or is started now by somebody who is held
from then on. -/
lemma ActivityMove.starting_cases (h : p.InOrder) (hmove : p.ActivityMove a q)
    (hlive : q.ended = false) (hstarting : q.activity.phase = .starting) :
    (q.activity = p.activity ∧ (p.holdsRequests = true → q.holdsRequests = true)) ∨
      (p.activity.phase = .idle ∧ q.activity.readyAt = some (p.now + p.startTimeout) ∧
        q.holdsRequests = true) := by
  have hunready (hphase : p.activity.phase = .starting) : p.isReady = false :=
    h.activity_paced.not_ready_of_starting hphase
  cases hmove with
  | ends hended => simp [hlive] at hended
  | stays _ hactivity _ _ hheld => exact .inl ⟨hactivity, hheld⟩
  | starts _ _ hidle hactivity _ _ hheld => exact .inr ⟨hidle, by rw [hactivity], hheld⟩
  | joins n client query _ _ hready hactivity =>
    simp [hunready (by simpa [hactivity] using hstarting)] at hready
  | leaves client _ _ hactivity _ _ hheld =>
    refine .inl ⟨?_, fun hp => hheld.trans hp⟩
    rw [hactivity] at hstarting ⊢
    split at hstarting
    · next hnobody =>
      have hphase : p.activity.phase = .starting := by simpa using hstarting
      rw [if_pos hnobody, OnDemand.readersGone_of_ne (by simp [hphase])]
    · next hsomebody => rw [if_neg hsomebody]
  | opens _ _ _ _ hactivity =>
    obtain hq | ⟨-, hq⟩ | ⟨-, hq⟩ := hactivity <;> simp [hq] at hstarting
  | forsakes hforsakes _ _ hactivity =>
    have hready := hforsakes.isReady
    simp [hunready (hactivity ▸ hstarting)] at hready
  | stops _ _ hactivity => simp [hactivity] at hstarting

/-- **What is closing** with a stream was closing before, while nobody read from the same stream; or
it is closing for some time from now on, because the path carries a new stream or the last reader
has gone. -/
lemma ActivityMove.closing_cases (h : p.InOrder) (hmove : p.ActivityMove a q)
    (hlive : q.ended = false) (hready : q.isReady = true) (hclosing : q.activity.phase = .closing) :
    (q.activity = p.activity ∧ p.isReady = true ∧ q.serial? = p.serial? ∧
        (p.readers ≠ [] → q.readers ≠ [])) ∨
      (q.activity.closeAt = some (p.now + p.closeAfter) ∧
        (q.serial? ≠ p.serial? ∨ p.readers ≠ [] ∧ q.readers = [])) := by
  cases hmove with
  | ends hended => simp [hlive] at hended
  | stays _ hactivity hserial hreaders =>
    exact .inl ⟨hactivity, isReady_of_serial? hserial ▸ hready, hserial, fun hne => hreaders ▸ hne⟩
  | starts _ _ _ hactivity => simp [hactivity] at hclosing
  | joins n client query _ _ _ hactivity =>
    exact absurd (hactivity ▸ hclosing) p.activity.phase_readerAttached_ne
  | leaves client _ _ hactivity hserial =>
    have hbefore : p.isReady = true := isReady_of_serial? hserial ▸ hready
    by_cases hnobody : q.readers = []
    · rw [hnobody] at hactivity
      by_cases hphase : p.activity.phase = .inUse
      · -- what is in use on a ready path has readers, the last of whom has left
        have hclose : q.activity = p.activity.scheduleClose (p.now + p.closeAfter) :=
          hactivity.trans (if_pos hphase)
        exact .inr ⟨by rw [hclose]; rfl, .inr ⟨h.readers_ne_nil hbefore hphase, hnobody⟩⟩
      · have hsame : q.activity = p.activity :=
          hactivity.trans (OnDemand.readersGone_of_ne hphase _)
        have hnone := h.readers_eq_nil_of_closing hbefore (hsame ▸ hclosing)
        exact .inl ⟨hsame, hbefore, hserial, fun hne => absurd hnone hne⟩
    · rw [if_neg (by simpa using hnobody)] at hactivity
      exact .inl ⟨hactivity, hbefore, hserial, fun _ => hnobody⟩
  | opens _ _ _ hserial hactivity =>
    obtain hq | ⟨-, hq⟩ | ⟨-, hq⟩ := hactivity
    · simp [hq] at hclosing
    · exact .inr ⟨by rw [hq], .inl hserial⟩
    · simp [hq] at hclosing
  | forsakes _ _ hunready => simp [hunready] at hready
  | stops _ _ hactivity => simp [hactivity] at hclosing

/-- Nothing runs on a new path. -/
@[simp]
lemma activity_create (settings : PathSettings) (now id : Nat) (name : String)
    (found : ConfSet.Found) : (create settings now id name found).activity = {} := by
  simp only [activity, create_eq, ite_self]

/-- **What starts does so for somebody who waits**, or has waited and given up.

**Proof sketch.** Whoever starts it is held from then on. Those who are held are let go only when it
becomes ready or is stopped. -/
theorem Lived.holds_of_starting (h : p.Lived) (hlive : p.ended = false)
    (hstarting : p.activity.phase = .starting) : p.holdsRequests = true := by
  induction h with
  | create settings now id name found => simp at hstarting
  | @act p h a ha ih =>
    have hbefore : p.ended = false := h.live_of_act ha hlive
    have hmove := h.reached.activityMove hbefore ha
    rcases hmove.starting_cases (h.reached.orderly.live hbefore) hlive hstarting with
      ⟨hactivity, hheld⟩ | ⟨-, -, hheld⟩
    · exact hheld (ih hbefore (hactivity ▸ hstarting))
    · exact hheld

/-- The times that are allowed are never picked up. -/
lemma timeouts_act (ha : p.Allows a) :
    (p.act a).startTimeout = p.startTimeout ∧ (p.act a).closeAfter = p.closeAfter := by
  have hconf := canHotReload_act ha
  have hs := Conf.hasOnDemandSource_of_canHotReload hconf
  have heq : p.conf.absorb (p.act a).conf = (p.act a).conf := by
    simpa [Conf.canHotReload] using hconf
  have hlaunch := congrArg (fun c : Conf => (c.launchStartTimeout, c.launchCloseAfter)) heq
  have hsource := congrArg (fun c : Conf => (c.sourceStartTimeout, c.sourceCloseAfter)) heq
  simp only [Conf.absorb, Prod.mk.injEq] at hlaunch hsource
  simp only [startTimeout, closeAfter, hs, ← hlaunch.1, ← hlaunch.2, ← hsource.1, ← hsource.2]
  exact ⟨trivial, trivial⟩

end Path

end LivePaths
