import Mathlib.Logic.Relation
import LivePaths.Proofs.Path.Order

set_option relaxedAutoImplicit false
set_option autoImplicit false

/-!
# The changes that a step is made of

Each step of a path is a sequence of small changes: something that runs on demand is started or
stopped, a request is answered or held, a reader is attached, the path becomes ready or ceases to be
ready, a publisher comes or goes, the end begins. What every change keeps hence holds in all states
that a path can reach, and a property that concerns one part of a path has to be shown for the few
changes that touch this part.

## Main definitions

* `Stream.IsNew` — the streams with which a path becomes ready.
* `Path.Drive` — changes of what runs on demand.
* `Path.ChangeWith`, `Path.ChangesWith` — all changes with what may happen in between, and sequences
  of them.
* `Path.Change`, `Path.Changes` — those of a path that may go on between steps.
* `Path.Steady` — a path that has kept its identity, its readiness and its recording.

## Main results

* `Path.changes_receive`, `Path.changes_step`, `Path.changes_run` — messages, steps and runs are
  made of changes.
* `Path.Reached.induction` — what a new path has and every change keeps holds in all reached states.
* `Path.Change.steady_or` — the few changes that are not steady.
-/

namespace LivePaths

/-- **Driving events** concern what runs on demand. -/
def PathEvent.isDriving : PathEvent → Bool
  | .demand _ | .undemand _ | .sourceDemand _ | .sourceUndemand _ | .sourceStarted ..
  | .sourceStopped _ => true
  | _ => false

/-- **Steady events** concern neither the readiness of a path nor its recording, its beginning or
its end. -/
def PathEvent.isSteady : PathEvent → Bool
  | .answered .. | .publisherClosed _ | .sourceClosed _ => true
  | e => e.isDriving

lemma PathEvent.isSteady_of_isDriving {e : PathEvent} (h : e.isDriving = true) :
    e.isSteady = true := by
  cases e <;> simp_all [isDriving, isSteady]

/-- **A new stream**: it is open, nothing was written to it, and nobody has subscribed. -/
def Stream.IsNew (s : Stream) : Prop :=
  s = { description := s.description, rtp := s.rtp, capacity := s.capacity }

namespace Path

/-! ## Changes -/

/-- **Driving**: time passes, or something that runs on demand is started, stopped or found ready.
What is started was idle, and what is stopped was not. -/
inductive Drive : Path → Path → Prop where
  | pass (p : Path) (time : Nat) (hle : p.now ≤ time) : Drive p (p.runTo time)
  | startSource (p : Path) (query : String) (hlive : p.ended = false)
      (hidle : p.sourceDemand.phase = .idle) :
      Drive p (p.startSource query)
  | stopSource (p : Path) (reason : String) (hbusy : p.sourceDemand.phase ≠ .idle) :
      Drive p (p.stopSource reason)
  | startLaunch (p : Path) (query : String) (hlive : p.ended = false)
      (hidle : p.launchDemand.phase = .idle) :
      Drive p (p.startLaunch query)
  | stopLaunch (p : Path) (reason : String) (hbusy : p.launchDemand.phase ≠ .idle) :
      Drive p (p.stopLaunch reason)
  | sourceReady (p : Path) : Drive p p.noteSourceReady
  | publisherReady (p : Path) : Drive p p.notePublisherReady

/-- **Replies** of a path: its stream if it is ready, another place to look, or an error. That there
are too many readers is found out only when one is to be attached. -/
inductive Replies (p : Path) : Answer → Prop where
  | stream (h : p.isReady = true) : p.Replies (.stream p.streamId)
  | redirect (target : String) : p.Replies (.redirect target)
  | refused {e : PathError} (h : ∀ name, e ≠ .maxReadersReached name) : p.Replies (.refused e)

/-- The same path, but nothing is held. -/
def clearHeld (p : Path) : Path := { p with heldDescribes := [], heldReaders := [] }

/-- **Who may be attached**: a reader whose request has come, or one who is held and has not given
up. -/
def Awaits (Came : PathMessage → Prop) (p : Path) (n : Nat) (client : Client) : Prop :=
  (∃ query, Came (.addReader n client query)) ∨
    ∃ h ∈ p.heldReaders, h.abandoned = false ∧ h.request = n ∧ h.client = client

/-- **Changes** of a path to which some messages have come, with what may happen in between. A path
that has ended only gives up what it still has. -/
inductive ChangeWith (Between : Path → Path → Prop) (Came : PathMessage → Prop) :
    Path → Path → Prop where
  | drive {p q : Path} (h : p.Drive q) : ChangeWith Between Came p q
  | goOn {p q : Path} (h : Between p q) : ChangeWith Between Came p q
  | answer (p : Path) (n : Nat) {a : Answer} (hlive : p.ended = false) (ha : p.Replies a) :
      ChangeWith Between Came p (p.answer n a)
  | holdDescribe (p : Path) (n : Nat) (query : String) (hlive : p.ended = false)
      (hready : p.isReady = false) (hm : Came (.describe n query)) :
      ChangeWith Between Came p { p with heldDescribes := p.heldDescribes ++ [{ request := n }] }
  | holdReader (p : Path) (n : Nat) (client : Client) (query : String)
      (hlive : p.ended = false) (hready : p.isReady = false)
      (hm : Came (.addReader n client query)) :
      ChangeWith Between Came p
        { p with heldReaders := p.heldReaders ++ [{ request := n, client }] }
  | abandon (p : Path) (n : Nat) (hlive : p.ended = false) : ChangeWith Between Came p (p.abandon n)
  /-- A reader comes to a ready path. -/
  | attach (p : Path) (n : Nat) (client : Client) (hlive : p.ended = false)
      (hready : p.isReady = true) (hm : p.Awaits Came n client) :
      ChangeWith Between Came p (p.attach n client)
  /-- Everybody who was held has been answered. -/
  | clear (p : Path) (hlive : p.ended = false) (hready : p.isReady = true) :
      ChangeWith Between Came p p.clearHeld
  | failHeld (p : Path) (hlive : p.ended = false) :
      ChangeWith Between Came p (p.failHeld (.sourceTimedOut p.name))
  | removeReader (p : Path) (client : Client) (hlive : p.ended = false) :
      ChangeWith Between Came p (p.removeReader client)
  | becomeReady (p : Path) (s : Stream) (hlive : p.ended = false) (hstream : p.stream = none)
      (hd : s.description.isEmpty = false) (hnew : s.IsNew) :
      ChangeWith Between Came p (p.becomeReady s)
  | becomeUnready (p : Path) {s : Stream} (hstream : p.stream = some s) :
      ChangeWith Between Came p p.becomeUnready
  /-- The client that publishes is disconnected for the sake of another one. -/
  | evict (p : Path) (client : Client) (hlive : p.ended = false)
      (hclient : p.source = some (.publisher client)) :
      ChangeWith Between Came p (p.emit (.publisherClosed client))
  /-- The client that publishes is gone. -/
  | vacate (p : Path) (client : Client) (hlive : p.ended = false)
      (hclient : p.source = some (.publisher client)) (hstream : p.stream = none) :
      ChangeWith Between Came p { p with source := none }
  /-- A client publishes from now on. -/
  | occupy (p : Path) (n : Nat) (client : Client) (d : MediaDescription) (rtp : Bool)
      (query : String) (expected : Option Conf) (hlive : p.ended = false)
      (hsource : p.source = none) (hstream : p.stream = none)
      (hm : Came (.addPublisher n client d rtp query expected)) :
      ChangeWith Between Came p { p with source := some (.publisher client), query }
  | reload (p : Path) (c : Conf) (hlive : p.ended = false)
      (hc : p.conf.canHotReload c = true) : ChangeWith Between Came p (p.reload c)
  /-- The end begins; it is silent if the registry wants it. -/
  | beginEnd (p : Path) (hlive : p.ended = false) (silent : Bool) :
      ChangeWith Between Came p { p with ended := silent }.beginEnd
  | releaseSource (p : Path) (hended : p.ended = true) (hstream : p.stream = none) :
      ChangeWith Between Came p p.releaseSource

/-- **Changes** of a path that may go on between steps. -/
abbrev Change : (PathMessage → Prop) → Path → Path → Prop := ChangeWith GoesOn

/-- **Sequences of changes** with what may happen in between. -/
abbrev ChangesWith (Between : Path → Path → Prop) (Came : PathMessage → Prop) :
    Path → Path → Prop :=
  Relation.ReflTransGen (ChangeWith Between Came)

/-- **Sequences of changes.** -/
abbrev Changes : (PathMessage → Prop) → Path → Path → Prop := ChangesWith GoesOn

/-- **Driving** concerns only what runs on demand. -/
lemma Drive.eq {p q : Path} (h : p.Drive q) :
    ∃ es, (∀ e ∈ es, e.isDriving = true) ∧ q = { p with
      query := q.query
      sourceDemand := q.sourceDemand
      launchDemand := q.launchDemand
      onUndemand := q.onUndemand
      launcher := q.launcher
      log := p.log ++ es } := by
  have hcall {e : PathEvent} (he : e.isDriving = true) :
      ∀ f ∈ p.sourceCall e, f.isDriving = true := by
    unfold sourceCall
    split <;> simp [he]
  cases h with
  | pass time hle => exact ⟨[], by simp, by simp [runTo]⟩
  | startSource query hlive hidle =>
    refine ⟨p.sourceCall (.sourceStarted true query) ++ [.sourceDemand query], ?_, ?_⟩
    · exact List.forall_mem_append.2 ⟨hcall rfl, by simp [PathEvent.isDriving]⟩
    · simp [startSource_eq]
  | stopSource reason hbusy =>
    refine ⟨p.sourceCall (.sourceStopped reason) ++ [.sourceUndemand reason], ?_, ?_⟩
    · exact List.forall_mem_append.2 ⟨hcall rfl, by simp [PathEvent.isDriving]⟩
    · simp [stopSource_eq]
  | startLaunch query hlive hidle => exact ⟨[.demand query], by simp [PathEvent.isDriving], rfl⟩
  | stopLaunch reason hbusy =>
    exact ⟨[.undemand reason], by simp [PathEvent.isDriving], by simp [stopLaunch_eq]⟩
  | sourceReady => exact ⟨[], by simp, by simp [noteSourceReady_eq]⟩
  | publisherReady => exact ⟨[], by simp, by simp [notePublisherReady_eq]⟩

/-! ## Sequences -/

section Sequences

variable {Between : Path → Path → Prop} {Came : PathMessage → Prop} {p : Path}

/-- What every change keeps is kept by sequences of changes. -/
lemma ChangesWith.keeps {I : Path → Prop}
    (keeps : ∀ p q, ChangeWith Between Came p q → I p → I q) {q : Path}
    (h : ChangesWith Between Came p q) (hp : I p) : I q := by
  induction h with
  | refl => exact hp
  | tail _ hchange ih => exact keeps _ _ hchange ih

/-! ### Losing the stream and ending -/

lemma stream_becomeUnready (p : Path) : p.becomeUnready.stream = none := by
  cases hs : p.stream with
  | none => rwa [becomeUnready_of_none p hs]
  | some s => rw [becomeUnready_eq p hs]

lemma ended_becomeUnready (p : Path) : p.becomeUnready.ended = p.ended :=
  p.proceeds_becomeUnready.ended

lemma changes_becomeUnready (p : Path) : ChangesWith Between Came p p.becomeUnready := by
  cases hs : p.stream with
  | none => rw [becomeUnready_of_none p hs]
  | some s => exact .single (.becomeUnready p hs)

/-- **The end** of a live path. -/
lemma changes_shutdown (hlive : p.ended = false) (silent : Bool) :
    ChangesWith Between Came p { p with ended := silent }.shutdown := by
  set b : Path := { p with ended := silent }.beginEnd with hb
  have hended : b.becomeUnready.ended = true := b.ended_becomeUnready
  have hreleased : ChangesWith Between Came p b.becomeUnready.releaseSource :=
    (Relation.ReflTransGen.head (.beginEnd p hlive silent) b.changes_becomeUnready).tail
      (.releaseSource _ hended b.stream_becomeUnready)
  rw [shutdown_eq, ← hb]
  split
  · exact hreleased
  · next hbusy =>
    refine hreleased.tail (.drive (.stopLaunch _ _ fun hidle => hbusy ?_))
    simpa [OnDemand.isIdle] using hidle

lemma changes_closeIfUnused (hlive : p.ended = false) :
    ChangesWith Between Came p p.closeIfUnused := by
  unfold closeIfUnused
  split
  · have hsame : { p with ended := false } = p := by rw [← hlive]
    have hshut : ChangesWith Between Came p _ := changes_shutdown hlive false
    rwa [hsame] at hshut
  · exact .refl

lemma changes_destroy (p : Path) : ChangesWith Between Came p p.destroy := by
  unfold destroy
  split
  · exact .refl
  · next hlive => exact changes_shutdown (by simpa using hlive) true

/-! ### Held requests -/

/-- Answering those who have asked for the description and have not given up. -/
lemma changes_answerHeld (hs : List HeldDescribe) (hlive : p.ended = false)
    (hready : p.isReady = true) : ChangesWith Between Came p
      (hs.foldl (fun p h => p.answerHeld h.request h.abandoned (.stream p.streamId)) p) := by
  induction hs generalizing p with
  | nil => exact .refl
  | cons h rest ih =>
    rw [List.foldl_cons]
    cases hb : h.abandoned with
    | true => exact ih hlive hready
    | false => exact .head (.answer p h.request hlive (.stream hready)) (ih hlive hready)

/-- Attaching readers who are held and have not given up. -/
lemma changes_attach (hs : List HeldReader) (hlive : p.ended = false) (hready : p.isReady = true)
    (hheld : ∀ h ∈ hs, h ∈ p.heldReaders ∧ h.abandoned = false) :
    ChangesWith Between Came p (hs.foldl (fun p h => p.attach h.request h.client) p) := by
  induction hs generalizing p with
  | nil => exact .refl
  | cons h rest ih =>
    obtain ⟨hmem, hopen⟩ := hheld h List.mem_cons_self
    obtain ⟨cs, a, -, heq⟩ := p.attach_eq hready h.request h.client
    rw [List.foldl_cons]
    refine .head (.attach p _ _ hlive hready (.inr ⟨h, hmem, hopen, rfl, rfl⟩)) ?_
    rw [heq]
    exact ih hlive hready fun h' hmem' => hheld h' (List.mem_cons_of_mem _ hmem')

/-- Whether others are held does not matter for who is attached. -/
lemma attach_clearHeld (p : Path) (n : Nat) (client : Client) :
    p.clearHeld.attach n client = (p.attach n client).clearHeld := by
  unfold attach
  change (if !p.isReady then _ else if client ∈ p.readers then _ else if p.isFull then _ else _) = _
  split
  · rfl
  · split
    · rfl
    · split <;> rfl

lemma foldl_attach_clearHeld (hs : List HeldReader) (p : Path) :
    hs.foldl (fun p h => p.attach h.request h.client) p.clearHeld =
      (hs.foldl (fun p h => p.attach h.request h.client) p).clearHeld := by
  induction hs generalizing p with
  | nil => rfl
  | cons h rest ih => rw [List.foldl_cons, attach_clearHeld, ih, List.foldl_cons]

/-- **Release**: those who have asked for the description are answered, the readers are attached,
and nothing is held any more. -/
lemma changes_releaseHeld (hlive : p.ended = false) (hready : p.isReady = true) :
    ChangesWith Between Came p p.releaseHeld := by
  have hdescribed := foldl_answerHeld HeldDescribe.request HeldDescribe.abandoned Answer.stream
    p.heldDescribes p
  have hfirst : ChangesWith Between Came p _ := changes_answerHeld p.heldDescribes hlive hready
  unfold releaseHeld
  simp only [hready, ↓reduceIte]
  rw [hdescribed] at hfirst ⊢
  set q : Path := { p with log := _ } with hq
  set waiting := p.heldReaders.filter fun h => !h.abandoned with hwaiting
  have hsecond : ChangesWith Between Came q
      (waiting.foldl (fun p h => p.attach h.request h.client) q) := by
    refine changes_attach waiting hlive hready fun h hmem => ?_
    obtain ⟨hmem, hopen⟩ := List.mem_filter.1 hmem
    exact ⟨hmem, by simpa using hopen⟩
  obtain ⟨cs, answers, -, -, heq⟩ := foldl_attach waiting q hready
  have hclear := foldl_attach_clearHeld waiting q
  change waiting.foldl (fun p h => p.attach h.request h.client)
    { q with heldDescribes := [], heldReaders := [] } = _ at hclear
  rw [hclear]
  refine (hfirst.trans hsecond).tail (.clear _ ?_ ?_)
  · rw [heq]
    exact hlive
  · rw [heq]
    exact hready

/-- Asking for what runs on demand. -/
lemma changes_awaken (hlive : p.ended = false) {q : Path} {query : String}
    (hq : p.awaken? query = some q) :
    ChangesWith Between Came p q ∧ q.ended = p.ended ∧ q.isReady = p.isReady := by
  have hended := (p.proceeds_awaken hq).ended
  obtain rfl | ⟨-, hidle, rfl⟩ | ⟨-, hidle, rfl⟩ := awaken?_cases hq
  · exact ⟨.refl, rfl, rfl⟩
  · refine ⟨.single (.drive (.startSource p query hlive hidle)), hended, ?_⟩
    rw [startSource_eq]
    rfl
  · exact ⟨.single (.drive (.startLaunch p query hlive hidle)), hended, rfl⟩

end Sequences

/-! ## Messages -/

/-- A publisher is never refused for the number of readers. -/
lemma publisherFault?_ne {p : Path} {expected : Option Conf} {d : MediaDescription} {e : PathError}
    (h : p.publisherFault? expected d = some e) (name : String) : e ≠ .maxReadersReached name := by
  unfold publisherFault? at h
  split at h
  · obtain rfl := Option.some.inj h; simp
  · split at h
    · obtain rfl := Option.some.inj h; simp
    · split at h
      · obtain rfl := Option.some.inj h; simp
      · split at h
        · obtain rfl := Option.some.inj h; simp
        · cases h

section Messages

variable {Between : Path → Path → Prop} {Came : PathMessage → Prop} {p : Path}
  (hlive : p.ended = false)

include hlive

/-- **Asking for the stream.** -/
lemma changes_describe {n : Nat} {query : String} (hm : Came (.describe n query)) :
    ChangesWith Between Came p (p.describe n query) := by
  unfold describe
  split
  · exact .single (.answer p n hlive (.redirect _))
  · split
    · next hready => exact .single (.answer p n hlive (.stream hready))
    · next hready =>
      split
      · next q hq =>
        obtain ⟨hawake, hended, hsame⟩ := changes_awaken hlive hq
        exact hawake.tail (.holdDescribe q n query (hended.trans hlive)
          (hsame.trans (by simpa using hready)) hm)
      · split
        · exact .single (.answer p n hlive (.refused (by simp)))
        · exact .single (.answer p n hlive (.redirect _))

/-- **Asking to read.** -/
lemma changes_addReader {n : Nat} {client : Client} {query : String}
    (hm : Came (.addReader n client query)) :
    ChangesWith Between Came p (p.addReader n client query) := by
  unfold addReader
  split
  · next hready => exact .single (.attach p n client hlive hready (.inl ⟨query, hm⟩))
  · next hready =>
    split
    · next q hq =>
      obtain ⟨hawake, hended, hsame⟩ := changes_awaken hlive hq
      exact hawake.tail (.holdReader q n client query (hended.trans hlive)
        (hsame.trans (by simpa using hready)) hm)
    · exact .single (.answer p n hlive (.refused (by simp)))

/-- **Becoming ready** with a stream, after which everybody who waits is answered. -/
lemma changes_accept {s : Stream} {q : Path} (hstream : p.stream = none)
    (hd : s.description.isEmpty = false) (hnew : s.IsNew) (hq : (p.becomeReady s).Drive q) :
    ChangesWith Between Came p q.releaseHeld ∧ q.releaseHeld.ended = false ∧
      q.releaseHeld.isReady = true := by
  obtain ⟨es, -, heq⟩ := hq.eq
  have hended : q.ended = false := by
    rw [heq]
    exact (p.proceeds_becomeReady s).ended.trans hlive
  have hready : q.isReady = true := by
    rw [heq, becomeReady_eq]
    rfl
  obtain ⟨cs, answers, -, -, hreleased⟩ := q.releaseHeld_eq hready
  refine ⟨?_, ?_, ?_⟩
  · exact (Relation.ReflTransGen.head (.becomeReady p s hlive hstream hd hnew)
      (.single (.drive hq))).trans (changes_releaseHeld hended hready)
  · rw [hreleased]
    exact hended
  · rw [hreleased]
    exact hready

/-- **Taking over** a path: a publisher who is there is disconnected first. -/
lemma changes_takenOver (hc : p.Coherent) {n : Nat} {client : Client} {d : MediaDescription}
    {rtp : Bool} {query : String} {expected : Option Conf} (hp : p.conf.source = .publisher)
    (hm : Came (.addPublisher n client d rtp query expected)) :
    ChangesWith Between Came p (p.takenOver client query) ∧
      (p.takenOver client query).ended = false ∧
      (p.takenOver client query).stream = none := by
  unfold takenOver evictPublisher
  split
  · next hnone =>
    have hsource : p.source = none := by
      rcases hc.source.publisher hp with hs | ⟨present, hs⟩
      · exact hs
      · simp [publisher?_eq_some.2 hs] at hnone
    have hstream : p.stream = none := by simpa [hsource] using (hc.publisher hp).symm
    exact ⟨.single (.occupy p n client d rtp query expected hlive hsource hstream hm), hlive,
      hstream⟩
  · next present hpresent =>
    have hsource := publisher?_eq_some.1 hpresent
    set evicted := p.emit (.publisherClosed present) with hevicted
    have hended : evicted.becomeUnready.ended = false := evicted.ended_becomeUnready.trans hlive
    have hsource' : evicted.becomeUnready.source = some (.publisher present) :=
      evicted.sources_becomeUnready.2.trans hsource
    have hstream := evicted.stream_becomeUnready
    refine ⟨?_, hended, hstream⟩
    refine .head (.evict p present hlive hsource) (.trans evicted.changes_becomeUnready ?_)
    refine .head (.vacate _ present hended hsource' hstream) (.single ?_)
    exact .occupy _ n client d rtp query expected hended rfl hstream hm

/-- **A publisher who is taken**: the answer comes last. -/
lemma changes_addPublisher (hc : p.Coherent) {n : Nat} {client : Client} {d : MediaDescription}
    {rtp : Bool} {query : String} {expected : Option Conf}
    (hm : Came (.addPublisher n client d rtp query expected)) {q : Path}
    (hq : p.addPublisher n client d rtp query expected = .ok q) :
    ∃ ready, ChangesWith Between Came p ready ∧ ready.ended = false ∧ ready.isReady = true ∧
      q = ready.answer n (.stream ready.streamId) := by
  rw [addPublisher_eq] at hq
  split at hq
  · cases hq
  · next hf =>
    obtain ⟨htaken, hended, hstream⟩ := changes_takenOver hlive hc (source_eq_publisher hf) hm
    obtain ⟨haccepted, hended', hready⟩ : ChangesWith Between Came _ _ ∧ _ :=
      changes_accept hended hstream (s := p.announced d rtp) (not_isEmpty_of_publisherFault? hf)
        rfl (.publisherReady _)
    exact ⟨_, htaken.trans haccepted, hended', hready, (Except.ok.inj hq).symm⟩

/-- **A publisher who is refused** is answered, and nothing else happens on account of it. -/
lemma changes_refuse {n : Nat} {client : Client} {d : MediaDescription} {rtp : Bool}
    {query : String} {expected : Option Conf} {e : PathError}
    (hq : p.addPublisher n client d rtp query expected = .error e) :
    ChangesWith Between Came p (p.answer n (.refused e)).closeIfUnused := by
  rw [addPublisher_eq] at hq
  split at hq
  · next hf =>
    obtain rfl := Except.error.inj hq
    exact .head (.answer p n hlive (.refused (publisherFault?_ne hf))) (changes_closeIfUnused hlive)
  · cases hq

/-- **The source is ready**, or has nothing to announce. -/
lemma changes_sourceReady (n : Nat) (d : MediaDescription) (rtp : Bool) :
    ChangesWith Between Came p (p.sourceReady n d rtp) := by
  have hunready : ChangesWith Between Came p p.becomeUnready := p.changes_becomeUnready
  have hended : p.becomeUnready.ended = false := p.ended_becomeUnready.trans hlive
  unfold sourceReady Stream.open?
  by_cases hd : d.isEmpty = true
  · simp only [hd, ↓reduceIte]
    exact hunready.tail (.answer _ n hended (.refused (by simp)))
  · simp only [hd, Bool.false_eq_true, ↓reduceIte]
    obtain ⟨haccepted, hended', hready⟩ : ChangesWith Between Came _ _ ∧ _ := changes_accept hended
      p.stream_becomeUnready (s := p.announced d rtp) (by simpa [announced] using hd) rfl
      (.sourceReady _)
    exact (hunready.trans haccepted).tail (.answer _ n hended' (.stream hready))

omit hlive in
/-- **The source has failed.** -/
lemma changes_sourceNotReady : ChangesWith Between Came p p.sourceNotReady := by
  have hunready : ChangesWith Between Came p p.becomeUnready := p.changes_becomeUnready
  unfold sourceNotReady
  dsimp only
  split
  · next hbusy =>
    have hphase : p.becomeUnready.sourceDemand.phase ≠ .idle := by
      simpa [OnDemand.isIdle] using (Bool.and_eq_true_iff.1 hbusy).2
    exact hunready.tail (.drive (.stopSource _ _ hphase))
  · exact hunready

/-- **A publisher leaves.** -/
lemma changes_removePublisher (client : Client) :
    ChangesWith Between Came p (p.removePublisher client) := by
  unfold removePublisher
  split
  · next hclient =>
    have hsource : p.becomeUnready.source = some (.publisher client) :=
      p.sources_becomeUnready.2.trans (publisher?_eq_some.1 hclient)
    exact p.changes_becomeUnready.tail
      (.vacate _ client (p.ended_becomeUnready.trans hlive) hsource p.stream_becomeUnready)
  · exact .refl

end Messages

/-- **A message** is a sequence of changes. -/
theorem changes_receive {Between : Path → Path → Prop} {Came : PathMessage → Prop} {p : Path}
    (hc : p.ended = false → p.Coherent) {m : PathMessage} (hm : Came m) :
    ChangesWith Between Came p (p.receive m) := by
  unfold receive
  split
  · exact .refl
  · next he =>
    have hlive : p.ended = false := by simpa using he
    cases m with
    | describe n query =>
      exact (changes_describe hlive hm).trans
        (changes_closeIfUnused ((p.proceeds_describe n query).ended.trans hlive))
    | addPublisher n client d rtp query expected =>
      dsimp only
      split
      · next q hq =>
        obtain ⟨ready, hready, hended, hr, rfl⟩ := changes_addPublisher hlive (hc hlive) hm hq
        exact hready.tail (.answer ready n hended (.stream hr))
      · next e hq => exact changes_refuse hlive hq
    | removePublisher client =>
      exact (changes_removePublisher hlive client).trans
        (changes_closeIfUnused ((p.proceeds_removePublisher client).ended.trans hlive))
    | addReader n client query =>
      exact (changes_addReader hlive hm).trans
        (changes_closeIfUnused ((p.proceeds_addReader n client query).ended.trans hlive))
    | removeReader client => exact .single (.removeReader p client hlive)
    | sourceReady n d rtp => exact changes_sourceReady hlive n d rtp
    | sourceNotReady =>
      exact changes_sourceNotReady.trans
        (changes_closeIfUnused (p.proceeds_sourceNotReady.ended.trans hlive))
    | abandon n => exact .single (.abandon p n hlive)

/-! ## Steps -/

section Steps

variable {Between : Path → Path → Prop} {Came : PathMessage → Prop} {p : Path}

/-- **A timer goes off.** -/
lemma changes_expire (h : p.InOrder) (hlive : p.ended = false)
    (hdue : ∃ d ∈ p.deadline?, d ≤ p.now) : ChangesWith Between Came p p.expire := by
  have hfail : ChangesWith Between Came p (p.failHeld (.sourceTimedOut p.name)) :=
    .single (.failHeld p hlive)
  have hended : (p.failHeld (.sourceTimedOut p.name)).ended = false :=
    (p.proceeds_failHeld (by simp)).ended.trans hlive
  rcases h.expire_cases hdue with ⟨hp, -, -, heq⟩ | ⟨hp, -, heq⟩ | ⟨hp, -, -, heq⟩ | ⟨hp, -, heq⟩
  · -- the source has not become ready in time
    have hbusy : (p.failHeld (.sourceTimedOut p.name)).sourceDemand.phase ≠ .idle := by
      simp [failHeld_eq, hp]
    rw [heq]
    exact (hfail.tail (.drive (.stopSource _ _ hbusy))).trans
      (changes_closeIfUnused ((proceeds_stopSource _ _).ended.trans hended))
  · -- nobody has read from the source for long enough
    have hbusy : p.becomeUnready.sourceDemand.phase ≠ .idle := by
      simp [p.demands_becomeUnready.1, hp]
    rw [heq]
    exact (p.changes_becomeUnready.tail (.drive (.stopSource _ _ hbusy))).trans
      (changes_closeIfUnused
        ((proceeds_stopSource _ _).ended.trans (p.ended_becomeUnready.trans hlive)))
  · -- no publisher has come in time
    have hbusy : (p.failHeld (.sourceTimedOut p.name)).launchDemand.phase ≠ .idle := by
      simp [failHeld_eq, hp]
    rw [heq]
    exact (hfail.tail (.drive (.stopLaunch _ _ hbusy))).trans
      (changes_closeIfUnused ((proceeds_stopLaunch _ _).ended.trans hended))
  · -- nobody has read from the publisher for long enough, who may stay
    rw [heq]
    exact .single (.drive (.stopLaunch p _ (by simp [hp])))

/-- **Every possible step** is a sequence of changes. -/
theorem changes_step (h : p.Orderly) {s : PathStep} (hs : p.Permits s)
    (hm : ∀ m, s = .message m → Came m) : ChangesWith Between Came p (p.step s) := by
  cases s with
  | message m => exact changes_receive (fun hlive => (h.live hlive).coherent) (hm m rfl)
  | reload c => exact .single (.reload p c hs.1 hs.2)
  | pass time => exact .single (.drive (.pass p time hs.1))
  | expire =>
    obtain ⟨d, hd, hdue⟩ := hs
    have hlive := (mem_deadlines_of_deadline? hd).1
    exact changes_expire (h.live hlive) hlive ⟨d, hd, hdue⟩
  | destroy => exact p.changes_destroy

/-- **Runs** are sequences of changes. -/
theorem changes_run (h : p.Orderly) {ss : List PathStep} (hs : p.PermitsAll ss)
    (hm : ∀ m, .message m ∈ ss → Came m) : ChangesWith Between Came p (p.run ss) := by
  induction ss generalizing p with
  | nil => exact .refl
  | cons s rest ih =>
    have hstep : ChangesWith Between Came p (p.step s) :=
      changes_step h hs.1 fun m heq => hm m (heq ▸ List.mem_cons_self)
    exact hstep.trans (ih (h.step hs.1) hs.2 fun m hmem => hm m (List.mem_cons_of_mem s hmem))

end Steps

/-- **Reached states**: what a new path has and every change keeps holds in all of them. -/
theorem Reached.induction {I : Path → Prop}
    (create : ∀ settings now id name found, I (Path.create settings now id name found))
    (change : ∀ p q, Change (fun _ => True) p q → I p → I q) {p : Path} (h : p.Reached) : I p := by
  induction h with
  | create settings now id name found => exact create settings now id name found
  | step h hs ih => exact (changes_step h.orderly hs fun _ _ => trivial).keeps change ih
  | goOn h hq ih => exact change _ _ (.goOn hq) ih

/-! ## Steady changes -/

/-- **Steadiness**: a path with the same identity that is alive exactly if the first one is, has the
same kind of stream and the same recording, and whose history has grown by steady events. -/
structure Steady (p q : Path) : Prop where
  same : q.identity = p.identity
  ended : q.ended = p.ended
  stream : q.stream.map (·.description) = p.stream.map (·.description)
  recording : q.recording = p.recording
  log : ∃ es, q.log = p.log ++ es ∧ ∀ e ∈ es, e.isSteady = true

namespace Steady

variable {p q : Path}

lemma isReady_eq (h : Steady p q) : q.isReady = p.isReady := by
  simpa [isReady] using congrArg Option.isSome h.stream

/-- Changes without events. -/
lemma silently (hsame : q.identity = p.identity) (hended : q.ended = p.ended)
    (hstream : q.stream = p.stream) (hrecording : q.recording = p.recording)
    (hlog : q.log = p.log) : Steady p q :=
  ⟨hsame, hended, by rw [hstream], hrecording, [], by simp [hlog], by simp⟩

end Steady

/-- Attaching a reader is steady. -/
lemma steady_attach {p : Path} (hready : p.isReady = true) (n : Nat) (client : Client) :
    Steady p (p.attach n client) := by
  obtain ⟨cs, a, -, heq⟩ := p.attach_eq hready n client
  rw [heq]
  exact ⟨rfl, rfl, rfl, rfl, [.answered n a], rfl, by simp [PathEvent.isSteady]⟩

/-- **Most changes are steady.** The others are the two changes of readiness, a new configuration
and the beginning of the end. -/
theorem Change.steady_or {Came : PathMessage → Prop} {p q : Path} (h : Change Came p q) :
    Steady p q ∨
      (∃ s, p.ended = false ∧ p.stream = none ∧ s.description.isEmpty = false ∧
        q = p.becomeReady s) ∨
      (∃ s, p.stream = some s ∧ q = p.becomeUnready) ∨
      (∃ c, p.ended = false ∧ p.conf.canHotReload c = true ∧ q = p.reload c) ∨
      ∃ silent, p.ended = false ∧ q = { p with ended := silent }.beginEnd := by
  cases h with
  | drive h =>
    obtain ⟨es, hes, heq⟩ := h.eq
    rw [heq]
    exact .inl ⟨rfl, rfl, rfl, rfl, es, rfl, fun e he => PathEvent.isSteady_of_isDriving (hes e he)⟩
  | goOn h =>
    obtain ⟨hsame, hdesc, -⟩ := h
    refine .inl ⟨?_, ?_, hdesc, ?_, [], ?_, by simp⟩
    all_goals rw [hsame]
    · rfl
    · simp
  | answer n hlive ha =>
    exact .inl ⟨rfl, rfl, rfl, rfl, [.answered n _], rfl, by simp [PathEvent.isSteady]⟩
  | holdDescribe n query hlive hready hm => exact .inl (.silently rfl rfl rfl rfl rfl)
  | holdReader n client query hlive hready hm => exact .inl (.silently rfl rfl rfl rfl rfl)
  | abandon n hlive => exact .inl (.silently rfl rfl rfl rfl rfl)
  | attach n client hlive hready hm => exact .inl (steady_attach hready n client)
  | clear hlive hready => exact .inl (.silently rfl rfl rfl rfl rfl)
  | failHeld hlive =>
    rw [failHeld_eq]
    exact .inl ⟨rfl, rfl, rfl, rfl, _, rfl, by simp [answerEvents, PathEvent.isSteady]⟩
  | removeReader client hlive =>
    rw [removeReader_eq]
    exact .inl (.silently rfl rfl rfl rfl rfl)
  | becomeReady s hlive hstream hd => exact .inr (.inl ⟨s, hlive, hstream, hd, rfl⟩)
  | becomeUnready hstream => exact .inr (.inr (.inl ⟨_, hstream, rfl⟩))
  | evict client hlive hclient =>
    exact .inl ⟨rfl, rfl, rfl, rfl, [.publisherClosed client], rfl, by simp [PathEvent.isSteady]⟩
  | vacate client hlive hclient hstream => exact .inl (.silently rfl rfl rfl rfl rfl)
  | occupy n client d rtp query expected hlive hsource hstream hm =>
    exact .inl (.silently rfl rfl rfl rfl rfl)
  | reload c hlive hc => exact .inr (.inr (.inr (.inl ⟨c, hlive, hc, rfl⟩)))
  | beginEnd hlive silent => exact .inr (.inr (.inr (.inr ⟨silent, hlive, rfl⟩)))
  | releaseSource hended hstream =>
    rw [releaseSource_eq]
    refine .inl ⟨rfl, rfl, rfl, rfl, _, rfl, ?_⟩
    unfold sourceRelease
    split <;> (try split) <;> simp [PathEvent.isSteady]

end Path

end LivePaths
