import Mathlib.Data.List.Perm.Basic
import LivePaths.Proofs.Path.Audience
import LivePaths.Proofs.Path.Lives

set_option relaxedAutoImplicit false
set_option autoImplicit false

/-!
# Parting with clients

Publishers and readers are attached to a path and stay until they leave by themselves or are
disconnected: a publisher for the sake of another one or because the path is destroyed, a reader
because the path loses the stream that the reader was given. What an act does to those who are
attached is one of three things: it parts with nobody, a reader leaves, or the stream is lost.

## Main definitions

* `Party`, `Path.HasClient` — who can be attached to a path, and who is.
* `Path.EndsStream`, `Path.EndsPublishing`, `Path.Evicts` — who is disconnected when.
* `Path.Retains`, `Path.Loses` — nobody goes, or the stream is lost with all who read it.
* `Path.Parting` — what an act does to those who are attached.

## Main results

* `Path.loses_becomeUnready`, `Path.loses_shutdown` — who is disconnected by the loss of the stream
  and by the destruction of the path.
* `Path.Lived.parting` — every act of a life parts with those with whom it should.
-/

namespace LivePaths

/-- **Party** of a path: a client that publishes or one that reads. -/
inductive Party where
  | publisher (d : Client)
  | reader (d : Client)
  deriving DecidableEq, Repr

/-- The client whom an event disconnects. -/
def PathEvent.closed? : PathEvent → Option Party
  | .publisherClosed d => some (.publisher d)
  | .readerClosed d => some (.reader d)
  | _ => none

/-- The client who wants to leave by an act. -/
def PathAct.leaving? : PathAct → Option Party
  | .step (.message (.removePublisher d)) => some (.publisher d)
  | .step (.message (.removeReader d)) => some (.reader d)
  | _ => none

namespace Path

/-! ## Attachments -/

/-- Whether a client is attached. -/
def HasClient (p : Path) : Party → Prop
  | .publisher d => p.publisher? = some d
  | .reader d => d ∈ p.readers

instance (p : Path) (k : Party) : Decidable (p.HasClient k) := by
  cases k <;> unfold HasClient <;> infer_instance

/-- **Disconnections** between two states of a path. -/
def closings (p q : Path) : List Party :=
  (q.log.drop p.log.length).filterMap PathEvent.closed?

/-! ## Who is disconnected -/

/-- **Loss of the stream**: the publisher leaves or is replaced, the source reports something new,
nobody has read from the source for long enough, or the path is destroyed. -/
def EndsStream (p : Path) : PathAct → Prop
  | .step (.message (.removePublisher d)) => p.isReady = true ∧ p.publisher? = some d
  | .step (.message (.addPublisher _ _ d _ _ expected)) =>
    p.isReady = true ∧ p.publisherFault? expected d = none
  | .step (.message (.sourceReady ..)) | .step (.message .sourceNotReady) | .step .destroy =>
    p.isReady = true
  | .step .expire => p.isReady = true ∧ p.sourceDemand.phase = .closing
  | _ => False

/-- **The end of publishing** against the will of the client: another publisher is taken, or the
path is destroyed. -/
def EndsPublishing (p : Path) : PathAct → Prop
  | .step (.message (.addPublisher _ _ d _ _ expected)) => p.publisherFault? expected d = none
  | .step .destroy => True
  | _ => False

/-- **Who is disconnected** by an act if attached. -/
def Evicts (p : Path) (a : PathAct) : Party → Prop
  | .publisher _ => p.EndsPublishing a
  | .reader _ => p.EndsStream a

/-- Only a ready path loses its stream. -/
lemma EndsStream.ready {p : Path} {a : PathAct} (h : p.EndsStream a) : p.isReady = true := by
  unfold EndsStream at h
  split at h
  · exact h.1
  · exact h.1
  · exact h
  · exact h
  · exact h
  · exact h.1
  · exact h.elim

/-! ## Between two states -/

/-- **What was closed** between two states of a path. -/
def Closes (p q : Path) (ks : List Party) : Prop :=
  ∃ es, q.log = p.log ++ es ∧ es.filterMap PathEvent.closed? = ks

/-- **Nobody goes**: whoever publishes or reads still does so and is not disconnected, and the path
has lost no stream. -/
structure Retains (p q : Path) : Prop where
  publisher : ∀ d, p.publisher? = some d → q.publisher? = some d
  readers : ∃ cs, q.readers = p.readers ++ cs
  serial : q.pastStreams.length = p.pastStreams.length
  closes : Closes p q []

/-- **The stream is lost**, all readers are disconnected, and perhaps the publisher. -/
structure Loses (p q : Path) (evicted : Option Client) : Prop where
  serial : q.pastStreams.length = p.pastStreams.length + 1
  closes : ∃ ks, Closes p q ks ∧
    ks.Perm (evicted.toList.map .publisher ++ p.readers.map .reader)

section Between

variable {p q r : Path}

lemma Closes.eq {ks : List Party} (h : Closes p q ks) : p.closings q = ks := by
  obtain ⟨es, hlog, rfl⟩ := h
  simp [closings, hlog]

lemma Closes.trans {ks ls : List Party} (h : Closes p q ks) (h' : Closes q r ls) :
    Closes p r (ks ++ ls) := by
  obtain ⟨es, hlog, rfl⟩ := h
  obtain ⟨fs, hlog', rfl⟩ := h'
  exact ⟨es ++ fs, by rw [hlog', hlog, List.append_assoc], by simp⟩

namespace Retains

lemma refl (p : Path) : Retains p p :=
  ⟨fun _ hd => hd, ⟨[], (List.append_nil _).symm⟩, rfl, [], (List.append_nil _).symm, rfl⟩

lemma trans (h : Retains p q) (h' : Retains q r) : Retains p r := by
  obtain ⟨cs, hcs⟩ := h.readers
  obtain ⟨ds, hds⟩ := h'.readers
  refine ⟨fun d hd => h'.publisher d (h.publisher d hd), ⟨cs ++ ds, ?_⟩,
    h'.serial.trans h.serial, h.closes.trans h'.closes⟩
  rw [hds, hcs, List.append_assoc]

/-- What is written down disconnects nobody, and readers may come. -/
lemma of_log {es : List PathEvent} (hlog : q.log = p.log ++ es) (hes : ∀ e ∈ es, e.closed? = none)
    (hsource : q.source = p.source) (hreaders : ∃ cs, q.readers = p.readers ++ cs)
    (hpast : q.pastStreams.length = p.pastStreams.length) : Retains p q := by
  refine ⟨fun d hd => ?_, hreaders, hpast, es, hlog, List.filterMap_eq_nil_iff.2 hes⟩
  rw [publisher?_eq_some] at hd ⊢
  exact hsource.trans hd

/-- Nothing is written down, and nobody comes or goes. -/
lemma silently (hlog : q.log = p.log) (hsource : q.source = p.source)
    (hreaders : q.readers = p.readers) (hpast : q.pastStreams.length = p.pastStreams.length) :
    Retains p q :=
  of_log (hlog.trans (List.append_nil _).symm) (by simp) hsource
    ⟨[], hreaders.trans (List.append_nil _).symm⟩ hpast

end Retains

/-- The stream stays lost. -/
lemma Loses.retains {evicted : Option Client} (h : Loses p q evicted) (h' : Retains q r) :
    Loses p r evicted := by
  obtain ⟨ks, hks, hperm⟩ := h.closes
  exact ⟨h'.serial.trans h.serial, ks, by simpa using hks.trans h'.closes, hperm⟩

end Between

/-! ## What the operations do to those who are attached -/

section Operations

variable {p q : Path}

/-- What runs on demand disconnects nobody. -/
lemma closed?_of_isDriving {e : PathEvent} (h : e.isDriving = true) : e.closed? = none := by
  cases e <;> simp_all [PathEvent.isDriving, PathEvent.closed?]

lemma Drive.retains (h : p.Drive q) : Retains p q := by
  obtain ⟨es, hes, heq⟩ := h.eq
  rw [heq]
  exact .of_log rfl (fun e he => closed?_of_isDriving (hes e he)) rfl ⟨[], by simp⟩ rfl

lemma retains_answer (p : Path) (n : Nat) (a : Answer) : Retains p (p.answer n a) :=
  .of_log rfl (List.forall_mem_singleton.2 rfl) rfl ⟨[], (List.append_nil _).symm⟩ rfl

lemma retains_awaken (he : p.ended = false) {query : String} (h : p.awaken? query = some q) :
    Retains p q := by
  obtain rfl | ⟨-, hidle, rfl⟩ | ⟨-, hidle, rfl⟩ := awaken?_cases h
  · exact .refl q
  · exact (Drive.startSource p query he hidle).retains
  · exact (Drive.startLaunch p query he hidle).retains

lemma retains_attach (hr : p.isReady = true) (n : Nat) (client : Client) :
    Retains p (p.attach n client) := by
  obtain ⟨cs, a, -, heq⟩ := p.attach_eq hr n client
  rw [heq]
  exact .of_log rfl (List.forall_mem_singleton.2 rfl) rfl ⟨cs, rfl⟩ rfl

lemma retains_releaseHeld (hr : p.isReady = true) : Retains p p.releaseHeld := by
  obtain ⟨cs, answers, -, -, heq⟩ := p.releaseHeld_eq hr
  rw [heq]
  exact .of_log rfl (forall_answerEvents fun _ _ => rfl) rfl ⟨cs, rfl⟩ rfl

lemma retains_failHeld (p : Path) (e : PathError) : Retains p (p.failHeld e) := by
  rw [failHeld_eq]
  exact .of_log rfl (forall_answerEvents fun _ _ => rfl) rfl ⟨[], by simp⟩ rfl

lemma retains_becomeReady (p : Path) (s : Stream) : Retains p (p.becomeReady s) := by
  refine .of_log (p.log_becomeReady s)
    (p.forall_readyEvents (P := (·.closed? = none)) (fun _ => rfl) rfl rfl s) ?_ ⟨[], ?_⟩ ?_
  all_goals rw [becomeReady_eq]
  simp

lemma retains_reload (p : Path) (c : Conf) : Retains p (p.reload c) := by
  rw [reload_eq]
  refine ⟨fun d hd => ?_, ⟨[], by simp⟩, rfl, _, List.append_assoc .., ?_⟩
  · rw [publisher?_eq_some] at hd ⊢
    simp [sourceUnder, hd]
  · refine List.filterMap_eq_nil_iff.2 (List.forall_mem_append.2 ⟨?_, ?_⟩)
    · exact p.forall_sourceCall rfl
    · exact p.forall_recordingChange c (fun _ => rfl) fun _ => rfl

lemma retains_media (p : Path) (act : MediaAct) : Retains p (p.media act) := by
  obtain ⟨stream, pastStreams, launcher, -, hpast, heq⟩ := p.media_eq act
  rw [heq]
  exact .silently rfl rfl rfl hpast

/-- A new publisher's stream is accepted. -/
lemma retains_accepted (p : Path) (s : Stream) (hq : (p.becomeReady s).Drive q) (n : Nat) :
    Retains p (q.releaseHeld.answer n (.stream q.releaseHeld.streamId)) := by
  have hready : q.isReady = true := by
    obtain ⟨es, -, heq⟩ := hq.eq
    rw [heq, becomeReady_eq]
    rfl
  exact (((p.retains_becomeReady s).trans hq.retains).trans (retains_releaseHeld hready)).trans
    (retains_answer _ n _)

/-- Ceasing to be ready disconnects the readers, each of them once. -/
lemma closed?_unreadyEvents (p : Path) :
    p.unreadyEvents.filterMap PathEvent.closed? = p.readers.map .reader := by
  have hnoticed : (p.noticed .notReady).filterMap PathEvent.closed? = [] :=
    List.filterMap_eq_nil_iff.2 (p.forall_noticed rfl)
  have hrecorded : p.recordingEnd.filterMap PathEvent.closed? = [] :=
    List.filterMap_eq_nil_iff.2 (p.forall_recordingEnd fun _ => rfl)
  have hreaders : (p.readers.map PathEvent.readerClosed).filterMap PathEvent.closed? =
      p.readers.map .reader := by
    rw [List.filterMap_map, ← List.filterMap_eq_map]
    rfl
  have hunready : [PathEvent.notReady].filterMap PathEvent.closed? = [] := rfl
  simp only [unreadyEvents, List.filterMap_append, hnoticed, hreaders, hunready, hrecorded,
    List.nil_append, List.append_nil]

/-- **The loss of the stream** disconnects the readers. -/
lemma loses_becomeUnready (hr : p.isReady = true) : Loses p p.becomeUnready none := by
  obtain ⟨s, hs⟩ := Option.isSome_iff_exists.1 hr
  refine ⟨by simp [becomeUnready_eq p hs], _, ⟨p.unreadyEvents, p.log_becomeUnready hs, rfl⟩, ?_⟩
  rw [closed?_unreadyEvents]
  exact .refl _

/-! ### The end -/

lemma closed?_sourceRelease (p : Path) :
    p.sourceRelease.filterMap PathEvent.closed? = p.publisher?.toList.map .publisher := by
  unfold sourceRelease publisher?
  split
  · split <;> simp_all [PathEvent.closed?]
  · next hs => simp [hs, PathEvent.closed?]
  · next hs => simp [hs]
  · next hs => simp [hs]

lemma retains_beginEnd (p : Path) (silent : Bool) :
    Retains p { p with ended := silent }.beginEnd := by
  refine .of_log (log_beginEnd { p with ended := silent }) ?_ rfl ⟨[], (List.append_nil _).symm⟩ rfl
  exact forall_endEvents (P := (·.closed? = none)) _ rfl rfl fun _ => rfl

/-- After the beginning of the end and the loss of the stream the publisher is disconnected. -/
lemma closes_release (p : Path) {q : Path} (h : q = p.releaseSource ∨
    q = p.releaseSource.stopLaunch "path destroyed") :
    q.readers = p.readers ∧ q.pastStreams.length = p.pastStreams.length ∧
      Closes p q (p.publisher?.toList.map .publisher) := by
  rw [← p.closed?_sourceRelease]
  rcases h with rfl | rfl
  · rw [releaseSource_eq]
    exact ⟨rfl, rfl, p.sourceRelease, rfl, rfl⟩
  · rw [stopLaunch_eq, releaseSource_eq]
    refine ⟨rfl, rfl, p.sourceRelease ++ [.undemand _], List.append_assoc .., ?_⟩
    simp [PathEvent.closed?]

lemma shutdown_cases (p : Path) :
    p.shutdown = p.beginEnd.becomeUnready.releaseSource ∨
      p.shutdown = p.beginEnd.becomeUnready.releaseSource.stopLaunch "path destroyed" := by
  rw [shutdown_eq]
  split
  · exact .inl rfl
  · exact .inr rfl

/-- **The end** of a path without a stream and a publisher disconnects nobody. -/
lemma retains_shutdown (hs : p.stream = none) (hp : p.publisher? = none) (silent : Bool) :
    Retains p { p with ended := silent }.shutdown := by
  set b := { p with ended := silent }.beginEnd with hb
  have hbegun : Retains p b := p.retains_beginEnd silent
  have hbare : b.becomeUnready = b := becomeUnready_of_none b hs
  have hcases := shutdown_cases { p with ended := silent }
  rw [← hb, hbare] at hcases
  obtain ⟨hreaders, hpast, hcloses⟩ := b.closes_release hcases
  have hnobody : b.publisher? = none := hp
  rw [hnobody] at hcloses
  refine ⟨fun d hd => by simp [hp] at hd, ⟨[], ?_⟩, hpast, hbegun.closes.trans hcloses⟩
  rw [hreaders, List.append_nil]
  rfl

/-- **The destruction** of a ready path disconnects everybody. -/
lemma loses_shutdown (hr : p.isReady = true) (silent : Bool) :
    Loses p { p with ended := silent }.shutdown p.publisher? := by
  set b := { p with ended := silent }.beginEnd with hb
  have hbegun : Retains p b := p.retains_beginEnd silent
  obtain ⟨hserial, ks, hks, hperm⟩ : Loses b b.becomeUnready none := loses_becomeUnready hr
  obtain ⟨-, hpast, hcloses⟩ := b.becomeUnready.closes_release (shutdown_cases _)
  have hsame : b.becomeUnready.publisher? = p.publisher? := by
    unfold publisher?
    rw [b.sources_becomeUnready.2]
    rfl
  rw [hsame] at hcloses
  refine ⟨hpast.trans (hserial.trans (congrArg (· + 1) hbegun.serial)), _,
    (hbegun.closes.trans hks).trans hcloses, ?_⟩
  have hreaders : ks.Perm (p.readers.map .reader) := hperm
  exact (hreaders.append_right _).trans List.perm_append_comm

/-- A path without a stream has no publisher. -/
lemma Coherent.publisher?_eq_none (h : p.Coherent) (hs : p.stream = none) :
    p.publisher? = none := by
  cases hp : p.publisher? with
  | none => rfl
  | some d =>
    rw [publisher?_eq_some] at hp
    have hkind : p.conf.source = .publisher := (hp ▸ h.source).eq_publisher
    have hsome := h.publisher hkind
    simp [hp, hs] at hsome

/-- **A path that ends because it is unused** disconnects nobody. -/
lemma Coherent.retains_closeIfUnused (h : p.Coherent) (he : p.ended = false) :
    Retains p p.closeIfUnused := by
  unfold closeIfUnused
  split
  · next hunused =>
    have hs : p.stream = none := by
      cases hs : p.stream with
      | none => rfl
      | some s =>
        have hsource := h.isSome_source (by simp [isReady, hs])
        simp [source_of_isUnused hunused] at hsource
    have hsame : { p with ended := false } = p := by rw [← he]
    exact hsame ▸ retains_shutdown hs (h.publisher?_eq_none hs) false
  · exact .refl p

end Operations

/-! ## Partings -/

/-- **What an act does to those who are attached**: nobody goes who should not, a reader leaves, or
the stream is lost, and with it perhaps the publisher. -/
inductive Parting (p : Path) (a : PathAct) (q : Path) : Prop where
  | retain (h : Retains p q) (hends : ¬ p.EndsStream a)
      (hstay : ∀ k, p.HasClient k → a.leaving? ≠ some k ∧ ¬ p.Evicts a k)
  | leave (d : Client) (ha : a = .step (.message (.removeReader d)))
      (hsource : q.source = p.source) (hreaders : q.readers = p.readers.filter (· ≠ d))
      (hpast : q.pastStreams = p.pastStreams) (hlog : q.log = p.log)
  | lose {evicted : Option Client} (h : Loses p q evicted) (hends : p.EndsStream a)
      (hevicted : p.EndsPublishing a → evicted = p.publisher?)
      (hleaves : ¬ p.EndsPublishing a →
        evicted = none ∧ ∀ d, p.publisher? = some d → a.leaving? = some (.publisher d))

section Partings

variable {p q : Path} {a : PathAct}

/-- Nobody is attached without a stream. -/
lemma Coherent.nobody (h : p.Coherent) (hs : p.stream = none) (k : Party) : ¬ p.HasClient k := by
  cases k with
  | publisher d => simp [HasClient, h.publisher?_eq_none hs]
  | reader d => simp [HasClient, h.readers hs]

/-- A path without a stream has nobody to part with. -/
lemma Coherent.parting (hc : p.Coherent) (hs : p.stream = none) (h : Retains p q) :
    Parting p a q := by
  refine .retain h (fun hends => ?_) fun k hk => absurd hk (hc.nobody hs k)
  simpa [isReady, hs] using hends.ready

/-- An act by which nobody leaves and nobody is disconnected. -/
lemma Retains.parting (h : Retains p q) (hleaving : a.leaving? = none) (hends : ¬ p.EndsStream a)
    (hpub : ¬ p.EndsPublishing a) : Parting p a q := by
  refine .retain h hends fun k _ => ⟨by simp [hleaving], ?_⟩
  cases k with
  | publisher d => exact hpub
  | reader d => exact hends

/-- A source that the path runs itself takes the stream away. -/
lemma Loses.parting_static (h : Loses p q none) (hc : p.Coherent)
    (hs : p.conf.hasStaticSource = true) (hends : p.EndsStream a) (hpub : ¬ p.EndsPublishing a) :
    Parting p a q := by
  refine .lose h hends (fun hn => absurd hn hpub) fun _ => ⟨rfl, fun d hd => ?_⟩
  rw [publisher?_eq_some] at hd
  exact absurd (hd ▸ hc.source).eq_publisher (SourceKind.ne_of_isStatic hs).1

/-! ### Messages -/

/-- Asking for the stream parts with nobody. -/
lemma retains_describe {p : Path} (he : p.ended = false) (n : Nat) (query : String) :
    Retains p (p.describe n query) := by
  unfold describe
  split
  · exact retains_answer p n _
  · split
    · exact retains_answer p n _
    · split
      · next q hq => exact (retains_awaken he hq).trans (.silently rfl rfl rfl rfl)
      · split
        · exact retains_answer p n _
        · exact retains_answer p n _

/-- Asking to read parts with nobody. -/
lemma retains_addReader {p : Path} (he : p.ended = false) (n : Nat) (client : Client)
    (query : String) : Retains p (p.addReader n client query) := by
  unfold addReader
  split
  · next hr => exact retains_attach hr n client
  · split
    · next q hq => exact (retains_awaken he hq).trans (.silently rfl rfl rfl rfl)
    · exact retains_answer p n _

section Live

variable (hc : p.Coherent) (he : p.ended = false)

include hc he

omit he in
/-- **A publisher who is taken** replaces the one who is there. -/
lemma parting_addPublisher {n : Nat} {client : Client} {d : MediaDescription} {rtp : Bool}
    {query : String} {expected : Option Conf} (hf : p.publisherFault? expected d = none)
    (hq : p.addPublisher n client d rtp query expected = .ok q) :
    Parting p (.step (.message (.addPublisher n client d rtp query expected))) q := by
  rw [addPublisher_eq, hf] at hq
  have haccepted : Retains (p.takenOver client query) q := by
    rw [← Except.ok.inj hq]
    exact retains_accepted _ _ (.publisherReady _) n
  cases hp : p.publisher? with
  | none =>
    have hs : p.stream = none := by
      have hkind := source_eq_publisher hf
      rcases hc.source.publisher hkind with hs | ⟨present, hs⟩
      · simpa [hs] using (hc.publisher hkind).symm
      · simp [publisher?_eq_some.2 hs] at hp
    have htaken : Retains p (p.takenOver client query) := by
      unfold takenOver evictPublisher
      rw [hp]
      exact ⟨fun d hd => by simp [hp] at hd, ⟨[], (List.append_nil _).symm⟩, rfl, [],
        (List.append_nil _).symm, rfl⟩
    exact hc.parting hs (htaken.trans haccepted)
  | some present =>
    have hready : p.isReady = true := by
      rw [publisher?_eq_some] at hp
      have hsome := hc.publisher (hp ▸ hc.source).eq_publisher
      simpa [hp, isReady] using hsome.symm
    have htaken : Loses p (p.takenOver client query) (some present) := by
      obtain ⟨hserial, ks, hks, hperm⟩ :
        Loses (p.emit (.publisherClosed present)) _ none := loses_becomeUnready hready
      have hclosed : Closes p (p.emit (.publisherClosed present)) [.publisher present] :=
        ⟨[.publisherClosed present], rfl, rfl⟩
      unfold takenOver evictPublisher
      rw [hp]
      exact ⟨hserial, _, hclosed.trans hks, hperm.cons _⟩
    exact .lose (htaken.retains haccepted) ⟨hready, hf⟩ (fun _ => hp.symm) fun hn => absurd hf hn

/-- **A publisher leaves**, and the stream with it. -/
lemma parting_removePublisher (d : Client) :
    Parting p (.step (.message (.removePublisher d))) (p.removePublisher d).closeIfUnused := by
  have hclosed := (hc.removePublisher d).retains_closeIfUnused
    ((p.proceeds_removePublisher d).ended.trans he)
  refine (?_ : ∀ q, Retains (p.removePublisher d) q → Parting p _ q) _ hclosed
  intro q hq
  unfold removePublisher at hq
  split at hq
  · next hp =>
    have hready : p.isReady = true := by
      have hsource := publisher?_eq_some.1 hp
      have hsome := hc.publisher (hsource ▸ hc.source).eq_publisher
      simpa [hsource, isReady] using hsome.symm
    obtain ⟨hserial, hcloses⟩ : Loses p p.becomeUnready none := loses_becomeUnready hready
    have hlost : Loses p p.vacated none := ⟨hserial, hcloses⟩
    refine .lose (hlost.retains hq) ⟨hready, hp⟩ (fun hn => hn.elim) fun _ =>
      ⟨rfl, fun d' hd' => ?_⟩
    obtain rfl := Option.some.inj (hp.symm.trans hd')
    rfl
  · next hp =>
    have hends : ¬ p.EndsStream (.step (.message (.removePublisher d))) := fun hends => hp hends.2
    refine .retain hq hends fun k hk => ?_
    cases k with
    | publisher d' => exact ⟨fun heq => hp (by cases heq; exact hk), not_false⟩
    | reader d' => exact ⟨by simp [PathAct.leaving?], hends⟩

omit he in
/-- **The source is ready**, or has nothing to announce: what it announced before is over. -/
lemma parting_sourceReady (hs : p.conf.hasStaticSource = true) (n : Nat) (d : MediaDescription)
    (rtp : Bool) :
    Parting p (.step (.message (.sourceReady n d rtp))) (p.sourceReady n d rtp) := by
  have hgoes : Retains p.becomeUnready (p.sourceReady n d rtp) := by
    unfold sourceReady Stream.open?
    by_cases hd : d.isEmpty = true
    · simp only [hd, ↓reduceIte]
      exact retains_answer _ n _
    · simp only [hd, Bool.false_eq_true, ↓reduceIte]
      exact retains_accepted _ _ (.sourceReady _) n
  cases hstream : p.stream with
  | none =>
    rw [becomeUnready_of_none p hstream] at hgoes
    exact hc.parting hstream hgoes
  | some s =>
    have hready : p.isReady = true := by simp [isReady, hstream]
    exact ((loses_becomeUnready hready).retains hgoes).parting_static hc hs hready not_false

/-- **The source has failed.** -/
lemma parting_sourceNotReady (hs : p.conf.hasStaticSource = true) :
    Parting p (.step (.message .sourceNotReady)) p.sourceNotReady.closeIfUnused := by
  have hstops : Retains p.becomeUnready p.sourceNotReady := by
    unfold sourceNotReady
    dsimp only
    split
    · next hbusy =>
      have hphase : p.becomeUnready.sourceDemand.phase ≠ .idle := by
        simpa [OnDemand.isIdle] using (Bool.and_eq_true_iff.1 hbusy).2
      exact (Drive.stopSource _ _ hphase).retains
    · exact .refl _
  have hgoes := hstops.trans ((hc.sourceNotReady hs).retains_closeIfUnused
    (p.proceeds_sourceNotReady.ended.trans he))
  cases hstream : p.stream with
  | none =>
    rw [becomeUnready_of_none p hstream] at hgoes
    exact hc.parting hstream hgoes
  | some s =>
    have hready : p.isReady = true := by simp [isReady, hstream]
    exact ((loses_becomeUnready hready).retains hgoes).parting_static hc hs hready not_false

/-- **A message** to a live path. -/
lemma parting_receive {m : PathMessage} (hm : m.isReport = true → p.conf.hasStaticSource = true) :
    Parting p (.step (.message m)) (p.receive m) := by
  unfold receive
  rw [if_neg (by simp [he])]
  cases m with
  | describe n query =>
    have hgoes := (retains_describe he n query).trans ((hc.describe n query).retains_closeIfUnused
      ((p.proceeds_describe n query).ended.trans he))
    exact hgoes.parting rfl not_false not_false
  | addPublisher n client d rtp query expected =>
    dsimp only
    split
    · next q hq =>
      cases hf : p.publisherFault? expected d with
      | none => exact parting_addPublisher hc hf hq
      | some e => simp [addPublisher, hf] at hq
    · next e hq =>
      have hf : p.publisherFault? expected d ≠ none := fun hf => by
        simp [addPublisher_eq, hf] at hq
      have hrefused : (p.answer n (.refused e)).Coherent := hc.of_vitals rfl
      exact ((p.retains_answer n _).trans (hrefused.retains_closeIfUnused he)).parting rfl
        (fun hends => hf hends.2) hf
  | removePublisher d => exact parting_removePublisher hc he d
  | addReader n client query =>
    have hgoes := (retains_addReader he n client query).trans
      ((hc.addReader n client query).retains_closeIfUnused
        ((p.proceeds_addReader n client query).ended.trans he))
    exact hgoes.parting rfl not_false not_false
  | removeReader d =>
    refine .leave d rfl ?_ ?_ ?_ ?_
    all_goals
      dsimp only
      rw [removeReader_eq]
  | sourceReady n d rtp => exact parting_sourceReady hc (hm rfl) n d rtp
  | sourceNotReady => exact parting_sourceNotReady hc he (hm rfl)
  | abandon n =>
    have hgoes : Retains p (p.abandon n) := .silently rfl rfl rfl rfl
    exact hgoes.parting rfl not_false not_false

end Live

/-! ### Steps -/

/-- **A timer goes off.** -/
lemma parting_expire (h : p.InOrder) (he : p.ended = false) (hdue : ∃ d ∈ p.deadline?, d ≤ p.now) :
    Parting p (.step .expire) p.expire := by
  have hc := h.coherent
  have hfailed := p.retains_failHeld (.sourceTimedOut p.name)
  have hended : (p.failHeld (.sourceTimedOut p.name)).ended = false :=
    (p.proceeds_failHeld (by simp)).ended.trans he
  rcases h.expire_cases hdue with ⟨hp, -, hr, heq⟩ | ⟨hp, hs, heq⟩ | ⟨hp, -, hr, heq⟩ |
    ⟨hp, hl, heq⟩
  · -- the source has not become ready in time
    have hstopped := (Drive.stopSource (p.failHeld (.sourceTimedOut p.name)) "timed out"
      (by simp [failHeld_eq, hp])).retains
    have ho := (h.failHeld (.sourceTimedOut p.name)).stopSource
      (by simpa [failHeld_eq, isReady] using hr) "timed out"
    rw [heq]
    exact hc.parting (by simpa [isReady] using hr) ((hfailed.trans hstopped).trans
      (ho.coherent.retains_closeIfUnused ((proceeds_stopSource _ _).ended.trans hended)))
  · -- nobody has read from the source for long enough
    have hstatic := (Bool.and_eq_true_iff.1 hs).1
    obtain ⟨hu, hr⟩ := h.paced.becomeUnready
    have ho := InOrder.stopSource ⟨hc.becomeUnready hstatic, hu⟩ hr "not needed by anyone"
    have hbusy : p.becomeUnready.sourceDemand.phase ≠ .idle := by
      simp [p.demands_becomeUnready.1, hp]
    have hgoes := (Drive.stopSource p.becomeUnready "not needed by anyone" hbusy).retains.trans
      (ho.coherent.retains_closeIfUnused
        ((proceeds_stopSource _ _).ended.trans (p.ended_becomeUnready.trans he)))
    rw [heq, retireSource]
    cases hstream : p.stream with
    | none =>
      rw [becomeUnready_of_none p hstream] at hgoes ⊢
      exact hc.parting hstream hgoes
    | some s =>
      have hready : p.isReady = true := by simp [isReady, hstream]
      exact ((loses_becomeUnready hready).retains hgoes).parting_static hc hstatic ⟨hready, hp⟩
        not_false
  · -- no publisher has come in time
    have hstopped := (Drive.stopLaunch (p.failHeld (.sourceTimedOut p.name)) "timed out"
      (by simp [failHeld_eq, hp])).retains
    have ho := (h.failHeld (.sourceTimedOut p.name)).stopLaunch "timed out"
    rw [heq]
    exact hc.parting (by simpa [isReady] using hr) ((hfailed.trans hstopped).trans
      (ho.coherent.retains_closeIfUnused ((proceeds_stopLaunch _ _).ended.trans hended)))
  · -- nobody has read from the publisher for long enough, who may stay
    have hstopped := (Drive.stopLaunch p "not needed by anyone" (by simp [hp])).retains
    have hidle := h.source_eq_idle hl
    rw [heq]
    exact hstopped.parting rfl (fun hends => by simpa [hidle] using hends.2) not_false

/-- **The destruction** of a live path. -/
lemma parting_destroy (hc : p.Coherent) (he : p.ended = false) :
    Parting p (.step .destroy) p.destroy := by
  have heq : p.destroy = { p with ended := true }.shutdown := by simp [destroy, he]
  rw [heq]
  cases hready : p.isReady with
  | false =>
    have hs : p.stream = none := by simpa [isReady] using hready
    exact hc.parting hs (retains_shutdown hs (hc.publisher?_eq_none hs) true)
  | true =>
    exact .lose (loses_shutdown hready true) hready (fun _ => rfl) fun hn => (hn trivial).elim

end Partings

/-- **Without a stream** nobody reads, also after the end. -/
lemma Reached.readers_eq_nil {p : Path} (h : p.Reached) : p.stream = none → p.readers = [] := by
  refine h.induction (I := fun p => p.stream = none → p.readers = []) (fun _ _ _ _ _ _ => ?_)
    fun p q hq hp hstream => ?_
  · rw [create_eq]
  · rcases hq.steady_or with hsteady | ⟨s, -, -, -, rfl⟩ | ⟨s, hs, rfl⟩ | ⟨c, -, -, rfl⟩ |
      ⟨silent, -, rfl⟩
    · have hnone : p.stream = none := by simpa [hstream] using hsteady.stream.symm
      rcases hq.attach_or_shrinks with ⟨n, client, hready, -⟩ | hshrinks
      · simp [isReady, hnone] at hready
      · exact List.sublist_nil.1 (hp hnone ▸ hshrinks.readers)
    · rw [becomeReady_eq] at hstream
      simp at hstream
    · rw [becomeUnready_eq p hs]
    · rw [reload_eq] at hstream ⊢
      exact hp hstream
    · exact hp hstream

/-- **Every act of a life** parts with those with whom it should. -/
theorem Lived.parting {p : Path} (h : p.Lived) {a : PathAct} (ha : p.Allows a) :
    Parting p a (p.act a) := by
  cases a with
  | media act => exact (p.retains_media act).parting rfl not_false not_false
  | step s =>
    cases he : p.ended with
    | false =>
      have ho := h.reached.orderly.live he
      cases s with
      | message m => exact parting_receive ho.coherent he ha
      | reload c => exact (p.retains_reload c).parting rfl not_false not_false
      | pass time => exact (Drive.pass p time ha.1).retains.parting rfl not_false not_false
      | expire => exact parting_expire ho he ha
      | destroy => exact parting_destroy ho.coherent he
    | true =>
      -- after the end nobody is attached, and nothing happens but that time passes
      have hover := h.reached.orderly.gone he
      have hsame : Retains p (p.step s) := by
        cases s with
        | message m =>
          rw [Path.step, receive_of_ended he]
          exact .refl p
        | reload c => simp [Allows, Permits, he] at ha
        | pass time => exact (Drive.pass p time ha.1).retains
        | expire => simp [Allows, Permits, deadline?, he] at ha
        | destroy =>
          rw [Path.step, destroy, if_pos he]
          exact .refl p
      refine .retain hsame (fun hends => ?_) fun k hk => ?_
      · simpa [isReady, hover.stream] using hends.ready
      · cases k with
        | publisher d => simp [HasClient, publisher?_eq_some, hover.source] at hk
        | reader d => simp [HasClient, h.reached.readers_eq_nil hover.stream] at hk

end Path

end LivePaths
