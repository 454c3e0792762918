import LivePaths.Proofs.Path.Effects

set_option relaxedAutoImplicit false
set_option autoImplicit false

/-!
# Coherence of a path

What a path knows of its readiness is spread over several fields: the stream, the time since when it
is there, the teardown that waits for its end, the readers, the recording, the held requests and the
source. They agree with each other and with the configuration whatever happens to the path.

## Main definitions

* `SourceKind.Fits` — a source of the kind that a configuration names.
* `Path.Coherent` — all that a live path knows of its readiness agrees.
* `Path.Bare` — nothing is left that depends on a stream.

## Main results

* `Path.Coherent.snapshot_eq` — what can be seen of a path that is not ready.
* `Path.Bare.coherent`, `Path.coherent_accepted` — a path is coherent after it has lost its stream
  and after it has become ready.
* `Path.Coherent.describe`, `Path.Coherent.sourceReady`, … — the operations keep paths coherent.
-/

namespace LivePaths

/-! ## Sources and configurations -/

/-- **A source fits a kind**: readers are sent elsewhere or the path runs its source itself exactly
if the kind says so, and a path for publishers has a publisher or nothing. -/
structure SourceKind.Fits (k : SourceKind) (s : Option Source) : Prop where
  redirect_iff : s = some .redirect ↔ k = .redirect
  static_iff : (∃ url, s = some (.static url)) ↔ k.isStatic = true
  publisher : k = .publisher → s = none ∨ ∃ client, s = some (.publisher client)

namespace SourceKind

variable {k : SourceKind} {s : Option Source}

/-- What is neither run by the path nor sent elsewhere is published. -/
lemma eq_publisher (hs : k.isStatic = false) (hr : k ≠ .redirect) : k = .publisher := by
  cases k <;> simp_all [isStatic]

/-- A path that runs its source itself neither has publishers nor sends its readers elsewhere. -/
lemma ne_of_isStatic (hs : k.isStatic = true) : k ≠ .publisher ∧ k ≠ .redirect := by
  cases k <;> simp_all [isStatic]

/-- A path begins with a source that fits. -/
lemma fits_first (k : SourceKind) : k.Fits k.first := by
  cases k <;> exact ⟨by simp [first], by simp [first, isStatic], by simp [first]⟩

/-- A path for publishers can do without one. -/
lemma fits_none (h : k = .publisher) : k.Fits none := by
  subst h
  exact ⟨by simp, by simp [isStatic], by simp⟩

lemma fits_publisher (h : k = .publisher) (client : Client) :
    k.Fits (some (.publisher client)) := by
  subst h
  exact ⟨by simp, by simp [isStatic], by simp⟩

/-- Whoever publishes does so on a path for publishers. -/
lemma Fits.eq_publisher {client : Client} (h : k.Fits (some (.publisher client))) :
    k = .publisher := by
  refine SourceKind.eq_publisher ?_ fun hr => ?_
  · simpa using h.static_iff
  · simpa using h.redirect_iff.2 hr

/-- A source that the path runs itself is there. -/
lemma Fits.isSome_of_isStatic (h : k.Fits s) (hs : k.isStatic = true) : s.isSome = true := by
  obtain ⟨url, rfl⟩ := h.static_iff.2 hs
  rfl

end SourceKind

namespace Path

lemma publisher?_eq_some {p : Path} {client : Client} :
    p.publisher? = some client ↔ p.source = some (.publisher client) := by
  unfold publisher?
  split <;> simp_all

/-- A source that fits still does so under a configuration that the path absorbs. -/
lemma fits_sourceUnder {p : Path} {c : Conf} (h : p.conf.source.Fits p.source)
    (hc : c.source = p.conf.source) : c.source.Fits (p.sourceUnder c) := by
  rw [hc]
  unfold sourceUnder
  split
  · next url hs =>
    rw [hs] at h
    have hstatic : p.conf.source.isStatic = true := h.static_iff.1 ⟨url, rfl⟩
    obtain ⟨hpub, hred⟩ := SourceKind.ne_of_isStatic hstatic
    exact ⟨by simpa using hred, by simpa using hstatic, fun hp => absurd hp hpub⟩
  · exact h

/-! ## Coherence -/

/-- **Coherence** of a live path: the time and the teardown are there exactly with the stream;
without a stream nobody reads and nothing is recorded; with one nothing is held, and it has a media;
the source fits the configuration, a publisher is there exactly with the stream, and a path that
sends its readers elsewhere has no stream. -/
structure Coherent (p : Path) : Prop where
  time : p.readySince.isSome = p.stream.isSome
  teardown : p.onNotReady.isSome = p.stream.isSome
  readers : p.stream = none → p.readers = []
  recording : p.stream = none → p.recording = none
  held : p.isReady = true → p.holdsRequests = false
  described : ∀ s ∈ p.stream, s.description.isEmpty = false
  source : p.conf.source.Fits p.source
  publisher : p.conf.source = .publisher → p.source.isSome = p.stream.isSome
  redirect : p.conf.source = .redirect → p.stream = none

/-- **Vital signs**: what coherence is about. -/
def vitals (p : Path) :
    SourceKind × Option Source × Option MediaDescription × Option Nat × Option Teardown ×
      List Client × Option Recording × Bool :=
  (p.conf.source, p.source, p.stream.map (·.description), p.readySince, p.onNotReady, p.readers,
    p.recording, p.holdsRequests)

/-- **Nothing is left** that depends on a stream. -/
structure Bare (p : Path) : Prop where
  stream : p.stream = none
  readySince : p.readySince = none
  onNotReady : p.onNotReady = none
  readers : p.readers = []
  recording : p.recording = none

/-- A bare path is coherent if its source fits and nobody publishes. -/
lemma Bare.coherent {p : Path} (h : p.Bare) (hfits : p.conf.source.Fits p.source)
    (hpub : p.conf.source = .publisher → p.source = none) : p.Coherent where
  time := by simp [h.readySince, h.stream]
  teardown := by simp [h.onNotReady, h.stream]
  readers _ := h.readers
  recording _ := h.recording
  held hr := by simp [isReady, h.stream] at hr
  described := by simp [h.stream]
  source := hfits
  publisher hc := by simp [hpub hc, h.stream]
  redirect _ := h.stream

/-- **A new path** is bare and has the source that its configuration names. -/
lemma coherent_create (settings : PathSettings) (now id : Nat) (name : String)
    (found : ConfSet.Found) : (create settings now id name found).Coherent := by
  rw [create_eq]
  refine Bare.coherent ⟨rfl, rfl, rfl, rfl, rfl⟩ (SourceKind.fits_first _) fun hp => ?_
  exact congrArg SourceKind.first hp

/-- **After becoming ready** a path is coherent: held requests are released at once, so that nothing
is held besides a stream. -/
lemma coherent_accepted {p q : Path} {s : Stream} (hd : s.description.isEmpty = false)
    (hfits : p.conf.source.Fits p.source)
    (hpub : p.conf.source = .publisher → p.source.isSome = true)
    (hred : p.conf.source ≠ .redirect) (hq : q.vitals = (p.becomeReady s).vitals) (e : PathEvent) :
    (q.releaseHeld.emit e).Coherent := by
  rw [becomeReady_eq] at hq
  simp only [vitals, Prod.mk.injEq, Option.map_some] at hq
  obtain ⟨hconf, hsource, hstream, htime, hteardown, -, -, -⟩ := hq
  obtain ⟨t, ht, hdesc⟩ := Option.map_eq_some_iff.1 hstream
  obtain ⟨cs, answers, -, -, heq⟩ := q.releaseHeld_eq (by simp [isReady, ht])
  rw [← hconf, ← hsource] at hfits
  rw [heq]
  refine ⟨?_, ?_, fun hn => ?_, fun hn => ?_, fun _ => rfl, fun u hu => ?_, hfits, fun hp => ?_,
    fun hr => ?_⟩
  · simp [takeIn, emit, htime, ht]
  · simp [takeIn, emit, hteardown, ht]
  · simp [takeIn, emit, ht] at hn
  · simp [takeIn, emit, ht] at hn
  · obtain rfl : t = u := by simpa [takeIn, emit, ht] using hu
    exact (congrArg MediaDescription.isEmpty hdesc).trans hd
  · have := hpub (hconf.symm.trans hp)
    simpa [takeIn, emit, hsource, ht] using this
  · exact absurd (hconf.symm.trans hr) hred

/-- Losing the stream changes neither the configuration nor the source. -/
lemma sources_becomeUnready (p : Path) :
    p.becomeUnready.conf = p.conf ∧ p.becomeUnready.source = p.source := by
  cases hs : p.stream with
  | none => simp [becomeUnready_of_none p hs]
  | some s => simp [becomeUnready_eq p hs]

/-- Only a path for publishers takes one. -/
lemma source_eq_publisher {p : Path} {expected : Option Conf} {d : MediaDescription}
    (h : p.publisherFault? expected d = none) : p.conf.source = .publisher := by
  by_contra hne
  simp [publisherFault?, hne] at h

/-- A publisher who takes over does not change the configuration. -/
lemma conf_takenOver (p : Path) (client : Client) (query : String) :
    (p.takenOver client query).conf = p.conf := by
  unfold takenOver evictPublisher
  split
  · rfl
  · next present _ => exact (p.emit (.publisherClosed present)).sources_becomeUnready.1

/-- **A publisher who is taken** brings a stream, whatever was there before. -/
lemma coherent_addPublisher {p q : Path} {request : Nat} {client : Client}
    {d : MediaDescription} {rtp : Bool} {query : String} {expected : Option Conf}
    (hq : p.addPublisher request client d rtp query expected = .ok q) : q.Coherent := by
  rw [addPublisher_eq] at hq
  split at hq
  · cases hq
  · next hf =>
    have hp : (p.takenOver client query).conf.source = .publisher :=
      (congrArg Conf.source (p.conf_takenOver client query)).trans (source_eq_publisher hf)
    rw [← Except.ok.inj hq]
    refine coherent_accepted (s := p.announced d rtp) (not_isEmpty_of_publisherFault? hf)
      (SourceKind.fits_publisher hp client) (fun _ => rfl) (by simp [hp]) ?_ _
    rw [notePublisherReady_eq]
    rfl

namespace Coherent

variable {p q : Path} (h : p.Coherent)

include h

/-- Only the vital signs matter. -/
lemma of_vitals (hq : q.vitals = p.vitals) : q.Coherent := by
  simp only [vitals, Prod.mk.injEq] at hq
  obtain ⟨hconf, hsource, hstream, htime, hteardown, hreaders, hrec, hheld⟩ := hq
  have hsome : q.stream.isSome = p.stream.isSome := by simpa using congrArg Option.isSome hstream
  have hnone : q.stream = none ↔ p.stream = none := by
    simpa using congrArg (· = none) hstream
  refine ⟨?_, ?_, fun hn => ?_, fun hn => ?_, fun hr => ?_, fun s hs => ?_, ?_, fun hp => ?_,
    fun hr => ?_⟩
  · rw [htime, hsome, h.time]
  · rw [hteardown, hsome, h.teardown]
  · rw [hreaders, h.readers (hnone.1 hn)]
  · rw [hrec, h.recording (hnone.1 hn)]
  · rw [hheld, h.held (hsome.symm.trans hr)]
  · obtain ⟨t, ht, hdesc⟩ :=
      Option.map_eq_some_iff.1 (hstream.symm.trans (congrArg _ (Option.mem_def.1 hs)))
    exact (congrArg MediaDescription.isEmpty hdesc).symm.trans (h.described t ht)
  · rw [hconf, hsource]
    exact h.source
  · rw [hsome, hsource, h.publisher (hconf.symm.trans hp)]
  · exact hnone.2 (h.redirect (hconf.symm.trans hr))

/-- A path without a stream is bare. -/
lemma bare (hs : p.stream = none) : p.Bare where
  stream := hs
  readySince := by simpa [hs] using h.time
  onNotReady := by simpa [hs] using h.teardown
  readers := h.readers hs
  recording := h.recording hs

/-- A path that is ready has a source. -/
lemma isSome_source (hr : p.isReady = true) : p.source.isSome = true := by
  cases hs : p.conf.source.isStatic with
  | true => exact h.source.isSome_of_isStatic hs
  | false =>
    have hred : p.conf.source ≠ .redirect := fun hred => by simp [isReady, h.redirect hred] at hr
    exact (h.publisher (SourceKind.eq_publisher hs hred)).trans hr

/-- **What can be seen** of a path that is not ready: its name, its configuration and its source. -/
theorem snapshot_eq (hr : p.isReady = false) :
    p.snapshot = { Snapshot.idle p.name p.conf.name with source := p.sourceDescriptor } := by
  have hs : p.stream = none := by simpa [isReady] using hr
  simp [snapshot, hs, h.readers hs, Text.sortByLine, Snapshot.idle]

/-! ## Losing the stream -/

/-- Losing the stream leaves nothing that depends on it. -/
lemma bare_becomeUnready : p.becomeUnready.Bare := by
  cases hs : p.stream with
  | none =>
    rw [becomeUnready_of_none p hs]
    exact h.bare hs
  | some s =>
    rw [becomeUnready_eq p hs]
    exact ⟨rfl, rfl, rfl, rfl, rfl⟩

/-- A source that the path runs itself can take the stream away. -/
lemma becomeUnready (hs : p.conf.hasStaticSource = true) : p.becomeUnready.Coherent := by
  obtain ⟨hconf, hsource⟩ := p.sources_becomeUnready
  refine h.bare_becomeUnready.coherent ?_ fun hp => ?_
  · rw [hconf, hsource]
    exact h.source
  · exact absurd (hconf ▸ hp) (SourceKind.ne_of_isStatic hs).1

/-- A publisher who leaves takes the stream away. -/
lemma vacated (hp : p.conf.source = .publisher) : p.vacated.Coherent := by
  obtain ⟨hconf, -⟩ := p.sources_becomeUnready
  obtain ⟨hstream, htime, hteardown, hreaders, hrec⟩ := h.bare_becomeUnready
  have hbare : p.vacated.Bare := ⟨hstream, htime, hteardown, hreaders, hrec⟩
  exact hbare.coherent (SourceKind.fits_none ((congrArg Conf.source hconf).trans hp)) fun _ => rfl

/-- Nobody reads from a path that a publisher has just taken over. -/
lemma readers_takenOver (hp : p.conf.source = .publisher) (client : Client) (query : String) :
    (p.takenOver client query).readers = [] := by
  unfold takenOver evictPublisher
  split
  · next hnone =>
    refine h.readers ?_
    have hpub := h.publisher hp
    rcases h.source.publisher hp with hs | ⟨present, hs⟩
    · simpa [hs] using hpub.symm
    · simp [publisher?_eq_some.2 hs] at hnone
  · next present _ =>
    have hemitted : (p.emit (.publisherClosed present)).Coherent := h.of_vitals rfl
    exact hemitted.bare_becomeUnready.readers

/-! ## Requests of readers -/

/-- Asking for what runs on demand changes no vital sign. -/
lemma awaken {query : String} (hq : p.awaken? query = some q) :
    q.Coherent ∧ q.isReady = p.isReady := by
  obtain rfl | ⟨-, -, rfl⟩ | ⟨-, -, rfl⟩ := awaken?_cases hq
  · exact ⟨h, rfl⟩
  · rw [startSource_eq]
    exact ⟨h.of_vitals rfl, rfl⟩
  · rw [startLaunch_eq]
    exact ⟨h.of_vitals rfl, rfl⟩

/-- While the path is not ready, requests can be held. -/
lemma hold (hr : p.isReady = false) (ds : List HeldDescribe) (rs : List HeldReader) :
    { p with heldDescribes := ds, heldReaders := rs }.Coherent :=
  ⟨h.time, h.teardown, h.readers, h.recording, fun hready => by simp_all [isReady], h.described,
    h.source, h.publisher, h.redirect⟩

/-- **Asking for the stream.** -/
lemma describe (request : Nat) (query : String) : (p.describe request query).Coherent := by
  unfold Path.describe
  split
  · exact h.of_vitals rfl
  · split
    · exact h.of_vitals rfl
    · next hr =>
      split
      · next q hq =>
        obtain ⟨hc, hready⟩ := h.awaken hq
        exact hc.hold (hready.trans (by simpa using hr)) _ _
      · split <;> exact h.of_vitals rfl

/-- Readers who are taken in come to a ready path. -/
lemma takeIn (hr : p.isReady = true) (cs : List Client) : (p.takeIn cs).Coherent := by
  have hs : p.stream ≠ none := by simpa [isReady, Option.isSome_iff_ne_none] using hr
  exact ⟨h.time, h.teardown, fun hn => absurd hn hs, h.recording, h.held, h.described, h.source,
    h.publisher, h.redirect⟩

/-- **Asking to read.** -/
lemma addReader (request : Nat) (client : Client) (query : String) :
    (p.addReader request client query).Coherent := by
  unfold Path.addReader
  split
  · next hr =>
    obtain ⟨cs, a, -, heq⟩ := p.attach_eq hr request client
    rw [heq]
    exact (h.takeIn hr cs).of_vitals rfl
  · next hr =>
    split
    · next q hq =>
      obtain ⟨hc, hready⟩ := h.awaken hq
      exact hc.hold (hready.trans (by simpa using hr)) _ _
    · exact h.of_vitals rfl

/-- **Readers who leave** do not take the stream away. -/
lemma removeReader (client : Client) : (p.removeReader client).Coherent := by
  rw [removeReader_eq]
  exact ⟨h.time, h.teardown, fun hn => by simp [h.readers hn], h.recording, h.held, h.described,
    h.source, h.publisher, h.redirect⟩

/-- **Giving up** leaves the requests in their places. -/
lemma abandon (request : Nat) : (p.abandon request).Coherent := by
  refine h.of_vitals ?_
  simp [vitals, Path.abandon, holdsRequests]

/-! ## Publishers -/

/-- **A publisher leaves.** -/
lemma removePublisher (client : Client) : (p.removePublisher client).Coherent := by
  unfold Path.removePublisher
  split
  · next hc =>
    have hfits := h.source
    rw [publisher?_eq_some.1 hc] at hfits
    exact h.vacated hfits.eq_publisher
  · exact h

/-! ## Reports of the source -/

/-- **The source is ready**, or has nothing to announce. -/
lemma sourceReady (hs : p.conf.hasStaticSource = true) (request : Nat) (d : MediaDescription)
    (rtp : Bool) : (p.sourceReady request d rtp).Coherent := by
  have hu := h.becomeUnready hs
  obtain ⟨hpub, hred⟩ := SourceKind.ne_of_isStatic hs
  rw [← p.sources_becomeUnready.1] at hpub hred
  unfold Path.sourceReady Stream.open?
  by_cases hd : d.isEmpty = true
  · simp only [hd, ↓reduceIte]
    exact hu.of_vitals rfl
  · simp only [hd, Bool.false_eq_true, ↓reduceIte]
    refine coherent_accepted (s := p.announced d rtp) (by simpa [announced] using hd) hu.source
      (fun hp => absurd hp hpub) hred ?_ _
    rw [noteSourceReady_eq]
    rfl

/-- **The source has failed.** -/
lemma sourceNotReady (hs : p.conf.hasStaticSource = true) : p.sourceNotReady.Coherent := by
  have hu := h.becomeUnready hs
  unfold Path.sourceNotReady
  dsimp only
  split
  · rw [stopSource_eq]
    exact hu.of_vitals rfl
  · exact hu

/-! ## Deadlines and configurations -/

/-- **Refusing** all who wait. -/
lemma failHeld (e : PathError) : (p.failHeld e).Coherent := by
  rw [failHeld_eq]
  exact ⟨h.time, h.teardown, h.readers, h.recording, fun _ => rfl, h.described, h.source,
    h.publisher, h.redirect⟩

/-- **A new configuration** that a running path can absorb. -/
lemma reload {c : Conf} (hc : p.conf.canHotReload c = true) : (p.reload c).Coherent := by
  have hsource : c.source = p.conf.source := (Conf.eq_of_canHotReload hc).1
  rw [reload_eq]
  refine ⟨h.time, h.teardown, h.readers, fun hn => ?_, h.held, h.described,
    fits_sourceUnder h.source hsource, fun hp => ?_, fun hr => h.redirect (hsource.symm.trans hr)⟩
  · have hn : p.stream = none := hn
    simp [recordingUnder, isReady, hn, h.recording hn]
  · rw [← h.publisher (hsource.symm.trans hp)]
    unfold sourceUnder
    split <;> simp_all

end Coherent

end Path

end LivePaths
