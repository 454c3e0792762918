import LivePaths.Path.Run
import LivePaths.Proofs.Command.Launches

set_option relaxedAutoImplicit false
set_option autoImplicit false

/-!
# What operations do to a path

For each operation one equation that says everything it does: which fields change, what is launched
and which events are written down. Everything else is said about runs in terms of these equations.

## Main definitions

* `SourceKind.first`, `ConfSet.Found.sourceStart` — the source with which a path begins.
* `Path.launcherAfter`, `Path.noticed`, `Path.sourceCall` — launches and events of small steps.
* `Path.recordingFor`, `Path.recordingStart`, `Path.recordingEnd` — what becomes of a recording.
* `Path.takeIn` — readers that are taken in together.
* `Path.readyEvents`, `Path.unreadyEvents`, `Path.endEvents` — what is written down of readiness and
  of the end.
* `Path.IsOver` — what is left after the end.

## Main results

* `Path.create_eq` — new paths.
* `Path.becomeReady_eq`, `Path.becomeUnready_eq` — the beginning and the end of readiness.
* `Path.startSource_eq`, `Path.stopSource_eq`, `Path.startLaunch_eq`, `Path.stopLaunch_eq` — what
  runs on demand.
* `Path.releaseHeld_eq`, `Path.failHeld_eq` — the two ends of holding.
* `Path.addPublisher_eq`, `Path.reload_eq` — new publishers and new configurations.
-/

namespace LivePaths

/-! ## What can run on demand -/

namespace Conf

/-- What runs its source itself does not launch anything to publish. -/
lemma hasOnDemandLaunch_of_static {c : Conf} (h : c.hasStaticSource = true) :
    c.hasOnDemandLaunch = false := by
  unfold hasStaticSource SourceKind.isStatic at h
  unfold hasOnDemandLaunch
  split at h <;> simp_all

/-- What launches a command to publish does not run its source itself. -/
lemma hasOnDemandSource_of_launch {c : Conf} (h : c.hasOnDemandLaunch = true) :
    c.hasOnDemandSource = false := by
  have hs : c.source = .publisher := by simpa using (Bool.and_eq_true_iff.1 h).1
  simp [hasOnDemandSource, hasStaticSource, SourceKind.isStatic, hs]

end Conf

/-! ## The first source -/

/-- The source with which a path begins. -/
def SourceKind.first : SourceKind → Option Source
  | .publisher => none
  | .redirect => some .redirect
  | .pull url => some (.static url)
  | .camera => some (.static SourceKind.camera.toText)

/-- The events of the source with which a path begins, if the path runs it itself. -/
def ConfSet.Found.sourceStart (found : ConfSet.Found) (name : String) : List PathEvent :=
  if found.conf.source.isStatic then
    .sourceCreated name found.conf.source.toText found.captures ::
      if found.conf.sourceOnDemand then [] else [.sourceStarted false ""]
  else []

/-- That a second reader has come is the same as that one has come. -/
@[simp]
lemma OnDemand.readerAttached_readerAttached (o : OnDemand) :
    o.readerAttached.readerAttached = o.readerAttached := by
  unfold readerAttached
  split <;> simp_all

namespace Path

/-! ## Launches and events of small steps -/

/-- The launcher after a teardown, if there is one. -/
def launcherAfter (p : Path) (t : Option Teardown) : Launcher :=
  match t with
  | some t => p.launcher.tearDown t
  | none => p.launcher

@[simp]
lemma now_launcherAfter (p : Path) (t : Option Teardown) : (p.launcherAfter t).now = p.now := by
  cases t with
  | none => rfl
  | some t => exact p.launcher.now_tearDown t

/-- The notices that a path gives, unless it is ending. -/
def noticed (p : Path) (n : Notice) : List PathEvent := if p.ended then [] else [.noticed n]

/-- The events of a call of the source, if the path runs it itself. -/
def sourceCall (p : Path) (e : PathEvent) : List PathEvent := if p.runsSource then [e] else []

lemma tearDown_eq (p : Path) (t : Option Teardown) :
    p.tearDown t = { p with launcher := p.launcherAfter t } := by
  cases t <;> rfl

lemma notify_eq (p : Path) (n : Notice) : p.notify n = { p with log := p.log ++ p.noticed n } := by
  unfold notify noticed
  split
  · simp
  · rfl

lemma tellSource_eq (p : Path) (e : PathEvent) :
    p.tellSource e = { p with log := p.log ++ p.sourceCall e } := by
  unfold tellSource sourceCall
  split
  · rfl
  · simp

/-! ## Recordings -/

/-- What is recorded of a stream, if there is somebody who records. -/
def recordingFor (p : Path) : Option Recording :=
  if p.settings.recorders then some (.ofConf p.name p.conf) else p.recording

/-- The events of the beginning of a recording of a stream. -/
def recordingStart (p : Path) (s : Stream) : List PathEvent :=
  if p.settings.recorders then [.recordStarted (.ofConf p.name p.conf) s.description.toText]
  else []

/-- The events of the end of the recording. -/
def recordingEnd (p : Path) : List PathEvent :=
  p.recording.toList.map fun r => .recordStopped r.params.pathFormat

lemma startRecording_eq (p : Path) {s : Stream} (h : p.stream = some s) :
    p.startRecording =
      { p with recording := p.recordingFor, log := p.log ++ p.recordingStart s } := by
  unfold startRecording recordingFor recordingStart
  split
  · next hn => simp [h] at hn
  · next hs =>
    obtain rfl := Option.some.inj (h.symm.trans hs)
    split
    · rfl
    · simp

lemma stopRecording_eq (p : Path) :
    p.stopRecording = { p with recording := none, log := p.log ++ p.recordingEnd } := by
  unfold stopRecording recordingEnd
  split
  · next h => cases p; simp_all
  · next r h => simp [h, emit]

/-! ## The beginning -/

/-- **A new path** has the source that its configuration names, and waits for its own end. -/
lemma create_eq (settings : PathSettings) (now id : Nat) (name : String) (found : ConfSet.Found) :
    let begun := ({ now } : Launcher).onInit (.base name settings.rtspAddress found.captures)
      found.conf.commands
    create settings now id name found =
      { id, name, conf := found.conf, captures := found.captures, settings
        source := found.conf.source.first
        onUninit := some begun.2
        launcher := begun.1
        log := found.sourceStart name ++ [.init] } := by
  unfold create takeSource ConfSet.Found.sourceStart
  dsimp only
  cases found.conf.source with
  | publisher => rfl
  | redirect => rfl
  | pull url => cases found.conf.sourceOnDemand <;> rfl
  | camera => cases found.conf.sourceOnDemand <;> rfl

@[simp]
lemma now_create (settings : PathSettings) (now id : Nat) (name : String) (found : ConfSet.Found) :
    (create settings now id name found).now = now := by
  rw [create_eq]
  exact Launcher.now_onInit ..

/-! ## Readiness -/

/-- **Becoming ready**: the stream is there, its time is known, a recording runs if the
configuration asks for it, and a teardown waits for the end of it all. -/
lemma becomeReady_eq (p : Path) (s : Stream) :
    let begun := p.launcher.onReady p.baseEnvironment p.conf.commands p.sourceDescriptor p.query
    p.becomeReady s =
      { p with
        stream := some s
        readySince := some p.now
        recording := if p.conf.record.enabled then p.recordingFor else p.recording
        onNotReady := some begun.2
        launcher := begun.1
        log := p.log ++ (if p.conf.record.enabled then p.recordingStart s else []) ++ [.ready] ++
          p.noticed .ready } := by
  unfold becomeReady
  by_cases h : p.conf.record.enabled = true
  · simp only [h, ↓reduceIte]
    rw [startRecording_eq _ rfl, notify_eq]
    rfl
  · simp only [h, notify_eq]
    simp [launchReady, emit, noticed, baseEnvironment, sourceDescriptor]

/-- **Ceasing to be ready**: nothing is left that depends on the stream. -/
lemma becomeUnready_eq (p : Path) {s : Stream} (h : p.stream = some s) :
    p.becomeUnready =
      { p with
        stream := none
        pastStreams := p.pastStreams ++ [s.close]
        readySince := none
        readers := []
        recording := none
        onNotReady := none
        launcher := p.launcherAfter p.onNotReady
        log := p.log ++ p.noticed .notReady ++ p.readers.map .readerClosed ++ [.notReady] ++
          p.recordingEnd } := by
  have hr : p.isReady = true := by simp [isReady, h]
  unfold becomeUnready
  rw [if_pos hr, notify_eq]
  simp only [closeReaders, tearDown_eq, stopRecording_eq, emit, closeStream, h]
  simp [recordingEnd, launcherAfter]

/-- A path that is not ready stays as it is. -/
lemma becomeUnready_of_none (p : Path) (h : p.stream = none) : p.becomeUnready = p := by
  simp [becomeUnready, isReady, h]

/-- Losing the stream does not concern what runs on demand. -/
lemma demands_becomeUnready (p : Path) :
    p.becomeUnready.sourceDemand = p.sourceDemand ∧
      p.becomeUnready.launchDemand = p.launchDemand := by
  cases hs : p.stream with
  | none => simp [becomeUnready_of_none p hs]
  | some s => simp [becomeUnready_eq p hs]

/-! ## What runs on demand -/

lemma noteSourceReady_eq (p : Path) :
    p.noteSourceReady =
      { p with
        sourceDemand :=
          if p.conf.hasOnDemandSource then p.sourceDemand.ready (p.now + p.conf.sourceCloseAfter)
          else p.sourceDemand } := by
  unfold noteSourceReady
  split <;> rfl

lemma notePublisherReady_eq (p : Path) :
    p.notePublisherReady =
      { p with
        launchDemand :=
          if p.conf.hasOnDemandLaunch && !p.launchDemand.isIdle then
            p.launchDemand.ready (p.now + p.conf.launchCloseAfter)
          else p.launchDemand } := by
  unfold notePublisherReady
  split <;> rfl

lemma startSource_eq (p : Path) (query : String) :
    p.startSource query =
      { p with
        query
        sourceDemand := p.sourceDemand.begin (p.now + p.conf.sourceStartTimeout)
        log := p.log ++ p.sourceCall (.sourceStarted true query) ++ [.sourceDemand query] } := by
  unfold startSource
  rw [tellSource_eq]
  rfl

lemma stopSource_eq (p : Path) (reason : String) :
    p.stopSource reason =
      { p with
        sourceDemand := p.sourceDemand.reset
        log := p.log ++ p.sourceCall (.sourceStopped reason) ++ [.sourceUndemand reason] } := by
  unfold stopSource
  rw [tellSource_eq]
  rfl

lemma startLaunch_eq (p : Path) (query : String) :
    let begun := p.launcher.onDemand p.baseEnvironment p.conf.commands query
    p.startLaunch query =
      { p with
        launcher := begun.1
        onUndemand := some begun.2
        launchDemand := p.launchDemand.begin (p.now + p.conf.launchStartTimeout)
        log := p.log ++ [.demand query] } :=
  rfl

lemma stopLaunch_eq (p : Path) (reason : String) :
    p.stopLaunch reason =
      { p with
        launcher := p.launcherAfter p.onUndemand
        onUndemand := none
        launchDemand := p.launchDemand.reset
        log := p.log ++ [.undemand reason] } := by
  unfold stopLaunch
  rw [tearDown_eq]
  rfl

/-- **Awakening** starts what runs on demand and is idle, or finds it started. -/
lemma awaken?_cases {p q : Path} {query : String} (h : p.awaken? query = some q) :
    q = p ∨
      (p.conf.hasOnDemandSource = true ∧ p.sourceDemand.phase = .idle ∧
        q = p.startSource query) ∨
      (p.conf.hasOnDemandLaunch = true ∧ p.launchDemand.phase = .idle ∧
        q = p.startLaunch query) := by
  unfold awaken? OnDemand.isIdle at h
  split at h
  · next hc =>
    obtain rfl := Option.some.inj h
    split
    · next hi => exact .inr (.inl ⟨hc, by simpa using hi, rfl⟩)
    · exact .inl rfl
  · split at h
    · next hc =>
      obtain rfl := Option.some.inj h
      split
      · next hi => exact .inr (.inr ⟨hc, by simpa using hi, rfl⟩)
      · exact .inl rfl
    · cases h

/-! ## Held requests -/

/-- The requests that are held for clients who have not given up, in the order of the answers. -/
def waiting (p : Path) : List Nat :=
  ((p.heldDescribes.filter fun h => !h.abandoned).map (·.request)) ++
    (p.heldReaders.filter fun h => !h.abandoned).map (·.request)

/-- Whether requests are held, also for clients who have given up. -/
def holdsRequests (p : Path) : Bool := !p.heldDescribes.isEmpty || !p.heldReaders.isEmpty

/-- Where nothing is held, nobody waits. -/
lemma waiting_eq_nil {p : Path} (h : p.holdsRequests = false) : p.waiting = [] := by
  simp only [holdsRequests, Bool.or_eq_false_iff, Bool.not_eq_eq_eq_not, Bool.not_false,
    List.isEmpty_iff] at h
  simp [waiting, h.1, h.2]

/-- Whoever waits still does so after others have joined. -/
lemma mem_waiting_of_append {p q : Path} (ds : List HeldDescribe) (rs : List HeldReader)
    (hd : q.heldDescribes = p.heldDescribes ++ ds) (hr : q.heldReaders = p.heldReaders ++ rs)
    {n : Nat} (h : n ∈ p.waiting) : n ∈ q.waiting := by
  unfold waiting at h ⊢
  rw [hd, hr, List.filter_append, List.filter_append, List.map_append, List.map_append]
  grind

/-- Whoever waits still does so after others have given up. -/
lemma mem_waiting_abandon {p : Path} {n request : Nat} (hne : n ≠ request) (h : n ∈ p.waiting) :
    n ∈ (p.abandon request).waiting := by
  unfold waiting abandon at *
  simp only [List.mem_append, List.mem_map, List.mem_filter] at h ⊢
  rcases h with ⟨d, ⟨hd, hopen⟩, rfl⟩ | ⟨r, ⟨hr, hopen⟩, rfl⟩
  · exact .inl ⟨d, ⟨⟨d, hd, if_neg hne⟩, hopen⟩, rfl⟩
  · exact .inr ⟨r, ⟨⟨r, hr, if_neg hne⟩, hopen⟩, rfl⟩

/-- The answers to several requests as events. -/
def answerEvents (answers : List (Nat × Answer)) : List PathEvent :=
  answers.map fun x => .answered x.1 x.2

/-- Answering held requests one after another only writes the answers down. -/
lemma foldl_answerHeld {α : Type} (request : α → Nat) (abandoned : α → Bool)
    (a : StreamId → Answer) (hs : List α) (p : Path) :
    hs.foldl (fun p h => p.answerHeld (request h) (abandoned h) (a p.streamId)) p =
      { p with
        log := p.log ++
          answerEvents ((hs.filter fun h => !abandoned h).map fun h =>
            (request h, a p.streamId)) } := by
  induction hs generalizing p with
  | nil => simp [answerEvents]
  | cons h rest ih =>
    rw [List.foldl_cons, ih]
    cases hb : abandoned h with
    | true => simp [answerHeld, hb]
    | false => simp [answerHeld, hb, answer, emit, streamId, answerEvents]

/-- **Failure**: nothing is held any more, and everybody who waits is refused. -/
lemma failHeld_eq (p : Path) (e : PathError) :
    p.failHeld e =
      { p with
        heldDescribes := []
        heldReaders := []
        log := p.log ++ answerEvents (p.waiting.map fun n => (n, .refused e)) } := by
  have hd := foldl_answerHeld HeldDescribe.request HeldDescribe.abandoned
    (fun _ => .refused e) p.heldDescribes
  have hr := foldl_answerHeld HeldReader.request HeldReader.abandoned
    (fun _ => .refused e) p.heldReaders
  simp only [failHeld, hd, hr]
  simp [waiting, answerEvents, Function.comp_def]

/-! ## Attaching readers -/

/-- **Taking in** several readers together: from the first one on nothing is stopped any more. -/
def takeIn (p : Path) (cs : List Client) : Path :=
  { p with
    readers := p.readers ++ cs
    sourceDemand :=
      if p.conf.hasOnDemandSource && !cs.isEmpty then p.sourceDemand.readerAttached
      else p.sourceDemand
    launchDemand :=
      if p.conf.hasOnDemandLaunch && !cs.isEmpty then p.launchDemand.readerAttached
      else p.launchDemand }

@[simp]
lemma takeIn_nil (p : Path) : p.takeIn [] = p := by simp [takeIn]

lemma takeIn_takeIn (p : Path) (cs ds : List Client) :
    (p.takeIn cs).takeIn ds = p.takeIn (cs ++ ds) := by
  cases cs with
  | nil => simp
  | cons c cs =>
    cases ds with
    | nil => simp
    | cons d ds => simp +contextual [takeIn]

/-- The answers that a reader can get who comes to a ready path. -/
def Admits (p : Path) (a : Answer) : Prop :=
  a = .stream p.streamId ∨ a = .refused (.maxReadersReached p.name)

/-- **Attaching a reader** to a ready path: the reader is taken in or not, and gets one answer. -/
lemma attach_eq (p : Path) (h : p.isReady = true) (request : Nat) (client : Client) :
    ∃ cs a, p.Admits a ∧ p.attach request client = (p.takeIn cs).answer request a := by
  unfold attach
  simp only [h, Bool.not_true, Bool.false_eq_true, ↓reduceIte]
  split
  · exact ⟨[], _, .inl rfl, by simp⟩
  · split
    · exact ⟨[], _, .inr rfl, by simp⟩
    · exact ⟨[client], _, .inl rfl, by simp [takeIn, noteReaderAttached, streamId]⟩

/-- Attaching several readers to a ready path: some are taken in, and each gets one answer.

**Proof sketch.** Induction on the readers; neither the stream nor the name changes, so that the
possible answers stay the same. -/
lemma foldl_attach (hs : List HeldReader) (p : Path) (h : p.isReady = true) :
    ∃ cs answers, answers.map Prod.fst = hs.map (·.request) ∧ (∀ x ∈ answers, p.Admits x.2) ∧
      hs.foldl (fun p h => p.attach h.request h.client) p =
        { p.takeIn cs with log := p.log ++ answerEvents answers } := by
  induction hs generalizing p with
  | nil => exact ⟨[], [], rfl, by simp, by simp [answerEvents]⟩
  | cons r rest ih =>
    obtain ⟨cs, a, ha, heq⟩ := p.attach_eq h r.request r.client
    obtain ⟨ds, answers, hreq, hall, hfold⟩ := ih ((p.takeIn cs).answer r.request a) h
    refine ⟨cs ++ ds, (r.request, a) :: answers, ?_, ?_, ?_⟩
    · simp [hreq]
    · rintro x (_ | ⟨_, hx⟩)
      · exact ha
      · exact hall x hx
    · rw [List.foldl_cons, heq, hfold, ← takeIn_takeIn]
      simp [answer, emit, takeIn, answerEvents]

/-- **Release**: nothing is held any more, everybody who waits gets one answer, and some of the
readers are taken in. -/
lemma releaseHeld_eq (p : Path) (h : p.isReady = true) :
    ∃ cs answers, answers.map Prod.fst = p.waiting ∧ (∀ x ∈ answers, p.Admits x.2) ∧
      p.releaseHeld =
        { p.takeIn cs with
          heldDescribes := []
          heldReaders := []
          log := p.log ++ answerEvents answers } := by
  unfold releaseHeld
  have hd := foldl_answerHeld HeldDescribe.request HeldDescribe.abandoned Answer.stream
    p.heldDescribes p
  simp only [h, ↓reduceIte, hd]
  set described : List (Nat × Answer) :=
    (p.heldDescribes.filter fun h => !h.abandoned).map fun h => (h.request, .stream p.streamId)
    with hdescribed
  obtain ⟨cs, answers, hreq, hall, hfold⟩ := foldl_attach
    (p.heldReaders.filter fun h => !h.abandoned)
    { p with log := p.log ++ answerEvents described, heldDescribes := [], heldReaders := [] } h
  refine ⟨cs, described ++ answers, ?_, ?_, ?_⟩
  · simp [waiting, hreq, hdescribed, Function.comp_def]
  · intro x hx
    rcases List.mem_append.1 hx with hx | hx
    · obtain ⟨r, _, rfl⟩ := List.mem_map.1 hx
      exact .inl rfl
    · exact hall x hx
  · rw [hfold]
    simp [takeIn, answerEvents]

/-- **Leaving**: when nobody is left, what is in use will be stopped. -/
lemma removeReader_eq (p : Path) (client : Client) :
    let rest := p.readers.filter (· ≠ client)
    p.removeReader client =
      { p with
        readers := rest
        sourceDemand :=
          if p.conf.hasOnDemandSource && rest.isEmpty then
            p.sourceDemand.readersGone (p.now + p.conf.sourceCloseAfter)
          else p.sourceDemand
        launchDemand :=
          if p.conf.hasOnDemandLaunch && rest.isEmpty then
            p.launchDemand.readersGone (p.now + p.conf.launchCloseAfter)
          else p.launchDemand } := by
  unfold removeReader
  by_cases h : (p.readers.filter (· ≠ client)).isEmpty = true
  · simp only [h, ↓reduceIte, Bool.and_true]
    rfl
  · simp only [h, ↓reduceIte, Bool.and_false, Bool.false_eq_true]

/-! ## Publishers -/

/-- The path whose publisher has left. -/
def vacated (p : Path) : Path := { p.becomeUnready with source := none }

/-- What a publisher announces who is not refused. -/
def announced (p : Path) (d : MediaDescription) (rtp : Bool) : Stream where
  description := d
  rtp
  capacity := (max p.settings.streamCapacity 1).nextPowerOfTwo

/-- The path that a publisher has taken over. -/
def takenOver (p : Path) (client : Client) (query : String) : Path :=
  { p.evictPublisher with source := some (.publisher client), query }

/-- A publisher who is not refused announces something. -/
lemma not_isEmpty_of_publisherFault? {p : Path} {expected : Option Conf} {d : MediaDescription}
    (h : p.publisherFault? expected d = none) : d.isEmpty = false := by
  cases hd : d.isEmpty with
  | false => rfl
  | true =>
    simp only [publisherFault?, hd, ↓reduceIte] at h
    split at h
    · cases h
    · split at h <;> cases h

/-- **A client wants to publish**: it is refused for the first reason there is, or it takes over the
path, which becomes ready and answers whoever waits. -/
lemma addPublisher_eq (p : Path) (request : Nat) (client : Client) (d : MediaDescription)
    (rtp : Bool) (query : String) (expected : Option Conf) :
    p.addPublisher request client d rtp query expected =
      match p.publisherFault? expected d with
      | some e => .error e
      | none =>
        let ready := ((p.takenOver client query).becomeReady (p.announced d rtp)
          |>.notePublisherReady.releaseHeld)
        .ok (ready.answer request (.stream ready.streamId)) := by
  unfold addPublisher
  cases hf : p.publisherFault? expected d with
  | some e => rfl
  | none =>
    have hd : d.isEmpty = false := not_isEmpty_of_publisherFault? hf
    simp only [Stream.open?, hd]
    rfl

/-! ## The end -/

/-- The events of the release of the source. -/
def sourceRelease (p : Path) : List PathEvent :=
  match p.source with
  | some (.static _) =>
    if p.conf.sourceOnDemand && p.sourceDemand.isIdle then [] else [.sourceClosed "path is closing"]
  | some (.publisher client) => [.publisherClosed client]
  | some .redirect | none => []

lemma releaseSource_eq (p : Path) :
    p.releaseSource = { p with source := none, log := p.log ++ p.sourceRelease } := by
  unfold releaseSource sourceRelease
  split <;> simp_all [emit]
  split <;> simp

/-- The beginning of the end: the timers are stopped, and whoever waits is refused. -/
def beginEnd (p : Path) : Path :=
  { p with
    ended := true
    sourceDemand := p.sourceDemand.stopTimers
    launchDemand := p.launchDemand.stopTimers
    onUninit := none
    launcher := p.launcherAfter p.onUninit
    heldDescribes := []
    heldReaders := []
    log := p.log ++ p.noticed .closed ++ [.uninit] ++
      answerEvents (p.waiting.map fun n => (n, .refused .terminated)) }

/-- **The end** after its beginning: the stream, the source and the launch are given up. -/
lemma shutdown_eq (p : Path) :
    p.shutdown =
      if p.beginEnd.becomeUnready.releaseSource.launchDemand.isIdle then
        p.beginEnd.becomeUnready.releaseSource
      else p.beginEnd.becomeUnready.releaseSource.stopLaunch "path destroyed" := by
  unfold shutdown
  simp only [tearDown_eq, notify_eq, failHeld_eq, emit]
  rfl

/-- **Over**: what is left of a path after its end. Nothing is held or armed, there is neither
stream nor source, and nothing is launched. -/
structure IsOver (p : Path) : Prop where
  ended : p.ended = true
  held : p.holdsRequests = false
  stream : p.stream = none
  source : p.source = none
  readyAt : p.sourceDemand.readyAt = none
  closeAt : p.sourceDemand.closeAt = none
  launch : p.launchDemand = {}

/-- **Every end** is one. -/
lemma isOver_shutdown (p : Path) : p.shutdown.IsOver := by
  have hidle {o : OnDemand} (h : o.stopTimers.isIdle = true) : o.stopTimers = {} := by
    have hp : o.phase = .idle := of_decide_eq_true h
    simp [OnDemand.stopTimers, hp]
  rw [shutdown_eq]
  cases hs : p.stream with
  | none =>
    rw [becomeUnready_of_none _ (by simpa [beginEnd] using hs), releaseSource_eq]
    split
    · next h => exact ⟨rfl, rfl, hs, rfl, rfl, rfl, hidle h⟩
    · rw [stopLaunch_eq]
      exact ⟨rfl, rfl, hs, rfl, rfl, rfl, rfl⟩
  | some s =>
    rw [becomeUnready_eq _ (s := s) (by simpa [beginEnd] using hs), releaseSource_eq]
    split
    · next h => exact ⟨rfl, rfl, rfl, rfl, rfl, rfl, hidle h⟩
    · rw [stopLaunch_eq]
      exact ⟨rfl, rfl, rfl, rfl, rfl, rfl, rfl⟩

/-- **Destruction** leaves nothing of a live path. -/
lemma isOver_destroy {p : Path} (he : p.ended = false) : p.destroy.IsOver := by
  have heq : p.destroy = { p with ended := true }.shutdown := by simp [destroy, he]
  exact heq ▸ isOver_shutdown _

/-- **After the end** no possible step changes anything but the time. -/
lemma IsOver.step {p : Path} (h : p.IsOver) {s : PathStep} (hs : p.Permits s) :
    (p.step s).IsOver := by
  cases s with
  | message m => simpa [Path.step, receive_of_ended h.ended] using h
  | reload c => simp [Permits, h.ended] at hs
  | pass time => exact ⟨h.ended, h.held, h.stream, h.source, h.readyAt, h.closeAt, h.launch⟩
  | expire => simp [Permits, deadline?, h.ended] at hs
  | destroy => simpa [Path.step, destroy, h.ended] using h

/-- A path that has a source is in use. -/
lemma isUnused_of_source {p : Path} (h : p.source.isSome = true) : p.isUnused = false := by
  simp [isUnused, Option.isSome_iff_ne_none.1 h]

/-- An unused path has no source. -/
lemma source_of_isUnused {p : Path} (h : p.isUnused = true) : p.source = none := by
  by_contra hs
  simp [isUnused_of_source (Option.isSome_iff_ne_none.2 hs)] at h

/-- A path that holds requests is in use. -/
lemma isUnused_of_held {p : Path} (h : p.holdsRequests = true) : p.isUnused = false := by
  simp only [holdsRequests, Bool.or_eq_true, Bool.not_eq_eq_eq_not, Bool.not_true] at h
  rcases h with h | h <;> simp [isUnused, h]

/-- A path that has a source is kept. -/
lemma closeIfUnused_of_source {p : Path} (h : p.source.isSome = true) : p.closeIfUnused = p := by
  simp [closeIfUnused, isUnused_of_source h]

/-- A path whose configuration has no pattern is kept. -/
lemma closeIfUnused_of_fixed {p : Path} (h : p.conf.hasPattern = false) : p.closeIfUnused = p := by
  simp [closeIfUnused, isUnused, h]

/-- A path that holds requests is kept. -/
lemma closeIfUnused_of_held {p : Path} (h : p.holdsRequests = true) : p.closeIfUnused = p := by
  simp [closeIfUnused, isUnused_of_held h]

/-! ## New configurations -/

/-- The source under a new configuration: one that the path runs itself follows it. -/
def sourceUnder (p : Path) (c : Conf) : Option Source :=
  match p.source with
  | some (.static _) => some (.static c.source.toText)
  | source => source

/-- The recording under a new configuration: on a ready path it follows what is recorded. -/
def recordingUnder (p : Path) (c : Conf) : Option Recording :=
  if p.isReady && p.conf.recordChanged c then
    if c.record.enabled && p.settings.recorders then some (.ofConf p.name c) else none
  else p.recording

/-- The events of the change of the recording under a new configuration. -/
def recordingChange (p : Path) (c : Conf) : List PathEvent :=
  if p.isReady && p.conf.recordChanged c then
    p.recordingEnd ++
      if c.record.enabled && p.settings.recorders then
        p.stream.toList.map fun s => .recordStarted (.ofConf p.name c) s.description.toText
      else []
  else []

lemma follow_eq (p : Path) (c : Conf) :
    p.follow c =
      { p with
        conf := c
        source := p.sourceUnder c
        log := p.log ++ p.sourceCall (.sourceReloaded c.name) } := by
  unfold follow sourceUnder sourceCall runsSource
  split <;> simp_all [emit]

/-- **A new configuration** concerns the source that the path runs itself and the recording. -/
lemma reload_eq (p : Path) (c : Conf) :
    p.reload c =
      { p with
        conf := c
        source := p.sourceUnder c
        recording := p.recordingUnder c
        log := p.log ++ p.sourceCall (.sourceReloaded c.name) ++ p.recordingChange c } := by
  unfold reload
  rw [follow_eq]
  by_cases hc : (p.isReady && p.conf.recordChanged c) = true
  · obtain ⟨s, hs⟩ := Option.isSome_iff_exists.1 (Bool.and_eq_true_iff.1 hc).1
    simp only [hc, ↓reduceIte, stopRecording_eq]
    by_cases he : c.record.enabled = true
    · rw [if_pos he, startRecording_eq _ (s := s) (by simpa using hs)]
      by_cases hr : p.settings.recorders = true <;>
        simp [recordingUnder, recordingChange, hc, he, hr, hs, recordingFor, recordingStart,
          recordingEnd]
    · rw [if_neg he]
      simp [recordingUnder, recordingChange, hc, he, recordingEnd]
  · simp [recordingUnder, recordingChange, hc]

/-! ## The events of readiness and of the end -/

/-- The events of becoming ready with a stream. -/
def readyEvents (p : Path) (s : Stream) : List PathEvent :=
  (if p.conf.record.enabled then p.recordingStart s else []) ++ [.ready] ++ p.noticed .ready

/-- The events of ceasing to be ready. -/
def unreadyEvents (p : Path) : List PathEvent :=
  p.noticed .notReady ++ p.readers.map .readerClosed ++ [.notReady] ++ p.recordingEnd

/-- The events of the beginning of the end. -/
def endEvents (p : Path) : List PathEvent :=
  p.noticed .closed ++ [.uninit] ++ answerEvents (p.waiting.map fun n => (n, .refused .terminated))

lemma log_becomeReady (p : Path) (s : Stream) :
    (p.becomeReady s).log = p.log ++ p.readyEvents s := by
  rw [becomeReady_eq]
  simp [readyEvents]

lemma log_becomeUnready (p : Path) {s : Stream} (h : p.stream = some s) :
    p.becomeUnready.log = p.log ++ p.unreadyEvents := by
  rw [becomeUnready_eq p h]
  simp [unreadyEvents]

lemma log_beginEnd (p : Path) : p.beginEnd.log = p.log ++ p.endEvents := by
  simp [beginEnd, endEvents]

/-! ## What the events of small steps have in common -/

section Events

variable {P : PathEvent → Prop} (p : Path)

lemma forall_noticed {n : Notice} (h : P (.noticed n)) : ∀ e ∈ p.noticed n, P e := by
  unfold noticed
  split <;> simp [h]

lemma forall_sourceCall {e : PathEvent} (h : P e) : ∀ f ∈ p.sourceCall e, P f := by
  unfold sourceCall
  split <;> simp [h]

lemma forall_recordingStart (h : ∀ d, P (.recordStarted (.ofConf p.name p.conf) d)) (s : Stream) :
    ∀ e ∈ p.recordingStart s, P e := by
  unfold recordingStart
  split <;> simp [h]

lemma forall_recordingEnd (h : ∀ f, P (.recordStopped f)) : ∀ e ∈ p.recordingEnd, P e := by
  simp [recordingEnd, h]

lemma forall_recordingChange (c : Conf) (hstart : ∀ d, P (.recordStarted (.ofConf p.name c) d))
    (hstop : ∀ f, P (.recordStopped f)) : ∀ e ∈ p.recordingChange c, P e := by
  unfold recordingChange
  split
  · refine List.forall_mem_append.2 ⟨p.forall_recordingEnd hstop, ?_⟩
    split <;> simp [hstart]
  · simp

lemma forall_sourceRelease (hsource : ∀ reason, P (.sourceClosed reason))
    (hclient : ∀ client, P (.publisherClosed client)) : ∀ e ∈ p.sourceRelease, P e := by
  unfold sourceRelease
  split <;> (try split) <;> simp [hsource, hclient]

lemma forall_answerEvents {answers : List (Nat × Answer)}
    (h : ∀ x ∈ answers, P (.answered x.1 x.2)) : ∀ e ∈ answerEvents answers, P e := by
  unfold answerEvents
  simpa using fun e n a hmem heq => heq ▸ h (n, a) hmem

lemma forall_readyEvents (hstart : ∀ d, P (.recordStarted (.ofConf p.name p.conf) d))
    (hready : P .ready) (hnotice : P (.noticed .ready)) (s : Stream) :
    ∀ e ∈ p.readyEvents s, P e := by
  unfold readyEvents
  simp only [List.forall_mem_append]
  refine ⟨⟨?_, by simpa using hready⟩, p.forall_noticed hnotice⟩
  split
  · exact p.forall_recordingStart hstart s
  · simp

lemma forall_unreadyEvents (hnotice : P (.noticed .notReady))
    (hreader : ∀ client, P (.readerClosed client)) (hunready : P .notReady)
    (hstop : ∀ f, P (.recordStopped f)) : ∀ e ∈ p.unreadyEvents, P e := by
  unfold unreadyEvents
  simp only [List.forall_mem_append]
  exact ⟨⟨⟨p.forall_noticed hnotice, by simp [hreader]⟩, by simpa using hunready⟩,
    p.forall_recordingEnd hstop⟩

lemma forall_endEvents (hnotice : P (.noticed .closed)) (huninit : P .uninit)
    (hanswer : ∀ n, P (.answered n (.refused .terminated))) : ∀ e ∈ p.endEvents, P e := by
  unfold endEvents
  simp only [List.forall_mem_append]
  refine ⟨⟨p.forall_noticed hnotice, by simpa using huninit⟩, forall_answerEvents ?_⟩
  simpa using fun n _ => hanswer n

end Events

end Path

end LivePaths
