import LivePaths.Proofs.Path.Lives

set_option relaxedAutoImplicit false
set_option autoImplicit false

/-!
# Paths under other numbers

A path never looks at its own number. It only mentions it when it gives one of its streams to
somebody. Under another number it therefore does the same, but for this number.

## Main definitions

* `Path.renumber` — the same path under another number.

## Main results

* `Path.renumber_create` — a path is created under any number in the same way.
* `Path.renumber_receive`, `Path.renumber_advance`, `Path.renumber_reload`, `Path.renumber_destroy`,
  `Path.renumber_media` — what happens to a path is the same under another number.
-/

namespace LivePaths

/-! ## Other numbers -/

/-- A stream of the same path under another number. -/
def StreamId.renumber (old new : Nat) (id : StreamId) : StreamId :=
  if id.path = old then { id with path := new } else id

/-- The same answer of a path under another number. -/
def Answer.renumber (old new : Nat) : Answer → Answer
  | .stream id => .stream (id.renumber old new)
  | a => a

/-- The same event of a path under another number. -/
def PathEvent.renumber (old new : Nat) : PathEvent → PathEvent
  | .answered n a => .answered n (a.renumber old new)
  | e => e

lemma PathEvent.notice?_renumber (old new : Nat) (e : PathEvent) :
    (e.renumber old new).notice? = e.notice? := by
  cases e <;> rfl

namespace Path

/-- **The same path** under another number. -/
def renumber (p : Path) (n : Nat) : Path :=
  { p with id := n, log := p.log.map (PathEvent.renumber p.id n) }

variable (p : Path) (n : Nat)

/-! ### What does not depend on the number -/

@[simp]
lemma name_renumber : (p.renumber n).name = p.name := rfl

@[simp]
lemma settings_renumber : (p.renumber n).settings = p.settings := rfl

@[simp]
lemma source_renumber : (p.renumber n).source = p.source := rfl

@[simp]
lemma stream_renumber : (p.renumber n).stream = p.stream := rfl

@[simp]
lemma recording_renumber : (p.renumber n).recording = p.recording := rfl

@[simp]
lemma publisher?_renumber : (p.renumber n).publisher? = p.publisher? := rfl

@[simp]
lemma deadline?_renumber : (p.renumber n).deadline? = p.deadline? := rfl

/-! ### What is done in the same way -/

lemma renumber_streamId : p.streamId.renumber p.id n = (p.renumber n).streamId := by
  simp [StreamId.renumber, streamId, renumber]

/-- A case distinction that does not depend on the number. -/
lemma renumber_ite {c c' : Prop} [Decidable c] [Decidable c'] {p q p' q' : Path} (hc : c ↔ c')
    (hp : p.renumber n = p') (hq : q.renumber n = q') :
    (if c then p else q).renumber n = if c' then p' else q' := by
  rw [apply_ite (renumber · n), hp, hq]
  exact if_congr hc rfl rfl

/-- Something that is done again and again. -/
lemma renumber_foldl {α : Type} {f : Path → α → Path}
    (hf : ∀ q x, (f q x).renumber n = f (q.renumber n) x) (l : List α) :
    (l.foldl f p).renumber n = l.foldl f (p.renumber n) := by
  induction l generalizing p with
  | nil => rfl
  | cons x rest ih => rw [List.foldl_cons, List.foldl_cons, ih, hf]

/-! ## Events -/

lemma renumber_emit {e : PathEvent} (he : e.renumber p.id n = e) :
    (p.emit e).renumber n = (p.renumber n).emit e := by
  simp [emit, renumber, he]

lemma renumber_answer (request : Nat) (a : Answer) :
    (p.answer request a).renumber n = (p.renumber n).answer request (a.renumber p.id n) := by
  simp [answer, emit, renumber, PathEvent.renumber]

/-- The present stream is given to somebody. -/
lemma renumber_answer_stream (request : Nat) :
    (p.answer request (.stream p.streamId)).renumber n =
      (p.renumber n).answer request (.stream (p.renumber n).streamId) := by
  rw [renumber_answer, Answer.renumber, renumber_streamId]

lemma renumber_notify (x : Notice) : (p.notify x).renumber n = (p.renumber n).notify x :=
  renumber_ite n Iff.rfl rfl (p.renumber_emit n rfl)

lemma renumber_tearDown (t : Option Teardown) :
    (p.tearDown t).renumber n = (p.renumber n).tearDown t := by
  cases t <;> rfl

/-! ## What runs on demand -/

lemma renumber_tellSource {e : PathEvent} (he : e.renumber p.id n = e) :
    (p.tellSource e).renumber n = (p.renumber n).tellSource e :=
  renumber_ite n Iff.rfl (p.renumber_emit n he) rfl

lemma renumber_startSource (query : String) :
    (p.startSource query).renumber n = (p.renumber n).startSource query := by
  unfold startSource
  rw [renumber_emit _ n rfl, ← renumber_tellSource p n rfl]
  rfl

lemma renumber_stopSource (reason : String) :
    (p.stopSource reason).renumber n = (p.renumber n).stopSource reason := by
  unfold stopSource
  rw [renumber_emit _ n rfl, renumber_tellSource _ n rfl]
  rfl

lemma renumber_startLaunch (query : String) :
    (p.startLaunch query).renumber n = (p.renumber n).startLaunch query :=
  renumber_emit _ n rfl

lemma renumber_stopLaunch (reason : String) :
    (p.stopLaunch reason).renumber n = (p.renumber n).stopLaunch reason := by
  unfold stopLaunch
  rw [renumber_emit _ n rfl, ← renumber_tearDown]
  rfl

lemma renumber_awaken? (query : String) :
    (p.awaken? query).map (·.renumber n) = (p.renumber n).awaken? query := by
  have hsource : (if p.sourceDemand.isIdle then p.startSource query else p).renumber n =
      if p.sourceDemand.isIdle then (p.renumber n).startSource query else p.renumber n :=
    renumber_ite n Iff.rfl (p.renumber_startSource n query) rfl
  have hlaunch : (if p.launchDemand.isIdle then p.startLaunch query else p).renumber n =
      if p.launchDemand.isIdle then (p.renumber n).startLaunch query else p.renumber n :=
    renumber_ite n Iff.rfl (p.renumber_startLaunch n query) rfl
  unfold awaken?
  rw [apply_ite (Option.map _), apply_ite (Option.map _), Option.map_some, Option.map_some,
    Option.map_none, hsource, hlaunch]
  rfl

lemma renumber_noteSourceReady :
    p.noteSourceReady.renumber n = (p.renumber n).noteSourceReady :=
  renumber_ite n Iff.rfl rfl rfl

lemma renumber_notePublisherReady :
    p.notePublisherReady.renumber n = (p.renumber n).notePublisherReady :=
  renumber_ite n Iff.rfl rfl rfl

/-! ## Readiness -/

lemma renumber_startRecording : p.startRecording.renumber n = (p.renumber n).startRecording := by
  unfold startRecording
  rw [stream_renumber]
  cases p.stream with
  | none => rfl
  | some s => exact renumber_ite n Iff.rfl (renumber_emit _ n rfl) rfl

lemma renumber_stopRecording : p.stopRecording.renumber n = (p.renumber n).stopRecording := by
  unfold stopRecording
  rw [recording_renumber]
  cases p.recording with
  | none => rfl
  | some r => exact renumber_emit _ n rfl

lemma renumber_becomeReady (s : Stream) :
    (p.becomeReady s).renumber n = (p.renumber n).becomeReady s := by
  set ready : Path := { p with stream := some s, readySince := some p.now } with hready
  have hrecording : (if ready.conf.record.enabled then ready.startRecording else ready).renumber n =
      if (ready.renumber n).conf.record.enabled then (ready.renumber n).startRecording
      else ready.renumber n := renumber_ite n Iff.rfl (renumber_startRecording _ n) rfl
  unfold becomeReady
  rw [renumber_notify, renumber_emit _ n rfl]
  have hlaunch (q : Path) : q.launchReady.renumber n = (q.renumber n).launchReady := rfl
  rw [hlaunch, hrecording]
  rfl

lemma renumber_becomeUnready : p.becomeUnready.renumber n = (p.renumber n).becomeUnready := by
  have hreaders (q : Path) : q.closeReaders.renumber n = (q.renumber n).closeReaders := by
    simp [closeReaders, renumber, PathEvent.renumber]
  have hstream (q : Path) : q.closeStream.renumber n = (q.renumber n).closeStream := rfl
  refine renumber_ite n Iff.rfl ?_ rfl
  rw [hstream, renumber_stopRecording, renumber_emit _ n rfl]
  have hleft : ((p.renumber n).notify .notReady).closeReaders =
      (p.notify .notReady).closeReaders.renumber n := by
    rw [hreaders, renumber_notify]
  simp only [hleft, ← renumber_tearDown]
  rfl

/-! ## Requests -/

lemma renumber_attach (request : Nat) (client : Client) :
    (p.attach request client).renumber n = (p.renumber n).attach request client := by
  have hstream (q : Path) (hq : q.streamId = p.streamId) (hid : q.id = p.id) :
      (q.answer request (.stream p.streamId)).renumber n =
        (q.renumber n).answer request (.stream (p.renumber n).streamId) := by
    rw [renumber_answer, Answer.renumber, hid, renumber_streamId]
  refine renumber_ite n Iff.rfl (renumber_answer _ n _ _) (renumber_ite n Iff.rfl ?_
    (renumber_ite n Iff.rfl (renumber_answer _ n _ _) ?_))
  · exact hstream p rfl rfl
  · exact hstream { p with readers := p.readers ++ [client] }.noteReaderAttached rfl rfl

lemma renumber_describe (request : Nat) (query : String) :
    (p.describe request query).renumber n = (p.renumber n).describe request query := by
  refine renumber_ite n Iff.rfl (renumber_answer _ n _ _)
    (renumber_ite n Iff.rfl (renumber_answer_stream _ n _) ?_)
  rw [← renumber_awaken?]
  cases p.awaken? query with
  | none => exact renumber_ite n Iff.rfl (renumber_answer _ n _ _) (renumber_answer _ n _ _)
  | some q => rfl

lemma renumber_addReader (request : Nat) (client : Client) (query : String) :
    (p.addReader request client query).renumber n =
      (p.renumber n).addReader request client query := by
  refine renumber_ite n Iff.rfl (renumber_attach p n _ _) ?_
  rw [← renumber_awaken?]
  cases p.awaken? query with
  | none => exact renumber_answer _ n _ _
  | some q => rfl

lemma renumber_removeReader (client : Client) :
    (p.removeReader client).renumber n = (p.renumber n).removeReader client :=
  renumber_ite n Iff.rfl rfl rfl

lemma renumber_answerHeld (request : Nat) (abandoned : Bool) (a : Answer) :
    (p.answerHeld request abandoned a).renumber n =
      (p.renumber n).answerHeld request abandoned (a.renumber p.id n) :=
  renumber_ite n Iff.rfl rfl (renumber_answer p n request a)

lemma renumber_releaseHeld : p.releaseHeld.renumber n = (p.renumber n).releaseHeld := by
  refine renumber_ite n Iff.rfl ?_ rfl
  rw [renumber_foldl _ n fun q h => renumber_attach q n h.request h.client]
  have hdescribed := renumber_foldl p n (l := p.heldDescribes)
    (f := fun q h => q.answerHeld h.request h.abandoned (.stream q.streamId)) fun q h => by
      rw [renumber_answerHeld, Answer.renumber, renumber_streamId]
  exact congrArg (fun q : Path =>
    (p.heldReaders.filter fun h => !h.abandoned).foldl (fun q h => q.attach h.request h.client)
      { q with heldDescribes := [], heldReaders := [] }) hdescribed

lemma renumber_failHeld (e : PathError) :
    (p.failHeld e).renumber n = (p.renumber n).failHeld e := by
  have hdescribed := renumber_foldl p n (l := p.heldDescribes)
    (f := fun q h => q.answerHeld h.request h.abandoned (.refused e)) fun q h =>
      renumber_answerHeld q n h.request h.abandoned (.refused e)
  have hread (q : Path) := renumber_foldl q n (l := p.heldReaders)
    (f := fun q h => q.answerHeld h.request h.abandoned (.refused e)) fun q h =>
      renumber_answerHeld q n h.request h.abandoned (.refused e)
  refine congrArg (fun q : Path => { q with heldDescribes := [], heldReaders := [] })
    ((hread _).trans ?_)
  rw [hdescribed]
  rfl

lemma renumber_evictPublisher :
    p.evictPublisher.renumber n = (p.renumber n).evictPublisher := by
  unfold evictPublisher
  rw [publisher?_renumber]
  cases p.publisher? with
  | none => rfl
  | some client =>
    dsimp only
    rw [← renumber_emit p n rfl, ← renumber_becomeUnready]
    rfl

lemma renumber_addPublisher (request : Nat) (client : Client) (d : MediaDescription)
    (rtp : Bool) (query : String) (expected : Option Conf) :
    (p.addPublisher request client d rtp query expected).map (·.renumber n) =
      (p.renumber n).addPublisher request client d rtp query expected := by
  have htaken : (p.takenOver client query).renumber n = (p.renumber n).takenOver client query := by
    unfold takenOver
    rw [← renumber_evictPublisher]
    rfl
  rw [addPublisher_eq, addPublisher_eq, ← htaken,
    show (p.renumber n).publisherFault? expected d = p.publisherFault? expected d from rfl,
    show (p.renumber n).announced d rtp = p.announced d rtp from rfl, ← renumber_becomeReady,
    ← renumber_notePublisherReady, ← renumber_releaseHeld]
  cases p.publisherFault? expected d with
  | some e => rfl
  | none => exact congrArg Except.ok (renumber_answer_stream _ n request)

lemma renumber_removePublisher (client : Client) :
    (p.removePublisher client).renumber n = (p.renumber n).removePublisher client := by
  refine renumber_ite n Iff.rfl ?_ rfl
  rw [← renumber_becomeUnready]
  rfl

lemma renumber_sourceReady (request : Nat) (d : MediaDescription) (rtp : Bool) :
    (p.sourceReady request d rtp).renumber n = (p.renumber n).sourceReady request d rtp := by
  unfold sourceReady
  rw [name_renumber, settings_renumber, ← renumber_becomeUnready]
  cases Stream.open? p.name d rtp p.settings.streamCapacity with
  | error e => exact renumber_answer _ n _ _
  | ok s =>
    dsimp only
    rw [renumber_answer_stream, renumber_releaseHeld, renumber_noteSourceReady,
      renumber_becomeReady]

lemma renumber_sourceNotReady :
    p.sourceNotReady.renumber n = (p.renumber n).sourceNotReady := by
  unfold sourceNotReady
  rw [← renumber_becomeUnready]
  exact renumber_ite n Iff.rfl (renumber_stopSource _ n _) rfl

/-! ## The life of a path -/

lemma renumber_create (settings : PathSettings) (now id : Nat) (name : String)
    (found : ConfSet.Found) :
    (create settings now id name found).renumber n = create settings now n name found := by
  have hstart :
      (found.sourceStart name).map (PathEvent.renumber id n) = found.sourceStart name := by
    unfold ConfSet.Found.sourceStart
    split
    · split <;> rfl
    · rfl
  rw [create_eq, create_eq]
  simp only [renumber, List.map_append, hstart]
  rfl

lemma renumber_releaseSource : p.releaseSource.renumber n = (p.renumber n).releaseSource := by
  unfold releaseSource
  rw [source_renumber]
  split
  · exact renumber_ite n Iff.rfl rfl (renumber_emit _ n rfl)
  · exact renumber_emit _ n rfl
  · rfl
  · rfl

lemma renumber_shutdown : p.shutdown.renumber n = (p.renumber n).shutdown := by
  have hbegin : p.beginEnd.renumber n = (p.renumber n).beginEnd := by
    have hnoticed : (p.noticed .closed).map (PathEvent.renumber p.id n) = p.noticed .closed := by
      unfold noticed
      split <;> rfl
    have hanswers (ns : List Nat) :
        (answerEvents (ns.map fun k => (k, .refused .terminated))).map (PathEvent.renumber p.id n) =
          answerEvents (ns.map fun k => (k, .refused .terminated)) := by
      simp [answerEvents, PathEvent.renumber, Answer.renumber]
    simp only [renumber, beginEnd, List.map_append, hnoticed, hanswers]
    rfl
  rw [shutdown_eq, shutdown_eq, ← hbegin, ← renumber_becomeUnready, ← renumber_releaseSource]
  exact renumber_ite n Iff.rfl rfl (renumber_stopLaunch _ n _)

lemma renumber_closeIfUnused : p.closeIfUnused.renumber n = (p.renumber n).closeIfUnused :=
  renumber_ite n Iff.rfl (renumber_shutdown p n) rfl

lemma renumber_destroy : p.destroy.renumber n = (p.renumber n).destroy :=
  renumber_ite n Iff.rfl rfl (renumber_shutdown _ n)

lemma renumber_follow (c : Conf) : (p.follow c).renumber n = (p.renumber n).follow c := by
  unfold follow
  rw [source_renumber]
  split
  · exact renumber_emit _ n rfl
  · rfl

lemma renumber_reload (c : Conf) : (p.reload c).renumber n = (p.renumber n).reload c := by
  unfold reload
  rw [← renumber_follow]
  refine renumber_ite n Iff.rfl ?_ rfl
  rw [← renumber_stopRecording]
  exact renumber_ite n Iff.rfl (renumber_startRecording _ n) rfl

lemma renumber_receive (m : PathMessage) : (p.receive m).renumber n = (p.renumber n).receive m := by
  refine renumber_ite n Iff.rfl rfl ?_
  cases m with
  | describe request query =>
    dsimp only
    rw [renumber_closeIfUnused, renumber_describe]
  | addPublisher request client d rtp query expected =>
    dsimp only
    rw [← renumber_addPublisher]
    cases p.addPublisher request client d rtp query expected with
    | ok q => rfl
    | error e =>
      dsimp only [Except.map]
      rw [renumber_closeIfUnused, renumber_answer]
      rfl
  | removePublisher client =>
    dsimp only
    rw [renumber_closeIfUnused, renumber_removePublisher]
  | addReader request client query =>
    dsimp only
    rw [renumber_closeIfUnused, renumber_addReader]
  | removeReader client => exact renumber_removeReader p n client
  | sourceReady request d rtp => exact renumber_sourceReady p n request d rtp
  | sourceNotReady =>
    dsimp only
    rw [renumber_closeIfUnused, renumber_sourceNotReady]
  | abandon request => rfl

/-! ## Time -/

lemma renumber_expire : p.expire.renumber n = (p.renumber n).expire := by
  refine renumber_ite n Iff.rfl ?_ (renumber_ite n Iff.rfl ?_
    (renumber_ite n Iff.rfl ?_ (renumber_ite n Iff.rfl (renumber_stopLaunch p n _) rfl)))
  · unfold failSource
    rw [renumber_closeIfUnused, renumber_stopSource, renumber_failHeld]
    rfl
  · unfold retireSource
    rw [renumber_closeIfUnused, renumber_stopSource, renumber_becomeUnready]
  · unfold failLaunch
    rw [renumber_closeIfUnused, renumber_stopLaunch, renumber_failHeld]
    rfl

lemma renumber_passDeadline (time : Nat) :
    (p.passDeadline time).renumber n = (p.renumber n).passDeadline time := by
  unfold passDeadline
  rw [deadline?_renumber]
  cases p.deadline? with
  | none => rfl
  | some d => exact renumber_ite n Iff.rfl (renumber_expire _ n) rfl

lemma renumber_advance (time : Nat) :
    (p.advance time).renumber n = (p.renumber n).advance time := by
  unfold advance
  rw [← renumber_passDeadline, ← renumber_passDeadline]
  rfl

/-! ## Media -/

lemma renumber_modifyStream (serial : Nat) (f : Stream → Stream) :
    (p.modifyStream serial f).renumber n = (p.renumber n).modifyStream serial f :=
  renumber_ite n Iff.rfl rfl (renumber_ite n Iff.rfl rfl rfl)

lemma lastRecording?_renumber : (p.renumber n).lastRecording? = p.lastRecording? := by
  have hevent (e : PathEvent) : (e.renumber p.id n).recording? = e.recording? := by
    cases e <;> rfl
  simp only [lastRecording?, renumber, List.filterMap_map, Function.comp_def, hevent]

lemma hasCreatedSource_renumber : (p.renumber n).hasCreatedSource = p.hasCreatedSource := by
  have hevent (e : PathEvent) : (e.renumber p.id n).isSourceCreation = e.isSourceCreation := by
    cases e <;> rfl
  simp only [hasCreatedSource, renumber, List.any_map, Function.comp_def, hevent]

lemma renumber_media (act : MediaAct) : (p.media act).renumber n = (p.renumber n).media act := by
  cases act with
  | write | subscribe | unsubscribe => exact renumber_modifyStream p n _ _
  | segmentCreate | segmentComplete =>
    unfold media
    dsimp only
    rw [lastRecording?_renumber]
    cases p.lastRecording? <;> rfl

end Path

end LivePaths
