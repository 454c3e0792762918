import Mathlib.Data.List.Count
import LivePaths.Proofs.Path.Milestones
import LivePaths.Proofs.Path.Partings
import LivePaths.Proofs.Path.Recorder

set_option relaxedAutoImplicit false
set_option autoImplicit false

/-!
# The destruction of a path

Destroying a live path undoes all that it holds, in whatever state it is: those who wait are
refused, those who are attached are disconnected, the stream, the recording and the source are
closed, and the last commands of what has begun are launched. Afterwards nothing of it is left.

## Main definitions

* `Path.destroyEvents` — what is written down of a destruction.
* `Path.AtRest` — a path of which nothing is left that could go on.
* `Path.Dissolves` — all that a destruction does.

## Main results

* `Path.log_destroy_eq` — the events of a destruction.
* `Path.Lived.atRest` — paths that have ended are at rest.
* `Path.Lived.dissolves` — destruction undoes all that a live path holds.
-/

namespace LivePaths

namespace Path

/-! ## Closed streams -/

/-- **Past streams** stay as they are in every change, but for one that has just been closed. -/
lemma pastStreams_of_change {p q : Path} (h : PureChange p q) : q.pastStreams = p.pastStreams ∨
    ∃ s, p.stream = some s ∧ q.pastStreams = p.pastStreams ++ [s.close] := by
  cases h with
  | drive h =>
    obtain ⟨es, -, heq⟩ := h.eq
    rw [heq]
    exact .inl rfl
  | goOn h => exact h.elim
  | attach n client hlive hready hm =>
    obtain ⟨cs, a, -, heq⟩ := p.attach_eq hready n client
    rw [heq]
    exact .inl rfl
  | failHeld hlive =>
    rw [failHeld_eq]
    exact .inl rfl
  | removeReader client hlive =>
    rw [removeReader_eq]
    exact .inl rfl
  | becomeReady s hlive hstream hd =>
    rw [becomeReady_eq]
    exact .inl rfl
  | @becomeUnready s hstream =>
    rw [becomeUnready_eq p hstream]
    exact .inr ⟨s, hstream, rfl⟩
  | reload c hlive hc =>
    rw [reload_eq]
    exact .inl rfl
  | releaseSource hended hstream =>
    rw [releaseSource_eq]
    exact .inl rfl
  | answer | holdDescribe | holdReader | abandon | clear | evict | vacate | occupy | beginEnd =>
    exact .inl rfl

end Path

namespace Stream

lemma closed_write (s : Stream) (u : MediaUnit) : (s.write u).1.closed = s.closed := by
  unfold write
  split
  · rfl
  · dsimp only
    split <;> rfl

lemma closed_subscribed (s : Stream) : s.subscribed.closed = s.closed := by
  unfold subscribed subscribe?
  split <;> rfl

end Stream

namespace Path

/-- A change that closes or opens no stream leaves those of the past closed. -/
lemma closed_modifyStream {p : Path} (h : ∀ s ∈ p.pastStreams, s.closed = true) (serial : Nat)
    {f : Stream → Stream} (hf : ∀ s, (f s).closed = s.closed) :
    ∀ s ∈ (p.modifyStream serial f).pastStreams, s.closed = true := by
  unfold modifyStream
  split
  · intro s hs
    obtain ⟨i, hi⟩ := List.mem_iff_getElem?.1 hs
    rw [List.getElem?_modify] at hi
    obtain ⟨t, ht, rfl⟩ := Option.map_eq_some_iff.1 hi
    have hclosed := h t (List.mem_of_getElem? ht)
    split
    · exact (hf t).trans hclosed
    · exact hclosed
  · split <;> exact h

/-- **All past streams** of a path are closed. -/
lemma Lived.closed_of_mem_pastStreams {p : Path} (h : p.Lived) :
    ∀ s ∈ p.pastStreams, s.closed = true := by
  refine h.induction (I := fun p => ∀ s ∈ p.pastStreams, s.closed = true) (fun _ _ _ _ _ => ?_)
    (fun p q hchange hp => ?_) fun p m hp => ?_
  · rw [create_eq]
    simp
  · rcases pastStreams_of_change hchange with heq | ⟨s, -, heq⟩
    · rwa [heq]
    · rw [heq]
      exact List.forall_mem_append.2 ⟨hp, List.forall_mem_singleton.2 rfl⟩
  · cases m with
    | write serial u => exact closed_modifyStream hp serial fun s => s.closed_write u
    | subscribe serial => exact closed_modifyStream hp serial Stream.closed_subscribed
    | unsubscribe serial => exact closed_modifyStream hp serial fun _ => rfl
    | segmentCreate segment | segmentComplete segment ms =>
      unfold Path.media
      dsimp only
      split <;> exact hp

/-! ## Rest -/

/-- **Rest**: nothing is held, armed, attached, recorded or launched again, and all streams are
closed. -/
structure AtRest (p : Path) : Prop where
  isOver : p.IsOver
  readers : p.readers = []
  recording : p.recording = none
  streams : ∀ s ∈ p.pastStreams, s.closed = true
  jobs : p.launcher.jobs = []

namespace AtRest

variable {p : Path} (h : p.AtRest)

include h

/-- Only the time passes for a path at rest. -/
lemma runTo_eq (time : Nat) :
    p.runTo time = { p with launcher := { p.launcher with now := time } } := by
  unfold runTo
  rw [Launcher.advance_of_jobs_nil h.jobs]

/-- All streams of a path at rest are closed. -/
lemma closed_of_stream? {serial : Nat} {s : Stream} (hs : p.stream? serial = some s) :
    s.closed = true := by
  rw [stream?, h.isOver.stream, Option.toList_none, List.append_nil] at hs
  exact h.streams s (List.mem_of_getElem? hs)

/-- What does not concern closed streams does not concern a path at rest. -/
lemma modifyStream_eq (serial : Nat) {f : Stream → Stream}
    (hf : ∀ s, s.closed = true → f s = s) : p.modifyStream serial f = p := by
  unfold modifyStream
  split
  · have hsame : p.pastStreams.modify serial f = p.pastStreams := by
      refine List.ext_getElem? fun i => ?_
      rw [List.getElem?_modify]
      cases hi : p.pastStreams[i]? with
      | none => rfl
      | some s =>
        have hclosed := hf s (h.streams s (List.mem_of_getElem? hi))
        simp [hclosed]
    rw [hsame]
  · have hstream := h.isOver.stream
    split
    · cases p
      simp_all
    · rfl

end AtRest

/-- What has ended has no duties. -/
lemma Equipped.duties_eq_nil {p : Path} (h : p.Equipped) (hover : p.IsOver) : p.duties = [] := by
  have hinit : p.onUninit = none := by simpa [hover.ended] using h.init
  have hready := h.onNotReady_eq_none hover.stream
  have hdemand : p.onUndemand = none := by simpa [hover.launch, OnDemand.isIdle] using h.demand
  simp [duties, hinit, hready, hdemand]

/-- **Paths that have ended** are at rest. -/
theorem Lived.atRest {p : Path} (h : p.Lived) (he : p.ended = true) : p.AtRest := by
  have hover := h.reached.orderly.gone he
  refine ⟨hover, h.reached.readers_eq_nil hover.stream, ?_, h.closed_of_mem_pastStreams,
    h.equipped.serves.jobs_eq_nil (h.equipped.duties_eq_nil hover)⟩
  rw [h.reached.recorded.due, recordingDue_of_none p hover.stream]

/-! ## Destruction -/

/-- **The events of a destruction.** -/
def destroyEvents (p : Path) : List PathEvent :=
  .uninit :: answerEvents (p.waiting.map fun n => (n, .refused .terminated)) ++
    (if p.isReady then p.readers.map .readerClosed ++ [.notReady] ++ p.recordingEnd else []) ++
      p.sourceRelease ++ if p.launchDemand.isIdle then [] else [.undemand "path destroyed"]

/-- Whether the path runs a source that is to be closed: one that does not wait until somebody asks
for the path, or one for which somebody has asked. -/
def hasOpenSource (p : Path) : Bool :=
  p.runsSource && !(p.conf.sourceOnDemand && p.sourceDemand.isIdle)

/-- **What is launched at the end** of something, if it has begun. -/
def endLaunches (line : String) (opening : Option Environment) : List (String × Environment) :=
  opening.toList.flatMap (launchOf line)

/-- The path whose stream, source and launch are still to be given up. -/
def dissolving (p : Path) : Path := { p with ended := true }.beginEnd

/-- **Destruction** of a live path in its parts. -/
lemma destroy_eq {p : Path} (he : p.ended = false) : p.destroy =
    if p.launchDemand.isIdle then p.dissolving.becomeUnready.releaseSource
    else p.dissolving.becomeUnready.releaseSource.stopLaunch "path destroyed" := by
  have hidle : p.dissolving.becomeUnready.releaseSource.launchDemand.isIdle =
      p.launchDemand.isIdle := by
    have hsame := congrArg OnDemand.isIdle p.dissolving.demands_becomeUnready.2
    rw [releaseSource_eq]
    exact hsame
  have hdestroy : p.destroy = { p with ended := true }.shutdown := by simp [destroy, he]
  rw [hdestroy, shutdown_eq, ← hidle]
  rfl

/-- **What is written down** of a destruction. -/
lemma log_destroy_eq {p : Path} (he : p.ended = false) :
    p.destroy.log = p.log ++ p.destroyEvents := by
  have hbegun : p.dissolving.log =
      p.log ++ (.uninit :: answerEvents (p.waiting.map fun n => (n, .refused .terminated))) :=
    { p with ended := true }.log_beginEnd
  have hunready : p.dissolving.becomeUnready.log = p.dissolving.log ++
      if p.isReady then p.readers.map .readerClosed ++ [.notReady] ++ p.recordingEnd else [] := by
    cases hs : p.stream with
    | none =>
      rw [becomeUnready_of_none p.dissolving hs]
      simp [isReady, hs]
    | some s =>
      rw [log_becomeUnready p.dissolving hs]
      simp only [isReady, hs, Option.isSome_some, ↓reduceIte]
      rfl
  have hrelease : p.dissolving.becomeUnready.sourceRelease = p.sourceRelease := by
    cases hs : p.stream with
    | none =>
      rw [becomeUnready_of_none p.dissolving hs]
      rfl
    | some s =>
      rw [becomeUnready_eq p.dissolving hs]
      rfl
  have hreleased : p.dissolving.becomeUnready.releaseSource.log = p.log ++
      (.uninit :: answerEvents (p.waiting.map fun n => (n, .refused .terminated))) ++
        (if p.isReady then p.readers.map .readerClosed ++ [.notReady] ++ p.recordingEnd else []) ++
          p.sourceRelease := by
    rw [releaseSource_eq, hrelease, hunready, hbegun]
  rw [destroy_eq he]
  unfold destroyEvents
  cases p.launchDemand.isIdle with
  | true => simp [hreleased]
  | false => simp [stopLaunch_eq, hreleased]

/-- What an end launches. -/
lemma commands_launcherAfter {p : Path} (hl : p.launcher.available = true) {t : Option Teardown}
    {line : String} (hline : ∀ u ∈ t, u.line = line) :
    (p.launcherAfter t).commands =
      p.launcher.commands ++ endLaunches line (t.map (·.environment)) := by
  cases t with
  | none => exact (List.append_nil _).symm
  | some t =>
    simp only [launcherAfter, endLaunches, Option.map_some, Option.toList_some,
      List.flatMap_singleton, ← hline t rfl]
    exact Launcher.commands_tearDown hl t

namespace Equipped

variable {p : Path} (h : p.Equipped)

include h

/-- The beginning of the end launches nothing. -/
lemma commands_dissolving (he : p.ended = false) :
    p.dissolving.Equipped ∧ p.dissolving.launcher.commands = p.launcher.commands := by
  refine ⟨(h.beginEnd he true).equipped, ?_⟩
  have hcommands := commands_launcherAfter h.serves.available h.atEnd
  have hnothing (env : Option Environment) : endLaunches "" env = [] := by
    cases env <;> rfl
  rwa [hnothing, List.append_nil] at hcommands

/-- **Ceasing to be ready** launches the last command for the readiness. -/
lemma commands_becomeUnready :
    p.becomeUnready.launcher.commands =
      p.launcher.commands ++ endLaunches p.conf.commands.onNotReady p.openings.ready := by
  cases hs : p.stream with
  | none =>
    rw [becomeUnready_of_none p hs, openings, h.onNotReady_eq_none hs]
    exact (List.append_nil _).symm
  | some s =>
    rw [becomeUnready_eq p hs]
    exact commands_launcherAfter h.serves.available h.atNotReady

/-- **The launches of a destruction**: the last command for the readiness, then the last one for the
launch. -/
lemma commands_destroy (he : p.ended = false) : p.destroy.launcher.commands =
    p.launcher.commands ++ endLaunches p.conf.commands.onNotReady p.openings.ready ++
      endLaunches p.conf.commands.onUndemand p.openings.demand := by
  obtain ⟨hequipped, hdissolving⟩ := h.commands_dissolving he
  have hrecounts := hequipped.changes (changes_becomeUnready p.dissolving)
  have hunready : p.dissolving.becomeUnready.launcher.commands =
      p.launcher.commands ++ endLaunches p.conf.commands.onNotReady p.openings.ready :=
    hequipped.commands_becomeUnready.trans (congrArg (· ++ _) hdissolving)
  have hundemand : p.dissolving.becomeUnready.onUndemand = p.onUndemand := by
    cases hs : p.stream with
    | none => rw [becomeUnready_of_none p.dissolving hs]; rfl
    | some s => rw [becomeUnready_eq p.dissolving hs]; rfl
  rw [destroy_eq he, releaseSource_eq, ← hunready]
  cases hidle : p.launchDemand.isIdle with
  | true =>
    have hnone : p.onUndemand = none := by simpa [hidle] using h.demand
    simp [openings, hnone, endLaunches]
  | false =>
    have hline : ∀ t ∈ p.dissolving.becomeUnready.onUndemand,
        t.line = p.conf.commands.onUndemand := by
      rw [hundemand]
      exact h.atUndemand
    have hcommands := commands_launcherAfter hrecounts.equipped.serves.available hline
    rw [hundemand] at hcommands
    simp only [Bool.false_eq_true, ↓reduceIte, stopLaunch_eq, hundemand]
    exact hcommands

end Equipped

/-! ### All that is undone -/

/-- What has been written down of a path since an earlier state. -/
def logSince (before after : Path) : List PathEvent := after.log.drop before.log.length

/-- **Dissolution** of a path by its destruction. Whoever waits is refused, whoever is attached is
disconnected, the stream, the recording and the source that runs are closed, each once; the last
commands of what has begun are launched once, with the environment of the beginning, where no null
character prevents it; and the path is at rest. -/
structure Dissolves (p q : Path) : Prop where
  answers : (p.logSince q).filterMap PathEvent.answer? =
    p.waiting.map fun n => (n, .refused .terminated)
  closings : ∀ k, (p.closings q).count k = if p.HasClient k then 1 else 0
  streams : q.pastStreams = p.pastStreams ++ (p.stream.map Stream.close).toList
  recorder : (p.logSince q).filterMap PathEvent.recorderCall? =
    p.recording.toList.map fun r => .close r.params.pathFormat
  source : (p.logSince q).filter PathEvent.isSourceCall =
    if p.hasOpenSource then [.sourceClosed "path is closing"] else []
  isReady : p.openings.ready.isSome = p.isReady
  isLaunched : p.openings.demand.isSome = !p.launchDemand.isIdle
  launches : q.launcher.commands = p.launcher.commands ++
    endLaunches p.conf.commands.onNotReady p.openings.ready ++
      endLaunches p.conf.commands.onUndemand p.openings.demand
  rest : q.AtRest

section Events

variable (p : Path)

/-- What is written down of a destruction, as far as some events are concerned. -/
lemma filterMap_destroyEvents {β : Type} (f : PathEvent → Option β) (huninit : f .uninit = none)
    (hunready : f .notReady = none) (hundemand : ∀ reason, f (.undemand reason) = none) :
    p.destroyEvents.filterMap f =
      (answerEvents (p.waiting.map fun n => (n, .refused .terminated))).filterMap f ++
        (if p.isReady then p.readers.map .readerClosed ++ p.recordingEnd else []).filterMap f ++
          p.sourceRelease.filterMap f := by
  unfold destroyEvents
  cases p.isReady <;> cases p.launchDemand.isIdle <;> simp [huninit, hunready, hundemand]

/-- Answering does not matter to the others. -/
lemma filterMap_answers {β : Type} (f : PathEvent → Option β) (h : ∀ n a, f (.answered n a) = none)
    (answers : List (Nat × Answer)) : (answerEvents answers).filterMap f = [] :=
  List.filterMap_eq_nil_iff.2 (forall_answerEvents fun x _ => h x.1 x.2)

/-- What depends on the stream of a path, as far as some events are concerned. -/
lemma filterMap_streamEnd {β : Type} (f : PathEvent → Option β)
    (hreader : ∀ client, f (.readerClosed client) = none)
    (hstop : ∀ format, f (.recordStopped format) = none) :
    (if p.isReady then p.readers.map .readerClosed ++ p.recordingEnd else []).filterMap f = [] := by
  refine List.filterMap_eq_nil_iff.2 ?_
  split
  · exact List.forall_mem_append.2 ⟨by simp [hreader], p.forall_recordingEnd hstop⟩
  · simp

/-- The release of the source, as far as some events are concerned. -/
lemma filterMap_sourceRelease {β : Type} (f : PathEvent → Option β)
    (hsource : ∀ reason, f (.sourceClosed reason) = none)
    (hclient : ∀ client, f (.publisherClosed client) = none) : p.sourceRelease.filterMap f = [] :=
  List.filterMap_eq_nil_iff.2 (p.forall_sourceRelease hsource hclient)

/-- **Whoever waits** is refused. -/
lemma answers_destroyEvents : p.destroyEvents.filterMap PathEvent.answer? =
    p.waiting.map fun n => (n, .refused .terminated) := by
  rw [filterMap_destroyEvents p _ rfl rfl fun _ => rfl,
    filterMap_streamEnd p _ (fun _ => rfl) fun _ => rfl,
    filterMap_sourceRelease p _ (fun _ => rfl) fun _ => rfl]
  simp [answerEvents, PathEvent.answer?, Function.comp_def]

/-- **The source** is closed if it runs. -/
lemma source_destroyEvents : p.destroyEvents.filter PathEvent.isSourceCall =
    if p.hasOpenSource then [.sourceClosed "path is closing"] else [] := by
  rw [← List.filterMap_eq_filter, filterMap_destroyEvents p _ rfl rfl fun _ => rfl,
    filterMap_answers _ (fun _ _ => rfl), filterMap_streamEnd p _ (fun _ => rfl) fun _ => rfl]
  unfold sourceRelease hasOpenSource runsSource
  split
  · split <;> simp_all [Option.guard, PathEvent.isSourceCall]
  all_goals simp_all [Option.guard, PathEvent.isSourceCall]

variable {p} (h : p.isReady = false → p.readers = [] ∧ p.recording = none)

include h

/-- **Whoever is attached** is disconnected, the readers first. -/
lemma closed_destroyEvents : p.destroyEvents.filterMap PathEvent.closed? =
    p.readers.map .reader ++ p.publisher?.toList.map .publisher := by
  rw [filterMap_destroyEvents p _ rfl rfl fun _ => rfl, filterMap_answers _ (fun _ _ => rfl),
    p.closed?_sourceRelease, List.nil_append]
  congr 1
  cases hr : p.isReady with
  | false => simp [(h hr).1]
  | true =>
    have hrecorded : p.recordingEnd.filterMap PathEvent.closed? = [] :=
      List.filterMap_eq_nil_iff.2 (p.forall_recordingEnd fun _ => rfl)
    simp [hrecorded, PathEvent.closed?, Function.comp_def]

/-- **The recording** that runs is closed. -/
lemma recorder_destroyEvents : p.destroyEvents.filterMap PathEvent.recorderCall? =
    p.recording.toList.map fun r => .close r.params.pathFormat := by
  rw [filterMap_destroyEvents p _ rfl rfl fun _ => rfl, filterMap_answers _ (fun _ _ => rfl),
    filterMap_sourceRelease p _ (fun _ => rfl) fun _ => rfl]
  cases hr : p.isReady with
  | false => simp [(h hr).2]
  | true => simp [recordingEnd, PathEvent.recorderCall?, Function.comp_def]

end Events

/-- **The streams** after a destruction: the present one is closed. -/
lemma pastStreams_destroy {p : Path} (he : p.ended = false) :
    p.destroy.pastStreams = p.pastStreams ++ (p.stream.map Stream.close).toList := by
  have hunready : p.dissolving.becomeUnready.pastStreams =
      p.pastStreams ++ (p.stream.map Stream.close).toList := by
    cases hs : p.stream with
    | none =>
      rw [becomeUnready_of_none p.dissolving hs]
      exact (List.append_nil _).symm
    | some s =>
      rw [becomeUnready_eq p.dissolving hs]
      rfl
  rw [destroy_eq he, stopLaunch_eq, releaseSource_eq, ← hunready]
  split <;> rfl

/-- Of a path that is not ready nobody reads and nothing is recorded. -/
lemma Lived.readers_recording_eq {p : Path} (h : p.Lived) (hr : p.isReady = false) :
    p.readers = [] ∧ p.recording = none := by
  have hs : p.stream = none := by simpa [isReady] using hr
  exact ⟨h.reached.readers_eq_nil hs, h.reached.recorded.due.trans (recordingDue_of_none p hs)⟩

/-- Everybody who is attached is counted once. -/
lemma count_attached {p : Path} (hn : p.readers.Nodup) (k : Party) :
    (p.readers.map Party.reader ++ p.publisher?.toList.map Party.publisher).count k =
      if p.HasClient k then 1 else 0 := by
  rw [List.count_append]
  cases k with
  | publisher d =>
    have hreaders : (p.readers.map Party.reader).count (.publisher d) = 0 :=
      List.count_eq_zero.2 (by simp)
    rw [hreaders, Nat.zero_add]
    change _ = if p.publisher? = some d then 1 else 0
    cases hp : p.publisher? with
    | none => simp
    | some c => simp [List.count_singleton]
  | reader d =>
    have hpublisher : (p.publisher?.toList.map Party.publisher).count (.reader d) = 0 :=
      List.count_eq_zero.2 (by simp)
    have hinjective : Function.Injective Party.reader := fun _ _ h => Party.reader.inj h
    rw [hpublisher, Nat.add_zero, List.count_map_of_injective _ _ hinjective, hn.count]
    rfl

/-- **Destruction** undoes all that a live path holds. -/
theorem Lived.dissolves {p : Path} (h : p.Lived) (he : p.ended = false) :
    Dissolves p p.destroy := by
  have hequipped := h.equipped
  have hlog : p.logSince p.destroy = p.destroyEvents := by simp [logSince, log_destroy_eq he]
  have hclosings : p.closings p.destroy = p.destroyEvents.filterMap PathEvent.closed? :=
    congrArg _ hlog
  refine ⟨?_, fun k => ?_, pastStreams_destroy he, ?_, ?_, ?_, ?_, hequipped.commands_destroy he,
    ?_⟩
  · rw [hlog, answers_destroyEvents]
  · rw [hclosings, closed_destroyEvents h.readers_recording_eq]
    exact count_attached h.reached.bounded.nodup k
  · rw [hlog, recorder_destroyEvents h.readers_recording_eq]
  · rw [hlog, source_destroyEvents]
  · simp [openings, hequipped.ready]
  · simp [openings, hequipped.demand]
  · exact (h.step (s := .destroy) trivial).atRest (isOver_destroy he).ended

end Path

end LivePaths
