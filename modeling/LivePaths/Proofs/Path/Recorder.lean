import LivePaths.Proofs.Conf.HotReload
import LivePaths.Proofs.Path.Changes

set_option relaxedAutoImplicit false
set_option autoImplicit false

/-!
# The recorder of a path

A path records while it is ready and its configuration asks for it, and what it records is what its
present configuration says. Readiness, new publishers and new configurations all touch the recorder.
Its calls nevertheless form complete sessions, one after another, of which only the last one may
still be open.

## Main definitions

* `RecorderCall`, `Recording.session` — the calls of a recorder, and those of one recording.
* `Path.recordingDue` — what a path has to record.
* `Path.Recorded` — the path records what it has to, and its calls form sessions.

## Main results

* `Path.Recorded.change` — every change keeps a path recorded.
* `Path.Reached.records_while_ready` — the recorder in all states that can be reached.
-/

namespace LivePaths

/-! ## Calls -/

/-- **Calls of the recorder**: a recording is started, or the running one is closed. -/
inductive RecorderCall where
  | start (r : Recording)
  | close (pathFormat : String)
  deriving DecidableEq, Repr

/-- The call of the recorder that an event is, if it is one. -/
def PathEvent.recorderCall? : PathEvent → Option RecorderCall
  | .recordStarted r _ => some (.start r)
  | .recordStopped pathFormat => some (.close pathFormat)
  | _ => none

/-- **A session**: a recording is started and then closed. -/
def Recording.session (r : Recording) : List RecorderCall := [.start r, .close r.params.pathFormat]

/-- Steady events do not call the recorder. -/
lemma PathEvent.recorderCall?_of_isSteady {e : PathEvent} (h : e.isSteady = true) :
    e.recorderCall? = none := by
  cases e <;> simp_all [isSteady, isDriving, recorderCall?]

namespace Path

/-- **The calls of the recorder** of a path so far. -/
def recorderCalls (p : Path) : List RecorderCall := p.log.filterMap PathEvent.recorderCall?

/-- **What a path has to record**: its stream, if there is somebody who records and its
configuration asks for it. -/
def recordingDue (p : Path) : Option Recording :=
  if p.isReady && p.conf.record.enabled && p.settings.recorders then some (.ofConf p.name p.conf)
  else none

/-- **A recorded path** records what it has to; its calls form complete sessions and one that is
still open if it records at present, and there are none if nobody records. -/
structure Recorded (p : Path) : Prop where
  due : p.recording = p.recordingDue
  sessions : ∃ past : List Recording,
    p.recorderCalls = past.flatMap Recording.session ++ p.recording.toList.map .start
  nobody : p.settings.recorders = false → p.recorderCalls = []

/-! ## Calls of the operations -/

section Calls

variable (p : Path)

/-- New events add their calls. -/
lemma recorderCalls_of_log {q : Path} {es : List PathEvent} (hlog : q.log = p.log ++ es) :
    q.recorderCalls = p.recorderCalls ++ es.filterMap PathEvent.recorderCall? := by
  simp [recorderCalls, hlog]

@[simp]
lemma recorderCalls_noticed (n : Notice) :
    (p.noticed n).filterMap PathEvent.recorderCall? = [] := by
  unfold noticed
  split <;> rfl

@[simp]
lemma recorderCalls_reloaded (conf : String) :
    (p.sourceCall (.sourceReloaded conf)).filterMap PathEvent.recorderCall? = [] := by
  unfold sourceCall
  split <;> rfl

/-- A recording that ends is closed. -/
lemma recorderCalls_recordingEnd : p.recordingEnd.filterMap PathEvent.recorderCall? =
    p.recording.toList.map fun r => .close r.params.pathFormat := by
  unfold recordingEnd
  cases p.recording <;> rfl

/-- Without a stream there is nothing to record. -/
lemma recordingDue_of_none (hs : p.stream = none) : p.recordingDue = none := by
  simp [recordingDue, isReady, hs]

/-- If nobody records, nothing is to be recorded. -/
lemma recordingDue_of_nobody (hn : p.settings.recorders = false) : p.recordingDue = none := by
  simp [recordingDue, hn]

/-- **Becoming ready** starts what has to be recorded from now on. -/
lemma recording_becomeReady (hnone : p.recording = none) (s : Stream) :
    (p.becomeReady s).recording = (p.becomeReady s).recordingDue ∧
      (p.becomeReady s).recorderCalls =
        p.recorderCalls ++ (p.becomeReady s).recordingDue.toList.map .start := by
  rw [becomeReady_eq, recorderCalls_of_log p
    ((List.append_assoc ..).trans (List.append_assoc ..))]
  simp only [List.filterMap_append, recorderCalls_noticed, recordingDue, recordingFor,
    recordingStart, isReady]
  cases p.conf.record.enabled with
  | false => exact ⟨hnone, rfl⟩
  | true =>
    cases p.settings.recorders with
    | false => exact ⟨hnone, rfl⟩
    | true => exact ⟨rfl, rfl⟩

/-- Ceasing to be ready closes the recording that runs. -/
lemma recorderCalls_unreadyEvents :
    p.unreadyEvents.filterMap PathEvent.recorderCall? =
      p.recording.toList.map fun r => .close r.params.pathFormat := by
  have hreaders :
      (p.readers.map PathEvent.readerClosed).filterMap PathEvent.recorderCall? = [] := by
    simp [PathEvent.recorderCall?]
  have hunready : [PathEvent.notReady].filterMap PathEvent.recorderCall? = [] := rfl
  simp only [unreadyEvents, List.filterMap_append, recorderCalls_noticed, hreaders, hunready,
    recorderCalls_recordingEnd, List.nil_append]

/-- **Ceasing to be ready** closes what was recorded. -/
lemma recording_becomeUnready {s : Stream} (hstream : p.stream = some s) :
    p.becomeUnready.recording = none ∧ p.becomeUnready.recorderCalls =
      p.recorderCalls ++ p.recordingEnd.filterMap PathEvent.recorderCall? := by
  rw [p.recorderCalls_of_log (p.log_becomeUnready hstream), recorderCalls_unreadyEvents,
    recorderCalls_recordingEnd]
  exact ⟨by rw [becomeUnready_eq p hstream], rfl⟩

/-- What has to be recorded under a new configuration. -/
lemma recordingDue_reload (c : Conf) : (p.reload c).recordingDue =
    if p.isReady && c.record.enabled && p.settings.recorders then some (.ofConf p.name c)
    else none := by
  rw [reload_eq]
  rfl

/-- **A new configuration** that changes what is recorded closes one recording and starts another
one. -/
lemma recording_reload {c : Conf} (hchange : (p.isReady && p.conf.recordChanged c) = true) :
    (p.reload c).recording = (p.reload c).recordingDue ∧ (p.reload c).recorderCalls =
      p.recorderCalls ++ p.recordingEnd.filterMap PathEvent.recorderCall? ++
        (p.reload c).recordingDue.toList.map .start := by
  obtain ⟨hready, hdiffers⟩ := Bool.and_eq_true_iff.1 hchange
  obtain ⟨s, hs⟩ := Option.isSome_iff_exists.1 hready
  rw [p.recordingDue_reload c, reload_eq, recorderCalls_of_log p (List.append_assoc ..)]
  simp only [List.filterMap_append, recorderCalls_reloaded, recordingUnder, recordingChange,
    hready, hdiffers, hs, ↓reduceIte, Bool.true_and, List.nil_append, List.append_assoc]
  cases c.record.enabled && p.settings.recorders with
  | false => exact ⟨trivial, by simp⟩
  | true => exact ⟨trivial, by simp [PathEvent.recorderCall?]⟩

end Calls

namespace Recorded

variable {p q : Path}

/-- **A new path** records nothing and has called nobody. -/
lemma create (settings : PathSettings) (now id : Nat) (name : String) (found : ConfSet.Found) :
    (create settings now id name found).Recorded := by
  have hcalls : (Path.create settings now id name found).recorderCalls = [] := by
    rw [create_eq]
    unfold recorderCalls ConfSet.Found.sourceStart
    split
    · split <;> rfl
    · rfl
  refine ⟨?_, ⟨[], ?_⟩, fun _ => hcalls⟩
  · rw [recordingDue_of_none _ (by rw [create_eq])]
    rw [create_eq]
  · rw [hcalls, create_eq]
    rfl

variable (h : p.Recorded)

include h

/-- Only the identity, the readiness, the recording and the calls matter. -/
lemma of_same (hsame : q.identity = p.identity) (hready : q.isReady = p.isReady)
    (hrecording : q.recording = p.recording) (hcalls : q.recorderCalls = p.recorderCalls) :
    q.Recorded := by
  simp only [identity, Prod.mk.injEq] at hsame
  obtain ⟨-, hname, hconf, -, hsettings⟩ := hsame
  refine ⟨?_, ?_, fun hn => hcalls.trans (h.nobody (hsettings ▸ hn))⟩
  · rw [hrecording, h.due]
    simp [recordingDue, hready, hname, hconf, hsettings]
  · rw [hrecording, hcalls]
    exact h.sessions

/-- If nobody records, there is nothing to close. -/
lemma calls_of_nobody (hn : p.settings.recorders = false) :
    p.recorderCalls ++ p.recordingEnd.filterMap PathEvent.recorderCall? = [] := by
  rw [h.nobody hn, p.recorderCalls_recordingEnd, h.due, p.recordingDue_of_nobody hn]
  rfl

/-- **The running recording is closed**, which completes its session. -/
lemma sessions_close : ∃ past : List Recording,
    p.recorderCalls ++ p.recordingEnd.filterMap PathEvent.recorderCall? =
      past.flatMap Recording.session := by
  obtain ⟨past, hcalls⟩ := h.sessions
  rw [hcalls, p.recorderCalls_recordingEnd]
  refine ⟨past ++ p.recording.toList, ?_⟩
  cases p.recording with
  | none => simp
  | some r => simp [Recording.session]

lemma becomeReady (hstream : p.stream = none) (s : Stream) : (p.becomeReady s).Recorded := by
  have hnone : p.recording = none := h.due.trans (p.recordingDue_of_none hstream)
  obtain ⟨hdue, hcalls⟩ := p.recording_becomeReady hnone s
  obtain ⟨past, hpast⟩ := h.sessions
  refine ⟨hdue, ⟨past, ?_⟩, fun hn => ?_⟩
  · rw [hcalls, hpast, hnone, hdue]
    simp
  · have hsettings : (p.becomeReady s).settings = p.settings := by rw [becomeReady_eq]
    rw [hcalls, h.nobody (hsettings ▸ hn), recordingDue_of_nobody _ hn]
    rfl

lemma becomeUnready {s : Stream} (hstream : p.stream = some s) : p.becomeUnready.Recorded := by
  obtain ⟨hnone, hcalls⟩ := p.recording_becomeUnready hstream
  obtain ⟨past, hpast⟩ := h.sessions_close
  refine ⟨?_, ⟨past, ?_⟩, fun hn => ?_⟩
  · rw [hnone, recordingDue_of_none _ p.stream_becomeUnready]
  · rw [hcalls, hpast, hnone]
    simp
  · have hsettings : p.becomeUnready.settings = p.settings := by rw [becomeUnready_eq p hstream]
    rw [hcalls, h.calls_of_nobody (hsettings ▸ hn)]

/-- **A new configuration** replaces what is recorded if it differs in anything that is recorded;
if it does not, the recording is still what it asks for. -/
lemma reload {c : Conf} (hc : p.conf.canHotReload c = true) : (p.reload c).Recorded := by
  have hsettings : (p.reload c).settings = p.settings := by rw [reload_eq]
  by_cases hchange : (p.isReady && p.conf.recordChanged c) = true
  · obtain ⟨hdue, hcalls⟩ := p.recording_reload hchange
    obtain ⟨past, hpast⟩ := h.sessions_close
    refine ⟨hdue, ⟨past, ?_⟩, fun hn => ?_⟩
    · rw [hcalls, hpast, hdue]
    · rw [hcalls, h.calls_of_nobody (hsettings ▸ hn), recordingDue_of_nobody _ hn]
      rfl
  · have hrecording : (p.reload c).recording = p.recording := by
      rw [reload_eq]
      simp [recordingUnder, hchange]
    have hcalls : (p.reload c).recorderCalls = p.recorderCalls := by
      rw [reload_eq, recorderCalls_of_log p (List.append_assoc ..)]
      simp [recordingChange, hchange]
    refine ⟨?_, ?_, fun hn => hcalls.trans (h.nobody (hsettings ▸ hn))⟩
    · rw [hrecording, h.due, reload_eq]
      cases hready : p.isReady with
      | false => simp_all [recordingDue, isReady]
      | true =>
        -- nothing that is recorded differs, and the commands for the segments are never picked up
        have hrecord : p.conf.record = c.record :=
          Conf.recordChanged_eq_false_iff_record.1 (by simpa [hready] using hchange)
        have hcommands := (Conf.eq_of_canHotReload hc).2.2
        have hsame : Recording.ofConf p.name p.conf = .ofConf p.name c := by
          simp [Recording.ofConf, RecordParams.ofConf, hrecord, hcommands]
        simp_all [recordingDue, isReady]
    · rw [hcalls, hrecording]
      exact h.sessions

/-- **Every change** keeps a path recorded. -/
lemma change {Came : PathMessage → Prop} (hq : Change Came p q) : q.Recorded := by
  obtain hsteady | ⟨s, -, hstream, -, rfl⟩ | ⟨s, hstream, rfl⟩ | ⟨c, -, hc, rfl⟩ |
    ⟨silent, -, rfl⟩ := hq.steady_or
  · obtain ⟨es, hlog, hes⟩ := hsteady.log
    have hnone : es.filterMap PathEvent.recorderCall? = [] := List.filterMap_eq_nil_iff.2
      fun e he => PathEvent.recorderCall?_of_isSteady (hes e he)
    refine h.of_same hsteady.same hsteady.isReady_eq hsteady.recording ?_
    rw [p.recorderCalls_of_log hlog, hnone, List.append_nil]
  · exact h.becomeReady hstream s
  · exact h.becomeUnready hstream
  · exact h.reload hc
  · refine h.of_same rfl rfl rfl ?_
    rw [p.recorderCalls_of_log ((List.append_assoc ..).trans (List.append_assoc ..))]
    simp [answerEvents, PathEvent.recorderCall?]

end Recorded

/-- **Every reached state** is recorded. -/
lemma Reached.recorded {p : Path} (h : p.Reached) : p.Recorded :=
  h.induction Recorded.create fun _ _ hchange hp => hp.change hchange

/-! ## What can be relied on -/

/-- **Recorders follow readiness** in every reached state of a path. While it lives and there is
somebody who records, a recording runs exactly if the path is ready and its present configuration
asks for one, with the parameters that this configuration gives. All calls of the recorder so far
are complete sessions, each recording being closed before the next one is started, and the start of
the recording that runs; after the end none runs. If nobody records, there are no calls.

**Proof sketch.** Each change keeps this. Becoming ready finds no recording and starts one, ceasing
to be ready completes its session, and a new configuration on a ready path does both if what is
recorded differs. If it does not differ, the parameters are the same under both configurations. -/
theorem Reached.records_while_ready {p : Path} (h : p.Reached) :
    (p.ended = false → p.settings.recorders = true →
      (p.recording.isSome = true ↔ p.isReady = true ∧ p.conf.record.enabled = true) ∧
        ∀ r ∈ p.recording, r.params = .ofConf p.name p.conf) ∧
    (∃ past : List Recording,
      p.recorderCalls = past.flatMap Recording.session ++ p.recording.toList.map .start) ∧
    (p.ended = true → p.recording = none) ∧
    (p.settings.recorders = false → p.recorderCalls = []) := by
  have hr := h.recorded
  refine ⟨fun _ hrecorders => ⟨?_, fun r hrec => ?_⟩, hr.sessions, fun hended => ?_, hr.nobody⟩
  · rw [hr.due]
    by_cases hdue : p.isReady = true ∧ p.conf.record.enabled = true
    · simp [recordingDue, hdue, hrecorders]
    · simp_all [recordingDue]
  · rw [hr.due, Option.mem_def, recordingDue] at hrec
    split at hrec
    · exact Option.some.inj hrec ▸ rfl
    · cases hrec
  · rw [hr.due, p.recordingDue_of_none (h.orderly.gone hended).stream]

/-- A configuration under which publishers are recorded. -/
def recordedPublisher : ConfSet.Found where
  conf := { name := "cam", record := { enabled := true, path := "a" } }
  captures := []

/-- Somebody publishes, and another place to record to is handed over. -/
def recordedAnew : Path :=
  (create { recorders := true } 0 1 "cam" recordedPublisher).run
    [.message (.addPublisher 0 ⟨0, ⟨"rtspSession", "a"⟩⟩ ⟨[⟨.video, "H264"⟩]⟩ false "" none),
      .reload { recordedPublisher.conf with record := { enabled := true, path := "b" } }]

/-- A recording to the new place runs, and after the destruction of the path there were two sessions
of its recorder. -/
theorem records_recordedAnew :
    recordedAnew.Reached ∧ recordedAnew.ended = false ∧ recordedAnew.settings.recorders = true ∧
      recordedAnew.recording.isSome = true ∧
      (∀ r ∈ recordedAnew.recording, r.params.pathFormat = "b") ∧
      recordedAnew.destroy.ended = true ∧ recordedAnew.destroy.recording = none ∧
      recordedAnew.destroy.recorderCalls.length = 4 ∧
      ∃ past : List Recording,
        recordedAnew.destroy.recorderCalls = past.flatMap Recording.session := by
  have hreached : recordedAnew.Reached :=
    Reached.run (.create { recorders := true } 0 1 "cam" recordedPublisher) (by decide)
  have hdestroyed : recordedAnew.destroy.Reached := hreached.step (s := .destroy) trivial
  have hlive : recordedAnew.ended = false := by decide
  have hrecorders : recordedAnew.settings.recorders = true := by decide
  have hended : recordedAnew.destroy.ended = true := by decide
  obtain ⟨hruns, hparams⟩ := hreached.records_while_ready.1 hlive hrecorders
  obtain ⟨-, ⟨past, hpast⟩, hnone, -⟩ := hdestroyed.records_while_ready
  rw [hnone hended] at hpast
  refine ⟨hreached, hlive, hrecorders, hruns.2 (by decide), fun r hr => ?_, hended, hnone hended,
    by decide, past, by simpa using hpast⟩
  rw [hparams r hr]
  decide

end Path

end LivePaths
