import LivePaths.Proofs.Path.Absorption

set_option relaxedAutoImplicit false
set_option autoImplicit false

/-!
# Reports that are refused

A source that the path runs itself reports what it announces. If there is nothing to announce, the
report is refused. What ran until then is given up before this is found out, so that a report which
is refused leaves a path as it was only if there was no stream. A publisher who is refused, in
contrast, finds all conditions looked at before anything happens.

## Main definitions

* `Path.Discards` — what a path loses by a report that is refused.

## Main results

* `Path.Coherent.discards_sourceReady` — what a report does that is refused.
* `Path.Reached.report_refused` — reports and publishers that are refused, in all states that can be
  reached.
-/

namespace LivePaths

namespace Path

variable {p : Path}

/-! ## Reports -/

/-- **A report is refused** under some number. The stream and all that depends on it is lost: the
readers are disconnected, the recording is closed, the end of readiness is told, and what is to be
launched then is launched. The source, whoever waits, what runs on demand with its timers and all
other launches are not concerned. The path is left as it was, but for the answer, exactly if there
was no stream. -/
structure Discards (p : Path) (n : Nat) (q : Path) : Prop where
  answers : (p.logSince q).filterMap PathEvent.answer? =
    [(n, .refused (.emptyDescription p.name))]
  untouched_iff : q = p.answer n (.refused (.emptyDescription p.name)) ↔ p.isReady = false
  same : q = { p with
    stream := none
    pastStreams := p.pastStreams ++ (p.stream.map Stream.close).toList
    readySince := none
    readers := []
    recording := none
    onNotReady := none
    launcher := p.launcherAfter p.onNotReady
    log := q.log }
  closed : p.closings q = p.readers.map .reader
  readiness : (p.logSince q).filter (·.isReadiness) =
    if p.isReady then [.noticed .notReady, .notReady] else []
  recorder : (p.logSince q).filterMap PathEvent.recorderCall? =
    p.recording.toList.map fun r => .close r.params.pathFormat

/-- A report of nothing is refused after the stream was given up. -/
lemma receive_sourceReady_of_isEmpty (hlive : p.ended = false) {d : MediaDescription}
    (hd : d.isEmpty = true) (n : Nat) (rtp : Bool) :
    p.receive (.sourceReady n d rtp) =
      p.becomeUnready.answer n (.refused (.emptyDescription p.name)) := by
  simp [receive, hlive, sourceReady, Stream.open?, hd]

/-- **What a report does that is refused.** -/
theorem Coherent.discards_sourceReady (hc : p.Coherent) (hlive : p.ended = false)
    {d : MediaDescription} (hd : d.isEmpty = true) (n : Nat) (rtp : Bool) :
    p.Discards n (p.receive (.sourceReady n d rtp)) := by
  rw [receive_sourceReady_of_isEmpty hlive hd]
  cases hs : p.stream with
  | none =>
    -- nothing depends on a stream that is not there, so that nothing is lost
    have hready : p.isReady = false := by simp [isReady, hs]
    obtain ⟨-, htime, hteardown, hreaders, hrecording⟩ := hc.bare hs
    have hsince : p.logSince (p.answer n (.refused (.emptyDescription p.name))) =
        [.answered n (.refused (.emptyDescription p.name))] := List.drop_left
    have hclosings : p.closings (p.answer n (.refused (.emptyDescription p.name))) =
        (p.logSince (p.answer n (.refused (.emptyDescription p.name)))).filterMap
          PathEvent.closed? := rfl
    rw [becomeUnready_of_none p hs]
    refine ⟨by rw [hsince]; rfl, by simp [hready], ?_, ?_, ?_, ?_⟩
    · simp [answer, emit, hs, htime, hteardown, hreaders, hrecording, launcherAfter]
    · rw [hclosings, hsince, hreaders]
      rfl
    · rw [hsince, hready]
      rfl
    · rw [hsince, hrecording]
      rfl
  | some s =>
    have hready : p.isReady = true := by simp [isReady, hs]
    set q := p.becomeUnready.answer n (.refused (.emptyDescription p.name)) with hq
    have hlog : q.log =
        p.log ++ (p.unreadyEvents ++ [.answered n (.refused (.emptyDescription p.name))]) := by
      rw [← List.append_assoc, ← p.log_becomeUnready hs]
      rfl
    have hsince : p.logSince q =
        p.unreadyEvents ++ [.answered n (.refused (.emptyDescription p.name))] := by
      rw [logSince, hlog, List.drop_left]
    have hclosings : p.closings q = (p.logSince q).filterMap PathEvent.closed? := rfl
    refine ⟨?_, ?_, ?_, ?_, ?_, ?_⟩
    · have hnone : p.unreadyEvents.filterMap PathEvent.answer? = [] :=
        List.filterMap_eq_nil_iff.2 (p.forall_unreadyEvents rfl (fun _ => rfl) rfl fun _ => rfl)
      rw [hsince, List.filterMap_append, hnone]
      rfl
    · -- the stream is gone, which no answer brings about
      have hgone : q.stream = none := p.stream_becomeUnready
      refine iff_of_false (fun heq => ?_) (by simp [hready])
      rw [heq] at hgone
      simp [answer, emit, hs] at hgone
    · rw [hq, becomeUnready_eq p hs]
      simp [answer, emit, hs]
    · rw [hclosings, hsince, List.filterMap_append, closed?_unreadyEvents]
      exact List.append_nil _
    · rw [hsince, List.filter_append, isReadiness_unreadyEvents hlive, hready]
      rfl
    · rw [hsince, List.filterMap_append, recorderCalls_unreadyEvents]
      exact List.append_nil _

/-- **What is refused leaves a path as it was** or takes its stream away. On a path that runs its
source itself, a report without medias is answered, and the path loses its stream and what depends
on it if it has one; but every publisher is refused without any other effect than the answer.

**Proof sketch.** The stream is given up first, and the error arises after that. On a path without a
stream there is nothing to give up, so that the answer is the only difference. -/
theorem Reached.report_refused (h : p.Reached) (hlive : p.ended = false)
    (hstatic : p.conf.hasStaticSource = true) (n : Nat) :
    (∀ d rtp, d.isEmpty = true → p.Discards n (p.receive (.sourceReady n d rtp))) ∧
      ∀ client d rtp query expected,
        p.receive (.addPublisher n client d rtp query expected) =
          p.answer n (.refused (.notPublisherSource p.name)) := by
  have hc := (h.orderly.live hlive).coherent
  refine ⟨fun d rtp hd => hc.discards_sourceReady hlive hd n rtp,
    fun client d rtp query expected => ?_⟩
  have hfault : p.publisherFault? expected d = some (.notPublisherSource p.name) := by
    simp [publisherFault?, (SourceKind.ne_of_isStatic hstatic).1]
  have hused : p.isUnused = false := isUnused_of_source (hc.source.isSome_of_isStatic hstatic)
  rw [(hc.receive_of_fault hlive hfault n client rtp query).1, if_neg (by simp [hused])]

/-- A report without medias is refused and takes away the reader, the recording and the stream,
while the source is still in use. -/
theorem report_refused_watchedAndRecorded :
    watchedAndRecorded.Reached ∧ watchedAndRecorded.ended = false ∧
      watchedAndRecorded.conf.hasStaticSource = true ∧
      watchedAndRecorded.Discards 2 (watchedAndRecorded.receive (.sourceReady 2 ⟨[]⟩ false)) ∧
      watchedAndRecorded.logSince (watchedAndRecorded.receive (.sourceReady 2 ⟨[]⟩ false)) =
        [.noticed .notReady, .readerClosed ⟨0, ⟨"rtspSession", "a"⟩⟩, .notReady, .recordStopped "a",
          .answered 2 (.refused (.emptyDescription "cam"))] ∧
      (watchedAndRecorded.receive (.sourceReady 2 ⟨[]⟩ false)).sourceDemand =
        { phase := .inUse } := by
  have hreached : watchedAndRecorded.Reached :=
    Reached.run (.create { recorders := true } 0 1 "cam" pulledAndRecorded) (by decide)
  have hlive : watchedAndRecorded.ended = false := by decide
  have hstatic : watchedAndRecorded.conf.hasStaticSource = true := by decide
  exact ⟨hreached, hlive, hstatic, (hreached.report_refused hlive hstatic 2).1 ⟨[]⟩ false rfl,
    by decide, by decide⟩

/-- **Not every report that is refused leaves the path as it was**: the reader and the stream are
gone. -/
theorem not_untouched_watchedAndRecorded :
    watchedAndRecorded.Reached ∧ watchedAndRecorded.ended = false ∧
      watchedAndRecorded.conf.hasStaticSource = true ∧ (⟨[]⟩ : MediaDescription).isEmpty = true ∧
      watchedAndRecorded.receive (.sourceReady 2 ⟨[]⟩ false) ≠
        watchedAndRecorded.answer 2 (.refused (.emptyDescription watchedAndRecorded.name)) := by
  refine ⟨Reached.run (.create { recorders := true } 0 1 "cam" pulledAndRecorded) (by decide),
    by decide, by decide, rfl, fun heq => ?_⟩
  have hlog : (watchedAndRecorded.receive (.sourceReady 2 ⟨[]⟩ false)).log ≠
      (watchedAndRecorded.answer 2 (.refused (.emptyDescription watchedAndRecorded.name))).log := by
    decide
  exact hlog (congrArg Path.log heq)

end Path

end LivePaths
