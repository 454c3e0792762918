import LivePaths.Proofs.Path.Order

set_option relaxedAutoImplicit false
set_option autoImplicit false

/-!
# Sessions of a source that runs on demand

A source that runs on demand should be told in sessions: it is started for a query, and those who
watch the path are told so; later it is stopped for a reason, and they are told again. Two kinds of
steps break this: the path is destroyed within a session, which is then never closed, or a source is
stopped that was never started, because it had announced a stream although nobody had asked.

## Main definitions

* `Path.activations` — what the source and those who watch were told.
* `Path.KeepsSessions` — the law: whole sessions, and one that is open at most while the path lives.
* `Path.BreaksSession` — the steps that break the law.
* `Path.BringsUnasked` — the steps by which a source counts as running that was not started.

## Main results

* `Path.SourceOrder.sessionTurn` — what every possible step does to the sessions.
* `Path.sessions_run` — when the law holds all along a run, and when the open session agrees with
  the activation.
-/

namespace LivePaths

/-- **Activation events**: the source is started or stopped, and those who watch the path are told.
-/
def PathEvent.isActivation : PathEvent → Bool
  | .sourceStarted .. | .sourceDemand _ | .sourceStopped _ | .sourceUndemand _ => true
  | _ => false

/-- Whether an event tells that somebody has asked for the source. -/
def PathEvent.isSourceDemand : PathEvent → Bool
  | .sourceDemand _ => true
  | _ => false

namespace Path

/-! ## Sessions -/

/-- The beginning of a session for a query. -/
def opening (query : String) : List PathEvent := [.sourceStarted true query, .sourceDemand query]

/-- The end of a session for a reason. -/
def closing (reason : String) : List PathEvent := [.sourceStopped reason, .sourceUndemand reason]

/-- **Whole sessions**, given by their queries and reasons. -/
def wholeSessions (xs : List (String × String)) : List PathEvent :=
  xs.flatMap fun x => opening x.1 ++ closing x.2

/-- **The activations** of a path: what its source and those who watch were told. -/
def activations (p : Path) : List PathEvent := p.log.filter (·.isActivation)

/-- Whether the source was started and has not been stopped since. -/
def inSession (p : Path) : Bool := p.activations.getLast?.any PathEvent.isSourceDemand

/-- **The law of sessions**: the activations are whole sessions, followed by one that is open at
most while the path lives. -/
def KeepsSessions (p : Path) : Prop :=
  ∃ xs, p.activations = wholeSessions xs ∨
    p.ended = false ∧ ∃ query, p.activations = wholeSessions xs ++ opening query

@[simp]
lemma wholeSessions_cons (x : String × String) (xs : List (String × String)) :
    wholeSessions (x :: xs) = opening x.1 ++ closing x.2 ++ wholeSessions xs :=
  List.flatMap_cons

/-- A session more. -/
lemma wholeSessions_append (xs : List (String × String)) (query reason : String) :
    wholeSessions xs ++ opening query ++ closing reason =
      wholeSessions (xs ++ [(query, reason)]) := by
  simp [wholeSessions]

lemma length_wholeSessions (xs : List (String × String)) :
    (wholeSessions xs).length = 4 * xs.length := by
  induction xs with
  | nil => rfl
  | cons x rest ih =>
    simp only [wholeSessions_cons, List.length_append, ih, List.length_cons]
    simp only [opening, closing, List.length_cons, List.length_nil]
    omega

section Sessions

variable {p : Path}

/-- After whole sessions none is open. -/
lemma inSession_of_whole {xs : List (String × String)} (h : p.activations = wholeSessions xs) :
    p.inSession = false := by
  unfold inSession
  rw [h]
  rcases List.eq_nil_or_concat xs with rfl | ⟨rest, x, rfl⟩
  · rfl
  · rw [List.concat_eq_append, ← wholeSessions_append]
    simp [closing, PathEvent.isSourceDemand]

lemma inSession_opening {es : List PathEvent} {query : String}
    (h : p.activations = es ++ opening query) : p.inSession = true := by
  simp [inSession, h, opening, PathEvent.isSourceDemand]

lemma inSession_closing {es : List PathEvent} {reason : String}
    (h : p.activations = es ++ closing reason) : p.inSession = false := by
  simp [inSession, h, closing, PathEvent.isSourceDemand]

/-- **The law** by whether a session is open. -/
lemma keepsSessions_iff : p.KeepsSessions ↔
    (p.inSession = false ∧ ∃ xs, p.activations = wholeSessions xs) ∨
      (p.inSession = true ∧ p.ended = false ∧
        ∃ xs query, p.activations = wholeSessions xs ++ opening query) := by
  constructor
  · rintro ⟨xs, hxs | ⟨he, query, hxs⟩⟩
    · exact .inl ⟨inSession_of_whole hxs, xs, hxs⟩
    · exact .inr ⟨inSession_opening hxs, he, xs, query, hxs⟩
  · rintro (⟨-, xs, hxs⟩ | ⟨-, he, xs, query, hxs⟩)
    · exact ⟨xs, .inl hxs⟩
    · exact ⟨xs, .inr ⟨he, query, hxs⟩⟩

/-- Where the law holds, the number of activations tells whether a session is open. -/
lemma KeepsSessions.length (h : p.KeepsSessions) :
    p.activations.length % 4 = if p.inSession then 2 else 0 := by
  rcases keepsSessions_iff.1 h with ⟨hin, xs, hxs⟩ | ⟨hin, -, xs, query, hxs⟩
  · simp [hin, hxs, length_wholeSessions]
  · simp [hin, hxs, length_wholeSessions, opening]

end Sessions

/-! ## Steps -/

/-- **The steps that stop the source** of a live path: a timer goes off, or the source fails. -/
def StopsSource (p : Path) : PathStep → Prop
  | .message .sourceNotReady | .expire => p.ended = false ∧ p.sourceDemand.isIdle = false
  | _ => False

/-- **Unasked sources**: a source announces a stream although it was not started; it counts as
running from then on. -/
def BringsUnasked (p : Path) : PathStep → Prop
  | .message (.sourceReady _ d _) =>
    p.ended = false ∧ p.sourceDemand.isIdle = true ∧ d.isEmpty = false
  | _ => False

/-- **The steps that break the law**: a source is stopped that was not started, or the path is
destroyed while the source runs. -/
def BreaksSession (p : Path) (s : PathStep) : Prop :=
  (p.inSession = false ∧ p.StopsSource s) ∨
    (p.inSession = true ∧ p.ended = false ∧ s = .destroy)

/-- Only live paths stop their source. -/
lemma StopsSource.live {p : Path} {s : PathStep} (h : p.StopsSource s) :
    p.ended = false ∧ p.sourceDemand.isIdle = false := by
  unfold StopsSource at h
  split at h
  · exact h
  · exact h
  · exact h.elim

/-- A source that was not started does not run. -/
lemma BringsUnasked.live {p : Path} {s : PathStep} (h : p.BringsUnasked s) :
    p.ended = false ∧ p.sourceDemand.isIdle = true := by
  unfold BringsUnasked at h
  split at h
  · exact ⟨h.1, h.2.1⟩
  · exact h.elim

lemma BreaksSession.live {p : Path} {s : PathStep} (h : p.BreaksSession s) : p.ended = false := by
  rcases h with ⟨-, hs⟩ | ⟨-, he, -⟩
  · exact hs.live.1
  · exact he

/-- Other steps do not break the law. -/
lemma not_breaksSession {p : Path} {s : PathStep} (hstop : ¬ p.StopsSource s)
    (hdestroy : s ≠ .destroy) : ¬ p.BreaksSession s := by
  rintro (⟨-, hs⟩ | ⟨-, -, hs⟩)
  · exact hstop hs
  · exact hdestroy hs

/-- A source is stopped lawfully within a session. -/
lemma StopsSource.not_breaks {p : Path} {s : PathStep} (h : p.StopsSource s)
    (hin : p.inSession = true) : ¬ p.BreaksSession s := by
  rintro (⟨hout, -⟩ | ⟨-, -, rfl⟩)
  · simp [hin] at hout
  · exact h

instance (p : Path) (s : PathStep) : Decidable (p.StopsSource s) := by
  unfold StopsSource
  split <;> infer_instance

instance (p : Path) (s : PathStep) : Decidable (p.BreaksSession s) :=
  inferInstanceAs (Decidable (_ ∨ _))

instance (p : Path) (s : PathStep) : Decidable (p.BringsUnasked s) := by
  unfold BringsUnasked
  split <;> infer_instance

/-- **What a step does to the sessions** of a live path. -/
inductive SessionTurn (p : Path) : PathStep → Path → Prop where
  | stay {s : PathStep} {q : Path} (hstop : ¬ p.StopsSource s) (hunasked : ¬ p.BringsUnasked s)
      (hdestroy : s ≠ .destroy) (hsame : q.activations = p.activations)
      (hidle : q.sourceDemand.isIdle = p.sourceDemand.isIdle) (he : q.ended = false) :
      SessionTurn p s q
  | start {s : PathStep} {q : Path} (query : String) (hstop : ¬ p.StopsSource s)
      (hunasked : ¬ p.BringsUnasked s) (hdestroy : s ≠ .destroy)
      (hidle : p.sourceDemand.isIdle = true) (hnew : q.activations = p.activations ++ opening query)
      (hbusy : q.sourceDemand.isIdle = false) (he : q.ended = false) : SessionTurn p s q
  | stop {s : PathStep} {q : Path} (reason : String) (hstop : p.StopsSource s)
      (hnew : q.activations = p.activations ++ closing reason)
      (hidle : q.sourceDemand.isIdle = true) (he : q.ended = false) : SessionTurn p s q
  | unasked {s : PathStep} {q : Path} (hunasked : p.BringsUnasked s)
      (hsame : q.activations = p.activations) (hbusy : q.sourceDemand.isIdle = false)
      (he : q.ended = false) : SessionTurn p s q
  | destroy {q : Path} (hsame : q.activations = p.activations) (he : q.ended = true) :
      SessionTurn p .destroy q

/-! ## What is not told -/

/-- **Untold**: the source has not been told anything, and its activation is as idle as before. -/
structure Untold (p q : Path) : Prop where
  activations : q.activations = p.activations
  idle : q.sourceDemand.isIdle = p.sourceDemand.isIdle
  ended : q.ended = p.ended

/-- Other events are no activations. -/
lemma activations_of_log {p q : Path} {es : List PathEvent} (hlog : q.log = p.log ++ es)
    (hes : ∀ e ∈ es, e.isActivation = false) : q.activations = p.activations := by
  have hnone : es.filter (·.isActivation) = [] := List.filter_eq_nil_iff.2 (by simpa using hes)
  simp [activations, hlog, hnone]

namespace Untold

variable {p q r : Path}

lemma trans (h : p.Untold q) (h' : q.Untold r) : p.Untold r :=
  ⟨h'.activations.trans h.activations, h'.idle.trans h.idle, h'.ended.trans h.ended⟩

/-- What is written down does not concern the source. -/
lemma of_log {es : List PathEvent} (hlog : q.log = p.log ++ es)
    (hes : ∀ e ∈ es, e.isActivation = false) (hidle : q.sourceDemand.isIdle = p.sourceDemand.isIdle)
    (hended : q.ended = p.ended) : p.Untold q :=
  ⟨activations_of_log hlog hes, hidle, hended⟩

/-- One event that does not concern the source. -/
lemma of_event {e : PathEvent} (hlog : q.log = p.log ++ [e]) (hne : e.isActivation = false)
    (hidle : q.sourceDemand.isIdle = p.sourceDemand.isIdle) (hended : q.ended = p.ended) :
    p.Untold q :=
  .of_log hlog (List.forall_mem_singleton.2 hne) hidle hended

/-- Nothing is told in a step. -/
lemma turn (h : p.Untold q) (he : p.ended = false) {s : PathStep} (hstop : ¬ p.StopsSource s)
    (hunasked : ¬ p.BringsUnasked s) (hdestroy : s ≠ .destroy) : SessionTurn p s q :=
  .stay hstop hunasked hdestroy h.activations h.idle (h.ended.trans he)

end Untold

section Operations

variable (p : Path)

lemma untold_answer (n : Nat) (a : Answer) : p.Untold (p.answer n a) :=
  .of_event (e := .answered n a) rfl rfl rfl rfl

lemma untold_becomeReady (s : Stream) : p.Untold (p.becomeReady s) := by
  have hes : ∀ e ∈ p.readyEvents s, e.isActivation = false :=
    p.forall_readyEvents (P := (·.isActivation = false)) (fun _ => rfl) rfl rfl s
  refine .of_log (p.log_becomeReady s) hes ?_ ?_
  all_goals rw [becomeReady_eq]

lemma untold_becomeUnready : p.Untold p.becomeUnready := by
  cases hs : p.stream with
  | none =>
    rw [becomeUnready_of_none p hs]
    exact ⟨rfl, rfl, rfl⟩
  | some s =>
    refine .of_log (p.log_becomeUnready hs)
      (p.forall_unreadyEvents rfl (fun _ => rfl) rfl fun _ => rfl) ?_ ?_
    all_goals rw [becomeUnready_eq p hs]

/-- Readers who are taken in leave an activation as idle as it was. -/
lemma isIdle_takeIn (cs : List Client) :
    (p.takeIn cs).sourceDemand.isIdle = p.sourceDemand.isIdle := by
  unfold takeIn
  dsimp only
  split <;> simp

lemma untold_attach (hr : p.isReady = true) (n : Nat) (client : Client) :
    p.Untold (p.attach n client) := by
  obtain ⟨cs, a, -, heq⟩ := p.attach_eq hr n client
  rw [heq]
  exact .of_event (e := .answered n a) rfl rfl (p.isIdle_takeIn cs) rfl

lemma untold_releaseHeld (hr : p.isReady = true) : p.Untold p.releaseHeld := by
  obtain ⟨cs, answers, -, -, heq⟩ := p.releaseHeld_eq hr
  rw [heq]
  exact .of_log rfl (forall_answerEvents fun _ _ => rfl) (p.isIdle_takeIn cs) rfl

lemma untold_failHeld (e : PathError) : p.Untold (p.failHeld e) := by
  rw [failHeld_eq]
  exact .of_log rfl (forall_answerEvents fun _ _ => rfl) rfl rfl

lemma untold_removeReader (client : Client) : p.Untold (p.removeReader client) := by
  rw [removeReader_eq]
  refine ⟨rfl, ?_, rfl⟩
  dsimp only
  split <;> simp

lemma untold_reload (c : Conf) : p.Untold (p.reload c) := by
  rw [reload_eq]
  refine .of_log (List.append_assoc ..) (List.forall_mem_append.2 ⟨?_, ?_⟩) rfl rfl
  · exact p.forall_sourceCall rfl
  · exact p.forall_recordingChange c (fun _ => rfl) fun _ => rfl

end Operations

/-! ## Turns -/

section Turns

variable {p : Path} (h : p.RunsOnDemand)

include h

lemma RunsOnDemand.started (query : String) :
    (p.startSource query).activations = p.activations ++ opening query ∧
      (p.startSource query).sourceDemand.isIdle = false ∧
      (p.startSource query).ended = p.ended := by
  rw [startSource_eq]
  refine ⟨?_, rfl, rfl⟩
  simp [activations, sourceCall, h.source, opening, PathEvent.isActivation]

lemma RunsOnDemand.stopped (reason : String) :
    (p.stopSource reason).activations = p.activations ++ closing reason ∧
      (p.stopSource reason).sourceDemand.isIdle = true ∧
      (p.stopSource reason).ended = p.ended := by
  rw [stopSource_eq]
  refine ⟨?_, rfl, rfl⟩
  simp [activations, sourceCall, h.source, closing, PathEvent.isActivation]

variable (he : p.ended = false)

include he

/-- **Somebody asks** for a path that is not ready: the source is started if it is idle. -/
lemma hold_turn {s : PathStep} (hstop : ¬ p.StopsSource s) (hunasked : ¬ p.BringsUnasked s)
    (hdestroy : s ≠ .destroy) (query : String) (ds : List HeldDescribe) (rs : List HeldReader) :
    SessionTurn p s { p.awakened query with heldDescribes := ds, heldReaders := rs } := by
  by_cases hidle : p.sourceDemand.isIdle = true
  · obtain ⟨hnew, hbusy, hended⟩ := h.started query
    simp only [awakened, hidle, ↓reduceIte]
    exact .start query hstop hunasked hdestroy hidle hnew hbusy (hended.trans he)
  · simp only [awakened, hidle, Bool.false_eq_true, ↓reduceIte]
    exact .stay hstop hunasked hdestroy rfl rfl he

omit h in
/-- **The source is stopped** in a step after which the path is as untold as before. -/
lemma stop_turn {q : Path} (hq : q.RunsOnDemand) (hu : p.Untold q) {s : PathStep}
    (hstop : p.StopsSource s) (reason : String) : SessionTurn p s (q.stopSource reason) := by
  obtain ⟨hnew, hidle, hended⟩ := hq.stopped reason
  exact .stop reason hstop (hu.activations ▸ hnew) hidle (hended.trans (hu.ended.trans he))

/-- **A report of readiness**: a source that was not started counts as running from then on. -/
lemma sourceReady_turn (n : Nat) (d : MediaDescription) (rtp : Bool) :
    SessionTurn p (.message (.sourceReady n d rtp)) (p.sourceReady n d rtp) := by
  have hunready := p.untold_becomeUnready
  unfold sourceReady Stream.open?
  by_cases hd : d.isEmpty = true
  · have hunasked : ¬ p.BringsUnasked (.message (.sourceReady n d rtp)) := by
      simp [BringsUnasked, hd]
    simp only [hd, ↓reduceIte]
    exact (hunready.trans (untold_answer _ n _)).turn he not_false hunasked (by simp)
  · simp only [hd, Bool.false_eq_true, ↓reduceIte]
    set b := p.becomeUnready.becomeReady (p.announced d rtp) with hb
    have hready : p.Untold b := hunready.trans (untold_becomeReady _ _)
    have hbready : b.isReady = true ∧ b.conf = p.conf := by
      rw [hb, becomeReady_eq]
      exact ⟨rfl, congrArg (·.2.2.1) p.proceeds_becomeUnready.same⟩
    have hnoted : b.noteSourceReady = { b with
        sourceDemand := b.sourceDemand.ready (b.now + b.conf.sourceCloseAfter) } := by
      rw [noteSourceReady_eq, hbready.2, if_pos h.onDemand]
    have hreleased : b.noteSourceReady.Untold
        (b.noteSourceReady.releaseHeld.answer n (.stream b.noteSourceReady.releaseHeld.streamId)) :=
      (untold_releaseHeld _ (by rw [hnoted]; exact hbready.1)).trans (untold_answer _ n _)
    set q := b.noteSourceReady.releaseHeld.answer n
      (.stream b.noteSourceReady.releaseHeld.streamId) with hq
    have hsame : q.activations = p.activations := by
      rw [hreleased.activations, hnoted]
      exact hready.activations
    have hbusy : q.sourceDemand.isIdle = false := by
      rw [hreleased.idle, hnoted]
      rfl
    have hended : q.ended = false := by
      rw [hreleased.ended, hnoted]
      exact hready.ended.trans he
    by_cases hidle : p.sourceDemand.isIdle = true
    · exact .unasked ⟨he, hidle, by simpa using hd⟩ hsame hbusy hended
    · have hunasked : ¬ p.BringsUnasked (.message (.sourceReady n d rtp)) := fun hb => hidle hb.2.1
      exact .stay not_false hunasked (by simp) hsame (hbusy.trans (by simpa using hidle)) hended

/-- **A report of failure** stops the source if it runs. -/
lemma sourceNotReady_turn : SessionTurn p (.message .sourceNotReady) p.sourceNotReady := by
  have hunready := p.untold_becomeUnready
  have hu := h.becomeUnready.1
  unfold sourceNotReady
  simp only [hu.onDemand, Bool.true_and]
  split
  · next hbusy =>
    have hstop : p.StopsSource (.message .sourceNotReady) :=
      ⟨he, by simpa [hunready.idle] using hbusy⟩
    exact stop_turn he hu hunready hstop _
  · next hidle =>
    have hstop : ¬ p.StopsSource (.message .sourceNotReady) := fun hstop => hidle (by
      simp [hunready.idle, hstop.2])
    exact hunready.turn he hstop not_false (by simp)

/-- **A message.** A path that has a source does not end by itself. -/
lemma receive_turn (m : PathMessage) : SessionTurn p (.message m) (p.receive m) := by
  have hlive {m : PathMessage} {q : Path} (hm : SourceMove p (.message m) q) :
      q.closeIfUnused = q := (hm.order.live hm.alive).closeIfUnused
  unfold receive
  rw [if_neg (by simp [he])]
  cases m with
  | describe n query =>
    dsimp only
    rw [hlive (describe_move h he n query), describe_of_runs h]
    split
    · exact (p.untold_answer n _).turn he not_false not_false (by simp)
    · exact hold_turn h he (s := .message (.describe n query)) not_false not_false (by simp) query
        _ _
  | addPublisher n client d rtp query expected =>
    have hfault : p.publisherFault? expected d = some (.notPublisherSource p.name) := by
      have := h.static
      unfold publisherFault?
      rw [if_pos fun hs => by simp [Conf.hasStaticSource, SourceKind.isStatic, hs] at this]
    simp only [addPublisher, hfault]
    have hanswered : (p.answer n (.refused (.notPublisherSource p.name))).RunsOnDemand := h.log _
    rw [hanswered.closeIfUnused]
    exact (p.untold_answer n _).turn he not_false not_false (by simp)
  | removePublisher client =>
    have hsame : p.removePublisher client = p := by
      simp [removePublisher, h.publisher?_eq_none]
    dsimp only
    rw [hsame, h.closeIfUnused]
    exact .stay not_false not_false (by simp) rfl rfl he
  | addReader n client query =>
    dsimp only
    rw [hlive (addReader_move h he n client query), addReader_of_runs h]
    split
    · next hr => exact (p.untold_attach hr n client).turn he not_false not_false (by simp)
    · exact hold_turn h he (s := .message (.addReader n client query)) not_false not_false
        (by simp) query _ _
  | removeReader client =>
    exact (p.untold_removeReader client).turn he not_false not_false (by simp)
  | sourceReady n d rtp => exact sourceReady_turn h he n d rtp
  | sourceNotReady =>
    dsimp only
    rw [hlive (sourceNotReady_move h he)]
    exact sourceNotReady_turn h he
  | abandon n => exact .stay not_false not_false (by simp) rfl rfl he

/-- **A timer goes off**: the source was to be ready, or nobody reads from it. -/
lemma expire_turn (ho : p.InOrder) (hs : p.Permits .expire) :
    SessionTurn p .expire p.expire := by
  have hstop (hphase : p.sourceDemand.phase ≠ .idle) : p.StopsSource .expire :=
    ⟨he, by simpa [OnDemand.isIdle] using hphase⟩
  rcases ho.expire_cases hs with ⟨hp, -, hr, heq⟩ | ⟨hp, -, heq⟩ | ⟨-, hl, -⟩ | ⟨-, hl, -⟩
  · have hfailed := h.failHeld (.sourceTimedOut p.name)
    rw [heq, failSource, (hfailed.stopSource (by simpa [failHeld_eq, isReady] using hr)
      "timed out").closeIfUnused]
    exact stop_turn he hfailed (p.untold_failHeld _) (hstop (by simp [hp])) _
  · obtain ⟨hunready, hr, -⟩ := h.becomeUnready
    rw [heq, retireSource, (hunready.stopSource hr "not needed by anyone").closeIfUnused]
    exact stop_turn he hunready p.untold_becomeUnready (hstop (by simp [hp])) _
  · simp [h.noLaunch] at hl
  · simp [h.noLaunch] at hl

end Turns

/-- **The end** tells the source nothing but that it is closed, if it runs. -/
lemma activations_shutdown (p : Path) : p.shutdown.activations = p.activations := by
  have hreleased : p.beginEnd.becomeUnready.releaseSource.activations = p.activations := by
    rw [activations_of_log (congrArg log (releaseSource_eq _))
      (forall_sourceRelease (P := (·.isActivation = false)) _ (fun _ => rfl) fun _ => rfl),
      (untold_becomeUnready _).activations]
    exact activations_of_log p.log_beginEnd
      (p.forall_endEvents (P := (·.isActivation = false)) rfl rfl fun _ => rfl)
  rw [shutdown_eq]
  split
  · exact hreleased
  · refine Eq.trans ?_ hreleased
    rw [stopLaunch_eq]
    exact activations_of_log rfl (List.forall_mem_singleton.2 rfl)

/-- **Every possible step** of a live path in order is a turn of its sessions. -/
theorem SourceOrder.sessionTurn {p : Path} (h : p.SourceOrder) (ho : p.Orderly)
    (he : p.ended = false) {s : PathStep} (hs : p.Permits s) : SessionTurn p s (p.step s) := by
  have hruns := h.live he
  cases s with
  | message m => exact receive_turn hruns he m
  | reload c => exact (p.untold_reload c).turn he not_false not_false (by simp)
  | pass time => exact .stay not_false not_false (by simp) rfl rfl he
  | expire => exact expire_turn hruns he (ho.live he) hs
  | destroy =>
    have heq : p.step .destroy = { p with ended := true }.shutdown := by
      simp [Path.step, destroy, he]
    rw [heq]
    refine .destroy ?_ (isOver_shutdown _).ended
    exact activations_shutdown _

/-! ## Whole runs -/

/-- **The order of sessions**: where a session is open, the source of a live path runs. -/
structure SessionOrder (p : Path) : Prop where
  source : p.SourceOrder
  orderly : p.Orderly
  busy : p.ended = false → p.inSession = true → p.sourceDemand.isIdle = false

/-- **Agreement**: while the path lives, the law holds and a session is open exactly while the
source runs. -/
def SessionsAgree (p : Path) : Prop :=
  p.ended = false → p.KeepsSessions ∧ p.inSession = !p.sourceDemand.isIdle

/-- A session that is open stays so where nothing is told. -/
lemma inSession_congr {p q : Path} (h : q.activations = p.activations) :
    q.inSession = p.inSession := by
  simp [inSession, h]

/-- The law holds as before where nothing is told and the path does not end. -/
lemma keepsSessions_congr {p q : Path} (h : q.activations = p.activations)
    (he : q.ended = p.ended) : q.KeepsSessions ↔ p.KeepsSessions := by
  simp [KeepsSessions, h, he]

section Turns

variable {p q : Path} {s : PathStep} (ht : SessionTurn p s q) (he : p.ended = false)
  (hbusy : p.inSession = true → p.sourceDemand.isIdle = false)

include ht he hbusy

omit he in
/-- **Turns keep the order** of sessions. -/
lemma SessionTurn.busy : q.ended = false → q.inSession = true → q.sourceDemand.isIdle = false := by
  intro hlive hin
  cases ht with
  | stay hstop hunasked hdestroy hsame hidle hend =>
    exact hidle.trans (hbusy (inSession_congr hsame ▸ hin))
  | start query hstop hunasked hdestroy hidle hnew hq hend => exact hq
  | stop reason hstop hnew hidle hend => simp [inSession_closing hnew] at hin
  | unasked hunasked hsame hq hend => exact hq
  | destroy hsame hend => simp [hend] at hlive

/-- **Turns keep the law**, but for the two kinds of steps that break it. -/
lemma SessionTurn.law (hL : p.KeepsSessions) : q.KeepsSessions ↔ ¬ p.BreaksSession s := by
  cases ht with
  | stay hstop hunasked hdestroy hsame hidle hend =>
    exact iff_of_true ((keepsSessions_congr hsame (hend.trans he.symm)).2 hL)
      (not_breaksSession hstop hdestroy)
  | start query hstop hunasked hdestroy hidle hnew hq hend =>
    refine iff_of_true ?_ (not_breaksSession hstop hdestroy)
    rcases keepsSessions_iff.1 hL with ⟨-, xs, hxs⟩ | ⟨hin, -⟩
    · exact ⟨xs, .inr ⟨hend, query, hxs ▸ hnew⟩⟩
    · simp [hbusy hin] at hidle
  | stop reason hstop hnew hidle hend =>
    rcases keepsSessions_iff.1 hL with ⟨hout, xs, hxs⟩ | ⟨hin, -, xs, query, hxs⟩
    · -- what was not started is stopped
      refine iff_of_false (fun hq => ?_) fun hn => hn (.inl ⟨hout, hstop⟩)
      have hlength := hq.length
      simp [inSession_closing hnew, hnew, hxs, length_wholeSessions, closing] at hlength
    · refine iff_of_true ⟨xs ++ [(query, reason)], .inl ?_⟩ (hstop.not_breaks hin)
      rw [hnew, hxs, wholeSessions_append]
  | unasked hunasked hsame hq hend =>
    have hidle := hunasked.live.2
    have hstop : ¬ p.StopsSource s := fun hs => by simp [hs.live.2] at hidle
    refine iff_of_true ((keepsSessions_congr hsame (hend.trans he.symm)).2 hL)
      (not_breaksSession hstop ?_)
    rintro rfl
    exact hunasked
  | destroy hsame hend =>
    rcases keepsSessions_iff.1 hL with ⟨hout, xs, hxs⟩ | ⟨hin, -, xs, query, hxs⟩
    · refine iff_of_true ⟨xs, .inl (hsame.trans hxs)⟩ ?_
      rintro (⟨-, hs⟩ | ⟨hin, -⟩)
      · exact hs
      · simp [hout] at hin
    · -- the open session is never closed
      refine iff_of_false (fun hq => ?_) fun hn => hn (.inr ⟨hin, he, rfl⟩)
      rcases keepsSessions_iff.1 hq with ⟨hout, -⟩ | ⟨-, hlive, -⟩
      · simp [inSession_congr hsame, hin] at hout
      · simp [hend] at hlive

/-- **Turns keep the agreement**, but for a source that was not started and counts as running. -/
lemma SessionTurn.agree (hL : p.SessionsAgree) : q.SessionsAgree ↔ ¬ p.BringsUnasked s := by
  obtain ⟨hlaw, hagree⟩ := hL he
  have hkeeps (hs : ¬ p.BreaksSession s) : q.KeepsSessions := (ht.law he hbusy hlaw).2 hs
  cases ht with
  | stay hstop hunasked hdestroy hsame hidle hend =>
    refine iff_of_true (fun _ => ⟨hkeeps (not_breaksSession hstop hdestroy), ?_⟩) hunasked
    rw [inSession_congr hsame, hidle, hagree]
  | start query hstop hunasked hdestroy hidle hnew hq hend =>
    refine iff_of_true (fun _ => ⟨hkeeps (not_breaksSession hstop hdestroy), ?_⟩) hunasked
    rw [inSession_opening hnew, hq, Bool.not_false]
  | stop reason hstop hnew hidle hend =>
    have hin : p.inSession = true := by rw [hagree, hstop.live.2, Bool.not_false]
    refine iff_of_true (fun _ => ⟨hkeeps (hstop.not_breaks hin), ?_⟩) fun hs => ?_
    · rw [inSession_closing hnew, hidle, Bool.not_true]
    · exact absurd (hstop.live.2.symm.trans hs.live.2) Bool.false_ne_true
  | unasked hunasked hsame hq hend =>
    refine iff_of_false (fun hagrees => ?_) fun hn => hn hunasked
    have hin := (hagrees hend).2
    rw [inSession_congr hsame, hagree, hunasked.live.2, hq] at hin
    cases hin
  | destroy hsame hend => exact iff_of_true (fun hq => by simp [hend] at hq) not_false

end Turns

/-- **A possible step** keeps the order of sessions. -/
lemma SessionOrder.step {p : Path} (h : p.SessionOrder) {s : PathStep} (hs : p.Permits s) :
    (p.step s).SessionOrder := by
  refine ⟨(h.source.step hs).order, h.orderly.step hs, fun hlive => ?_⟩
  cases he : p.ended with
  | true => simp [((h.orderly.gone he).step hs).ended] at hlive
  | false => exact (h.source.sessionTurn h.orderly he hs).busy (h.busy he) hlive

/-- After the end nothing is told. -/
lemma IsOver.step_untold {p : Path} (h : p.IsOver) {s : PathStep} (hs : p.Permits s) :
    (p.step s).activations = p.activations ∧ (p.step s).ended = p.ended := by
  cases s with
  | message m =>
    rw [Path.step, receive_of_ended h.ended]
    exact ⟨rfl, rfl⟩
  | reload c => simp [Permits, h.ended] at hs
  | pass time => exact ⟨rfl, rfl⟩
  | expire => simp [Permits, deadline?, h.ended] at hs
  | destroy => simp [Path.step, destroy, h.ended]

/-- **A new path** was told nothing, and its source does not run. -/
lemma sessionOrder_create {found : ConfSet.Found} (hc : found.conf.hasOnDemandSource = true)
    (settings : PathSettings) (now id : Nat) (name : String) :
    (create settings now id name found).SessionOrder ∧
      (create settings now id name found).KeepsSessions ∧
      (create settings now id name found).SessionsAgree := by
  set p := create settings now id name found with hp
  have hnone : p.activations = wholeSessions [] := by
    have hdemand := (Bool.and_eq_true_iff.1 hc).2
    rw [hp, create_eq]
    dsimp only [activations]
    unfold ConfSet.Found.sourceStart
    split <;> simp [PathEvent.isActivation, wholeSessions]
  have hidle : p.sourceDemand.isIdle = true := by
    rw [hp, create_eq]
    rfl
  have hout := inSession_of_whole hnone
  have horderly : p.Orderly := (Reached.create settings now id name found).orderly
  refine ⟨⟨(sourceOrder_create hc settings now id name).1, horderly, fun _ hin => ?_⟩,
    ⟨[], .inl hnone⟩, fun _ => ⟨⟨[], .inl hnone⟩, by rw [hout, hidle, Bool.not_true]⟩⟩
  exact absurd (hout.symm.trans hin) Bool.false_ne_true

/-- **Sessions along a run.** On a path that runs its source on demand, the source is told in whole
sessions, the last of which may be open while the path lives, all along a run exactly if no step of
the run breaks a session: nothing is stopped that was not started, and the path is not destroyed
within a session. While the path lives, the law holds and a session is open exactly while the source
runs, all along a run exactly if no source that was not started announces a stream.

**Proof sketch.** Each step of a live path starts an idle source, stops one that runs, lets one
count as running that was not started, ends the path or tells nothing; within the order of sessions
each of these turns keeps the law or breaks it as claimed. -/
theorem sessions_run {found : ConfSet.Found} (hc : found.conf.hasOnDemandSource = true)
    (settings : PathSettings) (now id : Nat) (name : String) {ss : List PathStep}
    (hs : (create settings now id name found).PermitsAll ss) :
    ((∀ p ∈ (create settings now id name found).visited ss, p.KeepsSessions) ↔
      ∀ m ∈ (create settings now id name found).moves ss, ¬ m.1.BreaksSession m.2) ∧
    ((∀ p ∈ (create settings now id name found).visited ss, p.SessionsAgree) ↔
      ∀ m ∈ (create settings now id name found).moves ss, ¬ m.1.BringsUnasked m.2) := by
  obtain ⟨horder, hlaw, hagree⟩ := sessionOrder_create hc settings now id name
  have keeps : ∀ p s, SessionOrder p → p.Permits s → (p.step s).SessionOrder :=
    fun p s h hs => h.step hs
  refine ⟨forall_visited_iff keeps (fun p s h hs hL => ?_) horder hlaw hs,
    forall_visited_iff keeps (fun p s h hs hL => ?_) horder hagree hs⟩
  · cases he : p.ended with
    | true =>
      obtain ⟨hsame, hend⟩ := (h.orderly.gone he).step_untold hs
      exact iff_of_true ((keepsSessions_congr hsame hend).2 hL) fun hb => by
        simp [hb.live] at he
    | false => exact (h.source.sessionTurn h.orderly he hs).law he (h.busy he) hL
  · cases he : p.ended with
    | true =>
      obtain ⟨-, hend⟩ := (h.orderly.gone he).step_untold hs
      exact iff_of_true (fun hlive => by simp [hend, he] at hlive) fun hb => by
        simp [hb.live.1] at he
    | false => exact (h.source.sessionTurn h.orderly he hs).agree he (h.busy he) hL

/-- A source that was started and has failed is told in a whole session, also when the path is
destroyed afterwards. -/
theorem sessions_failedPulled :
    pulledOnDemand.conf.hasOnDemandSource = true ∧
      newPulled.PermitsAll [.message (.describe 0 "q"), .message .sourceNotReady, .destroy] ∧
      ∀ p ∈ newPulled.visited [.message (.describe 0 "q"), .message .sourceNotReady, .destroy],
        p.KeepsSessions := by
  have hruns : pulledOnDemand.conf.hasOnDemandSource = true := by decide
  have hpermits :
      newPulled.PermitsAll [.message (.describe 0 "q"), .message .sourceNotReady, .destroy] := by
    decide
  exact ⟨hruns, hpermits, (sessions_run hruns {} 0 1 "cam" hpermits).1.2 (by decide)⟩

/-- **Two ways to break sessions**: the path is destroyed while its source runs, which is then never
stopped; or a source announces a stream that was never started, and is stopped when it fails. -/
theorem not_keepsSessions_newPulled :
    (newPulled.PermitsAll [.message (.describe 0 "q"), .destroy] ∧
      (newPulled.run [.message (.describe 0 "q"), .destroy]).ended = true ∧
      (newPulled.run [.message (.describe 0 "q"), .destroy]).activations = opening "q" ∧
      ¬ (newPulled.run [.message (.describe 0 "q"), .destroy]).KeepsSessions) ∧
    (newPulled.PermitsAll [.message (.sourceReady 0 ⟨[⟨.video, "H264"⟩]⟩ false),
        .message .sourceNotReady] ∧
      (newPulled.run [.message (.sourceReady 0 ⟨[⟨.video, "H264"⟩]⟩ false),
        .message .sourceNotReady]).activations = closing "an error occurred" ∧
      ¬ (newPulled.run [.message (.sourceReady 0 ⟨[⟨.video, "H264"⟩]⟩ false),
        .message .sourceNotReady]).KeepsSessions) := by
  refine ⟨⟨by decide, by decide, by decide, fun h => ?_⟩, by decide, by decide, fun h => ?_⟩
  · rcases keepsSessions_iff.1 h with ⟨hin, -⟩ | ⟨-, he, -⟩
    · exact absurd hin (by decide)
    · exact absurd he (by decide)
  · exact absurd h.length (by decide)

end Path

end LivePaths
