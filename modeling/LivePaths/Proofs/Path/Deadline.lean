import LivePaths.Proofs.Path.History

set_option relaxedAutoImplicit false
set_option autoImplicit false

/-!
# Deadlines

The phases of an activation and its timers go together, and time does not pass by a deadline. Where
requests are held until a deadline, all of them are answered when it comes.

## Main definitions

* `OnDemand.Timed` — an activation with the right timers armed, none of them overdue.
* `Path.SettledBy` — held requests are answered at a time at the latest if nothing else happens.
* `Path.HasAnswered`, `Path.Serves` — what a step does to those who wait.
* `Path.AnsweredBy` — they are answered at a time at the latest whatever happens.

## Main results

* `OnDemand.Timed.begin`, `OnDemand.Timed.ready`, … — the operations keep the timers right.
* `Path.now_receive`, `Path.now_advance` — messages take no time, and time passes as it should.
* `Path.settledBy_source`, `Path.settledBy_launch` — who waits for what is started on demand is
  answered at its deadline.
* `Path.answeredBy_of_step` — waiting is bounded if every step answers or keeps the deadline.
-/

namespace LivePaths

namespace OnDemand

/-! ## Phases -/

/-- Whether what was started has become ready and was not stopped since. -/
def isUp (o : OnDemand) : Bool := o.phase = .inUse ∨ o.phase = .closing

@[simp]
lemma isUp_begin (o : OnDemand) (d : Nat) : (o.begin d).isUp = false := rfl

@[simp]
lemma isUp_ready (o : OnDemand) (d : Nat) : (o.ready d).isUp = true := rfl

@[simp]
lemma isUp_idle : ({} : OnDemand).isUp = false := rfl

@[simp]
lemma isUp_readerAttached (o : OnDemand) : o.readerAttached.isUp = o.isUp := by
  unfold readerAttached isUp
  split <;> simp_all

@[simp]
lemma isUp_readersGone (o : OnDemand) (d : Nat) : (o.readersGone d).isUp = o.isUp := by
  unfold readersGone isUp
  split <;> simp_all [scheduleClose]

@[simp]
lemma isIdle_readerAttached (o : OnDemand) : o.readerAttached.isIdle = o.isIdle := by
  unfold readerAttached isIdle
  split <;> simp_all

@[simp]
lemma isIdle_readersGone (o : OnDemand) (d : Nat) : (o.readersGone d).isIdle = o.isIdle := by
  unfold readersGone isIdle
  split <;> simp_all [scheduleClose]

@[simp]
lemma readyAt_readersGone (o : OnDemand) (d : Nat) : (o.readersGone d).readyAt = o.readyAt := by
  unfold readersGone
  split <;> simp [scheduleClose]

@[simp]
lemma starting_readerAttached (o : OnDemand) :
    o.readerAttached.phase = .starting ↔ o.phase = .starting := by
  unfold readerAttached
  split <;> simp_all

@[simp]
lemma starting_readersGone (o : OnDemand) (d : Nat) :
    (o.readersGone d).phase = .starting ↔ o.phase = .starting := by
  unfold readersGone
  split <;> simp_all [scheduleClose]

/-- What is up does not start any more. -/
lemma not_starting_of_isUp {o : OnDemand} (h : o.isUp = true) : o.phase ≠ .starting := by
  intro hp
  simp [isUp, hp] at h

/-- What was asked for and does not start is up. -/
lemma isUp_of_not_idle {o : OnDemand} (hi : o.isIdle = false) (hs : o.phase ≠ .starting) :
    o.isUp = true := by
  cases hp : o.phase <;> simp_all [isIdle, isUp]

/-! ## Timers -/

/-- **Timed activation**: the one timer is armed exactly while it starts, the other one exactly
while nobody reads, and no deadline has passed. -/
structure Timed (o : OnDemand) (now : Nat) : Prop where
  readyAt_isSome : o.readyAt.isSome = true ↔ o.phase = .starting
  closeAt_isSome : o.closeAt.isSome = true ↔ o.phase = .closing
  le_readyAt : ∀ d ∈ o.readyAt, now ≤ d
  le_closeAt : ∀ d ∈ o.closeAt, now ≤ d

variable {o : OnDemand} {now d : Nat}

/-- A new activation is timed. -/
lemma timed_idle (now : Nat) : Timed {} now :=
  ⟨by simp, by simp, by simp, by simp⟩

/-- After its end an activation is like a new one. -/
@[simp]
lemma reset_eq (o : OnDemand) : o.reset = {} := rfl

lemma Timed.readyAt_eq_none (h : o.Timed now) (hp : o.phase ≠ .starting) : o.readyAt = none := by
  have := h.readyAt_isSome
  simpa [hp] using this

lemma Timed.closeAt_eq_none (h : o.Timed now) (hp : o.phase ≠ .closing) : o.closeAt = none := by
  have := h.closeAt_isSome
  simpa [hp] using this

/-- A timed activation that nobody has asked for is like a new one. -/
lemma Timed.eq_idle (h : o.Timed now) (hp : o.phase = .idle) : o = {} := by
  have hr := h.readyAt_eq_none (by simp [hp])
  have hc := h.closeAt_eq_none (by simp [hp])
  cases o
  simp_all

lemma Timed.begin (h : o.Timed now) (hp : o.phase = .idle) (hd : now ≤ d) :
    (o.begin d).Timed now := by
  have hc := h.closeAt_eq_none (by simp [hp])
  exact ⟨by simp [OnDemand.begin], by simp [OnDemand.begin, hc], by simpa [OnDemand.begin] using hd,
    by simp [OnDemand.begin, hc]⟩

lemma Timed.ready (hd : now ≤ d) : (o.ready d).Timed now :=
  ⟨by simp [OnDemand.ready, scheduleClose], by simp [OnDemand.ready, scheduleClose],
    by simp [OnDemand.ready, scheduleClose], by simpa [OnDemand.ready, scheduleClose] using hd⟩

lemma Timed.readerAttached (h : o.Timed now) : o.readerAttached.Timed now := by
  unfold OnDemand.readerAttached
  split
  · next hp =>
    have hr := h.readyAt_eq_none (by simp [hp])
    exact ⟨by simp [hr], by simp, by simp [hr], by simp⟩
  · exact h

lemma Timed.readersGone (h : o.Timed now) (hd : now ≤ d) : (o.readersGone d).Timed now := by
  unfold OnDemand.readersGone
  split
  · next hp =>
    have hr := h.readyAt_eq_none (by simp [hp])
    exact ⟨by simp [scheduleClose, hr], by simp [scheduleClose], by simp [scheduleClose, hr],
      by simpa [scheduleClose] using hd⟩
  · exact h

/-- Time that does not pass by a deadline leaves the timers right. -/
lemma Timed.pass (h : o.Timed now) {time : Nat} (hle : ∀ d ∈ o.deadlines, time ≤ d) :
    o.Timed time :=
  ⟨h.readyAt_isSome, h.closeAt_isSome,
    fun d hd => hle d (by simp [deadlines, Option.mem_def.1 hd]),
    fun d hd => hle d (by simp [deadlines, Option.mem_def.1 hd])⟩

/-- While a timed activation starts, its one deadline is that by which it has to be ready. -/
lemma Timed.deadlines_of_starting (h : o.Timed now) (hp : o.phase = .starting) :
    ∃ d, o.readyAt = some d ∧ now ≤ d ∧ o.deadlines = [d] := by
  obtain ⟨d, hd⟩ := Option.isSome_iff_exists.1 (h.readyAt_isSome.2 hp)
  have hc := h.closeAt_eq_none (by simp [hp])
  exact ⟨d, hd, h.le_readyAt d hd, by simp [deadlines, hd, hc]⟩

@[simp]
lemma deadlines_idle : ({} : OnDemand).deadlines = [] := rfl

end OnDemand

namespace Path

/-! ## Passing of time -/

@[simp]
lemma now_runTo (p : Path) (time : Nat) : (p.runTo time).now = time :=
  p.launcher.now_advance time

section Standstill

variable (p : Path)

lemma now_becomeReady (s : Stream) : (p.becomeReady s).now = p.now := by
  rw [becomeReady_eq]
  exact Launcher.now_onReady ..

lemma now_becomeUnready : p.becomeUnready.now = p.now := by
  cases hs : p.stream with
  | none => rw [becomeUnready_of_none p hs]
  | some s =>
    rw [becomeUnready_eq p hs]
    exact now_launcherAfter ..

lemma now_stopLaunch (reason : String) : (p.stopLaunch reason).now = p.now := by
  rw [stopLaunch_eq]
  exact now_launcherAfter ..

lemma now_stopSource (reason : String) : (p.stopSource reason).now = p.now := by
  rw [stopSource_eq]
  rfl

lemma now_failHeld (e : PathError) : (p.failHeld e).now = p.now := by
  rw [failHeld_eq]
  rfl

lemma now_releaseHeld (hr : p.isReady = true) : p.releaseHeld.now = p.now := by
  obtain ⟨cs, answers, -, -, heq⟩ := p.releaseHeld_eq hr
  rw [heq]
  rfl

lemma now_shutdown : p.shutdown.now = p.now := by
  have hreleased : p.beginEnd.becomeUnready.releaseSource.now = p.now := by
    rw [releaseSource_eq]
    exact (now_becomeUnready _).trans (now_launcherAfter ..)
  rw [shutdown_eq]
  split
  · exact hreleased
  · exact (now_stopLaunch _ _).trans hreleased

lemma now_closeIfUnused : p.closeIfUnused.now = p.now := by
  unfold closeIfUnused
  split
  · exact p.now_shutdown
  · rfl

lemma now_awaken {q : Path} {query : String} (h : p.awaken? query = some q) : q.now = p.now := by
  obtain rfl | ⟨-, -, rfl⟩ | ⟨-, -, rfl⟩ := awaken?_cases h
  · rfl
  · rw [startSource_eq]
    rfl
  · rw [startLaunch_eq]
    exact Launcher.now_onDemand ..

lemma now_addPublisher {q : Path} {request : Nat} {client : Client} {d : MediaDescription}
    {rtp : Bool} {query : String} {expected : Option Conf}
    (h : p.addPublisher request client d rtp query expected = .ok q) : q.now = p.now := by
  have htaken : (p.takenOver client query).now = p.now := by
    unfold takenOver evictPublisher
    split
    · rfl
    · exact now_becomeUnready (p.emit _)
  rw [addPublisher_eq] at h
  split at h
  · cases h
  · rw [← Except.ok.inj h]
    refine (now_releaseHeld _ ?_).trans ?_
    · rw [notePublisherReady_eq, becomeReady_eq]
      rfl
    · rw [notePublisherReady_eq]
      exact (now_becomeReady _ _).trans htaken

lemma now_sourceReady (request : Nat) (d : MediaDescription) (rtp : Bool) :
    (p.sourceReady request d rtp).now = p.now := by
  unfold sourceReady
  split
  · exact p.now_becomeUnready
  · refine (now_releaseHeld _ ?_).trans ?_
    · rw [noteSourceReady_eq, becomeReady_eq]
      rfl
    · rw [noteSourceReady_eq]
      exact (now_becomeReady _ _).trans p.now_becomeUnready

/-- **Messages take no time.** -/
lemma now_receive (m : PathMessage) : (p.receive m).now = p.now := by
  unfold receive
  split
  · rfl
  · cases m with
    | describe request query =>
      refine (now_closeIfUnused _).trans ?_
      unfold describe
      split
      · rfl
      · split
        · rfl
        · split
          · next q hq => exact (p.now_awaken hq : q.now = p.now)
          · split <;> rfl
    | addPublisher request client d rtp query expected =>
      dsimp only
      split
      · next q hq => exact p.now_addPublisher hq
      · exact now_closeIfUnused _
    | removePublisher client =>
      refine (now_closeIfUnused _).trans ?_
      unfold removePublisher
      split
      · exact p.now_becomeUnready
      · rfl
    | addReader request client query =>
      refine (now_closeIfUnused _).trans ?_
      unfold addReader
      split
      · next hr =>
        obtain ⟨cs, a, -, heq⟩ := p.attach_eq hr request client
        rw [heq]
        rfl
      · split
        · next q hq => exact (p.now_awaken hq : q.now = p.now)
        · rfl
    | removeReader client =>
      dsimp only
      rw [removeReader_eq]
      rfl
    | sourceReady request d rtp => exact p.now_sourceReady request d rtp
    | sourceNotReady =>
      refine (now_closeIfUnused _).trans ?_
      unfold sourceNotReady
      dsimp only
      split
      · exact (now_stopSource _ _).trans p.now_becomeUnready
      · exact p.now_becomeUnready
    | abandon request => rfl

/-- Timers that go off take no time. -/
lemma now_expire : p.expire.now = p.now := by
  unfold expire
  split
  · exact (now_closeIfUnused _).trans ((now_stopSource _ _).trans (now_failHeld _ _))
  · split
    · exact (now_closeIfUnused _).trans ((now_stopSource _ _).trans p.now_becomeUnready)
    · split
      · exact (now_closeIfUnused _).trans ((now_stopLaunch _ _).trans (now_failHeld _ _))
      · split
        · exact now_stopLaunch _ _
        · rfl

/-- After time has passed it is as late as it should be. -/
lemma now_advance (time : Nat) : (p.advance time).now = time := now_runTo ..

end Standstill

/-- A deadline of a path is one of its two activations. -/
lemma mem_deadlines_of_deadline? {p : Path} {d : Nat} (h : d ∈ p.deadline?) :
    p.ended = false ∧ d ∈ p.sourceDemand.deadlines ++ p.launchDemand.deadlines := by
  unfold deadline? at h
  split at h
  · cases h
  · next he => exact ⟨by simpa using he, List.min?_mem h⟩

/-- What does not lie after the next deadline does not lie after any deadline. -/
lemma le_of_le_deadline? {p : Path} (he : p.ended = false) {time : Nat}
    (h : ∀ d ∈ p.deadline?, time ≤ d) {d : Nat}
    (hd : d ∈ p.sourceDemand.deadlines ++ p.launchDemand.deadlines) : time ≤ d := by
  obtain ⟨m, hm⟩ : ∃ m, (p.sourceDemand.deadlines ++ p.launchDemand.deadlines).min? = some m := by
    cases hmin : (p.sourceDemand.deadlines ++ p.launchDemand.deadlines).min? with
    | none => simp [List.min?_eq_none_iff.1 hmin] at hd
    | some m => exact ⟨m, rfl⟩
  have hdead : p.deadline? = some m := by simp [deadline?, he, hm]
  exact Nat.le_trans (h m hdead) ((List.min?_eq_some_iff.1 hm).2 d hd)

/-- When all requests are held until one deadline, passing on to it lets one timer go off, and
nothing else is due then. -/
lemma advance_of_deadline {p : Path} {d time : Nat} (hd : p.deadline? = some d) (hle : d ≤ time)
    (hrest : (p.runTo d).expire.deadline? = none) :
    p.advance time = (p.runTo d).expire.runTo time := by
  have h₁ : p.passDeadline time = (p.runTo d).expire := by simp [passDeadline, hd, hle]
  have h₂ : (p.runTo d).expire.passDeadline time = (p.runTo d).expire := by
    simp [passDeadline, hrest]
  rw [advance, h₁, h₂]

/-! ## Answers at a deadline -/

/-- The answers when what was started is not ready in time. -/
def timeouts (p : Path) : List PathEvent :=
  answerEvents (p.waiting.map fun n => (n, .refused (.sourceTimedOut p.name)))

/-- **Settled by a time**: when time passes up to it or further, nothing is held any more, and
everybody who was waiting has been told that the time was too short. -/
def SettledBy (p : Path) (d : Nat) : Prop :=
  ∀ time, d ≤ time → (p.advance time).holdsRequests = false ∧
    ∃ es, (p.advance time).log = p.log ++ p.timeouts ++ es

/-- The end of an unused path keeps what has been answered, and nothing is held afterwards if
nothing was held before. -/
lemma closeIfUnused_keeps (p : Path) (h : p.holdsRequests = false) :
    p.closeIfUnused.holdsRequests = false ∧ ∃ es, p.closeIfUnused.log = p.log ++ es := by
  unfold closeIfUnused
  split
  · obtain ⟨es, hes⟩ := p.log_shutdown
    exact ⟨p.isOver_shutdown.held, es, hes.symm⟩
  · exact ⟨h, [], by simp⟩

/-- An unused path that has no deadline has none after its end either. -/
lemma deadline?_closeIfUnused {p : Path} (h : p.deadline? = none) :
    p.closeIfUnused.deadline? = none := by
  unfold closeIfUnused
  split
  · simp [deadline?, p.isOver_shutdown.ended]
  · exact h

/-- A path whose timer goes off and leaves nothing held, with all answers given, is settled then. -/
lemma settledBy_of_expire {p q : Path} {d : Nat} (hd : p.deadline? = some d)
    (hq : (p.runTo d).expire = q.closeIfUnused) (hrest : q.deadline? = none)
    (hheld : q.holdsRequests = false) (hlog : ∃ es, q.log = p.log ++ p.timeouts ++ es) :
    p.SettledBy d := by
  intro time hle
  obtain ⟨hkeep, es, hes⟩ := q.closeIfUnused_keeps hheld
  obtain ⟨fs, hfs⟩ := hlog
  rw [advance_of_deadline hd hle (by rw [hq]; exact deadline?_closeIfUnused hrest), hq]
  refine ⟨hkeep, fs ++ es, ?_⟩
  change q.closeIfUnused.log = _
  rw [hes, hfs, List.append_assoc]

/-- **A source that starts** settles at its deadline whatever is held for it. -/
lemma settledBy_source {p : Path} {d : Nat} (he : p.ended = false)
    (hs : p.sourceDemand.deadlines = [d]) (hr : p.sourceDemand.readyAt = some d)
    (hl : p.launchDemand = {}) : p.SettledBy d := by
  have hd : p.deadline? = some d := by simp [deadline?, he, hs, hl]
  have hdue : (p.runTo d).isDue (p.runTo d).sourceDemand.readyAt = true := by
    change (p.runTo d).isDue p.sourceDemand.readyAt = true
    simp [isDue, hr]
  have hq : (p.runTo d).expire =
      (((p.runTo d).failHeld (.sourceTimedOut p.name)).stopSource "timed out").closeIfUnused := by
    unfold expire
    rw [if_pos hdue]
    rfl
  refine settledBy_of_expire hd hq ?_ ?_ ?_
  · simp [deadline?, failHeld_eq, stopSource_eq, runTo, hl]
  · simp [holdsRequests, failHeld_eq, stopSource_eq]
  · rw [stopSource_eq, failHeld_eq]
    exact ⟨_, List.append_assoc ..⟩

/-- **A launch that starts** settles at its deadline whatever is held for it. -/
lemma settledBy_launch {p : Path} {d : Nat} (he : p.ended = false)
    (hl : p.launchDemand.deadlines = [d]) (hr : p.launchDemand.readyAt = some d)
    (hs : p.sourceDemand = {}) : p.SettledBy d := by
  have hd : p.deadline? = some d := by simp [deadline?, he, hl, hs]
  have hdue : (p.runTo d).isDue (p.runTo d).launchDemand.readyAt = true := by
    change (p.runTo d).isDue p.launchDemand.readyAt = true
    simp [isDue, hr]
  have hidle : (p.runTo d).sourceDemand = {} := hs
  have hq : (p.runTo d).expire =
      (((p.runTo d).failHeld (.sourceTimedOut p.name)).stopLaunch "timed out").closeIfUnused := by
    unfold expire
    rw [hidle, if_pos hdue]
    rfl
  refine settledBy_of_expire hd hq ?_ ?_ ?_
  · simp [deadline?, failHeld_eq, stopLaunch_eq, runTo, hs]
  · simp [holdsRequests, failHeld_eq, stopLaunch_eq]
  · rw [stopLaunch_eq, failHeld_eq]
    exact ⟨_, rfl⟩

/-! ## Answers along runs -/

/-- **Answers**: a request was answered between two states. -/
def HasAnswered (p q : Path) (request : Nat) : Prop :=
  ∃ es a, q.log = p.log ++ es ∧ .answered request a ∈ es

/-- What was answered stays answered. -/
lemma HasAnswered.mono {p q r : Path} {n : Nat} (h : p.HasAnswered q n) (hlog : q.log <+: r.log) :
    p.HasAnswered r n := by
  obtain ⟨es, a, hes, hmem⟩ := h
  obtain ⟨fs, hfs⟩ := hlog
  exact ⟨es ++ fs, a, by rw [← hfs, hes, List.append_assoc], List.mem_append_left _ hmem⟩

/-- What is answered later is answered. -/
lemma HasAnswered.of_later {p q r : Path} {n : Nat} (hlog : p.log <+: q.log)
    (h : q.HasAnswered r n) : p.HasAnswered r n := by
  obtain ⟨es, hes⟩ := hlog
  obtain ⟨fs, a, hfs, hmem⟩ := h
  exact ⟨es ++ fs, a, by rw [hfs, ← hes, List.append_assoc], List.mem_append_right _ hmem⟩

/-- Whoever is among those whose answers are written down is answered. -/
lemma hasAnswered_of_answerEvents {p q : Path} (pre : List PathEvent)
    (answers : List (Nat × Answer)) (hlog : p.log ++ pre ++ answerEvents answers <+: q.log)
    {n : Nat} (hn : n ∈ answers.map Prod.fst) : p.HasAnswered q n := by
  obtain ⟨fs, hfs⟩ := hlog
  obtain ⟨⟨m, a⟩, hx, rfl⟩ := List.mem_map.1 hn
  refine ⟨pre ++ (answerEvents answers ++ fs), a, by simp [← hfs], ?_⟩
  exact List.mem_append_right _ (List.mem_append_left _ (List.mem_map.2 ⟨_, hx, rfl⟩))

/-- **Failure** answers everybody who waits. -/
lemma hasAnswered_failHeld (p : Path) (e : PathError) {n : Nat} (hn : n ∈ p.waiting) :
    p.HasAnswered (p.failHeld e) n := by
  refine hasAnswered_of_answerEvents [] (p.waiting.map fun n => (n, .refused e)) ?_
    (by simpa using hn)
  simp [failHeld_eq]

/-- **Release** answers everybody who waits. -/
lemma hasAnswered_releaseHeld {p : Path} (hr : p.isReady = true) {n : Nat} (hn : n ∈ p.waiting) :
    p.HasAnswered p.releaseHeld n := by
  obtain ⟨cs, answers, hreq, -, heq⟩ := p.releaseHeld_eq hr
  refine hasAnswered_of_answerEvents [] answers ?_ (hreq ▸ hn)
  simp [heq]

/-- Whoever waits is answered by a release that comes after other events. -/
lemma hasAnswered_released {p q : Path} (hgrows : p.log <+: q.log) (hr : q.isReady = true)
    (hwait : q.waiting = p.waiting) (e : PathEvent) {n : Nat} (hn : n ∈ p.waiting) :
    p.HasAnswered (q.releaseHeld.emit e) n := by
  have hreleased : p.HasAnswered q.releaseHeld n :=
    (hasAnswered_releaseHeld hr (hwait ▸ hn)).of_later hgrows
  exact hreleased.mono (List.prefix_append ..)

/-- **The end** answers everybody who waits. -/
lemma hasAnswered_shutdown (p : Path) {n : Nat} (hn : n ∈ p.waiting) :
    p.HasAnswered p.shutdown n := by
  have hbegin : p.HasAnswered p.beginEnd n := by
    refine hasAnswered_of_answerEvents (p.noticed .closed ++ [.uninit])
      (p.waiting.map fun n => (n, .refused .terminated)) ?_ (by simpa using hn)
    simp [beginEnd]
  have hrest : p.HasAnswered p.beginEnd.becomeUnready.releaseSource n := by
    refine (hbegin.mono (proceeds_becomeUnready _).grows).mono ?_
    rw [releaseSource_eq]
    exact List.prefix_append ..
  rw [shutdown_eq]
  split
  · exact hrest
  · exact hrest.mono (proceeds_stopLaunch _ _).grows

/-- **A publisher** is answered at once. -/
lemma hasAnswered_addPublisher {p : Path} (he : p.ended = false) (request : Nat)
    (client : Client) (d : MediaDescription) (rtp : Bool) (query : String)
    (expected : Option Conf) :
    p.HasAnswered (p.receive (.addPublisher request client d rtp query expected)) request := by
  have hanswer (q : Path) (a : Answer) : q.HasAnswered (q.answer request a) request :=
    ⟨[.answered request a], a, rfl, List.mem_cons_self⟩
  simp only [receive, he, Bool.false_eq_true, ↓reduceIte, addPublisher_eq]
  split
  · next q hq =>
    split at hq
    · cases hq
    · rw [← Except.ok.inj hq]
      exact (hanswer _ _).of_later (p.proceeds_takenOver client query _).grows
  · exact (hanswer p _).mono (continues_closeIfUnused _).grows

/-- **Serving**: a step answers whoever waits and does not give up, or keeps them waiting until the
same deadline. -/
def Serves (deadline : Path → Option Nat) (p : Path) (s : PathStep) (q : Path) : Prop :=
  ∀ n ∈ p.waiting, s ≠ .message (.abandon n) → (deadline p).isSome = true →
    n ∈ q.waiting ∧ deadline q = deadline p ∨ p.HasAnswered q n

/-- **Answered by a time**: in every possible run without an exception, everybody who waits and does
not give up has been answered when this time is over. -/
def AnsweredBy (Breaks : Path → PathStep → Prop) (p : Path) (d : Nat) : Prop :=
  ∀ ss, p.PermitsAll ss → (∀ m ∈ p.moves ss, ¬ Breaks m.1 m.2) →
    ∀ n ∈ p.waiting, .message (.abandon n) ∉ ss → d < (p.run ss).now → p.HasAnswered (p.run ss) n

/-- **Waiting is bounded** if a step, unless it is an exception, either answers whoever waits or
keeps them waiting until the same deadline, and if no deadline passes.

**Proof sketch.** Induction on the run: a step that answers is enough since nothing is taken back,
and after any other step the rest of the run is a shorter one. At the end nobody can still be
waiting, because the deadline has passed. -/
theorem answeredBy_of_step {I : Path → Prop} {Breaks : Path → PathStep → Prop}
    (deadline : Path → Option Nat) (keeps : ∀ p s, I p → p.Permits s → I (p.step s))
    (serves : ∀ p s, I p → p.Permits s → ¬ Breaks p s → Serves deadline p s (p.step s))
    (timely : ∀ p, I p → ∀ d ∈ deadline p, p.now ≤ d)
    {p : Path} (hI : I p) {d : Nat} (hd : deadline p = some d) : p.AnsweredBy Breaks d := by
  intro ss
  induction ss generalizing p with
  | nil =>
    intro _ _ n _ _ hlate
    exact absurd (timely p hI d hd) (Nat.not_le.2 hlate)
  | cons s rest ih =>
    intro hs hmoves n hn hgone hlate
    have hfirst := hmoves (p, s) List.mem_cons_self
    have hrest : ∀ m ∈ (p.step s).moves rest, ¬ Breaks m.1 m.2 :=
      fun m hm => hmoves m (List.mem_cons_of_mem _ hm)
    have hne : s ≠ .message (.abandon n) := fun h => hgone (h ▸ List.mem_cons_self)
    rcases serves p s hI hs.1 hfirst n hn hne (by simp [hd]) with ⟨hwaits, hsame⟩ | hanswered
    · have hlater := ih (keeps p s hI hs.1) (hsame.trans hd) hs.2 hrest n hwaits
        (fun h => hgone (List.mem_cons_of_mem _ h)) hlate
      exact hlater.of_later (p.log_step s)
    · exact hanswered.mono ((p.step s).log_run rest)

end Path

end LivePaths
