import LivePaths.Proofs.Path.Order

set_option relaxedAutoImplicit false
set_option autoImplicit false

/-!
# The ledger of a path

A path answers a request or holds it, and holds it until it answers or the client gives up. What it
has answered or holds hence is what it was asked but for what was given up, each as often as it was
asked.

## Main definitions

* `Path.answered`, `Path.accounts` — what a path has answered, and what it holds besides.
* `Path.Conserves` — nothing is lost and nothing is answered twice from one state to another.
* `Path.Clears` — the steps that end all waiting.

## Main results

* `Path.conserves_step`, `Path.conserves_advance` — every step and the passing of time conserve.
* `Path.Reached.hasStaticSource_of_created` — only a path that runs its source itself creates one.
* `Path.Reached.cleared` — becoming ready, coming to a deadline and ending leave nothing held.
-/

namespace LivePaths

/-! ## Events and messages -/

/-- The request that an event answers. -/
def PathEvent.request? (e : PathEvent) : Option Nat := e.answer?.map Prod.fst

/-- **Quiet events** neither answer a request nor create a source. -/
def PathEvent.isQuiet : PathEvent → Bool
  | .answered .. | .sourceCreated .. => false
  | _ => true

/-- The requests that come with a message. -/
def PathMessage.requests : PathMessage → List Nat
  | .describe n _ | .addPublisher n .. | .addReader n .. | .sourceReady n .. => [n]
  | .removePublisher _ | .removeReader _ | .sourceNotReady | .abandon _ => []

/-- The requests that come with a step. -/
def PathStep.requests : PathStep → List Nat
  | .message m => m.requests
  | .reload _ | .pass _ | .expire | .destroy => []

/-- Quiet events answer nothing. -/
lemma filterMap_request?_of_quiet {es : List PathEvent} (h : ∀ e ∈ es, e.isQuiet = true) :
    es.filterMap PathEvent.request? = [] := by
  refine List.filterMap_eq_nil_iff.2 fun e he => ?_
  have := h e he
  cases e <;> simp_all [PathEvent.isQuiet, PathEvent.request?, PathEvent.answer?]

/-- Quiet events create no source. -/
lemma isSourceCreation_of_quiet {e : PathEvent} (h : e.isQuiet = true) :
    e.isSourceCreation = false := by
  cases e <;> simp_all [PathEvent.isQuiet, PathEvent.isSourceCreation]

namespace Path

/-- Answers answer the requests that they are for. -/
lemma filterMap_request?_answerEvents (answers : List (Nat × Answer)) :
    (answerEvents answers).filterMap PathEvent.request? = answers.map Prod.fst := by
  simp [answerEvents, List.filterMap_map, Function.comp_def, PathEvent.request?,
    PathEvent.answer?]

/-! ## Accounts -/

/-- **The answered requests**, in the order of the answers. -/
def answered (p : Path) : List Nat := p.log.filterMap PathEvent.request?

/-- **The accounts** of a path: what it has answered and what it holds. -/
def accounts (p : Path) : List Nat := p.answered ++ p.waiting

/-- The requests of all entries that are held, also of those whose clients have given up. -/
def held (p : Path) : List Nat := p.heldDescribes.map (·.request) ++ p.heldReaders.map (·.request)

/-- **The traces** that requests have left on a path: answers and entries. -/
def traces (p : Path) : List Nat := p.answered ++ p.held

/-- Whoever waits has an entry. -/
lemma waiting_sublist_held (p : Path) : p.waiting.Sublist p.held :=
  (List.filter_sublist.map _).append (List.filter_sublist.map _)

/-- What the clients give up who send a message. -/
def dropped (p : Path) : PathMessage → List Nat
  | .abandon n => p.waiting.filter (· = n)
  | _ => []

/-- **Conservation**: the history has grown, but no source was created; each request occurs in the
accounts as often as before, but for those that were asked or given up in between; and it has left
no trace more than that it was asked. -/
structure Conserves (asked dropped : List Nat) (p q : Path) : Prop where
  log : ∃ es, q.log = p.log ++ es ∧ ∀ e ∈ es, e.isSourceCreation = false
  balance : ∀ n, q.accounts.count n + dropped.count n = p.accounts.count n + asked.count n
  traced : ∀ n, q.traces.count n ≤ p.traces.count n + asked.count n

namespace Conserves

variable {asked asked' dropped dropped' : List Nat} {p q r : Path}

lemma refl (p : Path) : Conserves [] [] p p := ⟨⟨[], by simp⟩, fun _ => rfl, fun _ => by simp⟩

lemma trans (h : Conserves asked dropped p q) (h' : Conserves asked' dropped' q r) :
    Conserves (asked ++ asked') (dropped ++ dropped') p r := by
  obtain ⟨⟨es, hes, hnone⟩, hb, ht⟩ := h
  obtain ⟨⟨fs, hfs, hnone'⟩, hb', ht'⟩ := h'
  refine ⟨⟨es ++ fs, by rw [hfs, hes, List.append_assoc],
    List.forall_mem_append.2 ⟨hnone, hnone'⟩⟩, fun n => ?_, fun n => ?_⟩
  · have := hb n
    have := hb' n
    simp only [List.count_append]
    omega
  · have := ht n
    have := ht' n
    simp only [List.count_append]
    omega

/-- Nothing is asked or given up in a second part. -/
lemma silently (h : Conserves asked dropped p q) (h' : Conserves [] [] q r) :
    Conserves asked dropped p r := by
  simpa using h.trans h'

/-- Quiet events change no account as long as what is held stays. -/
lemma quietly {es : List PathEvent} (hlog : q.log = p.log ++ es)
    (hquiet : ∀ e ∈ es, e.isQuiet = true) (hd : q.heldDescribes = p.heldDescribes)
    (hr : q.heldReaders = p.heldReaders) : Conserves [] [] p q := by
  have hanswered : q.answered = p.answered := by
    simp [answered, hlog, filterMap_request?_of_quiet hquiet]
  have hwaiting : q.waiting = p.waiting := by simp [waiting, hd, hr]
  have hheld : q.held = p.held := by simp [held, hd, hr]
  refine ⟨⟨es, hlog, fun e he => isSourceCreation_of_quiet (hquiet e he)⟩, fun n => ?_, fun n => ?_⟩
  · simp [accounts, hanswered, hwaiting]
  · simp [traces, hanswered, hheld]

/-- **The end of waiting**: all who wait are answered, and nothing is held any more. -/
lemma of_answers {es : List PathEvent} {answers : List (Nat × Answer)}
    (hlog : q.log = p.log ++ es ++ answerEvents answers) (hquiet : ∀ e ∈ es, e.isQuiet = true)
    (hall : answers.map Prod.fst = p.waiting) (hd : q.heldDescribes = [])
    (hr : q.heldReaders = []) : Conserves [] [] p q := by
  have hanswered : q.answered = p.answered ++ p.waiting := by
    simp [answered, hlog, filterMap_request?_of_quiet hquiet, filterMap_request?_answerEvents, hall]
  have hwaiting : q.waiting = [] := by simp [waiting, hd, hr]
  have hheld : q.held = [] := by simp [held, hd, hr]
  refine ⟨⟨es ++ answerEvents answers, by rw [hlog, List.append_assoc], ?_⟩,
    fun n => ?_, fun n => ?_⟩
  · refine List.forall_mem_append.2 ⟨fun e he => isSourceCreation_of_quiet (hquiet e he),
      fun e he => ?_⟩
    obtain ⟨x, -, rfl⟩ := List.mem_map.1 he
    rfl
  · simp [accounts, hanswered, hwaiting]
  · have := p.waiting_sublist_held.count_le n
    simp only [traces, hanswered, hheld, List.count_append, List.count_nil]
    omega

/-- No source is created. -/
lemma hasCreatedSource_eq (h : Conserves asked dropped p q) :
    q.hasCreatedSource = p.hasCreatedSource := by
  obtain ⟨es, hes, hnone⟩ := h.log
  have hany : es.any (·.isSourceCreation) = false := by simpa using hnone
  simp [hasCreatedSource, hes, hany]

end Conserves

/-! ## The operations -/

section Operations

variable (p : Path)

/-- Writing down a quiet event. -/
lemma conserves_emit {e : PathEvent} (he : e.isQuiet = true) : Conserves [] [] p (p.emit e) :=
  .quietly rfl (by simpa using he) rfl rfl

/-- **An answer** settles a request that was asked. -/
lemma conserves_answer (n : Nat) (a : Answer) : Conserves [n] [] p (p.answer n a) := by
  have hanswered : (p.answer n a).answered = p.answered ++ [n] := by
    simp [answered, answer, emit, PathEvent.request?, PathEvent.answer?]
  have hwaiting : (p.answer n a).waiting = p.waiting := rfl
  have hheld : (p.answer n a).held = p.held := rfl
  refine ⟨⟨[.answered n a], rfl, by simp [PathEvent.isSourceCreation]⟩, fun m => ?_, fun m => ?_⟩
  · simp only [accounts, hanswered, hwaiting, List.count_append, List.count_nil]
    omega
  · simp only [traces, hanswered, hheld, List.count_append]
    omega

/-- What conserves and then answers a request has been asked it. -/
lemma Conserves.answer {p q : Path} (h : Conserves [] [] p q) (n : Nat) (a : Answer) :
    Conserves [n] [] p (q.answer n a) :=
  h.trans (q.conserves_answer n a)

/-- **Holding** a request for the description. -/
lemma conserves_holdDescribe (n : Nat) :
    Conserves [n] [] p { p with heldDescribes := p.heldDescribes ++ [{ request := n }] } := by
  refine ⟨⟨[], by simp⟩, fun m => ?_, fun m => ?_⟩
  · simp only [accounts, answered, waiting, List.filter_append, List.map_append, List.count_append,
      List.count_nil]
    simp
    omega
  · simp only [traces, answered, held, List.map_append, List.count_append]
    simp
    omega

/-- **Holding** a reader. -/
lemma conserves_holdReader (n : Nat) (client : Client) :
    Conserves [n] [] p
      { p with heldReaders := p.heldReaders ++ [{ request := n, client }] } := by
  refine ⟨⟨[], by simp⟩, fun m => ?_, fun m => ?_⟩
  · simp only [accounts, answered, waiting, List.filter_append, List.map_append, List.count_append,
      List.count_nil]
    simp
    omega
  · simp only [traces, answered, held, List.map_append, List.count_append]
    simp
    omega

/-- **Giving up** takes a request out of the accounts, and nothing else. -/
lemma waiting_abandon (n : Nat) : (p.abandon n).waiting = p.waiting.filter (· ≠ n) := by
  have hd (hs : List HeldDescribe) :
      ((hs.map fun h => if h.request = n then { h with abandoned := true } else h).filter
        fun h => !h.abandoned).map (·.request) =
        ((hs.filter fun h => !h.abandoned).map (·.request)).filter (· ≠ n) := by
    induction hs with
    | nil => rfl
    | cons h rest ih => grind
  have hr (hs : List HeldReader) :
      ((hs.map fun h => if h.request = n then { h with abandoned := true } else h).filter
        fun h => !h.abandoned).map (·.request) =
        ((hs.filter fun h => !h.abandoned).map (·.request)).filter (· ≠ n) := by
    induction hs with
    | nil => rfl
    | cons h rest ih => grind
  simp only [waiting, abandon, hd, hr, List.filter_append]

lemma conserves_abandon (n : Nat) :
    Conserves [] (p.waiting.filter (· = n)) p (p.abandon n) := by
  have hanswered : (p.abandon n).answered = p.answered := rfl
  have hheld : (p.abandon n).held = p.held := by
    simp only [held, abandon, List.map_map]
    congr 2
    · funext h
      dsimp only [Function.comp_apply]
      split <;> rfl
    · funext h
      dsimp only [Function.comp_apply]
      split <;> rfl
  refine ⟨⟨[], by simp [abandon], by simp⟩, fun m => ?_,
    fun m => by simp [traces, hanswered, hheld]⟩
  have hsplit : (p.waiting.filter (· ≠ n)).count m + (p.waiting.filter (· = n)).count m =
      p.waiting.count m := by
    by_cases hm : m = n
    · have hnone : (p.waiting.filter (· ≠ n)).count m = 0 := List.count_eq_zero.2 (by simp [hm])
      rw [hnone, List.count_filter (by simpa using hm), Nat.zero_add]
    · have hnone : (p.waiting.filter (· = n)).count m = 0 := List.count_eq_zero.2 (by simp [hm])
      rw [hnone, List.count_filter (by simpa using hm), Nat.add_zero]
  simp only [accounts, hanswered, waiting_abandon, List.count_append, List.count_nil]
  omega

/-! ### What runs on demand -/

lemma conserves_startSource (query : String) : Conserves [] [] p (p.startSource query) := by
  rw [startSource_eq]
  exact .quietly (List.append_assoc ..)
    (List.forall_mem_append.2 ⟨p.forall_sourceCall rfl, by simp [PathEvent.isQuiet]⟩) rfl rfl

lemma conserves_stopSource (reason : String) : Conserves [] [] p (p.stopSource reason) := by
  rw [stopSource_eq]
  exact .quietly (List.append_assoc ..)
    (List.forall_mem_append.2 ⟨p.forall_sourceCall rfl, by simp [PathEvent.isQuiet]⟩) rfl rfl

lemma conserves_startLaunch (query : String) : Conserves [] [] p (p.startLaunch query) :=
  .quietly (rfl : (p.startLaunch query).log = p.log ++ [.demand query])
    (by simp [PathEvent.isQuiet]) rfl rfl

lemma conserves_stopLaunch (reason : String) : Conserves [] [] p (p.stopLaunch reason) := by
  rw [stopLaunch_eq]
  exact .quietly rfl (by simp [PathEvent.isQuiet]) rfl rfl

lemma conserves_awaken {query : String} {q : Path} (h : p.awaken? query = some q) :
    Conserves [] [] p q := by
  obtain rfl | ⟨-, -, rfl⟩ | ⟨-, -, rfl⟩ := awaken?_cases h
  · exact .refl _
  · exact p.conserves_startSource query
  · exact p.conserves_startLaunch query

/-! ### Readiness -/

lemma conserves_becomeReady (s : Stream) : Conserves [] [] p (p.becomeReady s) := by
  have hlog := p.log_becomeReady s
  rw [becomeReady_eq] at hlog ⊢
  exact .quietly hlog
    (p.forall_readyEvents (P := (·.isQuiet = true)) (fun _ => rfl) rfl rfl s) rfl rfl

lemma conserves_becomeUnready : Conserves [] [] p p.becomeUnready := by
  cases hs : p.stream with
  | none =>
    rw [becomeUnready_of_none p hs]
    exact .refl p
  | some s =>
    have hlog := p.log_becomeUnready hs
    rw [becomeUnready_eq p hs] at hlog ⊢
    exact .quietly hlog (p.forall_unreadyEvents rfl (fun _ => rfl) rfl fun _ => rfl) rfl rfl

lemma conserves_noteSourceReady : Conserves [] [] p p.noteSourceReady := by
  rw [noteSourceReady_eq]
  exact .quietly (List.append_nil _).symm (by simp) rfl rfl

lemma conserves_notePublisherReady : Conserves [] [] p p.notePublisherReady := by
  rw [notePublisherReady_eq]
  exact .quietly (List.append_nil _).symm (by simp) rfl rfl

/-- **Failure** answers all who wait. -/
lemma conserves_failHeld (e : PathError) : Conserves [] [] p (p.failHeld e) := by
  rw [failHeld_eq]
  exact .of_answers (by rw [List.append_nil]) (by simp) (by simp [Function.comp_def])
    rfl rfl

/-- **Release** answers all who wait. -/
lemma conserves_releaseHeld : Conserves [] [] p p.releaseHeld := by
  by_cases hr : p.isReady = true
  · obtain ⟨cs, answers, hall, -, heq⟩ := p.releaseHeld_eq hr
    rw [heq]
    exact .of_answers (by rw [List.append_nil]) (by simp) hall rfl rfl
  · simpa [releaseHeld, hr] using Conserves.refl p

lemma conserves_attach (n : Nat) (client : Client) :
    Conserves [n] [] p (p.attach n client) := by
  by_cases hr : p.isReady = true
  · obtain ⟨cs, a, -, heq⟩ := p.attach_eq hr n client
    rw [heq]
    have htaken : Conserves [] [] p (p.takeIn cs) :=
      .quietly (List.append_nil _).symm (by simp) rfl rfl
    exact htaken.answer n a
  · have heq : p.attach n client = p.answer n (.refused (.noStreamAvailable p.name)) := by
      simp [attach, hr]
    rw [heq]
    exact p.conserves_answer n _

/-! ### The end -/

/-- **The end** answers all who wait. -/
lemma conserves_shutdown : Conserves [] [] p p.shutdown := by
  have hbegin : Conserves [] [] p p.beginEnd := by
    have hlog : p.beginEnd.log = p.log ++ (p.noticed .closed ++ [.uninit]) ++
        answerEvents (p.waiting.map fun n => (n, .refused .terminated)) := by
      simp [beginEnd]
    refine .of_answers hlog ?_ (by simp [Function.comp_def]) rfl rfl
    exact List.forall_mem_append.2 ⟨p.forall_noticed rfl, by simp [PathEvent.isQuiet]⟩
  have hreleased : Conserves [] [] p p.beginEnd.becomeUnready.releaseSource := by
    refine (hbegin.silently (conserves_becomeUnready _)).silently ?_
    rw [releaseSource_eq]
    exact .quietly rfl (forall_sourceRelease _ (fun _ => rfl) fun _ => rfl) rfl rfl
  rw [shutdown_eq]
  split
  · exact hreleased
  · exact hreleased.trans (conserves_stopLaunch _ _)

lemma conserves_destroy : Conserves [] [] p p.destroy := by
  unfold destroy
  split
  · exact .refl p
  · have hended : Conserves [] [] p { p with ended := true } :=
      .quietly (List.append_nil _).symm (by simp) rfl rfl
    exact hended.trans (conserves_shutdown _)

lemma conserves_closeIfUnused : Conserves [] [] p p.closeIfUnused := by
  unfold closeIfUnused
  split
  · exact p.conserves_shutdown
  · exact .refl p

/-! ### Messages -/

lemma conserves_describe (n : Nat) (query : String) :
    Conserves [n] [] p (p.describe n query) := by
  unfold describe
  split
  · exact p.conserves_answer n _
  · split
    · exact p.conserves_answer n _
    · split
      · next q hq => exact (p.conserves_awaken hq).trans (q.conserves_holdDescribe n)
      · split <;> exact p.conserves_answer n _

lemma conserves_addReader (n : Nat) (client : Client) (query : String) :
    Conserves [n] [] p (p.addReader n client query) := by
  unfold addReader
  split
  · exact p.conserves_attach n client
  · split
    · next q hq => exact (p.conserves_awaken hq).trans (q.conserves_holdReader n client)
    · exact p.conserves_answer n _

lemma conserves_addPublisher {n : Nat} {client : Client} {d : MediaDescription} {rtp : Bool}
    {query : String} {expected : Option Conf} {q : Path}
    (h : p.addPublisher n client d rtp query expected = .ok q) : Conserves [n] [] p q := by
  have htaken : Conserves [] [] p (p.takenOver client query) := by
    unfold takenOver evictPublisher
    split
    · exact .quietly (List.append_nil _).symm (by simp) rfl rfl
    · next present _ =>
      refine (p.conserves_emit (e := .publisherClosed present) rfl).trans ?_
      exact (conserves_becomeUnready _).trans (.quietly (List.append_nil _).symm (by simp) rfl rfl)
  rw [addPublisher_eq] at h
  split at h
  · cases h
  · rw [← Except.ok.inj h]
    refine Conserves.answer ?_ n _
    refine .silently ?_ (conserves_releaseHeld _)
    exact (htaken.silently (conserves_becomeReady _ _)).silently (conserves_notePublisherReady _)

lemma conserves_sourceReady (n : Nat) (d : MediaDescription) (rtp : Bool) :
    Conserves [n] [] p (p.sourceReady n d rtp) := by
  unfold sourceReady
  split
  · exact p.conserves_becomeUnready.answer n _
  · refine Conserves.answer ?_ n _
    refine .silently ?_ (conserves_releaseHeld _)
    exact (p.conserves_becomeUnready.silently (conserves_becomeReady _ _)).silently
      (conserves_noteSourceReady _)

lemma conserves_sourceNotReady : Conserves [] [] p p.sourceNotReady := by
  unfold sourceNotReady
  dsimp only
  split
  · exact p.conserves_becomeUnready.trans (conserves_stopSource _ _)
  · exact p.conserves_becomeUnready

/-- **A message** to a live path is answered or held, or gives something up. -/
theorem conserves_receive (he : p.ended = false) (m : PathMessage) :
    Conserves m.requests (p.dropped m) p (p.receive m) := by
  unfold receive
  rw [if_neg (by simp [he])]
  cases m with
  | describe n query => exact (p.conserves_describe n query).silently (conserves_closeIfUnused _)
  | addPublisher n client d rtp query expected =>
    dsimp only
    split
    · next q hq => exact p.conserves_addPublisher hq
    · exact (p.conserves_answer n _).silently (conserves_closeIfUnused _)
  | removePublisher client =>
    refine .silently ?_ (conserves_closeIfUnused _)
    unfold removePublisher
    split
    · exact p.conserves_becomeUnready.trans (.quietly (List.append_nil _).symm (by simp) rfl rfl)
    · exact .refl p
  | addReader n client query =>
    exact (p.conserves_addReader n client query).silently (conserves_closeIfUnused _)
  | removeReader client =>
    dsimp only
    rw [removeReader_eq]
    exact .quietly (List.append_nil _).symm (by simp) rfl rfl
  | sourceReady n d rtp => exact p.conserves_sourceReady n d rtp
  | sourceNotReady => exact p.conserves_sourceNotReady.silently (conserves_closeIfUnused _)
  | abandon n => exact p.conserves_abandon n

/-! ### Time -/

lemma conserves_runTo (time : Nat) : Conserves [] [] p (p.runTo time) :=
  .quietly (List.append_nil _).symm (by simp) rfl rfl

lemma conserves_expire : Conserves [] [] p p.expire := by
  unfold expire
  split
  · exact ((p.conserves_failHeld _).trans (conserves_stopSource _ _)).silently
      (conserves_closeIfUnused _)
  · split
    · exact (p.conserves_becomeUnready.trans (conserves_stopSource _ _)).silently
        (conserves_closeIfUnused _)
    · split
      · exact ((p.conserves_failHeld _).trans (conserves_stopLaunch _ _)).silently
          (conserves_closeIfUnused _)
      · split
        · exact p.conserves_stopLaunch _
        · exact .refl p

lemma conserves_passDeadline (time : Nat) : Conserves [] [] p (p.passDeadline time) := by
  unfold passDeadline
  split
  · exact .refl p
  · split
    · exact (p.conserves_runTo _).trans (conserves_expire _)
    · exact .refl p

/-- **The passing of time** conserves. -/
theorem conserves_advance (time : Nat) : Conserves [] [] p (p.advance time) :=
  ((p.conserves_passDeadline time).trans (conserves_passDeadline _ time)).trans
    (conserves_runTo _ time)

/-! ### All steps -/

lemma conserves_reload (c : Conf) : Conserves [] [] p (p.reload c) := by
  rw [reload_eq]
  refine .quietly (List.append_assoc ..) ?_ rfl rfl
  exact List.forall_mem_append.2
    ⟨p.forall_sourceCall rfl, p.forall_recordingChange c (fun _ => rfl) fun _ => rfl⟩

/-- What the clients give up in a step. -/
def droppedBy (p : Path) : PathStep → List Nat
  | .message m => p.dropped m
  | .reload _ | .pass _ | .expire | .destroy => []

/-- **Every step** of a live path conserves. -/
theorem conserves_step (he : p.ended = false) (s : PathStep) :
    Conserves s.requests (p.droppedBy s) p (p.step s) := by
  cases s with
  | message m => exact p.conserves_receive he m
  | reload c => exact p.conserves_reload c
  | pass time => exact p.conserves_runTo time
  | expire => exact p.conserves_expire
  | destroy => exact p.conserves_destroy

end Operations

/-- **What happens between steps** is not part of the history. -/
lemma GoesOn.conserves {p q : Path} (h : p.GoesOn q) : Conserves [] [] p q :=
  .quietly (by rw [h.same, List.append_nil]) (by simp) (by rw [h.same]) (by rw [h.same])

/-- **A new path** has answered nothing and holds nothing. -/
lemma traces_create (settings : PathSettings) (now id : Nat) (name : String)
    (found : ConfSet.Found) :
    (create settings now id name found).accounts = [] ∧
      (create settings now id name found).traces = [] := by
  have hanswered : (create settings now id name found).answered = [] := by
    rw [create_eq]
    unfold answered ConfSet.Found.sourceStart
    split <;> (try split) <;> simp [PathEvent.request?, PathEvent.answer?]
  have hwaiting : (create settings now id name found).waiting = [] := by simp [create_eq, waiting]
  have hheld : (create settings now id name found).held = [] := by simp [create_eq, held]
  exact ⟨by simp [accounts, hanswered, hwaiting], by simp [traces, hanswered, hheld]⟩

/-! ## Sources -/

/-- **Only a path that runs its source itself creates one.** -/
theorem Reached.hasStaticSource_of_created {p : Path} (h : p.Reached) (he : p.ended = false)
    (hc : p.hasCreatedSource = true) : p.conf.hasStaticSource = true := by
  induction h with
  | create settings now id name found =>
    by_contra hs
    have hs : found.conf.source.isStatic = false := by
      simpa [create_eq, Conf.hasStaticSource] using hs
    simp [hasCreatedSource, create_eq, ConfSet.Found.sourceStart, hs,
      PathEvent.isSourceCreation] at hc
  | @step p _ s hs ih =>
    have hlive : p.ended = false := by
      by_contra hended
      have hover := (Reached.orderly ‹_›).gone (by simpa using hended)
      simp [(hover.step hs).ended] at he
    rw [(p.conserves_step hlive s).hasCreatedSource_eq] at hc
    have hstatic := ih hlive hc
    cases s with
    | message m =>
      exact (congrArg Conf.hasStaticSource (p.continues_receive m).conf_eq).trans hstatic
    | reload c =>
      have hconf : (p.reload c).conf = c := congrArg (·.2.2.1) (p.proceeds_reload c).same
      exact ((congrArg Conf.hasStaticSource hconf).trans
        (Conf.hasStaticSource_of_canHotReload hs.2)).trans hstatic
    | pass time => exact hstatic
    | expire => exact (congrArg Conf.hasStaticSource p.continues_expire.conf_eq).trans hstatic
    | destroy =>
      have hended : (p.step .destroy).ended = true := by
        simp [Path.step, destroy, hlive, (isOver_shutdown _).ended]
      simp [hended] at he
  | @goOn p q _ hq ih =>
    have hended : q.ended = p.ended := by rw [hq.same]
    have hconf : q.conf = p.conf := by rw [hq.same]
    rw [hconf]
    exact ih (hended ▸ he) (hq.conserves.hasCreatedSource_eq ▸ hc)

/-! ## Steps that end all waiting -/

/-- **Clearing steps**: the path becomes ready, what was started is not ready in time, or the path
ends. -/
def Clears (p : Path) (s : PathStep) : Prop :=
  (p.isReady = false ∧ (p.step s).isReady = true) ∨
    (s = .expire ∧
      (p.isDue p.sourceDemand.readyAt = true ∨ p.isDue p.launchDemand.readyAt = true)) ∨
    (p.step s).ended = true

/-- Nobody gives up in a clearing step. -/
lemma droppedBy_of_clears {p : Path} (he : p.ended = false) {s : PathStep} (h : p.Clears s) :
    p.droppedBy s = [] := by
  have habandon (n : Nat) : p.step (.message (.abandon n)) = p.abandon n := by
    simp [Path.step, receive, he]
  cases s with
  | message m =>
    cases m with
    | abandon n =>
      rcases h with ⟨hr, hr'⟩ | ⟨hs, -⟩ | hended
      · rw [habandon] at hr'
        exact absurd hr' (by simpa [abandon, isReady] using hr)
      · cases hs
      · rw [habandon] at hended
        exact absurd hended (by simpa [abandon] using he)
    | _ => rfl
  | _ => rfl

/-- A deadline by which something has to be ready leaves nothing held. -/
lemma InOrder.held_expire {p : Path} (h : p.InOrder) (hdue : ∃ d ∈ p.deadline?, d ≤ p.now)
    (hlate : p.isDue p.sourceDemand.readyAt = true ∨ p.isDue p.launchDemand.readyAt = true) :
    p.expire.holdsRequests = false := by
  have hstarting : p.sourceDemand.phase = .starting ∨ p.launchDemand.phase = .starting := by
    rcases hlate with hlate | hlate
    · obtain ⟨d, hd, -⟩ := exists_of_isDue hlate
      exact .inl (h.paced.source.starting_of_readyAt hd).1
    · obtain ⟨d, hd, -⟩ := exists_of_isDue hlate
      exact .inr (h.paced.launch.starting_of_readyAt hd).1
  rcases h.expire_cases hdue with ⟨-, -, -, heq⟩ | ⟨hp, hs, -⟩ | ⟨-, -, -, heq⟩ | ⟨hp, hl, -⟩
  · rw [heq]
    refine (closeIfUnused_keeps _ ?_).1
    simp [failHeld_eq, stopSource_eq, holdsRequests]
  · simp [hp, h.launch_eq_idle hs] at hstarting
  · rw [heq]
    refine (closeIfUnused_keeps _ ?_).1
    simp [failHeld_eq, stopLaunch_eq, holdsRequests]
  · simp [hp, h.source_eq_idle hl] at hstarting

/-- **Becoming ready, coming to a deadline and ending leave nothing held**, and everybody who was
waiting and everybody who has just asked is answered, each once.

**Proof sketch.** Nothing is held besides a stream, after a deadline or after the end, so that by
conservation the answers have grown by what was held and what was asked. -/
theorem Reached.cleared {p : Path} (h : p.Reached) (he : p.ended = false) {s : PathStep}
    (hs : p.Permits s) (hc : p.Clears s) :
    (p.step s).holdsRequests = false ∧ ∀ n, (p.step s).answered.count n =
      p.answered.count n + p.waiting.count n + s.requests.count n := by
  have hnext : (p.step s).Orderly := h.orderly.step hs
  have hheld : (p.step s).holdsRequests = false := by
    cases hended : (p.step s).ended with
    | true => exact (hnext.gone hended).held
    | false =>
      rcases hc with ⟨-, hr⟩ | ⟨rfl, hlate⟩ | hn
      · exact (hnext.live hended).coherent.held hr
      · exact (h.orderly.live he).held_expire hs hlate
      · simp [hn] at hended
  refine ⟨hheld, fun n => ?_⟩
  have hbalance := (p.conserves_step he s).balance n
  rw [droppedBy_of_clears he hc] at hbalance
  simpa [accounts, waiting_eq_nil hheld] using hbalance

end Path

end LivePaths
