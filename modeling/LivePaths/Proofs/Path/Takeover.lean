import LivePaths.Proofs.Path.Accounts
import LivePaths.Proofs.Path.Release

set_option relaxedAutoImplicit false
set_option autoImplicit false

/-!
# Publishers who come and are replaced

A publisher who comes is taken or refused. All conditions are looked at before anything happens, so
that nothing changes when he is refused, but that a path under a pattern ends which nobody uses. If
he is taken, whoever published before and everybody who reads is disconnected, the stream is
replaced by a new one, and all who wait are served.

## Main definitions

* `Path.publisherConditions` — the conditions on a publisher, in their order.
* `Path.evictionEvents` — what is written down when the one who publishes has to go.
* `Path.TakenBy` — a path that a publisher has taken over.
* `Path.bidder?`, `Path.bidders` — the publishers who could be taken if nobody publishes.

## Main results

* `Path.Coherent.takenBy_receive` — what happens if a publisher is taken.
* `Path.Coherent.receive_of_fault` — what happens if one is refused.
* `Path.Lived.publishers_succeed` — who publishes after some publishers have come.
-/

namespace LivePaths

/-- Whether an event or a notice tells whether the path is ready. -/
def PathEvent.isReadiness : PathEvent → Bool
  | .ready | .notReady | .noticed .ready | .noticed .notReady => true
  | _ => false

namespace Path

variable {p q : Path}

/-! ## Conditions -/

/-- **The conditions** on a publisher in the order in which they are looked at, each with the error
if it is not met. -/
def publisherConditions (p : Path) (expected : Option Conf) (d : MediaDescription) :
    List (Bool × PathError) :=
  [(p.conf.source = .publisher, .notPublisherSource p.name),
    (expected.all (· = p.conf), .configurationChanged),
    (!d.isEmpty, .emptyDescription p.name),
    (p.publisher?.isNone || p.conf.overridePublisher, .alreadyPublishing p.name)]

/-- **The first condition that is not met** is the reason to refuse a publisher. -/
lemma publisherFault?_eq (p : Path) (expected : Option Conf) (d : MediaDescription) :
    p.publisherFault? expected d =
      ((p.publisherConditions expected d).find? (!·.1)).map (·.2) := by
  have hany : expected.any (· ≠ p.conf) = !expected.all (· = p.conf) := by
    cases expected <;> simp
  unfold publisherFault? publisherConditions
  rw [hany]
  by_cases hsource : p.conf.source = .publisher
  · cases expected.all (· = p.conf) <;> cases d.isEmpty <;>
      cases hp : p.publisher? <;> cases ho : p.conf.overridePublisher <;> simp [hsource]
  · simp [hsource]

/-- **Acceptance**: no reason to refuse a publisher is there exactly if all conditions are met. -/
lemma publisherFault?_eq_none {expected : Option Conf} {d : MediaDescription} :
    p.publisherFault? expected d = none ↔
      p.conf.source = .publisher ∧ (∀ c ∈ expected, c = p.conf) ∧ d.isEmpty = false ∧
        (p.publisher? = none ∨ p.conf.overridePublisher = true) := by
  rw [publisherFault?_eq, Option.map_eq_none_iff, List.find?_eq_none]
  simp [publisherConditions, Option.all_eq_true]

/-! ## Taking over -/

/-- **The events of an eviction**: the one who publishes is disconnected, and the path ceases to be
ready. -/
def evictionEvents (p : Path) : List PathEvent :=
  match p.publisher? with
  | none => []
  | some present => .publisherClosed present :: p.unreadyEvents

/-- **A path for publishers that is taken over** has lost whatever depended on a stream, and the new
publisher is its only source. -/
lemma Coherent.takenOver_eq (hc : p.Coherent) (hk : p.conf.source = .publisher)
    (client : Client) (query : String) :
    p.takenOver client query =
      { p with
        source := some (.publisher client)
        query
        stream := none
        pastStreams := p.pastStreams ++ (p.stream.map Stream.close).toList
        readySince := none
        readers := []
        recording := none
        onNotReady := none
        launcher := p.launcherAfter p.onNotReady
        log := p.log ++ p.evictionEvents } := by
  unfold takenOver evictPublisher evictionEvents
  cases hp : p.publisher? with
  | none =>
    have hs : p.stream = none := by
      rcases hc.source.publisher hk with hs | ⟨present, hs⟩
      · simpa [hs] using (hc.publisher hk).symm
      · simp [publisher?_eq_some.2 hs] at hp
    obtain ⟨-, htime, hteardown, hreaders, hrecording⟩ := hc.bare hs
    simp [hs, htime, hteardown, hreaders, hrecording, launcherAfter]
  | some present =>
    obtain ⟨s, hs⟩ : ∃ s, p.stream = some s := by
      have hsome := hc.publisher hk
      rw [publisher?_eq_some.1 hp] at hsome
      exact Option.isSome_iff_exists.1 hsome.symm
    have hemitted : (p.emit (.publisherClosed present)).stream = some s := hs
    dsimp only
    rw [becomeUnready_eq _ hemitted]
    simp [hs, emit, unreadyEvents, noticed, recordingEnd, launcherAfter]

/-- **Taken over** by a publisher who announces some medias: he is the only source, on a new open
stream of these medias; the stream of before, if there was one, is closed. Whoever published or read
before is disconnected once, and the path ceases to be ready before it becomes ready. All who wait
are served, and then the publisher is answered. -/
structure TakenBy (p : Path) (request : Nat) (client : Client) (d : MediaDescription)
    (rtp : Bool) (q : Path) : Prop where
  same : q.identity = p.identity
  live : q.ended = false
  source : q.source = some (.publisher client)
  stream : q.stream = some (p.announced d rtp)
  past : q.pastStreams = p.pastStreams ++ (p.stream.map Stream.close).toList
  closed : p.closings q = p.publisher?.toList.map .publisher ++ p.readers.map .reader
  readiness : (p.logSince q).filter (·.isReadiness) =
    (if p.isReady then [.noticed .notReady, .notReady] else []) ++ [.ready, .noticed .ready]
  serves : p.ServesHeld request q

/-- A path for publishers is ready exactly while somebody publishes. -/
lemma Coherent.isReady_eq (hc : p.Coherent) (hk : p.conf.source = .publisher) :
    p.isReady = p.publisher?.isSome := by
  have hsome : p.source.isSome = p.isReady := hc.publisher hk
  rcases hc.source.publisher hk with hs | ⟨present, hs⟩
  · simp [← hsome, hs, publisher?]
  · simp [← hsome, hs, publisher?]

section Events

variable (hlive : p.ended = false)

/-- **An eviction disconnects** the publisher and all readers, each of them once. -/
lemma Coherent.closed?_evictionEvents (hc : p.Coherent) (hk : p.conf.source = .publisher) :
    p.evictionEvents.filterMap PathEvent.closed? =
      p.publisher?.toList.map .publisher ++ p.readers.map .reader := by
  have hready := hc.isReady_eq hk
  unfold evictionEvents
  cases hp : p.publisher? with
  | none =>
    have hs : p.stream = none := by simpa [hp, isReady] using hready
    simp [hc.readers hs]
  | some present =>
    have hevicted : PathEvent.closed? (.publisherClosed present) = some (.publisher present) := rfl
    rw [List.filterMap_cons, hevicted, closed?_unreadyEvents]
    rfl

/-- An eviction answers nobody. -/
lemma answer?_evictionEvents (p : Path) : p.evictionEvents.filterMap PathEvent.answer? = [] := by
  refine List.filterMap_eq_nil_iff.2 ?_
  unfold evictionEvents
  split
  · simp
  · exact List.forall_mem_cons.2 ⟨rfl, p.forall_unreadyEvents rfl (fun _ => rfl) rfl fun _ => rfl⟩

include hlive in
/-- Ceasing to be ready is told once. -/
lemma isReadiness_unreadyEvents :
    p.unreadyEvents.filter (·.isReadiness) = [.noticed .notReady, .notReady] := by
  have hreaders : (p.readers.map PathEvent.readerClosed).filter (·.isReadiness) = [] := by
    simp [PathEvent.isReadiness]
  have hrecorded : p.recordingEnd.filter (·.isReadiness) = [] :=
    List.filter_eq_nil_iff.2 (p.forall_recordingEnd (by simp [PathEvent.isReadiness]))
  have hnoticed : p.noticed .notReady = [.noticed .notReady] := by simp [noticed, hlive]
  simp only [unreadyEvents, hnoticed, List.filter_append, hreaders, hrecorded]
  rfl

include hlive in
/-- **An eviction tells** that the path is not ready any more, if it was. -/
lemma Coherent.isReadiness_evictionEvents (hc : p.Coherent) (hk : p.conf.source = .publisher) :
    p.evictionEvents.filter (·.isReadiness) =
      if p.isReady then [.noticed .notReady, .notReady] else [] := by
  rw [hc.isReady_eq hk]
  unfold evictionEvents
  cases hp : p.publisher? with
  | none => simp
  | some present =>
    have hevicted : (PathEvent.publisherClosed present).isReadiness = false := rfl
    simp [hevicted, isReadiness_unreadyEvents hlive]

include hlive in
/-- Becoming ready is told once, besides which only a recording may begin. -/
lemma isReadiness_readyEvents (s : Stream) :
    (p.readyEvents s).filter (·.isReadiness) = [.ready, .noticed .ready] := by
  have hrecorded : (p.recordingStart s).filter (·.isReadiness) = [] :=
    List.filter_eq_nil_iff.2 (p.forall_recordingStart (by simp [PathEvent.isReadiness]) s)
  have hnoticed : p.noticed .ready = [.noticed .ready] := by simp [noticed, hlive]
  unfold readyEvents
  rw [hnoticed, List.filter_append, List.filter_append]
  split
  · rw [hrecorded]
    rfl
  · rfl

end Events

/-- **The path that takes a publisher**, before it serves those who wait. -/
def accepted (p : Path) (client : Client) (d : MediaDescription) (rtp : Bool)
    (query : String) : Path :=
  ((p.takenOver client query).becomeReady (p.announced d rtp)).notePublisherReady

/-- A publisher who is not refused is accepted and served after those who wait. -/
lemma receive_addPublisher (hlive : p.ended = false) {d : MediaDescription}
    {expected : Option Conf} (hf : p.publisherFault? expected d = none) (n : Nat)
    (client : Client) (rtp : Bool) (query : String) :
    p.receive (.addPublisher n client d rtp query expected) =
      (p.accepted client d rtp query).serve n := by
  unfold receive
  rw [if_neg (by simp [hlive])]
  simp only [addPublisher_eq, hf]
  rfl

/-- **Acceptance** replaces the publisher and the stream, and nobody is left who reads. -/
lemma Coherent.accepted_eq (hc : p.Coherent) (hk : p.conf.source = .publisher)
    (client : Client) (d : MediaDescription) (rtp : Bool) (query : String) :
    ∃ readySince recording onNotReady launcher launchDemand,
      p.accepted client d rtp query =
        { p with
          source := some (.publisher client)
          query
          stream := some (p.announced d rtp)
          pastStreams := p.pastStreams ++ (p.stream.map Stream.close).toList
          readySince
          readers := []
          recording
          onNotReady
          launcher
          launchDemand
          log := p.log ++ p.evictionEvents ++ p.readyEvents (p.announced d rtp) } := by
  have hevents : (p.takenOver client query).readyEvents (p.announced d rtp) =
      p.readyEvents (p.announced d rtp) := by
    rw [hc.takenOver_eq hk]
    rfl
  have hlog := (p.takenOver client query).log_becomeReady (p.announced d rtp)
  rw [hevents] at hlog
  unfold accepted
  rw [notePublisherReady_eq, hlog, becomeReady_eq, hc.takenOver_eq hk]
  exact ⟨_, _, _, _, _, rfl⟩

/-- **A publisher who is taken** takes the path over.

**Proof sketch.** Nothing is left of what depended on the stream of before, so that nobody reads
when those who wait are released, on the new stream and within the limit. -/
theorem Coherent.takenBy_receive (hc : p.Coherent) (hlive : p.ended = false)
    {d : MediaDescription} {expected : Option Conf} (hf : p.publisherFault? expected d = none)
    (n : Nat) (client : Client) (rtp : Bool) (query : String) :
    p.TakenBy n client d rtp (p.receive (.addPublisher n client d rtp query expected)) := by
  have hk : p.conf.source = .publisher := source_eq_publisher hf
  obtain ⟨readySince, recording, onNotReady, launcher, launchDemand, haccepted⟩ :=
    hc.accepted_eq hk client d rtp query
  rw [receive_addPublisher hlive hf]
  set r := p.accepted client d rtp query with hr
  set es := p.evictionEvents ++ p.readyEvents (p.announced d rtp) with hes
  have hready : r.isReady = true := by
    rw [haccepted]
    rfl
  have hnobody : r.readers = [] := by rw [haccepted]
  have hlog : r.log = p.log ++ es := by simp [haccepted, hes]
  have hserved := serve_eq hready hnobody n
  have hsince : p.logSince (r.serve n) =
      es ++ answerEvents (r.releaseAnswers ++ [(n, .stream r.streamId)]) := by
    rw [hserved]
    simp [hlog, logSince]
  have hbegun {β : Type} (f : PathEvent → Option β)
      (hstart : ∀ recording m, f (.recordStarted recording m) = none)
      (hready : f .ready = none) (hnotice : f (.noticed .ready) = none) :
      (p.readyEvents (p.announced d rtp)).filterMap f = [] :=
    List.filterMap_eq_nil_iff.2 (p.forall_readyEvents (fun m => hstart _ m) hready hnotice _)
  refine ⟨?_, ?_, ?_, ?_, ?_, ?_, ?_, ?_⟩
  · rw [hserved, haccepted]
    rfl
  · rw [hserved, haccepted]
    exact hlive
  · rw [hserved, haccepted]
    rfl
  · rw [hserved, haccepted]
    rfl
  · rw [hserved, haccepted]
    rfl
  · have hclosings : p.closings (r.serve n) =
        (p.logSince (r.serve n)).filterMap PathEvent.closed? := rfl
    rw [hclosings, hsince, List.filterMap_append, List.filterMap_append,
      hc.closed?_evictionEvents hk, hbegun _ (fun _ _ => rfl) rfl rfl,
      filterMap_answers _ fun _ _ => rfl, List.append_nil, List.append_nil]
  · have hanswers : (answerEvents (r.releaseAnswers ++ [(n, .stream r.streamId)])).filter
        (·.isReadiness) = [] :=
      List.filter_eq_nil_iff.2 (forall_answerEvents fun _ _ => by simp [PathEvent.isReadiness])
    rw [hsince, List.filter_append, List.filter_append, hc.isReadiness_evictionEvents hlive hk,
      isReadiness_readyEvents hlive, hanswers, List.append_nil]
  · refine servesHeld_serve hready hnobody (by rw [haccepted]) (by rw [haccepted])
      (by simp [haccepted]) hlog (List.filterMap_eq_nil_iff.1 ?_) n
    rw [List.filterMap_append, answer?_evictionEvents, hbegun _ (fun _ _ => rfl) rfl rfl]
    rfl

/-! ## Being refused -/

/-- **A publisher who is refused** is answered, and nobody is disconnected. A path under a pattern
that is not used ends after that; any other one stays as it was. -/
theorem Coherent.receive_of_fault (hc : p.Coherent) (hlive : p.ended = false)
    {d : MediaDescription} {expected : Option Conf} {e : PathError}
    (hf : p.publisherFault? expected d = some e) (n : Nat) (client : Client) (rtp : Bool)
    (query : String) :
    p.receive (.addPublisher n client d rtp query expected) =
        (if p.isUnused then (p.answer n (.refused e)).shutdown else p.answer n (.refused e)) ∧
      p.closings (p.receive (.addPublisher n client d rtp query expected)) = [] := by
  have hreceive : p.receive (.addPublisher n client d rtp query expected) =
      (p.answer n (.refused e)).closeIfUnused := by
    unfold receive
    rw [if_neg (by simp [hlive])]
    simp only [addPublisher_eq, hf]
  have hrefused : (p.answer n (.refused e)).Coherent := hc.of_vitals rfl
  have hretains := (p.retains_answer n (.refused e)).trans
    (hrefused.retains_closeIfUnused hlive)
  exact ⟨hreceive, hreceive ▸ hretains.closes.eq⟩

/-! ## Who publishes -/

/-- **A publisher who could be taken** by an act if nobody publishes. -/
def bidder? (p : Path) : PathAct → Option Client
  | .step (.message (.addPublisher _ client d _ _ expected)) =>
    if p.conf.source = .publisher && expected.all (· = p.conf) && !d.isEmpty then some client
    else none
  | _ => none

/-- **The publishers who could be taken** in a part of a life, in the order in which they come. -/
def bidders (p : Path) (as : List PathAct) : List Client :=
  (p.episodes as).filterMap fun e => e.1.bidder? e.2

/-- A bidder is refused exactly if somebody publishes who may not be replaced. -/
lemma publisherFault?_of_bidder {n : Nat} {client bidder : Client} {d : MediaDescription}
    {rtp : Bool} {query : String} {expected : Option Conf}
    (hb : p.bidder? (.step (.message (.addPublisher n client d rtp query expected))) =
      some bidder) :
    bidder = client ∧ (p.publisherFault? expected d = none ↔
      p.publisher? = none ∨ p.conf.overridePublisher = true) := by
  simp only [bidder?, Option.ite_none_right_eq_some, Option.some.injEq, Bool.and_eq_true,
    decide_eq_true_eq, Bool.not_eq_eq_eq_not, Bool.not_true, Option.all_eq_true] at hb
  obtain ⟨⟨⟨hk, hexpected⟩, hd⟩, rfl⟩ := hb
  rw [publisherFault?_eq_none]
  exact ⟨rfl, fun h => h.2.2.2, fun h => ⟨hk, hexpected, hd, h⟩⟩

/-- **Nobody publishes** until a publisher comes. -/
lemma Change.publisher?_eq_none {Came : PathMessage → Prop} (h : Change Came p q)
    (hcame : ∀ n client d rtp query expected, ¬ Came (.addPublisher n client d rtp query expected))
    (hp : p.publisher? = none) : q.publisher? = none := by
  cases h with
  | drive h =>
    obtain ⟨es, -, heq⟩ := h.eq
    rw [heq]
    exact hp
  | goOn h =>
    rw [h.same]
    exact hp
  | attach n client hlive hready hm =>
    obtain ⟨cs, a, -, heq⟩ := p.attach_eq hready n client
    rw [heq]
    exact hp
  | failHeld hlive =>
    rw [failHeld_eq]
    exact hp
  | removeReader client hlive =>
    rw [removeReader_eq]
    exact hp
  | becomeReady s hlive hstream hd hnew =>
    rw [becomeReady_eq]
    exact hp
  | becomeUnready hstream =>
    rw [becomeUnready_eq p hstream]
    exact hp
  | vacate client hlive hclient hstream => rfl
  | occupy n client d rtp query expected hlive hsource hstream hm =>
    exact absurd hm (hcame n client d rtp query expected)
  | reload c hlive hc =>
    cases hq : (p.reload c).publisher? with
    | none => rfl
    | some client =>
      rw [publisher?_eq_some, reload_eq] at hq
      simp only [sourceUnder] at hq
      split at hq
      · cases hq
      · simp [publisher?_eq_some.2 hq] at hp
  | releaseSource hended hstream =>
    rw [releaseSource_eq]
    rfl
  | answer | holdDescribe | holdReader | abandon | clear | evict | beginEnd => exact hp

section Lives

variable (h : p.Lived) {a : PathAct}

include h

/-- **The end is final.** -/
lemma Lived.ended_act (ha : p.Allows a) (hended : p.ended = true) : (p.act a).ended = true := by
  cases a with
  | step s => exact (((h.reached.orderly.gone hended).step ha)).ended
  | media between =>
    obtain ⟨stream, pastStreams, launcher, -, -, heq⟩ := p.media_eq between
    rw [Path.act, heq]
    exact hended

/-- What lives after an act has lived before. -/
lemma Lived.live_of_act (ha : p.Allows a) (hlive : (p.act a).ended = false) : p.ended = false := by
  cases hended : p.ended with
  | false => rfl
  | true => simp [h.ended_act ha hended] at hlive

/-- A path that has ended does not live again. -/
lemma Lived.ended_after {as : List PathAct} (has : p.AllowsAll as) (hended : p.ended = true) :
    (p.after as).ended = true := by
  induction as generalizing p with
  | nil => exact hended
  | cons a rest ih => exact ih (h.act has.1) has.2 (h.ended_act has.1 hended)

/-- **Whether a publisher may be replaced** stays as it is while a path lives. -/
lemma Lived.overridePublisher_act (ha : p.Allows a) (hlive : (p.act a).ended = false) :
    (p.act a).conf.overridePublisher = p.conf.overridePublisher := by
  have hp := h.live_of_act ha hlive
  cases a with
  | media between =>
    obtain ⟨stream, pastStreams, launcher, -, -, heq⟩ := p.media_eq between
    rw [Path.act, heq]
  | step s =>
    cases s with
    | message m => exact congrArg Conf.overridePublisher (p.continues_receive m).conf_eq
    | reload c =>
      have hconf : (p.reload c).conf = c := by rw [reload_eq]
      exact (congrArg _ hconf).trans (Conf.overridePublisher_of_canHotReload ha.2)
    | pass time => rfl
    | expire => exact congrArg Conf.overridePublisher p.continues_expire.conf_eq
    | destroy =>
      have hgone : p.destroy.ended = true := (isOver_destroy hp).ended
      exact absurd (hgone.symm.trans hlive) (by simp)

/-- A publisher comes: he is taken, or whoever publishes stays. -/
lemma Lived.publisher?_addPublisher {n : Nat} {client : Client} {d : MediaDescription}
    {rtp : Bool} {query : String} {expected : Option Conf} (hp : p.ended = false)
    (hlive : (p.receive (.addPublisher n client d rtp query expected)).ended = false) :
    let bidder := p.bidder? (.step (.message (.addPublisher n client d rtp query expected)))
    (p.receive (.addPublisher n client d rtp query expected)).publisher? =
      if p.conf.overridePublisher then bidder.or p.publisher? else p.publisher?.or bidder := by
  have hc := (h.reached.orderly.live hp).coherent
  intro bidder
  cases hf : p.publisherFault? expected d with
  | none =>
    -- he takes the path over
    have htaken := publisher?_eq_some.2 (hc.takenBy_receive hp hf n client rtp query).source
    obtain ⟨hk, hexpected, hd, hfree⟩ := publisherFault?_eq_none.1 hf
    have hbidder : bidder = some client := by
      have hall : expected.all (· = p.conf) = true := by simpa [Option.all_eq_true] using hexpected
      simp [bidder, bidder?, hk, hall, hd]
    rw [htaken, hbidder]
    rcases hfree with hnobody | hoverride
    · simp [hnobody]
    · simp [hoverride]
  | some e =>
    -- nothing changes but that he is answered
    obtain ⟨hreceive, -⟩ := hc.receive_of_fault hp hf n client rtp query
    have hused : p.isUnused = false := by
      cases hunused : p.isUnused with
      | false => rfl
      | true =>
        rw [hreceive, hunused, if_pos rfl, (isOver_shutdown _).ended] at hlive
        cases hlive
    have hsame : (p.receive (.addPublisher n client d rtp query expected)).publisher? =
        p.publisher? := by
      rw [hreceive, hused]
      rfl
    rw [hsame]
    cases hb : bidder with
    | none => simp
    | some b =>
      have hbusy : ¬ (p.publisher? = none ∨ p.conf.overridePublisher = true) := by
        rw [← (publisherFault?_of_bidder hb).2, hf]
        simp
      obtain ⟨hpublishes, hkept⟩ := not_or.1 hbusy
      obtain ⟨present, hpresent⟩ := Option.ne_none_iff_exists'.1 hpublishes
      simp [hpresent, hkept]

/-- **Nobody comes and nobody leaves**: whoever publishes stays, and if nobody does, nobody will. -/
lemma Lived.publisher?_of_nobody (ha : p.Allows a) (hlive : (p.act a).ended = false)
    (hcomes : ¬ ∃ n client d rtp query expected,
      a = .step (.message (.addPublisher n client d rtp query expected)))
    (hleaves : ∀ client, p.publisher? = some client → a.leaving? ≠ some (.publisher client)) :
    (p.act a).publisher? = p.publisher? := by
  have hp := h.live_of_act ha hlive
  cases hpublishes : p.publisher? with
  | some d =>
    -- an attachment ends for a reason, and there is none
    have hk : p.HasClient (.publisher d) := hpublishes
    have hstays : ¬ p.EndsPublishing a := by
      intro hev
      unfold EndsPublishing at hev
      split at hev
      · exact hcomes ⟨_, _, _, _, _, _, rfl⟩
      · have hgone : p.destroy.ended = true := (isOver_destroy hp).ended
        exact absurd (hgone.symm.trans hlive) (by simp)
      · exact hev
    have hattached := (h.parting ha).attachedTo_eq hk (hleaves d hpublishes) hstays
    by_contra hgone
    have hnone : (p.act a).attachedTo (.publisher d) = none := attachedTo_eq_none.2 hgone
    rw [hnone, attachedTo_of_hasClient hk] at hattached
    cases hattached
  | none =>
    cases a with
    | media between =>
      have hgoes : Change (fun _ => False) p _ := .goOn (p.goesOn_media between)
      exact Change.publisher?_eq_none hgoes (fun _ _ _ _ _ _ => not_false) hpublishes
    | step s =>
      have hchanges : Changes (fun m => s = .message m) p (p.step s) :=
        Path.changes_step h.reached.orderly ha fun m hm => hm
      refine hchanges.keeps (fun p q hq => Change.publisher?_eq_none hq ?_) hpublishes
      exact fun n client d rtp query expected hs =>
        hcomes ⟨n, client, d, rtp, query, expected, hs ▸ rfl⟩

/-- **Who publishes after an act** by which nobody stops publishing. -/
lemma Lived.publisher?_act (ha : p.Allows a) (hlive : (p.act a).ended = false)
    (hleaves : ∀ client, p.publisher? = some client → a.leaving? ≠ some (.publisher client)) :
    (p.act a).publisher? =
      if p.conf.overridePublisher then (p.bidder? a).or p.publisher?
      else p.publisher?.or (p.bidder? a) := by
  by_cases hcomes : ∃ n client d rtp query expected,
      a = .step (.message (.addPublisher n client d rtp query expected))
  · obtain ⟨n, client, d, rtp, query, expected, rfl⟩ := hcomes
    exact h.publisher?_addPublisher (h.live_of_act ha hlive) hlive
  · have hnobody : p.bidder? a = none := by
      unfold bidder?
      split
      · exact absurd ⟨_, _, _, _, _, _, rfl⟩ hcomes
      · rfl
    rw [h.publisher?_of_nobody ha hlive hcomes hleaves, hnobody]
    simp

end Lives

/-- **Who publishes after some acts** by which nobody stops publishing, while the path lives:
whoever came last if publishers are replaced, and whoever was first if they are not.

**Proof sketch.** Induction on the acts. One of them either brings a bidder, who is taken or not as
the configuration has it, or it changes nothing about who publishes. -/
lemma Lived.publisher?_after (h : p.Lived) {as : List PathAct} (has : p.AllowsAll as)
    (hlive : (p.after as).ended = false)
    (hleaves : ∀ e ∈ p.episodes as, ∀ client, e.1.publisher? = some client →
      e.2.leaving? ≠ some (.publisher client)) :
    (p.after as).publisher? =
      if p.conf.overridePublisher then (p.bidders as).getLast?.or p.publisher?
      else p.publisher?.or (p.bidders as).head? := by
  induction as generalizing p with
  | nil => simp [Path.after, bidders, episodes]
  | cons a rest ih =>
    have hnext : ((p.act a).after rest).ended = false := hlive
    have hacted : (p.act a).ended = false := by
      cases hended : (p.act a).ended with
      | false => rfl
      | true => simp [(h.act has.1).ended_after has.2 hended] at hnext
    have hstep := h.publisher?_act has.1 hacted (hleaves _ List.mem_cons_self)
    have hrest := ih (h.act has.1) has.2 hnext fun e he => hleaves e (List.mem_cons_of_mem _ he)
    have hbidders : p.bidders (a :: rest) =
        (p.bidder? a).toList ++ (p.act a).bidders rest := by
      cases hb : p.bidder? a <;> simp [bidders, episodes, hb]
    rw [h.overridePublisher_act has.1 hacted, hstep] at hrest
    refine hrest.trans ?_
    rw [hbidders]
    cases hb : p.bidder? a with
    | none => cases p.conf.overridePublisher <;> simp
    | some client =>
      cases p.conf.overridePublisher with
      | true =>
        cases hlast : ((p.act a).bidders rest).getLast? <;> simp [hlast, List.getLast?_cons]
      | false => cases p.publisher? <;> simp

/-- **Publishers succeed one another** in every state of the life of a path. One who comes is taken
exactly if the path is for publishers, its configuration is not another one than he expects, he
announces something, and nobody publishes or may be replaced; the first condition that is not met
tells why he is refused. Being refused disconnects nobody and changes nothing but that he is
answered, except that a path under a pattern that is not used ends then. One who is taken takes the
path over. Once the one who publishes leaves, nobody publishes; and as long as nobody does and the
path lives, whatever else happens, the last of those who could be taken publishes if publishers are
replaced, and the first of them if they are not. -/
theorem Lived.publishers_succeed (h : p.Lived) (hlive : p.ended = false) :
    (∀ n client d rtp query expected,
      match (p.publisherConditions expected d).find? (!·.1) with
      | none => p.TakenBy n client d rtp
          (p.receive (.addPublisher n client d rtp query expected))
      | some (_, e) =>
        p.receive (.addPublisher n client d rtp query expected) =
            (if p.isUnused then (p.answer n (.refused e)).shutdown
            else p.answer n (.refused e)) ∧
          p.closings (p.receive (.addPublisher n client d rtp query expected)) = []) ∧
    (∀ client, p.publisher? = some client →
      (p.receive (.removePublisher client)).publisher? = none) ∧
    ∀ as, p.AllowsAll as → (p.after as).ended = false →
      (∀ e ∈ p.episodes as, ∀ client, e.1.publisher? = some client →
        e.2.leaving? ≠ some (.publisher client)) →
      (p.after as).publisher? =
        if p.conf.overridePublisher then (p.bidders as).getLast?.or p.publisher?
        else p.publisher?.or (p.bidders as).head? := by
  have hc := (h.reached.orderly.live hlive).coherent
  refine ⟨fun n client d rtp query expected => ?_, fun client hp => ?_,
    fun as has hafter hleaves => h.publisher?_after has hafter hleaves⟩
  · have hfault := p.publisherFault?_eq expected d
    split
    · next hmet =>
      rw [hmet] at hfault
      exact hc.takenBy_receive hlive hfault n client rtp query
    · next met e hunmet =>
      rw [hunmet] at hfault
      exact hc.receive_of_fault hlive hfault n client rtp query
  · have hleft : p.removePublisher client = p.vacated := by
      rw [removePublisher, if_pos hp]
      rfl
    have hreceive : p.receive (.removePublisher client) = p.vacated.closeIfUnused := by
      unfold receive
      rw [if_neg (by simp [hlive])]
      exact congrArg closeIfUnused hleft
    rw [hreceive, closeIfUnused]
    split
    · simp [publisher?, (isOver_shutdown p.vacated).source]
    · rfl

/-- A configuration under which whoever publishes first stays. -/
def firstStays : ConfSet.Found where
  conf := { name := "cam", overridePublisher := false }
  captures := []

/-- A session, which describes itself like all others. -/
def session (number : Nat) : Client := ⟨number, ⟨"rtspSession", "session"⟩⟩

/-- A session wants to publish what a camera sends. -/
def comes (request number : Nat) : PathMessage :=
  .addPublisher request (session number) ⟨[⟨.video, "H264"⟩]⟩ false "" none

/-- Two sessions that want to publish, one after the other. -/
def rivals : List PathAct := [.step (.message (comes 0 0)), .step (.message (comes 1 1))]

/-- Of two rivals the first one takes the path over and stays if publishers are not replaced, and
the second one is refused, though they describe themselves alike; if they are replaced, the second
one publishes. -/
theorem publishers_succeed_rivals :
    (create {} 0 1 "cam" firstStays).Lived ∧ (create {} 0 1 "cam" readByTwo).Lived ∧
      (create {} 0 1 "cam" firstStays).TakenBy 0 (session 0) ⟨[⟨.video, "H264"⟩]⟩ false
        ((create {} 0 1 "cam" firstStays).receive (comes 0 0)) ∧
      ((create {} 0 1 "cam" firstStays).receive (comes 0 0)).receive (comes 1 1) =
        ((create {} 0 1 "cam" firstStays).receive (comes 0 0)).answer 1
          (.refused (.alreadyPublishing "cam")) ∧
      ((create {} 0 1 "cam" firstStays).after rivals).publisher? = some (session 0) ∧
      ((create {} 0 1 "cam" readByTwo).after rivals).publisher? = some (session 1) := by
  set first := create {} 0 1 "cam" firstStays with hfirst
  have hnew : first.Lived := .create ..
  have hlast : (create {} 0 1 "cam" readByTwo).Lived := .create ..
  have htaken : (first.receive (comes 0 0)).Lived :=
    hnew.step (s := .message (comes 0 0)) (by decide)
  obtain ⟨hcomes, -, hstays⟩ := hnew.publishers_succeed (by decide)
  obtain ⟨hrival, -, -⟩ := htaken.publishers_succeed (by decide)
  obtain ⟨-, -, hreplaced⟩ := hlast.publishers_succeed (by decide)
  have htakes := hcomes 0 (session 0) ⟨[⟨.video, "H264"⟩]⟩ false "" none
  have hrefused := hrival 1 (session 1) ⟨[⟨.video, "H264"⟩]⟩ false "" none
  refine ⟨hnew, hlast, htakes, ?_, ?_, ?_⟩
  · exact hrefused.1
  · rw [hstays rivals (by decide) (by decide) (by decide)]
    decide
  · rw [hreplaced rivals (by decide) (by decide) (by decide)]
    decide

/-- A configuration whose pattern is how the names of all cameras begin. -/
def underPattern : ConfSet.Found where
  conf :=
    { name := "~^cam"
      pattern := some
        { expression := "^cam"
          program := (Pattern.program? "^cam").get (by decide +kernel)
          compiles := (Option.some_get _).symm } }
  captures := ["cam"]

/-- **A refusal may end a path**: a client who announces nothing is refused by a new path under a
pattern, which lives before and has ended after that, and of whose end the registry is told. -/
theorem ended_refused_underPattern :
    (create {} 0 1 "cam" underPattern).Lived ∧ (create {} 0 1 "cam" underPattern).ended = false ∧
      (create {} 0 1 "cam" underPattern).publisherFault? none ⟨[]⟩ =
        some (.emptyDescription "cam") ∧
      ((create {} 0 1 "cam" underPattern).receive
        (.addPublisher 0 ⟨0, ⟨"rtspSession", "a"⟩⟩ ⟨[]⟩ false "" none)).ended = true ∧
      .noticed .closed ∈ ((create {} 0 1 "cam" underPattern).receive
        (.addPublisher 0 ⟨0, ⟨"rtspSession", "a"⟩⟩ ⟨[]⟩ false "" none)).log := by
  exact ⟨.create .., by decide, by decide, by decide, by decide⟩

end Path

end LivePaths
