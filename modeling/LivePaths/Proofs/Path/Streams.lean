import LivePaths.Proofs.Path.Destruction

set_option relaxedAutoImplicit false
set_option autoImplicit false

/-!
# The streams of a path

A path opens a new stream whenever it becomes ready, and closes it when it ceases to be. Those who
were given a stream may keep it for longer, so that there may be many streams of one path, but only
the last one can be open. The events of a path tell which streams have been opened and closed, and
which of them was open when somebody was given one.

## Main definitions

* `Path.StreamMove` — what a change does to the streams, and what is told of it.
* `Path.KeepsStreams` — the streams agree with the events.
* `Stream.Ages` — what becomes of a stream to which nothing is written.

## Main results

* `Path.Lived.keepsStreams` — the streams agree with the events all along a life.
* `Path.KeepsStreams.closed_iff` — a stream is closed from the next end of readiness on.
* `Path.ages_changes` — streams stay as they are or are closed, and new ones are empty.
* `Path.stream?_modifyStream` — what is done with one stream concerns no other one.
-/

namespace LivePaths

/-- Whether an event tells of a stream: one is opened or closed, or given to somebody. -/
def PathEvent.tellsOfStream : PathEvent → Bool
  | .ready | .notReady | .answered _ (.stream _) => true
  | _ => false

lemma PathEvent.tellsOfStream_of_isDriving {e : PathEvent} (h : e.isDriving = true) :
    e.tellsOfStream = false := by
  cases e <;> simp_all [isDriving, tellsOfStream]

namespace Path

/-! ## What changes do to streams -/

/-- **What a change does to the streams** of a path: they stay, and only the present one is given to
anybody; or a new one is opened, or the present one is closed, and this is told once. -/
inductive StreamMove (p q : Path) : Prop where
  | stays {es : List PathEvent} (hstream : q.stream = p.stream)
      (hpast : q.pastStreams = p.pastStreams) (hlog : q.log = p.log ++ es)
      (hes : ∀ e ∈ es, e.tellsOfStream = true →
        p.isReady = true ∧ ∃ n, e = .answered n (.stream p.streamId))
  | opens {s : Stream} {before after : List PathEvent} (hnone : p.stream = none) (hnew : s.IsNew)
      (hstream : q.stream = some s) (hpast : q.pastStreams = p.pastStreams)
      (hlog : q.log = p.log ++ (before ++ [.ready] ++ after))
      (hbefore : ∀ e ∈ before, e.tellsOfStream = false)
      (hafter : ∀ e ∈ after, e.tellsOfStream = false)
  | closes {s : Stream} {before after : List PathEvent} (hstream : p.stream = some s)
      (hnone : q.stream = none) (hpast : q.pastStreams = p.pastStreams ++ [s.close])
      (hlog : q.log = p.log ++ (before ++ [.notReady] ++ after))
      (hbefore : ∀ e ∈ before, e.tellsOfStream = false)
      (hafter : ∀ e ∈ after, e.tellsOfStream = false)

namespace StreamMove

variable {p q : Path}

/-- Nothing is told of streams. -/
lemma untold {es : List PathEvent} (hstream : q.stream = p.stream)
    (hpast : q.pastStreams = p.pastStreams) (hlog : q.log = p.log ++ es)
    (hes : ∀ e ∈ es, e.tellsOfStream = false) : StreamMove p q :=
  .stays hstream hpast hlog fun e he htells => by simp [hes e he] at htells

/-- Nothing is told at all. -/
lemma silent (hstream : q.stream = p.stream) (hpast : q.pastStreams = p.pastStreams)
    (hlog : q.log = p.log) : StreamMove p q :=
  .untold hstream hpast (hlog.trans (List.append_nil _).symm) (by simp)

/-- Somebody is answered. -/
lemma answers {n : Nat} {a : Answer} (hstream : q.stream = p.stream)
    (hpast : q.pastStreams = p.pastStreams) (hlog : q.log = p.log ++ [.answered n a])
    (ha : ∀ id, a = .stream id → p.isReady = true ∧ id = p.streamId) : StreamMove p q := by
  refine .stays hstream hpast hlog fun e he htells => ?_
  obtain rfl := List.mem_singleton.1 he
  cases a with
  | stream id =>
    obtain ⟨hready, rfl⟩ := ha id rfl
    exact ⟨hready, n, rfl⟩
  | redirect | refused => simp [PathEvent.tellsOfStream] at htells

end StreamMove

/-- **Every change** does one of these. -/
lemma streamMove_of_change {p q : Path} (h : PureChange p q) : StreamMove p q := by
  cases h with
  | drive h =>
    obtain ⟨es, hes, heq⟩ := h.eq
    rw [heq]
    exact .untold rfl rfl rfl fun e he => PathEvent.tellsOfStream_of_isDriving (hes e he)
  | goOn h => exact h.elim
  | answer n hlive ha =>
    refine .answers rfl rfl rfl fun id hid => ?_
    subst hid
    cases ha with
    | stream hready => exact ⟨hready, rfl⟩
  | attach n client hlive hready hm =>
    obtain ⟨cs, a, ha, heq⟩ := p.attach_eq hready n client
    rw [heq]
    refine .answers (a := a) rfl rfl rfl fun id hid => ?_
    rcases ha with rfl | rfl
    · exact ⟨hready, (Answer.stream.inj hid).symm⟩
    · cases hid
  | failHeld hlive =>
    rw [failHeld_eq]
    refine .untold rfl rfl rfl (forall_answerEvents fun x hx => ?_)
    obtain ⟨n, -, rfl⟩ := List.mem_map.1 hx
    rfl
  | removeReader client hlive =>
    rw [removeReader_eq]
    exact .silent rfl rfl rfl
  | becomeReady s hlive hstream hd hnew =>
    have hlog := p.log_becomeReady s
    rw [becomeReady_eq] at hlog ⊢
    refine .opens hstream hnew rfl rfl hlog ?_ (p.forall_noticed rfl)
    split
    · exact p.forall_recordingStart (P := (·.tellsOfStream = false)) (fun _ => rfl) s
    · simp
  | becomeUnready hstream =>
    have hlog := p.log_becomeUnready hstream
    rw [becomeUnready_eq p hstream] at hlog ⊢
    refine .closes hstream rfl rfl hlog ?_ (p.forall_recordingEnd fun _ => rfl)
    exact List.forall_mem_append.2 ⟨p.forall_noticed rfl, by simp [PathEvent.tellsOfStream]⟩
  | evict client hlive hclient => exact .untold rfl rfl rfl (List.forall_mem_singleton.2 rfl)
  | reload c hlive hc =>
    rw [reload_eq, List.append_assoc]
    exact .untold rfl rfl rfl (List.forall_mem_append.2
      ⟨p.forall_sourceCall rfl, p.forall_recordingChange c (fun _ => rfl) fun _ => rfl⟩)
  | beginEnd hlive silent =>
    have hlog := { p with ended := silent }.log_beginEnd
    exact .untold rfl rfl hlog (forall_endEvents _ rfl rfl fun _ => rfl)
  | releaseSource hended hstream =>
    rw [releaseSource_eq]
    exact .untold rfl rfl rfl (p.forall_sourceRelease (fun _ => rfl) fun _ => rfl)
  | holdDescribe | holdReader | abandon | clear | vacate | occupy => exact .silent rfl rfl rfl

/-- No change gives a path another number. -/
lemma id_of_change {p q : Path} (h : PureChange p q) : q.id = p.id := by
  cases h with
  | drive h =>
    obtain ⟨es, -, heq⟩ := h.eq
    rw [heq]
  | goOn h => exact h.elim
  | attach n client hlive hready hm =>
    obtain ⟨cs, a, -, heq⟩ := p.attach_eq hready n client
    rw [heq]
    rfl
  | failHeld hlive => rw [failHeld_eq]
  | removeReader client hlive => rw [removeReader_eq]
  | becomeReady s hlive hstream hd hnew => rw [becomeReady_eq]
  | becomeUnready hstream => rw [becomeUnready_eq p hstream]
  | reload c hlive hc => rw [reload_eq]
  | releaseSource hended hstream => rw [releaseSource_eq]
  | answer | holdDescribe | holdReader | abandon | clear | evict | vacate | occupy | beginEnd => rfl

/-! ## Streams and events -/

/-- **Whoever is given a stream** is given the one that is open at this moment: as many streams have
been closed before as there are before it, and one more has been opened. -/
def GivesOpen (id : Nat) (log : List PathEvent) : Prop :=
  ∀ before n stream after, log = before ++ .answered n (.stream stream) :: after →
    stream.path = id ∧ before.count .notReady = stream.serial ∧
      before.count .ready = stream.serial + 1

/-- **Agreement** of the streams with the events: each one was opened when the path became ready,
and closed when it ceased to be; the present one is open; and nobody has been given another one. -/
structure KeepsStreams (p : Path) : Prop where
  closed : p.log.count .notReady = p.pastStreams.length
  opened : p.log.count .ready = p.pastStreams.length + p.isReady.toNat
  past : ∀ s ∈ p.pastStreams, s.closed = true
  present : ∀ s ∈ p.stream, s.closed = false
  gives : GivesOpen p.id p.log

/-- Events that tell of no stream do not count. -/
lemma count_untold {es : List PathEvent} (hes : ∀ e ∈ es, e.tellsOfStream = false)
    {e : PathEvent} (he : e.tellsOfStream = true) : es.count e = 0 := by
  refine List.count_eq_zero.2 fun hmem => ?_
  simp [hes e hmem] at he

/-- **More events**: whoever is given a stream then is given the one that is open. -/
lemma GivesOpen.append {id : Nat} {log es : List PathEvent} (h : GivesOpen id log)
    (hes : ∀ before n stream after, es = before ++ .answered n (.stream stream) :: after →
      stream.path = id ∧ (log ++ before).count .notReady = stream.serial ∧
        (log ++ before).count .ready = stream.serial + 1) : GivesOpen id (log ++ es) := by
  intro before n stream after heq
  rcases List.append_eq_append_iff.1 heq with ⟨middle, rfl, hmiddle⟩ | ⟨middle, rfl, hmiddle⟩
  · exact hes middle n stream after hmiddle
  · cases middle with
    | nil =>
      have hhere := hes [] n stream after hmiddle.symm
      rwa [List.append_nil, List.append_nil] at hhere
    | cons e rest =>
      obtain ⟨rfl, -⟩ := List.cons.inj hmiddle
      exact h before n stream rest rfl

/-- Events that give no stream to anybody. -/
lemma GivesOpen.append_untold {id : Nat} {log es : List PathEvent} (h : GivesOpen id log)
    (hes : ∀ n stream, .answered n (.stream stream) ∉ es) : GivesOpen id (log ++ es) := by
  refine h.append fun before n stream after heq => ?_
  exact absurd (by rw [heq]; simp) (hes n stream)

namespace KeepsStreams

variable {p q : Path} (h : p.KeepsStreams)

include h

/-- **Every change** keeps the agreement. -/
theorem change (hq : PureChange p q) : q.KeepsStreams := by
  have hid := id_of_change hq
  cases streamMove_of_change hq with
  | @stays es hstream hpast hlog hes =>
    have hready : q.isReady = p.isReady := by rw [isReady, isReady, hstream]
    -- only the present stream is given to anybody, and none is opened or closed
    have hcount {e : PathEvent} (he : e.tellsOfStream = true)
        (hne : ∀ n, e ≠ .answered n (.stream p.streamId)) {fs : List PathEvent}
        (hfs : fs ⊆ es) : fs.count e = 0 := by
      refine List.count_eq_zero.2 fun hmem => ?_
      obtain ⟨-, n, heq⟩ := hes e (hfs hmem) he
      exact hne n heq
    refine ⟨?_, ?_, hpast ▸ h.past, hstream ▸ h.present, ?_⟩
    · rw [hlog, List.count_append, hcount rfl (by simp) (List.Subset.refl es), hpast]
      exact h.closed
    · rw [hlog, List.count_append, hcount rfl (by simp) (List.Subset.refl es), hpast, hready]
      exact h.opened
    · rw [hid, hlog]
      refine h.gives.append fun before n stream after heq => ?_
      obtain ⟨hisReady, m, hm⟩ := hes (.answered n (.stream stream)) (by rw [heq]; simp) rfl
      obtain ⟨-, rfl⟩ : n = m ∧ stream = p.streamId := by simpa using hm
      have hbefore : before ⊆ es := by
        rw [heq]
        exact List.subset_append_left ..
      have hopened := h.opened
      rw [hisReady] at hopened
      refine ⟨rfl, ?_, ?_⟩
      · rw [List.count_append, hcount rfl (by simp) hbefore]
        exact h.closed
      · rw [List.count_append, hcount rfl (by simp) hbefore]
        exact hopened
  | @opens s before after hnone hnew hstream hpast hlog hbefore hafter =>
    have hopened := h.opened
    have huntold : p.isReady = false := by simp [isReady, hnone]
    have hready : q.isReady = true := by simp [isReady, hstream]
    rw [huntold] at hopened
    refine ⟨?_, ?_, hpast ▸ h.past, ?_, ?_⟩
    · rw [hlog, List.count_append, List.count_append, List.count_append,
        count_untold hbefore rfl, count_untold hafter rfl, hpast]
      exact h.closed
    · rw [hlog, List.count_append, List.count_append, List.count_append,
        count_untold hbefore rfl, count_untold hafter rfl, hpast, hready, hopened]
      rfl
    · intro t ht
      obtain rfl := Option.some.inj (hstream.symm.trans ht)
      rw [hnew]
    · rw [hid, hlog]
      refine h.gives.append_untold fun n stream hmem => ?_
      simp only [List.mem_append, List.mem_singleton, reduceCtorEq, or_false] at hmem
      rcases hmem with hmem | hmem
      · exact absurd (hbefore _ hmem) (by simp [PathEvent.tellsOfStream])
      · exact absurd (hafter _ hmem) (by simp [PathEvent.tellsOfStream])
  | @closes s before after hstream hnone hpast hlog hbefore hafter =>
    have hopened := h.opened
    have hready : p.isReady = true := by simp [isReady, hstream]
    have hunready : q.isReady = false := by simp [isReady, hnone]
    rw [hready] at hopened
    refine ⟨?_, ?_, ?_, ?_, ?_⟩
    · rw [hlog, List.count_append, List.count_append, List.count_append,
        count_untold hbefore rfl, count_untold hafter rfl, hpast, h.closed, List.length_append]
      rfl
    · rw [hlog, List.count_append, List.count_append, List.count_append,
        count_untold hbefore rfl, count_untold hafter rfl, hpast, hunready, hopened,
        List.length_append]
      rfl
    · rw [hpast]
      exact List.forall_mem_append.2 ⟨h.past, List.forall_mem_singleton.2 rfl⟩
    · simp [hnone]
    · rw [hid, hlog]
      refine h.gives.append_untold fun n stream hmem => ?_
      simp only [List.mem_append, List.mem_singleton, reduceCtorEq, or_false] at hmem
      rcases hmem with hmem | hmem
      · exact absurd (hbefore _ hmem) (by simp [PathEvent.tellsOfStream])
      · exact absurd (hafter _ hmem) (by simp [PathEvent.tellsOfStream])

/-- A stream is written to or has other subscribers. -/
lemma modifyStream (serial : Nat) {f : Stream → Stream} (hf : ∀ s, (f s).closed = s.closed) :
    (p.modifyStream serial f).KeepsStreams := by
  have hpast := closed_modifyStream h.past serial hf
  have hpresent : ∀ s ∈ (p.modifyStream serial f).stream, s.closed = false := by
    unfold Path.modifyStream
    split
    · exact h.present
    · split
      · intro s hs
        obtain ⟨t, ht, rfl⟩ := Option.map_eq_some_iff.1 hs
        exact (hf t).trans (h.present t ht)
      · exact h.present
  obtain ⟨stream, pastStreams, hsome, hlength, heq⟩ := p.modifyStream_eq serial f
  rw [heq] at hpast hpresent ⊢
  refine ⟨?_, ?_, hpast, hpresent, h.gives⟩
  · exact h.closed.trans hlength.symm
  · have hopened := h.opened
    unfold isReady at hopened ⊢
    rwa [hlength, hsome]

/-- **Media acts** keep the agreement. -/
lemma media (m : MediaAct) : (p.media m).KeepsStreams := by
  cases m with
  | write serial u => exact h.modifyStream serial fun s => s.closed_write u
  | subscribe serial => exact h.modifyStream serial Stream.closed_subscribed
  | unsubscribe serial => exact h.modifyStream serial fun _ => rfl
  | segmentCreate segment | segmentComplete segment ms =>
    unfold Path.media
    dsimp only
    split <;> exact ⟨h.closed, h.opened, h.past, h.present, h.gives⟩

end KeepsStreams

/-- **The streams agree with the events** all along a life. -/
theorem Lived.keepsStreams {p : Path} (h : p.Lived) : p.KeepsStreams := by
  refine h.induction (I := KeepsStreams) (fun settings now id name found => ?_)
    (fun p q hchange hp => hp.change hchange) fun p m hp => hp.media m
  have huntold : ∀ e ∈ found.sourceStart name ++ [.init], e.tellsOfStream = false := by
    unfold ConfSet.Found.sourceStart
    refine List.forall_mem_append.2 ⟨?_, List.forall_mem_singleton.2 rfl⟩
    split
    · split <;> simp [PathEvent.tellsOfStream]
    · simp
  rw [create_eq]
  refine ⟨count_untold huntold rfl, count_untold huntold rfl, by simp, by simp, ?_⟩
  intro before n stream after heq
  have hmem : .answered n (.stream stream) ∈ found.sourceStart name ++ [.init] := by
    have hlog : found.sourceStart name ++ [.init] =
        before ++ .answered n (.stream stream) :: after := heq
    rw [hlog]
    simp
  exact absurd (huntold _ hmem) (by simp [PathEvent.tellsOfStream])

namespace KeepsStreams

variable {p : Path} (h : p.KeepsStreams)

include h

/-- A path has had as many streams as it has become ready. -/
lemma isSome_stream?_iff (serial : Nat) :
    (p.stream? serial).isSome = true ↔ serial < p.log.count .ready := by
  have hlength : (p.pastStreams ++ p.stream.toList).length = p.log.count .ready := by
    rw [List.length_append, h.opened, isReady]
    cases p.stream <;> rfl
  simp [stream?, ← hlength]

/-- **A stream is closed** from the end of the readiness on for which it was opened. -/
lemma closed_iff {serial : Nat} {s : Stream} (hs : p.stream? serial = some s) :
    s.closed = true ↔ serial < p.log.count .notReady := by
  rw [h.closed]
  unfold stream? at hs
  by_cases hlt : serial < p.pastStreams.length
  · rw [List.getElem?_append_left hlt] at hs
    exact iff_of_true (h.past s (List.mem_of_getElem? hs)) hlt
  · rw [List.getElem?_append_right (Nat.not_lt.1 hlt)] at hs
    have hopen := h.present s (Option.mem_toList.1 (List.mem_of_getElem? hs))
    exact iff_of_false (by simp [hopen]) hlt

/-- **At most one stream is open**: the present one. -/
lemma eq_present {serial : Nat} {s : Stream} (hs : p.stream? serial = some s)
    (hopen : s.closed = false) : serial = p.streamId.serial ∧ p.stream = some s := by
  have hle : p.pastStreams.length ≤ serial := by
    have hclosed := mt (h.closed_iff hs).2 (by simp [hopen])
    rw [h.closed] at hclosed
    exact Nat.not_lt.1 hclosed
  unfold stream? at hs
  rw [List.getElem?_append_right hle] at hs
  cases hstream : p.stream with
  | none => simp [hstream] at hs
  | some t =>
    rw [hstream, Option.toList_some, List.getElem?_singleton] at hs
    split at hs
    · next hzero =>
      exact ⟨Nat.le_antisymm (Nat.sub_eq_zero_iff_le.1 hzero) hle, hs⟩
    · cases hs

end KeepsStreams

end Path

/-! ## What becomes of a stream by itself -/

/-- **Ageing** of a stream to which nothing is written and to which nobody subscribes: it stays as
it is or is closed; and if there was none, it is new, or it has been closed already. -/
def Stream.Ages : Option Stream → Option Stream → Prop
  | none, none => True
  | none, some s => s.IsNew ∨ s.closed = true
  | some s, some s' => s' = s ∨ s' = s.close
  | some _, none => False

namespace Stream.Ages

variable {o o' o'' : Option Stream}

lemma refl (o : Option Stream) : Ages o o := by
  cases o with
  | none => trivial
  | some s => exact .inl rfl

lemma trans (h : Ages o o') (h' : Ages o' o'') : Ages o o'' := by
  cases o with
  | none =>
    cases o' with
    | none => exact h'
    | some s' =>
      cases o'' with
      | none => exact h'.elim
      | some s'' =>
        rcases h' with rfl | rfl
        · exact h
        · exact .inr rfl
  | some s =>
    cases o' with
    | none => exact h.elim
    | some s' =>
      cases o'' with
      | none => exact h'.elim
      | some s'' =>
        rcases h with rfl | rfl
        · exact h'
        · rcases h' with rfl | rfl <;> exact .inr rfl

end Stream.Ages

namespace Path

/-- **Changes** let all streams age. -/
lemma ages_change {p q : Path} (h : PureChange p q) (serial : Nat) :
    Stream.Ages (p.stream? serial) (q.stream? serial) := by
  unfold stream?
  cases streamMove_of_change h with
  | stays hstream hpast =>
    rw [hstream, hpast]
    exact .refl _
  | @opens s before after hnone hnew hstream hpast =>
    rw [hnone, hstream, hpast, Option.toList_none, Option.toList_some, List.append_nil]
    by_cases hlt : serial < p.pastStreams.length
    · rw [List.getElem?_append_left hlt]
      exact .refl _
    · have hle := Nat.not_lt.1 hlt
      rw [List.getElem?_eq_none hle, List.getElem?_append_right hle, List.getElem?_singleton]
      split
      · exact .inl hnew
      · trivial
  | @closes s before after hstream hnone hpast =>
    rw [hstream, hnone, hpast, Option.toList_none, Option.toList_some, List.append_nil]
    by_cases hlt : serial < p.pastStreams.length
    · rw [List.getElem?_append_left hlt, List.getElem?_append_left hlt]
      exact .refl _
    · have hle := Nat.not_lt.1 hlt
      rw [List.getElem?_append_right hle, List.getElem?_append_right hle, List.getElem?_singleton,
        List.getElem?_singleton]
      split
      · exact .inr rfl
      · trivial

/-- **Sequences of changes** let all streams age. -/
theorem ages_changes {p q : Path} (h : PureChanges p q) (serial : Nat) :
    Stream.Ages (p.stream? serial) (q.stream? serial) := by
  induction h with
  | refl => exact .refl _
  | tail _ hchange ih => exact ih.trans (ages_change hchange serial)

lemma id_of_changes {p q : Path} (h : PureChanges p q) : q.id = p.id := by
  induction h with
  | refl => rfl
  | tail _ hchange ih => exact (id_of_change hchange).trans ih

/-! ## What is done with a stream -/

/-- Nothing happens if nothing is done with a stream. -/
lemma modifyStream_self (p : Path) (serial : Nat) : (p.modifyStream serial fun s => s) = p := by
  unfold modifyStream
  split
  · have hsame : (p.pastStreams.modify serial fun s => s) = p.pastStreams :=
      List.ext_getElem? fun i => by simp [List.getElem?_modify]
    rw [hsame]
  · split
    · rw [Option.map_id']
    · rfl

/-- **What is done with one stream** concerns no other one. -/
theorem stream?_modifyStream (p : Path) (serial : Nat) (f : Stream → Stream) (other : Nat) :
    (p.modifyStream serial f).stream? other =
      if serial = other then (p.stream? other).map f else p.stream? other := by
  unfold modifyStream
  split
  · next hlt =>
    unfold stream?
    by_cases hother : other < p.pastStreams.length
    · rw [List.getElem?_append_left (by simpa using hother), List.getElem?_append_left hother,
        List.getElem?_modify]
      split <;> simp
    · have hle := Nat.not_lt.1 hother
      rw [if_neg (by omega), List.getElem?_append_right (by simpa using hle),
        List.getElem?_append_right hle, List.length_modify]
  · split
    · next hserial =>
      unfold stream?
      by_cases hother : other < p.pastStreams.length
      · rw [if_neg (by omega), List.getElem?_append_left hother, List.getElem?_append_left hother]
      · have hle := Nat.not_lt.1 hother
        rw [List.getElem?_append_right hle, List.getElem?_append_right hle]
        cases p.stream with
        | none => simp
        | some s =>
          simp only [Option.map_some, Option.toList_some, List.getElem?_singleton]
          split
          · rw [if_pos (by omega)]
            rfl
          · rw [if_neg (by omega)]
    · next hlt hne =>
      split
      · next hsame =>
        have hlength : p.pastStreams.length + p.stream.toList.length ≤ other := by
          cases p.stream <;> simp <;> omega
        have hnone : p.stream? other = none := by
          rw [stream?, List.getElem?_eq_none]
          rwa [List.length_append]
        rw [hnone]
        rfl
      · rfl

end Path

end LivePaths
