import Mathlib.Data.List.Induction
import LivePaths.Proofs.Path.Destruction

set_option relaxedAutoImplicit false
set_option autoImplicit false

/-!
# The release of those who wait

When a path becomes ready, all who wait are served in the order in which they came. Each reader who
comes to his turn is attached already, finds room, or finds that there are too many; so the first
ones of the different readers are attached, as many as the configuration allows, and whoever is one
of them gets the stream, however often he asks.

## Main definitions

* `Path.seat`, `Path.seating` — who is attached when readers come one after another.
* `Path.openDescribes`, `Path.openReaders` — who waits and has not given up.
* `Path.releaseAnswers` — what they are answered.
* `Path.serve`, `Path.ServesHeld` — the release, after which the one is answered who made the path
  ready.

## Main results

* `Path.seating_eq` — the first ones of different readers are attached, as many as there may be.
* `Path.releaseHeld_eq_takeIn` — everything that the release does.
* `Path.serve_eq`, `Path.servesHeld_serve` — what a path serves that has just become ready.
-/

namespace LivePaths

namespace Path

/-! ## Readers in a row -/

/-- **Admission** of a reader who comes after others, under a limit that is none if it is 0. -/
def seat (limit : Nat) (readers : List Client) (client : Client) : List Client :=
  if client ∈ readers ∨ limit ≠ 0 ∧ limit ≤ readers.length then readers else readers ++ [client]

/-- **The seating** after some readers have come one after another. -/
def seating (limit : Nat) (readers clients : List Client) : List Client :=
  clients.foldl (seat limit) readers

section Seating

variable {limit : Nat} {readers : List Client}

/-- Where there are too many, nobody is attached any more. -/
lemma seating_of_full (hfull : limit ≠ 0 ∧ limit ≤ readers.length) (clients : List Client) :
    seating limit readers clients = readers :=
  have hfixed (c : Client) : seat limit readers c = readers := if_pos (.inr hfull)
  List.foldl_fixed' hfixed clients

/-- **Nobody is there at first**: the first ones of different readers are attached, as many as the
limit allows.

**Proof sketch.** Induction on the readers from the last one on. If he came before, he is attached,
or the limit was reached already; if he is new, he is attached unless the limit was reached. -/
theorem seating_eq (limit : Nat) (clients : List Client) :
    seating limit [] clients =
      if limit = 0 then clients.eraseDups else clients.eraseDups.take limit := by
  induction clients using List.reverseRecOn with
  | nil => simp [seating]
  | append_singleton before c ih =>
    have hnext : seating limit [] (before ++ [c]) = seat limit (seating limit [] before) c :=
      List.foldl_concat ..
    have hdups : (before ++ [c]).eraseDups =
        before.eraseDups ++ if c ∈ before then [] else [c] := by
      rw [List.eraseDups_append]
      by_cases hc : c ∈ before <;> simp [List.removeAll, hc, List.eraseDups_cons]
    rw [hnext, ih, hdups]
    unfold seat
    by_cases hzero : limit = 0
    · by_cases hc : c ∈ before <;> simp [hzero, hc]
    · simp only [hzero, ↓reduceIte, ne_eq, not_false_eq_true, true_and]
      by_cases hfull : limit ≤ (before.eraseDups.take limit).length
      · have hlen : limit ≤ before.eraseDups.length :=
          Nat.le_trans hfull (List.length_take_le' ..)
        rw [if_pos (.inr hfull), List.take_append_of_le_length hlen]
      · have hlen : before.eraseDups.length < limit := by
          simp only [List.length_take] at hfull
          omega
        rw [List.take_of_length_le (Nat.le_of_lt hlen)]
        by_cases hc : c ∈ before
        · simp [hc, List.take_of_length_le (Nat.le_of_lt hlen)]
        · have hroom : ¬ limit ≤ before.eraseDups.length := Nat.not_le.2 hlen
          have hall : (before.eraseDups ++ [c]).length ≤ limit := by
            simpa using Nat.succ_le_of_lt hlen
          simp [hc, hroom, List.take_of_length_le hall]

end Seating

/-! ## Who waits -/

/-- Those who wait for the description and have not given up, in the order in which they came. -/
def openDescribes (p : Path) : List HeldDescribe := p.heldDescribes.filter fun h => !h.abandoned

/-- Those who wait to read and have not given up, in the order in which they came. -/
def openReaders (p : Path) : List HeldReader := p.heldReaders.filter fun h => !h.abandoned

/-- **Who reads after the release.** -/
def seated (p : Path) : List Client :=
  seating p.conf.maxReaders p.readers (p.openReaders.map (·.client))

/-- **The answers of the release**: whoever wants to know the stream is told, and so is every reader
who is attached then; there are too many for the others. -/
def releaseAnswers (p : Path) : List (Nat × Answer) :=
  p.openDescribes.map (fun h => (h.request, .stream p.streamId)) ++
    p.openReaders.map fun h => (h.request,
      if h.client ∈ p.seated then .stream p.streamId
      else .refused (.maxReadersReached p.name))

/-! ## The release -/

/-- **Readers who come one after another** to a ready path.

**Proof sketch.** Induction on the readers. One who is attached stays so, and one who is turned away
meets a limit that is reached, so that he is not among those who are attached in the end either. -/
lemma foldl_attach_eq (hs : List HeldReader) (p : Path) (hready : p.isReady = true) :
    ∃ cs, seating p.conf.maxReaders p.readers (hs.map (·.client)) = p.readers ++ cs ∧
      hs.foldl (fun p h => p.attach h.request h.client) p =
        { p.takeIn cs with
          log := p.log ++ answerEvents (hs.map fun h => (h.request,
            if h.client ∈ p.readers ++ cs then .stream p.streamId
            else .refused (.maxReadersReached p.name))) } := by
  induction hs generalizing p with
  | nil => exact ⟨[], by simp [seating], by simp [answerEvents]⟩
  | cons h rest ih =>
    rw [List.foldl_cons, List.map_cons, attach_of_ready hready]
    by_cases hmem : h.client ∈ p.readers
    · -- he is attached already
      obtain ⟨cs, hseating, hfold⟩ := ih (p.answer h.request (.stream p.streamId)) hready
      refine ⟨cs, ?_, ?_⟩
      · have hseat : seat p.conf.maxReaders p.readers h.client = p.readers := if_pos (.inl hmem)
        exact (congrArg (List.foldl _ · _) hseat).trans hseating
      · rw [if_pos hmem, hfold]
        simp [answer, emit, takeIn, answerEvents, hmem, streamId]
    · by_cases hfull : p.isFull = true
      · -- nobody is attached any more
        have hlimit := p.isFull_iff.1 hfull
        obtain ⟨cs, hseating, hfold⟩ :=
          ih (p.answer h.request (.refused (.maxReadersReached p.name))) hready
        have hnone : cs = [] := by
          have hfixed := seating_of_full hlimit (rest.map (·.client))
          exact List.append_right_eq_self.1 (hseating.symm.trans hfixed)
        subst hnone
        refine ⟨[], ?_, ?_⟩
        · rw [List.append_nil]
          exact seating_of_full hlimit _
        · rw [if_neg hmem, if_pos hfull, hfold]
          simp [answer, emit, takeIn, answerEvents, hmem, streamId]
      · -- he is attached now
        obtain ⟨cs, hseating, hfold⟩ :=
          ih ((p.takeIn [h.client]).answer h.request (.stream p.streamId)) hready
        have hroom : ¬ (p.conf.maxReaders ≠ 0 ∧ p.conf.maxReaders ≤ p.readers.length) :=
          mt p.isFull_iff.2 hfull
        refine ⟨h.client :: cs, ?_, ?_⟩
        · have hseat : seat p.conf.maxReaders p.readers h.client = p.readers ++ [h.client] :=
            if_neg (by simp only [not_or]; exact ⟨hmem, hroom⟩)
          refine (congrArg (List.foldl _ · _) hseat).trans (hseating.trans ?_)
          simp [answer, emit, takeIn]
        · have htaken : p.takeIn (h.client :: cs) = (p.takeIn [h.client]).takeIn cs :=
            (takeIn_takeIn p [h.client] cs).symm
          rw [if_neg hmem, if_neg hfull, hfold, htaken]
          simp [answer, emit, takeIn, answerEvents, streamId]

/-- **Everything that the release does**: the readers who find room are attached, nothing is held
any more, and whoever waits gets the answer that is due to him. -/
theorem releaseHeld_eq_takeIn (p : Path) (hready : p.isReady = true) :
    ∃ cs, p.seated = p.readers ++ cs ∧
      p.releaseHeld =
        { p.takeIn cs with
          heldDescribes := []
          heldReaders := []
          log := p.log ++ answerEvents p.releaseAnswers } := by
  have hdescribed := foldl_answerHeld HeldDescribe.request HeldDescribe.abandoned Answer.stream
    p.heldDescribes p
  set told : List (Nat × Answer) :=
    p.openDescribes.map fun h => (h.request, .stream p.streamId) with htold
  obtain ⟨cs, hseated, hfold⟩ := foldl_attach_eq p.openReaders
    { p with log := p.log ++ answerEvents told, heldDescribes := [], heldReaders := [] } hready
  refine ⟨cs, hseated, ?_⟩
  unfold releaseHeld
  simp only [hready, ↓reduceIte, hdescribed]
  refine hfold.trans ?_
  have hseated' : p.seated = p.readers ++ cs := hseated
  simp [takeIn, answerEvents, releaseAnswers, hseated', streamId, told]

/-! ## Service -/

/-- The answers that are written down are those that were given. -/
lemma filterMap_answer?_answerEvents (answers : List (Nat × Answer)) :
    (answerEvents answers).filterMap PathEvent.answer? = answers := by
  simp [answerEvents, PathEvent.answer?, Function.comp_def]

/-- **Service** by a path that has just become ready: those who wait are released, and then the one
who made it ready is answered. -/
def serve (p : Path) (request : Nat) : Path :=
  p.releaseHeld.answer request (.stream p.releaseHeld.streamId)

/-- **Everything that is served** if nobody has read so far. -/
lemma serve_eq {p : Path} (hready : p.isReady = true) (hnobody : p.readers = []) (n : Nat) :
    p.serve n =
      { p.takeIn p.seated with
        heldDescribes := []
        heldReaders := []
        log := p.log ++ answerEvents (p.releaseAnswers ++ [(n, .stream p.streamId)]) } := by
  obtain ⟨cs, hseated, hserved⟩ := p.releaseHeld_eq_takeIn hready
  rw [hnobody, List.nil_append] at hseated
  unfold serve
  rw [hserved, hseated]
  simp [answer, emit, answerEvents, takeIn, streamId]

/-- **All who wait are served** between two states. Nothing is held any more: whoever has waited is
answered, first those who want to know the stream, then the readers, each group in the order in
which they came. The first different ones of the readers are attached, as many as there may be, and
whoever is attached gets the stream; there are too many for the others. The one who made the path
ready is answered at the end. -/
structure ServesHeld (p : Path) (request : Nat) (q : Path) : Prop where
  held : q.holdsRequests = false
  readers : q.readers = seating p.conf.maxReaders [] (p.openReaders.map (·.client))
  answers : (p.logSince q).filterMap PathEvent.answer? =
    p.openDescribes.map (fun h => (h.request, .stream q.streamId)) ++
      p.openReaders.map (fun h => (h.request,
        if h.client ∈ q.readers then .stream q.streamId
        else .refused (.maxReadersReached p.name))) ++
      [(request, .stream q.streamId)]

/-- A path where the same requests are held has become ready, without an answer so far: then all who
wait are served. -/
lemma servesHeld_serve {p r : Path} (hready : r.isReady = true) (hnobody : r.readers = [])
    (hname : r.name = p.name) (hconf : r.conf = p.conf)
    (hheld : r.heldDescribes = p.heldDescribes ∧ r.heldReaders = p.heldReaders)
    {es : List PathEvent} (hlog : r.log = p.log ++ es) (hes : ∀ e ∈ es, e.answer? = none)
    (n : Nat) : p.ServesHeld n (r.serve n) := by
  have hserved := serve_eq hready hnobody n
  have hdescribes : r.openDescribes = p.openDescribes := by rw [openDescribes, hheld.1]; rfl
  have hreaders : r.openReaders = p.openReaders := by rw [openReaders, hheld.2]; rfl
  have hseated : (r.serve n).readers = r.seated := by
    rw [hserved]
    simp [takeIn, hnobody]
  have hid : (r.serve n).streamId = r.streamId := by
    rw [hserved]
    rfl
  have hsince : p.logSince (r.serve n) =
      es ++ answerEvents (r.releaseAnswers ++ [(n, .stream r.streamId)]) := by
    rw [hserved]
    simp [logSince, hlog]
  refine ⟨?_, ?_, ?_⟩
  · rw [hserved]
    rfl
  · rw [hseated, seated, hnobody, hconf, hreaders]
  · rw [hsince, List.filterMap_append, List.filterMap_eq_nil_iff.2 hes, List.nil_append,
      filterMap_answer?_answerEvents, hid, hseated, releaseAnswers, hdescribes, hreaders, hname]

end Path

end LivePaths
