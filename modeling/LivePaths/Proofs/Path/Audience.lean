import LivePaths.Proofs.Conf.HotReload
import LivePaths.Proofs.Path.Changes
import LivePaths.Proofs.Path.Ledger

set_option relaxedAutoImplicit false
set_option autoImplicit false

/-!
# The audience of a path

Readers come to a ready path one by one or are released together after waiting, and leave by
themselves or because the path ceases to be ready. However they do, no reader is attached twice, and
there are never more of them than the configuration allows, which no new configuration can change.

## Main definitions

* `PathEvent.turnsAway` — a reader is told that there are too many.
* `Path.Bounded` — the readers of a path keep to the limit.

## Main results

* `Path.Change.attach_or_shrinks` — only attaching one adds a reader or turns one away.
* `Path.Bounded.change` — every change keeps the readers within the limit.
* `Path.Reached.readers_within_limit` — the readers in all states that can be reached.
-/

namespace LivePaths

/-- **Turning away**: somebody is told that there are too many readers. -/
def PathEvent.turnsAway : PathEvent → Bool
  | .answered _ (.refused (.maxReadersReached _)) => true
  | _ => false

/-- What runs on demand turns nobody away. -/
lemma PathEvent.turnsAway_of_isDriving {e : PathEvent} (h : e.isDriving = true) :
    e.turnsAway = false := by
  cases e <;> simp_all [isDriving, turnsAway]

namespace Path

variable {p q : Path}

/-- **Bounded readers**: nobody reads twice, there are not more readers than the configuration
allows, and nobody has been turned away if it allows any number. -/
structure Bounded (p : Path) : Prop where
  nodup : p.readers.Nodup
  le_max : p.conf.maxReaders ≠ 0 → p.readers.length ≤ p.conf.maxReaders
  unlimited : p.conf.maxReaders = 0 → ∀ e ∈ p.log, e.turnsAway = false

/-! ## Attaching a reader -/

/-- A reader is too many if the limit is reached. -/
lemma isFull_iff (p : Path) :
    p.isFull = true ↔ p.conf.maxReaders ≠ 0 ∧ p.conf.maxReaders ≤ p.readers.length := by
  simp [isFull]

/-- **A reader who comes to a ready path** gets the stream if it is attached already, is turned away
if there are too many, and is taken in otherwise. -/
lemma attach_of_ready (hready : p.isReady = true) (n : Nat) (client : Client) :
    p.attach n client =
      if client ∈ p.readers then p.answer n (.stream p.streamId)
      else if p.isFull then p.answer n (.refused (.maxReadersReached p.name))
      else (p.takeIn [client]).answer n (.stream p.streamId) := by
  unfold attach
  rw [if_neg (by simp [hready])]
  simp [takeIn, noteReaderAttached, streamId]

/-! ## Changes of the readers -/

/-- **Shrinking**: no reader has come and nobody was turned away under the same limit. -/
structure Shrinks (p q : Path) : Prop where
  readers : q.readers.Sublist p.readers
  limit : q.conf.maxReaders = p.conf.maxReaders
  log : ∃ es, q.log = p.log ++ es ∧ ∀ e ∈ es, e.turnsAway = false

namespace Shrinks

/-- Changes that keep the readers and the configuration. -/
lemma of_same (hreaders : q.readers = p.readers) (hconf : q.conf = p.conf) {es : List PathEvent}
    (hlog : q.log = p.log ++ es) (hes : ∀ e ∈ es, e.turnsAway = false) : Shrinks p q :=
  ⟨hreaders ▸ List.Sublist.refl _, by rw [hconf], es, hlog, hes⟩

lemma silently (hreaders : q.readers = p.readers) (hconf : q.conf = p.conf)
    (hlog : q.log = p.log) : Shrinks p q :=
  of_same hreaders hconf (hlog.trans (List.append_nil _).symm) (by simp)

/-- Becoming ready brings nobody. -/
lemma becomeReady (p : Path) (s : Stream) : Shrinks p (p.becomeReady s) := by
  have hlog := p.log_becomeReady s
  rw [becomeReady_eq] at hlog ⊢
  exact of_same rfl rfl hlog
    (p.forall_readyEvents (P := (·.turnsAway = false)) (fun _ => rfl) rfl rfl s)

/-- Ceasing to be ready disconnects everybody. -/
lemma becomeUnready {s : Stream} (hstream : p.stream = some s) : Shrinks p p.becomeUnready := by
  have hlog := p.log_becomeUnready hstream
  rw [becomeUnready_eq p hstream] at hlog ⊢
  exact ⟨List.nil_sublist _, rfl, _, hlog,
    p.forall_unreadyEvents rfl (fun _ => rfl) rfl fun _ => rfl⟩

/-- A new configuration has the same limit. -/
lemma reload {c : Conf} (hc : p.conf.canHotReload c = true) : Shrinks p (p.reload c) := by
  rw [reload_eq]
  refine ⟨List.Sublist.refl _, Conf.maxReaders_of_canHotReload hc, _, List.append_assoc .., ?_⟩
  exact List.forall_mem_append.2
    ⟨p.forall_sourceCall rfl, p.forall_recordingChange c (fun _ => rfl) fun _ => rfl⟩

/-- The beginning of the end leaves the readers to the loss of the stream. -/
lemma beginEnd (p : Path) (silent : Bool) : Shrinks p { p with ended := silent }.beginEnd := by
  exact of_same rfl rfl (log_beginEnd _) (forall_endEvents _ rfl rfl fun _ => rfl)

end Shrinks

/-- **Only attaching one** adds a reader or turns one away. -/
theorem Change.attach_or_shrinks {Came : PathMessage → Prop} (h : Change Came p q) :
    (∃ n client, p.isReady = true ∧ q = p.attach n client) ∨ Shrinks p q := by
  cases h with
  | drive h =>
    obtain ⟨es, hes, heq⟩ := h.eq
    rw [heq]
    exact .inr (.of_same rfl rfl rfl fun e he => PathEvent.turnsAway_of_isDriving (hes e he))
  | goOn h =>
    rw [h.same]
    exact .inr (.silently rfl rfl rfl)
  | answer n hlive ha =>
    refine .inr (.of_same rfl rfl rfl ?_)
    cases ha with
    | stream _ | redirect _ => simp [PathEvent.turnsAway]
    | @refused e hne => cases e <;> simp_all [PathEvent.turnsAway]
  | holdDescribe n query hlive hready hm => exact .inr (.silently rfl rfl rfl)
  | holdReader n client query hlive hready hm => exact .inr (.silently rfl rfl rfl)
  | abandon n hlive => exact .inr (.silently rfl rfl rfl)
  | attach n client hlive hready hm => exact .inl ⟨n, client, hready, rfl⟩
  | clear hlive hready => exact .inr (.silently rfl rfl rfl)
  | failHeld hlive =>
    rw [failHeld_eq]
    exact .inr (.of_same rfl rfl rfl (by simp [answerEvents, PathEvent.turnsAway]))
  | removeReader client hlive =>
    rw [removeReader_eq]
    exact .inr ⟨List.filter_sublist, rfl, [], by simp, by simp⟩
  | becomeReady s hlive hstream hd => exact .inr (.becomeReady p s)
  | becomeUnready hstream => exact .inr (.becomeUnready hstream)
  | evict client hlive hclient =>
    exact .inr (.of_same rfl rfl rfl (by simp [PathEvent.turnsAway]))
  | vacate client hlive hclient hstream => exact .inr (.silently rfl rfl rfl)
  | occupy n client d rtp query expected hlive hsource hstream hm =>
    exact .inr (.silently rfl rfl rfl)
  | reload c hlive hc => exact .inr (.reload hc)
  | beginEnd hlive silent => exact .inr (.beginEnd p silent)
  | releaseSource hended hstream =>
    rw [releaseSource_eq]
    exact .inr (.of_same rfl rfl rfl (p.forall_sourceRelease (fun _ => rfl) fun _ => rfl))

/-! ## Within the limit -/

namespace Bounded

/-- Nobody reads from a new path. -/
lemma create (settings : PathSettings) (now id : Nat) (name : String) (found : ConfSet.Found) :
    (create settings now id name found).Bounded := by
  rw [create_eq]
  refine ⟨List.nodup_nil, fun _ => Nat.zero_le _, fun _ => ?_⟩
  unfold ConfSet.Found.sourceStart
  split
  · split <;> simp [PathEvent.turnsAway]
  · simp [PathEvent.turnsAway]

variable (h : p.Bounded)

include h

/-- Whoever leaves makes room. -/
lemma shrinks (hq : Shrinks p q) : q.Bounded := by
  obtain ⟨hreaders, hlimit, es, hlog, hes⟩ := hq
  refine ⟨hreaders.nodup h.nodup, fun hmax => ?_, fun hmax => ?_⟩
  · rw [hlimit] at hmax ⊢
    exact Nat.le_trans hreaders.length_le (h.le_max hmax)
  · rw [hlog]
    exact List.forall_mem_append.2 ⟨h.unlimited (hlimit ▸ hmax), hes⟩

/-- An answer that turns nobody away, or does so under a limit. -/
lemma answer {n : Nat} {a : Answer}
    (ha : p.conf.maxReaders = 0 → (PathEvent.answered n a).turnsAway = false) :
    (p.answer n a).Bounded := by
  refine ⟨h.nodup, h.le_max, fun hmax => ?_⟩
  exact List.forall_mem_append.2 ⟨h.unlimited hmax, by simpa using ha hmax⟩

/-- **A reader comes**: there is room, or it is not taken in. -/
lemma attach (hready : p.isReady = true) (n : Nat) (client : Client) :
    (p.attach n client).Bounded := by
  rw [attach_of_ready hready]
  split
  · exact h.answer fun _ => rfl
  · next hnew =>
    split
    · next hfull => exact h.answer fun hmax => absurd hmax (p.isFull_iff.1 hfull).1
    · next hroom =>
      rw [isFull_iff] at hroom
      have htaken : (p.takeIn [client]).Bounded := by
        refine ⟨?_, fun hmax => ?_, h.unlimited⟩
        · exact List.nodup_append.2 ⟨h.nodup, by simp, by
            rintro a ha b hb rfl
            exact hnew (List.mem_singleton.1 hb ▸ ha)⟩
        · have hlt : p.readers.length + 1 ≤ p.conf.maxReaders :=
            Nat.lt_of_not_le fun hle => hroom ⟨hmax, hle⟩
          simpa [takeIn] using hlt
      exact htaken.answer fun _ => rfl

/-- **Every change** keeps the readers within the limit. -/
lemma change {Came : PathMessage → Prop} (hq : Change Came p q) : q.Bounded := by
  obtain ⟨n, client, hready, rfl⟩ | hshrinks := hq.attach_or_shrinks
  · exact h.attach hready n client
  · exact h.shrinks hshrinks

/-- On a ready path the limit is reached exactly if there are as many readers as it allows. -/
lemma isFull_iff_eq :
    p.isFull = true ↔ p.conf.maxReaders ≠ 0 ∧ p.readers.length = p.conf.maxReaders := by
  rw [isFull_iff]
  refine and_congr_right fun hmax => ⟨fun hle => ?_, fun heq => Nat.le_of_eq heq.symm⟩
  exact Nat.le_antisymm (h.le_max hmax) hle

end Bounded

/-- **Every reached state** keeps to the limit. -/
lemma Reached.bounded (h : p.Reached) : p.Bounded :=
  h.induction Bounded.create fun _ _ hchange hp => hp.change hchange

/-! ## What can be relied on -/

/-- A ready path is in use, so that a request to read does not end it. -/
lemma receive_addReader (h : p.Reached) (hlive : p.ended = false) (hready : p.isReady = true)
    (n : Nat) (client : Client) (query : String) :
    p.receive (.addReader n client query) = p.attach n client := by
  have hsource := (h.orderly.live hlive).coherent.isSome_source hready
  have hattached : (p.attach n client).source.isSome = true := by
    obtain ⟨cs, a, -, heq⟩ := p.attach_eq hready n client
    rw [heq]
    exact hsource
  unfold receive
  rw [if_neg (by simp [hlive])]
  simp only [addReader, hready, ↓reduceIte]
  exact closeIfUnused_of_source hattached

/-- **Readers keep to the limit** in every reached state of a live path: nobody is attached twice,
and there are at most as many readers as the configuration allows. Under no limit nobody has ever
been turned away. A reader who comes while the path is ready is told that there are too many, which
changes nothing else, exactly if it is not attached yet and the limit is reached; else it gets the
stream and is attached. After an attached reader has left, the next new one is attached.

**Proof sketch.** Of all changes only attaching a reader adds one, and it does so below the limit
only. The limit itself is nothing that a running path picks up from a new configuration. -/
theorem Reached.readers_within_limit (h : p.Reached) (hlive : p.ended = false) :
    p.readers.Nodup ∧
    (p.conf.maxReaders ≠ 0 → p.readers.length ≤ p.conf.maxReaders) ∧
    (p.conf.maxReaders = 0 →
      ∀ n name, .answered n (.refused (.maxReadersReached name)) ∉ p.log) ∧
    (p.isReady = true → ∀ n client query,
      p.receive (.addReader n client query) =
        if client ∈ p.readers then p.answer n (.stream p.streamId)
        else if p.conf.maxReaders ≠ 0 ∧ p.readers.length = p.conf.maxReaders then
          p.answer n (.refused (.maxReadersReached p.name))
        else (p.takeIn [client]).answer n (.stream p.streamId)) ∧
    (p.isReady = true → ∀ gone ∈ p.readers, ∀ n client query,
      client ∉ (p.receive (.removeReader gone)).readers →
        (p.receive (.removeReader gone)).receive (.addReader n client query) =
          ((p.receive (.removeReader gone)).takeIn [client]).answer n (.stream p.streamId)) := by
  have hb := h.bounded
  refine ⟨hb.nodup, hb.le_max, fun hmax n name hmem => ?_, fun hready n client query => ?_,
    fun hready gone hgone n client query hnew => ?_⟩
  · simpa [PathEvent.turnsAway] using hb.unlimited hmax _ hmem
  · rw [receive_addReader h hlive hready, attach_of_ready hready]
    simp only [hb.isFull_iff_eq]
  · have hleft : p.receive (.removeReader gone) = p.removeReader gone := by simp [receive, hlive]
    have hreached : (p.removeReader gone).Reached :=
      hleft ▸ h.step (s := .message (.removeReader gone)) (by simp [Permits, PathMessage.isReport])
    rw [hleft] at hnew ⊢
    have hroom : ¬ (p.removeReader gone).isFull = true := by
      rw [isFull_iff, removeReader_eq]
      rintro ⟨hmax, hle⟩
      have hlt : (p.readers.filter (· ≠ gone)).length < p.readers.length :=
        List.length_filter_lt_length_iff_exists.2 ⟨gone, hgone, by simp⟩
      exact absurd (Nat.lt_of_le_of_lt hle hlt) (Nat.not_lt.2 (hb.le_max hmax))
    have hready' : (p.removeReader gone).isReady = true := by
      rw [removeReader_eq]
      exact hready
    have hid : (p.removeReader gone).streamId = p.streamId := by
      rw [removeReader_eq]
      rfl
    rw [receive_addReader hreached ((p.proceeds_removeReader gone).ended.trans hlive) hready',
      attach_of_ready hready', if_neg hnew, if_neg hroom, hid]

/-- A configuration under which two readers at most can read what somebody publishes. -/
def readByTwo : ConfSet.Found where
  conf := { name := "cam", maxReaders := 2 }
  captures := []

/-- Somebody publishes, and two readers read. -/
def readTwice : Path :=
  (create {} 0 1 "cam" readByTwo).run
    [.message (.addPublisher 0 ⟨0, ⟨"rtspSession", "a"⟩⟩ ⟨[⟨.video, "H264"⟩]⟩ false "" none),
      .message (.addReader 1 ⟨1, ⟨"rtspSession", "b"⟩⟩ ""),
      .message (.addReader 2 ⟨2, ⟨"rtspSession", "c"⟩⟩ "")]

/-- A third reader, who describes itself as the first one does, is turned away, but is attached
after the first one has left. -/
theorem readers_readTwice :
    readTwice.Reached ∧ readTwice.ended = false ∧ readTwice.isReady = true ∧
      readTwice.readers.length = 2 ∧
      readTwice.receive (.addReader 3 ⟨3, ⟨"rtspSession", "b"⟩⟩ "") =
        readTwice.answer 3 (.refused (.maxReadersReached "cam")) ∧
      ((readTwice.receive (.removeReader ⟨1, ⟨"rtspSession", "b"⟩⟩)).receive
        (.addReader 4 ⟨3, ⟨"rtspSession", "b"⟩⟩ "")).readers =
          [⟨2, ⟨"rtspSession", "c"⟩⟩, ⟨3, ⟨"rtspSession", "b"⟩⟩] := by
  have hreached : readTwice.Reached := Reached.run (.create {} 0 1 "cam" readByTwo) (by decide)
  have hlive : readTwice.ended = false := by decide
  have hready : readTwice.isReady = true := by decide
  obtain ⟨-, -, -, hcomes, hleaves⟩ := hreached.readers_within_limit hlive
  have hleft := hleaves hready ⟨1, ⟨"rtspSession", "b"⟩⟩ (by decide) 4
    ⟨3, ⟨"rtspSession", "b"⟩⟩ "" (by decide)
  refine ⟨hreached, hlive, hready, by decide, ?_, ?_⟩
  · rw [hcomes hready, if_neg (by decide), if_pos (by decide)]
    exact congrArg (fun name => readTwice.answer 3 (.refused (.maxReadersReached name))) (by decide)
  · rw [hleft]
    decide

end Path

end LivePaths
