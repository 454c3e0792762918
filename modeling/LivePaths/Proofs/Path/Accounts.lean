import Mathlib.Data.List.Count
import Mathlib.Data.List.Nodup
import LivePaths.Proofs.Path.Partings

set_option relaxedAutoImplicit false
set_option autoImplicit false

/-!
# The accounts of clients

Over the whole life of a path each client has an account: when it was attached to which stream, and
how each of its attachments ended. Nobody is attached twice at a time, no attachment is forgotten or
ended twice, and nobody is disconnected who is not attached.

## Main definitions

* `Turn`, `Account` — what happens to a client, and turns that follow each other as they should.
* `Path.attachedTo` — to which of the streams of a path a client is attached.
* `Path.turns`, `Path.account` — what happens to a client in an episode and in a life.

## Main results

* `Path.account_turns` — the turns of an episode lead from one attachment to the next.
* `Path.account_of_life` — the accounts of all clients of a path, over its whole life.
-/

namespace LivePaths

/-! ## Accounts -/

/-- **Turns** of a client: it is attached to the stream at a place among all streams of the path,
it leaves, or it is disconnected. -/
inductive Turn where
  | attached (serial : Nat)
  | left
  | closed
  deriving DecidableEq, Repr

/-- **Accounts**: turns that lead from one attachment to another. A client is attached only while it
is not, and it leaves or is disconnected only while it is attached. -/
inductive Account : Option Nat → List Turn → Option Nat → Prop where
  | nil (a : Option Nat) : Account a [] a
  | attached {serial : Nat} {ts : List Turn} {a : Option Nat} (h : Account (some serial) ts a) :
      Account none (.attached serial :: ts) a
  | left {serial : Nat} {ts : List Turn} {a : Option Nat} (h : Account none ts a) :
      Account (some serial) (.left :: ts) a
  | closed {serial : Nat} {ts : List Turn} {a : Option Nat} (h : Account none ts a) :
      Account (some serial) (.closed :: ts) a

namespace Account

/-- One account after another. -/
lemma append {a b c : Option Nat} {ts us : List Turn} (h : Account a ts b) (h' : Account b us c) :
    Account a (ts ++ us) c := by
  induction h with
  | nil => exact h'
  | attached _ ih => exact .attached (ih h')
  | left _ ih => exact .left (ih h')
  | closed _ ih => exact .closed (ih h')

/-- Whoever is not attached may be attached. -/
lemma attach (a : Option Nat) : Account none (a.toList.map .attached) a := by
  cases a with
  | none => exact .nil none
  | some serial => exact .attached (.nil _)

end Account

namespace Path

/-! ## Attachments -/

/-- **Attachment** of a client to the present stream, told by its place among all streams. -/
def attachedTo (p : Path) (k : Party) : Option Nat :=
  if p.HasClient k then some p.pastStreams.length else none

/-- **The turns of a client** in an episode. -/
def turns (k : Party) (p : Path) (a : PathAct) : List Turn :=
  (if p.HasClient k ∧ a.leaving? = some k then [.left] else []) ++
    List.replicate ((p.closings (p.act a)).count k) .closed ++
    if (p.act a).attachedTo k = p.attachedTo k then []
    else ((p.act a).attachedTo k).toList.map .attached

/-- **The account of a client** over a part of a life. -/
def account (k : Party) (p : Path) (as : List PathAct) : List Turn :=
  (p.episodes as).flatMap fun e => e.1.turns k e.2

/-! ## Turns -/

/-- Whoever is disconnected by an act has not left by it. -/
lemma Evicts.leaving?_ne {p : Path} {a : PathAct} {k : Party} (h : p.Evicts a k) :
    a.leaving? ≠ some k := by
  intro hleaves
  unfold PathAct.leaving? at hleaves
  split at hleaves
  · obtain rfl := Option.some.inj hleaves
    exact h
  · obtain rfl := Option.some.inj hleaves
    exact h
  · cases hleaves

lemma attachedTo_of_hasClient {p : Path} {k : Party} (h : p.HasClient k) :
    p.attachedTo k = some p.pastStreams.length :=
  if_pos h

lemma attachedTo_eq_none {p : Path} {k : Party} : p.attachedTo k = none ↔ ¬ p.HasClient k := by
  simp [attachedTo]

namespace Parting

variable {p q : Path} {a : PathAct} (h : Parting p a q) {k : Party}

include h

/-- **Whoever may stay** remains attached to the same stream. -/
lemma attachedTo_eq (hk : p.HasClient k) (hleaves : a.leaving? ≠ some k) (hev : ¬ p.Evicts a k) :
    q.attachedTo k = p.attachedTo k := by
  cases h with
  | retain hretains hends hstay =>
    have hq : q.HasClient k := by
      cases k with
      | publisher d => exact hretains.publisher d hk
      | reader d =>
        obtain ⟨cs, hcs⟩ := hretains.readers
        simp only [HasClient, hcs]
        exact List.mem_append_left cs hk
    rw [attachedTo_of_hasClient hq, attachedTo_of_hasClient hk, hretains.serial]
  | leave d ha hsource hreaders hpast hlog =>
    have hq : q.HasClient k := by
      cases k with
      | publisher d' => exact publisher?_eq_some.2 (hsource.trans (publisher?_eq_some.1 hk))
      | reader d' =>
        have hne : d' ≠ d := by
          rintro rfl
          exact hleaves (ha ▸ rfl)
        simp only [HasClient, hreaders]
        exact List.mem_filter.2 ⟨hk, by simpa using hne⟩
    rw [attachedTo_of_hasClient hq, attachedTo_of_hasClient hk, hpast]
  | lose hloses hends hevicted hstay =>
    cases k with
    | publisher d => exact absurd ((hstay hev).2 d hk) hleaves
    | reader d => exact absurd hends hev

/-- **Whoever leaves or is disconnected** is not attached to the same stream any more. -/
lemma attachedTo_ne (hk : p.HasClient k) (hgoes : a.leaving? = some k ∨ p.Evicts a k) :
    q.attachedTo k ≠ p.attachedTo k := by
  rw [attachedTo_of_hasClient hk]
  cases h with
  | retain hretains hends hstay =>
    obtain ⟨hleaves, hev⟩ := hstay k hk
    exact absurd hgoes (not_or.2 ⟨hleaves, hev⟩)
  | leave d ha hsource hreaders hpast hlog =>
    subst ha
    rcases hgoes with hleaves | hev
    · obtain rfl : Party.reader d = k := Option.some.inj hleaves
      have hq : ¬ q.HasClient (.reader d) := by simp [HasClient, hreaders]
      simp [attachedTo_eq_none.2 hq]
    · cases k <;> exact absurd hev not_false
  | lose hloses hends hevicted hstay =>
    unfold attachedTo
    split
    · rw [hloses.serial]
      simp
    · simp

/-- **Disconnections** happen once to each of those to whom they should, and to nobody else. -/
lemma count_closings (hn : p.readers.Nodup) :
    (p.HasClient k ∧ p.Evicts a k → (p.closings q).count k = 1) ∧
      (¬ (p.HasClient k ∧ p.Evicts a k) → (p.closings q).count k = 0) := by
  cases h with
  | retain hretains hends hstay =>
    have hnone : p.closings q = [] := hretains.closes.eq
    exact ⟨fun hk => absurd hk.2 (hstay k hk.1).2, fun _ => by simp [hnone]⟩
  | leave d ha hsource hreaders hpast hlog =>
    have hnone : p.closings q = [] := by simp [closings, hlog]
    refine ⟨fun hk => ?_, fun _ => by simp [hnone]⟩
    have hev := ha ▸ hk.2
    cases k <;> exact absurd hev not_false
  | @lose evicted hloses hends hevicted hstay =>
    obtain ⟨ks, hks, hperm⟩ := hloses.closes
    rw [hks.eq, hperm.count_eq, List.count_append]
    cases k with
    | publisher d =>
      have hreaders : (p.readers.map Party.reader).count (.publisher d) = 0 :=
        List.count_eq_zero.2 (by simp)
      rw [hreaders]
      constructor
      · rintro ⟨hk, hev⟩
        have hpub : p.publisher? = some d := hk
        simp [hevicted hev, hpub]
      · intro hk
        by_cases hev : p.EndsPublishing a
        · have hne : p.publisher? ≠ some d := fun hpub => hk ⟨hpub, hev⟩
          rw [hevicted hev]
          cases hpub : p.publisher? with
          | none => rfl
          | some d' =>
            have hne' : d' ≠ d := fun heq => hne (hpub.trans (congrArg some heq))
            simp [hne']
        · simp [(hstay hev).1]
    | reader d =>
      have hinj : Function.Injective Party.reader := fun _ _ heq => Party.reader.inj heq
      have hevicted : (evicted.toList.map Party.publisher).count (.reader d) = 0 :=
        List.count_eq_zero.2 (by simp)
      rw [hevicted, List.count_map_of_injective _ _ hinj]
      refine ⟨fun hk => ?_, fun hk => ?_⟩
      · rw [List.count_eq_one_of_mem hn hk.1]
      · rw [List.count_eq_zero.2 fun hmem => hk ⟨hmem, hends⟩]

/-- **The stream** is over exactly after its loss. -/
lemma endsStream_iff : p.EndsStream a ↔ q.pastStreams.length ≠ p.pastStreams.length := by
  cases h with
  | retain hretains hends hstay => exact iff_of_false hends (not_not.2 hretains.serial)
  | leave d ha hsource hreaders hpast hlog =>
    exact iff_of_false (by simp [ha, EndsStream]) (by simp [hpast])
  | lose hloses hends hevicted hstay =>
    exact iff_of_true hends (by rw [hloses.serial]; simp)

end Parting

section Episodes

variable {p : Path} {a : PathAct} (h : Parting p a (p.act a)) (hn : p.readers.Nodup) (k : Party)

include h hn

/-- A client is disconnected in an episode if it is attached and should be. -/
lemma closed_mem_turns_iff : .closed ∈ p.turns k a ↔ p.HasClient k ∧ p.Evicts a k := by
  obtain ⟨hone, hzero⟩ := h.count_closings (k := k) hn
  have hleft : Turn.closed ∉ if p.HasClient k ∧ a.leaving? = some k then [Turn.left] else [] := by
    split <;> simp
  have hattached : Turn.closed ∉ if (p.act a).attachedTo k = p.attachedTo k then []
      else ((p.act a).attachedTo k).toList.map Turn.attached := by
    split <;> simp
  simp only [turns, List.mem_append, hleft, hattached, false_or, or_false, List.mem_replicate,
    and_true]
  by_cases hk : p.HasClient k ∧ p.Evicts a k
  · simp [hone hk, hk]
  · simp [hzero hk, hk]

/-- **The turns of an episode** lead from one attachment to the next. -/
lemma account_turns :
    Account (p.attachedTo k) (p.turns k a) ((p.act a).attachedTo k) := by
  obtain ⟨hone, hzero⟩ := h.count_closings (k := k) hn
  unfold turns
  by_cases hk : p.HasClient k
  · by_cases hev : p.Evicts a k
    · rw [if_neg fun hl => hev.leaving?_ne hl.2, hone ⟨hk, hev⟩,
        if_neg (h.attachedTo_ne hk (.inr hev)), attachedTo_of_hasClient hk]
      exact .closed (.attach _)
    · rw [hzero fun hboth => hev hboth.2]
      by_cases hleaves : a.leaving? = some k
      · rw [if_pos ⟨hk, hleaves⟩, if_neg (h.attachedTo_ne hk (.inl hleaves)),
          attachedTo_of_hasClient hk]
        exact .left (.attach _)
      · have hsame := h.attachedTo_eq hk hleaves hev
        rw [if_neg fun hl => hleaves hl.2, if_pos hsame, hsame]
        exact .nil _
  · rw [if_neg fun hl => hk hl.1, hzero fun hboth => hk hboth.1, attachedTo_eq_none.2 hk]
    split
    · next hsame =>
      rw [hsame]
      exact .nil _
    · exact .attach _

end Episodes

/-! ## Whole lives -/

/-- Whoever is attached is attached to the stream that the path has. -/
lemma Lived.ready_of_hasClient {p : Path} (h : p.Lived) {k : Party} (hk : p.HasClient k) :
    p.isReady = true := by
  by_contra hready
  have hs : p.stream = none := by simpa [isReady] using hready
  cases he : p.ended with
  | false => exact (h.reached.orderly.live he).coherent.nobody hs k hk
  | true =>
    cases k with
    | publisher d =>
      have hsource := publisher?_eq_some.1 hk
      simp [(h.reached.orderly.gone he).source] at hsource
    | reader d => simp [HasClient, h.reached.readers_eq_nil hs] at hk

/-- **After the end** nobody is attached. -/
lemma Lived.attachedTo_of_ended {p : Path} (h : p.Lived) (he : p.ended = true) (k : Party) :
    p.attachedTo k = none := by
  refine attachedTo_eq_none.2 fun hk => ?_
  have hready := h.ready_of_hasClient hk
  simp [isReady, (h.reached.orderly.gone he).stream] at hready

/-- Nobody is attached to a new path. -/
lemma attachedTo_create (settings : PathSettings) (now id : Nat) (name : String)
    (found : ConfSet.Found) (k : Party) :
    (create settings now id name found).attachedTo k = none := by
  refine attachedTo_eq_none.2 fun hk => ?_
  have hready := (Lived.create settings now id name found).ready_of_hasClient hk
  rw [create_eq] at hready
  simp [isReady] at hready

/-- **Accounts** go on over a part of a life. -/
lemma Lived.account {p : Path} (h : p.Lived) (k : Party) {as : List PathAct}
    (has : p.AllowsAll as) :
    Account (p.attachedTo k) (p.account k as) ((p.after as).attachedTo k) := by
  induction as generalizing p with
  | nil => exact .nil _
  | cons a rest ih =>
    have hturns := account_turns (h.parting has.1) h.reached.bounded.nodup k
    exact hturns.append (ih (h.act has.1) has.2)

/-- What is written down in an act is added to the history. -/
lemma Parting.closes {p q : Path} {a : PathAct} (h : Parting p a q) :
    Closes p q (p.closings q) := by
  cases h with
  | retain hretains hends hstay => exact hretains.closes.eq ▸ hretains.closes
  | leave d ha hsource hreaders hpast hlog =>
    exact ⟨[], by simp [hlog], by simp [closings, hlog]⟩
  | lose hloses hends hevicted hstay =>
    obtain ⟨ks, hks, -⟩ := hloses.closes
    exact hks.eq ▸ hks

/-- **All disconnections** of a client are turns in its account. -/
lemma Lived.count_closed {p : Path} (h : p.Lived) (k : Party) {as : List PathAct}
    (has : p.AllowsAll as) :
    ((p.after as).log.filterMap PathEvent.closed?).count k =
      (p.log.filterMap PathEvent.closed?).count k + (p.account k as).count .closed := by
  induction as generalizing p with
  | nil => simp [Path.account, episodes, Path.after]
  | cons a rest ih =>
    obtain ⟨es, hlog, hes⟩ := (h.parting has.1).closes
    have hturns : (p.turns k a).count .closed = (es.filterMap PathEvent.closed?).count k := by
      have hleft : (if p.HasClient k ∧ a.leaving? = some k then [Turn.left] else []).count
          .closed = 0 := by
        split <;> simp
      have hattached : (if (p.act a).attachedTo k = p.attachedTo k then []
          else ((p.act a).attachedTo k).toList.map Turn.attached).count .closed = 0 := by
        split
        · rfl
        · exact List.count_eq_zero.2 (by simp)
      simp [turns, hleft, hattached, hes]
    have hrest := ih (h.act has.1) has.2
    rw [hlog, List.filterMap_append, List.count_append, ← hturns] at hrest
    rw [Path.after, List.foldl_cons, ← Path.after, hrest]
    simp [Path.account, episodes, Nat.add_assoc]

/-- **Clients over a whole life.** All along the life of a path, whatever happens to it, the turns
of each client follow each other as they should: it is attached only while it is not, each of its
attachments is ended once, by leaving or by being disconnected, and what is left of its account is
its present attachment. It is disconnected as often as its account says, and in an episode exactly
if it is attached and either publishes and is replaced or loses the path, or reads and the path
loses the stream. Whoever leaves is not disconnected by that; whoever is attached when the path ends
has left or is disconnected. Who is attached has the stream that the path has, and nobody is
attached after the end.

**Proof sketch.** Every act either parts with nobody, lets a reader leave, or takes the stream away
with all its readers, and with the publisher if another one comes or the path is destroyed. A path
that ends because it is unused has nobody left. -/
theorem account_of_life {settings : PathSettings} {now id : Nat} {name : String}
    {found : ConfSet.Found} {as : List PathAct}
    (has : (create settings now id name found).AllowsAll as) (k : Party) :
    Account none ((create settings now id name found).account k as)
      (((create settings now id name found).after as).attachedTo k) ∧
    (((create settings now id name found).after as).log.filterMap PathEvent.closed?).count k =
      ((create settings now id name found).account k as).count .closed ∧
    (∀ e ∈ (create settings now id name found).episodes as,
      (.closed ∈ e.1.turns k e.2 ↔ e.1.HasClient k ∧ e.1.Evicts e.2 k) ∧
      (e.2.leaving? = some k → .closed ∉ e.1.turns k e.2) ∧
      (e.1.EndsStream e.2 ↔ (e.1.act e.2).pastStreams.length ≠ e.1.pastStreams.length) ∧
      ((e.1.act e.2).ended = true → e.1.HasClient k →
        e.2.leaving? = some k ∨ .closed ∈ e.1.turns k e.2)) ∧
    (((create settings now id name found).after as).HasClient k →
      ((create settings now id name found).after as).isReady = true) ∧
    (((create settings now id name found).after as).ended = true →
      ((create settings now id name found).after as).attachedTo k = none) := by
  have hnew := Lived.create settings now id name found
  refine ⟨?_, ?_, fun e he => ?_, (hnew.after has).ready_of_hasClient,
    fun hended => (hnew.after has).attachedTo_of_ended hended k⟩
  · rw [← attachedTo_create settings now id name found k]
    exact hnew.account k has
  · have hnone : (create settings now id name found).log.filterMap PathEvent.closed? = [] := by
      rw [create_eq]
      unfold ConfSet.Found.sourceStart
      split
      · split <;> rfl
      · rfl
    rw [hnew.count_closed k has, hnone, List.count_nil, Nat.zero_add]
  · obtain ⟨hlived, hallows⟩ := hnew.of_episode has e he
    have hparting := hlived.parting hallows
    have hclosed := closed_mem_turns_iff hparting hlived.reached.bounded.nodup k
    refine ⟨hclosed, fun hleaves hmem => ?_, hparting.endsStream_iff, fun hended hk => ?_⟩
    · exact (hclosed.1 hmem).2.leaving?_ne hleaves
    · by_contra hstays
      obtain ⟨hleaves, hopen⟩ := not_or.1 hstays
      have hsame := hparting.attachedTo_eq hk hleaves fun hev => hopen (hclosed.2 ⟨hk, hev⟩)
      rw [(hlived.act hallows).attachedTo_of_ended hended k, attachedTo_of_hasClient hk] at hsame
      cases hsame

/-- A succession of publishers: one is replaced by another one while somebody reads, who comes again
and leaves before the path is destroyed. Somebody who describes itself in the same way stays. -/
def succession : List PathAct :=
  [.step (.message (.addPublisher 0 ⟨0, ⟨"rtspSession", "a"⟩⟩ ⟨[⟨.video, "H264"⟩]⟩ false "" none)),
    .step (.message (.addReader 1 ⟨1, ⟨"rtspSession", "b"⟩⟩ "")),
    .step (.message (.addPublisher 2 ⟨2, ⟨"rtspSession", "c"⟩⟩ ⟨[⟨.video, "H264"⟩]⟩ false "" none)),
    .step (.message (.addReader 3 ⟨1, ⟨"rtspSession", "b"⟩⟩ "")),
    .step (.message (.addReader 4 ⟨3, ⟨"rtspSession", "b"⟩⟩ "")),
    .step (.message (.removeReader ⟨1, ⟨"rtspSession", "b"⟩⟩)), .step .destroy]

/-- The reader is disconnected once, and leaves the second time; the other one is disconnected when
the path is destroyed. -/
theorem account_succession :
    (create {} 0 1 "cam" readByTwo).AllowsAll succession ∧
      (create {} 0 1 "cam" readByTwo).account (.reader ⟨1, ⟨"rtspSession", "b"⟩⟩) succession =
        [.attached 0, .closed, .attached 1, .left] ∧
      Account none [.attached 0, .closed, .attached 1, .left] none ∧
      (((create {} 0 1 "cam" readByTwo).after succession).log.filterMap
        PathEvent.closed?).count (.reader ⟨1, ⟨"rtspSession", "b"⟩⟩) = 1 ∧
      (create {} 0 1 "cam" readByTwo).account (.reader ⟨3, ⟨"rtspSession", "b"⟩⟩) succession =
        [.attached 1, .closed] := by
  have hallows : (create {} 0 1 "cam" readByTwo).AllowsAll succession := by decide
  have haccount : (create {} 0 1 "cam" readByTwo).account (.reader ⟨1, ⟨"rtspSession", "b"⟩⟩)
      succession = [.attached 0, .closed, .attached 1, .left] := by decide
  obtain ⟨hwhole, hcount, -, -, hgone⟩ :=
    account_of_life hallows (.reader ⟨1, ⟨"rtspSession", "b"⟩⟩)
  rw [haccount] at hwhole hcount
  rw [hgone (by decide)] at hwhole
  exact ⟨hallows, haccount, hwhole, hcount, by decide⟩

end Path

end LivePaths
