import LivePaths.Proofs.Registry.Ledger
import LivePaths.Proofs.Registry.Newcomers
import LivePaths.Proofs.Registry.Rest
import LivePaths.Proofs.Registry.Vacancy
import LivePaths.Proofs.Registry.Vouching

set_option relaxedAutoImplicit false
set_option autoImplicit false

/-!
# Paths do not interfere

All paths of a registry share its numbers, its clock and its news. Yet what there is of a name
depends only on the operations that concern it. To see this, two runs are compared: one of all
operations, and one of those that are left if all that addresses other names is deleted. Since other
paths take numbers, too, the operations that are left are done under the numbers that the paths of
the name have there.

## Main definitions

* `RegistryOp.name?`, `RegistryOp.concerns` — which operations concern a name.
* `RegistryOp.renumber` — the same operation on paths under other numbers.
* `Twins`, `Twins.step`, `Twins.run` — both runs.
* `Twins.Agree` — what is the same in both.

## Main results

* `Registry.Reachable.only_apply_of_not_concerns` — what does not concern a name leaves it alone.
* `Registry.Reachable.only_apply_of_concerns` — what concerns it depends on nothing else.
* `Twins.Agree.step`, `Twins.Agree.foldl` — each operation keeps the agreement, and so do runs.
* `Registry.isolation_run` — paths do not interfere.
-/

namespace LivePaths

/-! ## Operations and names -/

namespace RegistryOp

/-- **The name that an operation addresses**, if it addresses one; that of a stream is the name of
its path. -/
def name? (r : Registry) : RegistryOp → Option String
  | .request _ access _ | .find access => some access.name
  | .requestOf _ h .. | .unpublish h _ | .unread h _ | .sourceReady _ h .. | .sourceNotReady h =>
    some h.name
  | .write stream _ | .subscribe stream | .unsubscribe stream =>
    (r.path? stream.path).map (·.name)
  | .segmentCreate name _ | .segmentComplete name .. => some name
  | .abandon _ | .reload _ | .setHls _ | .sleep _ | .close => none

/-- **Concern**: an operation concerns a name if it addresses it or all names. Whoever gives up a
request concerns the name if the request is among those that were addressed to it. -/
def concerns (a : String) (r : Registry) (asked : List Nat) : RegistryOp → Bool
  | .abandon number => asked.contains number
  | .reload _ | .setHls _ | .sleep _ | .close => true
  | op => op.name? r == some a

/-- **The same operation** on paths under other numbers. -/
def renumber (f : Nat → Nat) : RegistryOp → RegistryOp
  | .requestOf number h query c => .requestOf number { h with id := f h.id } query c
  | .unpublish h client => .unpublish { h with id := f h.id } client
  | .unread h client => .unread { h with id := f h.id } client
  | .sourceReady number h d rtp => .sourceReady number { h with id := f h.id } d rtp
  | .sourceNotReady h => .sourceNotReady { h with id := f h.id }
  | .write stream u => .write { stream with path := f stream.path } u
  | .subscribe stream => .subscribe { stream with path := f stream.path }
  | .unsubscribe stream => .unsubscribe { stream with path := f stream.path }
  | op => op

@[simp]
lemma number?_renumber (f : Nat → Nat) (op : RegistryOp) :
    (op.renumber f).number? = op.number? := by
  cases op <;> rfl

end RegistryOp

namespace Registry

/-! ## Who waits -/

/-- **Asking**: a message to a path of the name comes with none but some requests. -/
def AsksAs (a : String) (asked : List Nat) (handle : PathHandle) (m : PathMessage) : Prop :=
  handle.name = a → ∀ n ∈ m.requests, n ∈ asked

/-- What an operation brings comes with its request. -/
lemma asksAs_of_brings {authenticator : Authenticator} {op : RegistryOp} {handle : PathHandle}
    {m : PathMessage} (h : op.Brings authenticator handle m) {a : String} {r : Registry}
    {before asked : List Nat}
    (hasked : op.concerns a r before = true → ∀ n ∈ op.number?, n ∈ asked) :
    AsksAs a asked handle m := by
  intro hname n hn
  cases op with
  | request number x c =>
    obtain ⟨hx, rfl, -⟩ := h
    obtain rfl : n = number := by simpa [(requests_message c number x.query).1] using hn
    exact hasked (beq_iff_eq.2 (congrArg some (hx.symm.trans hname))) n rfl
  | requestOf number x query c =>
    obtain ⟨rfl, rfl⟩ := h
    obtain rfl : n = number := by simpa [(requests_message c number query).1] using hn
    exact hasked (beq_iff_eq.2 (congrArg some hname)) n rfl
  | sourceReady number x d rtp =>
    obtain ⟨rfl, rfl⟩ := h
    obtain rfl : n = number := by simpa [PathMessage.requests] using hn
    exact hasked (beq_iff_eq.2 (congrArg some hname)) n rfl
  | unpublish _ _ | unread _ _ | sourceNotReady _ =>
    obtain ⟨-, rfl⟩ := h
    cases hn
  | abandon _ =>
    obtain rfl := h
    cases hn
  | _ => exact h.elim

/-- More may have been sent. -/
lemma Vouches.mono {Sent Sent' : PathHandle → PathMessage → Prop} {r : Registry}
    (h : r.Vouches Sent) (hsent : ∀ handle m, Sent handle m → Sent' handle m) :
    r.Vouches Sent' := by
  intro name e he
  obtain ⟨hpublisher, hreader, hheldReader, hheldDescribe⟩ := h name e he
  refine ⟨fun c hc => ?_, fun c hc => ?_, fun x hx => ?_, fun x hx => ?_⟩
  · obtain ⟨n, d, rtp, query, expected, hm, hserved⟩ := hpublisher c hc
    exact ⟨n, d, rtp, query, expected, hsent _ _ hm, hserved⟩
  · obtain ⟨n, query, hm, hserved⟩ := hreader c hc
    exact ⟨n, query, hsent _ _ hm, hserved⟩
  · obtain ⟨query, hm⟩ := hheldReader x hx
    exact ⟨query, hsent _ _ hm⟩
  · obtain ⟨query, hm⟩ := hheldDescribe x hx
    exact ⟨query, hsent _ _ hm⟩

/-! ## Other names -/

section Names

variable {r : Registry} {a : String}

/-- The path of a stream that does not belong to a name has another one. -/
lemma Numbered.name_ne_of_path? (h : r.Numbered) {id : Nat}
    (hname : (r.path? id).map (·.name) ≠ some a) : ∀ p ∈ r.paths, p.id = id → p.name ≠ a := by
  rintro p hp rfl rfl
  exact hname (by rw [h.path?_eq hp]; rfl)

/-- The path of a stream that belongs to a name has this name. -/
lemma Numbered.name_of_path? (h : r.Numbered) {id : Nat}
    (hname : (r.path? id).map (·.name) = some a) : ∀ p ∈ r.paths, p.id = id → p.name = a := by
  rintro p hp rfl
  rw [h.path?_eq hp] at hname
  exact Option.some.inj hname

/-- **Somebody gives up** who does not wait for the name. -/
lemma Reachable.only_abandon {Admits : ConfSet → Prop} (h : r.Reachable Admits)
    {asked : List Nat} (hwaits : r.Vouches (AsksAs a asked)) {number : Nat}
    (hnot : number ∉ asked) : (r.abandon number).only a = r.only a := by
  rw [abandon, only_updateAll h.seated (Path.impartial_deliver _)]
  cases he : r.live.get? a with
  | none => exact update_of_none (by simp [only, he]) _
  | some e =>
    have hmem : e.path ∈ r.paths := mem_paths.2 (.inr ⟨a, e, he, rfl⟩)
    have hsame : deliver (.abandon number) e.path = e.path := by
      refine (h.lived e.path hmem).deliver_abandon (h.calm a e he) (fun x hx heq => hnot ?_)
        fun x hx heq => hnot ?_
      · obtain ⟨query, hm⟩ := (hwaits a e he).heldDescribe x hx
        exact heq ▸ hm rfl x.request (by simp [PathMessage.requests])
      · obtain ⟨query, hm⟩ := (hwaits a e he).heldReader x hx
        exact heq ▸ hm rfl x.request (by simp [PathMessage.requests])
    have hfocus : (r.only a).live.get? a = some (e.renumber (r.rank a)) := by simp [only, he]
    have hfixed : deliver (.abandon number) (e.renumber (r.rank a)).path =
        (e.renumber (r.rank a)).path := by
      rw [RegistryEntry.renumber, ← (Path.impartial_deliver _).renumber, hsame]
    have hsilent (p : Path) : noticesSince p p = [] := by simp [noticesSince]
    rw [update, hfocus]
    dsimp only
    rw [hfixed, hsilent, List.foldl_nil, NameMap.insert_of_get? hfocus]

/-- **What does not concern a name** leaves it as it is. -/
theorem Reachable.only_apply_of_not_concerns {Admits : ConfSet → Prop} (h : r.Reachable Admits)
    {asked : List Nat} (hwaits : r.Vouches (AsksAs a asked)) {op : RegistryOp}
    (hnot : ¬ op.concerns a r asked = true) : (r.apply op).only a = r.only a := by
  have hs := h.seated
  have hnum := h.hosts.numbered
  have hother {b : String} (hb : ¬ (some b == some a) = true) : b ≠ a :=
    fun heq => hb (beq_iff_eq.2 (congrArg some heq))
  have hpath {id : Nat} (hb : ¬ ((r.path? id).map (·.name) == some a) = true) :
      ∀ p ∈ r.paths, p.id = id → p.name ≠ a :=
    hnum.name_ne_of_path? fun heq => hb (beq_iff_eq.2 heq)
  cases op with
  | request number x c => exact only_request_of_ne hs number (hother hnot) _ _
  | requestOf number handle query c => exact only_requestOf_of_ne hs number (hother hnot) _
  | unpublish handle client => exact only_tell_of_ne hs (hother hnot) _
  | unread handle client => exact only_tell_of_ne hs (hother hnot) _
  | sourceReady number handle d rtp => exact only_requestOf_of_ne hs number (hother hnot) _
  | sourceNotReady handle => exact only_tell_of_ne hs (hother hnot) _
  | abandon number => exact h.only_abandon hwaits fun hmem => hnot (List.contains_iff_mem.2 hmem)
  | find x =>
    change (r.find x).1.only a = r.only a
    rw [find_eq_asked]
    rfl
  | write stream u => exact only_write_of_ne hs (hpath hnot) u
  | subscribe stream => exact only_subscribe_of_ne hs (hpath hnot)
  | unsubscribe stream => exact only_modifyStream_of_ne hs (hpath hnot) _
  | segmentCreate name segment => exact only_segmentCreate_of_ne hs hnum (hother hnot) segment
  | segmentComplete name segment ms =>
    exact only_segmentComplete_of_ne hs hnum (hother hnot) segment ms
  | reload _ | setHls _ | sleep _ | close => exact absurd rfl hnot

end Names

/-! ## The name itself -/

section Twins

variable {r s : Registry} {a : String} {f : Nat → Nat}

/-- Numbers with the same rank belong to the name in both registries. -/
lemma mem_numbersOf_of_rank {i j : Nat} (hrank : s.rank a j = r.rank a i)
    (hi : i ∈ r.numbersOf a) : j ∈ s.numbersOf a := by
  by_contra hj
  unfold rank at hrank
  rw [if_pos hi, if_neg hj] at hrank
  exact absurd hrank.symm (Nat.succ_ne_zero _)

/-- **What concerns a name** does the same to it in two registries in which it is the same, if the
numbers of its paths are replaced by those of the same rank. -/
theorem Reachable.only_apply_of_concerns {Admits : ConfSet → Prop} (hr : r.Reachable Admits)
    (hs : s.Reachable Admits) (hsame : r.only a = s.only a)
    (hf : ∀ id, s.rank a (f id) = r.rank a id) {asked : List Nat} {op : RegistryOp}
    (hop : op.concerns a r asked = true) :
    (r.apply op).only a = (s.apply (op.renumber f)).only a := by
  have hrs := hr.seated
  have hss := hs.seated
  have hnow : r.now = s.now :=
    show (r.only a).now = (s.only a).now from congrArg Registry.now hsame
  -- a stream of the name belongs to the name under the other number as well
  have hstream {id : StreamId} (hid : ((r.path? id.path).map (·.name) == some a) = true) :
      (∀ p ∈ r.paths, p.id = id.path → p.name = a) ∧
        ∀ p ∈ s.paths, p.id = f id.path → p.name = a := by
    have hid := eq_of_beq hid
    obtain ⟨p, hp, hname⟩ := Option.map_eq_some_iff.1 hid
    have hmem := hrs.mem_numbersOf (List.mem_of_find?_eq_some hp) hname
    have hpid : p.id = id.path := by simpa using List.find?_some hp
    exact ⟨hr.hosts.numbered.name_of_path? hid, hs.hosts.numbered.name_of_mem_numbersOf hss
      (mem_numbersOf_of_rank (hf id.path) (hpid ▸ hmem))⟩
  have hrequestOf {h : PathHandle} (ha : (some h.name == some a) = true) (number : Nat)
      (m : PathMessage) :
      (r.requestOf number h m).only a =
        (s.requestOf number { h with id := f h.id } m).only a := by
    obtain rfl := Option.some.inj (eq_of_beq ha)
    rw [only_requestOf hrs, only_requestOf hss, hsame, hf]
  have htell {h : PathHandle} (ha : (some h.name == some a) = true) (m : PathMessage) :
      (r.tell h m).only a = (s.tell { h with id := f h.id } m).only a := by
    obtain rfl := Option.some.inj (eq_of_beq ha)
    rw [only_tell hrs, only_tell hss, hsame, hf]
  cases op with
  | request number x c =>
    obtain rfl := Option.some.inj (eq_of_beq hop)
    change (r.request ..).only x.name = (s.request ..).only x.name
    rw [only_request hrs hr.documented, only_request hss hs.documented, hsame]
  | requestOf number h query c => exact hrequestOf hop number _
  | unpublish h client => exact htell hop _
  | unread h client => exact htell hop _
  | sourceReady number h d rtp => exact hrequestOf hop number _
  | sourceNotReady h => exact htell hop _
  | abandon number =>
    change (r.abandon number).only a = (s.abandon number).only a
    rw [abandon, abandon, only_updateAll hrs (Path.impartial_deliver _),
      only_updateAll hss (Path.impartial_deliver _), hsame]
  | find x =>
    change (r.find x).1.only a = (s.find x).1.only a
    rw [find_eq_asked, find_eq_asked]
    exact hsame
  | reload confs =>
    change ((r.reload confs).toOption.getD r).only a = ((s.reload confs).toOption.getD s).only a
    rw [only_reload hr.hosts hrs hr.documented, only_reload hs.hosts hss hs.documented, hsame]
  | setHls server =>
    change ((r.setHls server).toOption.getD r).only a = ((s.setHls server).toOption.getD s).only a
    rw [only_setHls hrs, only_setHls hss, hsame]
  | sleep ms =>
    change (r.advance (r.now + ms)).only a = (s.advance (s.now + ms)).only a
    rw [only_advance hrs, only_advance hss, hsame, hnow]
  | close =>
    change r.close.only a = s.close.only a
    rw [only_close hrs, only_close hss, hsame]
  | write stream u =>
    obtain ⟨hrn, hsn⟩ := hstream hop
    change (r.write ..).1.only a = (s.write ..).1.only a
    rw [only_write hrs hrn, only_write hss hsn, hsame, hf]
  | subscribe stream =>
    obtain ⟨hrn, hsn⟩ := hstream hop
    change (((r.subscribe? _).map (·.1)).getD r).only a =
      (((s.subscribe? _).map (·.1)).getD s).only a
    rw [only_subscribe hrs hrn, only_subscribe hss hsn, hsame, hf]
  | unsubscribe stream =>
    change (r.unsubscribe _).only a = (s.unsubscribe _).only a
    rw [unsubscribe, unsubscribe, only_modifyStream hrs, only_modifyStream hss, hsame, hf]
  | segmentCreate name segment =>
    obtain rfl := Option.some.inj (eq_of_beq hop)
    change ((r.segmentCreated? name segment).getD r).only name =
      ((s.segmentCreated? name segment).getD s).only name
    rw [only_segmentCreate hrs, only_segmentCreate hss, hsame]
  | segmentComplete name segment ms =>
    obtain rfl := Option.some.inj (eq_of_beq hop)
    change ((r.segmentComplete? name segment ms).getD r).only name =
      ((s.segmentComplete? name segment ms).getD s).only name
    rw [only_segmentComplete hrs, only_segmentComplete hss, hsame]

/-- **Who is turned away** is the same, too. -/
theorem refusalOf?_of_concerns (hr : r.Seated) (hs : s.Seated) (hsame : r.only a = s.only a)
    (hf : ∀ id, s.rank a (f id) = r.rank a id) {asked : List Nat} {op : RegistryOp}
    (hop : op.concerns a r asked = true) : r.refusalOf? op = s.refusalOf? (op.renumber f) := by
  have hlive {h : PathHandle} (ha : (some h.name == some a) = true) :
      r.isLive h = s.isLive { h with id := f h.id } := by
    obtain rfl := Option.some.inj (eq_of_beq ha)
    rw [← isLive_only hr h.id, ← isLive_only hs (f h.id), hsame, hf]
  have hfault (x : AccessRequest) (expected : Option Conf) :
      r.fault? x expected = s.fault? x expected :=
    show (r.only a).fault? x expected = (s.only a).fault? x expected by rw [hsame]
  cases op with
  | request number x c => exact congrArg (Option.map _) (hfault x c.expected?)
  | requestOf number h query c => exact congrArg (fun b => if b = true then _ else _) (hlive hop)
  | sourceReady number h d rtp => exact congrArg (fun b => if b = true then _ else _) (hlive hop)
  | _ => rfl

/-- What governs a name is found in the configurations alone. -/
lemma find_only (r : Registry) (a : String) (x : AccessRequest) :
    ((r.only a).find x).2 = (r.find x).2 := by
  unfold Registry.find authenticate
  rw [closed_only, governing_only]
  cases r.closed <;> cases r.governing x.name <;> cases x.skipAuth <;> rfl

/-- **Whoever may report** to a path may report to the one of the same rank. -/
lemma permits_of_concerns {Admits : ConfSet → Prop} (hr : r.Seated) (hs : s.Seated)
    (hsame : r.only a = s.only a) (hf : ∀ id, s.rank a (f id) = r.rank a id) {asked : List Nat}
    {op : RegistryOp} (hop : op.concerns a r asked = true) (hpermits : r.Permits Admits op) :
    s.Permits Admits (op.renumber f) := by
  have hsources {h : PathHandle} (ha : (some h.name == some a) = true)
      (hmem : h ∈ r.sourcesOf h.name) : { h with id := f h.id } ∈ s.sourcesOf h.name := by
    obtain rfl := Option.some.inj (eq_of_beq ha)
    have hranked : (⟨h.name, r.rank h.name h.id⟩ : PathHandle) ∈ (s.only h.name).sourcesOf h.name :=
      hsame ▸ (sourcesOf_only hr).symm ▸ List.mem_map_of_mem hmem
    rw [sourcesOf_only hs] at hranked
    obtain ⟨x, hx, heq⟩ := List.mem_map.1 hranked
    have hrank : s.rank h.name x.id = s.rank h.name (f h.id) :=
      (congrArg PathHandle.id heq).trans (hf h.id).symm
    obtain ⟨p, hp, rfl⟩ := List.mem_map.1 hx
    obtain ⟨hpaths, hp⟩ := List.mem_filter.1 hp
    have hname : p.name = h.name := by simpa using (Bool.and_eq_true_iff.1 hp).1
    have hid : p.id = f h.id := rank_inj (hs.mem_numbersOf hpaths hname) hrank
    have hhandle : ({ h with id := f h.id } : PathHandle) = p.handle := by
      rw [Path.handle, hname, hid]
    exact hhandle ▸ hx
  cases op with
  | reload confs => exact hpermits
  | sourceReady number h d rtp => exact hsources hop hpermits
  | sourceNotReady h => exact hsources hop hpermits
  | _ => trivial

end Twins

end Registry

/-! ## Two runs -/

/-- **Twin runs**: all operations, and only those that concern a name. -/
structure Twins where
  full : Registry
  /-- The registry without the operations that concern other names alone. -/
  lone : Registry
  /-- The operations on it. -/
  kept : List RegistryOp := []
  /-- Whom these operations refuse in the full run. -/
  refusals : List (Nat × PathError) := []

namespace Twins

/-- The requests that were addressed to the name. -/
def asked (t : Twins) : List Nat := t.kept.filterMap (·.number?)

/-- **The counterpart** of a path of the name, by their numbers: it has begun in the same place
among those of the name. What is no number of such a path becomes one that nobody has. -/
def counterpart (a : String) (t : Twins) (id : Nat) : Nat :=
  (t.lone.numbersOf a)[(t.full.numbersOf a).idxOf id]?.getD (t.lone.created + 1)

/-- **One operation** of the full run. -/
def step (a : String) (t : Twins) (op : RegistryOp) : Twins :=
  if op.concerns a t.full t.asked then
    let twin := op.renumber (t.counterpart a)
    { full := t.full.apply op
      lone := t.lone.apply twin
      kept := t.kept ++ [twin]
      refusals := t.refusals ++ (t.full.apply op).refusals.drop t.full.refusals.length }
  else { t with full := t.full.apply op }

/-- **Both runs**, from the same registry on. -/
def run (a : String) (first : Registry) (ops : List RegistryOp) : Twins :=
  ops.foldl (step a) { full := first, lone := first }

/-! ### Agreement -/

/-- **Agreement** of both runs about a name: there is the same of it in both, and the same requests
for it were refused. All who wait for it were addressed to it. -/
structure Agree (Admits : ConfSet → Prop) (first : Registry) (a : String) (t : Twins) : Prop where
  reachable : t.full.Reachable Admits
  permitted : first.PermitsAll Admits t.kept
  lone_eq : t.lone = first.run t.kept
  same : t.full.only a = t.lone.only a
  refused : t.refusals = t.lone.refusals
  waits : t.full.Vouches (Registry.AsksAs a t.asked)

section Agree

variable {Admits : ConfSet → Prop} {first : Registry} {a : String} {t : Twins}

/-- **Counterparts have the same rank.** -/
lemma rank_counterpart (hsame : t.full.only a = t.lone.only a) (hnum : t.lone.Numbered)
    (hseated : t.lone.Seated) (id : Nat) :
    t.lone.rank a (t.counterpart a id) = t.full.rank a id := by
  obtain ⟨hgiven, hnodup⟩ := hnum.numbersOf hseated a
  have hlength : (t.lone.numbersOf a).length = (t.full.numbersOf a).length := by
    have hnumbers := congrArg (fun q : Registry => (q.numbersOf a).length) hsame
    simpa [Registry.only, Registry.numbersOf_focus] using hnumbers.symm
  unfold counterpart Registry.rank
  by_cases hid : id ∈ t.full.numbersOf a
  · have hlt : (t.full.numbersOf a).idxOf id < (t.lone.numbersOf a).length :=
      hlength ▸ List.idxOf_lt_length_iff.2 hid
    rw [List.getElem?_eq_getElem hlt, Option.getD_some, if_pos (List.getElem_mem hlt), if_pos hid,
      hnodup.idxOf_getElem _ hlt]
  · have hnone : (t.lone.numbersOf a)[(t.full.numbersOf a).idxOf id]? = none := by
      rw [List.idxOf_of_notMem hid, ← hlength]
      exact List.getElem?_length _
    have hfresh : t.lone.created + 1 ∉ t.lone.numbersOf a := fun hmem =>
      absurd (hgiven _ hmem) (by omega)
    rw [hnone, Option.getD_none, if_neg hfresh, if_neg hid]

namespace Agree

/-- **One operation** keeps the agreement. -/
theorem step (h : t.Agree Admits first a) (hfirst : first.Reachable Admits) {op : RegistryOp}
    (hop : t.full.Permits Admits op) : (t.step a op).Agree Admits first a := by
  have hlone : t.lone.Reachable Admits := h.lone_eq ▸ hfirst.run h.permitted
  -- who comes to the name with an operation that concerns it has asked then
  have hwaits {asked : List Nat} (hold : t.asked ⊆ asked)
      (hnew : op.concerns a t.full t.asked = true → ∀ n ∈ op.number?, n ∈ asked) :
      (t.full.apply op).Vouches (Registry.AsksAs a asked) :=
    h.reachable.hosts.vouches_apply hop
      (fun handle m hm => Registry.asksAs_of_brings hm hnew)
      (h.waits.mono fun handle m hm hname n hn => hold (hm hname n hn))
  unfold Twins.step
  split
  · next hconcerns =>
    have hf := rank_counterpart h.same hlone.hosts.numbered hlone.seated
    have hpermits := Registry.permits_of_concerns h.reachable.seated hlone.seated h.same hf
      hconcerns hop
    refine ⟨h.reachable.apply op hop, ?_, ?_, ?_, ?_, hwaits ?_ fun _ n hn => ?_⟩
    · exact Registry.permitsAll_append.2 ⟨h.permitted, h.lone_eq ▸ hpermits, trivial⟩
    · exact (congrArg (Registry.apply · _) h.lone_eq).trans (List.foldl_concat ..).symm
    · exact h.reachable.only_apply_of_concerns hlone h.same hf hconcerns
    · have hrefusals {r : Registry} (hr : r.Reachable Admits) (o : RegistryOp) :
          (r.apply o).refusals = r.refusals ++ (r.refusalOf? o).toList :=
        congrArg (·.2.2) (Registry.desk_apply hr.hosts.numbered o)
      dsimp only
      rw [hrefusals h.reachable, hrefusals hlone, List.drop_left, h.refused,
        Registry.refusalOf?_of_concerns h.reachable.seated hlone.seated h.same hf hconcerns]
    · simp [asked]
    · simp [asked, Option.mem_def.1 hn]
  · next hnot =>
    exact ⟨h.reachable.apply op hop, h.permitted, h.lone_eq,
      (h.reachable.only_apply_of_not_concerns h.waits hnot).trans h.same, h.refused,
      hwaits (List.Subset.refl _) fun hc => absurd hc hnot⟩

end Agree

/-- **Whole runs** keep the agreement, and the full one is the run of all operations. -/
theorem Agree.foldl (h : t.Agree Admits first a) (hfirst : first.Reachable Admits)
    {ops : List RegistryOp} (hops : t.full.PermitsAll Admits ops) :
    (ops.foldl (Twins.step a) t).Agree Admits first a ∧
      (ops.foldl (Twins.step a) t).full = t.full.run ops := by
  induction ops generalizing t with
  | nil => exact ⟨h, rfl⟩
  | cons op rest ih =>
    have hfull : (t.step a op).full = t.full.apply op := by
      unfold Twins.step
      split <;> rfl
    obtain ⟨hagree, heq⟩ := ih (h.step hfirst hops.1) (hfull ▸ hops.2)
    exact ⟨hagree, heq.trans (congrArg (Registry.run · rest) hfull)⟩

end Agree

end Twins

namespace Registry

/-- **Paths do not interfere.** From the same new registry on, let one run do all operations, and
another one only those that concern a name, under the numbers that the paths of the name have there.
This is a possible run, and at the end of any run there is the same of the name in both: whether it
is live, all that its paths are and have done, the commands that were launched for them and the news
of them, each path under its rank. The same requests for the name are refused, and whoever asks what
governs it gets the same answer.

**Proof sketch.** What happens to other names leaves what there is of a name as it is; a client that
gives up a request to another path leaves a path of the name alone, since nothing is due there
between operations. What concerns the name depends on nothing but what there is of it, and a new
path of it has the next rank. -/
theorem isolation_run {Admits : ConfSet → Prop} {confs : ConfSet} (hconfs : Admits confs)
    (settings : PathSettings) (authenticator : Authenticator) (hls : Option String)
    {ops : List RegistryOp}
    (hops : (start settings confs authenticator hls).PermitsAll Admits ops) (a : String) :
    let first := start settings confs authenticator hls
    let t := Twins.run a first ops
    t.full = first.run ops ∧ first.PermitsAll Admits t.kept ∧ t.lone = first.run t.kept ∧
      t.full.only a = t.lone.only a ∧ t.refusals = t.lone.refusals ∧
      ∀ x : AccessRequest, (t.full.find x).2 = (t.lone.find x).2 := by
  intro first t
  have hfirst : first.Reachable Admits := .start hconfs settings authenticator hls
  have hrefusals : first.refusals = [] := congrArg (·.2.2) (desk_createMissing _)
  have hbegin : Twins.Agree Admits first a { full := first, lone := first } :=
    ⟨hfirst, trivial, rfl, rfl, hrefusals.symm,
      vouches_start _ settings confs authenticator hls⟩
  obtain ⟨hagree, hfull⟩ := hbegin.foldl hfirst hops
  refine ⟨hfull, hagree.permitted, hagree.lone_eq, hagree.same, hagree.refused, fun x => ?_⟩
  have hsame : t.full.only a = t.lone.only a := hagree.same
  rw [← t.full.find_only a, hsame, t.lone.find_only]

/-- A door, and a set in which a pattern governs the camera. -/
def doorAndCamera : ConfSet :=
  .ofList [{ name := "door" }, { name := "~^cam$", pattern := some cameraPattern }]

/-- A client publishes on the camera, the door is removed and comes back, and a client that has the
handle of the new door asks what it carries; then the camera is left. -/
def newDoor : List RegistryOp :=
  [.request 0 { name := "cam", publish := true }
      (.publish ⟨0, ⟨"publisher", "p1"⟩⟩ ⟨[⟨.video, "H264"⟩]⟩ false none),
    .reload patternCamera,
    .reload doorAndCamera,
    .requestOf 1 ⟨"door", 3⟩ "" .describe,
    .abandon 0,
    .unpublish ⟨"cam", 2⟩ ⟨0, ⟨"publisher", "p1"⟩⟩]

/-- Both runs about the door. -/
def newDoorTwins : Twins := .run "door" (start {} doorAndCamera .allowAll none) newDoor

/-- Without the camera the new door has another number, and is the same for the rest. -/
theorem isolation_newDoor :
    let first := start {} doorAndCamera .allowAll none
    first.PermitsAll (fun _ => True) newDoor ∧ newDoorTwins.full = first.run newDoor ∧
      newDoorTwins.lone = first.run newDoorTwins.kept ∧
      newDoorTwins.full.only "door" = newDoorTwins.lone.only "door" ∧
      newDoorTwins.kept.length = 3 ∧ newDoorTwins.full.numbersOf "door" = [1, 3] ∧
      newDoorTwins.lone.numbersOf "door" = [1, 2] ∧
      (newDoorTwins.full.live.get? "door").map (·.path.log) =
        some [.init, .answered 1 (.refused (.noStreamAvailable "door"))] := by
  intro first
  have hops : first.PermitsAll (fun _ => True) newDoor := by
    refine ⟨?_, ?_, ?_, ?_, ?_, ?_, ?_⟩ <;> trivial
  obtain ⟨hfull, -, hlone, hsame, -⟩ := isolation_run trivial {} .allowAll none hops "door"
  exact ⟨hops, hfull, hlone, hsame, by cbv, by cbv, by cbv, by cbv⟩

end Registry

end LivePaths
