import Mathlib
import LivePaths.Conf.Run
import LivePaths.Proofs.Conf.Edits

set_option relaxedAutoImplicit false
set_option autoImplicit false

/-!
# What a set of configurations holds

A set of configurations keeps, under each name, the configuration that was last inserted there, and
goes through them in the order of their names. What it holds depends on nothing else: neither on
what has been replaced or removed, nor on the order of calls that concern different names.

## Main definitions

* `ConfSet.Stands` — what a run of calls leaves under a name.
* `ConfSet.AgreeBy` — sets compared entry by entry.
* `ConfSet.KeepsLast` — what a run of calls leads to.

## Main results

* `ConfSet.edit_perm` — an edit exchanges what stands under its name, and nothing else.
* `ConfSet.get?_run_eq_some_iff` — what is found after a run.
* `ConfSet.agreeBy_iff` — sets are compared name by name.
* `ConfSet.keepsLast_run` — the contents of a set after any run.
-/

namespace LivePaths

/-! ## Entries compared one by one -/

namespace NameMap

variable {α β : Type} {R : α → β → Prop}

/-- A name that comes before all others of a list is not in it. -/
lemma lookup_eq_none_of_lt {name : String} {entries : List (String × α)}
    (h : ∀ e ∈ entries, name < e.1) : lookup name entries = none :=
  lookup_eq_none fun e he => (String.ne_of_lt (h e he)).symm

/-- The name of the first entry is not that of a later one. -/
lemma lookup_tail {name : String} {e : String × α} {entries : List (String × α)}
    (ha : Ascending (e :: entries)) :
    lookup name entries = if e.1 = name then none else lookup name (e :: entries) := by
  split
  · next hname => exact lookup_eq_none_of_lt (hname ▸ (List.pairwise_cons.1 ha).1)
  · next hne => rw [lookup, if_neg hne]

/-- Nothing is found under a name that comes before the first one. -/
lemma le_of_lookup {name : String} {e : String × α} {entries : List (String × α)}
    (ha : Ascending (e :: entries)) (h : (lookup name (e :: entries)).isSome = true) :
    e.1 ≤ name := by
  refine String.not_lt.1 fun hlt => ?_
  have hnone : lookup name (e :: entries) = none := by
    refine lookup_eq_none_of_lt fun d hd => ?_
    rcases List.mem_cons.1 hd with rfl | hd
    · exact hlt
    · exact String.lt_trans hlt ((List.pairwise_cons.1 ha).1 d hd)
  rw [hnone] at h
  exact absurd h Bool.false_ne_true

/-- Ascending lists in which the same names are found begin with the same name. -/
lemma first_eq {c : String × α} {d : String × β} {resta : List (String × α)}
    {restb : List (String × β)} (ha : Ascending (c :: resta)) (hb : Ascending (d :: restb))
    (h : ∀ name, (lookup name (c :: resta)).isSome = (lookup name (d :: restb)).isSome) :
    c.1 = d.1 := by
  have hfound {γ : Type} (e : String × γ) (rest : List (String × γ)) :
      (lookup e.1 (e :: rest)).isSome = true := by
    rw [lookup, if_pos rfl, Option.isSome_some]
  refine String.le_antisymm (le_of_lookup ha ?_) (le_of_lookup hb ?_)
  · rw [h]
    exact hfound d restb
  · rw [← h]
    exact hfound c resta

/-- Of two values that agree neither is missing. -/
lemma isSome_eq_of_rel {x : Option α} {y : Option β} (h : Option.Rel R x y) :
    x.isSome = y.isSome := by
  cases h <;> rfl

/-- Of lists whose entries agree one by one the look-ups agree. -/
lemma rel_lookup {a : List (String × α)} {b : List (String × β)} (name : String)
    (h : List.Forall₂ (fun x y => x.1 = y.1 ∧ R x.2 y.2) a b) :
    Option.Rel R (lookup name a) (lookup name b) := by
  induction h with
  | nil => exact .none
  | cons hxy _ ih =>
    unfold lookup
    rw [hxy.1]
    split
    · exact .some hxy.2
    · exact ih

/-- **Ascending lists are compared name by name**: their entries agree one by one exactly if the
look-ups of every name do.

**Proof sketch.** Induction on the lists. If the look-ups agree, both lists begin with the same
name, and this is the name of no later entry. -/
lemma forall₂_iff_lookup {a : List (String × α)} {b : List (String × β)} (ha : Ascending a)
    (hb : Ascending b) : List.Forall₂ (fun x y => x.1 = y.1 ∧ R x.2 y.2) a b ↔
      ∀ name, Option.Rel R (lookup name a) (lookup name b) := by
  refine ⟨fun h name => rel_lookup name h, fun h => ?_⟩
  induction a generalizing b with
  | nil =>
    cases b with
    | nil => exact .nil
    | cons d restb => simpa [lookup] using h d.1
  | cons c resta ih =>
    cases b with
    | nil => simpa [lookup] using h c.1
    | cons d restb =>
      have hcd : c.1 = d.1 := first_eq ha hb fun name => isSome_eq_of_rel (h name)
      have hfirst : R c.2 d.2 := by
        have hrel := h c.1
        rw [lookup, if_pos rfl, lookup, if_pos hcd.symm] at hrel
        cases hrel
        assumption
      have hrest (name : String) : Option.Rel R (lookup name resta) (lookup name restb) := by
        rw [lookup_tail ha, lookup_tail hb, hcd]
        split
        · exact .none
        · exact h name
      exact .cons ⟨hcd, hfirst⟩
        (ih (List.pairwise_cons.1 ha).2 (List.pairwise_cons.1 hb).2 hrest)

end NameMap

/-! ## Calls as edits -/

/-- Only insertions leave something. -/
lemma ConfEdit.left?_eq_some_iff {e : ConfEdit} {c : Conf} : e.left? = some c ↔ e = .insert c := by
  cases e <;> simp [left?]

namespace ConfCall

/-- What a call does to a set, without its reply. -/
def edit : ConfCall → ConfEdit
  | .insert c | .add c => .insert c
  | .remove name => .remove name

/-- What a call replies that takes a configuration out of a set, or none. -/
def reply (former : Option Conf) : ConfCall → ConfReply
  | .insert _ | .remove _ => .former former
  | .add _ => .itself

end ConfCall

namespace ConfSet

variable {s t : ConfSet} {calls : List ConfCall} {name : String} {c : Conf}

/-- **One call** replies with what stands under its name and edits the set. -/
lemma call_eq (s : ConfSet) (k : ConfCall) :
    s.call k = (k.reply (s.get? k.edit.name), s.edit k.edit) := by
  cases k <;> rfl

/-- A set consists of what stands under a name and of what stands under others. -/
lemma toList_perm (s : ConfSet) (name : String) :
    s.toList.Perm ((s.get? name).toList ++ (s.erase name).toList) := by
  cases h : s.get? name with
  | none =>
    have hsame : s.erase name = s := ext_byName (NameMap.erase_of_get? h)
    rw [hsame, Option.toList_none, List.nil_append]
  | some c => exact NameMap.values_perm_of_get? h

/-- **An exchange**: an edit takes out what stands under its name, puts in what it brings, and
leaves everything else in the set. -/
lemma edit_perm (s : ConfSet) (e : ConfEdit) :
    (e.left?.toList ++ s.toList).Perm ((s.get? e.name).toList ++ (s.edit e).toList) := by
  cases e with
  | insert c =>
    calc List.Perm (c :: s.toList) (c :: ((s.get? c.name).toList ++ (s.erase c.name).toList)) :=
          (s.toList_perm c.name).cons c
      List.Perm _ ((s.get? c.name).toList ++ c :: (s.erase c.name).toList) := List.perm_middle.symm
      List.Perm _ ((s.get? c.name).toList ++ (s.insert c).toList) :=
        (s.byName.values_insert_perm c.name c).symm.append_left _
  | remove name => exact s.toList_perm name

/-- A run is made of its parts. -/
lemma run_append (s : ConfSet) (before after : List ConfCall) :
    s.run (before ++ after) = ((s.run before).1 ++ ((s.run before).2.run after).1,
      ((s.run before).2.run after).2) := by
  induction before generalizing s with
  | nil => rfl
  | cons k rest ih => simp only [List.cons_append, run, ih]

/-- There is one reply to each call. -/
lemma length_run (s : ConfSet) (calls : List ConfCall) : (s.run calls).1.length = calls.length := by
  induction calls generalizing s with
  | nil => rfl
  | cons k rest ih => simp only [run, List.length_cons, ih]

/-- The last call edits what the calls before it have left. -/
lemma run_concat (s : ConfSet) (calls : List ConfCall) (k : ConfCall) :
    (s.run (calls ++ [k])).2 = (s.run calls).2.edit k.edit := by
  simp only [run_append, run, call_eq]

/-! ## What stands under a name -/

/-- **What stands under a name** after calls to a set. -/
inductive Stands (s : ConfSet) (calls : List ConfCall) (name : String) (c : Conf) : Prop where
  /-- It was inserted under its name, and no later call concerns this name. -/
  | inserted {before after : List ConfCall} {k : ConfCall} (hcalls : calls = before ++ k :: after)
      (hk : k.edit = .insert c) (hname : c.name = name) (hlast : ∀ l ∈ after, l.edit.name ≠ name)
  /-- It stood there before, and no call concerns this name. -/
  | kept (hc : s.get? name = some c) (hnone : ∀ k ∈ calls, k.edit.name ≠ name)

/-- Without calls there stands what stood there before. -/
lemma stands_nil : Stands s [] name c ↔ s.get? name = some c := by
  constructor
  · intro h
    cases h with
    | inserted hcalls => simp at hcalls
    | kept hc hnone => exact hc
  · exact fun hc => .kept hc (by simp)

/-- **The last call** decides what stands under its name, and under no other one. -/
lemma stands_concat {k : ConfCall} : Stands s (calls ++ [k]) name c ↔
    if k.edit.name = name then k.edit.left? = some c else Stands s calls name c := by
  constructor
  · intro h
    cases h with
    | @inserted before after k' hcalls hk hname hlast =>
      rcases List.eq_nil_or_concat after with rfl | ⟨after, l, rfl⟩
      · obtain ⟨rfl, hlist⟩ := List.append_inj' hcalls rfl
        obtain rfl : k = k' := by simpa using hlist
        rw [hk, ConfEdit.name, if_pos hname, ConfEdit.left?]
      · have hcalls : calls ++ [k] = (before ++ k' :: after) ++ [l] := by simpa using hcalls
        obtain ⟨rfl, hlist⟩ := List.append_inj' hcalls rfl
        obtain rfl : k = l := by simpa using hlist
        rw [if_neg (hlast k (by simp))]
        exact .inserted rfl hk hname fun l hl => hlast l (by simp [hl])
    | kept hc hnone =>
      rw [if_neg (hnone k (by simp))]
      exact .kept hc fun l hl => hnone l (by simp [hl])
  · intro h
    split at h
    · next hname =>
      have hk := ConfEdit.left?_eq_some_iff.1 h
      rw [hk, ConfEdit.name] at hname
      exact .inserted rfl hk hname (by simp)
    · next hne =>
      cases h with
      | @inserted before after k' hcalls hk hname hlast =>
        refine .inserted (hcalls ▸ List.append_assoc before (k' :: after) [k]) hk hname
          fun l hl => ?_
        rcases List.mem_append.1 hl with hl | hl
        · exact hlast l hl
        · rwa [List.mem_singleton.1 hl]
      | kept hc hnone =>
        refine .kept hc fun l hl => ?_
        rcases List.mem_append.1 hl with hl | hl
        · exact hnone l hl
        · rwa [List.mem_singleton.1 hl]

/-- **What is found after a run** is what stands there.

**Proof sketch.** Induction on the run, from its end: the last call decides what stands under its
name, and it edits the set under this name alone. -/
theorem get?_run_eq_some_iff :
    (s.run calls).2.get? name = some c ↔ Stands s calls name c := by
  induction calls using List.reverseRecOn with
  | nil => exact stands_nil.symm
  | append_singleton calls k ih =>
    rw [run_concat, get?_edit, stands_concat]
    split
    · exact Iff.rfl
    · exact ih

/-! ## Sets compared with each other -/

/-- **Comparison entry by entry**, given how configurations are compared. This may be any relation,
also one by which a configuration is not the same as itself. -/
def AgreeBy (Same : Conf → Conf → Prop) (s t : ConfSet) : Prop :=
  List.Forall₂ (fun a b => a.1 = b.1 ∧ Same a.2 b.2) s.byName.entries t.byName.entries

/-- Both values are there and related, or both are missing. -/
lemma option_rel_iff {Same : Conf → Conf → Prop} {x y : Option Conf} : Option.Rel Same x y ↔
    (∃ c d, x = some c ∧ y = some d ∧ Same c d) ∨ (∀ c, x ≠ some c) ∧ ∀ d, y ≠ some d := by
  cases x <;> cases y <;> simp

/-- **Sets are compared name by name.** -/
lemma agreeBy_iff {Same : Conf → Conf → Prop} : AgreeBy Same s t ↔
    ∀ name, (∃ c d, s.get? name = some c ∧ t.get? name = some d ∧ Same c d) ∨
      (∀ c, s.get? name ≠ some c) ∧ ∀ d, t.get? name ≠ some d := by
  unfold AgreeBy
  rw [NameMap.forall₂_iff_lookup s.byName.ascending t.byName.ascending]
  exact forall_congr' fun name => option_rel_iff

/-- Sets are equal exactly if the same is found in them. -/
lemma eq_iff_get? : s = t ↔ ∀ name c, s.get? name = some c ↔ t.get? name = some c := by
  constructor
  · rintro rfl name c
    rfl
  · exact fun h => ext_get? fun name => Option.ext (h name)

/-! ## Sets made of lists -/

/-- The set of a list has a history of insertions. -/
lemma ofList_eq_edited (cs : List Conf) : ofList cs = edited (cs.map .insert) := by
  rw [edited, List.foldl_map]
  rfl

/-- In a list of configurations the last one with a name counts. -/
lemma get?_ofList (cs : List Conf) (name : String) :
    (ofList cs).get? name = (cs.filter (·.name = name)).getLast? := by
  rw [ofList_eq_edited, get?_edited, ConfEdit.standing, List.filter_map, List.getLast?_map,
    Option.bind_map]
  exact Option.bind_fun_some _

/-- **A set is made of its configurations** again, in whatever order they come. -/
lemma ofList_eq {cs : List Conf} (h : ∀ c, c ∈ cs ↔ s.get? c.name = some c) : ofList cs = s := by
  refine eq_iff_get?.2 fun name c => ?_
  rw [get?_ofList]
  have hmem {d : Conf} : d ∈ cs.filter (·.name = name) ↔ s.get? name = some d := by
    rw [List.mem_filter, h d, decide_eq_true_iff]
    constructor
    · rintro ⟨hd, rfl⟩
      exact hd
    · intro hd
      exact ⟨(name_of_get? hd).symm ▸ hd, name_of_get? hd⟩
  constructor
  · exact fun hlast => hmem.1 (List.mem_of_getLast? hlast)
  · intro hc
    obtain ⟨d, hlast⟩ : ∃ d, (cs.filter (·.name = name)).getLast? = some d :=
      Option.ne_none_iff_exists'.1 (mt List.getLast?_eq_none_iff.1 (List.ne_nil_of_mem (hmem.2 hc)))
    have hd := hmem.1 (List.mem_of_getLast? hlast)
    rw [hlast, ← hd, hc]

/-- The size of a set is the number of names under which there is something. -/
lemma encard_names (s : ConfSet) : {name | ∃ c, s.get? name = some c}.encard = s.size := by
  have hnames : {name | ∃ c, s.get? name = some c} = (s.names.toFinset : Set String) := by
    ext name
    rw [Finset.mem_coe, List.mem_toFinset]
    exact Option.isSome_iff_exists.symm.trans (s.byName.mem_names_iff name).symm
  have hnodup : s.names.Nodup := s.byName.nodup_names
  rw [hnames, Set.encard_coe_eq_coe_finsetCard, List.toFinset_card_of_nodup hnodup]
  exact congrArg Nat.cast (List.length_map _)

/-! ## All that a run leads to -/

/-- **A set keeps the last configuration of each name** in a run of calls. -/
structure KeepsLast (s : ConfSet) (calls : List ConfCall) : Prop where
  /-- Under each name what stands there is found. -/
  found : ∀ name c, (s.run calls).2.get? name = some c ↔ Stands s calls name c
  /-- What stands under some name is gone through, each configuration under its own name. -/
  listed : ∀ name c, (name, c) ∈ (s.run calls).2.byName.entries ↔
    c.name = name ∧ Stands s calls name c
  /-- This is done in strictly ascending order of the bytes of the names. -/
  ascending : (s.run calls).2.byName.entries.Pairwise fun a b => Name.bytes a.1 < Name.bytes b.1
  /-- No name comes twice. -/
  once : (s.run calls).2.names.Nodup
  /-- There are as many configurations as names under which something stands. -/
  counted : {name | ∃ c, Stands s calls name c}.encard = (s.run calls).2.size
  /-- There is a reply to each call. -/
  answered : (s.run calls).1.length = calls.length
  /-- A call that inserts or removes replies with what stands under its name before. This is what it
  takes out of the set, which keeps everything else and what the call inserts. -/
  replied : ∀ before k after, calls = before ++ k :: after → ∃ former : Option Conf,
    (∀ c, former = some c ↔ Stands s before k.edit.name c) ∧
    (s.run calls).1[before.length]? = some (k.reply former) ∧
    (k.edit.left?.toList ++ (s.run before).2.toList).Perm
      (former.toList ++ (s.run (before ++ [k])).2.toList)
  /-- Two runs, whatever they begin with, lead to the same set exactly if the same stands under
  every name. -/
  equal : ∀ t calls', (t.run calls').2 = (s.run calls).2 ↔
    ∀ name c, Stands t calls' name c ↔ Stands s calls name c
  /-- If configurations are compared in another way, so are the sets: name by name. -/
  compared : ∀ Same t calls', AgreeBy Same (s.run calls).2 (t.run calls').2 ↔
    ∀ name, (∃ c d, Stands s calls name c ∧ Stands t calls' name d ∧ Same c d) ∨
      (∀ c, ¬ Stands s calls name c) ∧ ∀ d, ¬ Stands t calls' name d
  /-- Whoever collects what stands, in whatever order, has the set again. -/
  collected : ∀ cs, (∀ c, c ∈ cs ↔ Stands s calls c.name c) → ofList cs = (s.run calls).2

/-- **The contents of a set** after any run of calls. -/
theorem keepsLast_run (s : ConfSet) (calls : List ConfCall) : s.KeepsLast calls where
  found _ _ := get?_run_eq_some_iff
  listed name c := by
    rw [← get?_run_eq_some_iff, NameMap.mem_entries_iff]
    exact ⟨fun h => ⟨name_of_get? h, h⟩, And.right⟩
  ascending := (s.run calls).2.byName.ascending.imp (Name.lt_iff_bytes_lt _ _).1
  once := (s.run calls).2.byName.nodup_names
  counted := by
    simp only [← get?_run_eq_some_iff]
    exact encard_names _
  answered := s.length_run calls
  replied := by
    rintro before k after rfl
    refine ⟨(s.run before).2.get? k.edit.name, fun c => get?_run_eq_some_iff, ?_, ?_⟩
    · rw [run_append, List.getElem?_append_right (Nat.le_of_eq (s.length_run before)), length_run,
        Nat.sub_self, run, call_eq]
      rfl
    · rw [run_concat]
      exact edit_perm _ _
  equal t calls' := by
    simp only [eq_iff_get?, get?_run_eq_some_iff]
  compared Same t calls' := by
    simp only [agreeBy_iff, get?_run_eq_some_iff, ne_eq]
  collected cs h := ofList_eq fun c => (h c).trans get?_run_eq_some_iff.symm

/-- A camera that was made for a pattern and then given a plain name. -/
def renamedCamera : Conf :=
  { name := "cam", pattern := some (wellFormed "^c" (by decide +kernel)) }

/-- Two cameras of one name, a door that comes and goes, a gate that was never there, and names that
begin with a capital letter and with a letter of two bytes. -/
def comings : List ConfCall :=
  [.insert { name := "étage" }, .add renamedCamera, .insert { name := "door" },
    .insert { name := "cam", maxReaders := 3 }, .remove "door", .remove "gate",
    .add { name := "Zoo" }]

/-- A set to begin with. -/
def hall : ConfSet := ofList [{ name := "hall" }]

/-- The renamed camera stands under its new name until the other one replaces it, the hall stays,
and the names come in the order of their bytes. Without what was replaced or removed, and in another
order, the same is left under every name. -/
theorem keepsLast_comings :
    hall.KeepsLast comings ∧
      (hall.run comings).2.names = ["Zoo", "cam", "hall", "étage"] ∧
      (hall.run comings).1 = [.former none, .itself, .former none, .former (some renamedCamera),
        .former (some { name := "door" }), .former none, .itself] ∧
      Stands hall (comings.take 3) "cam" renamedCamera ∧
      Stands hall comings "cam" { name := "cam", maxReaders := 3 } ∧
      ∀ name c, Stands empty [.add { name := "Zoo" }, .add { name := "hall" },
        .add { name := "cam", maxReaders := 3 }, .add { name := "étage" }] name c ↔
          Stands hall comings name c := by
  have hkeeps := keepsLast_run hall comings
  have hearly := keepsLast_run hall (comings.take 3)
  exact ⟨hkeeps, by decide +kernel, by decide +kernel, (hearly.found _ _).1 (by decide +kernel),
    (hkeeps.found _ _).1 (by decide +kernel), (hkeeps.equal _ _).1 (by decide +kernel)⟩

end ConfSet

end LivePaths
