import Mathlib.Data.List.Nodup
import LivePaths.Conf.Set
import LivePaths.Proofs.ByteOrder

set_option relaxedAutoImplicit false
set_option autoImplicit false

/-!
# Which configuration governs a name

The configuration that governs a name is found by trying them in an order. Which one it is can be
said without this order, by what stands under each name of the set. All this holds for whatever way
to match patterns with names.

## Main definitions

* `ConfSet.governing?` — what governs a name.
* `ConfSet.Lookup` — the answer about a name, by what stands under each name.
* `ConfSet.Wins` — whose configuration governs a name.

## Main results

* `ConfSet.find_of_fault`, `ConfSet.find_of_valid` — a look-up checks the name first.
* `ConfSet.find_eq_iff` — the look-up gives the answer.
* `ConfSet.get?_of_find`, `ConfSet.name_of_find`, `ConfSet.find_fixed` — what governs a name, and
  what is governed.
* `ConfSet.find_congr_of_ne` — what does not win is not looked at.
-/

namespace LivePaths

/-- **What the pattern of a configuration captures** in a name; nothing if it has no pattern or does
not match. -/
def Conf.captures? (m : Matching) (c : Conf) (name : String) : Option (List String) :=
  c.pattern.bind (m.captures? · name)

/-- Whoever captures something has a pattern. -/
lemma Conf.hasPattern_of_captures? {m : Matching} {c : Conf} {name : String}
    {captures : List String} (h : c.captures? m name = some captures) : c.hasPattern = true := by
  obtain ⟨p, hp, -⟩ := Option.bind_eq_some_iff.1 h
  exact Option.isSome_iff_exists.2 ⟨p, hp⟩

namespace ConfSet

variable {m : Matching} {s t : ConfSet} {name : String} {found : Found}

/-! ## Entries -/

lemma mem_toList {c : Conf} : c ∈ s.toList ↔ s.get? c.name = some c := by
  unfold toList get?
  rw [NameMap.mem_values_iff]
  constructor
  · rintro ⟨name, h⟩
    rwa [name_of_get? h]
  · exact fun h => ⟨c.name, h⟩

variable (s) in
/-- The configurations come in strictly ascending order of their names. -/
lemma ascending_toList : s.toList.Pairwise fun c d => c.name < d.name := by
  unfold toList NameMap.values
  rw [List.pairwise_map]
  refine List.Pairwise.imp_of_mem (fun {a b} ha hb h => ?_) s.byName.ascending
  rwa [s.keyed a ha, s.keyed b hb]

variable (s) in
/-- No two configurations of a set have the same name. -/
lemma nodup_names : (s.toList.map Conf.name).Nodup := by
  rw [List.Nodup, List.pairwise_map]
  exact s.ascending_toList.imp fun h => String.ne_of_lt h

lemma mem_fixed {c : Conf} : c ∈ s.fixed ↔ s.get? c.name = some c ∧ c.hasPattern = false := by
  simp [fixed, mem_toList]

/-- Sets with the same look-ups are equal. -/
lemma ext_get? (h : ∀ name, s.get? name = t.get? name) : s = t := ext_byName (NameMap.ext_get? h)

/-! ## Fixed names -/

lemma fixed?_eq_some_iff : s.fixed? name = some found ↔
    ∃ c, s.get? name = some c ∧ c.pattern = none ∧ found = ⟨c, []⟩ := by
  unfold fixed?
  cases hc : s.get? name with
  | none => simp
  | some c => cases hp : c.pattern <;> simp [Conf.hasPattern, hp, eq_comm]

lemma fixed?_eq_none_iff :
    s.fixed? name = none ↔ ∀ c, s.get? name = some c → c.pattern ≠ none := by
  unfold fixed?
  cases hc : s.get? name with
  | none => simp
  | some c => cases hp : c.pattern <;> simp [Conf.hasPattern, hp]

/-! ## Patterns -/

lemma matched?_eq (m : Matching) (name : String) (c : Conf) :
    matched? m name c = (c.captures? m name).map fun captures => ⟨c, captures⟩ := by
  unfold matched? Conf.captures?
  cases c.pattern with
  | none => rfl
  | some p => cases hp : m.captures? p name <;> simp [hp]

lemma matched?_eq_some_iff {c : Conf} : matched? m name c = some found ↔
    c.captures? m name = some found.captures ∧ found.conf = c := by
  rw [matched?_eq, Option.map_eq_some_iff]
  constructor
  · rintro ⟨captures, h, rfl⟩
    exact ⟨h, rfl⟩
  · rintro ⟨h, rfl⟩
    exact ⟨_, h, rfl⟩

lemma matched?_eq_none_iff {c : Conf} : matched? m name c = none ↔ c.captures? m name = none := by
  rw [matched?_eq, Option.map_eq_none_iff]

/-- **The first hit** in a list in ascending order is the one with the least name. -/
lemma findSome?_eq_some_iff_least {cs : List Conf} (hcs : cs.Pairwise fun c d => c.name < d.name)
    {f : Conf → Option Found} : cs.findSome? f = some found ↔
      ∃ c ∈ cs, f c = some found ∧ ∀ d ∈ cs, (f d).isSome = true → ¬ d.name < c.name := by
  constructor
  · intro h
    obtain ⟨before, c, after, rfl, hc, hbefore⟩ := List.findSome?_eq_some_iff.1 h
    obtain ⟨-, hafter, -⟩ := List.pairwise_append.1 hcs
    refine ⟨c, List.mem_append_right _ List.mem_cons_self, hc, fun d hd hsome => ?_⟩
    rcases List.mem_append.1 hd with hd | hd
    · simp [hbefore d hd] at hsome
    · rcases List.mem_cons.1 hd with rfl | hd
      · exact String.lt_irrefl _
      · exact String.lt_asymm ((List.pairwise_cons.1 hafter).1 d hd)
  · rintro ⟨c, hc, hfc, hleast⟩
    obtain ⟨before, after, rfl⟩ := List.append_of_mem hc
    obtain ⟨-, -, hacross⟩ := List.pairwise_append.1 hcs
    refine List.findSome?_eq_some_iff.2 ⟨before, c, after, rfl, hfc, fun d hd => ?_⟩
    refine Option.not_isSome_iff_eq_none.1 fun hsome => ?_
    exact hleast d (List.mem_append_left _ hd) hsome (hacross d hd c List.mem_cons_self)

/-- The configurations whose patterns are tried before the one for all others. -/
def proper (s : ConfSet) : List Conf := s.toList.filter (·.name ≠ Conf.allOthers)

lemma mem_proper {c : Conf} :
    c ∈ s.proper ↔ s.get? c.name = some c ∧ c.name ≠ Conf.allOthers := by
  simp [proper, mem_toList]

variable (s) in
lemma ascending_proper : s.proper.Pairwise fun c d => c.name < d.name :=
  s.ascending_toList.sublist List.filter_sublist

/-- All others come last. -/
lemma findSome?_candidates (f : Conf → Option Found) : s.candidates.findSome? f =
    (s.proper.findSome? f).or ((s.get? Conf.allOthers).bind f) := by
  unfold candidates proper
  rw [List.findSome?_append]
  cases s.get? Conf.allOthers <;> simp

/-- Of those that match the one with the least name is taken. -/
lemma findSome?_proper_eq_some_iff : s.proper.findSome? (matched? m name) = some found ↔
    s.get? found.conf.name = some found.conf ∧ found.conf.name ≠ Conf.allOthers ∧
      found.conf.captures? m name = some found.captures ∧
      ∀ other d, s.get? other = some d → other ≠ Conf.allOthers →
        (d.captures? m name).isSome = true → ¬ other < found.conf.name := by
  rw [findSome?_eq_some_iff_least s.ascending_proper]
  constructor
  · rintro ⟨c, hc, hmatched, hleast⟩
    obtain ⟨hcaptures, rfl⟩ := matched?_eq_some_iff.1 hmatched
    obtain ⟨hget, hother⟩ := mem_proper.1 hc
    refine ⟨hget, hother, hcaptures, fun other d hd hne hsome => ?_⟩
    obtain rfl := name_of_get? hd
    refine hleast d (mem_proper.2 ⟨hd, hne⟩) ?_
    rwa [matched?_eq, Option.isSome_map]
  · rintro ⟨hget, hother, hcaptures, hleast⟩
    refine ⟨found.conf, mem_proper.2 ⟨hget, hother⟩, matched?_eq_some_iff.2 ⟨hcaptures, rfl⟩,
      fun d hd hsome => ?_⟩
    obtain ⟨hd, hne⟩ := mem_proper.1 hd
    rw [matched?_eq, Option.isSome_map] at hsome
    exact hleast d.name d hd hne hsome

/-- None is taken if none matches. -/
lemma findSome?_proper_eq_none_iff : s.proper.findSome? (matched? m name) = none ↔
    ∀ other d, s.get? other = some d → other ≠ Conf.allOthers → d.captures? m name = none := by
  rw [List.findSome?_eq_none_iff]
  constructor
  · intro h other d hd hne
    obtain rfl := name_of_get? hd
    exact matched?_eq_none_iff.1 (h d (mem_proper.2 ⟨hd, hne⟩))
  · intro h d hd
    obtain ⟨hd, hne⟩ := mem_proper.1 hd
    exact matched?_eq_none_iff.2 (h d.name d hd hne)

/-! ## The governing configuration -/

/-- **What governs a name**, if anything does: the configuration of this name without a pattern, or
else the first one whose pattern matches. -/
def governing? (s : ConfSet) (m : Matching) (name : String) : Option Found :=
  match s.fixed? name with
  | some found => some found
  | none => s.candidates.findSome? (matched? m name)

/-- A name is refused before anything else is looked at. -/
lemma find_of_fault {f : NameFault} (h : Name.fault? name = some f) :
    s.find m name = .error (.invalidName name (.fault f)) := by
  simp [find, Name.check, h, bind, Except.bind]

/-- The name of a path has what governs it, or nothing. -/
lemma find_of_valid (h : Name.fault? name = none) :
    s.find m name =
      match s.governing? m name with
      | some found => .ok found
      | none => .error (.notFound name) := by
  simp only [find, Name.check, h, bind, Except.bind, governing?]
  cases s.fixed? name with
  | some found => rfl
  | none => rfl

/-- What governs a name is fixed, the first of those that match, or for all others. -/
lemma governing?_eq : s.governing? m name = (s.fixed? name).or
    ((s.proper.findSome? (matched? m name)).or
      ((s.get? Conf.allOthers).bind (matched? m name))) := by
  unfold governing?
  rw [findSome?_candidates]
  cases s.fixed? name <;> rfl

/-- **The answer about a name**, if `stored` says what stands under each name. -/
inductive Lookup (m : Matching) (stored : String → Option Conf) (name : String) :
    Except PathError Found → Prop where
  /-- What is no path name is refused. -/
  | invalid {f : NameFault} (hfault : Name.fault? name = some f) :
      Lookup m stored name (.error (.invalidName name (.fault f)))
  /-- What stands under this very name governs it if it has no pattern; nothing is captured. -/
  | fixed {c : Conf} (hvalid : Name.IsValid name) (hc : stored name = some c)
      (hpattern : c.pattern = none) : Lookup m stored name (.ok ⟨c, []⟩)
  /-- Else, all others aside, of those whose patterns match the one that stands under the least name
  in the order of bytes. -/
  | pattern {key : String} {c : Conf} {captures : List String} (hvalid : Name.IsValid name)
      (hfixed : ∀ d, stored name = some d → d.pattern ≠ none)
      (hc : stored key = some c) (hkey : key ≠ Conf.allOthers)
      (hcaptures : c.captures? m name = some captures)
      (hleast : ∀ other d, stored other = some d → other ≠ Conf.allOthers →
        (d.captures? m name).isSome = true → Name.bytes key ≤ Name.bytes other) :
      Lookup m stored name (.ok ⟨c, captures⟩)
  /-- Else what stands under the name for all others, if it has a pattern that matches. -/
  | allOthers {c : Conf} {captures : List String} (hvalid : Name.IsValid name)
      (hfixed : ∀ d, stored name = some d → d.pattern ≠ none)
      (hnone : ∀ other d, stored other = some d → other ≠ Conf.allOthers →
        d.captures? m name = none)
      (hc : stored Conf.allOthers = some c) (hcaptures : c.captures? m name = some captures) :
      Lookup m stored name (.ok ⟨c, captures⟩)
  /-- Else nothing governs the name. -/
  | nothing (hvalid : Name.IsValid name)
      (hfixed : ∀ d, stored name = some d → d.pattern ≠ none)
      (hnone : ∀ other d, stored other = some d → d.captures? m name = none) :
      Lookup m stored name (.error (.notFound name))

/-- The least name is the one with the least bytes. -/
lemma not_lt_iff_bytes_le {a b : String} : ¬ b < a ↔ Name.bytes a ≤ Name.bytes b := by
  rw [Name.lt_iff_bytes_lt, List.not_lt]

/-- A look-up gives an answer.

**Proof sketch.** What governs the name is the first of three kinds that there is: the cases are
those of the search. -/
lemma lookup_find (s : ConfSet) (m : Matching) (name : String) :
    Lookup m s.get? name (s.find m name) := by
  cases hfault : Name.fault? name with
  | some f =>
    rw [find_of_fault hfault]
    exact .invalid hfault
  | none =>
    rw [find_of_valid hfault, governing?_eq]
    cases hfixed : s.fixed? name with
    | some found =>
      obtain ⟨c, hc, hpattern, rfl⟩ := fixed?_eq_some_iff.1 hfixed
      exact .fixed hfault hc hpattern
    | none =>
      have hnofixed := fixed?_eq_none_iff.1 hfixed
      cases hproper : s.proper.findSome? (matched? m name) with
      | some found =>
        obtain ⟨hc, hkey, hcaptures, hleast⟩ := findSome?_proper_eq_some_iff.1 hproper
        exact .pattern hfault hnofixed hc hkey hcaptures fun other d hd hne hsome =>
          not_lt_iff_bytes_le.1 (hleast other d hd hne hsome)
      | none =>
        have hnone := findSome?_proper_eq_none_iff.1 hproper
        cases hothers : (s.get? Conf.allOthers).bind (matched? m name) with
        | some found =>
          obtain ⟨c, hc, hmatched⟩ := Option.bind_eq_some_iff.1 hothers
          obtain ⟨hcaptures, rfl⟩ := matched?_eq_some_iff.1 hmatched
          exact .allOthers hfault hnofixed hnone hc hcaptures
        | none =>
          refine .nothing hfault hnofixed fun other d hd => ?_
          by_cases hne : other = Conf.allOthers
          · subst hne
            rw [hd, Option.bind_some] at hothers
            exact matched?_eq_none_iff.1 hothers
          · exact hnone other d hd hne

/-- There is one answer only. -/
lemma Lookup.find_eq {answer : Except PathError Found} (h : Lookup m s.get? name answer) :
    s.find m name = answer := by
  have hothers {c : Conf} (hc : s.get? Conf.allOthers = some c) :
      (s.get? Conf.allOthers).bind (matched? m name) = matched? m name c := by
    rw [hc, Option.bind_some]
  cases h with
  | invalid hfault => exact find_of_fault hfault
  | fixed hvalid hc hpattern =>
    rw [find_of_valid hvalid, governing?_eq, fixed?_eq_some_iff.2 ⟨_, hc, hpattern, rfl⟩]
    rfl
  | @pattern key c captures hvalid hfixed hc hkey hcaptures hleast =>
    obtain rfl := name_of_get? hc
    have hproper : s.proper.findSome? (matched? m name) = some ⟨c, captures⟩ :=
      findSome?_proper_eq_some_iff.2 ⟨hc, hkey, hcaptures, fun other d hd hne hsome =>
        not_lt_iff_bytes_le.2 (hleast other d hd hne hsome)⟩
    rw [find_of_valid hvalid, governing?_eq, fixed?_eq_none_iff.2 hfixed, hproper]
    rfl
  | @allOthers c captures hvalid hfixed hnone hc hcaptures =>
    have hmatched : matched? m name c = some ⟨c, captures⟩ :=
      matched?_eq_some_iff.2 ⟨hcaptures, rfl⟩
    rw [find_of_valid hvalid, governing?_eq, fixed?_eq_none_iff.2 hfixed,
      findSome?_proper_eq_none_iff.2 hnone, hothers hc, hmatched]
    rfl
  | nothing hvalid hfixed hnone =>
    have hlast : (s.get? Conf.allOthers).bind (matched? m name) = none :=
      Option.bind_eq_none_iff.2 fun c hc => matched?_eq_none_iff.2 (hnone _ c hc)
    rw [find_of_valid hvalid, governing?_eq, fixed?_eq_none_iff.2 hfixed,
      findSome?_proper_eq_none_iff.2 fun other d hd _ => hnone other d hd, hlast]
    rfl

/-- **The look-up gives the answer**, and no other one. -/
theorem find_eq_iff (s : ConfSet) (m : Matching) (name : String)
    (answer : Except PathError Found) :
    s.find m name = answer ↔ Lookup m s.get? name answer :=
  ⟨fun h => h ▸ s.lookup_find m name, Lookup.find_eq⟩

/-- What governs a name is found under its own name, without a pattern if this is the name that was
looked up. -/
lemma get?_of_find (h : s.find m name = .ok found) :
    s.get? found.conf.name = some found.conf := by
  cases (s.find_eq_iff m name _).1 h with
  | fixed hvalid hc hpattern => rwa [name_of_get? hc]
  | pattern hvalid hfixed hc => rwa [name_of_get? hc]
  | allOthers hvalid hfixed hnone hc => rwa [name_of_get? hc]

/-- What governs a name has a pattern or this name. -/
lemma name_of_find (h : s.find m name = .ok found) :
    found.conf.hasPattern = true ∨ found.conf ∈ s.fixed ∧ found.conf.name = name := by
  cases (s.find_eq_iff m name _).1 h with
  | @fixed c hvalid hc hpattern =>
    have hname : c.name = name := name_of_get? hc
    refine .inr ⟨mem_fixed.2 ⟨hname.symm ▸ hc, by simp [Conf.hasPattern, hpattern]⟩, hname⟩
  | pattern hvalid hfixed hc hkey hcaptures => exact .inl (Conf.hasPattern_of_captures? hcaptures)
  | allOthers hvalid hfixed hnone hc hcaptures =>
    exact .inl (Conf.hasPattern_of_captures? hcaptures)

/-- A configuration without a pattern governs the path of its name. -/
lemma find_fixed {c : Conf} (hc : c ∈ s.fixed) (hv : Name.IsValid c.name) :
    s.find m c.name = .ok ⟨c, []⟩ := by
  obtain ⟨hget, hpattern⟩ := mem_fixed.1 hc
  exact (s.find_eq_iff m c.name _).2 (.fixed hv hget (by simpa [Conf.hasPattern] using hpattern))

/-! ## What does not win -/

/-- **The winner**: a name is governed by what stands under a key. -/
def Wins (s : ConfSet) (m : Matching) (name key : String) : Prop :=
  ∃ found, s.find m name = .ok found ∧ found.conf.name = key

/-- **The answer stays** if something is taken away, but not what governs the name. -/
lemma Lookup.restrict {stored stored' : String → Option Conf} {answer : Except PathError Found}
    (h : Lookup m stored name answer) (hsub : ∀ n d, stored' n = some d → stored n = some d)
    (hkept : ∀ n found, answer = .ok found → stored n = some found.conf →
      stored' n = some found.conf) : Lookup m stored' name answer := by
  cases h with
  | invalid hfault => exact .invalid hfault
  | fixed hvalid hc hpattern => exact .fixed hvalid (hkept _ _ rfl hc) hpattern
  | pattern hvalid hfixed hc hkey hcaptures hleast =>
    exact .pattern hvalid (fun d hd => hfixed d (hsub _ d hd)) (hkept _ _ rfl hc) hkey hcaptures
      fun other d hd => hleast other d (hsub other d hd)
  | allOthers hvalid hfixed hnone hc hcaptures =>
    exact .allOthers hvalid (fun d hd => hfixed d (hsub _ d hd))
      (fun other d hd => hnone other d (hsub other d hd)) (hkept _ _ rfl hc) hcaptures
  | nothing hvalid hfixed hnone =>
    exact .nothing hvalid (fun d hd => hfixed d (hsub _ d hd))
      fun other d hd => hnone other d (hsub other d hd)

/-- What does not govern a name can be removed. -/
lemma find_erase {key : String} (h : ¬ s.Wins m name key) :
    (s.erase key).find m name = s.find m name := by
  refine ((s.erase key).find_eq_iff m name _).2 ((s.lookup_find m name).restrict ?_ ?_)
  · intro n d hd
    rw [get?_erase] at hd
    split at hd
    · cases hd
    · exact hd
  · intro n found hfound hn
    have hne : key ≠ n := fun hkey => h ⟨found, hfound, (name_of_get? hn).trans hkey.symm⟩
    rw [get?_erase, if_neg hne]
    exact hn

/-- **What does not win is not looked at**: sets that differ only in what stands under a key give
the same answer about a name that is governed by neither. -/
theorem find_congr_of_ne {key : String} (hst : ∀ n, n ≠ key → s.get? n = t.get? n)
    (hs : ¬ s.Wins m name key) (ht : ¬ t.Wins m name key) : s.find m name = t.find m name := by
  have herase : s.erase key = t.erase key := ext_get? fun n => by
    rw [get?_erase, get?_erase]
    split
    · rfl
    · next hne => exact hst n (Ne.symm hne)
  rw [← find_erase hs, ← find_erase ht, herase]

end ConfSet

end LivePaths
