import Mathlib
import LivePaths.Proofs.Conf.Lookup

set_option relaxedAutoImplicit false
set_option autoImplicit false

/-!
# Look-ups in sets with a history

A set of configurations is built by insertions and removals. What stands under a name afterwards is
what the last of them that concerns this name has left, and this is all that a look-up depends on,
besides the way to match patterns with names, which may be any one.

## Main definitions

* `ConfEdit`, `ConfSet.edited` — insertions and removals, and the set that they build.
* `ConfEdit.standing` — what they leave under a name.
* `ConfSet.FindsIn` — what a history says about the look-up of a name.

## Main results

* `ConfSet.get?_edited` — what stands in a set with a history.
* `ConfEdit.standing_perm` — edits of different names can change places.
* `ConfSet.findsIn_edited` — the look-up of a name in a set with a history.
-/

namespace LivePaths

/-! ## Histories -/

/-- **Edits** of a set of configurations. -/
inductive ConfEdit where
  | insert (c : Conf)
  | remove (name : String)
  deriving DecidableEq

namespace ConfEdit

/-- The name that an edit concerns. -/
def name : ConfEdit → String
  | .insert c => c.name
  | .remove name => name

/-- What an edit leaves under its name. -/
def left? : ConfEdit → Option Conf
  | .insert c => some c
  | .remove _ => none

/-- **What a history leaves** under a name: what the last edit that concerns this name has left. -/
def standing (es : List ConfEdit) (name : String) : Option Conf :=
  (es.filter (·.name = name)).getLast?.bind left?

/-- The last edit counts for its name, and for no other one. -/
lemma standing_append_singleton (es : List ConfEdit) (e : ConfEdit) (name : String) :
    standing (es ++ [e]) name = if e.name = name then e.left? else standing es name := by
  unfold standing
  rw [List.filter_append]
  by_cases h : e.name = name
  · rw [List.filter_cons_of_pos (by simpa using h), List.filter_nil, List.getLast?_concat, if_pos h,
      Option.bind_some]
  · rw [List.filter_cons_of_neg (by simpa using h), List.filter_nil, List.append_nil, if_neg h]

/-- An edit does not matter for other names, whenever it is made. -/
lemma standing_append_cons_of_ne (before after : List ConfEdit) {e : ConfEdit} {name : String}
    (h : e.name ≠ name) :
    standing (before ++ e :: after) name = standing (before ++ after) name := by
  unfold standing
  rw [List.filter_append, List.filter_append, List.filter_cons_of_neg (by simpa using h)]

/-- **Edits of different names** can change places.

**Proof sketch.** At most one of them concerns a given name, before and after. -/
lemma standing_perm {es es' : List ConfEdit} (hp : es'.Perm es) (hn : (es.map ConfEdit.name).Nodup)
    (name : String) : standing es' name = standing es name := by
  have hfilter : (es'.filter (·.name = name)).Perm (es.filter (·.name = name)) := hp.filter _
  have hshort : (es.filter (·.name = name)).length ≤ 1 := by
    have hcount := List.nodup_iff_count_le_one.1 hn name
    rw [List.count, List.countP_map, List.countP_eq_length_filter] at hcount
    refine Nat.le_trans (Nat.le_of_eq ?_) hcount
    exact congrArg List.length (List.filter_congr fun e _ => (beq_eq_decide ..).symm)
  have hsame : es'.filter (·.name = name) = es.filter (·.name = name) := by
    cases hes : es.filter (·.name = name) with
    | nil => exact List.Perm.eq_nil (hes ▸ hfilter)
    | cons e rest =>
      obtain rfl : rest = [] := by
        rw [hes, List.length_cons] at hshort
        exact List.length_eq_zero_iff.1 (by omega)
      exact List.perm_singleton.1 (hes ▸ hfilter)
  unfold standing
  rw [hsame]

end ConfEdit

namespace ConfSet

/-- The set after an edit. -/
def edit (s : ConfSet) : ConfEdit → ConfSet
  | .insert c => s.insert c
  | .remove name => s.erase name

/-- **The set with a history**, which begins with nothing. -/
def edited (es : List ConfEdit) : ConfSet := es.foldl edit empty

/-- **One edit** concerns its name alone. -/
lemma get?_edit (s : ConfSet) (e : ConfEdit) (name : String) :
    (s.edit e).get? name = if e.name = name then e.left? else s.get? name := by
  cases e with
  | insert c => exact s.get?_insert c name
  | remove n => exact s.get?_erase n name

/-- **What stands under a name** is what the history has left there.

**Proof sketch.** Induction on the history, from its end. -/
theorem get?_edited (es : List ConfEdit) (name : String) :
    (edited es).get? name = ConfEdit.standing es name := by
  induction es using List.reverseRecOn with
  | nil => rfl
  | append_singleton es e ih =>
    have hlast : edited (es ++ [e]) = (edited es).edit e := List.foldl_append
    rw [hlast, get?_edit, ConfEdit.standing_append_singleton, ih]

/-- Histories that leave the same build the same set. -/
lemma edited_congr {es es' : List ConfEdit}
    (h : ∀ n, ConfEdit.standing es' n = ConfEdit.standing es n) : edited es' = edited es :=
  ext_get? fun n => by rw [get?_edited, get?_edited, h n]

/-! ## Look-ups -/

/-- **Looking up a name** in a set with a history. -/
structure FindsIn (m : Matching) (es : List ConfEdit) (name : String) : Prop where
  /-- The answer is decided by what the history has left under each name. -/
  answer : ∀ a, (edited es).find m name = a ↔ Lookup m (ConfEdit.standing es) name a
  /-- A name is refused exactly if it is no path name: if it is empty, has a slash at one of its
  ends, or has a character that is not allowed. -/
  refused : (∃ reason, (edited es).find m name = .error (.invalidName name reason)) ↔
    name.toList = [] ∨ name.toList.head? = some '/' ∨ name.toList.getLast? = some '/' ∨
      ∃ c ∈ name.toList, Name.isAllowed c = false
  /-- Another history that leaves the same gives the same answer. -/
  remade : ∀ es', (∀ n, ConfEdit.standing es' n = ConfEdit.standing es n) →
    (edited es').find m name = (edited es).find m name
  /-- In particular the order of edits of different names does not matter. -/
  rearranged : ∀ es', es'.Perm es → (es.map ConfEdit.name).Nodup →
    (edited es').find m name = (edited es).find m name
  /-- An edit, whenever it is made, does not change the answer, unless what stands under its name
  governs the name with it or without it. -/
  unaffected : ∀ before e after, es = before ++ e :: after →
    ¬ (edited (before ++ after)).Wins m name e.name → ¬ (edited es).Wins m name e.name →
      (edited es).find m name = (edited (before ++ after)).find m name

/-- What is wrong with a text that is no path name. -/
lemma invalid_iff_not_isValid (name : String) :
    (name.toList = [] ∨ name.toList.head? = some '/' ∨ name.toList.getLast? = some '/' ∨
      ∃ c ∈ name.toList, Name.isAllowed c = false) ↔ ¬ Name.IsValid name := by
  simp only [Name.isValid_iff, ne_eq, not_and_or, not_not, not_forall, Bool.not_eq_true,
    exists_prop]

/-- **The look-up of a name** in any set with a history, for any way to match. -/
theorem findsIn_edited (m : Matching) (es : List ConfEdit) (name : String) :
    FindsIn m es name := by
  have hstanding : (edited es).get? = ConfEdit.standing es := funext (get?_edited es)
  refine ⟨fun a => ?_, ?_, fun es' h => ?_, fun es' hp hn => ?_, fun before e after hes h h' => ?_⟩
  · rw [find_eq_iff, hstanding]
  · rw [invalid_iff_not_isValid]
    constructor
    · rintro ⟨reason, hfind⟩ hvalid
      cases (find_eq_iff _ m name _).1 hfind with
      | invalid hfault => exact Option.some_ne_none _ (hfault.symm.trans hvalid)
    · intro hinvalid
      obtain ⟨f, hfault⟩ := Option.ne_none_iff_exists'.1 hinvalid
      exact ⟨_, find_of_fault hfault⟩
  · rw [edited_congr h]
  · rw [edited_congr (ConfEdit.standing_perm hp hn)]
  · refine find_congr_of_ne (fun n hne => ?_) h' h
    rw [get?_edited, get?_edited, hes, ConfEdit.standing_append_cons_of_ne before after hne.symm]

/-- A well-formed expression has a program. -/
lemma program?_eq_some_get {expression : String}
    (h : (Pattern.program? expression).isSome = true) :
    Pattern.program? expression = some ((Pattern.program? expression).get h) :=
  (Option.some_get h).symm

/-- The pattern of a well-formed expression. -/
def wellFormed (expression : String) (h : (Pattern.program? expression).isSome = true) : Pattern :=
  ⟨expression, (Pattern.program? expression).get h, program?_eq_some_get h⟩

/-- Everything, what begins like a camera, cameras with one digit, which stand under a name without
a tilde, and a door; what was never there is removed. -/
def cameras : List ConfEdit :=
  [.insert { name := Conf.allOthers, pattern := some (wellFormed "^" (by decide +kernel)) },
    .insert { name := "~^ca", pattern := some (wellFormed "^ca" (by decide +kernel)) },
    .insert { name := "cam1", pattern := some (wellFormed "^cam([0-9])$" (by decide +kernel)) },
    .insert { name := "door" }, .remove "gate"]

/-- The name of what governs a name, with what is captured. -/
def governor (es : List ConfEdit) (name : String) : Option (String × List String) :=
  (edited es).find .engine name |>.toOption.map fun found => (found.conf.name, found.captures)

/-- The camera is governed by the lesser one of two names with a pattern that matches, in whichever
order they came; this name is its own one, and the door does not matter. -/
theorem findsIn_cameras :
    FindsIn .engine cameras "cam1" ∧
      ["cam1", "cam22", "door", "hall", "the hall"].map (governor cameras) =
        [some ("cam1", ["cam1", "1"]), some ("~^ca", ["ca"]), some ("door", []),
          some (Conf.allOthers, [""]), none] ∧
      (edited cameras.reverse).find .engine "cam1" = (edited cameras).find .engine "cam1" ∧
      (edited cameras).find .engine "cam1" =
        (edited (cameras.take 3 ++ [.remove "gate"])).find .engine "cam1" := by
  have hloses {es : List ConfEdit} (h : governor es "cam1" = some ("cam1", ["cam1", "1"])) :
      ¬ (edited es).Wins .engine "cam1" "door" := by
    rintro ⟨found, hfind, hname⟩
    simp [governor, hfind, Except.toOption, hname] at h
  have hfinds := findsIn_edited .engine cameras "cam1"
  exact ⟨hfinds, by cbv, hfinds.rearranged _ cameras.reverse_perm (by decide),
    hfinds.unaffected (cameras.take 3) (.insert { name := "door" }) [.remove "gate"] rfl
      (hloses (by cbv)) (hloses (by cbv))⟩

end ConfSet

end LivePaths
