import LivePaths.Conf.Reload
import LivePaths.NameMap

set_option relaxedAutoImplicit false
set_option autoImplicit false

/-!
# Sets of configurations

All configurations of a server, each under its own name, and the rule that says which of them
governs a path.

## Main definitions

* `ConfSet` — the sets, with `ConfSet.insert`, `ConfSet.erase` and `ConfSet.get?`.
* `ConfSet.find` — the configuration that governs a path, and the captures of its pattern.
* `ConfSet.changeOf`, `ConfSet.namesWith` — what becomes of configurations when a set replaces
  another.

## Main results

* `ConfSet.get?_insert`, `ConfSet.get?_erase` — what the operations do to look-ups.
-/

namespace LivePaths

/-- **Set of configurations**, each under its own name. -/
structure ConfSet where
  byName : NameMap Conf
  /-- Every configuration stands under its own name. -/
  keyed : ∀ e ∈ byName.entries, e.2.name = e.1

namespace ConfSet

/-! ## Operations -/

/-- The set without configurations. -/
def empty : ConfSet := ⟨.empty, by simp [NameMap.empty]⟩

instance : Inhabited ConfSet := ⟨empty⟩

/-- Sets with the same entries are equal. -/
theorem ext_byName {s t : ConfSet} (h : s.byName = t.byName) : s = t := by
  cases s; cases t; cases h; rfl

instance : DecidableEq ConfSet := fun s t =>
  if h : s.byName = t.byName then isTrue (ext_byName h)
  else isFalse fun e => h (congrArg byName e)

/-- The configuration of a name. -/
def get? (s : ConfSet) (name : String) : Option Conf := s.byName.get? name

/-- **Insertion** of a configuration, instead of one of the same name. -/
def insert (s : ConfSet) (c : Conf) : ConfSet :=
  ⟨s.byName.insert c.name c, fun e he => by
    rcases NameMap.mem_insertEntry he with rfl | he
    · rfl
    · exact s.keyed e he⟩

/-- Inserts a configuration and gives the one that it replaces. -/
def getThenInsert (s : ConfSet) (c : Conf) : Option Conf × ConfSet :=
  (s.get? c.name, s.insert c)

/-- **Removal** of the configuration of a name. -/
def erase (s : ConfSet) (name : String) : ConfSet :=
  ⟨s.byName.erase name, fun e he => s.keyed e (List.mem_filter.1 he).1⟩

/-- Removes the configuration of a name and gives it. -/
def getThenErase (s : ConfSet) (name : String) : Option Conf × ConfSet :=
  (s.get? name, s.erase name)

/-- The names, in ascending order. -/
def names (s : ConfSet) : List String := s.byName.names

/-- The configurations, in the order of their names. -/
def toList (s : ConfSet) : List Conf := s.byName.values

/-- How many configurations there are. -/
def size (s : ConfSet) : Nat := s.byName.size

/-- Whether there is no configuration. -/
def isEmpty (s : ConfSet) : Bool := s.byName.entries.isEmpty

/-- The set of the configurations of a list; of two with one name the later one counts. -/
def ofList (cs : List Conf) : ConfSet := cs.foldl insert empty

/-! ## Laws -/

/-- After an insertion the name has the configuration, and all others have what they had. -/
theorem get?_insert (s : ConfSet) (c : Conf) (name : String) :
    (s.insert c).get? name = if c.name = name then some c else s.get? name :=
  s.byName.get?_insert c.name name c

/-- After a removal the name has nothing, and all others have what they had. -/
theorem get?_erase (s : ConfSet) (name other : String) :
    (s.erase name).get? other = if name = other then none else s.get? other :=
  s.byName.get?_erase name other

/-- What stands under a name has this name. -/
theorem name_of_get? {s : ConfSet} {name : String} {c : Conf} (h : s.get? name = some c) :
    c.name = name :=
  s.keyed (name, c) ((s.byName.mem_entries_iff name c).2 h)

/-! ## The governing configuration -/

/-- A configuration that governs a path, with the captures of its pattern: the whole match and the
groups, or nothing if it has no pattern. -/
structure Found where
  conf : Conf
  captures : List String
  deriving DecidableEq

/-- The configuration of exactly this name, if it has no pattern. -/
def fixed? (s : ConfSet) (name : String) : Option Found :=
  match s.get? name with
  | some c => if c.hasPattern then none else some ⟨c, []⟩
  | none => none

/-- The configurations in the order in which their patterns are tried: by name, and the one for all
others at the end. -/
def candidates (s : ConfSet) : List Conf :=
  s.toList.filter (·.name ≠ Conf.allOthers) ++ (s.get? Conf.allOthers).toList

/-- What the pattern of a configuration makes of a name. -/
def matched? (m : Matching) (name : String) (c : Conf) : Option Found := do
  let pattern ← c.pattern
  let captures ← m.captures? pattern name
  some ⟨c, captures⟩

/-- **The governing configuration** of a path: the one of its name or else the first one whose
pattern matches. -/
def find (s : ConfSet) (m : Matching) (name : String) : Except PathError Found := do
  Name.check name
  match s.fixed? name with
  | some found => .ok found
  | none =>
    match s.candidates.findSome? (matched? m name) with
    | some found => .ok found
    | none => .error (.notFound name)

/-! ## Replacing a set -/

/-- **Changes** of a configuration from one set to the next. -/
inductive Change where
  /-- It stays as it is. -/
  | same
  /-- A running path can absorb the difference. -/
  | absorbed
  /-- It is gone, or paths that it governs must be created anew. -/
  | replaced
  deriving DecidableEq, Repr

/-- The change of a configuration when a set replaces the one that it is in. -/
def changeOf (new : ConfSet) (old : Conf) : Change :=
  match new.get? old.name with
  | none => .replaced
  | some c => if c = old then .same else if old.canHotReload c then .absorbed else .replaced

/-- The names of the configurations with a change, when a set replaces another. -/
def namesWith (old new : ConfSet) (change : Change) : List String :=
  (old.toList.filter fun c => new.changeOf c = change).map (·.name)

/-- The configurations that govern a path of their own name, in the order of their names. -/
def fixed (s : ConfSet) : List Conf := s.toList.filter fun c => !c.hasPattern

end ConfSet

end LivePaths
