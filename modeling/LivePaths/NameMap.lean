set_option relaxedAutoImplicit false
set_option autoImplicit false

/-!
# Maps from names

Finite maps from names to values, kept as a list of entries in strictly ascending order of their
names. The order is that of code points, which is also the order of the bytes in UTF-8.

## Main definitions

* `NameMap` — the maps; `NameMap.get?`, `NameMap.insert`, `NameMap.erase`, `NameMap.modify`.

## Main results

* `NameMap.get?_insert`, `NameMap.get?_erase`, … — what the operations do to look-ups.
* `NameMap.ext_get?` — maps with the same look-ups are equal.
-/

namespace LivePaths

/-- Entries in strictly ascending order of their names. -/
abbrev Ascending {α : Type} (entries : List (String × α)) : Prop :=
  entries.Pairwise fun a b => a.1 < b.1

/-- **Map from names** to values. -/
structure NameMap (α : Type) where
  entries : List (String × α)
  ascending : Ascending entries

namespace NameMap

variable {α : Type}

/-! ## Operations on lists of entries -/

/-- The value of the first entry with a name. -/
def lookup (name : String) : List (String × α) → Option α
  | [] => none
  | e :: rest => if e.1 = name then some e.2 else lookup name rest

/-- Puts an entry at its place, instead of one with the same name. -/
def insertEntry (name : String) (value : α) : List (String × α) → List (String × α)
  | [] => [(name, value)]
  | e :: rest =>
    if name < e.1 then (name, value) :: e :: rest
    else if name = e.1 then (name, value) :: rest
    else e :: insertEntry name value rest

theorem mem_insertEntry {name : String} {value : α} {entries : List (String × α)}
    {e : String × α} (h : e ∈ insertEntry name value entries) :
    e = (name, value) ∨ e ∈ entries := by
  induction entries with
  | nil => simpa [insertEntry] using h
  | cons d rest ih =>
    unfold insertEntry at h
    grind

theorem ascending_insertEntry {name : String} {value : α} {entries : List (String × α)}
    (h : Ascending entries) : Ascending (insertEntry name value entries) := by
  induction entries with
  | nil => simp [insertEntry]
  | cons d rest ih =>
    have hd := List.pairwise_cons.1 h
    unfold insertEntry
    split
    · next lt =>
      refine List.pairwise_cons.2 ⟨fun e he => ?_, h⟩
      rcases List.mem_cons.1 he with rfl | he
      · exact lt
      · exact String.lt_trans lt (hd.1 e he)
    · split
      · next eq => exact List.pairwise_cons.2 ⟨fun e he => eq ▸ hd.1 e he, hd.2⟩
      · next nlt ne =>
        refine List.pairwise_cons.2 ⟨fun e he => ?_, ih hd.2⟩
        rcases mem_insertEntry he with rfl | he
        · exact Std.lt_of_le_of_ne (String.not_lt.1 nlt) (Ne.symm ne)
        · exact hd.1 e he

theorem lookup_insertEntry {name other : String} {value : α} {entries : List (String × α)} :
    lookup other (insertEntry name value entries) =
      if name = other then some value else lookup other entries := by
  induction entries with
  | nil => simp [insertEntry, lookup]
  | cons d rest ih =>
    unfold insertEntry
    grind [lookup]

theorem lookup_eq_none {name : String} {entries : List (String × α)}
    (h : ∀ e ∈ entries, e.1 ≠ name) : lookup name entries = none := by
  induction entries with
  | nil => rfl
  | cons d rest ih =>
    have := h d (by simp)
    simp only [lookup, this, ↓reduceIte]
    exact ih fun e he => h e (by simp [he])

theorem mem_of_lookup {name : String} {value : α} {entries : List (String × α)}
    (h : lookup name entries = some value) : (name, value) ∈ entries := by
  induction entries with
  | nil => cases h
  | cons d rest ih =>
    unfold lookup at h
    split at h
    · next hd =>
      obtain rfl := hd
      obtain rfl := Option.some.inj h
      exact List.mem_cons_self
    · exact List.mem_cons_of_mem _ (ih h)

theorem lookup_of_mem {name : String} {value : α} {entries : List (String × α)}
    (ha : Ascending entries) (h : (name, value) ∈ entries) : lookup name entries = some value := by
  induction entries with
  | nil => cases h
  | cons d rest ih =>
    have hd := List.pairwise_cons.1 ha
    unfold lookup
    rcases List.mem_cons.1 h with rfl | h
    · simp
    · have hne : d.1 ≠ name := fun e => String.lt_irrefl name (e ▸ hd.1 (name, value) h)
      simp only [hne, ↓reduceIte]
      exact ih hd.2 h

theorem lookup_map_value {name other : String} {f : α → α} {entries : List (String × α)} :
    lookup other (entries.map fun e => if e.1 = name then (e.1, f e.2) else e) =
      if name = other then (lookup other entries).map f else lookup other entries := by
  induction entries with
  | nil => simp [lookup]
  | cons d rest ih =>
    rw [List.map_cons]
    grind [lookup]

theorem lookup_filter_ne {name other : String} {entries : List (String × α)} :
    lookup other (entries.filter fun e => e.1 ≠ name) =
      if name = other then none else lookup other entries := by
  induction entries with
  | nil => simp [lookup]
  | cons d rest ih =>
    rw [List.filter_cons]
    grind [lookup]

theorem lookup_map_values {β : Type} {name : String} {f : α → β} {entries : List (String × α)} :
    lookup name (entries.map fun e => (e.1, f e.2)) = (lookup name entries).map f := by
  induction entries with
  | nil => rfl
  | cons d rest ih =>
    rw [List.map_cons]
    grind [lookup]

/-- An insertion puts an entry beside all those with other names. -/
theorem insertEntry_perm {name : String} {value : α} {entries : List (String × α)}
    (ha : Ascending entries) : (insertEntry name value entries).Perm
      ((name, value) :: entries.filter fun e => e.1 ≠ name) := by
  have hall {rest : List (String × α)} (h : ∀ e ∈ rest, name < e.1) :
      (rest.filter fun e => e.1 ≠ name) = rest :=
    List.filter_eq_self.2 fun e he => by simpa using (String.ne_of_lt (h e he)).symm
  induction entries with
  | nil => exact .refl _
  | cons d rest ih =>
    obtain ⟨hd, hrest⟩ := List.pairwise_cons.1 ha
    unfold insertEntry
    split
    · next lt =>
      rw [hall]
      intro e he
      rcases List.mem_cons.1 he with rfl | he
      · exact lt
      · exact String.lt_trans lt (hd e he)
    · split
      · next eq =>
        subst eq
        rw [List.filter_cons_of_neg (by simp), hall hd]
      · next ne =>
        rw [List.filter_cons_of_pos (by simpa using Ne.symm ne)]
        exact ((ih hrest).cons d).trans (.swap ..)

/-- Ascending lists with the same look-ups are equal. -/
theorem entries_eq_of_lookup {a b : List (String × α)} (ha : Ascending a) (hb : Ascending b)
    (h : ∀ name, lookup name a = lookup name b) : a = b := by
  induction a generalizing b with
  | nil =>
    cases b with
    | nil => rfl
    | cons d rest => simpa [lookup] using h d.1
  | cons c resta ih =>
    cases b with
    | nil => simpa [lookup] using h c.1
    | cons d restb =>
      have hc : (c.1, c.2) ∈ d :: restb :=
        mem_of_lookup (by rw [← h c.1]; simp [lookup])
      have hd : (d.1, d.2) ∈ c :: resta :=
        mem_of_lookup (by rw [h d.1]; simp [lookup])
      have ha' := List.pairwise_cons.1 ha
      have hb' := List.pairwise_cons.1 hb
      have hcd : c = d := by
        rcases List.mem_cons.1 hc with e | e
        · exact e
        · rcases List.mem_cons.1 hd with e' | e'
          · exact e'.symm
          · exact absurd (hb'.1 _ e) (String.lt_asymm (ha'.1 _ e'))
      subst hcd
      congr 1
      refine ih ha'.2 hb'.2 fun name => ?_
      have := h name
      unfold lookup at this
      split at this
      · next hn =>
        rw [lookup_eq_none (fun e he hn' => ?_), lookup_eq_none (fun e he hn' => ?_)]
        · exact absurd (hb'.1 e he) (by rw [hn', hn]; exact String.lt_irrefl _)
        · exact absurd (ha'.1 e he) (by rw [hn', hn]; exact String.lt_irrefl _)
      · exact this

/-! ## Operations on maps -/

/-- The map without entries. -/
def empty : NameMap α := ⟨[], .nil⟩

instance : Inhabited (NameMap α) := ⟨empty⟩

/-- The value under a name. -/
def get? (m : NameMap α) (name : String) : Option α := lookup name m.entries

/-- **Insertion** of a value under a name, instead of one that is there. -/
def insert (m : NameMap α) (name : String) (value : α) : NameMap α :=
  ⟨insertEntry name value m.entries, ascending_insertEntry m.ascending⟩

/-- **Removal** of what is under a name. -/
def erase (m : NameMap α) (name : String) : NameMap α :=
  ⟨m.entries.filter fun e => e.1 ≠ name, m.ascending.filter _⟩

/-- Changes the value under a name, if there is one. -/
def modify (m : NameMap α) (name : String) (f : α → α) : NameMap α :=
  ⟨m.entries.map fun e => if e.1 = name then (e.1, f e.2) else e, by
    rw [Ascending, List.pairwise_map]
    exact m.ascending.imp fun h => by split <;> split <;> exact h⟩

/-- Changes all values. -/
def mapValues {β : Type} (m : NameMap α) (f : α → β) : NameMap β :=
  ⟨m.entries.map fun e => (e.1, f e.2), List.pairwise_map.2 m.ascending⟩

/-- The names, in ascending order. -/
def names (m : NameMap α) : List String := m.entries.map (·.1)

/-- The values, in the order of their names. -/
def values (m : NameMap α) : List α := m.entries.map (·.2)

/-- How many names there are. -/
def size (m : NameMap α) : Nat := m.entries.length

/-- Whether there is a value under a name. -/
def contains (m : NameMap α) (name : String) : Bool := (m.get? name).isSome

/-! ## Laws -/

@[simp] theorem get?_empty (name : String) : (empty : NameMap α).get? name = none := rfl

/-- After an insertion the name has the value, and all others have what they had. -/
theorem get?_insert (m : NameMap α) (name other : String) (value : α) :
    (m.insert name value).get? other = if name = other then some value else m.get? other :=
  lookup_insertEntry

/-- After a removal the name has nothing, and all others have what they had. -/
theorem get?_erase (m : NameMap α) (name other : String) :
    (m.erase name).get? other = if name = other then none else m.get? other :=
  lookup_filter_ne

/-- A change concerns the value under its name alone. -/
theorem get?_modify (m : NameMap α) (name other : String) (f : α → α) :
    (m.modify name f).get? other =
      if name = other then (m.get? other).map f else m.get? other :=
  lookup_map_value

/-- An entry is in the map exactly if its name has its value. -/
theorem mem_entries_iff (m : NameMap α) (name : String) (value : α) :
    (name, value) ∈ m.entries ↔ m.get? name = some value :=
  ⟨lookup_of_mem m.ascending, mem_of_lookup⟩

/-- Maps with the same entries are equal. -/
theorem ext_entries {m n : NameMap α} (h : m.entries = n.entries) : m = n := by
  cases m; cases n; cases h; rfl

/-- Maps with the same look-ups are equal. -/
theorem ext_get? {m n : NameMap α} (h : ∀ name, m.get? name = n.get? name) : m = n :=
  ext_entries (entries_eq_of_lookup m.ascending n.ascending h)

/-- A change of all values concerns each name alone. -/
theorem get?_mapValues {β : Type} (m : NameMap α) (name : String) (f : α → β) :
    (m.mapValues f).get? name = (m.get? name).map f :=
  lookup_map_values

/-- Inserting what is there changes nothing. -/
theorem insert_of_get? {m : NameMap α} {name : String} {value : α} (h : m.get? name = some value) :
    m.insert name value = m :=
  ext_get? fun other => by rw [get?_insert]; split <;> simp_all

/-- Of two insertions under a name the second one counts. -/
@[simp]
theorem insert_insert (m : NameMap α) (name : String) (value value' : α) :
    (m.insert name value).insert name value' = m.insert name value' :=
  ext_get? fun other => by simp only [get?_insert]; split <;> rfl

/-- What was inserted can be removed again. -/
@[simp]
theorem erase_insert (m : NameMap α) (name : String) (value : α) :
    (m.insert name value).erase name = m.erase name :=
  ext_get? fun other => by simp only [get?_erase, get?_insert]; split <;> rfl

/-- Changing the value under a name is inserting the changed one. -/
theorem modify_of_get? {m : NameMap α} {name : String} {value : α} {f : α → α}
    (h : m.get? name = some value) : m.modify name f = m.insert name (f value) :=
  ext_get? fun other => by rw [get?_modify, get?_insert]; split <;> simp_all

/-- The names are those under which there is a value. -/
theorem mem_names_iff (m : NameMap α) (name : String) :
    name ∈ m.names ↔ (m.get? name).isSome = true := by
  rw [Option.isSome_iff_exists]
  constructor
  · intro h
    obtain ⟨⟨other, value⟩, he, rfl⟩ := List.mem_map.1 h
    exact ⟨value, (m.mem_entries_iff other value).1 he⟩
  · rintro ⟨value, h⟩
    exact List.mem_map.2 ⟨(name, value), (m.mem_entries_iff name value).2 h, rfl⟩

/-- The values are those under some name. -/
theorem mem_values_iff (m : NameMap α) (value : α) :
    value ∈ m.values ↔ ∃ name, m.get? name = some value := by
  constructor
  · intro h
    obtain ⟨⟨name, value⟩, he, rfl⟩ := List.mem_map.1 h
    exact ⟨name, (m.mem_entries_iff name value).1 he⟩
  · rintro ⟨name, h⟩
    exact List.mem_map.2 ⟨(name, value), (m.mem_entries_iff name value).2 h, rfl⟩

/-- After an insertion there are the value and those under other names. -/
theorem values_insert_perm (m : NameMap α) (name : String) (value : α) :
    (m.insert name value).values.Perm (value :: (m.erase name).values) :=
  (insertEntry_perm m.ascending).map Prod.snd

/-- There are the value under a name and those under other names. -/
theorem values_perm_of_get? {m : NameMap α} {name : String} {value : α}
    (h : m.get? name = some value) : m.values.Perm (value :: (m.erase name).values) := by
  have hperm := m.values_insert_perm name value
  rwa [insert_of_get? h] at hperm

/-- Removing what is not there changes nothing. -/
theorem erase_of_get? {m : NameMap α} {name : String} (h : m.get? name = none) :
    m.erase name = m :=
  ext_get? fun other => by rw [get?_erase]; split <;> simp_all

/-- No name appears twice. -/
theorem nodup_names (m : NameMap α) : m.names.Nodup := by
  rw [names, List.Nodup, List.pairwise_map]
  exact m.ascending.imp fun h => String.ne_of_lt h

instance [DecidableEq α] : DecidableEq (NameMap α) := fun m n =>
  if h : m.entries = n.entries then isTrue (ext_entries h)
  else isFalse fun e => h (congrArg entries e)

end NameMap

end LivePaths
