import Mathlib.Data.List.Nodup
import LivePaths.Proofs.Registry.Update

set_option relaxedAutoImplicit false
set_option autoImplicit false

/-!
# The numbers of paths

Every path of a registry, live or past, has a number of its own, under which it was created.

## Main definitions

* `Registry.Numbered` — registries in which no number was given twice.

## Main results

* `Registry.Numbered.nodup_ids` — no two paths have the same number.
* `Registry.Numbered.path?_eq` — a path is found by its number.
-/

namespace LivePaths

namespace Registry

/-- The paths are the past ones and those of the entries. -/
lemma mem_paths {r : Registry} {p : Path} :
    p ∈ r.paths ↔ p ∈ r.past ∨ ∃ name e, r.live.get? name = some e ∧ e.path = p := by
  simp only [paths, List.mem_append, List.mem_map, NameMap.mem_values_iff]
  refine or_congr Iff.rfl ⟨?_, ?_⟩
  · rintro ⟨e, ⟨name, he⟩, rfl⟩
    exact ⟨name, e, he, rfl⟩
  · rintro ⟨name, e, he, rfl⟩
    exact ⟨e, ⟨name, he⟩, rfl⟩

/-! ## Distinct numbers -/

/-- The numbers of the live paths by their names. -/
def liveId (r : Registry) (name : String) : Option Nat := (r.live.get? name).map (·.path.id)

/-- The numbers of the past paths. -/
def pastIds (r : Registry) : List Nat := r.past.map (·.id)

/-- **Distinct numbers** of live and past paths, all of which were given already. -/
structure DistinctIds (live : String → Option Nat) (past : List Nat) (created : Nat) : Prop where
  live_le : ∀ name i, live name = some i → i ≤ created
  past_le : ∀ i ∈ past, i ≤ created
  live_inj : ∀ name name' i, live name = some i → live name' = some i → name = name'
  apart : ∀ name i, live name = some i → i ∉ past
  nodup : past.Nodup

/-- **Numbered registries**: every path has a number of its own. -/
def Numbered (r : Registry) : Prop := DistinctIds r.liveId r.pastIds r.created

namespace DistinctIds

variable {live : String → Option Nat} {past : List Nat} {created : Nat}

/-- A live path becomes a past one. -/
lemma end_of (h : DistinctIds live past created) {name : String} {i : Nat}
    (hi : live name = some i) :
    DistinctIds (fun n => if name = n then none else live n) (past ++ [i]) created where
  live_le n j hj := h.live_le n j (by split at hj <;> simp_all)
  past_le j hj := by
    rcases List.mem_append.1 hj with hj | hj
    · exact h.past_le j hj
    · exact List.mem_singleton.1 hj ▸ h.live_le name i hi
  live_inj n n' j hj hj' := h.live_inj n n' j (by split at hj <;> simp_all)
    (by split at hj' <;> simp_all)
  apart n j hj hmem := by
    split at hj
    · cases hj
    · next hne =>
      rcases List.mem_append.1 hmem with hmem | hmem
      · exact h.apart n j hj hmem
      · exact hne (h.live_inj name n i hi (List.mem_singleton.1 hmem ▸ hj))
  nodup := by
    refine List.nodup_append.2 ⟨h.nodup, by simp, ?_⟩
    rintro j hj k hk rfl
    exact h.apart name i hi (List.mem_singleton.1 hk ▸ hj)

/-- A new path gets the next number. -/
lemma create (h : DistinctIds live past created) (name : String) :
    DistinctIds (fun n => if name = n then some (created + 1) else live n) past (created + 1) where
  live_le n j hj := by
    split at hj
    · exact Nat.le_of_eq (Option.some.inj hj).symm
    · exact Nat.le_succ_of_le (h.live_le n j hj)
  past_le j hj := Nat.le_succ_of_le (h.past_le j hj)
  live_inj n n' j hj hj' := by
    split at hj <;> split at hj'
    · next hn hn' => exact hn.symm.trans hn'
    · next hn hn' =>
      obtain rfl := Option.some.inj hj
      exact absurd (h.live_le n' _ hj') (by omega)
    · next hn hn' =>
      obtain rfl := Option.some.inj hj'
      exact absurd (h.live_le n _ hj) (by omega)
    · exact h.live_inj n n' j hj hj'
  apart n j hj hmem := by
    split at hj
    · obtain rfl := Option.some.inj hj
      exact absurd (h.past_le _ hmem) (by omega)
    · exact h.apart n j hj hmem
  nodup := h.nodup

end DistinctIds

/-- Before the first path no number was given. -/
lemma numbered_empty (settings : PathSettings) (confs : ConfSet) (authenticator : Authenticator)
    (hls : Option String) : Numbered { settings, confs, authenticator, hls } :=
  ⟨by simp [liveId], by simp [pastIds], by simp [liveId], by simp [liveId], by simp [pastIds]⟩

namespace Numbered

variable {r : Registry} (h : r.Numbered)

include h

/-- The live path of a name is replaced by one with its number. -/
lemma insert_same {name : String} {e e' : RegistryEntry} (he : r.live.get? name = some e)
    (hid : e'.path.id = e.path.id) (news : List HlsNews) :
    { r with live := r.live.insert name e', news }.Numbered := by
  have hlive : { r with live := r.live.insert name e', news }.liveId = r.liveId := by
    funext n
    simp only [liveId, NameMap.get?_insert]
    split
    · next hn => simp [← hn, he, hid]
    · rfl
  unfold Numbered
  rwa [hlive]

/-- The live path of a name becomes a past one with its number. -/
lemma erase {name : String} {e : RegistryEntry} (he : r.live.get? name = some e) {p : Path}
    (hid : p.id = e.path.id) (news : List HlsNews) :
    { r with live := r.live.erase name, past := r.past ++ [p], news }.Numbered := by
  have hlive : { r with live := r.live.erase name, past := r.past ++ [p], news }.liveId =
      fun n => if name = n then none else r.liveId n := by
    funext n
    simp only [liveId, NameMap.get?_erase]
    split <;> rfl
  have hpast : { r with live := r.live.erase name, past := r.past ++ [p], news }.pastIds =
      r.pastIds ++ [e.path.id] := by
    simp [pastIds, hid]
  unfold Numbered
  rw [hlive, hpast]
  exact DistinctIds.end_of h (by simp [liveId, he])

/-- A new path gets the next number. -/
lemma createPath (name : String) (found : ConfSet.Found) :
    (r.createPath name found).Numbered := by
  have hlive : (r.createPath name found).liveId =
      fun n => if name = n then some (r.created + 1) else r.liveId n := by
    funext n
    simp only [liveId, Registry.createPath, NameMap.get?_insert]
    split
    · simp [Path.id_create]
    · rfl
  unfold Numbered
  rw [hlive]
  exact DistinctIds.create h name

/-- Several new paths get the next numbers. -/
lemma createMissing : r.createMissing.Numbered := by
  unfold Registry.createMissing
  generalize r.missing = cs
  induction cs generalizing r with
  | nil => exact h
  | cons c rest ih => exact ih (h.createPath c.name ⟨c, []⟩)

/-- Changes that concern no number. -/
lemma of_same {r' : Registry} (hlive : r'.liveId = r.liveId) (hpast : r'.pastIds = r.pastIds)
    (hcreated : r'.created = r.created) : r'.Numbered := by
  unfold Numbered
  rwa [hlive, hpast, hcreated]

/-- What happens to a path without notice keeps its number. -/
lemma modifyPath (id : Nat) {f : Path → Path} (hf : ∀ p : Path, (f p).id = p.id) :
    (r.modifyPath id f).Numbered := by
  have hchange (p : Path) : (if p.id = id then f p else p).id = p.id := by
    split
    · exact hf p
    · rfl
  refine h.of_same ?_ ?_ rfl
  · funext name
    simp only [liveId, Registry.modifyPath, NameMap.get?_mapValues, Option.map_map]
    congr 1
    funext e
    exact hchange e.path
  · simp only [pastIds, Registry.modifyPath, List.map_map]
    exact List.map_congr_left fun p _ => hchange p

/-- Live paths that go on or end keep their numbers. -/
lemma update {name : String} {f : Path → Path}
    (hf : ∀ p : Path, p.Continues (fun _ => True) (f p))
    (halive : ∀ e, r.live.get? name = some e → e.path.ended = false) :
    (r.update name f).Numbered := by
  cases hget : r.live.get? name with
  | none => rwa [update_of_none hget]
  | some e =>
    have hid := (hf e.path).id_eq
    rcases update_of_continues hget (hf e.path) (halive e hget) with
      ⟨-, ready, news, heq⟩ | ⟨-, news, heq⟩
    · rw [heq]
      exact h.insert_same hget hid news
    · rw [heq]
      exact h.erase hget hid news

/-! ### Paths by their numbers -/

/-- The number of every path has been given. -/
lemma id_le {p : Path} (hp : p ∈ r.paths) : p.id ≤ r.created := by
  rcases mem_paths.1 hp with hp | ⟨name, e, hget, rfl⟩
  · exact h.past_le p.id (List.mem_map_of_mem hp)
  · exact h.live_le name e.path.id (by simp [liveId, hget])

/-- No two live paths have the same number. -/
lemma nodup_liveIds : (r.live.values.map (·.path.id)).Nodup := by
  rw [NameMap.values, List.map_map, List.Nodup, List.pairwise_map]
  refine r.live.ascending.imp_of_mem fun {x y} hx hy hlt heq => ?_
  have hgetx : r.live.get? x.1 = some x.2 := (r.live.mem_entries_iff x.1 x.2).1 hx
  have hgety : r.live.get? y.1 = some y.2 := (r.live.mem_entries_iff y.1 y.2).1 hy
  have hname := h.live_inj x.1 y.1 x.2.path.id (by simp [liveId, hgetx])
    (by simpa [liveId, hgety] using heq.symm)
  exact String.ne_of_lt hlt hname

/-- **No two paths have the same number.** -/
theorem nodup_ids : (r.paths.map (·.id)).Nodup := by
  rw [paths, List.map_append, List.map_map]
  refine List.nodup_append.2 ⟨h.nodup, h.nodup_liveIds, ?_⟩
  rintro i hi j hj rfl
  obtain ⟨e, he, rfl⟩ := List.mem_map.1 hj
  obtain ⟨name, hget⟩ := (r.live.mem_values_iff e).1 he
  exact h.apart name e.path.id (by simp [liveId, hget]) hi

/-- A path is found by its number. -/
lemma path?_eq {p : Path} (hp : p ∈ r.paths) : r.path? p.id = some p := by
  cases hfind : r.path? p.id with
  | none => simpa using List.find?_eq_none.1 hfind p hp
  | some q =>
    have hid : q.id = p.id := by simpa using List.find?_some hfind
    exact congrArg some
      (List.inj_on_of_nodup_map h.nodup_ids (List.mem_of_find?_eq_some hfind) hp hid)

/-- A number that was not given belongs to no path. -/
lemma path?_eq_none {i : Nat} (hi : r.created < i) : r.path? i = none := by
  refine List.find?_eq_none.2 fun p hp => ?_
  have := h.id_le hp
  simpa using Nat.ne_of_lt (Nat.lt_of_le_of_lt this hi)

/-- At the end all paths keep their numbers. -/
lemma close : r.close.Numbered := by
  unfold Registry.close
  split
  · exact h
  · have hpast : { r with
        live := .empty
        past := r.past ++ r.live.values.map fun e : RegistryEntry => e.path.destroy
        closed := true }.pastIds = r.paths.map (·.id) := by
      simp [pastIds, paths, Path.id_destroy]
    unfold Numbered
    rw [hpast]
    refine ⟨by simp [liveId], fun i hi => ?_, by simp [liveId], by simp [liveId], h.nodup_ids⟩
    obtain ⟨p, hp, rfl⟩ := List.mem_map.1 hi
    exact h.id_le hp

end Numbered

end Registry

end LivePaths
