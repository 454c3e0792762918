import LivePaths.Proofs.Conf.Lookup
import LivePaths.Proofs.Registry.Numbers

set_option relaxedAutoImplicit false
set_option autoImplicit false

/-!
# Which configuration governs a path

Three copies of the configuration of a path are kept: in the set of the registry, as what was
handed to the path last, and in the path itself. They agree whenever the registry is at rest.

## Main definitions

* `Registry.Carries`, `Registry.Governs` — a live path in agreement with the registry.
* `Registry.Governed` — registries in agreement with all their live paths.

## Main results

* `Registry.Governed.update`, `Registry.Governed.createPath`, `Registry.governed_createMissing` —
  what keeps a registry in agreement.
-/

namespace LivePaths

namespace Registry

/-! ## Agreement -/

/-- **Entries in agreement** with the configurations of a registry: the path has its name and is
alive, it runs with the configuration that was handed to it last, and this stands in the set. -/
structure Carries (r : Registry) (name : String) (e : RegistryEntry) : Prop where
  name_eq : e.path.name = name
  alive : e.path.ended = false
  conf_eq : e.path.conf = e.conf
  stored : r.confs.get? e.conf.name = some e.conf

/-- **Agreement** between a registry and one of its live paths: the path has its name and is alive,
it runs with the configuration that was handed to it last, and this is the one that governs its
name. -/
structure Governs (r : Registry) (name : String) (e : RegistryEntry) : Prop where
  name_eq : e.path.name = name
  alive : e.path.ended = false
  conf_eq : e.path.conf = e.conf
  found : ∃ captures, r.governing name = .ok ⟨e.conf, captures⟩

/-- What an entry carries depends on the set of configurations, on the identity of the path, on
whether it has ended and on what was handed to it. -/
lemma Carries.of_same {r r' : Registry} {name : String} {e e' : RegistryEntry}
    (h : r.Carries name e) (hconfs : r'.confs = r.confs)
    (hsame : e'.path.identity = e.path.identity) (hended : e'.path.ended = e.path.ended)
    (hconf : e'.conf = e.conf) : r'.Carries name e' where
  name_eq := (congrArg (·.2.1) hsame).trans h.name_eq
  alive := hended.trans h.alive
  conf_eq := (congrArg (·.2.2.1) hsame).trans (h.conf_eq.trans hconf.symm)
  stored := by rw [hconfs, hconf]; exact h.stored

/-- What governs a path stands in the set. -/
lemma Governs.carries {r : Registry} {name : String} {e : RegistryEntry} (h : r.Governs name e) :
    r.Carries name e := by
  obtain ⟨captures, hfound⟩ := h.found
  exact ⟨h.name_eq, h.alive, h.conf_eq, ConfSet.get?_of_find hfound⟩

/-- **Governed registries**: all live paths are in agreement, and while the registry is open, every
configuration without a pattern has its path. -/
structure Governed (r : Registry) : Prop where
  valid : r.confs.HasValidNames
  governs : ∀ name e, r.live.get? name = some e → r.Governs name e
  complete : r.closed = false → ∀ c ∈ r.confs.fixed, (r.live.get? c.name).isSome = true
  empty : r.closed = true → r.live = .empty

/-- **All alive**: no live path has ended and only has to leave. -/
def AllAlive (r : Registry) : Prop := ∀ name e, r.live.get? name = some e → e.path.ended = false

/-- **Nobody is taken out** where all live paths are alive: the path of a name is the live one or,
if there is none, a new one. -/
lemma AllAlive.provide_eq {r : Registry} (h : r.AllAlive) (name : String) (found : ConfSet.Found) :
    r.provide name found = if r.live.contains name then r else r.createPath name found := by
  unfold provide NameMap.contains
  cases hget : r.live.get? name with
  | none => rfl
  | some e => simp [h name e hget]

/-- In agreement no path is leaving. -/
lemma Governed.allAlive {r : Registry} (h : r.Governed) : r.AllAlive :=
  fun name e he => (h.governs name e he).alive

/-- The path of a configuration without a pattern runs with it. -/
lemma Governed.conf_of_fixed {r : Registry} (h : r.Governed) {c : Conf} (hc : c ∈ r.confs.fixed)
    {e : RegistryEntry} (he : r.live.get? c.name = some e) : e.conf = c := by
  obtain ⟨captures, hfind⟩ := (h.governs _ _ he).found
  rw [governing, ConfSet.find_fixed hc (h.valid c hc)] at hfind
  exact (congrArg ConfSet.Found.conf (Except.ok.inj hfind)).symm

/-- A closed registry has no live path. -/
lemma Governed.open_of_live {r : Registry} (h : r.Governed) {name : String} {e : RegistryEntry}
    (he : r.live.get? name = some e) : r.closed = false := by
  by_contra hc
  simp [h.empty (by simpa using hc)] at he

/-- Agreement depends on which configurations govern which names, on the identity of the path, on
whether it has ended and on what was handed to it. -/
lemma Governs.of_same {r r' : Registry} {name : String} {e e' : RegistryEntry}
    (h : r.Governs name e) (hfind : r'.governing = r.governing)
    (hsame : e'.path.identity = e.path.identity) (hended : e'.path.ended = e.path.ended)
    (hconf : e'.conf = e.conf) : r'.Governs name e' where
  name_eq := (congrArg (·.2.1) hsame).trans h.name_eq
  alive := hended.trans h.alive
  conf_eq := (congrArg (·.2.2.1) hsame).trans (h.conf_eq.trans hconf.symm)
  found := by rw [hfind, hconf]; exact h.found

/-! ## What happens to live paths -/

/-- **Live paths that go on or end** keep the agreement: only paths of patterns end so. -/
lemma Governed.update {r : Registry} {name : String} {f : Path → Path}
    (hf : ∀ p : Path, p.Continues (fun _ => True) (f p)) (h : r.Governed) :
    (r.update name f).Governed := by
  cases hget : r.live.get? name with
  | none => rwa [update_of_none hget]
  | some e =>
    have hg := h.governs name e hget
    have hopen := h.open_of_live hget
    rcases update_of_continues hget (hf e.path) hg.alive with
      ⟨halive, ready, news, heq⟩ | ⟨hended, news, heq⟩
    · rw [heq]
      refine ⟨h.valid, fun other e' he' => ?_, fun _ c hc => ?_, fun hc => ?_⟩
      · rw [NameMap.get?_insert] at he'
        split at he'
        · next hname =>
          obtain rfl := hname
          obtain rfl := Option.some.inj he'
          exact hg.of_same rfl (hf e.path).same (halive.trans hg.alive.symm) rfl
        · exact (h.governs other e' he').of_same rfl rfl rfl rfl
      · rw [NameMap.get?_insert]
        split
        · rfl
        · exact h.complete hopen c hc
      · exact absurd (show r.closed = true from hc) (by simp [hopen])
    · rw [heq]
      refine ⟨h.valid, fun other e' he' => ?_, fun _ c hc => ?_, fun hc => ?_⟩
      · rw [NameMap.get?_erase] at he'
        split at he'
        · cases he'
        · exact (h.governs other e' he').of_same rfl rfl rfl rfl
      · rw [NameMap.get?_erase]
        split
        · next hname =>
          -- a path without a pattern would not have ended
          exfalso
          have hconf : e.path.conf = c :=
            hg.conf_eq.trans (h.conf_of_fixed hc (hname ▸ hget))
          have hpattern : e.path.conf.hasPattern = false := hconf ▸ (ConfSet.mem_fixed.1 hc).2
          have := (hf e.path).kept hpattern
          simp [hended, hg.alive] at this
        · exact h.complete hopen c hc
      · exact absurd (show r.closed = true from hc) (by simp [hopen])

/-- **A new path** under the configuration that governs its name is in agreement. -/
lemma Governed.createPath {r : Registry} {name : String} {found : ConfSet.Found} (h : r.Governed)
    (hopen : r.closed = false) (hfind : r.governing name = .ok found) :
    (r.createPath name found).Governed := by
  obtain ⟨hsame, hended, -⟩ := Path.create_history r.settings r.now (r.created + 1) name found
  refine ⟨h.valid, fun other e' he' => ?_, fun _ c hc => ?_, fun hc => ?_⟩
  · rw [Registry.createPath, NameMap.get?_insert] at he'
    split at he'
    · next hname =>
      obtain rfl := hname
      obtain rfl := Option.some.inj he'
      exact ⟨congrArg (·.2.1) hsame, hended, congrArg (·.2.2.1) hsame, found.captures, hfind⟩
    · exact (h.governs other e' he').of_same rfl rfl rfl rfl
  · rw [Registry.createPath, NameMap.get?_insert]
    split
    · rfl
    · exact h.complete hopen c hc
  · exact absurd (show r.closed = true from hc) (by simp [hopen])

/-- **The missing paths** bring an open registry into agreement if its live paths are.

**Proof sketch.** Each new path has a configuration without a pattern, which governs its own name
because this name is valid. A configuration of which no path was created had one before. -/
lemma governed_createMissing {r : Registry} (hv : r.confs.HasValidNames) (hopen : r.closed = false)
    (hg : ∀ name e, r.live.get? name = some e → r.Governs name e) : r.createMissing.Governed := by
  obtain ⟨live, heq, hlive⟩ := foldl_createPath r.missing r
  unfold createMissing
  rw [heq]
  refine ⟨hv, fun name e he => ?_, fun _ c hc => ?_, fun hc => ?_⟩
  · rcases hlive name with ⟨c, hc, rfl, id, -, -, hget⟩ | ⟨-, hget⟩
    · obtain rfl := Option.some.inj (hget.symm.trans he)
      obtain ⟨hsame, hended, -⟩ := Path.create_history r.settings r.now id c.name ⟨c, []⟩
      have hfixed : c ∈ r.confs.fixed := (List.mem_filter.1 hc).1
      exact ⟨congrArg (·.2.1) hsame, hended, congrArg (·.2.2.1) hsame, [],
        ConfSet.find_fixed hfixed (hv c hfixed)⟩
    · exact (hg name e (hget.symm.trans he)).of_same rfl rfl rfl rfl
  · rcases hlive c.name with ⟨d, -, -, id, -, -, hget⟩ | ⟨hnone, hget⟩
    · exact hget ▸ rfl
    · by_contra hmissing
      refine hnone c (List.mem_filter.2 ⟨hc, ?_⟩) rfl
      rw [hget] at hmissing
      simpa [NameMap.contains] using hmissing
  · exact absurd (show r.closed = true from hc) (by simp [hopen])

end Registry

end LivePaths
