import LivePaths.Proofs.Path.Renumber
import LivePaths.Proofs.Registry.Succession

set_option relaxedAutoImplicit false
set_option autoImplicit false

/-!
# What there is of one name

All paths of a registry share its clock, its configurations and its HLS server. What there is of one
name is nevertheless a registry of its own, with no other path: whatever the registry does to this
name it does there as well, and what it does to other names cannot be seen there. The paths may have
other numbers there, since nothing depends on them.

## Main definitions

* `NameMap.sole` — a map with at most one entry.
* `Path.Impartial` — what happens to a path in the same way under every number.
* `Registry.focus` — what there is of a name, with its paths under other numbers.
* `Registry.Seated` — registries whose live paths stand under their names.
* `Registry.Distinguishes` — ranks that keep the paths of a name apart.

## Main results

* `Registry.focus_update`, `Registry.focus_update_of_ne` — something happens to a live path.
* `Registry.focus_updateAll`, `Registry.focus_advance`, `Registry.focus_close`,
  `Registry.focus_setHls` — something happens to all of them.
* `Registry.focus_createPath`, `Registry.focus_reloadPath` — new paths and new configurations.
* `Registry.focus_modifyPath` — a path goes on without notice.
-/

namespace LivePaths

/-! ## Single entries -/

namespace NameMap

variable {α : Type}

/-- **At most one entry**, under a name. -/
def sole (name : String) : Option α → NameMap α
  | none => .empty
  | some value => NameMap.empty.insert name value

@[simp]
lemma get?_sole (name : String) (o : Option α) : (sole name o).get? name = o := by
  cases o <;> simp [sole, get?_insert]

@[simp]
lemma insert_sole (name : String) (o : Option α) (value : α) :
    (sole name o).insert name value = sole name (some value) := by
  cases o <;> simp [sole]

@[simp]
lemma erase_sole (name : String) (o : Option α) : (sole name o).erase name = sole name none := by
  cases o with
  | none => rfl
  | some value => exact erase_insert ..

lemma values_sole (name : String) (o : Option α) : (sole name o).values = o.toList := by
  cases o <;> rfl

lemma names_sole (name : String) (o : Option α) :
    (sole name o).names = if o.isSome then [name] else [] := by
  cases o <;> rfl

lemma mapValues_sole {β : Type} (name : String) (o : Option α) (f : α → β) :
    (sole name o).mapValues f = sole name (o.map f) := by
  cases o <;> rfl

end NameMap

/-! ## Impartiality -/

/-- **Impartiality**: a path goes on or ends, and does the same under another number. -/
structure Path.Impartial (f : Path → Path) : Prop where
  continues : ∀ p : Path, p.Continues (fun _ => True) (f p)
  renumber : ∀ p n, (f p).renumber n = f (p.renumber n)

lemma Path.Impartial.id_eq {f : Path → Path} (h : Impartial f) (p : Path) : (f p).id = p.id :=
  (h.continues p).id_eq

lemma Path.Impartial.name_eq {f : Path → Path} (h : Impartial f) (p : Path) :
    (f p).name = p.name :=
  (h.continues p).name_eq

/-- Time passes for all paths alike. -/
lemma Path.impartial_advance (time : Nat) : Impartial (·.advance time) :=
  ⟨Registry.continues_advance time, fun p n => renumber_advance p n time⟩

/-- All paths take messages alike. -/
lemma Path.impartial_deliver (m : PathMessage) : Impartial (Registry.deliver m) := by
  refine ⟨Registry.continues_deliver m, fun p n => ?_⟩
  unfold Registry.deliver settle
  rw [renumber_advance, renumber_receive, now_receive, now_receive]
  rfl

/-! ## One name -/

/-- The entry of a path under its rank. -/
def RegistryEntry.renumber (rank : Nat → Nat) (e : RegistryEntry) : RegistryEntry :=
  { e with path := e.path.renumber (rank e.path.id) }

@[simp]
lemma RegistryEntry.ready_renumber (rank : Nat → Nat) (e : RegistryEntry) :
    (e.renumber rank).ready = e.ready := rfl

@[simp]
lemma RegistryEntry.conf_renumber (rank : Nat → Nat) (e : RegistryEntry) :
    (e.renumber rank).conf = e.conf := rfl

/-- The news of a path under its rank. -/
def HlsNews.renumber (rank : Nat → Nat) (n : HlsNews) : HlsNews :=
  { n with path := { n.path with id := rank n.path.id } }

namespace Registry

/-- **What there is of a name**: its paths and the news of them, each path under the rank of its
number. What else is known of all paths together is left out. -/
def focus (a : String) (rank : Nat → Nat) (r : Registry) : Registry where
  settings := r.settings
  confs := r.confs
  live := .sole a ((r.live.get? a).map (·.renumber rank))
  past := (r.past.filter (·.name = a)).map fun p => p.renumber (rank p.id)
  authenticator := r.authenticator
  hls := r.hls
  news := (r.news.filter (·.path.name = a)).map (·.renumber rank)
  now := r.now
  closed := r.closed

section Focus

variable {r : Registry} {a b : String} {rank : Nat → Nat}

@[simp]
lemma closed_focus : (r.focus a rank).closed = r.closed := rfl

lemma settings_focus : (r.focus a rank).settings = r.settings := rfl

lemma live_focus :
    (r.focus a rank).live = .sole a ((r.live.get? a).map (·.renumber rank)) := rfl

@[simp]
lemma get?_focus : (r.focus a rank).live.get? a = (r.live.get? a).map (·.renumber rank) :=
  NameMap.get?_sole ..

/-- An entry is put under the name. -/
lemma focus_insert (e : RegistryEntry) :
    focus a rank { r with live := r.live.insert a e } =
      { r.focus a rank with live := (r.focus a rank).live.insert a (e.renumber rank) } := by
  simp [focus, NameMap.get?_insert]

/-- The path of the name leaves its place. -/
lemma focus_erase {p : Path} (hp : p.name = a) :
    focus a rank { r with live := r.live.erase a, past := r.past ++ [p] } =
      { r.focus a rank with
        live := (r.focus a rank).live.erase a
        past := (r.focus a rank).past ++ [p.renumber (rank p.id)] } := by
  simp [focus, NameMap.get?_erase, hp]

/-- An HLS server is told of a path of the name. -/
lemma focus_tellHls (ready : Bool) {path : PathHandle} (hpath : path.name = a) :
    (r.tellHls ready path).focus a rank =
      (r.focus a rank).tellHls ready { path with id := rank path.id } := by
  rw [tellHls_eq, tellHls_eq]
  cases hhls : r.hls <;> simp [focus, bulletins, hhls, hpath, HlsNews.renumber]

/-! ### Other names -/

/-- An entry is put under another name. -/
lemma focus_insert_of_ne (hne : b ≠ a) (e : RegistryEntry) :
    focus a rank { r with live := r.live.insert b e } = r.focus a rank := by
  simp [focus, NameMap.get?_insert, hne]

/-- The path of another name leaves its place. -/
lemma focus_erase_of_ne (hne : b ≠ a) {p : Path} (hp : p.name = b) :
    focus a rank { r with live := r.live.erase b, past := r.past ++ [p] } = r.focus a rank := by
  simp [focus, NameMap.get?_erase, hne, hp]

/-- An HLS server is told of a path of another name. -/
lemma focus_tellHls_of_ne (ready : Bool) {path : PathHandle} (hpath : path.name ≠ a) :
    (r.tellHls ready path).focus a rank = r.focus a rank := by
  have hnews : (bulletins r.hls path [ready]).filter (·.path.name = a) = [] := by
    unfold bulletins
    split <;> simp [hpath]
  rw [tellHls_eq]
  simp [focus, hnews]

end Focus

/-! ## Notices -/

/-- **Standing under its name**: the live path of a name, if there is one, has this name. -/
def NamedAt (r : Registry) (b : String) : Prop := ∀ e, r.live.get? b = some e → e.path.name = b

section Notices

variable {r : Registry} {a b : String} {rank : Nat → Nat}

/-- Taking up a notice leaves the live path as it is, or removes it. -/
lemma NamedAt.takeNotice (h : r.NamedAt b) (n : Notice) : (takeNotice b r n).NamedAt b := by
  intro e' he'
  cases he : r.live.get? b with
  | none =>
    simp only [Registry.takeNotice, he] at he'
    cases he'
  | some e =>
    by_cases hn : n = .closed
    · subst hn
      simp [takeNotice_closed he, NameMap.get?_erase] at he'
    · obtain ⟨ready, rfl⟩ := Notice.exists_ofSignal hn
      simp only [takeNotice_ofSignal he, NameMap.get?_insert, ↓reduceIte] at he'
      obtain rfl := Option.some.inj he'
      exact h e he

/-- **A notice of the path** of the name. -/
lemma focus_takeNotice (h : r.NamedAt a) (n : Notice) :
    (takeNotice a r n).focus a rank = takeNotice a (r.focus a rank) n := by
  unfold Registry.takeNotice
  rw [get?_focus]
  cases he : r.live.get? a with
  | none => rfl
  | some e =>
    have hname := h e he
    cases n with
    | ready =>
      rw [Option.map_some]
      dsimp only
      rw [focus_tellHls true hname, focus_insert]
      rfl
    | notReady =>
      rw [Option.map_some]
      dsimp only
      rw [focus_tellHls false hname, focus_insert]
      rfl
    | closed =>
      rw [Option.map_some]
      dsimp only
      rw [RegistryEntry.ready_renumber]
      cases e.ready with
      | false => exact focus_erase hname
      | true =>
        simp only [↓reduceIte]
        rw [focus_tellHls false hname, focus_erase hname]
        rfl

/-- **A notice of another path.** -/
lemma focus_takeNotice_of_ne (hne : b ≠ a) (h : r.NamedAt b) (n : Notice) :
    (takeNotice b r n).focus a rank = r.focus a rank := by
  unfold Registry.takeNotice
  cases he : r.live.get? b with
  | none => rfl
  | some e =>
    have hname := h e he
    have hother : e.path.handle.name ≠ a := fun heq => hne (hname.symm.trans heq)
    cases n with
    | ready => exact (focus_tellHls_of_ne true hother).trans (focus_insert_of_ne hne _)
    | notReady => exact (focus_tellHls_of_ne false hother).trans (focus_insert_of_ne hne _)
    | closed =>
      dsimp only
      split
      · exact (focus_tellHls_of_ne false hother).trans (focus_erase_of_ne hne hname)
      · exact focus_erase_of_ne hne hname

/-- The notices of a path are the same under another number. -/
lemma noticesSince_renumber (p : Path) (q : Path) (n : Nat) :
    noticesSince (p.renumber n) (q.renumber n) = noticesSince p q := by
  simp only [noticesSince, Path.renumber, List.length_map, ← List.map_drop, List.filterMap_map,
    Function.comp_def, PathEvent.notice?_renumber]

/-- **Something happens to the path** of the name. -/
theorem focus_update (h : r.NamedAt a) {f : Path → Path} (hf : Path.Impartial f) :
    (r.update a f).focus a rank = (r.focus a rank).update a f := by
  have hnotices (ns : List Notice) : ∀ s : Registry, s.NamedAt a →
      (ns.foldl (takeNotice a) s).focus a rank = ns.foldl (takeNotice a) (s.focus a rank) := by
    induction ns with
    | nil => exact fun _ _ => rfl
    | cons n rest ih =>
      intro s hs
      rw [List.foldl_cons, List.foldl_cons, ih _ (hs.takeNotice n), focus_takeNotice hs]
  unfold update
  rw [get?_focus]
  cases he : r.live.get? a with
  | none => rfl
  | some e =>
    have hupdated : { r with live := r.live.insert a { e with path := f e.path } }.NamedAt a := by
      intro e' he'
      simp only [NameMap.get?_insert, ↓reduceIte] at he'
      obtain rfl := Option.some.inj he'
      exact (hf.name_eq e.path).trans (h e he)
    have hrenumber : f (e.renumber rank).path = (f e.path).renumber (rank e.path.id) :=
      (hf.renumber _ _).symm
    rw [Option.map_some]
    dsimp only
    have hid : ({ e with path := f e.path } : RegistryEntry).renumber rank =
        { e.renumber rank with path := (f e.path).renumber (rank e.path.id) } := by
      rw [RegistryEntry.renumber, hf.id_eq]
      rfl
    rw [hnotices _ _ hupdated, focus_insert, hrenumber, hid, RegistryEntry.renumber,
      noticesSince_renumber]

/-- **Something happens to another path.** -/
theorem focus_update_of_ne (hne : b ≠ a) (h : r.NamedAt b) {f : Path → Path}
    (hf : ∀ p : Path, (f p).name = p.name) : (r.update b f).focus a rank = r.focus a rank := by
  have hnotices (ns : List Notice) : ∀ s : Registry, s.NamedAt b →
      (ns.foldl (takeNotice b) s).focus a rank = s.focus a rank := by
    induction ns with
    | nil => exact fun _ _ => rfl
    | cons n rest ih =>
      intro s hs
      rw [List.foldl_cons, ih _ (hs.takeNotice n), focus_takeNotice_of_ne hne hs]
  unfold update
  cases he : r.live.get? b with
  | none => rfl
  | some e =>
    refine (hnotices _ _ fun e' he' => ?_).trans (focus_insert_of_ne hne _)
    simp only [NameMap.get?_insert, ↓reduceIte] at he'
    obtain rfl := Option.some.inj he'
    exact (hf e.path).trans (h e he)

end Notices

/-! ## Beginning and end of paths -/

section Paths

variable {r : Registry} {a b : String} {rank : Nat → Nat}

/-- **A new path** of the name. -/
lemma focus_createPath (found : ConfSet.Found) :
    (r.createPath a found).focus a rank =
      { r.focus a rank with
        live := (r.focus a rank).live.insert a
          { path := Path.create r.settings r.now (rank (r.created + 1)) a found
            conf := found.conf } } := by
  have hentry : RegistryEntry.renumber rank
      { path := Path.create r.settings r.now (r.created + 1) a found, conf := found.conf } =
        { path := Path.create r.settings r.now (rank (r.created + 1)) a found
          conf := found.conf } := by
    rw [RegistryEntry.renumber, Path.renumber_create, Path.id_create]
  rw [createPath, ← hentry]
  exact focus_insert _

/-- A new path of another name. -/
lemma focus_createPath_of_ne (hne : b ≠ a) (found : ConfSet.Found) :
    (r.createPath b found).focus a rank = r.focus a rank :=
  focus_insert_of_ne hne _

/-- **The end** of the path of the name. -/
lemma focus_removePath (h : r.NamedAt a) :
    (r.removePath a).focus a rank = (r.focus a rank).removePath a := by
  cases he : r.live.get? a with
  | none => simp [removePath, he]
  | some e =>
    have hname := h e he
    have hdestroyed : e.path.destroy.name = a := (name_destroy e.path).trans hname
    have hfocus : (r.focus a rank).live.get? a = some (e.renumber rank) := by simp [he]
    have hrenumber : (e.renumber rank).path.destroy =
        e.path.destroy.renumber (rank e.path.destroy.id) := by
      rw [Path.id_destroy, Path.renumber_destroy]
      rfl
    unfold removePath
    rw [he, hfocus]
    dsimp only
    rw [RegistryEntry.ready_renumber, hrenumber]
    cases e.ready with
    | false => exact focus_erase hdestroyed
    | true =>
      simp only [↓reduceIte]
      rw [focus_tellHls false hname, focus_erase hdestroyed]
      rfl

/-- The end of another path. -/
lemma focus_removePath_of_ne (hne : b ≠ a) (h : r.NamedAt b) :
    (r.removePath b).focus a rank = r.focus a rank := by
  cases he : r.live.get? b with
  | none => simp [removePath, he]
  | some e =>
    have hname := h e he
    have hother : e.path.handle.name ≠ a := fun heq => hne (hname.symm.trans heq)
    have hleft : focus a rank { r with
          live := r.live.erase b, past := r.past ++ [e.path.destroy] } = r.focus a rank :=
      focus_erase_of_ne hne ((name_destroy e.path).trans hname)
    unfold removePath
    rw [he]
    dsimp only
    split
    · exact (focus_tellHls_of_ne false hother).trans hleft
    · exact hleft

/-! ## New configurations -/

variable {new : ConfSet} {absorbed replaced : List String}

/-- **What becomes of the path** of the name under a new set of configurations. -/
lemma focus_reloadPath (h : r.NamedAt a) :
    (reloadPath new absorbed replaced r a).focus a rank =
      reloadPath new absorbed replaced (r.focus a rank) a := by
  unfold reloadPath
  rw [get?_focus]
  cases he : r.live.get? a with
  | none => rfl
  | some e =>
    have hfocus : (r.focus a rank).live.get? a = some (e.renumber rank) := by simp [he]
    rw [Option.map_some]
    dsimp only
    rw [RegistryEntry.conf_renumber, settings_focus]
    cases fateOf r.settings.matching new absorbed replaced a e.conf with
    | keep => rfl
    | remove => exact focus_removePath h
    | reload c =>
      have hid : (e.path.reload c).id = e.path.id :=
        congrArg (·.1) (Path.proceeds_reload e.path c).same
      have hentry : ({ e with conf := c, path := e.path.reload c } : RegistryEntry).renumber rank =
          { e.renumber rank with conf := c, path := (e.renumber rank).path.reload c } := by
        rw [RegistryEntry.renumber, hid, Path.renumber_reload]
        rfl
      dsimp only
      rw [handOver_eq he, handOver_eq hfocus, focus_insert, hentry]

/-- What becomes of another path. -/
lemma focus_reloadPath_of_ne (hne : b ≠ a) (h : r.NamedAt b) :
    (reloadPath new absorbed replaced r b).focus a rank = r.focus a rank := by
  unfold reloadPath
  cases he : r.live.get? b with
  | none => rfl
  | some e =>
    dsimp only
    cases fateOf r.settings.matching new absorbed replaced b e.conf with
    | keep => rfl
    | remove => exact focus_removePath_of_ne hne h
    | reload c =>
      dsimp only
      rw [handOver_eq he]
      exact focus_insert_of_ne hne _

end Paths

/-! ## All live paths -/

/-- **Seated registries**: all live paths stand under their names and have not ended. -/
def Seated (r : Registry) : Prop :=
  ∀ b e, r.live.get? b = some e → e.path.name = b ∧ e.path.ended = false

namespace Seated

variable {r : Registry} (h : r.Seated)

include h

/-- No live path is leaving. -/
lemma allAlive : r.AllAlive :=
  fun b e he => (h b e he).2

lemma named (b : String) : r.NamedAt b := fun e he => (h b e he).1

/-- Whatever happens to live paths leaves the others seated. -/
lemma update (b : String) {f : Path → Path} (hf : Path.Impartial f) : (r.update b f).Seated := by
  intro other e' he'
  rcases get?_update hf.continues (fun e he => (h b e he).2) he' with
    ⟨-, he⟩ | ⟨rfl, e, ready, he, rfl, hlive⟩
  · exact h other e' he
  · exact ⟨(hf.name_eq e.path).trans (h b e he).1, hlive⟩

/-- New configurations leave the paths seated that stay. -/
lemma reloadPath (new : ConfSet) (absorbed replaced : List String) (b : String) :
    (Registry.reloadPath new absorbed replaced r b).Seated := by
  unfold Registry.reloadPath
  cases he : r.live.get? b with
  | none => exact h
  | some e =>
    dsimp only
    cases fateOf r.settings.matching new absorbed replaced b e.conf with
    | keep => exact h
    | remove =>
      dsimp only
      rw [removePath_eq he]
      intro other e' he'
      rw [NameMap.get?_erase] at he'
      split at he'
      · cases he'
      · exact h other e' he'
    | reload c =>
      dsimp only
      rw [handOver_eq he]
      intro other e' he'
      rw [NameMap.get?_insert] at he'
      split at he'
      · next heq =>
        obtain rfl := Option.some.inj he'
        rw [Path.reload_eq]
        exact heq ▸ h b e he
      · exact h other e' he'

/-- The only live path of a name is the one that stands under it. -/
lemma filter_values (a : String) :
    r.live.values.filter (·.path.name = a) = (r.live.get? a).toList := by
  cases he : r.live.get? a with
  | none =>
    refine List.filter_eq_nil_iff.2 fun e hmem => ?_
    obtain ⟨b, hb⟩ := (r.live.mem_values_iff e).1 hmem
    have hname := (h b e hb).1
    simp only [decide_eq_true_eq]
    rintro rfl
    rw [hname] at he
    rw [he] at hb
    cases hb
  | some e =>
    have hperm := (NameMap.values_perm_of_get? he).filter (·.path.name = a)
    have hothers : (r.live.erase a).values.filter (·.path.name = a) = [] := by
      refine List.filter_eq_nil_iff.2 fun e' hmem => ?_
      obtain ⟨b, hb⟩ := ((r.live.erase a).mem_values_iff e').1 hmem
      rw [NameMap.get?_erase] at hb
      split at hb
      · cases hb
      · next hne => simpa [(h b e' hb).1] using Ne.symm hne
    rw [List.filter_cons_of_pos (by simp [(h a e he).1]), hothers] at hperm
    exact List.perm_singleton.1 hperm

/-- At the end the only path of a name that is destroyed is the live one. -/
lemma filter_destroyed (a : String) :
    (r.live.values.map (·.path.destroy)).filter (·.name = a) =
      ((r.live.get? a).map (·.path.destroy)).toList := by
  rw [List.filter_map, Function.comp_def]
  simp only [name_destroy]
  rw [h.filter_values]
  cases r.live.get? a <;> rfl

/-- **The paths of a name**: those of the past, and the live one. -/
lemma filter_paths (a : String) : r.paths.filter (·.name = a) =
    r.past.filter (·.name = a) ++ ((r.live.get? a).map (·.path)).toList := by
  have hlive : (r.live.values.map (·.path)).filter (·.name = a) =
      ((r.live.get? a).map (·.path)).toList := by
    rw [List.filter_map, Function.comp_def, h.filter_values]
    cases r.live.get? a <;> rfl
  rw [paths, List.filter_append, hlive]

/-- The paths that are in focus. -/
lemma paths_focus (a : String) (rank : Nat → Nat) : (r.focus a rank).paths =
    (r.paths.filter (·.name = a)).map fun p => p.renumber (rank p.id) := by
  rw [h.filter_paths, List.map_append, paths]
  refine congrArg₂ (· ++ ·) rfl ?_
  rw [live_focus, NameMap.values_sole]
  cases r.live.get? a <;> rfl

end Seated

/-- **All registries at rest** are seated. -/
lemma Reachable.seated {Admits : ConfSet → Prop} {r : Registry} (h : r.Reachable Admits) :
    r.Seated :=
  fun b e he => ⟨(h.hosts.carries b e he).name_eq, h.hosts.alive he⟩

section All

variable {r : Registry} {a : String} {rank : Nat → Nat}

/-- **One path after another**: what is in focus changes once, and only if the name is among the
names. -/
lemma focus_foldl {g : Registry → String → Registry} {names : List String} (hnodup : names.Nodup)
    (h : r.Seated) (hkeeps : ∀ s b, s.Seated → (g s b).Seated)
    (hother : ∀ s b, s.Seated → b ≠ a → (g s b).focus a rank = s.focus a rank)
    (hsame : ∀ s, s.Seated → (g s a).focus a rank = g (s.focus a rank) a) :
    (names.foldl g r).focus a rank =
      if a ∈ names then g (r.focus a rank) a else r.focus a rank := by
  induction names generalizing r with
  | nil => rfl
  | cons b rest ih =>
    obtain ⟨hnot, hrest⟩ := List.nodup_cons.1 hnodup
    rw [List.foldl_cons, ih hrest (hkeeps r b h)]
    by_cases hb : b = a
    · subst hb
      rw [if_neg hnot, if_pos List.mem_cons_self, hsame r h]
    · rw [hother r b h hb]
      simp [Ne.symm hb]

/-- Without a live path in focus nothing happens. -/
lemma notMem_names (h : a ∉ r.live.names) : (r.focus a rank).live.get? a = none := by
  rw [NameMap.mem_names_iff] at h
  cases he : r.live.get? a with
  | none => simp [he]
  | some e => simp [he] at h

/-- **Something happens to all live paths.** -/
theorem focus_updateAll (h : r.Seated) {f : Path → Path} (hf : Path.Impartial f) :
    (r.updateAll f).focus a rank = (r.focus a rank).update a f := by
  rw [updateAll, focus_foldl (g := fun r name => r.update name f) r.live.nodup_names h
    (fun s b hs => hs.update b hf)
    (fun s b hs hne => focus_update_of_ne hne (hs.named b) hf.name_eq)
    fun s hs => focus_update (hs.named a) hf]
  split
  · rfl
  · next hnot => exact (update_of_none (notMem_names hnot) f).symm

/-- Whatever happens to all paths that are in focus happens to one of them at most. -/
lemma updateAll_focus (f : Path → Path) :
    (r.focus a rank).updateAll f = (r.focus a rank).update a f := by
  have hnames : (r.focus a rank).live.names =
      if (r.live.get? a).isSome then [a] else [] := by
    rw [live_focus, NameMap.names_sole, Option.isSome_map]
  unfold updateAll
  rw [hnames]
  cases he : r.live.get? a with
  | none => exact (update_of_none (by simp [he]) f).symm
  | some e => rfl

/-- **Time passes.** -/
theorem focus_advance (h : r.Seated) (time : Nat) :
    (r.advance time).focus a rank = (r.focus a rank).advance time := by
  have hpast (ps : List Path) :
      ((ps.map (·.advance time)).filter (·.name = a)).map (fun p => p.renumber (rank p.id)) =
        ((ps.filter (·.name = a)).map fun p => p.renumber (rank p.id)).map (·.advance time) := by
    have hadvance := Path.impartial_advance time
    rw [List.filter_map, List.map_map, List.map_map]
    simp only [Function.comp_def, hadvance.name_eq, hadvance.id_eq, hadvance.renumber]
  have hmoved : (r.updateAll (·.advance time)).focus a rank =
      (r.focus a rank).updateAll (·.advance time) := by
    rw [updateAll_focus, focus_updateAll h (Path.impartial_advance time)]
  unfold advance
  rw [← hmoved]
  simp only [focus, hpast]

/-- **The end.** -/
theorem focus_close (h : r.Seated) : r.close.focus a rank = (r.focus a rank).close := by
  unfold Registry.close
  rw [closed_focus]
  split
  · rfl
  · have hdestroyed (o : Option RegistryEntry) :
        ((o.map (·.path.destroy)).toList).map (fun p => p.renumber (rank p.id)) =
          (NameMap.sole a (o.map (·.renumber rank))).values.map (·.path.destroy) := by
      rw [NameMap.values_sole]
      cases o with
      | none => rfl
      | some e =>
        simp only [Option.map_some, Option.toList_some, List.map_cons, List.map_nil,
          Path.id_destroy, Path.renumber_destroy]
        rfl
    simp only [focus, List.filter_append, List.map_append, h.filter_destroyed, hdestroyed]
    rfl

/-- **Another HLS server.** -/
theorem focus_setHls (h : r.Seated) (server : Option String) :
    ((r.setHls server).toOption.getD r).focus a rank =
      ((r.focus a rank).setHls server).toOption.getD (r.focus a rank) := by
  have hfold (es : List RegistryEntry) : ∀ s : Registry,
      (es.foldl (fun r e => r.tellHls true e.path.handle) s).focus a rank =
        ((es.filter (·.path.name = a)).map (·.renumber rank)).foldl
          (fun r e => r.tellHls true e.path.handle) (s.focus a rank) := by
    induction es with
    | nil => exact fun _ => rfl
    | cons e rest ih =>
      intro s
      rw [List.foldl_cons, ih]
      by_cases he : e.path.name = a
      · rw [List.filter_cons_of_pos (by simpa using he), List.map_cons, List.foldl_cons,
          focus_tellHls true he]
        rfl
      · rw [List.filter_cons_of_neg (by simpa using he), focus_tellHls_of_ne true he]
  unfold setHls
  rw [closed_focus]
  split
  · rfl
  · have hready : ((r.live.values.filter (·.ready)).filter (·.path.name = a)).map
          (·.renumber rank) = (r.focus a rank).live.values.filter (·.ready) := by
      rw [List.filter_filter]
      simp only [Bool.and_comm]
      rw [← List.filter_filter, h.filter_values, live_focus, NameMap.values_sole]
      cases r.live.get? a with
      | none => rfl
      | some e =>
        simp only [Option.toList_some, Option.map_some, List.filter_cons, List.filter_nil]
        rw [RegistryEntry.ready_renumber]
        split <;> rfl
    change Registry.focus a rank ((r.live.values.filter (·.ready)).foldl
      (fun r e => r.tellHls true e.path.handle) { r with hls := server }) = _
    rw [hfold, hready]
    rfl

end All

/-! ## Single paths -/

/-- What a function keeps is kept where it is not applied as well. -/
lemma apply_ite_of_eq {α β : Type} {g : α → β} {f : α → α} (h : ∀ x, g (f x) = g x) {c : Prop}
    [Decidable c] (x : α) : g (if c then f x else x) = g x := by
  split
  · exact h x
  · rfl

section Single

variable {r : Registry} {a : String} {rank : Nat → Nat}

/-- **Distinction**: among the paths of a name, none but those of a number have its rank. -/
def Distinguishes (rank : Nat → Nat) (a : String) (id : Nat) (r : Registry) : Prop :=
  ∀ p ∈ r.paths, p.name = a → rank p.id = rank id → p.id = id

variable {id : Nat} (hrank : r.Distinguishes rank a id)

include hrank

/-- **A handle** is that of the live path exactly if it is so in focus. -/
lemma isLive_focus (h : r.Seated) :
    (r.focus a rank).isLive ⟨a, rank id⟩ = r.isLive ⟨a, id⟩ := by
  unfold isLive
  dsimp only
  rw [get?_focus]
  cases he : r.live.get? a with
  | none => rfl
  | some e =>
    have hname := (h a e he).1
    have hmem : e.path ∈ r.paths := mem_paths.2 (.inr ⟨a, e, he, rfl⟩)
    simp only [Option.map_some, Option.any_some, decide_eq_decide]
    exact ⟨hrank e.path hmem hname, congrArg rank⟩

/-- One of the paths of the name is changed, or another one of them. -/
lemma renumber_changed {f : Path → Path} (hid : ∀ p, (f p).id = p.id)
    (hf : ∀ p n, (f p).renumber n = f (p.renumber n)) {p : Path} (hp : p ∈ r.paths)
    (hname : p.name = a) :
    (if p.id = id then f p else p).renumber (rank (if p.id = id then f p else p).id) =
      if rank p.id = rank id then f (p.renumber (rank p.id)) else p.renumber (rank p.id) := by
  by_cases heq : p.id = id
  · rw [if_pos heq, if_pos (congrArg rank heq), hid, hf]
  · rw [if_neg heq, if_neg fun hr => heq (hrank p hp hname hr)]

/-- **A path goes on** without any notice. -/
lemma focus_modifyPath (h : r.Seated) {f : Path → Path} (hid : ∀ p, (f p).id = p.id)
    (hname : ∀ p, (f p).name = p.name) (hf : ∀ p n, (f p).renumber n = f (p.renumber n)) :
    (r.modifyPath id f).focus a rank = (r.focus a rank).modifyPath (rank id) f := by
  have hlive : (r.live.get? a).map (fun e : RegistryEntry =>
        ({ e with path := if e.path.id = id then f e.path else e.path } : RegistryEntry).renumber
          rank) =
      ((r.live.get? a).map (·.renumber rank)).map fun e : RegistryEntry =>
        { e with path := if e.path.id = rank id then f e.path else e.path } := by
    cases he : r.live.get? a with
    | none => rfl
    | some e =>
      have hmem : e.path ∈ r.paths := mem_paths.2 (.inr ⟨a, e, he, rfl⟩)
      simp only [RegistryEntry.renumber, Option.map_some,
        renumber_changed hrank hid hf hmem (h a e he).1]
      rfl
  have hpast : ((r.past.map fun p => if p.id = id then f p else p).filter (·.name = a)).map
        (fun p => p.renumber (rank p.id)) =
      ((r.past.filter (·.name = a)).map fun p => p.renumber (rank p.id)).map fun p =>
        if p.id = rank id then f p else p := by
    rw [List.filter_map, List.map_map, List.map_map]
    simp only [Function.comp_def, apply_ite_of_eq hname]
    refine List.map_congr_left fun p hp => ?_
    obtain ⟨hp, hpa⟩ := List.mem_filter.1 hp
    exact renumber_changed hrank hid hf (mem_paths.2 (.inl hp)) (by simpa using hpa)
  unfold modifyPath
  simp only [focus, NameMap.get?_mapValues, Option.map_map, Function.comp_def, hpast,
    NameMap.mapValues_sole, hlive]

end Single

end Registry

end LivePaths
