import Mathlib.Data.List.Find
import LivePaths.Proofs.Registry.Closing
import LivePaths.Proofs.Registry.Focus

set_option relaxedAutoImplicit false
set_option autoImplicit false

/-!
# One name alone

The paths of a name are numbered anew, in the order in which they have begun: each gets the rank
of its number among those of the name. What there is of the name then depends on nothing else that
the registry has created, and changes exactly as the registry does: what happens to other names
leaves it as it is, and what happens to a path of the name happens to the one of its rank.

## Main definitions

* `Registry.numbersOf`, `Registry.rank` — the numbers of the paths of a name, and their ranks.
* `Registry.only` — what there is of a name, under the ranks.

## Main results

* `Registry.Seated.distinguishes` — the paths of a name have different ranks.
* `Registry.only_update`, `Registry.only_updateAll` — something happens to live paths.
* `Registry.only_requestOf`, `Registry.only_tell` — what comes to the path of a handle.
* `Registry.only_write`, `Registry.only_segmentCreate` — streams and recordings.
-/

namespace LivePaths

namespace Registry

/-! ## Ranks -/

/-- **The numbers** of the paths of a name, the oldest first. -/
def numbersOf (r : Registry) (a : String) : List Nat :=
  (r.past.filter (·.name = a)).map (·.id) ++ ((r.live.get? a).map (·.path.id)).toList

/-- **The rank** of a number among those of a name, from one on; other numbers have none. -/
def rank (r : Registry) (a : String) (id : Nat) : Nat :=
  if id ∈ r.numbersOf a then (r.numbersOf a).idxOf id + 1 else 0

/-- **One name alone**: its paths and the news of them, all under their ranks. -/
def only (a : String) (r : Registry) : Registry := r.focus a (r.rank a)

@[simp]
lemma closed_only (a : String) (r : Registry) : (r.only a).closed = r.closed := rfl

@[simp]
lemma confs_only (a : String) (r : Registry) : (r.only a).confs = r.confs := rfl

@[simp]
lemma governing_only (a : String) (r : Registry) : (r.only a).governing = r.governing := rfl

section Numbers

variable {r r' : Registry} {a b : String} {rank : Nat → Nat}

/-- The numbers in focus are the ranks. -/
lemma numbersOf_focus : (r.focus a rank).numbersOf a = (r.numbersOf a).map rank := by
  have hpast : ((r.past.filter (·.name = a)).map fun p => p.renumber (rank p.id)).filter
      (·.name = a) = (r.past.filter (·.name = a)).map fun p => p.renumber (rank p.id) := by
    refine List.filter_eq_self.2 fun q hq => ?_
    obtain ⟨p, hp, rfl⟩ := List.mem_map.1 hq
    exact (List.mem_filter.1 hp).2
  unfold numbersOf
  rw [get?_focus]
  simp only [focus, hpast, List.map_append, List.map_map]
  cases r.live.get? a <;> rfl

/-- What is the same in focus has the same numbers. -/
lemma numbersOf_congr (h : r'.focus a id = r.focus a id) : r'.numbersOf a = r.numbersOf a := by
  have hnumbers := congrArg (numbersOf · a) h
  simpa only [numbersOf_focus, List.map_id] using hnumbers

/-- With the same numbers the ranks stay. -/
lemma only_eq (h : r'.numbersOf a = r.numbersOf a) : r'.only a = r'.focus a (r.rank a) := by
  unfold only Registry.rank
  rw [h]

/-- What is the same in focus is the same alone. -/
lemma only_congr (h : ∀ rank, r'.focus a rank = r.focus a rank) : r'.only a = r.only a :=
  (only_eq (numbersOf_congr (h id))).trans (h _)

/-- The live path of a name is replaced by one with its number. -/
lemma numbersOf_insert {e e' : RegistryEntry} (he : r.live.get? a = some e)
    (hid : e'.path.id = e.path.id) (news : List HlsNews) :
    { r with live := r.live.insert a e', news }.numbersOf a = r.numbersOf a := by
  simp [numbersOf, NameMap.get?_insert, he, hid]

/-- The live path of a name leaves its place. -/
lemma numbersOf_erase {e : RegistryEntry} (he : r.live.get? a = some e) {p : Path}
    (hhandle : p.handle = ⟨a, e.path.id⟩) (news : List HlsNews) :
    { r with live := r.live.erase a, past := r.past ++ [p], news }.numbersOf a =
      r.numbersOf a := by
  have hname : p.name = a := congrArg PathHandle.name hhandle
  have hid : p.id = e.path.id := congrArg PathHandle.id hhandle
  simp [numbersOf, NameMap.get?_erase, he, hname, hid]

/-- Whatever happens to the live path of a name, the numbers stay. -/
lemma numbersOf_update (h : r.Seated) {f : Path → Path} (hf : Path.Impartial f) :
    (r.update a f).numbersOf a = r.numbersOf a := by
  cases he : r.live.get? a with
  | none => rw [update_of_none he]
  | some e =>
    obtain ⟨hname, hlive⟩ := h a e he
    rcases update_of_continues he (hf.continues e.path) hlive with
      ⟨-, ready, news, heq⟩ | ⟨-, news, heq⟩
    · rw [heq]
      exact numbersOf_insert he (hf.id_eq e.path) news
    · rw [heq]
      refine numbersOf_erase he ?_ news
      rw [Path.handle, hf.name_eq, hf.id_eq, hname]

/-- New configurations leave the numbers as they are. -/
lemma numbersOf_reloadPath (h : r.Seated) (new : ConfSet) (absorbed replaced : List String) :
    (reloadPath new absorbed replaced r a).numbersOf a = r.numbersOf a := by
  unfold reloadPath
  cases he : r.live.get? a with
  | none => rfl
  | some e =>
    dsimp only
    cases fateOf r.settings.matching new absorbed replaced a e.conf with
    | keep => rfl
    | remove =>
      dsimp only
      rw [removePath_eq he]
      refine numbersOf_erase he ?_ _
      rw [handle_destroy, Path.handle, (h a e he).1]
    | reload c =>
      dsimp only
      rw [handOver_eq he]
      exact numbersOf_insert he (congrArg (·.1) (Path.proceeds_reload e.path c).same) _

/-- What is in focus is seated. -/
lemma Seated.focus (h : r.Seated) : (r.focus a rank).Seated := by
  intro b e' he'
  cases he : r.live.get? a with
  | none =>
    have hempty : (r.focus a rank).live = .empty := by simp [Registry.focus, he, NameMap.sole]
    simp [hempty] at he'
  | some e =>
    have hsole : (r.focus a rank).live = NameMap.empty.insert a (e.renumber rank) := by
      simp [Registry.focus, he, NameMap.sole]
    rw [hsole, NameMap.get?_insert] at he'
    split at he'
    · next heq =>
      obtain rfl := Option.some.inj he'
      exact heq ▸ h a e he
    · cases he'

/-- Whatever happens to all live paths, the numbers stay. -/
lemma numbersOf_updateAll (h : r.Seated) {f : Path → Path} (hf : Path.Impartial f) :
    (r.updateAll f).numbersOf a = r.numbersOf a := by
  have hfocus : (r.updateAll f).focus a id = (r.focus a id).update a f := focus_updateAll h hf
  have hnumbers := congrArg (numbersOf · a) hfocus
  rw [numbersOf_update h.focus hf, numbersOf_focus, numbersOf_focus, List.map_id] at hnumbers
  simpa using hnumbers

/-- Time leaves the numbers as they are. -/
lemma numbersOf_advance (h : r.Seated) (time : Nat) :
    (r.advance time).numbersOf a = r.numbersOf a := by
  have hadvance := Path.impartial_advance time
  refine Eq.trans ?_ (numbersOf_updateAll h hadvance)
  unfold advance numbersOf
  dsimp only
  rw [List.filter_map, List.map_map]
  simp only [Function.comp_def, hadvance.id_eq, hadvance.name_eq]

/-- At the end all paths keep their numbers. -/
lemma numbersOf_close (h : r.Seated) : r.close.numbersOf a = r.numbersOf a := by
  unfold Registry.close
  split
  · rfl
  · unfold numbersOf
    dsimp only
    rw [List.filter_append, h.filter_destroyed, List.map_append]
    cases r.live.get? a with
    | none => simp
    | some e => simp [Path.id_destroy]

/-- What happens to a path without notice keeps the numbers. -/
lemma numbersOf_modifyPath (id : Nat) {f : Path → Path} (hid : ∀ p, (f p).id = p.id)
    (hname : ∀ p, (f p).name = p.name) : (r.modifyPath id f).numbersOf a = r.numbersOf a := by
  unfold modifyPath numbersOf
  simp only [NameMap.get?_mapValues, Option.map_map, List.filter_map, List.map_map,
    Function.comp_def, apply_ite_of_eq hid, apply_ite_of_eq hname]

/-! ### Ranks of paths -/

/-- The numbers of a name are those of its paths. -/
lemma Seated.numbersOf_eq (h : r.Seated) :
    r.numbersOf a = (r.paths.filter (·.name = a)).map (·.id) := by
  rw [h.filter_paths, List.map_append]
  unfold numbersOf
  cases r.live.get? a <;> rfl

/-- The number of every path of a name is among its numbers. -/
lemma Seated.mem_numbersOf (h : r.Seated) {p : Path} (hp : p ∈ r.paths) (hname : p.name = a) :
    p.id ∈ r.numbersOf a := by
  rw [h.numbersOf_eq]
  exact List.mem_map_of_mem (List.mem_filter.2 ⟨hp, by simpa using hname⟩)

/-- A number of a name is that of a path of the name alone. -/
lemma Numbered.name_of_mem_numbersOf (h : r.Numbered) (hs : r.Seated) {i : Nat}
    (hi : i ∈ r.numbersOf a) : ∀ p ∈ r.paths, p.id = i → p.name = a := by
  rw [hs.numbersOf_eq] at hi
  obtain ⟨q, hq, rfl⟩ := List.mem_map.1 hi
  obtain ⟨hmem, hname⟩ := List.mem_filter.1 hq
  intro p hp hid
  obtain rfl : p = q := List.inj_on_of_nodup_map h.nodup_ids hp hmem hid
  simpa using hname

/-- The numbers of a name were given, each of them once. -/
lemma Numbered.numbersOf (h : r.Numbered) (hs : r.Seated) (a : String) :
    (∀ i ∈ r.numbersOf a, i ≤ r.created) ∧ (r.numbersOf a).Nodup := by
  rw [hs.numbersOf_eq]
  refine ⟨fun i hi => ?_, h.nodup_ids.sublist (List.filter_sublist.map _)⟩
  obtain ⟨p, hp, rfl⟩ := List.mem_map.1 hi
  exact h.id_le (List.mem_filter.1 hp).1

/-- No two numbers of a name have the same rank, and no other number has one of these. -/
lemma rank_inj {i j : Nat} (hi : i ∈ r.numbersOf a) (h : r.rank a i = r.rank a j) : i = j := by
  unfold Registry.rank at h
  rw [if_pos hi] at h
  split at h
  · exact (List.idxOf_inj hi).1 (Nat.succ.inj h)
  · exact absurd h (Nat.succ_ne_zero _)

/-- **Ranks distinguish** the paths of a name. -/
lemma Seated.distinguishes (h : r.Seated) (a : String) (id : Nat) :
    r.Distinguishes (r.rank a) a id :=
  fun _ hp hname heq => rank_inj (h.mem_numbersOf hp hname) heq

/-- Whoever has recorded under a name is the only path of its number, and has this name. -/
lemma Numbered.name_of_lastRecording? (h : r.Numbered) {x : Path × Recording}
    (hx : r.lastRecording? b = some x) : ∀ p ∈ r.paths, p.id = x.1.id → p.name = b := by
  intro p hp hid
  obtain ⟨q, hq, heq⟩ := List.mem_filterMap.1 (List.mem_of_getLast? hx)
  split at heq
  · next hname =>
    obtain ⟨recording, -, rfl⟩ := Option.map_eq_some_iff.1 heq
    obtain rfl : p = q := List.inj_on_of_nodup_map h.nodup_ids hp hq hid
    exact hname
  · cases heq

end Numbers

/-! ## What happens to paths -/

section Live

variable {r : Registry} {a b : String} (h : r.Seated)

include h

/-- **Something happens to the path** of the name. -/
lemma only_update {f : Path → Path} (hf : Path.Impartial f) :
    (r.update a f).only a = (r.only a).update a f := by
  rw [only_eq (numbersOf_update h hf), focus_update (h.named a) hf]
  rfl

/-- Something happens to another path. -/
lemma only_update_of_ne (hne : b ≠ a) {f : Path → Path} (hf : Path.Impartial f) :
    (r.update b f).only a = r.only a :=
  only_congr fun _ => focus_update_of_ne hne (h.named b) hf.name_eq

/-- **Something happens to all live paths.** -/
lemma only_updateAll {f : Path → Path} (hf : Path.Impartial f) :
    (r.updateAll f).only a = (r.only a).update a f := by
  rw [only_eq (numbersOf_updateAll h hf), focus_updateAll h hf]
  rfl

/-- **Time passes.** -/
lemma only_advance (time : Nat) : (r.advance time).only a = (r.only a).advance time := by
  rw [only_eq (numbersOf_advance h time), focus_advance h]
  rfl

/-- **The end.** -/
lemma only_close : r.close.only a = (r.only a).close := by
  rw [only_eq (numbersOf_close h), focus_close h]
  rfl

/-- **Another HLS server.** -/
lemma only_setHls (server : Option String) : ((r.setHls server).toOption.getD r).only a =
    ((r.only a).setHls server).toOption.getD (r.only a) := by
  have hnumbers : ((r.setHls server).toOption.getD r).numbersOf a = r.numbersOf a := by
    cases heq : r.setHls server with
    | error e => rfl
    | ok r' =>
      obtain ⟨news, rfl⟩ := setHls_eq heq
      rfl
  rw [only_eq hnumbers, focus_setHls h]
  rfl

/-! ## Single paths -/

/-- **A handle** of the name is that of a live path exactly if it is so under its rank. -/
lemma isLive_only (id : Nat) : (r.only a).isLive ⟨a, r.rank a id⟩ = r.isLive ⟨a, id⟩ :=
  isLive_focus (h.distinguishes a id) h

/-- **A message to a path** of the name. -/
lemma only_tell (id : Nat) (m : PathMessage) :
    (r.tell ⟨a, id⟩ m).only a = (r.only a).tell ⟨a, r.rank a id⟩ m := by
  unfold tell updateHandle
  rw [isLive_only h]
  split
  · exact only_update h (Path.impartial_deliver m)
  · rfl

/-- **A request to a path** of the name. -/
lemma only_requestOf (number id : Nat) (m : PathMessage) :
    (r.requestOf number ⟨a, id⟩ m).only a = (r.only a).tell ⟨a, r.rank a id⟩ m := by
  rw [← only_tell h]
  unfold requestOf tell updateHandle
  split <;> rfl

/-- A message to another path. -/
lemma only_tell_of_ne {handle : PathHandle} (hne : handle.name ≠ a) (m : PathMessage) :
    (r.tell handle m).only a = r.only a := by
  unfold tell updateHandle
  split
  · exact only_update_of_ne h hne (Path.impartial_deliver m)
  · rfl

/-- A request to another path. -/
lemma only_requestOf_of_ne (number : Nat) {handle : PathHandle} (hne : handle.name ≠ a)
    (m : PathMessage) : (r.requestOf number handle m).only a = r.only a := by
  unfold requestOf
  split
  · exact only_update_of_ne h hne (Path.impartial_deliver m)
  · rfl

/-- **A path of the name goes on** between steps. -/
lemma only_modifyPath (id : Nat) {f : Path → Path} (hid : ∀ p, (f p).id = p.id)
    (hname : ∀ p, (f p).name = p.name) (hf : ∀ p n, (f p).renumber n = f (p.renumber n)) :
    (r.modifyPath id f).only a = (r.only a).modifyPath (r.rank a id) f := by
  rw [only_eq (numbersOf_modifyPath id hid hname),
    focus_modifyPath (h.distinguishes a id) h hid hname hf]
  rfl

/-- Another path goes on. -/
lemma only_modifyPath_of_ne {id : Nat} (hne : ∀ p ∈ r.paths, p.id = id → p.name ≠ a)
    {f : Path → Path} (hid : ∀ p, (f p).id = p.id) (hname : ∀ p, (f p).name = p.name)
    (hf : ∀ p n, (f p).renumber n = f (p.renumber n)) :
    (r.modifyPath id f).only a = r.only a := by
  have hother : (r.only a).modifyPath (r.rank a id) f =
      (r.only a).modifyPath (r.rank a id) fun p => p := by
    refine modifyPath_congr fun q hq hrank => ?_
    rw [only, h.paths_focus] at hq
    obtain ⟨p, hp, rfl⟩ := List.mem_map.1 hq
    obtain ⟨hmem, hpa⟩ := List.mem_filter.1 hp
    have hpa : p.name = a := by simpa using hpa
    exact absurd hpa (hne p hmem (h.distinguishes a id p hmem hpa hrank))
  rw [only_modifyPath h id hid hname hf, hother, modifyPath_self]

/-! ## Streams -/

/-- **A stream of the name** is changed. -/
lemma only_modifyStream (id : StreamId) (f : Stream → Stream) : (r.modifyStream id f).only a =
    (r.only a).modifyStream { id with path := r.rank a id.path } f := by
  refine only_modifyPath h id.path (fun p => ?_) (fun p => ?_)
    fun p n => p.renumber_modifyStream n id.serial f
  all_goals
    obtain ⟨stream, pastStreams, -, -, heq⟩ := p.modifyStream_eq id.serial f
    rw [heq]

/-- A stream of another name is changed. -/
lemma only_modifyStream_of_ne {id : StreamId} (hne : ∀ p ∈ r.paths, p.id = id.path → p.name ≠ a)
    (f : Stream → Stream) : (r.modifyStream id f).only a = r.only a := by
  refine only_modifyPath_of_ne h hne (fun p => ?_) (fun p => ?_)
    fun p n => p.renumber_modifyStream n id.serial f
  all_goals
    obtain ⟨stream, pastStreams, -, -, heq⟩ := p.modifyStream_eq id.serial f
    rw [heq]

/-- **A stream of the name** is the same under its rank. -/
lemma stream?_only {id : StreamId} (hsame : ∀ p ∈ r.paths, p.id = id.path → p.name = a) :
    (r.only a).stream? { id with path := r.rank a id.path } = r.stream? id := by
  have hpath : (r.only a).path? (r.rank a id.path) =
      (r.path? id.path).map fun p => p.renumber (r.rank a p.id) := by
    unfold path?
    rw [only, h.paths_focus, List.find?_map, List.find?_filter]
    refine congrArg _ (List.find?_congr fun p hp => ?_)
    simp only [decide_eq_true_eq, Function.comp_apply, decide_eq_decide]
    constructor
    · rintro ⟨hpa, hrank⟩
      exact h.distinguishes a id.path p hp hpa hrank
    · exact fun heq => ⟨hsame p hp heq, congrArg (r.rank a) heq⟩
  unfold stream?
  rw [hpath]
  cases r.path? id.path <;> rfl

lemma only_write {id : StreamId} (hsame : ∀ p ∈ r.paths, p.id = id.path → p.name = a)
    (u : MediaUnit) : (r.write id u).1.only a =
      ((r.only a).write { id with path := r.rank a id.path } u).1 := by
  unfold write
  rw [stream?_only h hsame]
  cases r.stream? id with
  | none => rfl
  | some s => exact only_modifyStream h id _

lemma only_write_of_ne {id : StreamId} (hne : ∀ p ∈ r.paths, p.id = id.path → p.name ≠ a)
    (u : MediaUnit) : (r.write id u).1.only a = r.only a := by
  unfold write
  cases r.stream? id with
  | none => rfl
  | some s => exact only_modifyStream_of_ne h hne _

lemma only_subscribe {id : StreamId} (hsame : ∀ p ∈ r.paths, p.id = id.path → p.name = a) :
    (((r.subscribe? id).map (·.1)).getD r).only a =
      (((r.only a).subscribe? { id with path := r.rank a id.path }).map (·.1)).getD (r.only a) := by
  unfold subscribe?
  rw [stream?_only h hsame]
  cases r.stream? id with
  | none => rfl
  | some s =>
    simp only [Option.bind_eq_bind, Option.bind_some]
    cases s.subscribe? with
    | none => rfl
    | some x => exact only_modifyStream h id _

lemma only_subscribe_of_ne {id : StreamId}
    (hne : ∀ p ∈ r.paths, p.id = id.path → p.name ≠ a) :
    (((r.subscribe? id).map (·.1)).getD r).only a = r.only a := by
  unfold subscribe?
  cases r.stream? id with
  | none => rfl
  | some s =>
    simp only [Option.bind_eq_bind, Option.bind_some]
    cases s.subscribe? with
    | none => rfl
    | some x => exact only_modifyStream_of_ne h hne _

/-! ## Recordings -/

/-- **The last recording** of the name. -/
lemma lastRecording?_only : (r.only a).lastRecording? a =
    (r.lastRecording? a).map fun x => (x.1.renumber (r.rank a x.1.id), x.2) := by
  unfold lastRecording?
  rw [only, h.paths_focus, ← List.getLast?_map, List.filterMap_map, List.filterMap_filter,
    List.map_filterMap]
  congr 2
  funext p
  by_cases hpa : p.name = a
  · have hrenumbered : (p.renumber (r.rank a p.id)).name = a := hpa
    simp only [hpa, hrenumbered, decide_true, ↓reduceIte, Function.comp_apply,
      Path.lastRecording?_renumber, Option.map_map]
    cases p.lastRecording? <;> rfl
  · simp [hpa]

/-- **A segment** of the last recording of the name. -/
lemma only_segmentCreate (segment : String) :
    ((r.segmentCreated? a segment).getD r).only a =
      ((r.only a).segmentCreated? a segment).getD (r.only a) := by
  unfold segmentCreated?
  rw [lastRecording?_only h]
  cases r.lastRecording? a with
  | none => rfl
  | some x => exact only_modifyPath h x.1.id (fun _ => rfl) (fun _ => rfl) fun _ _ => rfl

lemma only_segmentComplete (segment : String) (ms : Nat) :
    ((r.segmentComplete? a segment ms).getD r).only a =
      ((r.only a).segmentComplete? a segment ms).getD (r.only a) := by
  unfold segmentComplete?
  rw [lastRecording?_only h]
  cases r.lastRecording? a with
  | none => rfl
  | some x => exact only_modifyPath h x.1.id (fun _ => rfl) (fun _ => rfl) fun _ _ => rfl

/-- A segment of another name. -/
lemma only_segmentCreate_of_ne (hnum : r.Numbered) (hne : b ≠ a) (segment : String) :
    ((r.segmentCreated? b segment).getD r).only a = r.only a := by
  unfold segmentCreated?
  cases hx : r.lastRecording? b with
  | none => rfl
  | some x =>
    exact only_modifyPath_of_ne h
      (fun p hp hid hpa => hne ((hnum.name_of_lastRecording? hx p hp hid).symm.trans hpa))
      (fun _ => rfl) (fun _ => rfl) fun _ _ => rfl

lemma only_segmentComplete_of_ne (hnum : r.Numbered) (hne : b ≠ a) (segment : String)
    (ms : Nat) : ((r.segmentComplete? b segment ms).getD r).only a = r.only a := by
  unfold segmentComplete?
  cases hx : r.lastRecording? b with
  | none => rfl
  | some x =>
    exact only_modifyPath_of_ne h
      (fun p hp hid hpa => hne ((hnum.name_of_lastRecording? hx p hp hid).symm.trans hpa))
      (fun _ => rfl) (fun _ => rfl) fun _ _ => rfl

/-! ## Sources -/

/-- **The sources** that paths of the name have created. -/
lemma sourcesOf_only :
    (r.only a).sourcesOf a = (r.sourcesOf a).map fun x => ⟨a, r.rank a x.id⟩ := by
  unfold sourcesOf
  rw [only, h.paths_focus, List.filter_map, List.map_map, List.filter_filter, List.map_map]
  have hsame : (r.paths.filter fun p =>
        ((fun p : Path => decide (p.name = a) && p.hasCreatedSource) ∘
          fun p => p.renumber (r.rank a p.id)) p && decide (p.name = a)) =
      r.paths.filter fun p => decide (p.name = a) && p.hasCreatedSource := by
    refine List.filter_congr fun p _ => ?_
    simp only [Function.comp_apply, Path.hasCreatedSource_renumber]
    rw [Path.name_renumber, Bool.and_right_comm, Bool.and_self]
  rw [hsame]
  refine List.map_congr_left fun p hp => ?_
  have hpa : p.name = a := by simpa using (Bool.and_eq_true_iff.1 (List.mem_filter.1 hp).2).1
  exact congrArg (PathHandle.mk · _) hpa

end Live

end Registry

end LivePaths
