import LivePaths.Proofs.Registry.Alone
import LivePaths.Proofs.Registry.Attachment

set_option relaxedAutoImplicit false
set_option autoImplicit false

/-!
# New paths of one name

A path is created by a request for its name, or because a configuration demands it. Its number
depends on all paths that were created before, but its rank only on those of its name, and whether
it is created at all depends on the configurations and on whether there is a live path of its name.

## Main definitions

* `Registry.Documented` — registries in which nothing is told of numbers that were not given.
* `Registry.createSole`, `Registry.createMissingSole` — a new path of a name, and a missing one.
* `Registry.reloadSole`, `Registry.requestSole` — what new configurations and requests do to what
  there is of a name.

## Main results

* `Registry.Reachable.documented` — every registry at rest is documented.
* `Registry.only_createPath` — a new path has the next rank.
* `Registry.only_reload`, `Registry.only_request` — new configurations and requests.
-/

namespace LivePaths

namespace Registry

/-! ## New paths -/

/-- **Documented registries**: each path has a number of its own, the registry knows which paths are
ready, and all news are of paths that were created. -/
structure Documented (r : Registry) : Prop where
  numbered : r.Numbered
  knows : r.Knows
  told : ∀ n ∈ r.news, n.path.id ≤ r.created

/-- **Stages** keep a registry documented. -/
lemma Stage.documented {Came : PathHandle → PathMessage → Prop} {r r' : Registry}
    (h : Stage Came r r') (hr : r.Documented) : r'.Documented := by
  obtain ⟨hmoves, hknows, -, -⟩ := h.moves hr.numbered hr.knows
  have hcreated : r.created ≤ r'.created := (Stages.handles_of_created (.single h)).1
  have hold (n : HlsNews) (hn : n ∈ r.news) : n.path.id ≤ r'.created :=
    Nat.le_trans (hr.told n hn) hcreated
  refine ⟨h.numbered hr.numbered, hknows, ?_⟩
  cases hmoves with
  | stay _ hnews => exact hnews ▸ hold
  | create _ _ _ _ _ hnews => exact hnews ▸ hold
  | signal name path ready signals hname _ _ hnews =>
    rw [hnews]
    refine List.forall_mem_append.2 ⟨hold, fun n hn => ?_⟩
    obtain ⟨e, he, heq⟩ := Option.map_eq_some_iff.1 hname
    have hlive : path.id ≤ r.created :=
      hr.numbered.live_le name path.id (by simp [liveId, he, (Prod.mk.inj heq).1])
    unfold bulletins at hn
    split at hn
    · cases hn
    · obtain ⟨s, -, rfl⟩ := List.mem_map.1 hn
      exact Nat.le_trans hlive hcreated

lemma Stages.documented {Came : PathHandle → PathMessage → Prop} {r r' : Registry}
    (h : Stages Came r r') (hr : r.Documented) : r'.Documented :=
  h.keeps (fun _ _ hstage => hstage.documented) hr

/-- Another HLS server is told of live paths. -/
lemma Documented.setHls {r r' : Registry} (h : r.Documented) {server : Option String}
    (hr : r.setHls server = .ok r') : r'.Documented := by
  unfold Registry.setHls at hr
  split at hr
  · cases hr
  · obtain rfl := Except.ok.inj hr
    obtain ⟨news, heq, hnews⟩ := List.foldlRecOn
      (motive := fun s : Registry => ∃ news : List HlsNews,
        s = { r with hls := server, news } ∧ ∀ n ∈ news, n.path.id ≤ r.created)
      (r.live.values.filter (·.ready)) (fun r e => r.tellHls true e.path.handle)
      ⟨r.news, rfl, h.told⟩ fun s ⟨news, hs, hnews⟩ e he => by
        obtain ⟨name, hget⟩ := (r.live.mem_values_iff e).1 (List.mem_filter.1 he).1
        refine ⟨_, by rw [tellHls_eq, hs], List.forall_mem_append.2 ⟨hnews, fun n hn => ?_⟩⟩
        unfold bulletins at hn
        split at hn
        · cases hn
        · obtain ⟨ready, -, rfl⟩ := List.mem_map.1 hn
          exact h.numbered.id_le (mem_paths.2 (.inr ⟨name, e, hget, rfl⟩))
    rw [heq]
    exact ⟨h.numbered, h.knows, hnews⟩

/-- **Every registry at rest** is documented. -/
theorem Reachable.documented {Admits : ConfSet → Prop} {r : Registry} (h : r.Reachable Admits) :
    r.Documented := by
  refine ⟨h.hosts.numbered, h.knows, ?_⟩
  induction h with
  | @start confs _ settings authenticator hls =>
    have hnum := numbered_empty settings confs authenticator hls
    have hstages : Stages (fun _ _ => False) { settings, confs, authenticator, hls }
        (Registry.start settings confs authenticator hls) := stages_createMissing _
    exact (hstages.documented ⟨hnum, fun name e he => by simp at he, by simp⟩).told
  | @apply r hreach op hop ih =>
    have hdocumented : r.Documented := ⟨hreach.hosts.numbered, hreach.knows, ih⟩
    cases hglobal : op.isGlobal with
    | false => exact ((hreach.hosts.stages_apply hop hglobal).documented hdocumented).told
    | true =>
      cases op with
      | setHls server =>
        change ∀ n ∈ ((r.setHls server).toOption.getD r).news,
          n.path.id ≤ ((r.setHls server).toOption.getD r).created
        cases heq : r.setHls server with
        | error e => exact ih
        | ok r' => exact (hdocumented.setHls heq).told
      | close =>
        change ∀ n ∈ r.close.news, n.path.id ≤ r.close.created
        unfold Registry.close
        split <;> exact ih
      | _ => cases hglobal

section Created

variable {r : Registry} {a b : String}

/-- **A new path** of a name, under the next rank. -/
def createSole (r : Registry) (a : String) (found : ConfSet.Found) : Registry :=
  { r with
    live := r.live.insert a {
      path := Path.create r.settings r.now ((r.numbersOf a).length + 1) a found
      conf := found.conf } }

/-- A new path leaves the registry seated. -/
lemma Seated.createPath (h : r.Seated) (b : String) (found : ConfSet.Found) :
    (r.createPath b found).Seated := by
  intro other e' he'
  rw [Registry.createPath, NameMap.get?_insert] at he'
  split at he'
  · next heq =>
    obtain rfl := Option.some.inj he'
    obtain ⟨hsame, hended, -⟩ :=
      Path.create_history r.settings r.now (r.created + 1) b found
    exact ⟨(congrArg (·.2.1) hsame).trans heq, hended⟩
  · exact h other e' he'

/-- What is in focus depends on the ranks of its paths and news alone. -/
lemma focus_congr {rank rank' : Nat → Nat} (hr : r.Documented)
    (h : ∀ i ≤ r.created, rank i = rank' i) : r.focus a rank = r.focus a rank' := by
  have hpast : (r.past.filter (·.name = a)).map (fun p => p.renumber (rank p.id)) =
      (r.past.filter (·.name = a)).map fun p => p.renumber (rank' p.id) := by
    refine List.map_congr_left fun p hp => ?_
    have hmem := mem_paths.2 (.inl (List.mem_filter.1 hp).1)
    rw [h p.id (hr.numbered.id_le hmem)]
  have hnews : (r.news.filter (·.path.name = a)).map (·.renumber rank) =
      (r.news.filter (·.path.name = a)).map (·.renumber rank') := by
    refine List.map_congr_left fun n hn => ?_
    unfold HlsNews.renumber
    rw [h n.path.id (hr.told n (List.mem_filter.1 hn).1)]
  have hlive : (r.live.get? a).map (·.renumber rank) =
      (r.live.get? a).map (·.renumber rank') := by
    cases he : r.live.get? a with
    | none => rfl
    | some e =>
      have hmem := mem_paths.2 (.inr ⟨a, e, he, rfl⟩)
      simp only [Option.map_some, RegistryEntry.renumber, h e.path.id (hr.numbered.id_le hmem)]
  unfold focus
  rw [hpast, hnews, hlive]

/-- **A new path** of the name. -/
lemma only_createPath (hs : r.Seated) (hr : r.Documented) (hnone : r.live.get? a = none)
    (found : ConfSet.Found) : (r.createPath a found).only a = (r.only a).createSole a found := by
  have hnumbers : (r.createPath a found).numbersOf a = r.numbersOf a ++ [r.created + 1] := by
    simp [numbersOf, createPath, NameMap.get?_insert, hnone, Path.id_create]
  have hfresh : r.created + 1 ∉ r.numbersOf a := fun hmem =>
    absurd ((hr.numbered.numbersOf hs a).1 _ hmem) (by omega)
  have hlast : (r.createPath a found).rank a (r.created + 1) = (r.numbersOf a).length + 1 := by
    simp [rank, hnumbers, List.idxOf_append, hfresh]
  have hold (i : Nat) (hi : i ≤ r.created) : (r.createPath a found).rank a i = r.rank a i := by
    have hne : i ≠ r.created + 1 := by omega
    unfold rank
    rw [hnumbers]
    by_cases hmem : i ∈ r.numbersOf a
    · simp [hmem, List.idxOf_append_of_mem hmem]
    · simp [hmem, hne]
  have hlength : ((r.only a).numbersOf a).length = (r.numbersOf a).length := by
    rw [only, numbersOf_focus, List.length_map]
  rw [only, focus_createPath, hlast, focus_congr hr hold, createSole, hlength]
  rfl

/-- A new path of another name. -/
lemma only_createPath_of_ne (hne : b ≠ a) (found : ConfSet.Found) :
    (r.createPath b found).only a = r.only a :=
  only_congr fun _ => focus_createPath_of_ne hne found

/-- Several new paths, which differ in their names: one of them at most is of the name. -/
lemma only_foldl_createPath (cs : List Conf) (hs : r.Seated) (hr : r.Documented)
    (hn : (cs.map Conf.name).Nodup) (hnone : ∀ c ∈ cs, r.live.get? c.name = none) :
    (cs.foldl (fun r c => r.createPath c.name ⟨c, []⟩) r).only a =
      match cs.find? (·.name = a) with
      | none => r.only a
      | some c => (r.only a).createSole a ⟨c, []⟩ := by
  induction cs generalizing r with
  | nil => rfl
  | cons c rest ih =>
    obtain ⟨hnot, hrest⟩ := List.nodup_cons.1 hn
    have hcnone := hnone c List.mem_cons_self
    have hstage : Stage (fun _ _ => False) r (r.createPath c.name ⟨c, []⟩) := .create _ hcnone
    have hothers : ∀ d ∈ rest, (r.createPath c.name ⟨c, []⟩).live.get? d.name = none := by
      intro d hd
      have hne : c.name ≠ d.name := fun heq => hnot (List.mem_map.2 ⟨d, hd, heq.symm⟩)
      rw [createPath, NameMap.get?_insert, if_neg hne]
      exact hnone d (List.mem_cons_of_mem c hd)
    rw [List.foldl_cons, ih (hs.createPath c.name _) (hstage.documented hr) hrest hothers]
    by_cases hc : c.name = a
    · have hnothing : rest.find? (·.name = a) = none :=
        List.find?_eq_none.2 fun d hd => by
          simpa using fun heq : d.name = a => hnot (List.mem_map.2 ⟨d, hd, heq.trans hc.symm⟩)
      rw [hnothing, List.find?_cons_of_pos (by simpa using hc)]
      subst hc
      exact only_createPath hs hr hcnone _
    · rw [List.find?_cons_of_neg (by simpa using hc), only_createPath_of_ne hc]

/-- **The missing path** of a name, if it is missing. -/
def createMissingSole (r : Registry) (a : String) : Registry :=
  match r.missing.find? (·.name = a) with
  | none => r
  | some c => r.createSole a ⟨c, []⟩

/-- **The missing paths.** -/
lemma only_createMissing (hs : r.Seated) (hr : r.Documented) :
    r.createMissing.only a = (r.only a).createMissingSole a := by
  have hmissing : (r.only a).missing.find? (·.name = a) = r.missing.find? (·.name = a) := by
    unfold missing
    rw [confs_only, List.find?_filter, List.find?_filter]
    refine List.find?_congr fun c _ => ?_
    by_cases hc : c.name = a
    · subst hc
      simp [NameMap.contains, only]
    · simp [hc]
  unfold createMissing createMissingSole
  rw [hmissing]
  refine only_foldl_createPath r.missing hs hr ?_ fun c hc => ?_
  · exact r.confs.nodup_names.sublist
      ((List.filter_sublist.trans List.filter_sublist).map Conf.name)
  · simpa [NameMap.contains] using (List.mem_filter.1 hc).2

end Created

/-! ## Operations on the registry as a whole -/

section Whole

variable {r : Registry} {a b : String}

/-- **What becomes of the paths of a name** under a new set of configurations. -/
def reloadSole (r : Registry) (a : String) (new : ConfSet) : Registry :=
  if r.closed then r
  else { reloadStep r.confs new r a with confs := new }.createMissingSole a

/-- The live paths go over to the new configurations one after another: that of the name does. -/
lemma focus_foldl_reloadStep {rank : Nat → Nat} (hs : r.Seated) (old new : ConfSet) :
    (r.live.names.foldl (reloadStep old new) r).focus a rank =
      reloadStep old new (r.focus a rank) a := by
  rw [focus_foldl (g := reloadStep old new) r.live.nodup_names hs
    (fun s b hs => hs.reloadPath new _ _ b)
    (fun s b hs hne => focus_reloadPath_of_ne hne (hs.named b))
    fun s hs => focus_reloadPath (hs.named a)]
  split
  · rfl
  · next hnot =>
    unfold reloadStep reloadPath
    rw [notMem_names hnot]

lemma only_foldl_reloadStep (hs : r.Seated) (old new : ConfSet) :
    (r.live.names.foldl (reloadStep old new) r).only a = reloadStep old new (r.only a) a := by
  have hnumbers : (r.live.names.foldl (reloadStep old new) r).numbersOf a = r.numbersOf a := by
    have hstep : (reloadStep old new (r.focus a id) a).numbersOf a =
        (r.focus a id).numbersOf a := numbersOf_reloadPath hs.focus new _ _
    have hids := (congrArg (numbersOf · a) (focus_foldl_reloadStep hs old new)).trans hstep
    simpa [numbersOf_focus] using hids
  rw [only_eq hnumbers, focus_foldl_reloadStep hs]
  rfl

lemma Seated.foldl_reloadStep (hs : r.Seated) (old new : ConfSet) (names : List String) :
    (names.foldl (reloadStep old new) r).Seated :=
  List.foldlRecOn (motive := Seated) _ _ hs fun _ hs b _ => hs.reloadPath new _ _ b

/-- **A new set of configurations.** -/
lemma only_reload {now : Nat} (h : r.Hosts now now) (hs : r.Seated) (hr : r.Documented)
    (new : ConfSet) :
    ((r.reload new).toOption.getD r).only a = (r.only a).reloadSole a new := by
  unfold reloadSole
  rw [closed_only]
  cases hclosed : r.closed with
  | true => simp [reload, hclosed, Except.toOption]
  | false =>
    set moved : Registry := { r.live.names.foldl (reloadStep r.confs new) r with confs := new }
      with hmoved
    have hseated : moved.Seated := hs.foldl_reloadStep r.confs new r.live.names
    have hstages : Stages (fun _ _ => False) r (r.live.names.foldl (reloadStep r.confs new) r) :=
      stages_foldl_reloadStep r new r.live.entries r.live.nodup_names fun x hx =>
        have hget := (r.live.mem_entries_iff x.1 x.2).1 hx
        ⟨hget, h.carries x.1 x.2 hget⟩
    have hmoves : Stages (fun _ _ => False) r moved := hstages.tail (.note _ new _ _)
    have hdocumented : moved.Documented := hmoves.documented hr
    have honly : moved.only a =
        { (r.live.names.foldl (reloadStep r.confs new) r).only a with confs := new } := rfl
    rw [reload_of_open hclosed, ← hmoved]
    simp only [Except.toOption, Option.getD_some, Bool.false_eq_true, ↓reduceIte]
    rw [only_createMissing hseated hdocumented, honly, only_foldl_reloadStep hs, confs_only]

end Whole

/-! ## Requests -/

section Requests

variable {r : Registry} {a b : String}

/-- **The paths of a name** after a request for it. -/
def requestSole (r : Registry) (x : AccessRequest) (expected : Option Conf) (m : PathMessage) :
    Registry :=
  match r.fault? x expected, r.governing x.name with
  | none, .ok found =>
    (if r.live.contains x.name then r else r.createSole x.name found).update x.name (deliver m)
  | _, _ => r

/-- **A request** for the name. -/
lemma only_request (hs : r.Seated) (hr : r.Documented) (number : Nat) (x : AccessRequest)
    (expected : Option Conf) (m : PathMessage) :
    (r.request number x expected m).only x.name = (r.only x.name).requestSole x expected m := by
  unfold requestSole
  have hfault : (r.only x.name).fault? x expected = r.fault? x expected := rfl
  rw [hfault, governing_only]
  unfold request
  cases hfault : r.fault? x expected with
  | some e =>
    rw [acquire_of_fault hfault]
    rfl
  | none =>
    obtain ⟨-, found, -, hfind, hacquire⟩ := acquire_of_admitted hfault
    rw [hacquire, hs.allAlive.provide_asked, hfind]
    dsimp only
    have hcontains : (r.only x.name).live.contains x.name = r.live.contains x.name := by
      simp [NameMap.contains, only]
    rw [hcontains]
    cases hlive : r.live.contains x.name with
    | true => exact only_update (r := r.asked x expected) hs (Path.impartial_deliver m)
    | false =>
      have hnone : r.live.get? x.name = none := by simpa [NameMap.contains] using hlive
      have hasked : (r.asked x expected).Documented := ⟨hr.numbered, hr.knows, hr.told⟩
      have hseated : (r.asked x expected).Seated := hs
      simp only [Bool.false_eq_true, ↓reduceIte]
      rw [only_update (hseated.createPath x.name found) (Path.impartial_deliver m),
        only_createPath hseated hasked hnone]
      rfl

/-- A request for another name. -/
lemma only_request_of_ne (hs : r.Seated) (number : Nat) {x : AccessRequest} (hne : x.name ≠ a)
    (expected : Option Conf) (m : PathMessage) :
    (r.request number x expected m).only a = r.only a := by
  unfold request
  cases hfault : r.fault? x expected with
  | some e =>
    rw [acquire_of_fault hfault]
    rfl
  | none =>
    obtain ⟨-, found, -, -, hacquire⟩ := acquire_of_admitted hfault
    have hseated : (r.asked x expected).Seated := hs
    rw [hacquire, hs.allAlive.provide_asked]
    dsimp only
    split
    · exact only_update_of_ne hseated hne (Path.impartial_deliver m)
    · rw [only_update_of_ne (hseated.createPath x.name found) hne (Path.impartial_deliver m),
        only_createPath_of_ne hne]
      rfl

end Requests

end Registry

end LivePaths
