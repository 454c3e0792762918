import Mathlib.Data.List.Chain
import LivePaths.Proofs.Registry.Closing

set_option relaxedAutoImplicit false
set_option autoImplicit false

/-!
# Who is live, and who comes after whom

While a registry is open, every configuration without a pattern has its path, no other path is live
but for names that match a pattern, and no name has two live paths. Within its operations a registry
creates and removes one path at a time; the moments of an operation are the states in between. From
one moment to the next at most one path comes, under a number that is greater than all others, and
whoever had its name before has ended by then. Those who still have the handle of a path that has
ended are refused, and reach no other path by it.

## Main definitions

* `Registry.Succeeds` — a moment after another one: at most one path has come, after all others of
  its name have ended.
* `Registry.moments`, `Registry.history` — the states in which the operations of a run leave a
  registry while they go on.
* `Registry.Roster` — who is live in an open registry, and what is seen of it.
* `RegistryOp.target?`, `Registry.Gone` — whom an operation addresses, and a handle by which nobody
  is reached any more.

## Main results

* `Registry.Hosts.chain_moments` — within an operation one moment succeeds another.
* `Registry.Reachable.roster`, `Registry.Reachable.gone_of_ended` — states at rest.
* `Registry.succession_run` — whole runs.
-/

namespace LivePaths

/-- **Requests and new configurations**: the operations that may create paths. -/
def RegistryOp.mayCreate : RegistryOp → Bool
  | .request .. | .reload _ => true
  | _ => false

namespace Registry

/-! ## Handles -/

/-- **The handles** of all paths, those of the past included. -/
def handles (r : Registry) : List PathHandle := r.paths.map Path.handle

section Handles

variable {r r' : Registry} {name : String} {e : RegistryEntry}

/-- The path of a name is replaced by one with its handle. -/
lemma handles_insert (he : r.live.get? name = some e) {e' : RegistryEntry}
    (hlive : r'.live = r.live.insert name e') (hpast : r'.past = r.past)
    (hhandle : e'.path.handle = e.path.handle) : r'.handles.Perm r.handles := by
  have hafter := (r.live.values_insert_perm name e').map (·.path.handle)
  have hbefore := (NameMap.values_perm_of_get? he).map (·.path.handle)
  rw [List.map_cons] at hafter hbefore
  unfold handles paths
  rw [hlive, hpast, List.map_append, List.map_append, List.map_map, List.map_map]
  exact (hafter.trans (hhandle ▸ hbefore.symm)).append_left _

/-- The path of a name leaves its place and keeps its handle. -/
lemma handles_erase (he : r.live.get? name = some e) {p : Path}
    (hlive : r'.live = r.live.erase name) (hpast : r'.past = r.past ++ [p])
    (hhandle : p.handle = e.path.handle) : r'.handles.Perm r.handles := by
  have hbefore := (NameMap.values_perm_of_get? he).map (·.path.handle)
  rw [List.map_cons] at hbefore
  unfold handles paths
  rw [hlive, hpast, List.map_append, List.map_append, List.map_append, List.map_map, List.map_map,
    List.append_assoc]
  exact (hhandle ▸ hbefore.symm).append_left _

/-- A new path comes with its own handle. -/
lemma handles_createPath (hnone : r.live.get? name = none) (found : ConfSet.Found) :
    (r.createPath name found).handles.Perm (⟨name, r.created + 1⟩ :: r.handles) := by
  set path := Path.create r.settings r.now (r.created + 1) name found with hpath
  have hhandle : path.handle = ⟨name, r.created + 1⟩ := by
    rw [hpath, Path.create_eq]
    rfl
  have hafter := (r.live.values_insert_perm name { path, conf := found.conf }).map (·.path.handle)
  rw [List.map_cons, NameMap.erase_of_get? hnone, hhandle] at hafter
  unfold handles paths
  rw [List.map_append, List.map_append, List.map_map, List.map_map]
  exact (hafter.append_left _).trans List.perm_middle

end Handles

/-! ## Stages -/

/-- Whatever has the same identity has the same handle. -/
lemma handle_of_identity {p q : Path} (h : q.identity = p.identity) : q.handle = p.handle := by
  have hid : q.id = p.id := congrArg (·.1) h
  have hname : q.name = p.name := congrArg (·.2.1) h
  unfold Path.handle
  rw [hid, hname]

/-- A path that is destroyed keeps its handle. -/
lemma handle_destroy (p : Path) : p.destroy.handle = p.handle := by
  unfold Path.destroy
  split
  · rfl
  · exact handle_of_identity (Path.shutdown_history _).1

lemma name_destroy (p : Path) : p.destroy.name = p.name :=
  congrArg PathHandle.name (handle_destroy p)

variable {Came : PathHandle → PathMessage → Prop} {r r' : Registry}

/-- **Most stages** leave all paths with their handles; the others create one. -/
lemma Stage.handles_or (h : Stage Came r r') :
    (r'.handles.Perm r.handles ∧ r'.created = r.created) ∨
      ∃ name found, r.live.get? name = none ∧ r' = r.createPath name found := by
  cases h with
  | note confs questions refusals => exact .inl ⟨.refl _, rfl⟩
  | @steps name e ss he hname hlive hreached hss hm hgoes =>
    have hhandle := handle_of_identity hgoes.same
    rcases update_of_continues he (f := fun _ => e.path.run ss) hgoes hlive with
      ⟨-, ready, news, heq⟩ | ⟨-, news, heq⟩
    · rw [heq]
      exact .inl ⟨handles_insert he rfl rfl hhandle, rfl⟩
    · rw [heq]
      exact .inl ⟨handles_erase he rfl rfl hhandle, rfl⟩
  | @create name found hnone => exact .inr ⟨name, found, hnone, rfl⟩
  | @handOver name e c he hlive hc =>
    rw [handOver_eq he]
    exact .inl ⟨handles_insert he rfl rfl (by rw [Path.reload_eq]; rfl), rfl⟩
  | @remove name e he hlive =>
    rw [removePath_eq he]
    exact .inl ⟨handles_erase he rfl rfl (handle_destroy _), rfl⟩
  | media id act =>
    refine .inl ⟨.of_eq ?_, rfl⟩
    unfold handles
    rw [paths_modifyPath, List.map_map]
    refine List.map_congr_left fun p _ => ?_
    rw [Function.comp_apply]
    split
    · exact handle_of_identity (p.goesOn_media act).identity_eq.1
    · rfl
  | age time hpast =>
    refine .inl ⟨.of_eq ?_, rfl⟩
    unfold handles paths
    rw [List.map_append, List.map_append, List.map_map]
    refine congrArg (· ++ _) (List.map_congr_left fun p _ => ?_)
    exact handle_of_identity (continues_advance time p).same

/-- **Stages without a new path** leave all paths with their handles. -/
lemma Stages.handles_of_created (h : Stages Came r r') :
    r.created ≤ r'.created ∧ (r'.created = r.created → r'.handles.Perm r.handles) := by
  induction h with
  | refl => exact ⟨le_rfl, fun _ => .refl _⟩
  | tail _ hstage ih =>
    rcases hstage.handles_or with ⟨hperm, hcreated⟩ | ⟨name, found, -, rfl⟩
    · exact ⟨hcreated ▸ ih.1, fun heq => hperm.trans (ih.2 (hcreated ▸ heq))⟩
    · have hle := ih.1
      have hcreated (s : Registry) : (s.createPath name found).created = s.created + 1 := rfl
      exact ⟨by rw [hcreated]; omega, fun heq => by rw [hcreated] at heq; omega⟩

/-- **Populated registries**: all paths are in states of lives, those of the past are over, the live
ones stand under their names, and each has a number of its own. -/
structure Populated (r : Registry) : Prop where
  lived : ∀ p ∈ r.paths, p.Lived
  gone : ∀ p ∈ r.past, p.ended = true
  named : ∀ name e, r.live.get? name = some e → e.path.name = name
  numbered : r.Numbered

/-- Stages keep a registry populated. -/
lemma Stage.populated (h : Stage Came r r') (hr : r.Populated) : r'.Populated := by
  refine ⟨h.lived hr.lived, ?_, ?_, h.numbered hr.numbered⟩
  · cases h with
    | note => exact hr.gone
    | @steps name e ss he hname hlive hreached hss hm hgoes =>
      rcases update_of_continues he (f := fun _ => e.path.run ss) hgoes hlive with
        ⟨-, ready, news, heq⟩ | ⟨hended, news, heq⟩
      · rw [heq]
        exact hr.gone
      · rw [heq]
        exact List.forall_mem_append.2 ⟨hr.gone, List.forall_mem_singleton.2 hended⟩
    | create => exact hr.gone
    | handOver he hlive hc =>
      rw [handOver_eq he]
      exact hr.gone
    | remove he hlive =>
      rw [removePath_eq he]
      exact List.forall_mem_append.2
        ⟨hr.gone, List.forall_mem_singleton.2 (Path.isOver_destroy hlive).ended⟩
    | media id act =>
      intro p hp
      obtain ⟨q, hq, rfl⟩ := List.mem_map.1 hp
      have hended := hr.gone q hq
      split
      · exact (q.goesOn_media act).identity_eq.2.trans hended
      · exact hended
    | age time hpast =>
      intro p hp
      obtain ⟨q, hq, rfl⟩ := List.mem_map.1 hp
      exact ((hpast q hq).1.advance time).ended
  · intro name e' he'
    cases h with
    | note => exact hr.named name e' he'
    | @steps changed e ss he hname hlive hreached hss hm hgoes =>
      rcases update_of_continues he (f := fun _ => e.path.run ss) hgoes hlive with
        ⟨-, ready, news, heq⟩ | ⟨-, news, heq⟩
      · rw [heq, NameMap.get?_insert] at he'
        split at he'
        · next hchanged =>
          obtain rfl := Option.some.inj he'
          exact (congrArg (·.2.1) hgoes.same).trans (hname.trans hchanged)
        · exact hr.named name e' he'
      · rw [heq, NameMap.get?_erase] at he'
        split at he'
        · cases he'
        · exact hr.named name e' he'
    | @create changed found hnone =>
      rw [createPath, NameMap.get?_insert] at he'
      split at he'
      · next hchanged =>
        obtain rfl := Option.some.inj he'
        simp only [Path.create_eq, hchanged]
      · exact hr.named name e' he'
    | @handOver changed e c he hlive hc =>
      rw [handOver_eq he, NameMap.get?_insert] at he'
      split at he'
      · next hchanged =>
        obtain rfl := Option.some.inj he'
        simp only [Path.reload_eq]
        exact (hr.named changed e he).trans hchanged
      · exact hr.named name e' he'
    | @remove changed e he hlive =>
      rw [removePath_eq he, NameMap.get?_erase] at he'
      split at he'
      · cases he'
      · exact hr.named name e' he'
    | media id act =>
      rw [modifyPath, NameMap.get?_mapValues] at he'
      obtain ⟨e, he, rfl⟩ := Option.map_eq_some_iff.1 he'
      have hname := hr.named name e he
      dsimp only
      split
      · exact (congrArg (·.2.1) (e.path.goesOn_media act).identity_eq.1).trans hname
      · exact hname
    | age => exact hr.named name e' he'

/-! ## Succession -/

/-- **Succession** of moments: all paths stay with their handles, or one more has come. It is as it
was created, its number is greater than those of all others, and whoever had its name before is at
rest and has been told to be over. -/
def Succeeds (r r' : Registry) : Prop :=
  r'.handles.Perm r.handles ∨
    ∃ q ∈ r'.paths, r'.handles.Perm (q.handle :: r.handles) ∧
      (∃ found, q = Path.create r.settings r.now q.id q.name found) ∧
      (∀ p ∈ r.paths, p.id < q.id) ∧
      ∀ p ∈ r.paths, p.name = q.name → p.AtRest ∧ .uninit ∈ p.log

/-- What has ended has been told to be over. -/
lemma uninit_mem_log {p : Path} (h : p.Lived) (hended : p.ended = true) : .uninit ∈ p.log := by
  have hcount := h.count_uninit
  rw [hended] at hcount
  exact List.count_pos_iff.1 (by rw [hcount]; decide)

namespace Populated

variable (h : r.Populated)

include h

/-- **A path of a name that is not live** has ended. -/
lemma ended_of_none {name : String} (hnone : r.live.get? name = none) {p : Path} (hp : p ∈ r.paths)
    (hname : p.name = name) : p.ended = true := by
  rcases mem_paths.1 hp with hp | ⟨other, e, he, rfl⟩
  · exact h.gone p hp
  · have hother := h.named other e he
    rw [← hother, hname, hnone] at he
    cases he

/-- **A new path** comes after all others of its name. -/
lemma succeeds_createPath {name : String} (hnone : r.live.get? name = none)
    (found : ConfSet.Found) : r.Succeeds (r.createPath name found) := by
  set q := Path.create r.settings r.now (r.created + 1) name found with hq
  have hid : q.id = r.created + 1 := by rw [hq, Path.create_eq]
  have hname : q.name = name := by rw [hq, Path.create_eq]
  have hhandle : q.handle = ⟨name, r.created + 1⟩ := by rw [Path.handle, hid, hname]
  have hget : (r.createPath name found).live.get? name =
      some { path := q, conf := found.conf } := by
    rw [createPath, NameMap.get?_insert, if_pos rfl]
  refine .inr ⟨q, mem_paths.2 (.inr ⟨name, _, hget, rfl⟩), ?_, ⟨found, ?_⟩, fun p hp => ?_,
    fun p hp hsame => ?_⟩
  · rw [hhandle]
    exact handles_createPath hnone found
  · rw [hid, hname]
  · rw [hid]
    exact Nat.lt_succ_of_le (h.numbered.id_le hp)
  · have hended := h.ended_of_none hnone hp (hsame.trans hname)
    exact ⟨(h.lived p hp).atRest hended, uninit_mem_log (h.lived p hp) hended⟩

end Populated

/-- All registries at rest are populated. -/
lemma Reachable.populated {Admits : ConfSet → Prop} (h : r.Reachable Admits) : r.Populated :=
  ⟨h.lived, fun p hp => (h.hosts.gone p hp).1.ended,
    fun name e he => (h.hosts.carries name e he).name_eq, h.hosts.numbered⟩

/-! ## Numbers of created paths -/

lemma created_takeNotice (name : String) (r : Registry) (n : Notice) :
    (takeNotice name r n).created = r.created := by
  unfold takeNotice
  split
  · rfl
  · split
    · rw [tellHls_eq]
    · rw [tellHls_eq]
    · dsimp only
      split
      · rw [tellHls_eq]
      · rfl

/-- Nothing that happens to live paths creates one. -/
lemma created_update (r : Registry) (name : String) (f : Path → Path) :
    (r.update name f).created = r.created := by
  unfold update
  split
  · rfl
  · exact List.foldlRecOn (motive := fun s : Registry => s.created = r.created) _ _ rfl
      fun s hs n _ => (created_takeNotice name s n).trans hs

lemma created_updateAll (r : Registry) (f : Path → Path) :
    (r.updateAll f).created = r.created :=
  List.foldlRecOn (motive := fun s : Registry => s.created = r.created) _ _ rfl
    fun s hs name _ => (created_update s name f).trans hs

lemma created_removePath (r : Registry) (name : String) :
    (r.removePath name).created = r.created := by
  cases he : r.live.get? name with
  | none => simp [removePath, he]
  | some e => rw [removePath_eq he]

lemma created_reloadPath (new : ConfSet) (absorbed replaced : List String) (r : Registry)
    (name : String) : (reloadPath new absorbed replaced r name).created = r.created := by
  unfold reloadPath
  split
  · rfl
  · split
    · rfl
    · exact created_update _ name _
    · exact created_removePath r name

/-- A request to a path, or a message to it, creates none. -/
lemma created_requestOf (r : Registry) (number : Nat) (handle : PathHandle) (m : PathMessage) :
    (r.requestOf number handle m).created = r.created := by
  rcases r.requestOf_cases number handle m with heq | ⟨-, -, -, heq⟩
  · rw [heq]
    rfl
  · rw [heq, created_update]

lemma created_tell (r : Registry) (handle : PathHandle) (m : PathMessage) :
    (r.tell handle m).created = r.created := by
  rcases r.tell_cases handle m with heq | ⟨-, -, -, heq⟩
  · rw [heq]
  · rw [heq, created_update]

/-- **All operations** but requests through the registry and new configurations create no path. -/
lemma Numbered.created_apply (h : r.Numbered) {op : RegistryOp} (hop : op.mayCreate = false) :
    (r.apply op).created = r.created := by
  cases hmedia : op.isMedia with
  | true =>
    rcases h.changesMedia_apply hmedia with heq | ⟨id, act, heq⟩
    · rw [heq]
    · rw [heq]
      rfl
  | false =>
    cases op with
    | request | reload => cases hop
    | requestOf number handle query c => exact created_requestOf r number handle _
    | sourceReady number handle d rtp => exact created_requestOf r number handle _
    | unpublish handle client => exact created_tell r handle _
    | unread handle client => exact created_tell r handle _
    | sourceNotReady handle => exact created_tell r handle _
    | abandon number => exact created_updateAll r _
    | find access =>
      obtain ⟨questions, heq⟩ := r.find_eq access
      change (r.find access).1.created = r.created
      rw [heq]
    | setHls server =>
      change ((r.setHls server).toOption.getD r).created = r.created
      cases heq : r.setHls server with
      | error e => rfl
      | ok r' =>
        obtain ⟨news, rfl⟩ := setHls_eq heq
        rfl
    | sleep ms => exact created_updateAll r _
    | close =>
      change r.close.created = r.created
      unfold Registry.close
      split <;> rfl
    | _ => cases hmedia

/-! ## Moments -/

/-- **The states of a sequence** of steps, the first and the last one included. -/
def along {α : Type} (f : Registry → α → Registry) : Registry → List α → List Registry
  | r, [] => [r]
  | r, a :: rest => r :: along f (f r a) rest

/-- The creation of a path without a pattern. -/
def createFixed (r : Registry) (c : Conf) : Registry := r.createPath c.name ⟨c, []⟩

/-- **The moments of an operation**, up to the state after it. A request through the registry first
finds or creates its path. Under a new set of configurations the live paths are reloaded or removed
one after another, and then the missing ones are created one after another. -/
def moments (r : Registry) : RegistryOp → List Registry
  | .request number access c =>
    [(r.acquire access c.expected?).1, r.apply (.request number access c)]
  | .reload confs =>
    if r.closed then [r]
    else
      let moved : Registry := { r.live.names.foldl (reloadStep r.confs confs) r with confs }
      along (reloadStep r.confs confs) r r.live.names ++ along createFixed moved moved.missing
  | op => [r.apply op]

/-- **The history of a run**: the moments of all its operations. -/
def history (r : Registry) : List RegistryOp → List Registry
  | [] => []
  | op :: rest => r.moments op ++ (r.apply op).history rest

/-- **The moments of the beginning**: the first paths are created one after another. -/
def beginning (settings : PathSettings) (confs : ConfSet) (authenticator : Authenticator)
    (hls : Option String) : List Registry :=
  let empty : Registry := { settings, confs, authenticator, hls }
  along createFixed empty empty.missing

section Along

variable {α : Type} {f : Registry → α → Registry}

lemma getLast?_along (r : Registry) (l : List α) :
    (along f r l).getLast? = some (l.foldl f r) := by
  induction l generalizing r with
  | nil => rfl
  | cons a rest ih =>
    rw [along, List.getLast?_cons, ih]
    rfl

/-- **Steps that succeed each other**, under something that they keep. -/
lemma chain_along {I : Registry → List α → Prop}
    (step : ∀ r a rest, I r (a :: rest) → r.Succeeds (f r a) ∧ I (f r a) rest) {r : Registry}
    {l : List α} (h : I r l) :
    (along f r l).IsChain Succeeds ∧ I (l.foldl f r) [] := by
  induction l generalizing r with
  | nil => exact ⟨.singleton r, h⟩
  | cons a rest ih =>
    obtain ⟨hsucceeds, hnext⟩ := step r a rest h
    obtain ⟨hchain, hlast⟩ := ih hnext
    refine ⟨hchain.cons fun s hs => ?_, hlast⟩
    have hhead : (along f (f r a) rest).head? = some (f r a) := by cases rest <;> rfl
    rw [hhead] at hs
    exact Option.some.inj hs ▸ hsucceeds

end Along

/-- One sequence of moments after another. -/
lemma chain_append {l₁ l₂ : List Registry} {last : Registry} (h₁ : l₁.IsChain Succeeds)
    (hlast : l₁.getLast? = some last) (h₂ : (last :: l₂).IsChain Succeeds) :
    (l₁ ++ l₂).IsChain Succeeds := by
  obtain ⟨hnext, hrest⟩ := List.isChain_cons.1 h₂
  refine h₁.append hrest fun s hs => ?_
  rw [hlast] at hs
  exact Option.some.inj hs ▸ hnext

/-- Nothing that is seen here has changed. -/
lemma Succeeds.of_paths (h : r'.paths = r.paths) : r.Succeeds r' :=
  .inl (.of_eq (congrArg (List.map Path.handle) h))

/-- Stages without a new path lead to a next moment. -/
lemma Stages.succeeds (h : Stages Came r r') (hcreated : r'.created = r.created) :
    r.Succeeds r' :=
  .inl (h.handles_of_created.2 hcreated)

lemma Stages.populated (h : Stages Came r r') (hr : r.Populated) : r'.Populated :=
  h.keeps (fun _ _ => Stage.populated) hr

/-- **The missing paths** come one after another. -/
lemma Populated.chain_missing (h : r.Populated) :
    (along createFixed r r.missing).IsChain Succeeds := by
  refine (chain_along (I := fun r cs => r.Populated ∧ (cs.map Conf.name).Nodup ∧
    ∀ c ∈ cs, r.live.get? c.name = none) (fun r c rest hr => ?_) ⟨h, ?_, fun c hc => ?_⟩).1
  · obtain ⟨hpop, hnodup, hnone⟩ := hr
    obtain ⟨hnot, hrest⟩ := List.nodup_cons.1 hnodup
    have hc := hnone c List.mem_cons_self
    have hstage : Stage (fun _ _ => True) r (createFixed r c) := .create ⟨c, []⟩ hc
    refine ⟨hpop.succeeds_createPath hc ⟨c, []⟩, hstage.populated hpop, hrest, fun d hd => ?_⟩
    have hne : c.name ≠ d.name := fun hcd => hnot (List.mem_map.2 ⟨d, hd, hcd.symm⟩)
    rw [createFixed, createPath, NameMap.get?_insert, if_neg hne]
    exact hnone d (List.mem_cons_of_mem _ hd)
  · exact r.confs.nodup_names.sublist
      ((List.filter_sublist.trans List.filter_sublist).map Conf.name)
  · simpa [NameMap.contains] using (List.mem_filter.1 hc).2

section Rest

variable {Admits : ConfSet → Prop} (h : r.Reachable Admits)

include h

/-- **The moments of a request**: its path is found or created, and then it is passed on or
refused. -/
lemma Reachable.chain_request (number : Nat) (a : AccessRequest) (c : ClientRequest) :
    r.Succeeds (r.acquire a c.expected?).1 ∧
      (r.acquire a c.expected?).1.Succeeds (r.apply (.request number a c)) := by
  have hacquired := h.hosts.acquire a c.expected?
  refine ⟨?_, ?_⟩
  · obtain ⟨questions, ⟨e, heq⟩ | ⟨-, heq⟩ | ⟨found, -, -, hmissing, heq⟩⟩ :=
      acquire_cases h.hosts.allAlive a c.expected?
    · rw [heq]
      exact .of_paths rfl
    · rw [heq]
      exact .of_paths rfl
    · have hnone : r.live.get? a.name = none := by simpa [NameMap.contains] using hmissing
      have hasked : { r with questions }.Populated :=
        ⟨h.populated.lived, h.populated.gone, h.populated.named, h.populated.numbered⟩
      rw [heq]
      exact hasked.succeeds_createPath hnone found
  · change (r.acquire a c.expected?).1.Succeeds (r.request number a c.expected? _)
    unfold request
    split
    · next acquired e heq =>
      rw [heq]
      exact .of_paths rfl
    · next acquired heq =>
      rw [heq] at hacquired ⊢
      have hstages : Stages (fun _ _ => True) acquired
          (acquired.update a.name (deliver (c.message number a.query))) :=
        hacquired.stages_deliver
          (fun hreport => by simp [isReport_message] at hreport) fun _ _ _ => trivial
      exact hstages.succeeds (created_update ..)

/-- **The moments of a reload** while the registry is open. -/
lemma Reachable.chain_reload (hopen : r.closed = false) (confs : ConfSet) :
    (r.moments (.reload confs)).IsChain Succeeds ∧
      (r.moments (.reload confs)).head? = some r ∧
      (r.moments (.reload confs)).getLast? = some (r.apply (.reload confs)) := by
  set moved : Registry := { r.live.names.foldl (reloadStep r.confs confs) r with confs } with hmoved
  have hmoments : r.moments (.reload confs) =
      along (reloadStep r.confs confs) r r.live.names ++ along createFixed moved moved.missing := by
    simp [moments, hopen, hmoved]
  have happly : r.apply (.reload confs) = moved.createMissing := by
    change (r.reload confs).toOption.getD r = _
    rw [reload_of_open hopen]
    rfl
  obtain ⟨hremoved, hpopulated, -⟩ := chain_along
    (f := reloadStep r.confs confs)
    (I := fun s names => s.Populated ∧ names.Nodup ∧
      ∀ name ∈ names, ∃ e, s.live.get? name = some e ∧ r.Carries name e)
    (fun s name rest hs => by
      obtain ⟨hpop, hnodup, hall⟩ := hs
      obtain ⟨hnot, hrest⟩ := List.nodup_cons.1 hnodup
      obtain ⟨e, he, hg⟩ := hall name List.mem_cons_self
      have hstages : Stages (fun _ _ => True) s (reloadStep r.confs confs s name) :=
        stages_reloadStep hg he
      refine ⟨hstages.succeeds (created_reloadPath ..), hstages.populated hpop, hrest,
        fun other hother => ?_⟩
      obtain ⟨e', he', hg'⟩ := hall other (List.mem_cons_of_mem _ hother)
      have hne : name ≠ other := fun heq => hnot (heq ▸ hother)
      exact ⟨e', (get?_reloadStep_of_ne hg he hne).trans he', hg'⟩)
    (r := r) (l := r.live.names)
    ⟨h.populated, r.live.nodup_names, fun name hname => by
      obtain ⟨e, he⟩ := Option.isSome_iff_exists.1 ((r.live.mem_names_iff name).1 hname)
      exact ⟨e, he, h.hosts.carries name e he⟩⟩
  have hset : moved.Populated :=
    ⟨hpopulated.lived, hpopulated.gone, hpopulated.named, hpopulated.numbered⟩
  have hcreated := hset.chain_missing
  rw [hmoments, happly]
  refine ⟨chain_append hremoved (getLast?_along r _) (hcreated.cons fun s hs => ?_), ?_, ?_⟩
  · have hhead : (along createFixed moved moved.missing).head? = some moved := by
      cases moved.missing <;> rfl
    rw [hhead] at hs
    exact Option.some.inj hs ▸ .of_paths rfl
  · cases r.live.names <;> rfl
  · rw [List.getLast?_append, getLast?_along]
    rfl

/-- **Within an operation** one moment succeeds another, from the state before it to the one
after it. -/
theorem Reachable.chain_moments {op : RegistryOp} (hop : r.Permits Admits op) :
    (r :: r.moments op).IsChain Succeeds ∧
      (r.moments op).getLast? = some (r.apply op) := by
  have hsingle (hmoments : r.moments op = [r.apply op]) (hsucceeds : r.Succeeds (r.apply op)) :
      (r :: r.moments op).IsChain Succeeds ∧ (r.moments op).getLast? = some (r.apply op) := by
    rw [hmoments]
    exact ⟨.cons_cons hsucceeds (.singleton _), rfl⟩
  cases hcreates : op.mayCreate with
  | true =>
    cases op with
    | request number access c =>
      obtain ⟨hfirst, hsecond⟩ := h.chain_request number access c
      exact ⟨.cons_cons hfirst (.cons_cons hsecond (.singleton _)), rfl⟩
    | reload confs =>
      by_cases hclosed : r.closed = true
      · have hsame : r.apply (.reload confs) = r := by
          simp [Registry.apply, reload, hclosed, Except.toOption]
        refine hsingle ?_ ?_
        · rw [hsame]
          simp [moments, hclosed]
        · rw [hsame]
          exact .of_paths rfl
      · obtain ⟨hchain, hhead, hlast⟩ := h.chain_reload (by simpa using hclosed) confs
        refine ⟨hchain.cons fun s hs => ?_, hlast⟩
        rw [hhead] at hs
        exact Option.some.inj hs ▸ .of_paths rfl
    | _ => cases hcreates
  | false =>
    have hmoments : r.moments op = [r.apply op] := by
      cases op <;> first | rfl | cases hcreates
    have hcreated := h.hosts.numbered.created_apply hcreates
    refine hsingle hmoments ?_
    cases hglobal : op.isGlobal with
    | false => exact (h.hosts.stages_apply hop hglobal).succeeds hcreated
    | true =>
      cases op with
      | setHls server =>
        change r.Succeeds ((r.setHls server).toOption.getD r)
        cases heq : r.setHls server with
        | error e => exact .of_paths rfl
        | ok r' =>
          obtain ⟨news, rfl⟩ := setHls_eq heq
          exact .of_paths rfl
      | close =>
        change r.Succeeds r.close
        unfold close
        split
        · exact .of_paths rfl
        · refine .inl (.of_eq ?_)
          simp only [handles, paths, List.map_append, List.map_map, Function.comp_def,
            handle_destroy]
          exact List.append_nil _
      | _ => cases hglobal

/-- **The history of a run**: one moment succeeds another. -/
theorem Reachable.chain_history {ops : List RegistryOp} (hops : r.PermitsAll Admits ops) :
    (r :: r.history ops).IsChain Succeeds := by
  induction ops generalizing r with
  | nil => exact .singleton r
  | cons op rest ih =>
    obtain ⟨hchain, hlast⟩ := h.chain_moments hops.1
    refine chain_append hchain ?_ (ih (h.apply op hops.1) hops.2)
    rw [List.getLast?_cons, hlast]
    rfl

end Rest

/-! ## At rest -/

/-- **The roster** of an open registry: every configuration without a pattern has its path, all
other live paths have configurations with a pattern, whatever has not ended is the live path of its
name, and exactly these paths are listed, in strictly ascending order of their names. -/
structure Roster (r : Registry) : Prop where
  fixed : ∀ c ∈ r.confs.fixed, ∃ e, r.live.get? c.name = some e ∧ e.path.conf = c
  others : ∀ name e, r.live.get? name = some e → e.path.name = name ∧ e.path.ended = false ∧
    (e.path.conf.hasPattern = true ∨ e.path.conf ∈ r.confs.fixed ∧ e.path.conf.name = name)
  unique : ∀ p ∈ r.paths, p.ended = false → ∃ e, r.live.get? p.name = some e ∧ e.path = p
  list : r.list = .ok ((r.paths.filter fun p => !p.ended).map Path.snapshot)
  ascending : ∀ ss, r.list = .ok ss → (ss.map (·.name)).Pairwise (· < ·)

/-- **Open registries at rest** have their roster. -/
theorem Reachable.roster {r : Registry} (h : r.Reachable ConfSet.HasValidNames)
    (hopen : r.closed = false) : r.Roster := by
  have hgoverned := h.sound.governed
  have hpast : (r.past.filter fun p => !p.ended) = [] :=
    List.filter_eq_nil_iff.2 fun p hp => by simp [h.populated.gone p hp]
  have hlive : ((r.live.values.map (·.path)).filter fun p => !p.ended) =
      r.live.values.map (·.path) := by
    refine List.filter_eq_self.2 fun p hp => ?_
    obtain ⟨e, he, rfl⟩ := List.mem_map.1 hp
    obtain ⟨name, hget⟩ := (r.live.mem_values_iff e).1 he
    simp [h.hosts.alive hget]
  have hlist : r.list = .ok r.snapshots := by simp [list, hopen]
  refine ⟨fun c hc => ?_, fun name e he => ?_, fun p hp hended => ?_, ?_, fun ss hss => ?_⟩
  · obtain ⟨e, he⟩ := Option.isSome_iff_exists.1 (hgoverned.complete hopen c hc)
    exact ⟨e, he, (hgoverned.governs c.name e he).conf_eq.trans (hgoverned.conf_of_fixed hc he)⟩
  · have hg := hgoverned.governs name e he
    obtain ⟨captures, hfind⟩ := hg.found
    rw [hg.conf_eq]
    exact ⟨hg.name_eq, hg.alive, ConfSet.name_of_find hfind⟩
  · rcases mem_paths.1 hp with hp | ⟨name, e, he, rfl⟩
    · rw [h.populated.gone p hp] at hended
      cases hended
    · exact ⟨e, (hgoverned.governs name e he).name_eq ▸ he, rfl⟩
  · rw [hlist, paths, List.filter_append, hpast, hlive, List.nil_append, List.map_map]
    rfl
  · obtain rfl := Except.ok.inj (hlist.symm.trans hss)
    have hnames : r.snapshots.map (·.name) = r.live.names := by
      unfold snapshots NameMap.values NameMap.names
      rw [List.map_map, List.map_map]
      refine List.map_congr_left fun x hx => ?_
      have hget := (r.live.mem_entries_iff x.1 x.2).1 hx
      have hname : x.2.path.snapshot.name = x.2.path.name := by
        unfold Path.snapshot
        split <;> rfl
      exact hname.trans (hgoverned.governs x.1 x.2 hget).name_eq
    rw [hnames]
    exact List.pairwise_map.2 r.live.ascending

end Registry

/-- **The handle** that an operation addresses, if it addresses one. -/
def RegistryOp.target? : RegistryOp → Option PathHandle
  | .requestOf _ h _ _ | .unpublish h _ | .unread h _ | .sourceReady _ h _ _
  | .sourceNotReady h => some h
  | _ => none

namespace Registry

/-- **Gone**: nobody is reached by a handle. Whatever is addressed to it is refused as terminated or
does nothing, nothing is seen of it, and nobody is given it any more. -/
structure Gone (r : Registry) (h : PathHandle) : Prop where
  apply : ∀ op : RegistryOp, op.target? = some h → r.apply op = r.reject op
  snapshotOf : r.snapshotOf h = .error .terminated
  get : ∀ name, r.get name ≠ .ok h

/-- **The handle of a path that has ended** leads to nobody, whoever has its name by now. -/
theorem Reachable.gone_of_ended {Admits : ConfSet → Prop} {r : Registry} (h : r.Reachable Admits)
    {p : Path} (hp : p ∈ r.paths) (hended : p.ended = true) : r.Gone p.handle := by
  -- a live path with this number would be the one that has ended
  have hother {name : String} {e : RegistryEntry} (he : r.live.get? name = some e) :
      e.path.id ≠ p.id := by
    intro hid
    have hmem : e.path ∈ r.paths := mem_paths.2 (.inr ⟨name, e, he, rfl⟩)
    have hsame : e.path = p := List.inj_on_of_nodup_map h.hosts.numbered.nodup_ids hmem hp hid
    rw [← hsame, h.hosts.alive he] at hended
    cases hended
  have hdead : r.isLive p.handle = false := by
    unfold isLive
    cases he : r.live.get? p.handle.name with
    | none => rfl
    | some e => exact decide_eq_false (hother he)
  refine ⟨fun op hop => ?_, ?_, fun name hget => ?_⟩
  · cases op with
    | requestOf number handle query c | sourceReady number handle d rtp =>
      obtain rfl := Option.some.inj hop
      simp [Registry.apply, requestOf, hdead, reject, RegistryOp.number?]
    | unpublish handle client | unread handle client | sourceNotReady handle =>
      obtain rfl := Option.some.inj hop
      simp [Registry.apply, tell, updateHandle, hdead, reject, RegistryOp.number?]
    | _ => cases hop
  · unfold snapshotOf
    cases he : r.live.get? p.handle.name with
    | none => rfl
    | some e => exact if_neg (hother he)
  · unfold get at hget
    split at hget
    · cases hget
    · split at hget
      · next e he => exact hother he (congrArg PathHandle.id (Except.ok.inj hget))
      · cases hget

/-! ## Whole runs -/

/-- **Whole runs**: from the beginning on each moment succeeds the one before, so that at most one
path comes at a time, under the greatest number so far, after all others of its name have ended. At
the end no two paths have the same number, an open registry has its roster, and nobody is reached by
the handle of a path that has ended.

**Proof sketch.** Operations are sequences of stages, one of which creates a path under a name that
is not live. All that had this name are paths of the past, which are in states of lives that have
ended. -/
theorem succession_run {confs : ConfSet} (hconfs : confs.HasValidNames) (settings : PathSettings)
    (authenticator : Authenticator) (hls : Option String) {ops : List RegistryOp}
    (hops : (start settings confs authenticator hls).PermitsAll ConfSet.HasValidNames ops) :
    let first := start settings confs authenticator hls
    (beginning settings confs authenticator hls ++ first.history ops).IsChain Succeeds ∧
      ((first.run ops).paths.map (·.id)).Nodup ∧
      ((first.run ops).closed = false → (first.run ops).Roster) ∧
      ∀ p ∈ (first.run ops).paths, p.ended = true → (first.run ops).Gone p.handle := by
  intro first
  have hfirst : first.Reachable ConfSet.HasValidNames := .start hconfs settings authenticator hls
  have hlast := hfirst.run hops
  have hempty : ({ settings, confs, authenticator, hls } : Registry).Populated :=
    ⟨fun p hp => by simpa using mem_paths.1 hp, by simp, by simp,
      numbered_empty settings confs authenticator hls⟩
  refine ⟨?_, hlast.hosts.numbered.nodup_ids, hlast.roster, fun p => hlast.gone_of_ended⟩
  exact chain_append hempty.chain_missing (getLast?_along _ _) (hfirst.chain_history hops)

/-- The camera may be replaced by one with a limit of readers, which needs a new path. -/
def limitedCamera : ConfSet := .ofList [{ name := "cam", maxReaders := 3 }]

/-- The path of a camera is replaced within one reload, and who still has its handle is refused. -/
theorem succession_limitedCamera :
    let first := start {} oneCamera .allowAll none
    let ops := [.reload limitedCamera, .requestOf 0 ⟨"cam", 1⟩ "" .describe]
    oneCamera.HasValidNames ∧ first.PermitsAll ConfSet.HasValidNames ops ∧
      (beginning {} oneCamera .allowAll none ++ first.history ops).IsChain Succeeds ∧
      (first.run ops).Roster ∧ (first.run ops).handles = [⟨"cam", 1⟩, ⟨"cam", 2⟩] ∧
      (first.run ops).Gone ⟨"cam", 1⟩ ∧ (first.run ops).refusals = [(0, .terminated)] := by
  intro first ops
  have hconfs : oneCamera.HasValidNames := by decide
  have hops : first.PermitsAll ConfSet.HasValidNames ops :=
    ⟨(by decide : limitedCamera.HasValidNames), trivial, trivial⟩
  obtain ⟨hchain, -, hroster, hgone⟩ := succession_run hconfs {} .allowAll none hops
  have hopen : (first.run ops).closed = false := by cbv
  have hhandles : (first.run ops).handles = [⟨"cam", 1⟩, ⟨"cam", 2⟩] := by cbv
  have hended : ((first.run ops).paths.map fun p => (p.handle, p.ended)) =
      [(⟨"cam", 1⟩, true), (⟨"cam", 2⟩, false)] := by cbv
  obtain ⟨p, hp, hpair⟩ := List.mem_map.1 (hended ▸ List.mem_cons_self)
  obtain ⟨hhandle, hend⟩ := Prod.mk.inj hpair
  exact ⟨hconfs, hops, hchain, hroster hopen, hhandles, hhandle ▸ hgone p hp hend, by cbv⟩

end Registry

end LivePaths
