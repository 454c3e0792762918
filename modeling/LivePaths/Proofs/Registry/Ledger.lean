import Mathlib.Data.List.Perm.Basic
import LivePaths.Proofs.Registry.Hosting

set_option relaxedAutoImplicit false
set_option autoImplicit false

/-!
# The ledger of a registry

A request that comes to a registry is refused there or passed on to one path, which keeps its own
ledger. Together they account for every request: whatever was asked and not given up is answered
once, or waits in one entry of one live path.

## Main definitions

* `Registry.answered`, `Registry.accounts` — what was answered, and what waits besides.
* `Registry.Conserves` — nothing is lost and nothing is answered twice from one registry to another.
* `Registry.GivesUp` — a client gives up a request that it has made and that was not answered.
* `Registry.Accounted` — what becomes of all requests.

## Main results

* `Registry.Hosts.conserves_apply`, `Registry.Hosts.conserves_run` — operations and runs conserve.
* `Registry.mem_dropped_iff_givesUp` — what is dropped in a run is what clients give up.
* `Registry.accounted_run` — every request of a run is accounted for.
-/

namespace LivePaths

namespace Registry

/-! ## Accounts -/

/-- The requests that were refused without reaching a path. -/
def refused (r : Registry) : List Nat := r.refusals.map Prod.fst

/-- **The answered requests.** -/
def answered (r : Registry) : List Nat := r.refused ++ r.paths.flatMap Path.answered

/-- The requests that wait in live paths. -/
def waiting (r : Registry) : List Nat := r.live.values.flatMap (·.path.waiting)

/-- The requests of all entries of live paths, also of those whose clients have given up. -/
def held (r : Registry) : List Nat := r.live.values.flatMap (·.path.held)

/-- **The accounts** of a registry and all its paths: what was answered and what waits. -/
def accounts (r : Registry) : List Nat := r.refused ++ r.paths.flatMap Path.accounts

/-- **The traces** that requests have left: answers and entries. -/
def traces (r : Registry) : List Nat := r.refused ++ r.paths.flatMap Path.traces

/-- **Conservation**: each request occurs in the accounts as often as before, but for those that
were asked or given up in between, and has left no trace more than that it was asked. -/
structure Conserves (asked dropped : List Nat) (r r' : Registry) : Prop where
  balance : ∀ n, r'.accounts.count n + dropped.count n = r.accounts.count n + asked.count n
  traced : ∀ n, r'.traces.count n ≤ r.traces.count n + asked.count n

namespace Conserves

variable {asked asked' dropped dropped' : List Nat} {r r' r'' : Registry}

/-- Changes that concern neither answers nor paths. -/
lemma of_same (hrefusals : r'.refusals = r.refusals) (hpaths : r'.paths = r.paths) :
    Conserves [] [] r r' := by
  refine ⟨fun n => ?_, fun n => ?_⟩
  · simp [accounts, refused, hrefusals, hpaths]
  · simp [traces, refused, hrefusals, hpaths]

lemma refl (r : Registry) : Conserves [] [] r r := .of_same rfl rfl

lemma trans (h : Conserves asked dropped r r') (h' : Conserves asked' dropped' r' r'') :
    Conserves (asked ++ asked') (dropped ++ dropped') r r'' := by
  refine ⟨fun n => ?_, fun n => ?_⟩
  · have := h.balance n
    have := h'.balance n
    simp only [List.count_append]
    omega
  · have := h.traced n
    have := h'.traced n
    simp only [List.count_append]
    omega

/-- **All paths conserve**, each on its own. -/
lemma of_paths (hrefusals : r'.refusals = r.refusals)
    (h : List.Forall₂ (Path.Conserves [] []) r.paths r'.paths) : Conserves [] [] r r' := by
  have hall {ps qs : List Path} (h : List.Forall₂ (Path.Conserves [] []) ps qs) (n : Nat) :
      (qs.flatMap Path.accounts).count n = (ps.flatMap Path.accounts).count n ∧
        (qs.flatMap Path.traces).count n ≤ (ps.flatMap Path.traces).count n := by
    induction h with
    | nil => exact ⟨rfl, Nat.le_refl _⟩
    | cons hpq _ ih =>
      have := hpq.balance n
      have := hpq.traced n
      simp only [List.flatMap_cons, List.count_append, List.count_nil] at *
      omega
  refine ⟨fun n => ?_, fun n => ?_⟩
  · simp only [accounts, refused, hrefusals, List.count_append, (hall h n).1, List.count_nil]
  · simp only [traces, refused, hrefusals, List.count_append, List.count_nil]
    have := (hall h n).2
    omega

end Conserves

/-! ## One path -/

/-- What a list of numbers that each path has makes of an entry and all the others. -/
lemma count_paths_of_get? (F : Path → List Nat) {r : Registry} {name : String} {e : RegistryEntry}
    (he : r.live.get? name = some e) (n : Nat) :
    (r.paths.flatMap F).count n =
      (r.past.flatMap F).count n + (F e.path).count n +
        ((r.live.erase name).values.flatMap (F ·.path)).count n := by
  have hperm := ((NameMap.values_perm_of_get? he).flatMap_right (F ·.path)).count_eq n
  simp only [paths, List.flatMap_append, List.flatMap_map, List.count_append, hperm,
    List.flatMap_cons]
  omega

lemma count_paths_insert (F : Path → List Nat) (r : Registry) (name : String) (e : RegistryEntry)
    (n : Nat) : ({ r with live := r.live.insert name e }.paths.flatMap F).count n =
      (r.past.flatMap F).count n + (F e.path).count n +
        ((r.live.erase name).values.flatMap (F ·.path)).count n := by
  have hperm := ((r.live.values_insert_perm name e).flatMap_right (F ·.path)).count_eq n
  simp only [paths, List.flatMap_append, List.flatMap_map, List.count_append, hperm,
    List.flatMap_cons]
  omega

section Path

variable {r : Registry} {name : String} {e : RegistryEntry} (he : r.live.get? name = some e)

include he

/-- **A live path becomes another one**, or a past one. -/
lemma conserves_of_path {asked dropped : List Nat} {q : Path}
    (hq : Path.Conserves asked dropped e.path q) {r' : Registry}
    (hrefusals : r'.refusals = r.refusals)
    (hr : (∃ e' : RegistryEntry, e'.path = q ∧ r'.live = r.live.insert name e' ∧ r'.past = r.past) ∨
      (r'.live = r.live.erase name ∧ r'.past = r.past ++ [q])) :
    Conserves asked dropped r r' := by
  have hcount (F : Path → List Nat) (n : Nat) : (r'.paths.flatMap F).count n =
      (r.past.flatMap F).count n + (F q).count n +
        ((r.live.erase name).values.flatMap (F ·.path)).count n := by
    rcases hr with ⟨e', rfl, hlive, hpast⟩ | ⟨hlive, hpast⟩
    · rw [← count_paths_insert F r name e' n]
      simp [paths, hlive, hpast]
    · simp [paths, hlive, hpast, List.flatMap_map]
      omega
  refine ⟨fun n => ?_, fun n => ?_⟩
  · have := hq.balance n
    simp only [accounts, refused, hrefusals, List.count_append, hcount,
      count_paths_of_get? _ he]
    omega
  · have := hq.traced n
    simp only [traces, refused, hrefusals, List.count_append, hcount, count_paths_of_get? _ he]
    omega

/-- **Something happens to a live path.** -/
lemma conserves_update {asked dropped : List Nat} {f : Path → Path}
    (hf : e.path.Continues (fun _ => True) (f e.path)) (halive : e.path.ended = false)
    (hq : Path.Conserves asked dropped e.path (f e.path)) :
    Conserves asked dropped r (r.update name f) := by
  rcases update_of_continues he hf halive with ⟨-, ready, news, heq⟩ | ⟨-, news, heq⟩
  · rw [heq]
    exact conserves_of_path he hq rfl (.inl ⟨_, rfl, rfl, rfl⟩)
  · rw [heq]
    exact conserves_of_path he hq rfl (.inr ⟨rfl, rfl⟩)

/-- A message to a live path. -/
lemma conserves_deliver (halive : e.path.ended = false) (m : PathMessage) :
    Conserves m.requests (e.path.dropped m) r (r.update name (deliver m)) := by
  refine conserves_update he (continues_deliver m e.path) halive ?_
  exact (e.path.conserves_receive halive m).silently (Path.conserves_advance _ _)

end Path

/-- One live path after another, which differ in their names. -/
lemma conserves_foldl_update {f : Path → Path} {D : Path → List Nat}
    (hf : ∀ p : Path, p.Continues (fun _ => True) (f p))
    (hD : ∀ p : Path, p.ended = false → Path.Conserves [] (D p) p (f p)) (r : Registry)
    (es : List (String × RegistryEntry)) (hn : (es.map (·.1)).Nodup)
    (h : ∀ x ∈ es, r.live.get? x.1 = some x.2 ∧ x.2.path.ended = false) :
    Conserves [] (es.flatMap fun x => D x.2.path) r
      ((es.map (·.1)).foldl (fun r name => r.update name f) r) := by
  induction es generalizing r with
  | nil => exact .refl r
  | cons x rest ih =>
    obtain ⟨he, halive⟩ := h x List.mem_cons_self
    obtain ⟨hnot, hrest⟩ := List.nodup_cons.1 hn
    have hfirst := conserves_update he (hf _) halive (hD _ halive)
    refine hfirst.trans (ih (r.update x.1 f) hrest fun y hy => ?_)
    have hy' := h y (List.mem_cons_of_mem _ hy)
    have hne : x.1 ≠ y.1 := fun hxy => hnot (List.mem_map.2 ⟨y, hy, hxy.symm⟩)
    refine ⟨?_, hy'.2⟩
    rw [get?_update_of_ne hf (fun e he' => ?_) hne, hy'.1]
    obtain rfl := Option.some.inj (he.symm.trans he')
    exact halive

/-- **All live paths.** -/
lemma Hosts.conserves_updateAll {r : Registry} {now time : Nat} (h : r.Hosts now time)
    {f : Path → Path} {D : Path → List Nat} (hf : ∀ p : Path, p.Continues (fun _ => True) (f p))
    (hD : ∀ p : Path, p.ended = false → Path.Conserves [] (D p) p (f p)) :
    Conserves [] (r.live.values.flatMap (D ·.path)) r (r.updateAll f) := by
  have hall := conserves_foldl_update hf hD r r.live.entries r.live.nodup_names fun x hx =>
    have hget := (r.live.mem_entries_iff x.1 x.2).1 hx
    ⟨hget, h.alive hget⟩
  rwa [NameMap.values, List.flatMap_map]

/-! ## New paths -/

/-- **A new path** has no accounts yet. -/
lemma conserves_createPath {r : Registry} {name : String} (hnone : r.live.get? name = none)
    (found : ConfSet.Found) : Conserves [] [] r (r.createPath name found) := by
  obtain ⟨haccounts, htraces⟩ :=
    Path.traces_create r.settings r.now (r.created + 1) name found
  have hcount (F : Path → List Nat)
      (hF : F (Path.create r.settings r.now (r.created + 1) name found) = []) (n : Nat) :
      ((r.createPath name found).paths.flatMap F).count n = (r.paths.flatMap F).count n := by
    have hinsert := count_paths_insert F r name
      { path := Path.create r.settings r.now (r.created + 1) name found, conf := found.conf } n
    rw [NameMap.erase_of_get? hnone, hF] at hinsert
    simpa [paths, createPath, List.flatMap_map] using hinsert
  refine ⟨fun n => ?_, fun n => ?_⟩
  · simp only [accounts, List.count_append, hcount _ haccounts, List.count_nil]
    rfl
  · simp only [traces, List.count_append, hcount _ htraces, List.count_nil]
    exact Nat.le_refl _

/-- Several new paths, which differ in their names. -/
lemma conserves_foldl_createPath (r : Registry) (cs : List Conf) (hn : (cs.map Conf.name).Nodup)
    (hnone : ∀ c ∈ cs, r.live.get? c.name = none) :
    Conserves [] [] r (cs.foldl (fun r c => r.createPath c.name ⟨c, []⟩) r) := by
  induction cs generalizing r with
  | nil => exact .refl r
  | cons c rest ih =>
    obtain ⟨hnot, hrest⟩ := List.nodup_cons.1 hn
    refine (conserves_createPath (hnone c List.mem_cons_self) ⟨c, []⟩).trans
      (ih (r.createPath c.name ⟨c, []⟩) hrest fun d hd => ?_)
    have hne : c.name ≠ d.name := fun hcd => hnot (List.mem_map.2 ⟨d, hd, hcd.symm⟩)
    rw [createPath, NameMap.get?_insert, if_neg hne]
    exact hnone d (List.mem_cons_of_mem _ hd)

/-- **The missing paths.** -/
lemma conserves_createMissing (r : Registry) : Conserves [] [] r r.createMissing := by
  refine conserves_foldl_createPath r r.missing ?_ fun c hc => ?_
  · exact (r.confs.nodup_names.sublist
      ((List.filter_sublist.trans List.filter_sublist).map Conf.name))
  · simpa [NameMap.contains] using (List.mem_filter.1 hc).2

/-! ## Operations -/

/-- A refusal is an answer. -/
lemma conserves_refuse (r : Registry) (n : Nat) (e : PathError) :
    Conserves [n] [] r (r.refuse n e) := by
  have hrefused : (r.refuse n e).refused = r.refused ++ [n] := by simp [refused, refuse]
  have hpaths : (r.refuse n e).paths = r.paths := rfl
  refine ⟨fun m => ?_, fun m => ?_⟩
  · simp only [accounts, hrefused, hpaths, List.count_append, List.count_nil]
    omega
  · simp only [traces, hrefused, hpaths, List.count_append]
    omega

/-- One live path under a new set of configurations. -/
lemma conserves_reloadStep (old new : ConfSet) (r : Registry) (name : String) :
    Conserves [] [] r (reloadStep old new r name) := by
  unfold reloadStep reloadPath
  split
  · exact .refl r
  · next e he =>
    split
    · exact .refl r
    · rw [handOver_eq he]
      exact conserves_of_path he (e.path.conserves_reload _) rfl (.inl ⟨_, rfl, rfl, rfl⟩)
    · rw [removePath_eq he]
      exact conserves_of_path he e.path.conserves_destroy rfl (.inr ⟨rfl, rfl⟩)

/-- **A new set of configurations.** -/
lemma conserves_reload {r r' : Registry} {new : ConfSet} (hr : r.reload new = .ok r') :
    Conserves [] [] r r' := by
  have hopen := open_of_reload hr
  obtain rfl := Except.ok.inj ((reload_of_open hopen).symm.trans hr)
  have hmoved : Conserves [] [] r (r.live.names.foldl (reloadStep r.confs new) r) :=
    List.foldlRecOn (motive := Conserves [] [] r) _ _ (.refl r) fun b hb name _ =>
      hb.trans (conserves_reloadStep r.confs new b name)
  have hnew (moved : Registry) : Conserves [] [] moved { moved with confs := new } :=
    .of_same rfl rfl
  exact (hmoved.trans (hnew _)).trans (conserves_createMissing _)

/-- **The end**: those who wait are answered by their paths. -/
lemma conserves_close (r : Registry) : Conserves [] [] r r.close := by
  unfold close
  split
  · exact .refl r
  · refine .of_paths rfl ?_
    have hpaths : { r with
        live := .empty
        past := r.past ++ r.live.values.map fun e : RegistryEntry => e.path.destroy
        closed := true }.paths = r.past ++ (r.live.values.map (·.path)).map Path.destroy := by
      simp [paths, NameMap.values, NameMap.empty]
    rw [hpaths]
    exact List.rel_append (List.forall₂_same.2 fun p _ => .refl p)
      (List.forall₂_map_right_iff.2 (List.forall₂_same.2 fun p _ => p.conserves_destroy))

/-- What clients ask comes with its number, and gives nothing up. -/
lemma requests_message (c : ClientRequest) (n : Nat) (query : String) :
    (c.message n query).requests = [n] ∧ ∀ p : Path, p.dropped (c.message n query) = [] := by
  cases c <;> exact ⟨rfl, fun _ => rfl⟩

/-- What clients give up in an operation. -/
def droppedBy (r : Registry) : RegistryOp → List Nat
  | .abandon n => r.waiting.filter (· = n)
  | _ => []

section Rest

variable {r : Registry} {now time : Nat} (h : r.Hosts now time)

include h

/-- **A message** to the live path of a name. -/
lemma Hosts.conserves_deliver {name : String} {e : RegistryEntry}
    (he : r.live.get? name = some e) {n : Nat} {m : PathMessage}
    (hm : m.requests = [n] ∧ ∀ p : Path, p.dropped m = []) :
    Conserves [n] [] r (r.update name (Registry.deliver m)) := by
  have hall := Registry.conserves_deliver he (h.alive he) m
  rwa [hm.1, hm.2] at hall

/-- **A request to a path** is refused if the path is not live any more; else the path takes it. -/
lemma Hosts.conserves_requestOf (handle : PathHandle) {n : Nat} {m : PathMessage}
    (hm : m.requests = [n] ∧ ∀ p : Path, p.dropped m = []) :
    Conserves [n] [] r (r.requestOf n handle m) := by
  rcases r.requestOf_cases n handle m with heq | ⟨e, he, -, heq⟩
  · exact heq ▸ r.conserves_refuse n _
  · exact heq ▸ h.conserves_deliver he hm

/-- A message to a path that expects no answer. -/
lemma Hosts.conserves_tell (handle : PathHandle) {m : PathMessage}
    (hm : m.requests = [] ∧ ∀ p : Path, p.dropped m = []) :
    Conserves [] [] r (r.tell handle m) := by
  rcases r.tell_cases handle m with heq | ⟨e, he, -, heq⟩
  · rw [heq]
    exact .refl r
  · have hall := Registry.conserves_deliver he (h.alive he) m
    rwa [hm.1, hm.2, ← heq] at hall

/-- **A client that gives up** takes its request out of the accounts. -/
lemma Hosts.conserves_abandon (n : Nat) :
    Conserves [] (r.droppedBy (.abandon n)) r (r.abandon n) := by
  have hall := h.conserves_updateAll (f := Registry.deliver (.abandon n))
    (D := fun p => p.waiting.filter (· = n)) (continues_deliver _) fun p hp =>
      (p.conserves_receive hp (.abandon n)).silently (Path.conserves_advance _ _)
  rwa [droppedBy, waiting, List.filter_flatMap]

end Rest

section Rest

variable {r : Registry} (h : r.Hosts r.now r.now)

include h

/-- **A request** through the registry is refused there, or its path takes it. -/
lemma Hosts.conserves_request (a : AccessRequest) (expected : Option Conf) {n : Nat}
    {m : PathMessage} (hm : m.requests = [n] ∧ ∀ p : Path, p.dropped m = []) :
    Conserves [n] [] r (r.request n a expected m) := by
  have hosts := h.acquire a expected
  have hcases := acquire_cases h.allAlive a expected
  have hasked (questions : List AuthRequest) : Conserves [] [] r { r with questions } :=
    .of_same rfl rfl
  unfold Registry.request
  generalize r.acquire a expected = acquired at *
  obtain ⟨questions, ⟨e, rfl⟩ | ⟨hlive, rfl⟩ | ⟨found, -, -, hnone, rfl⟩⟩ := hcases
  · exact (hasked questions).trans (conserves_refuse _ n e)
  · obtain ⟨e, he⟩ := Option.isSome_iff_exists.1 hlive
    exact (hasked questions).trans (hosts.conserves_deliver he hm)
  · have hnone : { r with questions }.live.get? a.name = none := by
      simpa [NameMap.contains] using hnone
    obtain ⟨e, he⟩ : ∃ e, ({ r with questions }.createPath a.name found).live.get? a.name =
        some e := by
      rw [Registry.createPath, NameMap.get?_insert, if_pos rfl]
      exact ⟨_, rfl⟩
    exact ((hasked questions).trans (conserves_createPath hnone found)).trans
      (hosts.conserves_deliver he hm)

/-- **Passing of time**, for the live paths and those of the past. -/
lemma Hosts.conserves_advance (time : Nat) : Conserves [] [] r (r.advance time) := by
  have hall := h.conserves_updateAll (D := fun _ => []) (continues_advance time)
    fun p _ => p.conserves_advance time
  rw [List.flatMap_eq_nil_iff.2 fun _ _ => rfl] at hall
  refine hall.trans (.of_paths rfl ?_)
  refine List.rel_append (List.forall₂_map_right_iff.2 (List.forall₂_same.2 fun p _ => ?_))
    (List.forall₂_same.2 fun p _ => .refl p)
  exact p.conserves_advance time

/-- **One operation** conserves.

**Proof sketch.** Each operation reaches its live paths one at a time and once; a path that comes
or goes takes its ledger along, and a request that does not reach a path is refused. -/
theorem Hosts.conserves_apply (op : RegistryOp) :
    Conserves op.number?.toList (r.droppedBy op) r (r.apply op) := by
  by_cases hmedia : op.isMedia = true
  · have hnone : op.number? = none ∧ r.droppedBy op = [] := by
      cases op <;> first | exact ⟨rfl, rfl⟩ | cases hmedia
    rw [hnone.1, hnone.2]
    rcases h.numbered.changesMedia_apply hmedia with heq | ⟨id, act, heq⟩
    · rw [heq]
      exact .refl r
    · rw [heq]
      refine .of_paths rfl ?_
      rw [paths_modifyPath]
      refine List.forall₂_map_right_iff.2 (List.forall₂_same.2 fun p hp => ?_)
      split
      · exact (p.goesOn_media act).conserves
      · exact .refl p
  cases op with
  | request n access c => exact h.conserves_request access _ (requests_message c n access.query)
  | requestOf n handle query c => exact h.conserves_requestOf handle (requests_message c n query)
  | unpublish handle client => exact h.conserves_tell handle ⟨rfl, fun _ => rfl⟩
  | unread handle client => exact h.conserves_tell handle ⟨rfl, fun _ => rfl⟩
  | sourceReady n handle d rtp => exact h.conserves_requestOf handle ⟨rfl, fun _ => rfl⟩
  | sourceNotReady handle => exact h.conserves_tell handle ⟨rfl, fun _ => rfl⟩
  | abandon n => exact h.conserves_abandon n
  | find access =>
    change Conserves [] [] r (r.find access).1
    obtain ⟨questions, heq⟩ := r.find_eq access
    exact heq ▸ .of_same rfl rfl
  | reload confs =>
    change Conserves [] [] r ((r.reload confs).toOption.getD r)
    cases heq : r.reload confs with
    | error e => exact .refl r
    | ok r' => exact conserves_reload heq
  | setHls server =>
    change Conserves [] [] r ((r.setHls server).toOption.getD r)
    cases heq : r.setHls server with
    | error e => exact .refl r
    | ok r' =>
      obtain ⟨news, rfl⟩ := setHls_eq heq
      exact .of_same rfl rfl
  | sleep ms => exact h.conserves_advance _
  | close => exact r.conserves_close
  | write _ _ | subscribe _ | unsubscribe _ | segmentCreate _ _ | segmentComplete _ _ _ =>
    exact absurd rfl hmedia

end Rest

/-! ## Runs -/

/-- What clients give up in a run. -/
def dropped : Registry → List RegistryOp → List Nat
  | _, [] => []
  | r, op :: rest => r.droppedBy op ++ (r.apply op).dropped rest

/-- **Runs** conserve. -/
theorem Hosts.conserves_run {Admits : ConfSet → Prop} {r : Registry} (h : r.Hosts r.now r.now)
    {ops : List RegistryOp} (hops : r.PermitsAll Admits ops) :
    Conserves (ops.filterMap RegistryOp.number?) (r.dropped ops) r (r.run ops) := by
  induction ops generalizing r with
  | nil => exact .refl r
  | cons op rest ih =>
    have hall := (h.conserves_apply op).trans (ih (h.apply hops.1) hops.2)
    have hasked : (op :: rest).filterMap RegistryOp.number? =
        op.number?.toList ++ rest.filterMap RegistryOp.number? := by
      cases hn : op.number? <;> simp [hn]
    rwa [hasked]

/-- What is dropped waits when its client gives up. -/
lemma mem_dropped {r : Registry} {ops : List RegistryOp} {n : Nat} :
    n ∈ r.dropped ops ↔
      ∃ before after, ops = before ++ .abandon n :: after ∧ n ∈ (r.run before).waiting := by
  induction ops generalizing r with
  | nil => simp [dropped]
  | cons op rest ih =>
    simp only [dropped, List.mem_append, ih]
    constructor
    · rintro (hnow | ⟨before, after, rfl, hwaiting⟩)
      · cases op with
        | abandon m =>
          obtain ⟨hwaiting, hm⟩ := List.mem_filter.1 hnow
          obtain rfl : n = m := by simpa using hm
          exact ⟨[], rest, rfl, hwaiting⟩
        | _ => cases hnow
      · exact ⟨op :: before, after, rfl, hwaiting⟩
    · rintro ⟨before, after, heq, hwaiting⟩
      cases before with
      | nil =>
        obtain ⟨rfl, rfl⟩ := List.cons.inj heq
        exact .inl (List.mem_filter.2 ⟨hwaiting, by simp⟩)
      | cons op' before =>
        obtain ⟨rfl, rfl⟩ := List.cons.inj heq
        exact .inr ⟨before, after, rfl, hwaiting⟩

/-! ## Every request -/

/-- **Giving up**: a client gives up a request that it has made and that was not answered. -/
def GivesUp (r : Registry) (ops : List RegistryOp) (n : Nat) : Prop :=
  ∃ before after, ops = before ++ .abandon n :: after ∧
    n ∈ before.filterMap RegistryOp.number? ∧ n ∉ (r.run before).answered

/-- What a registry has at rest that hosts its paths. -/
lemma Hosts.count_eq {r : Registry} {now time : Nat} (h : r.Hosts now time) (n : Nat) :
    r.accounts.count n = r.answered.count n + r.waiting.count n ∧
      r.traces.count n = r.answered.count n + r.held.count n := by
  have hsplit (F : Path → List Nat) (hF : ∀ p : Path, p.IsOver → F p = []) :
      (r.paths.flatMap fun p => p.answered ++ F p).count n =
        (r.paths.flatMap Path.answered).count n + (r.live.values.flatMap (F ·.path)).count n := by
    have hpast : r.past.flatMap F = [] :=
      List.flatMap_eq_nil_iff.2 fun p hp => hF p (h.gone p hp).1
    have hlive : r.paths.flatMap F = r.live.values.flatMap (F ·.path) := by
      simp [paths, hpast, List.flatMap_map]
    rw [← (List.flatMap_append_perm r.paths Path.answered F).count_eq n, List.count_append, hlive]
  have hwaiting := hsplit Path.waiting fun p hp => Path.waiting_eq_nil hp.held
  have hheld := hsplit Path.held fun p hp => by
    have := hp.held
    simp_all [Path.holdsRequests, Path.held]
  refine ⟨?_, ?_⟩
  · simp only [accounts, answered, List.count_append, waiting, Nat.add_assoc]
    exact congrArg _ hwaiting
  · simp only [traces, answered, List.count_append, held, Nat.add_assoc]
    exact congrArg _ hheld

/-- **Accounted requests**: what becomes of the requests that were made of a registry. -/
structure Accounted (r : Registry) (asked : List Nat) (GivenUp : Nat → Prop) : Prop where
  /-- Nothing is answered that was not asked. -/
  sound : ∀ n ∈ r.answered, n ∈ asked
  /-- No request is answered twice. -/
  once : ∀ n, r.answered.count n ≤ 1
  /-- A request that was given up is not answered. -/
  silent : ∀ n, GivenUp n → n ∉ r.answered
  /-- All others are answered, or waiting in exactly one entry of exactly one live path. -/
  waits : ∀ n ∈ asked, ¬ GivenUp n → n ∉ r.answered →
    ∃ name e, r.live.get? name = some e ∧ n ∈ e.path.waiting ∧ e.path.held.count n = 1 ∧
      ∀ other e', r.live.get? other = some e' → other ≠ name → n ∉ e'.path.held
  /-- After the end all others are answered. -/
  closed : r.closed = true → ∀ n ∈ asked, ¬ GivenUp n → n ∈ r.answered
  /-- A live path that becomes ready, comes to its deadline or ends answers all who wait. -/
  cleared : ∀ name e, r.live.get? name = some e → ∀ s, e.path.Permits s → e.path.Clears s →
    (e.path.step s).holdsRequests = false ∧ ∀ n, (e.path.step s).answered.count n =
      e.path.answered.count n + e.path.waiting.count n + s.requests.count n

/-- **One entry**: a request that waits and has left one trace has one entry, in one live path. -/
lemma exists_entry {r : Registry} {n : Nat} (hn : n ∈ r.waiting) (hle : r.held.count n ≤ 1) :
    ∃ name e, r.live.get? name = some e ∧ n ∈ e.path.waiting ∧ e.path.held.count n = 1 ∧
      ∀ other e', r.live.get? other = some e' → other ≠ name → n ∉ e'.path.held := by
  obtain ⟨e, hmem, hwaiting⟩ := List.mem_flatMap.1 hn
  obtain ⟨name, he⟩ := (r.live.mem_values_iff e).1 hmem
  have hperm := ((NameMap.values_perm_of_get? he).flatMap_right (·.path.held)).count_eq n
  have hpos := List.count_pos_iff.2 (e.path.waiting_sublist_held.subset hwaiting)
  rw [List.flatMap_cons, List.count_append] at hperm
  unfold held at hle
  refine ⟨name, e, he, hwaiting, by omega, fun other e' he' hne hheld => ?_⟩
  have hother : e' ∈ (r.live.erase name).values := by
    refine (NameMap.mem_values_iff _ e').2 ⟨other, ?_⟩
    rw [NameMap.get?_erase, if_neg hne.symm, he']
  have hpos' := List.count_pos_iff.2 (List.mem_flatMap (f := (·.path.held)).2 ⟨e', hother, hheld⟩)
  omega

section Accounts

variable {Admits : ConfSet → Prop} (settings : PathSettings) (confs : ConfSet)
  (authenticator : Authenticator) (hls : Option String) {ops : List RegistryOp}
  (hops : (start settings confs authenticator hls).PermitsAll Admits ops)

include hops

/-- **The balance of a run**: what was asked is answered, waits or was dropped, and has left no
other trace. -/
lemma balance_run (n : Nat) :
    ((start settings confs authenticator hls).run ops).answered.count n +
        ((start settings confs authenticator hls).run ops).waiting.count n +
        ((start settings confs authenticator hls).dropped ops).count n =
      (ops.filterMap RegistryOp.number?).count n ∧
    ((start settings confs authenticator hls).run ops).answered.count n +
        ((start settings confs authenticator hls).run ops).held.count n ≤
      (ops.filterMap RegistryOp.number?).count n := by
  have hosts := hosts_start settings confs authenticator hls
  have hcreated := conserves_createMissing { settings, confs, authenticator, hls }
  have haccounts : (start settings confs authenticator hls).accounts.count n = 0 :=
    hcreated.balance n
  have htraces : (start settings confs authenticator hls).traces.count n = 0 :=
    Nat.le_zero.1 (hcreated.traced n)
  have hlast := (hosts.run hops).count_eq n
  have hbalance := (hosts.conserves_run hops).balance n
  have htraced := (hosts.conserves_run hops).traced n
  omega

variable (hn : (ops.filterMap RegistryOp.number?).Nodup)

include hn

/-- **What is dropped is what clients give up**: a request that was made and not answered waits, or
was dropped before. -/
theorem mem_dropped_iff_givesUp (n : Nat) :
    n ∈ (start settings confs authenticator hls).dropped ops ↔
      (start settings confs authenticator hls).GivesUp ops n := by
  rw [mem_dropped]
  constructor
  · rintro ⟨before, after, rfl, hwaiting⟩
    have hasked : ((before ++ .abandon n :: after).filterMap RegistryOp.number?).count n ≤ 1 :=
      List.nodup_iff_count_le_one.1 hn n
    rw [List.filterMap_append, List.count_append] at hasked
    obtain ⟨hbalance, -⟩ := balance_run settings confs authenticator hls
      (permitsAll_append.1 hops).1 n
    have hpos := List.count_pos_iff.2 hwaiting
    refine ⟨before, after, rfl, List.count_pos_iff.1 (by omega), List.count_eq_zero.1 (by omega)⟩
  · rintro ⟨before, after, rfl, hasked, hanswered⟩
    obtain ⟨hbalance, -⟩ := balance_run settings confs authenticator hls
      (permitsAll_append.1 hops).1 n
    have hpos := List.count_pos_iff.2 hasked
    rw [List.count_eq_zero.2 hanswered] at hbalance
    by_cases hdropped : n ∈ (start settings confs authenticator hls).dropped before
    · obtain ⟨first, rest, rfl, hwaiting⟩ := mem_dropped.1 hdropped
      exact ⟨first, rest ++ .abandon n :: after, by simp, hwaiting⟩
    · rw [List.count_eq_zero.2 hdropped] at hbalance
      exact ⟨before, after, rfl, List.count_pos_iff.1 (by omega)⟩

/-- **Every request is accounted for**, whatever is done to a registry in which order: it is
answered at most once, and not at all if its client gives up before; as long as it is not answered,
it waits in exactly one entry of one live path; and what makes a path ready, lets it come to a
deadline or ends it, as the end of the registry does, answers all who wait there.

**Proof sketch.** Each operation conserves the accounts, so that a request that was made once is
answered once, waits once or was dropped once; it is dropped exactly if its client gives up. A
closed registry has no live path, hence nobody waits. -/
theorem accounted_run :
    ((start settings confs authenticator hls).run ops).Accounted (ops.filterMap RegistryOp.number?)
      ((start settings confs authenticator hls).GivesUp ops) := by
  have hosts := (hosts_start settings confs authenticator hls).run hops
  have hbalance := balance_run settings confs authenticator hls hops
  have hdropped := mem_dropped_iff_givesUp settings confs authenticator hls hops hn
  have hle := List.nodup_iff_count_le_one.1 hn
  -- what was asked, was not given up and is not answered waits
  have hwaits (n : Nat) (hasked : n ∈ ops.filterMap RegistryOp.number?)
      (hkept : ¬ (start settings confs authenticator hls).GivesUp ops n)
      (hanswered : n ∉ ((start settings confs authenticator hls).run ops).answered) :
      n ∈ ((start settings confs authenticator hls).run ops).waiting := by
    have := (hbalance n).1
    have hpos := List.count_pos_iff.2 hasked
    rw [List.count_eq_zero.2 hanswered, List.count_eq_zero.2 (mt (hdropped n).1 hkept)] at this
    exact List.count_pos_iff.1 (by omega)
  refine ⟨fun n hn => ?_, fun n => ?_, fun n hgiven hanswered => ?_,
    fun n hasked hkept hanswered => ?_, fun hclosed n hasked hkept => ?_,
    fun name e he s hs hc => ?_⟩
  · have := (hbalance n).1
    have hpos := List.count_pos_iff.2 hn
    exact List.count_pos_iff.1 (by omega)
  · have := (hbalance n).1
    have := hle n
    omega
  · have := (hbalance n).1
    have := hle n
    have hpos := List.count_pos_iff.2 hanswered
    have hpos' := List.count_pos_iff.2 ((hdropped n).2 hgiven)
    omega
  · have := (hbalance n).2
    have := hle n
    exact exists_entry (hwaits n hasked hkept hanswered) (by omega)
  · by_contra hanswered
    have hwaiting := hwaits n hasked hkept hanswered
    simp [waiting, hosts.empty hclosed, NameMap.values, NameMap.empty] at hwaiting
  · exact (hosts.reached name e he).1.cleared (hosts.alive he) hs hc

end Accounts

/-- A set with a camera whose source is started on demand. -/
def pulledCamera : ConfSet := .ofList [Path.pulledOnDemand.conf]

/-- Two clients ask for this camera, one of them gives up, and the registry ends. -/
def askedTwice : List RegistryOp :=
  [.request 0 { name := "cam" } .describe, .request 1 { name := "cam" } .describe, .abandon 1,
    .close]

/-- Only the client that has waited until the end is answered. -/
theorem accounted_askedTwice :
    let r := start {} pulledCamera .allowAll none
    r.PermitsAll (fun _ => True) askedTwice ∧ (askedTwice.filterMap RegistryOp.number?).Nodup ∧
      (r.run askedTwice).Accounted [0, 1] (r.GivesUp askedTwice) ∧ r.GivesUp askedTwice 1 ∧
      (r.run (askedTwice.take 3)).waiting = [0] ∧ (r.run askedTwice).answered = [0] := by
  intro r
  have hops : r.PermitsAll (fun _ => True) askedTwice :=
    ⟨trivial, trivial, trivial, trivial, trivial⟩
  have hn : (askedTwice.filterMap RegistryOp.number?).Nodup := by decide
  have hgiven : r.GivesUp askedTwice 1 :=
    ⟨askedTwice.take 2, [.close], rfl, by decide, by decide +kernel⟩
  exact ⟨hops, hn, accounted_run {} pulledCamera .allowAll none hops hn, hgiven, by decide +kernel,
    by decide +kernel⟩

end Registry

end LivePaths
