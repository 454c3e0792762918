import LivePaths.Proofs.Path.Passing
import LivePaths.Proofs.Registry.Clock
import LivePaths.Proofs.Registry.Notices

set_option relaxedAutoImplicit false
set_option autoImplicit false

/-!
# Sleeping in parts

For a registry it does not matter whether some time passes at once or in parts, wherever it is cut,
and whatever happens on which path meanwhile. What cannot be told is only the order in which paths
with different names have ended and were told of: while time passes at once the paths are gone
through one after another.

## Main definitions

* `Registry.forwarded` — what is passed on of the notices of a path.
* `Registry.Matches` — registries that differ at most in the order among different names.
* `Registry.since` — what has been recorded of a path since an earlier state.

## Main results

* `Registry.update_eq` — everything that happens when something happens to a live path.
* `Registry.Reachable.focus_advance_advance` — time passes for each name in parts as at once.
* `Registry.Reachable.sleep_sleep` — sleeping in parts is the same as sleeping at once, and not
  sleeping at all changes nothing.
-/

namespace LivePaths

namespace Registry

/-! ## Notices in parts -/

/-- **What is passed on** of the notices of a path of which it was known whether it is ready: the
signals before its end, and at its end that it is not ready any more. -/
def forwarded : Bool → List Notice → List Bool
  | _, [] => []
  | _, .ready :: rest => true :: forwarded true rest
  | _, .notReady :: rest => false :: forwarded false rest
  | ready, .closed :: _ => farewell ready

/-- As long as a path has not ended, more notices go on from what is known then. -/
lemma forwarded_append (ready : Bool) {ns : List Notice} (h : .closed ∉ ns) (ms : List Notice) :
    forwarded ready (ns ++ ms) =
      forwarded ready ns ++ forwarded (levelAfter ready (forwarded ready ns)) ms := by
  induction ns generalizing ready with
  | nil => rfl
  | cons n rest ih =>
    have hrest : Notice.closed ∉ rest := fun hmem => h (List.mem_cons_of_mem n hmem)
    cases n with
    | ready => simp [forwarded, ih true hrest]
    | notReady => simp [forwarded, ih false hrest]
    | closed => exact absurd List.mem_cons_self h

variable {r : Registry} {name : String} {e : RegistryEntry}

/-- **Taking up notices**: the signals before the end are remembered and passed on, and the end
removes the path. -/
lemma foldl_takeNotice_eq (ns : List Notice) {r : Registry} {e : RegistryEntry}
    (h : r.live.get? name = some e) : ns.foldl (takeNotice name) r =
      { r with
        live :=
          if .closed ∈ ns then r.live.erase name
          else r.live.insert name { e with ready := levelAfter e.ready (forwarded e.ready ns) }
        past := if .closed ∈ ns then r.past ++ [e.path] else r.past
        news := r.news ++ bulletins r.hls e.path.handle (forwarded e.ready ns) } := by
  induction ns generalizing r e with
  | nil => simp [forwarded, NameMap.insert_of_get? h]
  | cons n rest ih =>
    have hsignal (ready : Bool) (hn : n = .ofSignal ready)
        (hforwarded : forwarded e.ready (n :: rest) = ready :: forwarded ready rest) :
        (n :: rest).foldl (takeNotice name) r =
          { r with
            live :=
              if .closed ∈ n :: rest then r.live.erase name
              else r.live.insert name
                { e with ready := levelAfter e.ready (forwarded e.ready (n :: rest)) }
            past := if .closed ∈ n :: rest then r.past ++ [e.path] else r.past
            news := r.news ++ bulletins r.hls e.path.handle (forwarded e.ready (n :: rest)) } := by
      have hclosed : Notice.closed ∈ n :: rest ↔ .closed ∈ rest := by
        rw [List.mem_cons, hn]
        exact or_iff_right (Notice.ofSignal_ne_closed ready).symm
      have hnews := bulletins_append r.hls e.path.handle [ready] (forwarded ready rest)
      rw [List.foldl_cons, hn, takeNotice_ofSignal h,
        ih (e := { e with ready }) (by simp [NameMap.get?_insert]), ← hn]
      simp only [hclosed, hforwarded, levelAfter_cons, NameMap.insert_insert,
        NameMap.erase_insert, List.append_assoc]
      rw [← hnews]
      rfl
    cases n with
    | ready => exact hsignal true rfl rfl
    | notReady => exact hsignal false rfl rfl
    | closed =>
      rw [List.foldl_cons, takeNotice_closed h,
        foldl_takeNotice_of_none (by simp [NameMap.get?_erase]) rest]
      simp [forwarded]

/-- **Something happens to a live path**: it goes on or ends, and what it has notified is passed
on. -/
theorem update_eq (h : r.live.get? name = some e) {f : Path → Path}
    (hhandle : (f e.path).handle = e.path.handle) : r.update name f =
      { r with
        live :=
          if .closed ∈ noticesSince e.path (f e.path) then r.live.erase name
          else r.live.insert name { e with
            path := f e.path
            ready := levelAfter e.ready (forwarded e.ready (noticesSince e.path (f e.path))) }
        past :=
          if .closed ∈ noticesSince e.path (f e.path) then r.past ++ [f e.path] else r.past
        news := r.news ++ bulletins r.hls e.path.handle
          (forwarded e.ready (noticesSince e.path (f e.path))) } := by
  have hget : { r with live := r.live.insert name { e with path := f e.path } }.live.get? name =
      some { e with path := f e.path } := by
    simp [NameMap.get?_insert]
  unfold update
  rw [h]
  dsimp only
  rw [foldl_takeNotice_eq _ hget]
  simp only [NameMap.insert_insert, NameMap.erase_insert, hhandle]

/-- **Two things happen** to a live path one after the other: if it has not ended after the first
one, both happen at once. -/
lemma update_update (h : r.live.get? name = some e) {f g : Path → Path}
    (hf : (f e.path).handle = e.path.handle) (hg : (g (f e.path)).handle = e.path.handle)
    (hopen : .closed ∉ noticesSince e.path (f e.path))
    (hnotices : noticesSince e.path (g (f e.path)) =
      noticesSince e.path (f e.path) ++ noticesSince (f e.path) (g (f e.path))) :
    (r.update name f).update name g = r.update name fun p => g (f p) := by
  have hfirst := update_eq h hf
  simp only [if_neg hopen] at hfirst
  have hnext : (r.update name f).live.get? name = some { e with
      path := f e.path
      ready := levelAfter e.ready (forwarded e.ready (noticesSince e.path (f e.path))) } := by
    simp [hfirst, NameMap.get?_insert]
  have hnews := bulletins_append r.hls e.path.handle
    (forwarded e.ready (noticesSince e.path (f e.path)))
  rw [update_eq hnext (hg.trans hf.symm), update_eq h (f := fun p => g (f p)) hg]
  simp only [hnotices, List.mem_append, hopen, false_or, forwarded_append e.ready hopen, hnews, hf,
    hfirst, levelAfter_append, NameMap.insert_insert, NameMap.erase_insert, List.append_assoc]

/-! ## Time in parts -/

/-- Time passes for a path without any notice after its end. -/
lemma noticesSince_advance_of_over {p : Path} (h : p.IsOver) (time : Nat) :
    noticesSince p (p.advance time) = [] := by
  rw [h.advance_eq]
  simp [noticesSince, Path.step, Path.runTo]

/-- What a path notifies as time passes, it notifies in the first part or in the second one. -/
lemma noticesSince_advance {p : Path} (h : p.Orderly) {time later : Nat} (hle : time ≤ later) :
    noticesSince p (p.advance later) =
      noticesSince p (p.advance time) ++
        noticesSince (p.advance time) (p.advance later) := by
  obtain ⟨es, hes, -⟩ := (continues_advance time p).log
  obtain ⟨fs, hfs, -⟩ := (continues_advance later (p.advance time)).log
  rw [h.advance_advance hle] at hfs
  rw [noticesSince_of_log hes, noticesSince_of_log hfs,
    noticesSince_of_log (hfs.trans (by rw [hes, List.append_assoc])), List.filterMap_append]

/-- What happens to a path as time passes keeps its handle. -/
lemma handle_advance (time : Nat) (p : Path) : (p.advance time).handle = p.handle :=
  congrArg₂ PathHandle.mk (continues_advance time p).name_eq (continues_advance time p).id_eq

/-- The end is among the notices of a live path exactly if it has ended as time has passed. -/
lemma closed_mem_noticesSince_advance {p : Path} (halive : p.ended = false) (time : Nat) :
    .closed ∈ noticesSince p (p.advance time) ↔ (p.advance time).ended = true := by
  obtain ⟨es, hes, -, hend⟩ := (continues_advance time p).log
  rw [noticesSince_of_log hes, closed_mem_notices, hend halive]

/-- **Growing older**: time passes for the paths of the past. -/
def age (r : Registry) (time : Nat) : Registry :=
  { r with past := r.past.map (·.advance time), now := time }

/-- What has grown older meanwhile does not matter for a live path. -/
lemma update_age (h : r.live.get? name = some e) {f : Path → Path}
    (hhandle : (f e.path).handle = e.path.handle) (time : Nat) :
    (r.age time).update name f =
      { r.update name f with
        past := (r.age time).past ++
          if .closed ∈ noticesSince e.path (f e.path) then [f e.path] else []
        now := time } := by
  have hget : (r.age time).live.get? name = some e := h
  rw [update_eq hget hhandle, update_eq h hhandle]
  split <;> simp [age]

section Parts

variable {a : String} {time later : Nat} (hle : time ≤ later) (hpast : ∀ p ∈ r.past, p.IsOver)

include hle hpast

/-- The paths of the past grow older in parts as at once. -/
lemma past_advance_advance :
    (r.past.map (·.advance time)).map (·.advance later) = r.past.map (·.advance later) := by
  rw [List.map_map]
  exact List.map_congr_left fun p hp => (hpast p hp).orderly.advance_advance hle

section Live

variable (he : r.live.get? a = some e) (hreached : e.path.Reached) (hnow : e.path.now ≤ time)
  (halive : e.path.ended = false)

include he hreached hnow halive

/-- A live path that ends in the first part gives no notice in the second one, and grows older among
the paths of the past. -/
lemma update_update_of_ends (hended : (e.path.advance time).ended = true) :
    (((r.update a (·.advance time)).age time).update a (·.advance later)).age later =
      (r.update a (·.advance later)).age later := by
  have hparts := hreached.orderly.advance_advance hle
  have hnotices := noticesSince_advance hreached.orderly hle
  have hupdate := update_eq he (f := (·.advance time)) (handle_advance time e.path)
  have hupdate' := update_eq he (f := (·.advance later)) (handle_advance later e.path)
  have hover : (e.path.advance time).IsOver := (hreached.advance hnow).orderly.gone hended
  have hclosed := (closed_mem_noticesSince_advance halive time).2 hended
  have hsilent : noticesSince (e.path.advance time) (e.path.advance later) = [] :=
    hparts ▸ noticesSince_advance_of_over hover later
  rw [hsilent, List.append_nil] at hnotices
  simp only [hnotices, if_pos hclosed] at hupdate hupdate'
  have hnone : ((r.update a (·.advance time)).age time).live.get? a = none := by
    simp [hupdate, age, NameMap.get?_erase]
  rw [update_of_none hnone, hupdate, hupdate']
  simp only [age, List.map_append, past_advance_advance hle hpast, List.map_cons, List.map_nil,
    hover.orderly.advance_advance hle, hparts,
    hreached.orderly.advance_advance (Nat.le_refl later)]

omit hnow in
/-- What a live path that goes on after the first part notifies in both parts is passed on as it
would be at once. -/
lemma update_update_of_goesOn (hgoes : (e.path.advance time).ended ≠ true) :
    (((r.update a (·.advance time)).age time).update a (·.advance later)).age later =
      (r.update a (·.advance later)).age later := by
  have hparts := hreached.orderly.advance_advance hle
  have hnotices := noticesSince_advance hreached.orderly hle
  have hupdate := update_eq he (f := (·.advance time)) (handle_advance time e.path)
  have hupdate' := update_eq he (f := (·.advance later)) (handle_advance later e.path)
  have hopen : .closed ∉ noticesSince e.path (e.path.advance time) :=
    mt (closed_mem_noticesSince_advance halive time).1 hgoes
  have hboth : (r.update a (·.advance time)).update a (·.advance later) =
      r.update a (·.advance later) := by
    rw [update_update he (handle_advance time e.path) (hparts ▸ handle_advance later e.path)
      hopen (hparts ▸ hnotices), update_const he, hparts]
    exact (update_const he (·.advance later)).symm
  simp only [if_neg hopen] at hupdate
  have hget : (r.update a (·.advance time)).live.get? a = some { e with
      path := e.path.advance time
      ready := levelAfter e.ready
        (forwarded e.ready (noticesSince e.path (e.path.advance time))) } := by
    simp [hupdate, NameMap.get?_insert]
  have haged := update_age hget (f := (·.advance later)) (handle_advance later _) time
  dsimp only at haged
  rw [hboth, hparts] at haged
  rw [haged, hupdate']
  simp only [age, hupdate, hnotices, List.mem_append, hopen, false_or, List.map_append,
    past_advance_advance hle hpast]
  split
  · rw [List.map_append]
  · rw [List.map_nil, List.append_nil]

end Live

/-- **Time passes in parts** for the only live path of a registry. -/
lemma advance_advance_of_sole (hsole : ∀ f, r.updateAll f = r.update a f)
    (hnext : ∀ f, (r.advance time).updateAll f = (r.advance time).update a f)
    (hlive : ∀ e, r.live.get? a = some e →
      e.path.Reached ∧ e.path.now ≤ time ∧ e.path.ended = false) :
    (r.advance time).advance later = r.advance later := by
  have hfirst : r.advance time = (r.update a (·.advance time)).age time := by rw [← hsole]; rfl
  have hat : r.advance later = (r.update a (·.advance later)).age later := by rw [← hsole]; rfl
  have hsecond : (r.advance time).advance later =
      ((r.advance time).update a (·.advance later)).age later := by rw [← hnext]; rfl
  rw [hsecond, hfirst, hat]
  cases he : r.live.get? a with
  | none =>
    have hnone : (r.age time).live.get? a = none := he
    rw [update_of_none he, update_of_none he, update_of_none hnone]
    simp only [age, past_advance_advance hle hpast]
  | some e =>
    obtain ⟨hreached, hnow, halive⟩ := hlive e he
    by_cases hended : (e.path.advance time).ended = true
    · exact update_update_of_ends hle hpast he hreached hnow halive hended
    · exact update_update_of_goesOn hle hpast he hreached halive hended

end Parts

/-! ## All names -/

section Names

variable {Admits : ConfSet → Prop} (h : r.Reachable Admits) {time later : Nat}

/-- Under their own numbers the paths of the past of a name are the same. -/
lemma past_focus_id (r : Registry) (a : String) :
    (r.focus a id).past = r.past.filter (·.name = a) := by
  simp [focus]

/-- What was told of a name under the own numbers of its paths is the same. -/
lemma news_focus_id (r : Registry) (a : String) :
    (r.focus a id).news = r.news.filter (·.path.name = a) := by
  have hsame : (HlsNews.renumber id : HlsNews → HlsNews) = id := rfl
  simp [focus, hsame]

/-- As time passes, what there is of a name is one path and those of the past. -/
lemma advance_focus (r : Registry) (a : String) (time : Nat) : (r.focus a id).advance time =
    ((r.focus a id).update a (·.advance time)).age time := by
  rw [← updateAll_focus]
  rfl

include h

/-- **Time passes for each name** in parts as at once. -/
theorem Reachable.focus_advance_advance (hnow : r.now ≤ time) (hle : time ≤ later) (a : String) :
    ((r.advance time).advance later).focus a id = (r.advance later).focus a id := by
  have hs := h.seated
  have hs' : (r.advance time).Seated := (h.hosts.advance hnow).seated
  rw [focus_advance hs', focus_advance hs, focus_advance hs]
  refine advance_advance_of_sole (a := a) hle (fun p hp => ?_) updateAll_focus (fun f => ?_)
    fun e he => ?_
  · rw [past_focus_id] at hp
    exact (h.hosts.gone p (List.mem_filter.1 hp).1).1
  · rw [← focus_advance hs]
    exact updateAll_focus f
  · rw [get?_focus_id] at he
    obtain ⟨hreached, hle'⟩ := h.hosts.reached a e he
    exact ⟨hreached, hle'.trans hnow, h.hosts.alive he⟩

/-- No path gets lost as time passes. -/
lemma Reachable.mem_paths_advance (hnow : r.now ≤ time) {p : Path} (hp : p ∈ r.paths) :
    p.advance time ∈ (r.advance time).paths := by
  have hs := h.seated
  have hs' : (r.advance time).Seated := (h.hosts.advance hnow).seated
  have hlast {q : Path} (hq : q ∈ r.paths) :
      (q.advance time).advance time = q.advance time :=
    (h.lived q hq).reached.orderly.advance_advance (Nat.le_refl time)
  have hfocus : p.advance time ∈ ((r.focus p.name id).advance time).paths := by
    rw [advance_focus]
    rcases mem_paths.1 hp with hpast | ⟨a, e, he, rfl⟩
    · have hmem : p ∈ ((r.focus p.name id).update p.name (·.advance time)).past := by
        have hold : p ∈ (r.focus p.name id).past := by
          rw [past_focus_id]
          exact List.mem_filter.2 ⟨hpast, by simp⟩
        cases he : (r.focus p.name id).live.get? p.name with
        | none => rwa [update_of_none he]
        | some e =>
          rw [update_eq he (handle_advance time e.path)]
          dsimp only
          split
          · exact List.mem_append_left _ hold
          · exact hold
      exact mem_paths.2 (.inl (List.mem_map_of_mem hmem))
    · obtain rfl : e.path.name = a := (hs a e he).1
      have he' : (r.focus e.path.name id).live.get? e.path.name = some e := by
        rwa [get?_focus_id]
      rw [update_eq he' (handle_advance time e.path)]
      by_cases hclosed : .closed ∈ noticesSince e.path (e.path.advance time)
      · refine mem_paths.2 (.inl (List.mem_map.2 ⟨e.path.advance time, ?_, hlast hp⟩))
        simp [hclosed]
      · refine mem_paths.2 (.inr ⟨e.path.name, { e with
          path := e.path.advance time
          ready := levelAfter e.ready
            (forwarded e.ready (noticesSince e.path (e.path.advance time))) }, ?_, rfl⟩)
        simp [age, hclosed, NameMap.get?_insert]
  rw [← focus_advance hs, hs'.paths_focus] at hfocus
  obtain ⟨q, hq, heq⟩ := List.mem_map.1 hfocus
  rw [id, Path.renumber_self] at heq
  exact heq ▸ (List.mem_filter.1 hq).1

end Names

/-! ## The same but for an order -/

/-- **Matching registries** are the same, but for the order in which paths with different names have
ended and in which HLS servers were told of them. -/
structure Matches (r r' : Registry) : Prop where
  same : r' = { r with past := r'.past, news := r'.news }
  past : ∀ a, r'.past.filter (·.name = a) = r.past.filter (·.name = a)
  news : ∀ a, r'.news.filter (·.path.name = a) = r.news.filter (·.path.name = a)

/-- Registries with the same of every name match if they agree in all that concerns no name. -/
lemma matches_of_focus {r' : Registry}
    (hsame : r' = { r with live := r'.live, past := r'.past, news := r'.news })
    (h : ∀ a, r'.focus a id = r.focus a id) : r.Matches r' where
  same := by
    have hlive : r'.live = r.live := NameMap.ext_get? fun a => by
      rw [← get?_focus_id r' a, ← get?_focus_id r a, h a]
    rwa [hlive] at hsame
  past a := by rw [← past_focus_id, ← past_focus_id, h a]
  news a := by rw [← news_focus_id, ← news_focus_id, h a]

namespace Matches

variable {r' : Registry} (h : r.Matches r')

include h

/-- Matching registries have the same paths. -/
lemma perm_paths : r'.paths.Perm r.paths := by
  have hpast : r'.past.Perm r.past := by
    classical
    refine List.perm_iff_count.2 fun p => ?_
    have hname : decide (p.name = p.name) = true := by simp
    rw [← List.count_filter (p := fun q : Path => decide (q.name = p.name)) hname, h.past,
      List.count_filter (p := fun q : Path => decide (q.name = p.name)) hname]
  have hlive : r'.live = r.live := by rw [h.same]
  unfold paths
  rw [hlive]
  exact hpast.append_right _

/-- Matching registries have the same path of each number. -/
lemma path?_eq (hr' : r'.Numbered) (i : Nat) : r'.path? i = r.path? i := by
  cases hp : r.path? i with
  | none =>
    have hnone := List.find?_eq_none.1 hp
    exact List.find?_eq_none.2 fun q hq => hnone q (h.perm_paths.mem_iff.1 hq)
  | some p =>
    have hmem := h.perm_paths.mem_iff.2 (List.mem_of_find?_eq_some hp)
    obtain rfl : p.id = i := by simpa using List.find?_some hp
    exact hr'.path?_eq hmem

end Matches

/-! ## What is recorded -/

section Records

variable {α : Type} (record : Path → List α)

/-- What is recorded of the path of a number; nothing if there is no such path. -/
def recordOf (r : Registry) (i : Nat) : List α := ((r.path? i).map record).getD []

/-- **What has been recorded** of the path of a number since an earlier state. -/
def since (before after : Registry) (i : Nat) : List α :=
  (after.recordOf record i).drop (before.recordOf record i).length

variable {record} in
/-- What is recorded in two parts is recorded altogether. -/
lemma since_append {before between after : Registry} {i : Nat}
    (h : before.recordOf record i <+: between.recordOf record i)
    (h' : between.recordOf record i <+: after.recordOf record i) :
    since record before after i =
      since record before between i ++ since record between after i := by
  obtain ⟨xs, hxs⟩ := h
  obtain ⟨ys, hys⟩ := h'
  rw [since, since, since, ← hys, List.drop_left, ← hxs, List.drop_left, List.append_assoc,
    List.drop_left]

variable {Admits : ConfSet → Prop}

variable {record} in
/-- What only grows for each path as time passes grows for the path of every number. -/
lemma Reachable.recordOf_advance (h : r.Reachable Admits) {time : Nat} (hnow : r.now ≤ time)
    (hrecord : ∀ p : Path, p.Lived → p.now ≤ time → record p <+: record (p.advance time))
    (i : Nat) : r.recordOf record i <+: (r.advance time).recordOf record i := by
  unfold recordOf
  cases hp : r.path? i with
  | none => exact List.nil_prefix
  | some p =>
    have hmem := List.mem_of_find?_eq_some hp
    obtain rfl : p.id = i := by simpa using List.find?_some hp
    have hnum : (r.advance time).Numbered := (h.hosts.advance hnow).numbered
    have hnext := hnum.path?_eq (h.mem_paths_advance hnow hmem)
    rw [(continues_advance time p).id_eq] at hnext
    rw [hnext]
    exact hrecord p (h.lived p hmem) ((h.inTime p hmem).le.trans hnow)

end Records

/-! ## Sleeping -/

/-- Time passing concerns nothing but the paths and the news of them. -/
lemma advance_same (r : Registry) (time : Nat) : ∃ live past news,
    r.advance time = { r with live, past, news, now := time } := by
  have hall : ∃ live past news, r.updateAll (·.advance time) = { r with live, past, news } := by
    refine List.foldlRecOn (motive := fun r' : Registry => ∃ live past news,
      r' = { r with live, past, news }) _ _ ⟨r.live, r.past, r.news, rfl⟩ fun b hb name _ => ?_
    obtain ⟨live, past, news, rfl⟩ := hb
    cases he : live.get? name with
    | none => exact ⟨live, past, news, update_of_none he _⟩
    | some e => exact ⟨_, _, _, update_eq he (handle_advance time e.path)⟩
  obtain ⟨live, past, news, heq⟩ := hall
  exact ⟨live, past.map (·.advance time), news, by rw [advance, heq]⟩

/-- **Sleeping in parts** is the same as sleeping at once, wherever the time is cut: the registries
match, and for every path the events and the launches of both parts are those of the whole. Not
sleeping at all changes nothing.

**Proof sketch.** What there is of a name is at most one live path and those of the past, and each
path comes in parts to the same state as at once, with the same notices. Nothing is due at rest. -/
theorem Reachable.sleep_sleep {Admits : ConfSet → Prop} (h : r.Reachable Admits) (a b : Nat) :
    r.apply (.sleep 0) = r ∧
      (r.apply (.sleep (a + b))).Matches ((r.apply (.sleep a)).apply (.sleep b)) ∧
      ∀ i,
        since Path.log r (r.apply (.sleep (a + b))) i =
            since Path.log r (r.apply (.sleep a)) i ++
              since Path.log (r.apply (.sleep a)) ((r.apply (.sleep a)).apply (.sleep b)) i ∧
          since (·.launcher.launches) r (r.apply (.sleep (a + b))) i =
            since (·.launcher.launches) r (r.apply (.sleep a)) i ++
              since (·.launcher.launches) (r.apply (.sleep a))
                ((r.apply (.sleep a)).apply (.sleep b)) i := by
  have hfirst : (r.apply (.sleep a)).Reachable Admits := h.apply (.sleep a) trivial
  have hboth : ((r.apply (.sleep a)).apply (.sleep b)).Reachable Admits :=
    hfirst.apply (.sleep b) trivial
  have hthen : (r.apply (.sleep a)).apply (.sleep b) =
      (r.advance (r.now + a)).advance (r.now + (a + b)) := by
    obtain ⟨live, past, news, heq⟩ := r.advance_same (r.now + a)
    have hnow : (r.advance (r.now + a)).now = r.now + a := by rw [heq]
    change (r.advance (r.now + a)).advance ((r.advance (r.now + a)).now + b) = _
    rw [hnow, Nat.add_assoc]
  have hmatches : (r.apply (.sleep (a + b))).Matches ((r.apply (.sleep a)).apply (.sleep b)) := by
    refine matches_of_focus ?_ fun name => ?_
    · rw [hthen]
      obtain ⟨live, past, news, heq⟩ := r.advance_same (r.now + a)
      obtain ⟨live', past', news', heq'⟩ :=
        (r.advance (r.now + a)).advance_same (r.now + (a + b))
      obtain ⟨live'', past'', news'', heq''⟩ : ∃ live past news, r.apply (.sleep (a + b)) =
        { r with live, past, news, now := r.now + (a + b) } := r.advance_same (r.now + (a + b))
      rw [heq', heq'', heq]
    · rw [hthen]
      exact h.focus_advance_advance (Nat.le_add_right ..) (by omega) name
  have hnow : (r.apply (.sleep a)).now ≤ (r.apply (.sleep a)).now + b := Nat.le_add_right ..
  have hpaths (i : Nat) := hmatches.path?_eq hboth.hosts.numbered i
  have hparts {α : Type} {record : Path → List α} (hrecord : ∀ (p : Path) (time : Nat), p.Lived →
      p.now ≤ time → record p <+: record (p.advance time)) (i : Nat) :
      since record r (r.apply (.sleep (a + b))) i = since record r (r.apply (.sleep a)) i ++
        since record (r.apply (.sleep a)) ((r.apply (.sleep a)).apply (.sleep b)) i := by
    have hsame : (r.apply (.sleep (a + b))).recordOf record i =
        ((r.apply (.sleep a)).apply (.sleep b)).recordOf record i := by
      unfold recordOf
      rw [hpaths i]
    refine Eq.trans ?_ (since_append
      (h.recordOf_advance (Nat.le_add_right r.now a) (fun p => hrecord p _) i)
      (hfirst.recordOf_advance hnow (fun p => hrecord p _) i))
    unfold since
    rw [hsame]
  refine ⟨h.advance_now, hmatches, fun i => ⟨hparts (fun p time _ _ => ?_) i,
    hparts (fun p time hp hle => hp.launches_advance hle) i⟩⟩
  exact (continues_advance time p).grows

/-- A camera whose source runs on demand and beside which a command is launched again and again. -/
def watchedCamera : ConfSet :=
  .ofList [{
    name := "cam"
    source := .pull "rtsp://host/cam"
    sourceOnDemand := true
    commands := { onInit := ⟨"watch", true⟩ } }]

/-- Somebody has asked what this camera carries. -/
def watchedCameraAsked : Registry :=
  (start {} watchedCamera .allowAll none).run [.request 0 { name := "cam" } .describe]

/-- The time is cut exactly where the source should have been ready and the command is launched
again: both happen in the first part. -/
theorem sleep_sleep_watchedCameraAsked :
    watchedCameraAsked.Reachable (fun _ => True) ∧
      (watchedCameraAsked.apply (.sleep (10000 + 5000))).Matches
        ((watchedCameraAsked.apply (.sleep 10000)).apply (.sleep 5000)) ∧
      since Path.log watchedCameraAsked (watchedCameraAsked.apply (.sleep 10000)) 1 =
        [.answered 0 (.refused (.sourceTimedOut "cam")), .sourceStopped "timed out",
          .sourceUndemand "timed out"] ∧
      (since (·.launcher.launches) watchedCameraAsked
          (watchedCameraAsked.apply (.sleep 10000)) 1).map (·.time) = [5000, 10000] ∧
      (since (·.launcher.launches) watchedCameraAsked
          (watchedCameraAsked.apply (.sleep (10000 + 5000))) 1).map (·.time) =
        [5000, 10000, 15000] := by
  have hreach : watchedCameraAsked.Reachable (fun _ => True) :=
    Reachable.run (.start trivial {} .allowAll none) ⟨trivial, trivial⟩
  exact ⟨hreach, (hreach.sleep_sleep 10000 5000).2.1, by cbv, by cbv, by cbv⟩

end Registry

end LivePaths
