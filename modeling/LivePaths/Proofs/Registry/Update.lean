import LivePaths.Proofs.Path.History
import LivePaths.Registry.Run

set_option relaxedAutoImplicit false
set_option autoImplicit false

/-!
# What happens to the paths of a registry

For each way in which a registry touches its paths one equation that says everything it does: a live
path goes on or ends, is created, is handed a configuration or is removed.

## Main definitions

* `Registry.bulletins`, `Registry.farewell` — what an HLS server is told of a path, and of its end.

## Main results

* `Registry.update_of_continues` — a live path goes on or ends.
* `Registry.handOver_eq`, `Registry.removePath_eq` — new configurations and removal.
* `Registry.foldl_createPath` — the creation of several paths.
-/

namespace LivePaths

/-! ## Signals -/

namespace Notice

/-- The notice of a signal of readiness. -/
def ofSignal (ready : Bool) : Notice := if ready then .ready else .notReady

lemma ofSignal_ne_closed (ready : Bool) : ofSignal ready ≠ .closed := by
  cases ready <;> simp [ofSignal]

lemma exists_ofSignal {n : Notice} (h : n ≠ .closed) : ∃ ready, n = ofSignal ready := by
  cases n with
  | ready => exact ⟨true, rfl⟩
  | notReady => exact ⟨false, rfl⟩
  | closed => exact absurd rfl h

end Notice

namespace Registry

/-! ## Telling -/

/-- What the attached HLS server, if there is one, is told of some signals of a path. -/
def bulletins (hls : Option String) (path : PathHandle) (signals : List Bool) : List HlsNews :=
  match hls with
  | none => []
  | some server => signals.map fun ready => ⟨ready, path, server⟩

@[simp]
lemma bulletins_nil (hls : Option String) (path : PathHandle) : bulletins hls path [] = [] := by
  cases hls <;> rfl

/-- What is told of a path that ends: that it is not ready any more, if it was. -/
def farewell (ready : Bool) : List Bool := if ready then [false] else []

lemma tellHls_eq (r : Registry) (ready : Bool) (path : PathHandle) :
    r.tellHls ready path = { r with news := r.news ++ bulletins r.hls path [ready] } := by
  unfold tellHls
  split
  · next hnone =>
    have hnews : bulletins r.hls path [ready] = [] := by simp [bulletins, hnone]
    rw [hnews, List.append_nil]
  · next server hserver =>
    have hnews : bulletins r.hls path [ready] = [⟨ready, path, server⟩] := by
      simp [bulletins, hserver]
    rw [hnews]

/-! ## Notices -/

/-- The notices among new events. -/
lemma noticesSince_of_log {p q : Path} {es : List PathEvent} (h : q.log = p.log ++ es) :
    noticesSince p q = es.filterMap PathEvent.notice? := by
  simp [noticesSince, h]

/-- The end is among the notices exactly if it is among the new events. -/
lemma closed_mem_notices (es : List PathEvent) :
    Notice.closed ∈ es.filterMap PathEvent.notice? ↔ .noticed .closed ∈ es := by
  rw [List.mem_filterMap]
  constructor
  · rintro ⟨e, he, hn⟩
    cases e with
    | noticed n =>
      obtain rfl : n = .closed := by simpa [PathEvent.notice?] using hn
      exact he
    | _ => simp [PathEvent.notice?] at hn
  · exact fun h => ⟨_, h, rfl⟩

/-- Nobody takes up notices of a name without a live path. -/
lemma foldl_takeNotice_of_none {r : Registry} {name : String} (h : r.live.get? name = none)
    (ns : List Notice) : ns.foldl (takeNotice name) r = r := by
  induction ns with
  | nil => rfl
  | cons n rest ih => simpa [takeNotice, h] using ih

/-- **A signal of readiness** is remembered and passed on. -/
lemma takeNotice_ofSignal {r : Registry} {name : String} {e : RegistryEntry}
    (h : r.live.get? name = some e) (ready : Bool) :
    takeNotice name r (.ofSignal ready) =
      { r with
        live := r.live.insert name { e with ready }
        news := r.news ++ bulletins r.hls e.path.handle [ready] } := by
  cases ready <;> simp [takeNotice, h, Notice.ofSignal, tellHls_eq]

/-- A notice of the end removes the path. -/
lemma takeNotice_closed {r : Registry} {name : String} {e : RegistryEntry}
    (h : r.live.get? name = some e) :
    takeNotice name r .closed =
      { r with
        live := r.live.erase name
        past := r.past ++ [e.path]
        news := r.news ++ bulletins r.hls e.path.handle (farewell e.ready) } := by
  cases hready : e.ready <;> simp [takeNotice, h, hready, farewell, tellHls_eq]

/-- **Taking up notices**: what is notified of readiness is remembered, and the path is removed if
the end is among the notices.

**Proof sketch.** Induction on the notices. Each one leaves the live path of the name in its place,
but for the end, after which nothing of this name is left to be notified of. -/
lemma foldl_takeNotice {name : String} (ns : List Notice) {r : Registry} {e : RegistryEntry}
    (h : r.live.get? name = some e) :
    (.closed ∉ ns ∧ ∃ ready news, ns.foldl (takeNotice name) r =
        { r with live := r.live.insert name { e with ready }, news }) ∨
      (.closed ∈ ns ∧ ∃ news, ns.foldl (takeNotice name) r =
        { r with live := r.live.erase name, past := r.past ++ [e.path], news }) := by
  induction ns generalizing r e with
  | nil =>
    refine .inl ⟨by simp, e.ready, r.news, ?_⟩
    simp [NameMap.insert_of_get? h]
  | cons n rest ih =>
    rw [List.foldl_cons]
    by_cases hn : n = .closed
    · subst hn
      refine .inr ⟨List.mem_cons_self,
        r.news ++ bulletins r.hls e.path.handle (farewell e.ready), ?_⟩
      rw [takeNotice_closed h]
      exact foldl_takeNotice_of_none (by simp [NameMap.get?_erase]) rest
    · obtain ⟨ready, rfl⟩ := Notice.exists_ofSignal hn
      rw [takeNotice_ofSignal h]
      set taken := { r with
        live := r.live.insert name { e with ready }
        news := r.news ++ bulletins r.hls e.path.handle [ready] } with htaken
      have hget : taken.live.get? name = some { e with ready } := by
        simp [htaken, NameMap.get?_insert]
      rcases ih hget with ⟨hnot, ready', news', heq⟩ | ⟨hmem, news', heq⟩
      · refine .inl ⟨by simpa [hnot] using Ne.symm hn, ready', news', ?_⟩
        rw [heq]
        simp [htaken]
      · refine .inr ⟨List.mem_cons_of_mem _ hmem, news', ?_⟩
        rw [heq]
        simp [htaken]

/-! ## Live paths -/

/-- Nothing happens under a name without a live path. -/
lemma update_of_none {r : Registry} {name : String} (h : r.live.get? name = none)
    (f : Path → Path) : r.update name f = r := by
  simp [update, h]

/-- **A live path goes on or ends**; in the second case it is removed. -/
theorem update_of_continues {Q : PathEvent → Prop} {r : Registry} {name : String}
    {e : RegistryEntry} (h : r.live.get? name = some e) {f : Path → Path}
    (hf : e.path.Continues Q (f e.path)) (he : e.path.ended = false) :
    ((f e.path).ended = false ∧ ∃ ready news, r.update name f =
        { r with live := r.live.insert name { e with path := f e.path, ready }, news }) ∨
      ((f e.path).ended = true ∧ ∃ news, r.update name f =
        { r with live := r.live.erase name, past := r.past ++ [f e.path], news }) := by
  obtain ⟨es, hlog, -, hend⟩ := hf.log
  have hget : { r with live := r.live.insert name { e with path := f e.path } }.live.get? name =
      some { e with path := f e.path } := by
    simp [NameMap.get?_insert]
  unfold update
  simp only [h, noticesSince_of_log hlog]
  rcases foldl_takeNotice (es.filterMap PathEvent.notice?) hget with
    ⟨hnot, ready, news, heq⟩ | ⟨hmem, news, heq⟩
  · rw [closed_mem_notices, ← hend he] at hnot
    refine .inl ⟨by simpa using hnot, ready, news, ?_⟩
    rw [heq]
    simp
  · rw [closed_mem_notices, ← hend he] at hmem
    refine .inr ⟨hmem, news, ?_⟩
    rw [heq]
    simp

/-- Whatever is live after something has happened to one path was live before, or is this path. -/
lemma get?_update {Q : PathEvent → Prop} {r : Registry} {name : String} {f : Path → Path}
    (hf : ∀ p : Path, p.Continues Q (f p))
    (halive : ∀ e, r.live.get? name = some e → e.path.ended = false) {other : String}
    {e' : RegistryEntry} (h : (r.update name f).live.get? other = some e') :
    (name ≠ other ∧ r.live.get? other = some e') ∨
      (name = other ∧ ∃ e ready, r.live.get? name = some e ∧
        e' = { e with path := f e.path, ready } ∧ (f e.path).ended = false) := by
  cases he : r.live.get? name with
  | none =>
    rw [update_of_none he] at h
    refine .inl ⟨fun hname => ?_, h⟩
    simp [← hname, he] at h
  | some e =>
    rcases update_of_continues he (hf e.path) (halive e he) with
      ⟨hlive, ready, news, heq⟩ | ⟨-, news, heq⟩
    · rw [heq, NameMap.get?_insert] at h
      split at h
      · next hname => exact .inr ⟨hname, e, ready, rfl, (Option.some.inj h).symm, hlive⟩
      · next hname => exact .inl ⟨hname, h⟩
    · rw [heq, NameMap.get?_erase] at h
      split at h
      · cases h
      · next hname => exact .inl ⟨hname, h⟩

/-- Something that happens to one path leaves the others in their places. -/
lemma get?_update_of_ne {Q : PathEvent → Prop} {r : Registry} {name : String} {f : Path → Path}
    (hf : ∀ p : Path, p.Continues Q (f p))
    (halive : ∀ e, r.live.get? name = some e → e.path.ended = false) {other : String}
    (hne : name ≠ other) : (r.update name f).live.get? other = r.live.get? other := by
  cases he : r.live.get? name with
  | none => rw [update_of_none he]
  | some e =>
    rcases update_of_continues he (hf e.path) (halive e he) with
      ⟨-, ready, news, heq⟩ | ⟨-, news, heq⟩
    · rw [heq, NameMap.get?_insert, if_neg hne]
    · rw [heq, NameMap.get?_erase, if_neg hne]

/-- A new configuration is nothing that the registry is notified of. -/
lemma noticesSince_reload (p : Path) (c : Conf) : noticesSince p (p.reload c) = [] := by
  rw [Path.reload_eq]
  simp only [noticesSince, List.append_assoc, List.drop_left]
  rw [List.filterMap_append, List.append_eq_nil_iff]
  refine ⟨?_, ?_⟩
  · unfold Path.sourceCall
    split <;> simp [PathEvent.notice?]
  · unfold Path.recordingChange Path.recordingEnd
    split
    · split
      · cases p.recording <;> cases p.stream <;> simp [PathEvent.notice?]
      · cases p.recording <;> simp [PathEvent.notice?]
    · simp

/-- **A configuration is handed over** once. -/
theorem handOver_eq {r : Registry} {name : String} {e : RegistryEntry}
    (h : r.live.get? name = some e) (c : Conf) :
    r.handOver name c =
      { r with live := r.live.insert name { e with conf := c, path := e.path.reload c } } := by
  unfold handOver update
  simp only [NameMap.modify_of_get? h, NameMap.get?_insert, ↓reduceIte, noticesSince_reload]
  simp

/-- **A live path is removed**; what was known of it decides what is told. -/
theorem removePath_eq {r : Registry} {name : String} {e : RegistryEntry}
    (h : r.live.get? name = some e) :
    r.removePath name =
      { r with
        live := r.live.erase name
        past := r.past ++ [e.path.destroy]
        news := r.news ++ bulletins r.hls e.path.handle (farewell e.ready) } := by
  cases hready : e.ready <;> simp [removePath, h, hready, farewell, tellHls_eq]

/-! ## New paths -/

/-- The entry of a new path without a pattern. -/
def newEntry (r : Registry) (id : Nat) (c : Conf) : RegistryEntry where
  path := Path.create r.settings r.now id c.name ⟨c, []⟩
  conf := c

/-- **The creation of several paths** gives each of them a number of its own, and changes nothing
else.

**Proof sketch.** Induction on the configurations; the paths that were created first have smaller
numbers, and stay unless a later one has the same name. -/
theorem foldl_createPath (cs : List Conf) (r : Registry) :
    ∃ live, cs.foldl (fun r c => r.createPath c.name ⟨c, []⟩) r =
        { r with live, created := r.created + cs.length } ∧
      ∀ name, (∃ c ∈ cs, c.name = name ∧ ∃ id, r.created < id ∧ id ≤ r.created + cs.length ∧
          live.get? name = some (r.newEntry id c)) ∨
        ((∀ c ∈ cs, c.name ≠ name) ∧ live.get? name = r.live.get? name) := by
  induction cs generalizing r with
  | nil => exact ⟨r.live, rfl, fun name => .inr ⟨by simp, rfl⟩⟩
  | cons c rest ih =>
    obtain ⟨live, heq, hlive⟩ := ih (r.createPath c.name ⟨c, []⟩)
    refine ⟨live, ?_, fun name => ?_⟩
    · rw [List.foldl_cons, heq]
      simp [createPath, Nat.add_assoc, Nat.add_comm 1]
    · rcases hlive name with ⟨d, hd, hname, id, hlt, hle, hget⟩ | ⟨hnone, hget⟩
      · refine .inl ⟨d, List.mem_cons_of_mem _ hd, hname, id, ?_, ?_, hget⟩
        · exact Nat.lt_of_succ_lt hlt
        · simpa [createPath, Nat.add_assoc, Nat.add_comm 1] using hle
      · by_cases hc : c.name = name
        · refine .inl ⟨c, List.mem_cons_self, hc, r.created + 1, by omega, by simp, ?_⟩
          rw [hget, createPath, NameMap.get?_insert, if_pos hc]
          rfl
        · refine .inr ⟨?_, ?_⟩
          · simpa [hc] using hnone
          · rw [hget, createPath, NameMap.get?_insert, if_neg hc]

/-- **The missing paths** are new; whatever is live stays, and nothing else comes besides. -/
lemma createMissing_eq (r : Registry) :
    ∃ live, r.createMissing = { r with live, created := r.created + r.missing.length } ∧
      (∀ name e, r.live.get? name = some e → live.get? name = some e) ∧
      ∀ name e, live.get? name = some e → r.live.get? name = some e ∨
        ∃ c ∈ r.missing, c.name = name ∧ ∃ id, e = r.newEntry id c := by
  obtain ⟨live, heq, hlive⟩ := foldl_createPath r.missing r
  refine ⟨live, heq, fun name e he => ?_, fun name e he => ?_⟩
  · rcases hlive name with ⟨c, hc, rfl, -⟩ | ⟨-, hget⟩
    · have hnone := (List.mem_filter.1 hc).2
      simp [NameMap.contains, he] at hnone
    · exact hget.trans he
  · rcases hlive name with ⟨c, hc, hname, id, -, -, hget⟩ | ⟨-, hget⟩
    · exact .inr ⟨c, hc, hname, id, Option.some.inj (he.symm.trans hget)⟩
    · exact .inl (hget.symm.trans he)

end Registry

end LivePaths
