import LivePaths.Proofs.Registry.Notices
import LivePaths.Proofs.Registry.Stages

set_option relaxedAutoImplicit false
set_option autoImplicit false

/-!
# What an HLS server is told

An HLS server is told of the paths that are ready when it is attached, and from then on of each
change of readiness. Notices of paths, their ends and their removal all contribute to this; for each
path the news nevertheless alternate, and the last of them says whether the path has a stream.

## Main definitions

* `Registry.standing` — the numbers and the readiness of the live paths.
* `Registry.Reported` — news that alternate and agree with the standing of the paths.
* `Registry.Moves` — what a stage does to the standing of the paths.
* `Registry.Attached` — the period for which an HLS server has been attached.

## Main results

* `Registry.Stage.moves` — what each stage does, and what is told of it.
* `Registry.Attached.told` — what an attached server has been told.
* `Registry.Reachable.news_alternate` — the news in all periods of a registry that is open.
-/

namespace LivePaths

namespace Registry

/-! ## Signals -/

/-- **The signals of a path** among some news, by its number. -/
def signalsOf (id : Nat) (news : List HlsNews) : List Bool :=
  (news.filter (·.path.id = id)).map (·.ready)

@[simp]
lemma signalsOf_append (id : Nat) (news more : List HlsNews) :
    signalsOf id (news ++ more) = signalsOf id news ++ signalsOf id more := by
  simp [signalsOf]

/-- What an attached server is told of a path concerns this path alone. -/
lemma signalsOf_bulletins (server : String) (path : PathHandle) (signals : List Bool) (id : Nat) :
    signalsOf id (bulletins (some server) path signals) =
      if path.id = id then signals else [] := by
  simp only [signalsOf, bulletins, List.filter_map, List.map_map]
  by_cases hid : path.id = id <;> simp [hid, Function.comp_def]

/-! ## The standing of the paths -/

/-- **The standing** of the live paths by their names: their numbers, and whether they are ready. -/
def standing (live : NameMap RegistryEntry) (name : String) : Option (Nat × Bool) :=
  (live.get? name).map fun e => (e.path.id, e.path.isReady)

lemma standing_of_get? {live : NameMap RegistryEntry} {name : String} {e : RegistryEntry}
    (h : live.get? name = some e) : standing live name = some (e.path.id, e.path.isReady) := by
  simp [standing, h]

lemma standing_insert (live : NameMap RegistryEntry) (name : String) (e : RegistryEntry) :
    standing (live.insert name e) =
      Function.update (standing live) name (some (e.path.id, e.path.isReady)) := by
  funext other
  by_cases hname : name = other
  · subst hname
    simp [standing, NameMap.get?_insert]
  · simp [standing, NameMap.get?_insert, hname, Function.update_of_ne (Ne.symm hname)]

lemma standing_erase (live : NameMap RegistryEntry) (name : String) :
    standing (live.erase name) = Function.update (standing live) name none := by
  funext other
  by_cases hname : name = other
  · subst hname
    simp [standing, NameMap.get?_erase]
  · simp [standing, NameMap.get?_erase, hname, Function.update_of_ne (Ne.symm hname)]

/-- Only one live path has a number. -/
lemma Numbered.standing_inj {r : Registry} (h : r.Numbered) {name other : String} {id : Nat}
    {ready ready' : Bool} (hname : standing r.live name = some (id, ready))
    (hother : standing r.live other = some (id, ready')) : name = other := by
  have hid {n : String} {b : Bool} (hn : standing r.live n = some (id, b)) :
      r.liveId n = some id := by
    obtain ⟨e, he, heq⟩ := Option.map_eq_some_iff.1 hn
    simp [liveId, he, (Prod.mk.inj heq).1]
  exact h.live_inj name other id (hid hname) (hid hother)

/-- **Reporting**: the news of each path alternate, the last one tells whether it is ready if it is
live, and that it is not if it has gone. -/
structure Reported (live : String → Option (Nat × Bool)) (news : List HlsNews) : Prop where
  alternates : ∀ id, Alternates false (signalsOf id news)
  current : ∀ name id ready, live name = some (id, ready) →
    levelAfter false (signalsOf id news) = ready
  gone : ∀ id, (∀ name ready, live name ≠ some (id, ready)) →
    levelAfter false (signalsOf id news) = false

namespace Reported

variable {live live' : String → Option (Nat × Bool)} {news more : List HlsNews}
  (h : Reported live news)

include h

/-- A new path is not ready, and nothing was told of its number. -/
lemma create {name : String} {id : Nat} (hname : live name = none)
    (hid : ∀ n ready, live n ≠ some (id, ready)) :
    Reported (Function.update live name (some (id, false))) news where
  alternates := h.alternates
  current n i ready hn := by
    rw [Function.update_apply] at hn
    split at hn
    · obtain ⟨rfl, rfl⟩ := Prod.mk.inj (Option.some.inj hn)
      exact h.gone _ hid
    · exact h.current n i ready hn
  gone i hi := by
    refine h.gone i fun n ready hn => hi n ready ?_
    have hne : n ≠ name := fun heq => by simp [heq, hname] at hn
    rw [Function.update_of_ne hne, hn]

/-- Signals of a live path are passed on; afterwards it goes on as the last one says, or it was not
ready and is gone. -/
lemma signal {name : String} {id : Nat} {ready : Bool} {signals : List Bool}
    (hinj : ∀ other b, live other = some (id, b) → name = other)
    (hname : live name = some (id, ready)) (halt : Alternates ready signals)
    (hmore : ∀ i, signalsOf i more = if id = i then signals else [])
    (hlive : live' = Function.update live name (some (id, levelAfter ready signals)) ∨
      (levelAfter ready signals = false ∧ live' = Function.update live name none)) :
    Reported live' (news ++ more) := by
  have hown : levelAfter false (signalsOf id (news ++ more)) = levelAfter ready signals := by
    simp [hmore, levelAfter_append, h.current name id ready hname]
  have hother (i : Nat) (hi : id ≠ i) : signalsOf i (news ++ more) = signalsOf i news := by
    simp [hmore, hi]
  refine ⟨fun i => ?_, fun n i b hn => ?_, fun i hi => ?_⟩
  · -- the signals go on from what was told last
    by_cases hi : id = i
    · subst hi
      simp [hmore, alternates_append, h.alternates, h.current name id ready hname, halt]
    · exact hother i hi ▸ h.alternates i
  · by_cases hn' : n = name
    · subst hn'
      rcases hlive with rfl | ⟨-, rfl⟩
      · obtain ⟨rfl, rfl⟩ : id = i ∧ levelAfter ready signals = b := by simpa using hn
        exact hown
      · simp at hn
    · have hold : live n = some (i, b) := by
        rcases hlive with rfl | ⟨-, rfl⟩ <;> simpa [Function.update_of_ne hn'] using hn
      have hi : id ≠ i := fun heq => hn' (hinj n b (heq ▸ hold)).symm
      exact hother i hi ▸ h.current n i b hold
  · by_cases hid : id = i
    · subst hid
      rcases hlive with rfl | ⟨hlevel, -⟩
      · exact absurd (Function.update_self ..) (hi name _)
      · exact hown.trans hlevel
    · rw [hother i hid]
      refine h.gone i fun n b hn => hi n b ?_
      have hne : n ≠ name := fun heq => by simp [heq, hname, hid] at hn
      rcases hlive with rfl | ⟨-, rfl⟩ <;> rw [Function.update_of_ne hne, hn]

end Reported

/-! ## What stages do -/

/-- **Knowledge**: the registry remembers of each live path whether it is ready. -/
def Knows (r : Registry) : Prop :=
  ∀ name e, r.live.get? name = some e → e.ready = e.path.isReady

/-- **Moves** of the standing of the paths: nothing is told, a path is new, or signals of a live
path are passed on, which then goes on or is gone. -/
inductive Moves (r r' : Registry) : Prop where
  | stay (hstanding : standing r'.live = standing r.live) (hnews : r'.news = r.news)
  | create (name : String) (id : Nat) (hname : standing r.live name = none)
      (hid : ∀ n ready, standing r.live n ≠ some (id, ready))
      (hstanding : standing r'.live =
        Function.update (standing r.live) name (some (id, false)))
      (hnews : r'.news = r.news)
  | signal (name : String) (path : PathHandle) (ready : Bool) (signals : List Bool)
      (hname : standing r.live name = some (path.id, ready)) (halt : Alternates ready signals)
      (hstanding : standing r'.live =
          Function.update (standing r.live) name (some (path.id, levelAfter ready signals)) ∨
        (levelAfter ready signals = false ∧
          standing r'.live = Function.update (standing r.live) name none))
      (hnews : r'.news = r.news ++ bulletins r.hls path signals)

/-- One entry is replaced by one that is known. -/
lemma Knows.insert {r r' : Registry} (h : r.Knows) {name : String} {e : RegistryEntry}
    (he : e.ready = e.path.isReady) (hlive : r'.live = r.live.insert name e) : r'.Knows := by
  intro other e' he'
  rw [hlive, NameMap.get?_insert] at he'
  split at he'
  · obtain rfl := Option.some.inj he'
    exact he
  · exact h other e' he'

/-- One entry is removed. -/
lemma Knows.erase {r r' : Registry} (h : r.Knows) {name : String}
    (hlive : r'.live = r.live.erase name) : r'.Knows := by
  intro other e' he'
  rw [hlive, NameMap.get?_erase] at he'
  split at he'
  · cases he'
  · exact h other e' he'

/-- **What goes on between steps** leaves the standing of the paths as it is. -/
lemma get?_modifyPath {r : Registry} {id : Nat} {act : MediaAct} {name : String}
    {e' : RegistryEntry} (h : (r.modifyPath id (·.media act)).live.get? name = some e') :
    ∃ e, r.live.get? name = some e ∧ e'.ready = e.ready ∧ e'.path.id = e.path.id ∧
      e'.path.isReady = e.path.isReady := by
  rw [modifyPath, NameMap.get?_mapValues] at h
  obtain ⟨e, he, rfl⟩ := Option.map_eq_some_iff.1 h
  refine ⟨e, he, rfl, ?_⟩
  dsimp only
  split
  · have hgoes := e.path.goesOn_media act
    exact ⟨hgoes.id_eq, by simpa [Path.isReady] using congrArg Option.isSome hgoes.descriptions⟩
  · exact ⟨rfl, rfl⟩

/-- **What each stage does** to the standing of the paths, and what is told of it. -/
theorem Stage.moves {Came : PathHandle → PathMessage → Prop} {r r' : Registry}
    (h : Stage Came r r') (hnum : r.Numbered) (hknows : r.Knows) :
    r.Moves r' ∧ r'.Knows ∧ r'.hls = r.hls ∧ r'.closed = r.closed := by
  cases h with
  | note confs questions refusals => exact ⟨.stay rfl rfl, hknows, rfl, rfl⟩
  | @steps name e ss he hname hlive hreached hss hm hgoes =>
    -- what is remembered of the path is what its signals begin with
    obtain ⟨signals, halt, ⟨hlevel, heq⟩ | ⟨hlevel, heq⟩⟩ := update_of_changes he hlive
      (hknows name e he) (Path.changes_run hreached.orderly hss fun _ _ => trivial) hgoes
    · rw [heq]
      refine ⟨.signal name e.path.handle e.path.isReady signals (standing_of_get? he) halt
        (.inl ?_) rfl, hknows.insert rfl rfl, rfl, rfl⟩
      rw [standing_insert, hlevel]
      exact congrArg _ (congrArg some (Prod.ext hgoes.id_eq rfl))
    · rw [heq]
      exact ⟨.signal name e.path.handle e.path.isReady signals (standing_of_get? he) halt
        (.inr ⟨hlevel, standing_erase r.live name⟩) rfl, hknows.erase rfl, rfl, rfl⟩
  | @create name found hnone =>
    have hready : (Path.create r.settings r.now (r.created + 1) name found).isReady = false := by
      rw [Path.create_eq]
      rfl
    refine ⟨.create name (r.created + 1) (by simp [standing, hnone]) (fun n ready hn => ?_) ?_ rfl,
      hknows.insert hready.symm rfl, rfl, rfl⟩
    · obtain ⟨e, he, heq⟩ := Option.map_eq_some_iff.1 hn
      have hle := hnum.live_le n e.path.id (by simp [liveId, he])
      have hid : e.path.id = r.created + 1 := (Prod.mk.inj heq).1
      omega
    · rw [createPath, standing_insert]
      simp [hready, Path.id_create]
  | @handOver name e c he hlive hc =>
    have hready : (e.path.reload c).isReady = e.path.isReady := by
      rw [Path.reload_eq]
      rfl
    have hid : (e.path.reload c).id = e.path.id :=
      congrArg (·.1) (Path.proceeds_reload e.path c).same
    rw [handOver_eq he]
    refine ⟨.signal name e.path.handle e.path.isReady [] (standing_of_get? he) (alternates_nil _)
      (.inl ?_) (by simp), hknows.insert ?_ rfl, rfl, rfl⟩
    · rw [standing_insert]
      simp [hready, hid, Path.handle]
    · exact (hknows name e he).trans hready.symm
  | @remove name e he hlive =>
    rw [removePath_eq he, hknows name e he]
    exact ⟨.signal name e.path.handle e.path.isReady _ (standing_of_get? he)
      (alternates_farewell _) (.inr ⟨levelAfter_farewell _, standing_erase r.live name⟩) rfl,
      hknows.erase rfl, rfl, rfl⟩
  | media id act =>
    refine ⟨.stay ?_ rfl, fun name e' he' => ?_, rfl, rfl⟩
    · funext name
      cases hget : (r.modifyPath id (·.media act)).live.get? name with
      | none =>
        have hnone : r.live.get? name = none := by
          simpa [modifyPath, NameMap.get?_mapValues] using hget
        simp [standing, hget, hnone]
      | some e' =>
        obtain ⟨e, he, -, heid, heready⟩ := get?_modifyPath hget
        simp [standing, hget, he, heid, heready]
    · obtain ⟨e, he, hready, -, hpath⟩ := get?_modifyPath he'
      rw [hready, hpath, hknows name e he]
  | age time hpast => exact ⟨.stay rfl rfl, hknows, rfl, rfl⟩

/-- **Told**: since an HLS server was attached, news were for it alone, and they report the standing
of the paths. -/
structure Told (server : String) (since : Nat) (r : Registry) : Prop where
  attached : r.hls = some server
  begun : since ≤ r.news.length
  own : ∀ n ∈ r.news.drop since, n.server = server
  reported : Reported (standing r.live) (r.news.drop since)

/-- **Moves** keep the server told. -/
lemma Told.move {server : String} {since : Nat} {r r' : Registry} (h : Told server since r)
    (hnum : r.Numbered) (hmove : r.Moves r') (hhls : r'.hls = r.hls) : Told server since r' := by
  cases hmove with
  | stay hstanding hnews =>
    refine ⟨hhls.trans h.attached, hnews ▸ h.begun, hnews ▸ h.own, ?_⟩
    rw [hstanding, hnews]
    exact h.reported
  | create name id hname hid hstanding hnews =>
    refine ⟨hhls.trans h.attached, hnews ▸ h.begun, hnews ▸ h.own, ?_⟩
    rw [hstanding, hnews]
    exact h.reported.create hname hid
  | signal name path ready signals hname halt hstanding hnews =>
    have hdrop : r'.news.drop since =
        r.news.drop since ++ bulletins (some server) path signals := by
      rw [hnews, h.attached, List.drop_append_of_le_length h.begun]
    refine ⟨hhls.trans h.attached, ?_, ?_, ?_⟩
    · rw [hnews, List.length_append]
      exact Nat.le_add_right_of_le h.begun
    · rw [hdrop]
      refine List.forall_mem_append.2 ⟨h.own, fun n hn => ?_⟩
      obtain ⟨s, -, rfl⟩ := List.mem_map.1 hn
      rfl
    · rw [hdrop]
      exact h.reported.signal (fun other b hother => hnum.standing_inj hname hother) hname halt
        (signalsOf_bulletins server path signals) hstanding

/-! ## Operations -/

/-- **What sequences of stages keep**: the registry knows which paths are ready, and if an HLS
server is attached it has been told. -/
lemma Stages.told {Came : PathHandle → PathMessage → Prop} {r r' : Registry} (h : Stages Came r r')
    (hnum : r.Numbered) (hknows : r.Knows) :
    r'.Knows ∧ r'.hls = r.hls ∧ r'.closed = r.closed ∧
      ∀ server since, Told server since r → Told server since r' := by
  have hall := h.keeps
    (I := fun q => q.Numbered ∧ q.Knows ∧ q.hls = r.hls ∧ q.closed = r.closed ∧
      ∀ server since, Told server since r → Told server since q)
    (fun q q' hstage ⟨hnum, hknows, hhls, hclosed, htold⟩ => by
      obtain ⟨hmove, hknows', hhls', hclosed'⟩ := hstage.moves hnum hknows
      exact ⟨hstage.numbered hnum, hknows', hhls'.trans hhls, hclosed'.trans hclosed,
        fun server since hr => (htold server since hr).move hnum hmove hhls'⟩)
    ⟨hnum, hknows, rfl, rfl, fun _ _ hr => hr⟩
  exact hall.2

/-- **A new registry** knows that no path is ready, and there is nothing to tell. -/
lemma told_start (settings : PathSettings) (confs : ConfSet) (authenticator : Authenticator)
    (hls : Option String) :
    (start settings confs authenticator hls).Knows ∧
      (start settings confs authenticator hls).hls = hls ∧
      (start settings confs authenticator hls).closed = false ∧
      ∀ server, hls = some server → Told server 0 (start settings confs authenticator hls) := by
  have hnum := numbered_empty settings confs authenticator hls
  have hstages : Stages (fun _ _ => True) { settings, confs, authenticator, hls }
      (start settings confs authenticator hls) := stages_createMissing _
  obtain ⟨hknows, hhls, hclosed, htold⟩ := hstages.told hnum fun name e he => by simp at he
  refine ⟨hknows, hhls, hclosed, fun server hserver => htold server 0
    ⟨hserver, Nat.zero_le _, by simp, fun id => alternates_nil _, fun name id ready h => ?_,
      fun _ _ => rfl⟩⟩
  simp [standing] at h

/-- Another HLS server leaves the paths as they are. -/
lemma setHls_news {r : Registry} (hopen : r.closed = false) (server : String) :
    r.apply (.setHls (some server)) = { r with
      hls := some server
      news := r.news ++ (r.live.values.filter (·.ready)).map fun e =>
        ⟨true, e.path.handle, server⟩ } := by
  have hfold (es : List RegistryEntry) (q : Registry) (hq : q.hls = some server) :
      es.foldl (fun r e => r.tellHls true e.path.handle) q =
        { q with news := q.news ++ es.map fun e => ⟨true, e.path.handle, server⟩ } := by
    induction es generalizing q with
    | nil => simp
    | cons e rest ih =>
      rw [List.foldl_cons, tellHls_eq, ih { q with
        news := q.news ++ bulletins q.hls e.path.handle [true] } hq]
      simp [hq, bulletins]
  have hset : r.setHls (some server) = .ok ((r.live.values.filter (·.ready)).foldl
      (fun r e => r.tellHls true e.path.handle) { r with hls := some server }) := by
    unfold setHls
    exact if_neg (by simp [hopen])
  change (r.setHls (some server)).toOption.getD r = _
  rw [hset, hfold _ { r with hls := some server } rfl]
  rfl

/-- **Every registry at rest** knows which of its paths are ready. -/
theorem Reachable.knows {Admits : ConfSet → Prop} {r : Registry} (h : r.Reachable Admits) :
    r.Knows := by
  induction h with
  | start _ settings authenticator hls => exact (told_start settings _ authenticator hls).1
  | @apply r h op hop ih =>
    have hhosts := h.hosts
    cases hglobal : op.isGlobal with
    | false => exact ((hhosts.stages_apply hop hglobal).told hhosts.numbered ih).1
    | true =>
      rcases apply_of_isGlobal hglobal with ⟨-, heq⟩ | ⟨server, news, -, heq⟩ | ⟨-, hlive⟩
      · rw [heq]
        exact ih
      · rw [heq]
        exact ih
      · intro name e he
        simp [hlive] at he

/-! ## Attachment -/

/-- **Attachment**: an HLS server has been attached to an open registry since some news were told,
when the registry began or by an operation; no other one has come since. -/
inductive Attached (Admits : ConfSet → Prop) (server : String) : Registry → Nat → Prop where
  | start {confs : ConfSet} (h : Admits confs) (settings : PathSettings)
      (authenticator : Authenticator) :
      Attached Admits server (.start settings confs authenticator (some server)) 0
  | attach {r : Registry} (h : r.Reachable Admits) (hopen : r.closed = false) :
      Attached Admits server (r.apply (.setHls (some server))) r.news.length
  | apply {r : Registry} {since : Nat} (h : Attached Admits server r since) {op : RegistryOp}
      (hop : r.Permits Admits op) (hpaths : op.isGlobal = false) :
      Attached Admits server (r.apply op) since

/-- What is told of a path when a server is attached: that it is ready, if it is. -/
lemma signalsOf_attach {r : Registry} (hnum : r.Numbered) (hknows : r.Knows) (server : String)
    (id : Nat) {signals : List Bool}
    (hsignals : signals = signalsOf id ((r.live.values.filter (·.ready)).map fun e =>
      ⟨true, e.path.handle, server⟩)) :
    (signals = [true] ∧ ∃ name, standing r.live name = some (id, true)) ∨
      (signals = [] ∧ ∀ name, standing r.live name ≠ some (id, true)) := by
  set ready := r.live.values.filter (·.ready)
  have hreplicate : signals = List.replicate (ready.countP (·.path.id = id)) true := by
    rw [hsignals, signalsOf, List.filter_map, List.map_map, List.countP_eq_length_filter]
    exact List.map_const' ..
  have hcount : ready.countP (·.path.id = id) ≤ 1 := by
    have hle := List.nodup_iff_count_le_one.1 hnum.nodup_liveIds id
    rw [List.count, List.countP_map] at hle
    exact Nat.le_trans List.filter_sublist.countP_le hle
  -- no two live paths have this number, so that it is told at most once
  rcases Nat.le_one_iff_eq_zero_or_eq_one.1 hcount with hzero | hone
  · refine .inr ⟨by rw [hreplicate, hzero, List.replicate_zero], fun name hname => ?_⟩
    obtain ⟨e, hget, heq⟩ := Option.map_eq_some_iff.1 hname
    obtain ⟨hid, hready⟩ := Prod.mk.inj heq
    have hmem : e ∈ ready := List.mem_filter.2
      ⟨(r.live.mem_values_iff e).2 ⟨name, hget⟩, (hknows name e hget).trans hready⟩
    exact List.countP_eq_zero.1 hzero e hmem (decide_eq_true hid)
  · refine .inl ⟨by rw [hreplicate, hone, List.replicate_one], ?_⟩
    obtain ⟨e, he, hid⟩ := List.countP_pos_iff.1 (hone ▸ Nat.one_pos)
    obtain ⟨hmem, hready⟩ := List.mem_filter.1 he
    obtain ⟨name, hget⟩ := (r.live.mem_values_iff e).1 hmem
    refine ⟨name, ?_⟩
    rw [standing_of_get? hget, ← hknows name e hget, hready, of_decide_eq_true hid]

/-- The news of an attachment are about the paths that are ready, once about each. -/
lemma reported_attach {r : Registry} (hnum : r.Numbered) (hknows : r.Knows) (server : String) :
    Reported (standing r.live) ((r.live.values.filter (·.ready)).map fun e =>
      ⟨true, e.path.handle, server⟩) where
  alternates id := by
    rcases signalsOf_attach hnum hknows server id rfl with ⟨heq, -⟩ | ⟨heq, -⟩ <;> simp [heq]
  current name id ready hname := by
    rcases signalsOf_attach hnum hknows server id rfl with ⟨heq, other, hother⟩ | ⟨heq, hnone⟩
    · obtain rfl := hnum.standing_inj hname hother
      rw [heq]
      exact (Prod.mk.inj (Option.some.inj (hother.symm.trans hname))).2
    · rw [heq]
      exact (Bool.eq_false_iff.2 fun hready => hnone name (hready ▸ hname)).symm
  gone id hnone := by
    rcases signalsOf_attach hnum hknows server id rfl with ⟨-, name, hname⟩ | ⟨heq, -⟩
    · exact absurd hname (hnone name true)
    · rw [heq]
      rfl

namespace Attached

variable {Admits : ConfSet → Prop} {server : String} {r : Registry} {since : Nat}
  (h : r.Attached Admits server since)

include h

/-- A registry to which a server is attached is reachable. -/
lemma reachable : r.Reachable Admits := by
  induction h with
  | start h settings authenticator => exact .start h settings authenticator _
  | attach h hopen => exact h.apply _ trivial
  | apply h hop hpaths ih => exact ih.apply _ hop

/-- **An attached server** has been told of all paths. -/
theorem told : Told server since r := by
  induction h with
  | @start confs h settings authenticator =>
    exact (told_start settings confs authenticator (some server)).2.2.2 server rfl
  | @attach r h hopen =>
    have hdrop (more : List HlsNews) : (r.news ++ more).drop r.news.length = more := by simp
    rw [setHls_news hopen]
    refine ⟨rfl, by simp, ?_, ?_⟩
    · rw [hdrop]
      intro n hn
      obtain ⟨e, -, rfl⟩ := List.mem_map.1 hn
      rfl
    · rw [hdrop]
      exact reported_attach h.hosts.numbered h.knows server
  | @apply r since h op hop hpaths ih =>
    have hhosts := h.reachable.hosts
    exact ((hhosts.stages_apply hop hpaths).told hhosts.numbered h.reachable.knows).2.2.2 _ _ ih

/-- A server stays attached while operations concern paths. -/
lemma run {ops : List RegistryOp} (hops : r.PermitsAll Admits ops)
    (hpaths : ∀ op ∈ ops, op.isGlobal = false) : Attached Admits server (r.run ops) since := by
  induction ops generalizing r with
  | nil => exact h
  | cons op rest ih =>
    exact ih (h.apply hops.1 (hpaths op List.mem_cons_self)) hops.2
      fun op' hmem => hpaths op' (List.mem_cons_of_mem op hmem)

end Attached

/-- **Every attached server** has been attached since some time. -/
lemma Reachable.attached {Admits : ConfSet → Prop} {r : Registry} (h : r.Reachable Admits)
    (hopen : r.closed = false) {server : String} (hserver : r.hls = some server) :
    ∃ since, Attached Admits server r since := by
  induction h with
  | @start confs h settings authenticator hls =>
    obtain rfl := (told_start settings confs authenticator hls).2.1.symm.trans hserver
    exact ⟨0, .start h settings authenticator⟩
  | @apply r h op hop ih =>
    have hhosts := h.hosts
    cases hglobal : op.isGlobal with
    | false =>
      obtain ⟨-, hhls, hclosed, -⟩ :=
        (hhosts.stages_apply hop hglobal).told hhosts.numbered h.knows
      obtain ⟨since, hsince⟩ := ih (hclosed.symm.trans hopen) (hhls.symm.trans hserver)
      exact ⟨since, hsince.apply hop hglobal⟩
    | true =>
      rcases apply_of_isGlobal hglobal with
        ⟨hclosed, heq⟩ | ⟨other, news, rfl, heq⟩ | ⟨hclosed, -⟩
      · rw [heq] at hopen
        exact absurd (hopen.symm.trans hclosed) Bool.false_ne_true
      · rw [heq] at hopen hserver
        obtain rfl : other = some server := hserver
        exact ⟨_, .attach h hopen⟩
      · exact absurd (hopen.symm.trans hclosed) Bool.false_ne_true

/-- **What HLS servers are told**, in each period for which one of them is attached to an open
registry: all news of this time are for this server, those of each path alternate and begin with
readiness, and the paths that were ready according to the last of them are the live paths that have
a stream. Whichever server is attached, its period has begun when the registry did or when the
server came.

**Proof sketch.** Each operation is a sequence of stages, and each stage passes on alternating
signals of one path. They begin with what was told of this path last and end with what is true then,
since the registry knows which of its paths are ready. -/
theorem Reachable.news_alternate {Admits : ConfSet → Prop} {r : Registry} (h : r.Reachable Admits)
    (hopen : r.closed = false) :
    (∀ server, r.hls = some server → ∃ since, Attached Admits server r since) ∧
      ∀ server since, Attached Admits server r since →
        r.hls = some server ∧ (∀ n ∈ r.news.drop since, n.server = server) ∧
          ∀ id, Alternates false (signalsOf id (r.news.drop since)) ∧
            ((signalsOf id (r.news.drop since)).getLast? = some true ↔
              ∃ name e, r.live.get? name = some e ∧ e.path.id = id ∧
                e.path.stream.isSome = true) := by
  refine ⟨fun server hserver => h.attached hopen hserver, fun server since hsince => ?_⟩
  obtain ⟨hattached, -, hown, hreported⟩ := hsince.told
  refine ⟨hattached, hown, fun id => ⟨hreported.alternates id, ?_⟩⟩
  rw [← levelAfter_false_eq_true]
  constructor
  · intro hlevel
    by_contra hnone
    have hgone := hreported.gone id fun name ready hname => ?_
    · exact absurd (hgone.symm.trans hlevel) Bool.false_ne_true
    · obtain ⟨e, he, heq⟩ := Option.map_eq_some_iff.1 hname
      obtain ⟨hid, hready⟩ := Prod.mk.inj heq
      have hlevel' := hreported.current name id ready hname
      exact hnone ⟨name, e, he, hid, hready.trans (hlevel'.symm.trans hlevel)⟩
  · rintro ⟨name, e, he, rfl, hready⟩
    exact (hreported.current name e.path.id true (by simp [standing, he, Path.isReady, hready]))

/-- Somebody publishes on a camera. -/
def publishAs (number : Nat) (client : String) : RegistryOp :=
  .request number { name := "cam", publish := true }
    (.publish ⟨number, ⟨"publisher", client⟩⟩ ⟨[⟨.video, "H264"⟩]⟩ false none)

/-- A camera to which somebody publishes when an HLS server is attached. -/
def attachedLate : Registry :=
  ((start {} oneCamera .allowAll none).run [publishAs 1 "a"]).apply (.setHls (some "muxer"))

/-- Somebody else takes over, and leaves. -/
def takenOver : List RegistryOp := [publishAs 2 "b", .unpublish ⟨"cam", 1⟩ ⟨2, ⟨"publisher", "b"⟩⟩]

/-- The server is told that the camera is ready when it comes, that it is not and that it is when
the publishers change, and that it is not in the end. -/
theorem news_attachedLate :
    (attachedLate.run takenOver).Reachable (fun _ => True) ∧
      (attachedLate.run takenOver).closed = false ∧
      Attached (fun _ => True) "muxer" (attachedLate.run takenOver) 0 ∧
      Alternates false (signalsOf 1 (attachedLate.run takenOver).news) ∧
      signalsOf 1 (attachedLate.run takenOver).news = [true, false, true, false] ∧
      ¬ ∃ name e, (attachedLate.run takenOver).live.get? name = some e ∧ e.path.id = 1 ∧
        e.path.stream.isSome = true := by
  have hbegin : (start {} oneCamera .allowAll none).Reachable (fun _ => True) :=
    .start trivial {} .allowAll none
  have hpublished : ((start {} oneCamera .allowAll none).run [publishAs 1 "a"]).Reachable
      (fun _ => True) := hbegin.run ⟨trivial, trivial⟩
  have hattached : Attached (fun _ => True) "muxer" attachedLate 0 :=
    .attach hpublished (by decide)
  have hops : attachedLate.PermitsAll (fun _ => True) takenOver := ⟨trivial, trivial, trivial⟩
  have hran := hattached.run hops (by decide)
  have hopen : (attachedLate.run takenOver).closed = false := by decide
  obtain ⟨-, hnews⟩ := hran.reachable.news_alternate hopen
  obtain ⟨-, -, hsignals⟩ := hnews "muxer" 0 hran
  obtain ⟨halt, hlast⟩ := hsignals 1
  have htold : signalsOf 1 (attachedLate.run takenOver).news = [true, false, true, false] := by
    decide
  refine ⟨hran.reachable, hopen, hran, halt, htold, fun hlive => ?_⟩
  have hready := hlast.2 hlive
  rw [List.drop_zero, htold] at hready
  cases hready

end Registry

end LivePaths
