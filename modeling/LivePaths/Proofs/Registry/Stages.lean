import LivePaths.Proofs.Path.Changes
import LivePaths.Proofs.Registry.Admission

set_option relaxedAutoImplicit false
set_option autoImplicit false

/-!
# The stages of an operation

Each operation of a registry is a sequence of stages, each of which concerns one path at most: a
live path goes through some steps, a path is created, is handed a configuration or is removed, or
something is noted that concerns no path. What every stage keeps hence is kept by all operations,
but for another HLS server and the end, which concern all paths at once.

## Main definitions

* `RegistryOp.Brings` — the messages that an operation brings to paths.
* `Registry.StageWith`, `Registry.StagesWith` — stages that may or may not concern media, and
  sequences of them.
* `Registry.Stage`, `Registry.Stages` — all of them.
* `Registry.Follows` — how a live path goes back to what it was.

## Main results

* `Registry.Stage.numbered` — no stage gives a number twice.
* `Registry.Stage.live_cases` — where the live paths after a stage come from.
* `Registry.Hosts.stagesWith_apply` — operations are sequences of stages.
* `Registry.apply_of_isGlobal` — what the two operations do that are none.
-/

namespace LivePaths

namespace RegistryOp

/-- **Operations on the registry as a whole**: another HLS server, and the end. -/
def isGlobal : RegistryOp → Bool
  | .setHls _ | .close => true
  | _ => false

/-- **The messages that an operation brings** to the path of a handle. A request through the
registry does so only if its client is known already or the authenticator lets it pass. -/
def Brings (authenticator : Authenticator) : RegistryOp → PathHandle → PathMessage → Prop
  | .request number a c, h, m =>
    h.name = a.name ∧ m = c.message number a.query ∧
      (a.skipAuth = true ∨ authenticator a.toAuthRequest = .ok ())
  | .requestOf number handle query c, h, m => h = handle ∧ m = c.message number query
  | .unpublish handle client, h, m => h = handle ∧ m = .removePublisher client
  | .unread handle client, h, m => h = handle ∧ m = .removeReader client
  | .sourceReady number handle d rtp, h, m => h = handle ∧ m = .sourceReady number d rtp
  | .sourceNotReady handle, h, m => h = handle ∧ m = .sourceNotReady
  | .abandon number, _, m => m = .abandon number
  | _, _, _ => False

end RegistryOp

/-! ## Steps of a live path -/

/-- **A message** that a path takes, and what is due then, are a run of possible steps. -/
lemma Path.Reached.deliver_eq_run {p : Path} (h : p.Reached) {m : PathMessage}
    (hm : m.isReport = true → p.conf.hasStaticSource = true) :
    ∃ ss, p.PermitsAll ss ∧ (∀ m', .message m' ∈ ss → m' = m) ∧
      Registry.deliver m p = p.run ss := by
  have hreceived : (p.receive m).Reached := h.step (s := .message m) hm
  obtain ⟨ss, htick, hs, heq⟩ := hreceived.orderly.advance_eq_run (Nat.le_refl _)
  refine ⟨.message m :: ss, ⟨hm, hs⟩, fun m' hmem => ?_, heq⟩
  rcases List.mem_cons.1 hmem with heq | hmem
  · exact PathStep.message.inj heq
  · exact absurd (htick _ hmem) (by simp [PathStep.isTick])

namespace Registry

/-! ## Stages -/

/-- **Stages** of an operation that brings messages to the paths of some handles, and that may or
may not concern media. -/
inductive StageWith (Media : Prop) (Came : PathHandle → PathMessage → Prop) :
    Registry → Registry → Prop where
  /-- Something is noted that concerns no path. -/
  | note (r : Registry) (confs : ConfSet) (questions : List AuthRequest)
      (refusals : List (Nat × PathError)) :
      StageWith Media Came r { r with confs, questions, refusals }
  /-- A live path goes through some steps, and goes on or ends. -/
  | steps {r : Registry} {name : String} {e : RegistryEntry} {ss : List PathStep}
      (he : r.live.get? name = some e) (hname : e.path.name = name)
      (hlive : e.path.ended = false) (hreached : e.path.Reached) (hss : e.path.PermitsAll ss)
      (hm : ∀ m, .message m ∈ ss → Came e.path.handle m)
      (hgoes : e.path.Continues (fun _ => True) (e.path.run ss)) :
      StageWith Media Came r (r.update name fun _ => e.path.run ss)
  | create {r : Registry} {name : String} (found : ConfSet.Found)
      (hnone : r.live.get? name = none) : StageWith Media Came r (r.createPath name found)
  | handOver {r : Registry} {name : String} {e : RegistryEntry} {c : Conf}
      (he : r.live.get? name = some e) (hlive : e.path.ended = false)
      (hc : e.path.conf.canHotReload c = true) : StageWith Media Came r (r.handOver name c)
  | remove {r : Registry} {name : String} {e : RegistryEntry}
      (he : r.live.get? name = some e) (hlive : e.path.ended = false) :
      StageWith Media Came r (r.removePath name)
  /-- A path, live or not, goes on between steps. -/
  | media (r : Registry) (id : Nat) (act : MediaAct) (hmedia : Media) :
      StageWith Media Came r (r.modifyPath id (·.media act))
  /-- Time passes for the paths of the past. -/
  | age (r : Registry) (time : Nat) (hpast : ∀ p ∈ r.past, p.IsOver ∧ p.now ≤ time) :
      StageWith Media Came r { r with past := r.past.map (·.advance time), now := time }

/-- **Sequences of stages** that may or may not concern media. -/
abbrev StagesWith (Media : Prop) (Came : PathHandle → PathMessage → Prop) :
    Registry → Registry → Prop :=
  Relation.ReflTransGen (StageWith Media Came)

/-- **All stages.** -/
abbrev Stage : (PathHandle → PathMessage → Prop) → Registry → Registry → Prop := StageWith True

/-- **Sequences of stages.** -/
abbrev Stages (Came : PathHandle → PathMessage → Prop) : Registry → Registry → Prop :=
  Relation.ReflTransGen (Stage Came)

variable {Media : Prop} {Came : PathHandle → PathMessage → Prop} {r : Registry}

/-- Something that happens to a live path alone depends on nothing else. -/
lemma update_const {name : String} {e : RegistryEntry} (he : r.live.get? name = some e)
    (f : Path → Path) : r.update name f = r.update name fun _ => f e.path := by
  simp [update, he]

/-- **No stage gives a number twice.** -/
lemma Stage.numbered {r' : Registry} (h : Stage Came r r') (hr : r.Numbered) : r'.Numbered := by
  cases h with
  | note confs questions refusals => exact hr.of_same rfl rfl rfl
  | @steps name e ss he hname hlive hreached hss hm hgoes =>
    have hid := hgoes.id_eq
    rcases update_of_continues he (f := fun _ => e.path.run ss) hgoes hlive with
      ⟨-, ready, news, heq⟩ | ⟨-, news, heq⟩
    · rw [heq]
      exact hr.insert_same he hid news
    · rw [heq]
      exact hr.erase he hid news
  | create found hnone => exact hr.createPath _ found
  | handOver he hlive hc =>
    rw [handOver_eq he]
    exact hr.insert_same he (congrArg (·.1) (Path.proceeds_reload _ _).same) r.news
  | remove he hlive =>
    rw [removePath_eq he]
    exact hr.erase he (Path.id_destroy _) _
  | media id act => exact hr.modifyPath id fun p => (p.goesOn_media act).id_eq
  | age time hpast =>
    refine hr.of_same rfl ?_ rfl
    simp only [pastIds, List.map_map]
    exact List.map_congr_left fun p _ => (continues_advance time p).id_eq

/-- **Following**: the path of an entry goes back to that of another one by some steps, which take
messages that have come, or by one change that no message has brought. -/
def Follows (Came : PathHandle → PathMessage → Prop) (name : String)
    (e e' : RegistryEntry) : Prop :=
  e'.path.id = e.path.id ∧
    ((∃ ss, e.path.Reached ∧ e.path.PermitsAll ss ∧
        (∀ m, .message m ∈ ss → Came ⟨name, e.path.id⟩ m) ∧ e'.path = e.path.run ss) ∨
      Path.Change (fun _ => False) e.path e'.path)

/-- A path that stays as it is. -/
lemma follows_of_eq {name : String} {e e' : RegistryEntry} (h : e'.path = e.path) :
    Follows Came name e e' := by
  refine ⟨congrArg Path.id h, .inr ?_⟩
  rw [h]
  exact .goOn ⟨rfl, rfl, rfl⟩

/-- **Live paths after a stage** are new, or they were live before and follow what they were. -/
lemma Stage.live_cases {r' : Registry} (h : Stage Came r r') {name : String} {e' : RegistryEntry}
    (he' : r'.live.get? name = some e') :
    (∃ found, e'.path = Path.create r.settings r.now (r.created + 1) name found) ∨
      ∃ e, r.live.get? name = some e ∧ Follows Came name e e' := by
  have hother (he : r.live.get? name = some e') : ∃ e, r.live.get? name = some e ∧
      Follows Came name e e' := ⟨e', he, follows_of_eq rfl⟩
  cases h with
  | note confs questions refusals => exact .inr (hother he')
  | @steps changed e ss he hname hlive hreached hss hm hgoes =>
    rcases update_of_continues he (f := fun _ => e.path.run ss) hgoes hlive with
      ⟨-, ready, news, heq⟩ | ⟨-, news, heq⟩
    · rw [heq, NameMap.get?_insert] at he'
      split at he'
      · next hchanged =>
        subst hchanged
        obtain rfl := Option.some.inj he'
        have hhandle : e.path.handle = ⟨changed, e.path.id⟩ := by simp [Path.handle, hname]
        exact .inr ⟨e, he, hgoes.id_eq, .inl ⟨ss, hreached, hss, hhandle ▸ hm, rfl⟩⟩
      · exact .inr (hother he')
    · rw [heq, NameMap.get?_erase] at he'
      split at he'
      · cases he'
      · exact .inr (hother he')
  | @create changed found hnone =>
    rw [createPath, NameMap.get?_insert] at he'
    split at he'
    · next hchanged =>
      subst hchanged
      obtain rfl := Option.some.inj he'
      exact .inl ⟨found, rfl⟩
    · exact .inr (hother he')
  | @handOver changed e c he hlive hc =>
    rw [handOver_eq he, NameMap.get?_insert] at he'
    split at he'
    · next hchanged =>
      subst hchanged
      obtain rfl := Option.some.inj he'
      exact .inr ⟨e, he, congrArg (·.1) (Path.proceeds_reload _ _).same,
        .inr (.reload _ c hlive hc)⟩
    · exact .inr (hother he')
  | @remove changed e he hlive =>
    rw [removePath_eq he, NameMap.get?_erase] at he'
    split at he'
    · cases he'
    · exact .inr (hother he')
  | media id act =>
    rw [modifyPath, NameMap.get?_mapValues] at he'
    obtain ⟨e, he, rfl⟩ := Option.map_eq_some_iff.1 he'
    by_cases heq : e.path.id = id
    · have hgoes := e.path.goesOn_media act
      refine .inr ⟨e, he, ?_⟩
      simp only [heq, ↓reduceIte]
      exact ⟨hgoes.id_eq, .inr (.goOn hgoes)⟩
    · exact .inr ⟨e, he, follows_of_eq (if_neg heq)⟩
  | age time hpast => exact .inr (hother he')

/-- What every stage keeps is kept by sequences of stages. -/
lemma Stages.keeps {I : Registry → Prop} (keeps : ∀ r r', Stage Came r r' → I r → I r')
    {r' : Registry} (h : Stages Came r r') (hr : I r) : I r' := by
  induction h with
  | refl => exact hr
  | tail _ hstage ih => exact keeps _ _ hstage ih

/-! ## New paths -/

/-- Several new paths, which differ in their names. -/
lemma stages_foldl_createPath (cs : List Conf) (hn : (cs.map Conf.name).Nodup)
    (hnone : ∀ c ∈ cs, r.live.get? c.name = none) :
    StagesWith Media Came r (cs.foldl (fun r c => r.createPath c.name ⟨c, []⟩) r) := by
  induction cs generalizing r with
  | nil => exact .refl
  | cons c rest ih =>
    obtain ⟨hnot, hrest⟩ := List.nodup_cons.1 hn
    refine .head (.create ⟨c, []⟩ (hnone c List.mem_cons_self)) (ih hrest fun d hd => ?_)
    have hne : c.name ≠ d.name := fun hcd => hnot (List.mem_map.2 ⟨d, hd, hcd.symm⟩)
    rw [createPath, NameMap.get?_insert, if_neg hne]
    exact hnone d (List.mem_cons_of_mem _ hd)

/-- **The missing paths.** -/
lemma stages_createMissing (r : Registry) : StagesWith Media Came r r.createMissing := by
  refine stages_foldl_createPath r.missing ?_ fun c hc => ?_
  · exact r.confs.nodup_names.sublist
      ((List.filter_sublist.trans List.filter_sublist).map Conf.name)
  · simpa [NameMap.contains] using (List.mem_filter.1 hc).2

/-! ## New configurations -/

/-- **One live path** under a new set: it stays as it is, is handed a configuration or is
removed. -/
lemma stages_reloadStep {r₀ : Registry} {new : ConfSet} {name : String} {e : RegistryEntry}
    (hg : r₀.Carries name e) (he : r.live.get? name = some e) :
    StagesWith Media Came r (reloadStep r₀.confs new r name) := by
  unfold reloadStep reloadPath
  simp only [he, fateOf_eq _ hg]
  cases new.find r.settings.matching name with
  | error _ => exact .single (.remove he hg.alive)
  | ok found =>
    dsimp only
    by_cases hmove : e.conf.canHotReload found.conf = true
    · simp only [hmove, ↓reduceIte]
      by_cases heq : found.conf = e.conf
      · simp only [heq, ↓reduceIte]
        exact .refl
      · simp only [heq, ↓reduceIte]
        exact .single (.handOver he hg.alive (hg.conf_eq ▸ hmove))
    · simp only [hmove, Bool.false_eq_true, ↓reduceIte]
      exact .single (.remove he hg.alive)

/-- What becomes of one live path under a new set leaves the others in their places. -/
lemma get?_reloadStep_of_ne {r₀ : Registry} {new : ConfSet} {name other : String}
    {e : RegistryEntry} (hg : r₀.Carries name e) (he : r.live.get? name = some e)
    (hne : name ≠ other) :
    (reloadStep r₀.confs new r name).live.get? other = r.live.get? other := by
  rcases reloadStep_eq new hg he with ⟨e', -, heq⟩ | ⟨-, news, heq⟩
  · rw [heq, NameMap.get?_insert, if_neg hne]
  · rw [heq, NameMap.get?_erase, if_neg hne]

/-- **All live paths** under a new set, one after another. -/
lemma stages_foldl_reloadStep (r₀ : Registry) (new : ConfSet) (es : List (String × RegistryEntry))
    (hn : (es.map (·.1)).Nodup)
    (h : ∀ x ∈ es, r.live.get? x.1 = some x.2 ∧ r₀.Carries x.1 x.2) :
    StagesWith Media Came r ((es.map (·.1)).foldl (reloadStep r₀.confs new) r) := by
  induction es generalizing r with
  | nil => exact .refl
  | cons x rest ih =>
    obtain ⟨he, hg⟩ := h x List.mem_cons_self
    obtain ⟨hnot, hrest⟩ := List.nodup_cons.1 hn
    refine (stages_reloadStep hg he).trans (ih hrest fun y hy => ?_)
    have hne : x.1 ≠ y.1 := fun hxy => hnot (List.mem_map.2 ⟨y, hy, hxy.symm⟩)
    obtain ⟨he', hg'⟩ := h y (List.mem_cons_of_mem _ hy)
    exact ⟨(get?_reloadStep_of_ne hg he hne).trans he', hg'⟩

namespace Hosts

variable {now time : Nat} (h : r.Hosts now time)

include h

/-- **A new set of configurations.** -/
lemma stages_reload {new : ConfSet} {r' : Registry} (hr : r.reload new = .ok r') :
    StagesWith Media Came r r' := by
  have hopen := open_of_reload hr
  obtain rfl := Except.ok.inj ((reload_of_open hopen).symm.trans hr)
  have hmoved : StagesWith Media Came r (r.live.names.foldl (reloadStep r.confs new) r) :=
    stages_foldl_reloadStep r new r.live.entries r.live.nodup_names fun x hx =>
      have hget := (r.live.mem_entries_iff x.1 x.2).1 hx
      ⟨hget, h.carries x.1 x.2 hget⟩
  refine (hmoved.tail ?_).trans (stages_createMissing _)
  exact .note _ new _ _

/-! ## Live paths -/

/-- **A message** to a live path, which it takes. -/
lemma stages_deliver {name : String} {m : PathMessage} (hm : m.isReport = true →
      ∀ e, r.live.get? name = some e → e.path.conf.hasStaticSource = true)
    (hcame : ∀ e, r.live.get? name = some e → e.path.name = name → Came e.path.handle m) :
    StagesWith Media Came r (r.update name (Registry.deliver m)) := by
  cases he : r.live.get? name with
  | none =>
    rw [update_of_none he]
  | some e =>
    have hc := h.carries name e he
    obtain ⟨ss, hss, hmem, heq⟩ := (h.reached name e he).1.deliver_eq_run (m := m)
      fun hreport => hm hreport e he
    have hgoes := continues_deliver m e.path
    rw [heq] at hgoes
    rw [update_const he, heq]
    exact .single (.steps he hc.name_eq hc.alive (h.reached name e he).1 hss
      (fun m' hm' => hmem m' hm' ▸ hcame e he hc.name_eq) hgoes)

/-- A request to a path, or a report of its source. -/
lemma stages_requestOf (number : Nat) {handle : PathHandle} {m : PathMessage}
    (hm : m.isReport = true → handle ∈ r.sourcesOf handle.name) (hcame : Came handle m) :
    StagesWith Media Came r (r.requestOf number handle m) := by
  rcases r.requestOf_cases number handle m with heq | ⟨e, he, hid, heq⟩
  · rw [heq]
    exact .single (.note r r.confs r.questions _)
  · rw [heq]
    refine h.stages_deliver (h.hasStaticSource_of_report hm he hid) fun e' he' hname => ?_
    obtain rfl := Option.some.inj (he.symm.trans he')
    have hhandle : e.path.handle = handle := by simp [Path.handle, hname, hid]
    exact hhandle ▸ hcame

/-- A message to a path, or a report of its source. -/
lemma stages_tell {handle : PathHandle} {m : PathMessage}
    (hm : m.isReport = true → handle ∈ r.sourcesOf handle.name) (hcame : Came handle m) :
    StagesWith Media Came r (r.tell handle m) := by
  rcases r.tell_cases handle m with heq | ⟨e, he, hid, heq⟩
  · rw [heq]
  · rw [heq]
    refine h.stages_deliver (h.hasStaticSource_of_report hm he hid) fun e' he' hname => ?_
    obtain rfl := Option.some.inj (he.symm.trans he')
    have hhandle : e.path.handle = handle := by simp [Path.handle, hname, hid]
    exact hhandle ▸ hcame

/-- Something happens to all live paths, one after another. -/
lemma stages_updateAll {f : Path → Path} (hf : ∀ r' : Registry, r'.Hosts now time → ∀ name,
      StagesWith Media Came r' (r'.update name f) ∧ (r'.update name f).Hosts now time) :
    StagesWith Media Came r (r.updateAll f) := by
  unfold updateAll
  generalize r.live.names = names
  induction names generalizing r with
  | nil => exact .refl
  | cons name rest ih =>
    obtain ⟨hstages, hnext⟩ := hf r h name
    exact hstages.trans (ih hnext)

/-- **Time passes** for a live path. -/
lemma stages_update_advance (name : String) :
    StagesWith Media Came r (r.update name (·.advance time)) := by
  cases he : r.live.get? name with
  | none =>
    rw [update_of_none he]
  | some e =>
    have hc := h.carries name e he
    obtain ⟨hreached, hle⟩ := h.reached name e he
    obtain ⟨ss, htick, hss, heq⟩ := hreached.orderly.advance_eq_run hle
    have hgoes := continues_advance time e.path
    rw [heq] at hgoes
    rw [update_const he, heq]
    refine .single (.steps he hc.name_eq hc.alive hreached hss (fun m hm => ?_) hgoes)
    exact absurd (htick _ hm) (by simp [PathStep.isTick])

end Hosts

/-! ## Operations -/

section Rest

variable {now : Nat} (h : r.Hosts now now)

include h

/-- **A request** through the registry, which reaches a path if it passes all checks. -/
lemma Hosts.stages_request (number : Nat) (a : AccessRequest) (expected : Option Conf)
    {m : PathMessage} (hm : m.isReport = false)
    (hcame : a.skipAuth = true ∨ r.authenticator a.toAuthRequest = .ok () →
      ∀ id, Came ⟨a.name, id⟩ m) :
    StagesWith Media Came r (r.request number a expected m) := by
  unfold Registry.request
  cases hfault : r.fault? a expected with
  | some e =>
    rw [acquire_of_fault hfault]
    exact .single (.note r r.confs _ _)
  | none =>
    obtain ⟨hgranted, found, hopen, hfind, hacquire⟩ := acquire_of_admitted hfault
    rw [h.allAlive.provide_asked] at hacquire
    have hacquired := h.acquire a expected
    have hasked : StagesWith Media Came r (r.asked a expected) :=
      .single (.note r r.confs _ r.refusals)
    rw [hacquire] at hacquired ⊢
    have hpath : StagesWith Media Came r (if r.live.contains a.name then r.asked a expected
        else (r.asked a expected).createPath a.name found) := by
      split
      · exact hasked
      · next hcontains =>
        have hnone : r.live.get? a.name = none := by simpa [NameMap.contains] using hcontains
        exact hasked.tail (.create found hnone)
    refine hpath.trans (hacquired.stages_deliver (fun hreport => ?_) ?_)
    · exact absurd (hm.symm.trans hreport) Bool.false_ne_true
    · intro e _ hname
      have hhandle : e.path.handle = ⟨a.name, e.path.id⟩ := by simp [Path.handle, hname]
      exact hhandle ▸ hcame hgranted e.path.id

/-- **The passing of time.** -/
lemma Hosts.stages_advance {time : Nat} (hle : now ≤ time) :
    StagesWith Media Came r (r.advance time) :=
  ((h.mono hle).stages_updateAll fun _ h' name =>
    ⟨h'.stages_update_advance name, h'.update_advance name⟩).tail
    (.age _ time (h.mono hle).updateAll_advance.gone)

end Rest

/-- **Operations are sequences of stages**, but for those on the registry as a whole; the messages
that come to paths in these stages are those that the operation brings. There is a stage that
concerns media only if the operation does. -/
theorem Hosts.stagesWith_apply {Admits : ConfSet → Prop} (h : r.Hosts r.now r.now)
    {op : RegistryOp} (hop : r.Permits Admits op) (hpaths : op.isGlobal = false)
    (hact : op.isMedia = true → Media) :
    StagesWith Media (op.Brings r.authenticator) r (r.apply op) := by
  by_cases hmedia : op.isMedia = true
  · rcases h.numbered.changesMedia_apply hmedia with heq | ⟨id, act, heq⟩
    · rw [heq]
    · rw [heq]
      exact .single (.media r id act (hact hmedia))
  cases op with
  | request number a c =>
    exact h.stages_request number a _ (isReport_message c number a.query)
      fun hgranted id => ⟨rfl, rfl, hgranted⟩
  | requestOf number handle query c =>
    exact h.stages_requestOf number (fun hreport => by simp [isReport_message] at hreport)
      ⟨rfl, rfl⟩
  | unpublish handle client =>
    exact h.stages_tell (fun hreport => by simp [PathMessage.isReport] at hreport) ⟨rfl, rfl⟩
  | unread handle client =>
    exact h.stages_tell (fun hreport => by simp [PathMessage.isReport] at hreport) ⟨rfl, rfl⟩
  | sourceReady number handle d rtp => exact h.stages_requestOf number (fun _ => hop) ⟨rfl, rfl⟩
  | sourceNotReady handle => exact h.stages_tell (fun _ => hop) ⟨rfl, rfl⟩
  | abandon number =>
    have hnone : (PathMessage.abandon number).isReport = false := rfl
    exact h.stages_updateAll fun _ h' name =>
      ⟨h'.stages_deliver (fun hreport => absurd (hnone.symm.trans hreport) Bool.false_ne_true)
          fun _ _ _ => rfl,
        h'.deliver fun hreport => absurd (hnone.symm.trans hreport) Bool.false_ne_true⟩
  | find a =>
    change StagesWith _ _ r (r.find a).1
    rw [find_eq_asked]
    exact .single (.note r r.confs _ r.refusals)
  | reload confs =>
    change StagesWith _ _ r ((r.reload confs).toOption.getD r)
    cases heq : r.reload confs with
    | error e => exact .refl
    | ok r' => exact h.stages_reload heq
  | sleep ms => exact h.stages_advance (Nat.le_add_right r.now ms)
  | setHls _ | close => cases hpaths
  | write _ _ | subscribe _ | unsubscribe _ | segmentCreate _ _ | segmentComplete _ _ _ =>
    exact absurd rfl hmedia

/-- Operations are sequences of stages, whatever these concern. -/
lemma Hosts.stages_apply {Admits : ConfSet → Prop} (h : r.Hosts r.now r.now) {op : RegistryOp}
    (hop : r.Permits Admits op) (hpaths : op.isGlobal = false) :
    Stages (op.Brings r.authenticator) r (r.apply op) :=
  h.stagesWith_apply hop hpaths fun _ => trivial

/-- **An operation on the registry as a whole** does nothing after the end; before it, another HLS
server leaves the live paths as they are, and the end leaves none. -/
lemma apply_of_isGlobal {op : RegistryOp} (h : op.isGlobal = true) :
    (r.closed = true ∧ r.apply op = r) ∨
      (∃ server news, op = .setHls server ∧ r.apply op = { r with hls := server, news }) ∨
      ((r.apply op).closed = true ∧ (r.apply op).live = .empty) := by
  cases op with
  | setHls server =>
    change (_ ∧ (r.setHls server).toOption.getD r = r) ∨
      (∃ other news, _ ∧ (r.setHls server).toOption.getD r = { r with hls := other, news }) ∨ _
    cases heq : r.setHls server with
    | error e =>
      by_cases hclosed : r.closed = true
      · exact .inl ⟨hclosed, rfl⟩
      · simp [setHls, hclosed] at heq
    | ok r' =>
      obtain ⟨news, rfl⟩ := setHls_eq heq
      exact .inr (.inl ⟨server, news, rfl, rfl⟩)
  | close =>
    by_cases hclosed : r.closed = true
    · exact .inl ⟨hclosed, if_pos hclosed⟩
    · have hclose : r.close = { r with
          live := .empty
          past := r.past ++ r.live.values.map (·.path.destroy)
          closed := true } := if_neg hclosed
      refine .inr (.inr (?_ : r.close.closed = true ∧ r.close.live = .empty))
      rw [hclose]
      exact ⟨rfl, rfl⟩
  | _ => cases h

end Registry

end LivePaths
