import LivePaths.Proofs.Path.Ledger
import LivePaths.Proofs.Path.Lives
import LivePaths.Proofs.Registry.Reload

set_option relaxedAutoImplicit false
set_option autoImplicit false

/-!
# The paths that a registry hosts

Whatever a registry does to its live paths is possible for them: only sources that a path runs
itself report to it, only configurations that it can absorb are handed over, and its timers go off
in their order. All live paths of a registry at rest are hence in states that paths can reach, and
those of the past are over. This needs nothing of the sets of configurations.

## Main definitions

* `Registry.Hosts` — a registry whose live paths are in reached states and not ahead of a time.

## Main results

* `Registry.Hosts.hasStaticSource_of_report` — who reports to a live path is its own source.
* `Registry.Reachable.hosts` — every registry at rest hosts its paths.
-/

namespace LivePaths

/-! ## Steps of the hosted paths -/

namespace Path

variable {p q : Path}

/-- Nothing that a path is known by changes between steps. -/
lemma GoesOn.identity_eq (h : p.GoesOn q) : q.identity = p.identity ∧ q.ended = p.ended := by
  rw [h.same]
  exact ⟨rfl, rfl⟩

lemma GoesOn.id_eq (h : p.GoesOn q) : q.id = p.id := congrArg (·.1) h.identity_eq.1

/-- Nothing starts again between steps. -/
lemma IsOver.goOn (h : p.IsOver) (hq : p.GoesOn q) : q.IsOver :=
  (h.orderly.goOn hq).gone (hq.identity_eq.2.trans h.ended)

/-- After the end time passes in one step. -/
lemma IsOver.advance_eq (h : p.IsOver) (time : Nat) : p.advance time = p.step (.pass time) := by
  have hpass : p.passDeadline time = p := by simp [passDeadline, deadline?, h.ended]
  rw [Path.advance, hpass, hpass]
  rfl

/-- After the end nothing keeps time from passing. -/
lemma IsOver.permits_pass (h : p.IsOver) {time : Nat} (hle : p.now ≤ time) :
    p.Permits (.pass time) :=
  ⟨hle, by simp [deadline?, h.ended]⟩

/-- Time passes after the end. -/
lemma IsOver.advance (h : p.IsOver) (time : Nat) : (p.advance time).IsOver := by
  rw [h.advance_eq]
  exact ⟨h.ended, h.held, h.stream, h.source, h.readyAt, h.closeAt, h.launch⟩

@[simp]
lemma now_destroy (p : Path) : p.destroy.now = p.now := by
  unfold destroy
  split
  · rfl
  · exact now_shutdown _

/-- **A message** that the path takes, and what is due then, lead to a reached state. -/
lemma Reached.deliver (h : p.Reached) {m : PathMessage}
    (hm : m.isReport = true → p.conf.hasStaticSource = true) :
    (Registry.deliver m p).Reached ∧ (Registry.deliver m p).now = p.now := by
  have hreceived : (p.receive m).Reached := h.step (s := .message m) hm
  exact ⟨hreceived.advance (Nat.le_refl _), (now_advance _ _).trans (p.now_receive m)⟩

/-- **A new set of configurations** leads a path that stays to a reached state. -/
lemma Reached.under (h : p.Reached) (he : p.ended = false) {m : Matching} {new : ConfSet}
    (hq : p.under m new = some q) : q.Reached ∧ q.now = p.now := by
  unfold Path.under at hq
  split at hq
  · cases hq
  · next found _ =>
    split at hq
    · next hmove =>
      obtain rfl := Option.some.inj hq
      split
      · exact ⟨h, rfl⟩
      · refine ⟨h.step (s := .reload found.conf) ⟨he, hmove⟩, ?_⟩
        rw [reload_eq]
        rfl
    · cases hq

end Path

/-- **Operations on media**: units, subscribers and segments. -/
def RegistryOp.isMedia : RegistryOp → Bool
  | .write .. | .subscribe _ | .unsubscribe _ | .segmentCreate .. | .segmentComplete .. => true
  | _ => false

namespace Registry

/-- **Changes of media**: at most one path goes on between steps. -/
def ChangesMedia (r r' : Registry) : Prop :=
  r' = r ∨ ∃ id act, r' = r.modifyPath id (·.media act)

/-- The paths after something has happened to one of them between steps. -/
lemma paths_modifyPath (r : Registry) (id : Nat) (f : Path → Path) :
    (r.modifyPath id f).paths = r.paths.map fun p => if p.id = id then f p else p := by
  simp [paths, modifyPath, NameMap.values, NameMap.mapValues]

/-- What happens to the path of a number depends on no other path. -/
lemma modifyPath_congr {r : Registry} {id : Nat} {f g : Path → Path}
    (h : ∀ p ∈ r.paths, p.id = id → f p = g p) : r.modifyPath id f = r.modifyPath id g := by
  have hchange {p : Path} (hp : p ∈ r.paths) :
      (if p.id = id then f p else p) = if p.id = id then g p else p := by
    split
    · next hid => exact h p hp hid
    · rfl
  have hlive : (r.live.mapValues fun e =>
        { e with path := if e.path.id = id then f e.path else e.path }) =
      r.live.mapValues fun e =>
        { e with path := if e.path.id = id then g e.path else e.path } := by
    refine NameMap.ext_get? fun name => ?_
    simp only [NameMap.get?_mapValues]
    cases he : r.live.get? name with
    | none => rfl
    | some e => simp [hchange (mem_paths.2 (.inr ⟨name, e, he, rfl⟩))]
  have hpast : (r.past.map fun p => if p.id = id then f p else p) =
      r.past.map fun p => if p.id = id then g p else p :=
    List.map_congr_left fun p hp => hchange (mem_paths.2 (.inl hp))
  unfold modifyPath
  simp only [hlive, hpast]

/-- **Operations on media** concern one path, which goes on between steps. -/
theorem Numbered.changesMedia_apply {r : Registry} (h : r.Numbered) {op : RegistryOp}
    (hop : op.isMedia = true) : r.ChangesMedia (r.apply op) := by
  -- the last recording of a name is the last one of the path of its number
  have hlast {name : String} {p : Path} {recording : Recording}
      (hp : r.lastRecording? name = some (p, recording)) :
      ∀ q ∈ r.paths, q.id = p.id → q.lastRecording? = some recording := by
    intro q hq hid
    obtain ⟨p', hp', heq⟩ := List.mem_filterMap.1 (List.mem_of_getLast? hp)
    split at heq
    · obtain ⟨recording', hrecording, heq⟩ := Option.map_eq_some_iff.1 heq
      obtain ⟨rfl, rfl⟩ := Prod.mk.inj heq
      obtain rfl : q = p' := List.inj_on_of_nodup_map h.nodup_ids hq hp' hid
      exact hrecording
    · cases heq
  cases op with
  | write stream u =>
    change r.ChangesMedia (r.write stream u).1
    unfold Registry.write
    split
    · exact .inl rfl
    · exact .inr ⟨stream.path, .write stream.serial u, rfl⟩
  | subscribe stream =>
    change r.ChangesMedia (((r.subscribe? stream).map (·.1)).getD r)
    cases hsubscribe : r.subscribe? stream with
    | none => exact .inl rfl
    | some x =>
      obtain ⟨s, hs, hx⟩ := Option.bind_eq_some_iff.1 hsubscribe
      obtain ⟨⟨subscribed, position⟩, hsub, hx⟩ := Option.bind_eq_some_iff.1 hx
      obtain rfl := Option.some.inj hx
      refine .inr ⟨stream.path, .subscribe stream.serial, ?_⟩
      change r.modifyPath stream.path (·.modifyStream stream.serial fun _ => subscribed) = _
      refine modifyPath_congr fun p hp hid => ?_
      have hpath : r.path? stream.path = some p := hid ▸ h.path?_eq hp
      have hstream : p.stream? stream.serial = some s := by simpa [stream?, hpath] using hs
      have hafter : s.subscribed = subscribed := by simp [Stream.subscribed, hsub]
      exact p.modifyStream_congr hstream hafter.symm
  | unsubscribe stream => exact .inr ⟨stream.path, .unsubscribe stream.serial, rfl⟩
  | segmentCreate name segment =>
    change r.ChangesMedia ((r.segmentCreated? name segment).getD r)
    cases hcreated : r.segmentCreated? name segment with
    | none => exact .inl rfl
    | some r' =>
      obtain ⟨⟨p, recording⟩, hp, heq⟩ := Option.bind_eq_some_iff.1 hcreated
      obtain rfl := Option.some.inj heq
      refine .inr ⟨p.id, .segmentCreate segment, ?_⟩
      rw [Option.getD_some]
      refine modifyPath_congr fun q hq hid => ?_
      simp [Path.media, hlast hp q hq hid]
  | segmentComplete name segment ms =>
    change r.ChangesMedia ((r.segmentComplete? name segment ms).getD r)
    cases hcomplete : r.segmentComplete? name segment ms with
    | none => exact .inl rfl
    | some r' =>
      obtain ⟨⟨p, recording⟩, hp, heq⟩ := Option.bind_eq_some_iff.1 hcomplete
      obtain rfl := Option.some.inj heq
      refine .inr ⟨p.id, .segmentComplete segment ms, ?_⟩
      rw [Option.getD_some]
      refine modifyPath_congr fun q hq hid => ?_
      simp [Path.media, hlast hp q hq hid]
  | _ => cases hop

/-! ## Hosting -/

/-- **Hosting**: the registry has its clock at a time, its live paths carry the configurations of
the set and are in reached states, its past paths are over, none is ahead of another time, and each
path has a number of its own. -/
structure Hosts (r : Registry) (now time : Nat) : Prop where
  clock : r.now = now
  carries : ∀ name e, r.live.get? name = some e → r.Carries name e
  reached : ∀ name e, r.live.get? name = some e → e.path.Reached ∧ e.path.now ≤ time
  gone : ∀ p ∈ r.past, p.IsOver ∧ p.now ≤ time
  numbered : r.Numbered
  empty : r.closed = true → r.live = .empty

namespace Hosts

variable {r : Registry} {now time : Nat} (h : r.Hosts now time)

include h

/-- Every live path is alive. -/
lemma alive {name : String} {e : RegistryEntry} (he : r.live.get? name = some e) :
    e.path.ended = false :=
  (h.carries name e he).alive

/-- No live path is leaving. -/
lemma allAlive : r.AllAlive :=
  fun _ _ => h.alive

/-- A closed registry hosts no path. -/
lemma open_of_live {name : String} {e : RegistryEntry} (he : r.live.get? name = some e) :
    r.closed = false := by
  by_contra hc
  simp [h.empty (by simpa using hc)] at he

/-- A later time will do. -/
lemma mono {later : Nat} (hle : time ≤ later) : r.Hosts now later :=
  ⟨h.clock, h.carries, fun name e he => ⟨(h.reached name e he).1,
    Nat.le_trans (h.reached name e he).2 hle⟩,
    fun p hp => ⟨(h.gone p hp).1, Nat.le_trans (h.gone p hp).2 hle⟩, h.numbered, h.empty⟩

/-- **Who reports to a live path** is a source that it runs itself: the path that has created this
source has the same number. -/
lemma hasStaticSource_of_report {handle : PathHandle} {m : PathMessage}
    (hm : m.isReport = true → handle ∈ r.sourcesOf handle.name) {e : RegistryEntry}
    (he : r.live.get? handle.name = some e) (hid : e.path.id = handle.id) :
    m.isReport = true → ∀ e', r.live.get? handle.name = some e' →
      e'.path.conf.hasStaticSource = true := by
  intro hreport e' he'
  obtain rfl := Option.some.inj (he.symm.trans he')
  obtain ⟨p, hp, rfl⟩ := List.mem_map.1 (hm hreport)
  obtain ⟨hmem, hcreated⟩ := List.mem_filter.1 hp
  have hlive : e.path ∈ r.paths := mem_paths.2 (.inr ⟨_, e, he, rfl⟩)
  obtain rfl : e.path = p := List.inj_on_of_nodup_map h.numbered.nodup_ids hlive hmem hid
  exact (h.reached _ e he).1.hasStaticSource_of_created (h.alive he)
    (Bool.and_eq_true_iff.1 hcreated).2

/-- Changes that concern no path. -/
lemma of_same {r' : Registry} (hlive : r'.live = r.live) (hconfs : r'.confs = r.confs)
    (hclosed : r'.closed = r.closed) (hpast : r'.past = r.past) (hcreated : r'.created = r.created)
    (hnow : r'.now = r.now) : r'.Hosts now time where
  clock := hnow.trans h.clock
  carries name e he := (h.carries name e (hlive ▸ he)).of_same hconfs rfl rfl rfl
  reached name e he := h.reached name e (hlive ▸ he)
  gone p hp := h.gone p (hpast ▸ hp)
  numbered := h.numbered.of_same (by unfold liveId; rw [hlive]) (by unfold pastIds; rw [hpast])
    hcreated
  empty hc := hlive ▸ h.empty (hclosed ▸ hc)

lemma refuse (number : Nat) (e : PathError) : (r.refuse number e).Hosts now time :=
  h.of_same rfl rfl rfl rfl rfl rfl

/-! ## What happens to live paths -/

/-- **Something happens to a live path** that leads to a reached state. -/
theorem update {name : String} {f : Path → Path}
    (hf : ∀ p : Path, p.Continues (fun _ => True) (f p))
    (hr : ∀ e, r.live.get? name = some e → (f e.path).Reached ∧ (f e.path).now ≤ time) :
    (r.update name f).Hosts now time := by
  have hnum : (r.update name f).Numbered := h.numbered.update hf fun e he => h.alive he
  cases hget : r.live.get? name with
  | none => rwa [update_of_none hget]
  | some e =>
    rcases update_of_continues hget (hf e.path) (h.alive hget) with
      ⟨hlive, ready, news, heq⟩ | ⟨hended, news, heq⟩
    · rw [heq] at hnum ⊢
      refine ⟨h.clock, fun other e' he' => ?_, fun other e' he' => ?_, h.gone, hnum, fun hc => ?_⟩
      · rw [NameMap.get?_insert] at he'
        split at he'
        · next hname =>
          obtain rfl := hname
          obtain rfl := Option.some.inj he'
          exact (h.carries _ e hget).of_same rfl (hf e.path).same
            (hlive.trans (h.alive hget).symm) rfl
        · exact (h.carries other e' he').of_same rfl rfl rfl rfl
      · rw [NameMap.get?_insert] at he'
        split at he'
        · obtain rfl := Option.some.inj he'
          exact hr e hget
        · exact h.reached other e' he'
      · exact absurd (show r.closed = true from hc) (by simp [h.open_of_live hget])
    · rw [heq] at hnum ⊢
      refine ⟨h.clock, fun other e' he' => ?_, fun other e' he' => ?_, ?_, hnum, fun hc => ?_⟩
      · rw [NameMap.get?_erase] at he'
        split at he'
        · cases he'
        · exact (h.carries other e' he').of_same rfl rfl rfl rfl
      · rw [NameMap.get?_erase] at he'
        split at he'
        · cases he'
        · exact h.reached other e' he'
      · refine List.forall_mem_append.2 ⟨h.gone, ?_⟩
        simpa using And.intro ((hr e hget).1.orderly.gone hended) (hr e hget).2
      · exact absurd (show r.closed = true from hc) (by simp [h.open_of_live hget])

/-- **A message** to a live path, which it takes. -/
lemma deliver {name : String} {m : PathMessage} (hm : m.isReport = true →
    ∀ e, r.live.get? name = some e → e.path.conf.hasStaticSource = true) :
    (r.update name (deliver m)).Hosts now time := by
  refine h.update (continues_deliver m) fun e he => ?_
  obtain ⟨hreached, hle⟩ := h.reached name e he
  obtain ⟨hnext, hnow⟩ := hreached.deliver (m := m) fun hreport => hm hreport e he
  exact ⟨hnext, hnow ▸ hle⟩

/-- A request to a path, or a report of its source. -/
lemma requestOf (number : Nat) {handle : PathHandle} {m : PathMessage}
    (hm : m.isReport = true → handle ∈ r.sourcesOf handle.name) :
    (r.requestOf number handle m).Hosts now time := by
  rcases r.requestOf_cases number handle m with heq | ⟨e, he, hid, heq⟩
  · exact heq ▸ h.refuse number _
  · exact heq ▸ h.deliver (h.hasStaticSource_of_report hm he hid)

/-- A message to a path, or a report of its source. -/
lemma tell {handle : PathHandle} {m : PathMessage}
    (hm : m.isReport = true → handle ∈ r.sourcesOf handle.name) :
    (r.tell handle m).Hosts now time := by
  rcases r.tell_cases handle m with heq | ⟨e, he, hid, heq⟩
  · rwa [heq]
  · exact heq ▸ h.deliver (h.hasStaticSource_of_report hm he hid)

/-- A client gives up its request. -/
lemma abandon (number : Nat) : (r.abandon number).Hosts now time :=
  List.foldlRecOn (motive := (Registry.Hosts · now time)) _ _ h fun _ hb _ _ =>
    hb.deliver fun hreport => by simp [PathMessage.isReport] at hreport

/-- Time passes for a live path. -/
lemma update_advance (name : String) : (r.update name (·.advance time)).Hosts now time :=
  h.update (continues_advance time) fun e he =>
    have hreached := h.reached name e he
    ⟨hreached.1.advance hreached.2, Nat.le_of_eq (Path.now_advance _ _)⟩

/-- Time passes for all live paths. -/
lemma updateAll_advance : (r.updateAll (·.advance time)).Hosts now time :=
  List.foldlRecOn (motive := (Registry.Hosts · now time)) _ _ h fun _ hb name _ =>
    hb.update_advance name

/-- What happens to a path between steps. -/
lemma modifyPath (id : Nat) (act : MediaAct) :
    (r.modifyPath id (·.media act)).Hosts now time := by
  have hgo (p : Path) : p.GoesOn (if p.id = id then p.media act else p) := by
    split
    · exact p.goesOn_media act
    · exact ⟨rfl, rfl, rfl⟩
  have hget {name : String} {e' : RegistryEntry}
      (he' : (r.modifyPath id (·.media act)).live.get? name = some e') :
      ∃ e q, r.live.get? name = some e ∧ e.path.GoesOn q ∧ e' = { e with path := q } := by
    obtain ⟨e, he, rfl⟩ := Option.map_eq_some_iff.1 ((r.live.get?_mapValues name _).symm.trans he')
    exact ⟨e, _, he, hgo e.path, rfl⟩
  refine ⟨h.clock, fun name e' he' => ?_, fun name e' he' => ?_, fun p hp => ?_,
    h.numbered.modifyPath id fun p => (p.goesOn_media act).id_eq, fun hc => ?_⟩
  · obtain ⟨e, q, he, hq, rfl⟩ := hget he'
    exact (h.carries name e he).of_same rfl hq.identity_eq.1 hq.identity_eq.2 rfl
  · obtain ⟨e, q, he, hq, rfl⟩ := hget he'
    obtain ⟨hreached, hle⟩ := h.reached name e he
    exact ⟨hreached.goOn hq, hq.now_eq ▸ hle⟩
  · obtain ⟨q, hq, rfl⟩ := List.mem_map.1 hp
    obtain ⟨hover, hle⟩ := h.gone q hq
    exact ⟨hover.goOn (hgo q), (hgo q).now_eq ▸ hle⟩
  · have hempty := h.empty hc
    unfold Registry.modifyPath
    rw [hempty]
    rfl

/-! ## The end -/

lemma close : r.close.Hosts now time := by
  have hnum := h.numbered.close
  unfold Registry.close at hnum ⊢
  split
  · exact h
  · rw [if_neg ‹_›] at hnum
    refine ⟨h.clock, fun name e he => by simp at he, fun name e he => by simp at he,
      List.forall_mem_append.2 ⟨h.gone, fun p hp => ?_⟩, hnum, fun _ => rfl⟩
    obtain ⟨e, he, rfl⟩ := List.mem_map.1 hp
    obtain ⟨name, hget⟩ := (r.live.mem_values_iff e).1 he
    exact ⟨Path.isOver_destroy (h.alive hget), e.path.now_destroy ▸ (h.reached name e hget).2⟩

end Hosts

/-! ## New paths -/

section Rest

variable {r : Registry} {now : Nat} (h : r.Hosts now now)

include h

/-- **A new path** under a configuration of the set. -/
lemma Hosts.createPath {name : String} {found : ConfSet.Found} (hopen : r.closed = false)
    (hfind : r.governing name = .ok found) : (r.createPath name found).Hosts now now := by
  obtain ⟨hsame, hended, -⟩ := Path.create_history r.settings r.now (r.created + 1) name found
  have hget {other : String} {e' : RegistryEntry}
      (he' : (r.createPath name found).live.get? other = some e') :
      (name = other ∧ e' = {
          path := Path.create r.settings r.now (r.created + 1) name found, conf := found.conf }) ∨
        r.live.get? other = some e' := by
    rw [Registry.createPath, NameMap.get?_insert] at he'
    split at he'
    · next hname => exact .inl ⟨hname, (Option.some.inj he').symm⟩
    · exact .inr he'
  refine ⟨h.clock, fun other e' he' => ?_, fun other e' he' => ?_, h.gone,
    h.numbered.createPath name found, fun hc => ?_⟩
  · rcases hget he' with ⟨rfl, rfl⟩ | he'
    · exact ⟨congrArg (·.2.1) hsame, hended, congrArg (·.2.2.1) hsame, ConfSet.get?_of_find hfind⟩
    · exact (h.carries other e' he').of_same rfl rfl rfl rfl
  · rcases hget he' with ⟨rfl, rfl⟩ | he'
    · exact ⟨.create .., Nat.le_of_eq ((Path.now_create ..).trans h.clock)⟩
    · exact h.reached other e' he'
  · exact absurd (show r.closed = true from hc) (by simp [hopen])

/-- **The missing paths.** -/
lemma Hosts.createMissing (hopen : r.closed = false) : r.createMissing.Hosts now now := by
  have hnum := h.numbered.createMissing
  obtain ⟨live, heq, -, hlive⟩ := r.createMissing_eq
  rw [heq] at hnum ⊢
  refine ⟨h.clock, fun name e he => ?_, fun name e he => ?_, h.gone, hnum, fun hc => ?_⟩
  · rcases hlive name e he with he | ⟨c, hc, rfl, id, rfl⟩
    · exact (h.carries name e he).of_same rfl rfl rfl rfl
    · obtain ⟨hsame, hended, -⟩ := Path.create_history r.settings r.now id c.name ⟨c, []⟩
      have hfixed : c ∈ r.confs.fixed := (List.mem_filter.1 hc).1
      exact ⟨congrArg (·.2.1) hsame, hended, congrArg (·.2.2.1) hsame,
        (ConfSet.mem_fixed.1 hfixed).1⟩
  · rcases hlive name e he with he | ⟨c, -, rfl, id, rfl⟩
    · exact h.reached name e he
    · exact ⟨.create .., Nat.le_of_eq ((Path.now_create ..).trans h.clock)⟩
  · exact absurd (show r.closed = true from hc) (by simp [hopen])

/-! ## Operations -/

/-- The path for a request. -/
lemma Hosts.acquire (a : AccessRequest) (expected : Option Conf) :
    (r.acquire a expected).1.Hosts now now := by
  have hasked (questions : List AuthRequest) : { r with questions }.Hosts now now :=
    h.of_same rfl rfl rfl rfl rfl rfl
  obtain ⟨questions, ⟨e, heq⟩ | ⟨-, heq⟩ | ⟨found, hfind, hopen, -, heq⟩⟩ :=
    acquire_cases h.allAlive a expected
  · exact heq ▸ hasked questions
  · exact heq ▸ hasked questions
  · exact heq ▸ (hasked questions).createPath hopen hfind

/-- **A request** through the registry. -/
lemma Hosts.request (number : Nat) (a : AccessRequest) (expected : Option Conf) {m : PathMessage}
    (hm : m.isReport = false) : (r.request number a expected m).Hosts now now := by
  have hacquired := h.acquire a expected
  unfold Registry.request
  split
  · next heq => exact (heq ▸ hacquired).refuse number _
  · next heq => exact (heq ▸ hacquired).deliver fun hreport => by simp [hm] at hreport

/-- **A new set of configurations**: each live path is handed what it can absorb, or ends. -/
theorem Hosts.reload {new : ConfSet} {r' : Registry} (hr : r.reload new = .ok r') :
    r'.Hosts now now := by
  have hopen := open_of_reload hr
  obtain ⟨live, news, hreload, hget, hnum⟩ := reload_eq h.carries hopen new
  obtain rfl := Except.ok.inj (hreload.symm.trans hr)
  have hstays (name : String) (e' : RegistryEntry) (he' : live.get? name = some e') :
      ∃ e p, r.live.get? name = some e ∧ e.path.under r.settings.matching new = some p ∧
        e' = { e with path := p, conf := p.conf } := by
    rw [hget] at he'
    obtain ⟨e, he, hunder⟩ := Option.bind_eq_some_iff.1 he'
    obtain ⟨p, hp, rfl⟩ := Option.map_eq_some_iff.1 hunder
    exact ⟨e, p, he, hp, rfl⟩
  refine Hosts.createMissing ⟨h.clock, fun name e' he' => ?_, fun name e' he' => ?_, ?_,
    hnum h.numbered, fun hc => ?_⟩ hopen
  · obtain ⟨e, p, he, hp, rfl⟩ := hstays name e' he'
    obtain ⟨⟨captures, hfind⟩, -, hname, hended⟩ := Path.under_spec hp
    have hc := h.carries name e he
    exact ⟨hname.trans hc.name_eq, hended.trans hc.alive, rfl, ConfSet.get?_of_find hfind⟩
  · obtain ⟨e, p, he, hp, rfl⟩ := hstays name e' he'
    obtain ⟨hreached, hle⟩ := h.reached name e he
    obtain ⟨hnext, hnow⟩ := hreached.under (h.alive he) hp
    exact ⟨hnext, hnow ▸ hle⟩
  · refine List.forall_mem_append.2 ⟨h.gone, fun p hp => ?_⟩
    obtain ⟨e, he, rfl⟩ := List.mem_map.1 hp
    obtain ⟨name, hget⟩ := (r.live.mem_values_iff e).1 (List.mem_filter.1 he).1
    exact ⟨Path.isOver_destroy (h.alive hget), e.path.now_destroy ▸ (h.reached name e hget).2⟩
  · exact absurd (show r.closed = true from hc) (by simp [hopen])

/-- **Passing of time.** -/
lemma Hosts.advance {time : Nat} (hle : now ≤ time) : (r.advance time).Hosts time time := by
  obtain ⟨-, hcarries, hreached, hgone, hnum, hempty⟩ := (h.mono hle).updateAll_advance
  have hpast : ((r.updateAll (·.advance time)).past.map (·.advance time)).map (·.id) =
      (r.updateAll (·.advance time)).pastIds := by
    rw [List.map_map]
    exact List.map_congr_left fun p _ => (continues_advance time p).id_eq
  refine ⟨rfl, fun name e he => (hcarries name e he).of_same rfl rfl rfl rfl, hreached,
    fun p hp => ?_, hnum.of_same rfl hpast rfl, hempty⟩
  obtain ⟨q, hq, rfl⟩ := List.mem_map.1 hp
  exact ⟨(hgone q hq).1.advance time, Nat.le_of_eq (Path.now_advance _ _)⟩

end Rest

/-! ## Every registry at rest -/

/-- What clients ask is no report of a source. -/
lemma isReport_message (c : ClientRequest) (number : Nat) (query : String) :
    (c.message number query).isReport = false := by
  cases c <;> rfl

/-- **One operation** keeps a registry hosting; nothing but sleep moves its clock. -/
theorem Hosts.apply {Admits : ConfSet → Prop} {r : Registry} (h : r.Hosts r.now r.now)
    {op : RegistryOp} (hop : r.Permits Admits op) :
    (r.apply op).Hosts (r.apply op).now (r.apply op).now := by
  have hrest {r' : Registry} (h' : r'.Hosts r.now r.now) : r'.Hosts r'.now r'.now := by
    rwa [h'.clock]
  by_cases hmedia : op.isMedia = true
  · refine hrest ?_
    rcases h.numbered.changesMedia_apply hmedia with heq | ⟨id, act, heq⟩
    · rwa [heq]
    · rw [heq]
      exact h.modifyPath id act
  cases op with
  | request number access c =>
    exact hrest (h.request number access _ (isReport_message c number access.query))
  | requestOf number handle query c =>
    exact hrest (h.requestOf number fun hreport => by simp [isReport_message] at hreport)
  | unpublish handle client =>
    exact hrest (h.tell fun hreport => by simp [PathMessage.isReport] at hreport)
  | unread handle client =>
    exact hrest (h.tell fun hreport => by simp [PathMessage.isReport] at hreport)
  | sourceReady number handle d rtp => exact hrest (h.requestOf number fun _ => hop)
  | sourceNotReady handle => exact hrest (h.tell fun _ => hop)
  | abandon number => exact hrest (h.abandon number)
  | find access =>
    obtain ⟨questions, heq⟩ := r.find_eq access
    refine hrest (?_ : (r.find access).1.Hosts r.now r.now)
    exact heq ▸ h.of_same rfl rfl rfl rfl rfl rfl
  | reload confs =>
    refine hrest (?_ : ((r.reload confs).toOption.getD r).Hosts r.now r.now)
    cases heq : r.reload confs with
    | error e => exact h
    | ok r' => exact h.reload heq
  | setHls server =>
    refine hrest (?_ : ((r.setHls server).toOption.getD r).Hosts r.now r.now)
    cases heq : r.setHls server with
    | error e => exact h
    | ok r' =>
      obtain ⟨news, rfl⟩ := setHls_eq heq
      exact h.of_same rfl rfl rfl rfl rfl rfl
  | sleep ms => exact h.advance (Nat.le_add_right r.now ms)
  | close => exact hrest h.close
  | write _ _ | subscribe _ | unsubscribe _ | segmentCreate _ _ | segmentComplete _ _ _ =>
    exact absurd rfl hmedia

/-- Runs keep a registry hosting. -/
lemma Hosts.run {Admits : ConfSet → Prop} {r : Registry} (h : r.Hosts r.now r.now)
    {ops : List RegistryOp} (hops : r.PermitsAll Admits ops) :
    (r.run ops).Hosts (r.run ops).now (r.run ops).now := by
  induction ops generalizing r with
  | nil => exact h
  | cons op rest ih => exact ih (h.apply hops.1) hops.2

/-- A new registry hosts its paths. -/
lemma hosts_start (settings : PathSettings) (confs : ConfSet) (authenticator : Authenticator)
    (hls : Option String) : (start settings confs authenticator hls).Hosts
      (start settings confs authenticator hls).now
      (start settings confs authenticator hls).now := by
  have hstart : (start settings confs authenticator hls).Hosts 0 0 :=
    Hosts.createMissing ⟨rfl, fun name e he => by simp at he, fun name e he => by simp at he,
      fun p hp => by simp at hp, numbered_empty settings confs authenticator hls,
      fun hc => by simp at hc⟩ rfl
  rwa [hstart.clock]

/-- **Every registry at rest** hosts its paths.

**Proof sketch.** Each operation leads a live path through steps that are possible for it, or into
what can happen between steps. -/
theorem Reachable.hosts {Admits : ConfSet → Prop} {r : Registry} (h : r.Reachable Admits) :
    r.Hosts r.now r.now := by
  induction h with
  | start _ settings authenticator hls => exact hosts_start settings _ authenticator hls
  | apply _ op hop ih => exact ih.apply hop

end Registry

end LivePaths
