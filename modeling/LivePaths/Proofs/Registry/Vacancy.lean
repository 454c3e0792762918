import Mathlib
import LivePaths.Proofs.Path.Vacancy
import LivePaths.Proofs.Registry.Hosting

set_option relaxedAutoImplicit false
set_option autoImplicit false

/-!
# Vacant paths of a registry

A path that a pattern governs leaves its registry in the operation that takes away its last use.
The one exception is a new set of configurations in which a pattern governs a path that was vacant
without one: the path is handed this configuration and stays, until a request comes to it.

## Main definitions

* `Registry.Occupied` — registries without an unused live path.
* `Registry.Exposes` — the sets of configurations after which an unused path is live.

## Main results

* `Registry.Hosts.occupied_apply_iff` — which operations keep a registry occupied.
* `Registry.occupied_run_iff` — a registry stays occupied exactly if no operation exposes a path.
-/

namespace LivePaths

/-! ## Use of one path -/

namespace Path

variable {p q : Path}

/-- Nobody comes or goes between steps. -/
lemma GoesOn.isUnused_eq (h : p.GoesOn q) : q.isUnused = p.isUnused := by
  rw [h.same]
  rfl

/-- What clients ask of a path that is reached leaves it used, whether it was used before or not. -/
lemma Reached.isUsed_deliver_message (h : p.Reached) (he : p.ended = false) (c : ClientRequest)
    (number : Nat) (query : String) :
    (Registry.deliver (c.message number query) p).IsUsed := by
  have hm : (c.message number query).isReport = true → p.conf.hasStaticSource = true := fun hr => by
    simp [Registry.isReport_message] at hr
  have hreceived : (p.receive (c.message number query)).Reached :=
    h.step (s := .message (c.message number query)) hm
  refine hreceived.orderly.isUsed_advance ?_ (Nat.le_refl _)
  refine (h.orderly.live he).isUsed_receive he hm ?_ ?_ <;> cases c <;> simp [ClientRequest.message]

/-- A message that the path takes keeps it used. -/
lemma Reached.isUsed_deliver (h : p.Reached) (hu : p.IsUsed) {m : PathMessage}
    (hm : m.isReport = true → p.conf.hasStaticSource = true) :
    (Registry.deliver m p).IsUsed := by
  have hreceived : (p.receive m).Reached := h.step (s := .message m) hm
  refine hreceived.orderly.isUsed_advance ?_ (Nat.le_refl _)
  exact (h.orderly.isUsed_step_iff hu (s := .message m) hm).2 not_false

/-- **A new set of configurations** leaves a path that stays vacant or not, under what governs it
from now on. -/
lemma isUnused_under {m : Matching} {new : ConfSet} (h : p.under m new = some q) :
    ∃ found, new.find m p.name = .ok found ∧ p.conf.canHotReload found.conf = true ∧
      q.isUnused = (found.conf.hasPattern && p.isVacant) := by
  unfold Path.under at h
  split at h
  · cases h
  · next found hfind =>
    split at h
    · next hmove =>
      refine ⟨found, hfind, hmove, ?_⟩
      obtain rfl := Option.some.inj h
      split
      · next heq => rw [heq, isUnused_eq]
      · exact p.isUnused_reload found.conf
    · cases h

/-- A path whose configuration has no pattern is used. -/
lemma isUnused_create_of_fixed (settings : PathSettings) (now id : Nat) {c : Conf}
    (hc : c.hasPattern = false) : (create settings now id c.name ⟨c, []⟩).isUnused = false := by
  simp [isUnused, create_eq, hc]

end Path

namespace Registry

/-! ## Occupied registries -/

/-- **Occupied registries**: no live path is unused. -/
def Occupied (r : Registry) : Prop :=
  ∀ name e, r.live.get? name = some e → e.path.isUnused = false

/-- **Operations that expose a path**: a new set of configurations in which a pattern governs the
name of a live path that is vacant and can move there. -/
def Exposes (r : Registry) : RegistryOp → Prop
  | .reload new => ∃ name e found, r.live.get? name = some e ∧
      new.find r.settings.matching name = .ok found ∧
      e.path.conf.canHotReload found.conf = true ∧ found.conf.hasPattern = true ∧
      e.path.isVacant = true
  | _ => False

/-- The missing paths have no pattern. -/
lemma occupied_createMissing_iff (r : Registry) : r.createMissing.Occupied ↔ r.Occupied := by
  obtain ⟨live, heq, hstays, hlive⟩ := r.createMissing_eq
  rw [heq]
  constructor
  · exact fun ho name e he => ho name e (hstays name e he)
  · intro ho name e he
    rcases hlive name e he with he | ⟨c, hc, rfl, id, rfl⟩
    · exact ho name e he
    · have hfixed := ConfSet.mem_fixed.1 (List.mem_filter.1 hc).1
      exact Path.isUnused_create_of_fixed _ _ _ hfixed.2

/-- **Something happens to a live path**: the registry is occupied afterwards if the path is used
then and the others were used before. -/
lemma Hosts.occupied_update {r : Registry} {now time : Nat} (h : r.Hosts now time) {name : String}
    {f : Path → Path} (hf : ∀ p : Path, p.Continues (fun _ => True) (f p))
    (hothers : ∀ other e, name ≠ other → r.live.get? other = some e → e.path.isUnused = false)
    (hused : ∀ e, r.live.get? name = some e → (f e.path).IsUsed) : (r.update name f).Occupied := by
  intro other e' he'
  rcases get?_update hf (fun e he => h.alive he) he' with ⟨hne, he⟩ | ⟨-, e, ready, he, rfl, hlive⟩
  · exact hothers other e' hne he
  · exact hused e he hlive

section Operations

variable {r : Registry} {now time : Nat} (h : r.Hosts now time) (ho : r.Occupied)

include h ho

/-- A message to a live path, which it takes. -/
lemma Hosts.occupied_deliver {name : String} {m : PathMessage} (hm : m.isReport = true →
    ∀ e, r.live.get? name = some e → e.path.conf.hasStaticSource = true) :
    (r.update name (Registry.deliver m)).Occupied :=
  h.occupied_update (continues_deliver m) (fun other e _ he => ho other e he) fun e he =>
    (h.reached name e he).1.isUsed_deliver (fun _ => ho name e he) fun hr => hm hr e he

lemma Hosts.occupied_requestOf (number : Nat) {handle : PathHandle} {m : PathMessage}
    (hm : m.isReport = true → handle ∈ r.sourcesOf handle.name) :
    (r.requestOf number handle m).Occupied := by
  rcases r.requestOf_cases number handle m with heq | ⟨e, he, hid, heq⟩
  · exact heq ▸ ho
  · exact heq ▸ h.occupied_deliver ho (h.hasStaticSource_of_report hm he hid)

lemma Hosts.occupied_tell {handle : PathHandle} {m : PathMessage}
    (hm : m.isReport = true → handle ∈ r.sourcesOf handle.name) : (r.tell handle m).Occupied := by
  rcases r.tell_cases handle m with heq | ⟨e, he, hid, heq⟩
  · rwa [heq]
  · exact heq ▸ h.occupied_deliver ho (h.hasStaticSource_of_report hm he hid)

lemma Hosts.occupied_abandon (number : Nat) : (r.abandon number).Occupied := by
  have hall : (r.abandon number).Hosts now time ∧ (r.abandon number).Occupied := by
    refine List.foldlRecOn (motive := fun b => Hosts b now time ∧ Occupied b) _ _ ⟨h, ho⟩
      fun b hb name _ => ?_
    have hm : (PathMessage.abandon number).isReport = true → ∀ e, b.live.get? name = some e →
        e.path.conf.hasStaticSource = true := fun hr => by simp [PathMessage.isReport] at hr
    exact ⟨hb.1.deliver hm, hb.1.occupied_deliver hb.2 hm⟩
  exact hall.2

/-- Time passes for all live paths. -/
lemma Hosts.occupied_advance : (r.advance time).Occupied := by
  have hall : (r.updateAll (·.advance time)).Hosts now time ∧
      (r.updateAll (·.advance time)).Occupied := by
    refine List.foldlRecOn (motive := fun b => Hosts b now time ∧ Occupied b) _ _ ⟨h, ho⟩
      fun b hb name _ => ⟨hb.1.update_advance name, ?_⟩
    refine hb.1.occupied_update (continues_advance time) (fun other e _ he => hb.2 other e he)
      fun e he => ?_
    obtain ⟨hreached, hle⟩ := hb.1.reached name e he
    exact hreached.orderly.isUsed_advance (fun _ => hb.2 name e he) hle
  exact hall.2

/-- **Operations on media** bring and take nobody. -/
lemma Hosts.occupied_changesMedia {r' : Registry} (hr : r.ChangesMedia r') : r'.Occupied := by
  rcases hr with rfl | ⟨id, act, rfl⟩
  · exact ho
  · intro name e' he'
    obtain ⟨e, he, rfl⟩ := Option.map_eq_some_iff.1 ((r.live.get?_mapValues name _).symm.trans he')
    have hunused := ho name e he
    dsimp only
    split
    · exact (e.path.goesOn_media act).isUnused_eq.trans hunused
    · exact hunused

end Operations

section Rest

variable {r : Registry} (h : r.Hosts r.now r.now)

include h

/-- **A request** through the registry: its path may be new, and is used or has ended afterwards. -/
lemma Hosts.occupied_request (ho : r.Occupied) (number : Nat) (a : AccessRequest)
    (expected : Option Conf) (c : ClientRequest) (query : String) :
    (r.request number a expected (c.message number query)).Occupied := by
  have hosts := h.acquire a expected
  have hcases := acquire_cases h.allAlive a expected
  unfold Registry.request
  generalize r.acquire a expected = acquired at *
  obtain ⟨questions, ⟨e, rfl⟩ | ⟨-, rfl⟩ | ⟨found, -, -, -, rfl⟩⟩ := hcases
  · exact ho
  · refine hosts.occupied_update (continues_deliver _) (fun other e _ he => ho other e he)
      fun e he => ?_
    exact (hosts.reached _ e he).1.isUsed_deliver_message (hosts.alive he) c number query
  · refine hosts.occupied_update (continues_deliver _) (fun other e hne he => ?_) fun e he => ?_
    · rw [Registry.createPath, NameMap.get?_insert, if_neg hne] at he
      exact ho other e he
    · exact (hosts.reached _ e he).1.isUsed_deliver_message (hosts.alive he) c number query

/-- **A new set of configurations** keeps a registry occupied unless it exposes a path. -/
theorem Hosts.occupied_reload_iff {new : ConfSet} {r' : Registry} (hr : r.reload new = .ok r') :
    r'.Occupied ↔ ¬ r.Exposes (.reload new) := by
  obtain ⟨live, news, hreload, hget, -⟩ := reload_eq h.carries (open_of_reload hr) new
  obtain rfl := Except.ok.inj (hreload.symm.trans hr)
  rw [occupied_createMissing_iff]
  constructor
  · rintro ho ⟨name, e, found, he, hfind, hmove, hpattern, hvacant⟩
    have hname := (h.carries name e he).name_eq
    obtain ⟨q, hq⟩ : ∃ q, e.path.under r.settings.matching new = some q := by
      simp [Path.under, hname, hfind, hmove]
    obtain ⟨found', hfind', -, hunused⟩ := Path.isUnused_under hq
    rw [hname, hfind] at hfind'
    obtain rfl := Except.ok.inj hfind'
    have hlive : live.get? name = some { e with path := q, conf := q.conf } := by
      simp [hget, he, RegistryEntry.under, hq]
    have := ho name _ hlive
    simp [hunused, hpattern, hvacant] at this
  · intro hnone name e' he'
    rw [hget] at he'
    obtain ⟨e, he, hunder⟩ := Option.bind_eq_some_iff.1 he'
    obtain ⟨q, hq, rfl⟩ := Option.map_eq_some_iff.1 hunder
    obtain ⟨found, hfind, hmove, hunused⟩ := Path.isUnused_under hq
    rw [(h.carries name e he).name_eq] at hfind
    by_contra hu
    have hexposed : found.conf.hasPattern = true ∧ e.path.isVacant = true := by
      simpa [hunused] using hu
    exact hnone ⟨name, e, found, he, hfind, hmove, hexposed.1, hexposed.2⟩

/-- **Which operations keep a registry occupied**: all possible ones but those that expose a path.

**Proof sketch.** Every message and every timer that may take away the last use of a path lets it
look for its end, after which it is used or has left. A path that was created for a request is used
or has left after this request. A new set only changes under what the paths run. -/
theorem Hosts.occupied_apply_iff {Admits : ConfSet → Prop} (ho : r.Occupied) {op : RegistryOp}
    (hop : r.Permits Admits op) : (r.apply op).Occupied ↔ ¬ r.Exposes op := by
  by_cases hmedia : op.isMedia = true
  · refine iff_of_true (h.occupied_changesMedia ho (h.numbered.changesMedia_apply hmedia)) ?_
    cases op <;> first | exact not_false | cases hmedia
  cases op with
  | request number access c =>
    exact iff_of_true (h.occupied_request ho number access _ c access.query) not_false
  | requestOf number handle query c =>
    refine iff_of_true (h.occupied_requestOf ho number fun hr => ?_) not_false
    simp [isReport_message] at hr
  | unpublish handle client =>
    refine iff_of_true (h.occupied_tell ho fun hr => ?_) not_false
    simp [PathMessage.isReport] at hr
  | unread handle client =>
    refine iff_of_true (h.occupied_tell ho fun hr => ?_) not_false
    simp [PathMessage.isReport] at hr
  | sourceReady number handle d rtp =>
    exact iff_of_true (h.occupied_requestOf ho number fun _ => hop) not_false
  | sourceNotReady handle => exact iff_of_true (h.occupied_tell ho fun _ => hop) not_false
  | abandon number => exact iff_of_true (h.occupied_abandon ho number) not_false
  | find access =>
    refine iff_of_true (?_ : (r.find access).1.Occupied) not_false
    obtain ⟨questions, heq⟩ := r.find_eq access
    exact heq ▸ ho
  | reload new =>
    change ((r.reload new).toOption.getD r).Occupied ↔ _
    cases hr : r.reload new with
    | error e =>
      refine iff_of_true ho ?_
      rintro ⟨name, e, found, he, -⟩
      simp [reload_of_open (h.open_of_live he)] at hr
    | ok r' => exact h.occupied_reload_iff hr
  | setHls server =>
    refine iff_of_true (?_ : ((r.setHls server).toOption.getD r).Occupied) not_false
    cases heq : r.setHls server with
    | error e => exact ho
    | ok r' =>
      obtain ⟨news, rfl⟩ := setHls_eq heq
      exact ho
  | sleep ms =>
    have hle := Nat.le_add_right r.now ms
    exact iff_of_true ((h.mono hle).occupied_advance ho) not_false
  | close =>
    refine iff_of_true (?_ : r.close.Occupied) not_false
    unfold Registry.close
    split
    · exact ho
    · exact fun name e he => by simp at he
  | write _ _ | subscribe _ | unsubscribe _ | segmentCreate _ _ | segmentComplete _ _ _ =>
    exact absurd rfl hmedia

end Rest

/-- A new registry is occupied: it only has paths without a pattern. -/
lemma occupied_start (settings : PathSettings) (confs : ConfSet) (authenticator : Authenticator)
    (hls : Option String) : (start settings confs authenticator hls).Occupied :=
  (occupied_createMissing_iff _).2 fun name e he => by simp at he

/-! ## Runs -/

/-- **A registry stays occupied** along a run exactly if no operation of the run exposes a path: in
every other case a path that a pattern governs leaves in the operation that takes away its last use,
whatever this is.

**Proof sketch.** Induction on the states of the run; a new registry has no path of a pattern. -/
theorem occupied_run_iff {Admits : ConfSet → Prop} (settings : PathSettings) (confs : ConfSet)
    (authenticator : Authenticator) (hls : Option String) {ops : List RegistryOp}
    (hops : (start settings confs authenticator hls).PermitsAll Admits ops) :
    (∀ before, before <+: ops → ((start settings confs authenticator hls).run before).Occupied) ↔
      ∀ before op, before ++ [op] <+: ops →
        ¬ ((start settings confs authenticator hls).run before).Exposes op := by
  have hstart := hosts_start settings confs authenticator hls
  -- what holds in the state before an operation of the run
  have hstep {before : List RegistryOp} {op : RegistryOp} (hpre : before ++ [op] <+: ops)
      (ho : ((start settings confs authenticator hls).run before).Occupied) :
      ((start settings confs authenticator hls).run (before ++ [op])).Occupied ↔
        ¬ ((start settings confs authenticator hls).run before).Exposes op := by
    obtain ⟨rest, rfl⟩ := hpre
    obtain ⟨hbefore, hop, -⟩ := permitsAll_append.1 (permitsAll_append.1 hops).1
    have hrun : (start settings confs authenticator hls).run (before ++ [op]) =
        ((start settings confs authenticator hls).run before).apply op := List.foldl_concat ..
    rw [hrun]
    exact (hstart.run hbefore).occupied_apply_iff ho hop
  constructor
  · intro hall before op hpre
    exact (hstep hpre (hall before ((List.prefix_append _ _).trans hpre))).1 (hall _ hpre)
  · intro hnone before
    induction before using List.reverseRecOn with
    | nil =>
      exact fun _ => occupied_start settings confs authenticator hls
    | append_singleton before op ih =>
      intro hpre
      exact (hstep hpre (ih ((List.prefix_append _ _).trans hpre))).2 (hnone before op hpre)

/-- The pattern of one name alone. -/
def cameraPattern : Pattern where
  expression := "^cam$"
  program := (Pattern.program? "^cam$").get (by decide +kernel)
  compiles := (Option.some_get _).symm

/-- A set in which a pattern governs the camera. -/
def patternCamera : ConfSet := .ofList [{ name := "~^cam$", pattern := some cameraPattern }]

/-- A client publishes on the camera and leaves. -/
def publishAndLeave : List RegistryOp :=
  [.request 0 { name := "cam", publish := true }
      (.publish ⟨0, ⟨"publisher", "p1"⟩⟩ ⟨[⟨.video, "H264"⟩]⟩ false none),
    .unpublish ⟨"cam", 1⟩ ⟨0, ⟨"publisher", "p1"⟩⟩]

/-- Under the pattern the path of the camera is live while the client publishes, and has left with
it. -/
theorem occupied_publishAndLeave :
    let r := start {} patternCamera .allowAll none
    r.PermitsAll (fun _ => True) publishAndLeave ∧
      (∀ before, before <+: publishAndLeave → (r.run before).Occupied) ∧
      (r.run (publishAndLeave.take 1)).live.names = ["cam"] ∧
      (r.run publishAndLeave).live.names = [] := by
  intro r
  have hops : r.PermitsAll (fun _ => True) publishAndLeave := ⟨trivial, trivial, trivial⟩
  refine ⟨hops, (occupied_run_iff {} patternCamera .allowAll none hops).2 fun before op hpre => ?_,
    by cbv, by cbv⟩
  have hmem : op ∈ publishAndLeave := hpre.subset (by simp)
  rcases List.mem_cons.1 hmem with rfl | hmem
  · exact not_false
  · obtain rfl := List.mem_singleton.1 hmem
    exact not_false

/-- **A path that stays without use**: the camera had no pattern, nobody is there when the pattern
takes over, and the path is still live a minute later. -/
theorem not_occupied_patternCamera :
    let r := start {} oneCamera .allowAll none
    r.PermitsAll (fun _ => True) [.reload patternCamera, .sleep 60000] ∧
      r.Exposes (.reload patternCamera) ∧ ¬ (r.run [.reload patternCamera]).Occupied ∧
      ¬ (r.run [.reload patternCamera, .sleep 60000]).Occupied := by
  intro r
  have hunused {r' : Registry} (hlive : (r'.live.get? "cam").any (·.path.isUnused) = true) :
      ¬ r'.Occupied := by
    intro ho
    obtain ⟨e, he, hu⟩ := (Option.any_eq_true _ _).1 hlive
    simp [ho "cam" e he] at hu
  have hops : r.PermitsAll (fun _ => True) [.reload patternCamera, .sleep 60000] :=
    ⟨trivial, trivial, trivial⟩
  have hreload : ¬ (r.apply (.reload patternCamera)).Occupied := hunused (by cbv)
  have hexposes := (hosts_start {} oneCamera .allowAll none).occupied_apply_iff
    (occupied_start {} oneCamera .allowAll none) hops.1
  exact ⟨hops, not_not.1 (mt hexposes.2 hreload), hreload, hunused (by cbv)⟩

end Registry

end LivePaths
