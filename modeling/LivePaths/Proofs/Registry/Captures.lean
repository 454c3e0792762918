import Mathlib.Data.List.Induction
import LivePaths.Proofs.Path.Launched
import LivePaths.Proofs.Registry.Clock

set_option relaxedAutoImplicit false
set_option autoImplicit false

/-!
# The captures of live paths

A path is given the captures of its name when it is created, and works with them as long as it
lives: all its commands find their groups. The pattern that governs it may change in the meantime,
since a running path can absorb another name and another pattern. Its captures are those of what
governs it exactly until a new set of configurations is handed over in which its name has other
ones.

## Main definitions

* `Path.WorksWith` — paths whose commands find the groups of some captures.
* `Registry.Agrees` — registries whose paths have the captures of what governs them.
* `Registry.Outdates` — the sets of configurations after which a path has the captures of before.

## Main results

* `Registry.Sound.agrees_reload_iff` — which sets of configurations keep the captures in agreement.
* `Registry.agrees_run_iff` — the captures agree along a run exactly if no operation outdates them.
-/

namespace LivePaths

/-! ## The groups of one path -/

/-- **Captures that a path works with**: every command that it has launched finds their groups in
its environment, and so will every one that it launches. -/
structure Path.WorksWith (p : Path) (captures : List String) : Prop where
  outfitted : p.Outfitted (Environment.HasGroups captures)
  launches : ∀ x ∈ p.launcher.launches, Environment.HasGroups captures x.environment

/-- An environment has the groups of two captures if these do not differ in a group. -/
lemma Environment.hasGroups_congr {cs cs' : List String} (h : cs.drop 1 = cs'.drop 1) :
    HasGroups cs = HasGroups cs' := by
  funext env
  unfold HasGroups
  refine propext (forall_congr' fun i => ?_)
  cases i with
  | zero => rfl
  | succ i =>
    have hi : cs[i + 1]? = cs'[i + 1]? := by
      simpa [Nat.add_comm 1] using congrArg (·[i]?) h
    rw [hi]

/-- What has the groups of two captures shows that these do not differ in a group. -/
lemma Environment.HasGroups.drop_eq {cs cs' : List String} {env : Environment}
    (h : HasGroups cs env) (h' : HasGroups cs' env) : cs.drop 1 = cs'.drop 1 := by
  refine List.ext_getElem? fun i => ?_
  simpa [Nat.add_comm 1] using (h (i + 1)).symm.trans (h' (i + 1))

/-- **A path works with its own captures**, and with others that have the same groups. -/
theorem Path.Lived.worksWith_iff {p : Path} (h : p.Lived) {captures : List String} :
    p.WorksWith captures ↔ p.captures.drop 1 = captures.drop 1 := by
  obtain ⟨houtfitted, hlaunches⟩ := h.hasGroups
  constructor
  · exact fun hw => houtfitted.suits.init.drop_eq hw.outfitted.suits.init
  · intro heq
    rw [Environment.hasGroups_congr heq] at houtfitted hlaunches
    exact ⟨houtfitted, hlaunches⟩

/-- What a path is known by includes its captures. -/
lemma Path.captures_of_identity {p q : Path} (h : q.identity = p.identity) :
    q.captures = p.captures :=
  congrArg (·.2.2.2.1) h

namespace Registry

variable {r : Registry} {k : Nat}

/-! ## Agreement -/

/-- **Agreement in the captures** from a number on: every live path has those of what governs its
name. From 0 on these are all captures, from 1 on all groups. -/
def Agrees (k : Nat) (r : Registry) : Prop :=
  ∀ name e, r.live.get? name = some e →
    ∃ found, r.governing name = .ok found ∧ e.path.captures.drop k = found.captures.drop k

/-- **Operations that outdate captures**: a new set of configurations in which the name of a live
path has other captures than before, under a configuration that this path can move to. -/
def Outdates (k : Nat) (r : Registry) : RegistryOp → Prop
  | .reload new => ∃ name e old found, r.live.get? name = some e ∧
      r.governing name = .ok old ∧ new.find r.settings.matching name = .ok found ∧
      old.conf.canHotReload found.conf = true ∧ found.captures.drop k ≠ old.captures.drop k
  | _ => False

namespace Agrees

variable (h : r.Agrees k)

include h

/-- Changes that concern no live path. -/
lemma of_same {r' : Registry} (hlive : r'.live = r.live) (hfind : r'.governing = r.governing) :
    r'.Agrees k := fun name e he => by
  rw [hfind]
  exact h name e (hlive ▸ he)

/-- Something happens to a live path, which keeps its captures. -/
lemma update (hs : r.Seated) {name : String} {f : Path → Path}
    (hf : ∀ p : Path, p.Continues (fun _ => True) (f p)) : (r.update name f).Agrees k := by
  have hfind : (r.update name f).governing = r.governing := by
    unfold governing
    cases he : r.live.get? name with
    | none => rw [update_of_none he]
    | some e =>
      rcases update_of_continues he (hf e.path) (hs name e he).2 with
        ⟨-, ready, news, heq⟩ | ⟨-, news, heq⟩ <;> rw [heq]
  intro other e' he'
  rw [hfind]
  rcases get?_update hf (fun e he => (hs name e he).2) he' with
    ⟨-, he⟩ | ⟨rfl, e, ready, he, rfl, -⟩
  · exact h other e' he
  · rw [Path.captures_of_identity (hf e.path).same]
    exact h name e he

/-- A message to a live path. -/
lemma deliver (hs : r.Seated) (name : String) (m : PathMessage) :
    (r.update name (Registry.deliver m)).Agrees k :=
  h.update hs (continues_deliver m)

/-- A request to a path. -/
lemma requestOf (hs : r.Seated) (number : Nat) (handle : PathHandle) (m : PathMessage) :
    (r.requestOf number handle m).Agrees k := by
  rcases r.requestOf_cases number handle m with heq | ⟨e, -, -, heq⟩
  · rw [heq]
    exact h
  · rw [heq]
    exact h.deliver hs handle.name m

/-- A message to a path that expects no answer. -/
lemma tell (hs : r.Seated) (handle : PathHandle) (m : PathMessage) :
    (r.tell handle m).Agrees k := by
  rcases r.tell_cases handle m with heq | ⟨e, -, -, heq⟩
  · rwa [heq]
  · rw [heq]
    exact h.deliver hs handle.name m

/-- Something happens to all live paths. -/
lemma updateAll (hs : r.Seated) {f : Path → Path} (himpartial : Path.Impartial f)
    (hf : ∀ p : Path, p.Continues (fun _ => True) (f p)) : (r.updateAll f).Agrees k :=
  (List.foldlRecOn (motive := fun b : Registry => b.Seated ∧ b.Agrees k) _ _ ⟨hs, h⟩
    fun _ ⟨hs, hb⟩ name _ => ⟨hs.update name himpartial, hb.update hs hf⟩).2

/-- A new path under what governs its name has the captures of this. -/
lemma createPath {name : String} {found : ConfSet.Found} (hfind : r.governing name = .ok found) :
    (r.createPath name found).Agrees k := by
  intro other e' he'
  rw [Registry.createPath, NameMap.get?_insert] at he'
  split at he'
  · next hname =>
    subst hname
    obtain rfl := Option.some.inj he'
    obtain ⟨hsame, -⟩ := Path.create_history r.settings r.now (r.created + 1) name found
    exact ⟨found, hfind, congrArg (List.drop k) (congrArg (·.2.2.2.1) hsame)⟩
  · exact h other e' he'

/-- The missing paths have no captures, and neither has what governs them. -/
lemma createMissing (hv : r.confs.HasValidNames) : r.createMissing.Agrees k := by
  obtain ⟨live, heq, -, hlive⟩ := r.createMissing_eq
  rw [heq]
  intro name e he
  rcases hlive name e he with he | ⟨c, hc, rfl, id, rfl⟩
  · exact h name e he
  · have hfixed : c ∈ r.confs.fixed := (List.mem_filter.1 hc).1
    obtain ⟨hsame, -⟩ := Path.create_history r.settings r.now id c.name ⟨c, []⟩
    exact ⟨⟨c, []⟩, ConfSet.find_fixed hfixed (hv c hfixed),
      congrArg (List.drop k) (congrArg (·.2.2.2.1) hsame)⟩

/-- A path goes on between steps. -/
lemma modifyPath (id : Nat) (act : MediaAct) : (r.modifyPath id (·.media act)).Agrees k := by
  intro name e' he'
  obtain ⟨e, he, rfl⟩ := Option.map_eq_some_iff.1 ((r.live.get?_mapValues name _).symm.trans he')
  have hcaptures : (if e.path.id = id then e.path.media act else e.path).captures =
      e.path.captures := by
    split
    · exact Path.captures_of_identity (e.path.goesOn_media act).identity_eq.1
    · rfl
  dsimp only
  rw [hcaptures]
  exact h name e he

/-- **A request** through the registry: its path may be new. -/
lemma request (hhosts : r.Hosts r.now r.now) (number : Nat) (a : AccessRequest)
    (expected : Option Conf) (m : PathMessage) : (r.request number a expected m).Agrees k := by
  have hacquired := hhosts.acquire a expected
  have hnext : (r.acquire a expected).1.Agrees k := by
    obtain ⟨questions, ⟨e, heq⟩ | ⟨-, heq⟩ | ⟨found, hfind, -, -, heq⟩⟩ :=
      acquire_cases hhosts.allAlive a expected
    · exact heq ▸ h
    · exact heq ▸ h
    · exact heq ▸ Agrees.createPath (r := { r with questions }) h hfind
  unfold Registry.request
  split
  · next heq => exact (heq ▸ hnext :)
  · next heq =>
    rw [heq] at hacquired hnext
    exact hnext.deliver hacquired.seated _ _

/-- The end leaves no live path. -/
lemma close : r.close.Agrees k := by
  unfold Registry.close
  split
  · exact h
  · exact fun name e he => by simp at he

end Agrees

/-- A path keeps its captures under a new set of configurations. -/
lemma captures_under {p q : Path} {m : Matching} {new : ConfSet} (h : p.under m new = some q) :
    q.captures = p.captures ∧
      ∃ found, new.find m p.name = .ok found ∧ p.conf.canHotReload found.conf = true := by
  unfold Path.under at h
  split at h
  · cases h
  · next found hfind =>
    split at h
    · next hmove =>
      refine ⟨?_, found, hfind, hmove⟩
      obtain rfl := Option.some.inj h
      split
      · rfl
      · rw [Path.reload_eq]
    · cases h

/-- **A new set of configurations** keeps the captures in agreement unless it outdates them.

**Proof sketch.** A path that stays keeps the captures that it has, which are those of the former
set. So they agree with the new set exactly if both sets have the same for its name. All other paths
are new and have no captures. -/
theorem Sound.agrees_reload_iff (hsound : r.Sound) (h : r.Agrees k) {new : ConfSet}
    (hv : new.HasValidNames) {r' : Registry} (hr : r.reload new = .ok r') :
    r'.Agrees k ↔ ¬ r.Outdates k (.reload new) := by
  have hcarries (name : String) (e : RegistryEntry) (he : r.live.get? name = some e) :=
    (hsound.governed.governs name e he).carries
  obtain ⟨live, news, hreload, hget, -⟩ := reload_eq hcarries (open_of_reload hr) new
  obtain rfl := Except.ok.inj (hreload.symm.trans hr)
  constructor
  · rintro hagrees ⟨name, e, old, found, he, hold, hfind, hmove, hne⟩
    have hg := hsound.governed.governs name e he
    obtain ⟨captures, hcurrent⟩ := hg.found
    obtain rfl := Except.ok.inj (hcurrent.symm.trans hold)
    obtain ⟨q, hq⟩ : ∃ q, e.path.under r.settings.matching new = some q := by
      simp [Path.under, hg.name_eq, hfind, hg.conf_eq, hmove]
    -- the path of this name stays, and the missing ones have other names
    obtain ⟨live', heq, hstays, -⟩ := createMissing_eq { r with
      confs := new, live, past := r.past ++ leaving r.settings.matching r.live.values new, news }
    have hlive : live.get? name = some { e with path := q, conf := q.conf } := by
      simp [hget, he, RegistryEntry.under, hq]
    rw [heq] at hagrees
    obtain ⟨found', hfind', hsame⟩ := hagrees name _ (hstays name _ hlive)
    obtain rfl := Except.ok.inj (hfind'.symm.trans hfind)
    obtain ⟨old', hold', hbefore⟩ := h name e he
    obtain rfl := Except.ok.inj (hold'.symm.trans hold)
    refine hne (hsame.symm.trans ?_)
    rw [← hbefore]
    exact congrArg (List.drop k) (captures_under hq).1
  · intro hnone
    refine Agrees.createMissing (fun name e' he' => ?_) hv
    rw [hget] at he'
    obtain ⟨e, he, hunder⟩ := Option.bind_eq_some_iff.1 he'
    obtain ⟨q, hq, rfl⟩ := Option.map_eq_some_iff.1 hunder
    obtain ⟨hcaptures, found, hfind, hmove⟩ := captures_under hq
    have hg := hsound.governed.governs name e he
    obtain ⟨captures, hcurrent⟩ := hg.found
    obtain ⟨old, hold, hbefore⟩ := h name e he
    obtain rfl := Except.ok.inj (hcurrent.symm.trans hold)
    rw [hg.name_eq] at hfind
    rw [hg.conf_eq] at hmove
    refine ⟨found, hfind, ?_⟩
    by_contra hne
    refine hnone ⟨name, e, _, found, he, hold, hfind, hmove, fun hsame => hne ?_⟩
    dsimp only
    rw [hcaptures, hbefore, hsame]

/-- **One operation** keeps the captures in agreement unless it outdates them. -/
theorem Reachable.agrees_apply_iff (hreach : r.Reachable ConfSet.HasValidNames) (h : r.Agrees k)
    {op : RegistryOp} (hop : r.Permits ConfSet.HasValidNames op) :
    (r.apply op).Agrees k ↔ ¬ r.Outdates k op := by
  have hs := hreach.seated
  by_cases hmedia : op.isMedia = true
  · refine iff_of_true ?_ (by cases op <;> first | exact not_false | cases hmedia)
    rcases hreach.hosts.numbered.changesMedia_apply hmedia with heq | ⟨id, act, heq⟩
    · rwa [heq]
    · rw [heq]
      exact h.modifyPath id act
  cases op with
  | request number access c =>
    exact iff_of_true (h.request hreach.hosts number access _ _) not_false
  | requestOf number handle query c => exact iff_of_true (h.requestOf hs number handle _) not_false
  | unpublish handle client => exact iff_of_true (h.tell hs handle _) not_false
  | unread handle client => exact iff_of_true (h.tell hs handle _) not_false
  | sourceReady number handle d rtp => exact iff_of_true (h.requestOf hs number handle _) not_false
  | sourceNotReady handle => exact iff_of_true (h.tell hs handle _) not_false
  | abandon number =>
    exact iff_of_true (h.updateAll hs (Path.impartial_deliver _) (continues_deliver _)) not_false
  | find access =>
    refine iff_of_true (?_ : (r.find access).1.Agrees k) not_false
    rw [find_eq_asked]
    exact h
  | reload new =>
    change ((r.reload new).toOption.getD r).Agrees k ↔ _
    cases hr : r.reload new with
    | error e =>
      refine iff_of_true h ?_
      rintro ⟨name, e, -, -, he, -⟩
      simp [reload_of_open (hreach.hosts.open_of_live he)] at hr
    | ok r' => exact hreach.sound.agrees_reload_iff h hop hr
  | setHls server =>
    refine iff_of_true (?_ : ((r.setHls server).toOption.getD r).Agrees k) not_false
    cases heq : r.setHls server with
    | error e => exact h
    | ok r' =>
      obtain ⟨news, rfl⟩ := setHls_eq heq
      exact h
  | sleep ms =>
    refine iff_of_true (?_ : (r.advance (r.now + ms)).Agrees k) not_false
    exact (h.updateAll hs (Path.impartial_advance _) (continues_advance _)).of_same rfl rfl
  | close => exact iff_of_true h.close not_false
  | write _ _ | subscribe _ | unsubscribe _ | segmentCreate _ _ | segmentComplete _ _ _ =>
    exact absurd rfl hmedia

/-! ## Runs -/

/-- **What holds along a run**: if it holds at the beginning and each operation keeps it unless it
breaks it, then it holds in all states of the run exactly if no operation of the run breaks it.

**Proof sketch.** Induction on the states of the run. -/
lemma forall_run_iff {Admits : ConfSet → Prop} {r : Registry} {Law : Registry → Prop}
    {Breaks : Registry → RegistryOp → Prop} (hstart : Law r)
    (hstep : ∀ before op, r.PermitsAll Admits before → (r.run before).Permits Admits op →
      Law (r.run before) → (Law ((r.run before).apply op) ↔ ¬ Breaks (r.run before) op))
    {ops : List RegistryOp} (hops : r.PermitsAll Admits ops) :
    (∀ before, before <+: ops → Law (r.run before)) ↔
      ∀ before op, before ++ [op] <+: ops → ¬ Breaks (r.run before) op := by
  -- what holds in the state before an operation of the run
  have hnext {before : List RegistryOp} {op : RegistryOp} (hpre : before ++ [op] <+: ops)
      (h : Law (r.run before)) : Law (r.run (before ++ [op])) ↔ ¬ Breaks (r.run before) op := by
    obtain ⟨rest, rfl⟩ := hpre
    obtain ⟨hbefore, hop, -⟩ := permitsAll_append.1 (permitsAll_append.1 hops).1
    have hrun : r.run (before ++ [op]) = (r.run before).apply op := List.foldl_concat ..
    rw [hrun]
    exact hstep before op hbefore hop h
  constructor
  · intro hall before op hpre
    exact (hnext hpre (hall before ((List.prefix_append _ _).trans hpre))).1 (hall _ hpre)
  · intro hnone before
    induction before using List.reverseRecOn with
    | nil => exact fun _ => hstart
    | append_singleton before op ih =>
      intro hpre
      exact (hnext hpre (ih ((List.prefix_append _ _).trans hpre))).2 (hnone before op hpre)

/-- **The captures agree along a run**, in each state with those of what governs the paths then,
exactly if no operation of the run outdates them. This holds of all captures and of the groups
alone. Where the groups agree, every path works with those of what governs it: all its commands
find them in their environments. -/
theorem agrees_run_iff {confs : ConfSet} (hconfs : confs.HasValidNames) (settings : PathSettings)
    (authenticator : Authenticator) (hls : Option String) {ops : List RegistryOp}
    (hops : (start settings confs authenticator hls).PermitsAll ConfSet.HasValidNames ops) :
    (∀ k, (∀ before, before <+: ops →
        ((start settings confs authenticator hls).run before).Agrees k) ↔
      ∀ before op, before ++ [op] <+: ops →
        ¬ ((start settings confs authenticator hls).run before).Outdates k op) ∧
    ∀ before, before <+: ops →
      (((start settings confs authenticator hls).run before).Agrees 1 ↔
        ∀ name e, ((start settings confs authenticator hls).run before).live.get? name = some e →
          ∃ found, ((start settings confs authenticator hls).run before).governing name =
            .ok found ∧ e.path.WorksWith found.captures) := by
  have hstart : (start settings confs authenticator hls).Reachable ConfSet.HasValidNames :=
    .start hconfs settings authenticator hls
  refine ⟨fun k => ?_, fun before hpre => ?_⟩
  · refine forall_run_iff (Agrees.createMissing (fun name e he => by simp at he) hconfs)
      (fun before op hbefore hop h => ?_) hops
    exact (hstart.run hbefore).agrees_apply_iff h hop
  · obtain ⟨rest, rfl⟩ := hpre
    have hreach := hstart.run (permitsAll_append.1 hops).1
    refine forall_congr' fun name => forall_congr' fun e => forall_congr' fun he => ?_
    refine exists_congr fun found => and_congr_right fun _ => ?_
    exact (hreach.lived e.path (mem_paths.2 (.inr ⟨name, e, he, rfl⟩))).worksWith_iff.symm

/-- A set in which a pattern governs cameras; commands are launched when somebody asks for one, and
when it is ready. -/
def groupedCamera (expression : String) (h : (Pattern.program? expression).isSome = true) :
    ConfSet :=
  .ofList [{
    name := "~" ++ expression
    pattern := some ⟨expression, (Pattern.program? expression).get h, (Option.some_get h).symm⟩
    commands := { onDemand := { line := "launch" }, onReady := { line := "ready" } } }]

/-- The only configuration of such a set has a pattern. -/
lemma hasValidNames_groupedCamera (expression : String)
    (h : (Pattern.program? expression).isSome = true) :
    (groupedCamera expression h).HasValidNames := by
  intro c hc
  obtain ⟨hget, hpattern⟩ := ConfSet.mem_fixed.1 hc
  change (ConfSet.insert .empty _).get? c.name = some c at hget
  rw [ConfSet.get?_insert] at hget
  split at hget
  · obtain rfl := Option.some.inj hget
    cases hpattern
  · cases hget

/-- A registry whose pattern has one group: the name of a camera but for its number. -/
def namedCamera : Registry :=
  start {} (groupedCamera "^(cam)1$" (by decide +kernel)) .allowAll none

/-- A set whose pattern has the same group, for more names. -/
def moreCameras : ConfSet := groupedCamera "^(cam)1" (by decide +kernel)

/-- A set whose pattern has another group. -/
def endingCamera : ConfSet := groupedCamera "^ca(m1)$" (by decide +kernel)

/-- Somebody asks for a camera, a new set is handed over, and a publisher comes. -/
def askAndPublish (confs : ConfSet) : List RegistryOp :=
  [.request 0 { name := "cam1" } .describe, .reload confs,
    .request 1 { name := "cam1", publish := true }
      (.publish ⟨0, ⟨"publisher", "p1"⟩⟩ ⟨[⟨.video, "H264"⟩]⟩ false none)]

/-- The captures of the live path of the camera, and those of what governs it. -/
def cameraCaptures (r : Registry) : Option (List String) × Option (List String) :=
  ((r.live.get? "cam1").map (·.path.captures),
    (r.governing "cam1").toOption.map (·.captures))

/-- The values of the first group that the commands of the camera have found. -/
def firstGroups (r : Registry) : Option (List (Option String)) :=
  (r.live.get? "cam1").map fun e => e.path.launcher.launches.map (·.environment.get? "G1")

/-- Under a pattern with the same group the path goes on, and both commands find what this group
is. -/
theorem agrees_moreCameras :
    namedCamera.PermitsAll ConfSet.HasValidNames (askAndPublish moreCameras) ∧
      (∀ k before, before <+: askAndPublish moreCameras → (namedCamera.run before).Agrees k) ∧
      cameraCaptures (namedCamera.run (askAndPublish moreCameras)) =
        (some ["cam1", "cam"], some ["cam1", "cam"]) ∧
      firstGroups (namedCamera.run (askAndPublish moreCameras)) =
        some [some "cam", some "cam"] := by
  have hops : namedCamera.PermitsAll ConfSet.HasValidNames (askAndPublish moreCameras) :=
    ⟨trivial, hasValidNames_groupedCamera _ _, trivial, trivial⟩
  have hrun := (agrees_run_iff (hasValidNames_groupedCamera _ _) {} .allowAll none hops).1
  have hnames : (namedCamera.run ((askAndPublish moreCameras).take 1)).live.names = ["cam1"] := by
    cbv
  have hold : cameraCaptures (namedCamera.run ((askAndPublish moreCameras).take 1)) =
      (some ["cam1", "cam"], some ["cam1", "cam"]) := by cbv
  have hnew : (moreCameras.find (namedCamera.run ((askAndPublish moreCameras).take
      1)).settings.matching "cam1").toOption.map (·.captures) = some ["cam1", "cam"] := by cbv
  -- only the second operation hands over a set, in which the camera has the captures of before
  have hreload (k : Nat) : ¬ (namedCamera.run ((askAndPublish moreCameras).take 1)).Outdates k
      (.reload moreCameras) := by
    rintro ⟨name, e, old, found, he, hfound, hfind, -, hne⟩
    obtain rfl : name = "cam1" := by
      have hmem := (NameMap.mem_names_iff _ name).2 (Option.isSome_iff_exists.2 ⟨e, he⟩)
      rwa [hnames, List.mem_singleton] at hmem
    have hold := congrArg Prod.snd hold
    simp only [cameraCaptures, hfound, hfind, Except.toOption, Option.map_some,
      Option.some.injEq] at hold hnew
    exact hne (by rw [hold, hnew])
  refine ⟨hops, fun k => (hrun k).2 fun before op hpre => ?_, by cbv, by cbv⟩
  rcases before with _ | ⟨x, _ | ⟨y, before⟩⟩
  · exact (List.cons_prefix_cons.1 hpre).1 ▸ not_false
  · obtain ⟨rfl, hrest⟩ := List.cons_prefix_cons.1 hpre
    obtain ⟨rfl, -⟩ := List.cons_prefix_cons.1 hrest
    exact hreload k
  · have hmem : op ∈ (askAndPublish moreCameras).drop 2 := by
      obtain ⟨-, hrest⟩ := List.cons_prefix_cons.1 hpre
      exact (List.cons_prefix_cons.1 hrest).2.subset (by simp)
    obtain rfl := List.mem_singleton.1 hmem
    exact not_false

/-- **Captures of before**: the group of the pattern has become another one, and the path is live
under it with what was matched before. The command that is launched when the path becomes ready
still finds the old group. -/
theorem not_agrees_endingCamera :
    namedCamera.PermitsAll ConfSet.HasValidNames (askAndPublish endingCamera) ∧
      (namedCamera.run ((askAndPublish endingCamera).take 1)).Outdates 1 (.reload endingCamera) ∧
      ¬ (namedCamera.run (askAndPublish endingCamera)).Agrees 1 ∧
      cameraCaptures (namedCamera.run (askAndPublish endingCamera)) =
        (some ["cam1", "cam"], some ["cam1", "m1"]) ∧
      firstGroups (namedCamera.run (askAndPublish endingCamera)) =
        some [some "cam", some "cam"] := by
  have houtdated {r : Registry}
      (h : cameraCaptures r = (some ["cam1", "cam"], some ["cam1", "m1"])) : ¬ r.Agrees 1 := by
    intro hagrees
    obtain ⟨hlive, hfound⟩ := Prod.mk.inj h
    obtain ⟨e, he, hcaptures⟩ := Option.map_eq_some_iff.1 hlive
    obtain ⟨found, hfind, hsame⟩ := hagrees "cam1" e he
    simp only [hfind, Except.toOption, Option.map_some, Option.some.injEq] at hfound
    rw [hcaptures, hfound] at hsame
    exact absurd hsame (by decide)
  have hreach : (namedCamera.run ((askAndPublish endingCamera).take 1)).Reachable
      ConfSet.HasValidNames :=
    (Reachable.start (hasValidNames_groupedCamera _ _) {} .allowAll none).run ⟨trivial, trivial⟩
  have hbefore : (namedCamera.run ((askAndPublish endingCamera).take 1)).Agrees 1 := by
    refine Agrees.request (Agrees.createMissing (fun name e he => by simp at he) ?_) ?_ _ _ _ _
    · exact hasValidNames_groupedCamera _ _
    · exact hosts_start ..
  have hafter : ¬ ((namedCamera.run ((askAndPublish endingCamera).take 1)).apply
      (.reload endingCamera)).Agrees 1 := houtdated (by cbv)
  have hpermits : (namedCamera.run ((askAndPublish endingCamera).take 1)).Permits
      ConfSet.HasValidNames (.reload endingCamera) := hasValidNames_groupedCamera _ _
  have hiff := hreach.agrees_apply_iff hbefore hpermits
  exact ⟨⟨trivial, hasValidNames_groupedCamera _ _, trivial, trivial⟩,
    not_not.1 (mt hiff.2 hafter), houtdated (by cbv), by cbv, by cbv⟩

end Registry

end LivePaths
