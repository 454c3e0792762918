import LivePaths.Proofs.Path.Milestones
import LivePaths.Proofs.Registry.Lives

set_option relaxedAutoImplicit false
set_option autoImplicit false

/-!
# Paths at rest between operations

Whatever is due is done before an operation is over. Between two operations no timer and no command
of a live path is due hence, so that nothing happens to a path that nobody addresses.

## Main definitions

* `Path.Calm`, `Registry.Calm` — all timers lie ahead.

## Main results

* `Path.Reached.calm_advance` — after time has passed no timer is due.
* `Path.Lived.settle_of_calm` — a calm path has nothing to do.
* `Registry.Reachable.calm` — all live paths of a registry at rest are calm.
-/

namespace LivePaths

namespace Path

/-- **Calm**: all timers lie ahead. -/
def Calm (p : Path) : Prop := ∀ d ∈ p.deadline?, p.now < d

variable {p q : Path}

/-- Paths with the same timers at the same time are calm together. -/
lemma Calm.of_same (h : p.Calm) (hdeadline : q.deadline? = p.deadline?) (hnow : q.now = p.now) :
    q.Calm := by
  unfold Calm
  rwa [hdeadline, hnow]

/-- A new path has no timers. -/
lemma calm_create (settings : PathSettings) (now id : Nat) (name : String)
    (found : ConfSet.Found) : (create settings now id name found).Calm := by
  rw [create_eq]
  intro d hd
  exact absurd hd (by simp [deadline?, OnDemand.deadlines])

/-- A configuration that is handed over concerns no timer. -/
lemma Calm.reload (h : p.Calm) (c : Conf) : (p.reload c).Calm := by
  rw [reload_eq]
  exact h.of_same rfl rfl

/-- What goes on between steps concerns no timer. -/
lemma Calm.goOn (h : p.Calm) (hq : p.GoesOn q) : q.Calm :=
  h.of_same (by rw [hq.same]; rfl) hq.now_eq

/-- **After time has passed** no timer is due: if one has gone off, none is left, and else the next
one lies ahead. -/
lemma Reached.calm_advance (h : p.Reached) (time : Nat) : (p.advance time).Calm := by
  rcases h.orderly.advance_cases time with ⟨d, -, -, -, hnone, heq⟩ | ⟨hahead, heq⟩
  · rw [heq]
    intro d' hd'
    exact absurd (hnone.symm.trans hd') (by simp)
  · rw [heq]
    intro d hd
    rw [now_runTo]
    exact hahead d hd

/-- After a message no timer is due. -/
lemma Reached.calm_deliver (h : p.Reached) {m : PathMessage}
    (hm : m.isReport = true → p.conf.hasStaticSource = true) : (Registry.deliver m p).Calm :=
  (h.step (s := .message m) hm).calm_advance _

/-- **A calm path** has nothing to do at the present time. -/
lemma Lived.settle_of_calm (h : p.Lived) (hcalm : p.Calm) : p.settle = p := by
  have hpass : p.passDeadline p.now = p := by
    unfold passDeadline
    split
    · rfl
    · next d hd => rw [if_neg (Nat.not_le.2 (hcalm d hd))]
  have hrun : p.runTo p.now = p := by
    unfold runTo now
    rw [Launcher.advance_now h.equipped.serves.ahead]
  rw [settle, advance, hpass, hpass, hrun]

/-- **Somebody gives up** who does not wait here. -/
lemma Lived.deliver_abandon (h : p.Lived) (hcalm : p.Calm) {n : Nat}
    (hdescribes : ∀ x ∈ p.heldDescribes, x.request ≠ n)
    (hreaders : ∀ x ∈ p.heldReaders, x.request ≠ n) :
    Registry.deliver (.abandon n) p = p := by
  have habandon : p.abandon n = p := by
    have hkept {α : Type} (l : List α) (f : α → α) (hf : ∀ x ∈ l, f x = x) : l.map f = l :=
      (List.map_congr_left hf).trans l.map_id
    unfold abandon
    rw [hkept p.heldDescribes _ fun x hx => if_neg (hdescribes x hx),
      hkept p.heldReaders _ fun x hx => if_neg (hreaders x hx)]
  have hreceive : p.receive (.abandon n) = p := by
    unfold receive
    dsimp only
    rw [habandon, ite_self]
  rw [Registry.deliver, hreceive, h.settle_of_calm hcalm]

end Path

namespace Registry

/-- **Calm registries**: all live paths are calm. -/
def Calm (r : Registry) : Prop := ∀ name e, r.live.get? name = some e → e.path.Calm

section Operations

variable {r : Registry} {now time : Nat} (h : r.Hosts now time) (hcalm : r.Calm)

include h hcalm

/-- Whatever leaves a path calm leaves the registry calm. -/
lemma Hosts.calm_update {name : String} {f : Path → Path}
    (hf : ∀ p : Path, p.Continues (fun _ => True) (f p))
    (hnext : ∀ e, r.live.get? name = some e → (f e.path).Calm) : (r.update name f).Calm := by
  intro other e' he'
  rcases get?_update hf (fun e he => h.alive he) he' with ⟨-, he⟩ | ⟨rfl, e, ready, he, rfl, -⟩
  · exact hcalm other e' he
  · exact hnext e he

lemma Hosts.calm_deliver {name : String} {m : PathMessage} (hm : m.isReport = true →
    ∀ e, r.live.get? name = some e → e.path.conf.hasStaticSource = true) :
    (r.update name (Registry.deliver m)).Calm :=
  h.calm_update hcalm (continues_deliver m) fun e he =>
    (h.reached name e he).1.calm_deliver fun hreport => hm hreport e he

lemma Hosts.calm_requestOf (number : Nat) {handle : PathHandle} {m : PathMessage}
    (hm : m.isReport = true → handle ∈ r.sourcesOf handle.name) :
    (r.requestOf number handle m).Calm := by
  rcases r.requestOf_cases number handle m with heq | ⟨e, he, hid, heq⟩
  · rw [heq]
    exact hcalm
  · rw [heq]
    exact h.calm_deliver hcalm (h.hasStaticSource_of_report hm he hid)

lemma Hosts.calm_tell {handle : PathHandle} {m : PathMessage}
    (hm : m.isReport = true → handle ∈ r.sourcesOf handle.name) : (r.tell handle m).Calm := by
  rcases r.tell_cases handle m with heq | ⟨e, he, hid, heq⟩
  · rwa [heq]
  · rw [heq]
    exact h.calm_deliver hcalm (h.hasStaticSource_of_report hm he hid)

/-- Nobody but a source reports. -/
lemma Hosts.calm_abandon (number : Nat) : (r.abandon number).Calm :=
  (List.foldlRecOn (motive := fun r' : Registry => r'.Hosts now time ∧ r'.Calm) _ _ ⟨h, hcalm⟩
    fun _ ⟨hb, hc⟩ _ _ =>
      have hnone (hreport : (PathMessage.abandon number).isReport = true) : False := by
        simp [PathMessage.isReport] at hreport
      ⟨hb.deliver fun hreport => (hnone hreport).elim,
        hb.calm_deliver hc fun hreport => (hnone hreport).elim⟩).2

/-- **Time passes.** -/
lemma Hosts.calm_advance : (r.advance time).Calm :=
  (List.foldlRecOn (motive := fun r' : Registry => r'.Hosts now time ∧ r'.Calm) _ _ ⟨h, hcalm⟩
    fun _ ⟨hb, hc⟩ name _ => ⟨hb.update_advance name,
      hb.calm_update hc (continues_advance time) fun e he =>
        (hb.reached name e he).1.calm_advance time⟩).2

end Operations

/-- The missing paths are calm. -/
lemma Calm.createMissing {r : Registry} (hcalm : r.Calm) : r.createMissing.Calm := by
  obtain ⟨live, heq, -, hlive⟩ := r.createMissing_eq
  rw [heq]
  intro name e he
  rcases hlive name e he with he | ⟨c, -, -, id, rfl⟩
  · exact hcalm name e he
  · exact Path.calm_create r.settings r.now id c.name ⟨c, []⟩

/-- A new path is calm. -/
lemma Calm.createPath {r : Registry} (hcalm : r.Calm) (name : String) (found : ConfSet.Found) :
    (r.createPath name found).Calm := by
  intro other e' he'
  rw [Registry.createPath, NameMap.get?_insert] at he'
  split at he'
  · obtain rfl := Option.some.inj he'
    exact Path.calm_create r.settings r.now (r.created + 1) name found
  · exact hcalm other e' he'

section Rest

variable {r : Registry} {now : Nat} (h : r.Hosts now now) (hcalm : r.Calm)

include h hcalm

/-- **A request** through the registry. -/
lemma Hosts.calm_request (number : Nat) (a : AccessRequest) (expected : Option Conf)
    {m : PathMessage} (hm : m.isReport = false) : (r.request number a expected m).Calm := by
  have hacquired := h.acquire a expected
  have hnext : (r.acquire a expected).1.Calm := by
    obtain ⟨questions, ⟨e, heq⟩ | ⟨-, heq⟩ | ⟨found, -, -, -, heq⟩⟩ :=
      acquire_cases h.allAlive a expected
    · exact heq ▸ hcalm
    · exact heq ▸ hcalm
    · exact heq ▸ Calm.createPath (r := { r with questions }) hcalm a.name found
  unfold Registry.request
  split
  · next heq => exact (heq ▸ hnext :)
  · next heq =>
    exact (heq ▸ hacquired).calm_deliver (heq ▸ hnext) fun hreport =>
      absurd (hm.symm.trans hreport) Bool.false_ne_true

/-- **A new set of configurations.** -/
lemma Hosts.calm_reload {new : ConfSet} {r' : Registry} (hr : r.reload new = .ok r') :
    r'.Calm := by
  obtain ⟨live, news, hreload, hget, -⟩ := reload_eq h.carries (open_of_reload hr) new
  obtain rfl := Except.ok.inj (hreload.symm.trans hr)
  refine Calm.createMissing fun name e' he' => ?_
  have hstays := (hget name).symm.trans he'
  obtain ⟨e, he, hunder⟩ := Option.bind_eq_some_iff.1 hstays
  obtain ⟨p, hp, rfl⟩ := Option.map_eq_some_iff.1 hunder
  unfold Path.under at hp
  split at hp
  · cases hp
  · split at hp
    · obtain rfl := Option.some.inj hp
      dsimp only
      split
      · exact hcalm name e he
      · exact (hcalm name e he).reload _
    · cases hp

end Rest

/-- **Every registry at rest** is calm.

**Proof sketch.** Whatever happens to a live path, time passes for it up to the present afterwards,
but for a new configuration and for media, which do not concern its timers. -/
theorem Reachable.calm {Admits : ConfSet → Prop} {r : Registry} (h : r.Reachable Admits) :
    r.Calm := by
  induction h with
  | @start confs _ settings authenticator hls =>
    exact Calm.createMissing (r := { settings, confs, authenticator, hls })
      fun name e he => by simp at he
  | @apply r hreach op hop ih =>
    have h := hreach.hosts
    by_cases hmedia : op.isMedia = true
    · rcases h.numbered.changesMedia_apply hmedia with heq | ⟨id, act, heq⟩
      · rwa [heq]
      · rw [heq]
        intro name e' he'
        obtain ⟨e, he, rfl⟩ :=
          Option.map_eq_some_iff.1 ((r.live.get?_mapValues name _).symm.trans he')
        dsimp only
        split
        · exact (ih name e he).goOn (e.path.goesOn_media act)
        · exact ih name e he
    cases op with
    | request number access c =>
      exact h.calm_request ih number access _ (isReport_message c number access.query)
    | requestOf number handle query c =>
      exact h.calm_requestOf ih number fun hreport => by simp [isReport_message] at hreport
    | unpublish handle client =>
      exact h.calm_tell ih fun hreport => by simp [PathMessage.isReport] at hreport
    | unread handle client =>
      exact h.calm_tell ih fun hreport => by simp [PathMessage.isReport] at hreport
    | sourceReady number handle d rtp => exact h.calm_requestOf ih number fun _ => hop
    | sourceNotReady handle => exact h.calm_tell ih fun _ => hop
    | abandon number => exact h.calm_abandon ih number
    | find access =>
      change Calm (r.find access).1
      rw [find_eq_asked]
      exact ih
    | reload confs =>
      change Calm ((r.reload confs).toOption.getD r)
      cases heq : r.reload confs with
      | error e => exact ih
      | ok r' => exact h.calm_reload ih heq
    | setHls server =>
      change Calm ((r.setHls server).toOption.getD r)
      cases heq : r.setHls server with
      | error e => exact ih
      | ok r' =>
        obtain ⟨news, rfl⟩ := setHls_eq heq
        exact ih
    | sleep ms => exact (h.mono (Nat.le_add_right r.now ms)).calm_advance ih
    | close =>
      have hglobal : RegistryOp.isGlobal .close = true := rfl
      rcases apply_of_isGlobal hglobal with ⟨-, heq⟩ | ⟨_, _, hop, -⟩ | ⟨-, hlive⟩
      · rwa [heq]
      · cases hop
      · intro name e he
        simp [hlive] at he
    | write _ _ | subscribe _ | unsubscribe _ | segmentCreate _ _ | segmentComplete _ _ _ =>
      exact absurd rfl hmedia

end Registry

end LivePaths
