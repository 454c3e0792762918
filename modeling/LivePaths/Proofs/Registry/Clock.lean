import LivePaths.Proofs.Registry.Focus
import LivePaths.Proofs.Registry.Rest

set_option relaxedAutoImplicit false
set_option autoImplicit false

/-!
# One clock

All paths of a registry at rest, live or past, show the same time. Whatever is asked of a path takes
no time, new paths begin at the present time, and when time passes it passes for all of them. Since
nothing is due at rest, nothing happens at all when no time passes.

## Main definitions

* `Registry.InTime` — every path shows the time of the registry.

## Main results

* `Registry.Reachable.inTime` — every registry at rest has one clock.
* `Registry.Reachable.advance_now` — when no time passes, nothing happens.
-/

namespace LivePaths

namespace Path

/-- A message takes no time, and neither does what is due then. -/
lemma now_deliver (m : PathMessage) (p : Path) : (Registry.deliver m p).now = p.now :=
  (now_advance _ _).trans (p.now_receive m)

/-- A new configuration takes no time. -/
lemma now_reload (p : Path) (c : Conf) : (p.reload c).now = p.now := by
  rw [reload_eq]
  rfl

/-- A path keeps its number if it is the same. -/
@[simp]
lemma renumber_self (p : Path) : p.renumber p.id = p := by
  have hsame (e : PathEvent) : e.renumber p.id p.id = e := by
    cases e with
    | answered n a =>
      cases a with
      | stream id =>
        simp only [PathEvent.renumber, Answer.renumber, StreamId.renumber]
        split
        · next hid => simp [← hid]
        · rfl
      | _ => rfl
    | _ => rfl
  unfold renumber
  rw [List.map_congr_left fun e _ => hsame e, List.map_id']

end Path

@[simp]
lemma RegistryEntry.renumber_id (e : RegistryEntry) : e.renumber id = e := by
  simp [renumber]

namespace Registry

variable {r : Registry}

/-- Under their own numbers the paths of a name are the same. -/
lemma get?_focus_id (r : Registry) (a : String) : (r.focus a id).live.get? a = r.live.get? a := by
  rw [get?_focus]
  cases r.live.get? a with
  | none => rfl
  | some e => simp

/-! ## One clock -/

/-- **One clock**: every path shows the time of the registry. -/
def InTime (r : Registry) : Prop := ∀ p ∈ r.paths, p.now = r.now

namespace InTime

variable (h : r.InTime)

include h

/-- Something happens to a live path that takes no time. -/
lemma update {name : String} {f : Path → Path}
    (halive : ∀ e, r.live.get? name = some e → e.path.ended = false)
    (hf : ∀ p : Path, p.Continues (fun _ => True) (f p)) (hnow : ∀ p : Path, (f p).now = p.now) :
    (r.update name f).InTime := by
  cases he : r.live.get? name with
  | none => rwa [update_of_none he]
  | some e =>
    have hpath : (f e.path).now = r.now :=
      (hnow e.path).trans (h e.path (mem_paths.2 (.inr ⟨name, e, he, rfl⟩)))
    rcases update_of_continues he (hf e.path) (halive e he) with
      ⟨-, ready, news, heq⟩ | ⟨-, news, heq⟩
    · rw [heq]
      intro q hq
      rcases mem_paths_insert r hq rfl rfl with rfl | hq
      · exact hpath
      · exact h q hq
    · rw [heq]
      intro q hq
      rcases mem_paths_erase hq with rfl | hq
      · exact hpath
      · exact h q hq

/-- A message to a live path. -/
lemma deliver (hs : r.Seated) (name : String) (m : PathMessage) :
    (r.update name (Registry.deliver m)).InTime :=
  h.update (fun e he => (hs name e he).2) (continues_deliver m) (Path.now_deliver m)

/-- A request to a path. -/
lemma requestOf (hs : r.Seated) (number : Nat) (handle : PathHandle) (m : PathMessage) :
    (r.requestOf number handle m).InTime := by
  rcases r.requestOf_cases number handle m with heq | ⟨e, -, -, heq⟩
  · rw [heq]
    exact h
  · rw [heq]
    exact h.deliver hs handle.name m

/-- A message to a path that expects no answer. -/
lemma tell (hs : r.Seated) (handle : PathHandle) (m : PathMessage) :
    (r.tell handle m).InTime := by
  rcases r.tell_cases handle m with heq | ⟨e, -, -, heq⟩
  · rwa [heq]
  · rw [heq]
    exact h.deliver hs handle.name m

/-- Somebody gives up a request. -/
lemma abandon (hs : r.Seated) (number : Nat) : (r.abandon number).InTime :=
  (List.foldlRecOn (motive := fun r' : Registry => r'.Seated ∧ r'.InTime) _ _ ⟨hs, h⟩
    fun _ ⟨hs, hb⟩ name _ =>
      ⟨hs.update name (Path.impartial_deliver _), hb.deliver hs name _⟩).2

/-- A new path begins at the present time. -/
lemma createPath (name : String) (found : ConfSet.Found) : (r.createPath name found).InTime := by
  intro q hq
  rcases mem_paths_insert r hq rfl rfl with rfl | hq
  · exact Path.now_create ..
  · exact h q hq

lemma createMissing : r.createMissing.InTime :=
  List.foldlRecOn (motive := InTime) _ _ h fun _ hb c _ => hb.createPath c.name ⟨c, []⟩

/-- A live path under a new set of configurations. -/
lemma reloadPath (new : ConfSet) (absorbed replaced : List String) (name : String) :
    (Registry.reloadPath new absorbed replaced r name).InTime := by
  unfold Registry.reloadPath
  cases he : r.live.get? name with
  | none => exact h
  | some e =>
    have hpath : e.path.now = r.now := h e.path (mem_paths.2 (.inr ⟨name, e, he, rfl⟩))
    dsimp only
    cases fateOf r.settings.matching new absorbed replaced name e.conf with
    | keep => exact h
    | reload c =>
      dsimp only
      rw [handOver_eq he]
      intro q hq
      rcases mem_paths_insert r hq rfl rfl with rfl | hq
      · exact (e.path.now_reload c).trans hpath
      · exact h q hq
    | remove =>
      dsimp only
      rw [removePath_eq he]
      intro q hq
      rcases mem_paths_erase hq with rfl | hq
      · exact e.path.now_destroy.trans hpath
      · exact h q hq

lemma reload {new : ConfSet} {r' : Registry} (hr : r.reload new = .ok r') : r'.InTime := by
  obtain rfl := Except.ok.inj ((reload_of_open (open_of_reload hr)).symm.trans hr)
  have hmoved : (r.live.names.foldl (reloadStep r.confs new) r).InTime :=
    List.foldlRecOn (motive := InTime) _ _ h fun _ hb name _ => hb.reloadPath new _ _ name
  exact createMissing (r := { r.live.names.foldl (reloadStep r.confs new) r with confs := new })
    hmoved

/-- A path goes on between steps. -/
lemma modifyPath (id : Nat) (act : MediaAct) : (r.modifyPath id (·.media act)).InTime := by
  intro q hq
  rw [paths_modifyPath] at hq
  obtain ⟨p, hp, rfl⟩ := List.mem_map.1 hq
  split
  · exact (p.goesOn_media act).now_eq.trans (h p hp)
  · exact h p hp

lemma close : r.close.InTime := by
  unfold Registry.close
  split
  · exact h
  · intro q hq
    rcases mem_paths.1 hq with hq | ⟨name, e, he, -⟩
    · rcases List.mem_append.1 hq with hq | hq
      · exact h q (mem_paths.2 (.inl hq))
      · obtain ⟨e, he, rfl⟩ := List.mem_map.1 hq
        obtain ⟨name, hget⟩ := (r.live.mem_values_iff e).1 he
        exact e.path.now_destroy.trans (h e.path (mem_paths.2 (.inr ⟨name, e, hget, rfl⟩)))
    · simp at he

end InTime

/-- A registry that hosts its paths has them in their places. -/
lemma Hosts.seated {now time : Nat} (h : r.Hosts now time) : r.Seated :=
  fun name e he => ⟨(h.carries name e he).name_eq, h.alive he⟩

/-- **Time passes** for all paths. -/
lemma Seated.inTime_advance (h : r.Seated) (time : Nat) : (r.advance time).InTime := by
  intro q hq
  rcases mem_paths.1 hq with hq | ⟨a, e', he', rfl⟩
  · obtain ⟨p, -, rfl⟩ := List.mem_map.1 hq
    exact p.now_advance time
  · have hadvance : ((r.focus a id).update a (·.advance time)).live.get? a = some e' := by
      rw [← get?_focus_id, focus_advance h] at he'
      rwa [← updateAll_focus]
    have halive (e : RegistryEntry) (he : (r.focus a id).live.get? a = some e) :
        e.path.ended = false := by
      rw [get?_focus_id] at he
      exact (h a e he).2
    rcases get?_update (continues_advance time) halive hadvance with
      ⟨hne, -⟩ | ⟨-, e, ready, -, rfl, -⟩
    · exact absurd rfl hne
    · exact e.path.now_advance time

/-- **Every registry at rest** has one clock.

**Proof sketch.** Nothing but sleep takes time, and sleep takes the same time for all paths. -/
theorem Reachable.inTime {Admits : ConfSet → Prop} (h : r.Reachable Admits) : r.InTime := by
  induction h with
  | @start confs _ settings authenticator hls =>
    exact InTime.createMissing (r := { settings, confs, authenticator, hls })
      fun p hp => by simpa using mem_paths.1 hp
  | @apply r hreach op hop ih =>
    have hs := hreach.seated
    by_cases hmedia : op.isMedia = true
    · rcases hreach.hosts.numbered.changesMedia_apply hmedia with heq | ⟨id, act, heq⟩
      · rwa [heq]
      · rw [heq]
        exact ih.modifyPath id act
    cases op with
    | request number access c =>
      have hacquired := hreach.hosts.acquire access c.expected?
      have hnext : (r.acquire access c.expected?).1.InTime := by
        obtain ⟨questions, ⟨e, heq⟩ | ⟨-, heq⟩ | ⟨found, -, -, -, heq⟩⟩ :=
          acquire_cases hreach.hosts.allAlive access c.expected?
        · exact heq ▸ ih
        · exact heq ▸ ih
        · exact heq ▸ InTime.createPath (r := { r with questions }) ih access.name found
      change InTime (r.request number access _ _)
      unfold Registry.request
      split
      · next heq => exact (heq ▸ hnext :)
      · next heq =>
        rw [heq] at hacquired hnext
        exact hnext.deliver hacquired.seated _ _
    | requestOf number handle query c => exact ih.requestOf hs number handle _
    | sourceReady number handle d rtp => exact ih.requestOf hs number handle _
    | unpublish handle client => exact ih.tell hs handle _
    | unread handle client => exact ih.tell hs handle _
    | sourceNotReady handle => exact ih.tell hs handle _
    | abandon number => exact ih.abandon hs number
    | find access =>
      change InTime (r.find access).1
      rw [find_eq_asked]
      exact ih
    | reload confs =>
      change InTime ((r.reload confs).toOption.getD r)
      cases heq : r.reload confs with
      | error e => exact ih
      | ok r' => exact ih.reload heq
    | setHls server =>
      change InTime ((r.setHls server).toOption.getD r)
      cases heq : r.setHls server with
      | error e => exact ih
      | ok r' =>
        obtain ⟨news, rfl⟩ := setHls_eq heq
        exact ih
    | sleep ms => exact hs.inTime_advance _
    | close => exact ih.close
    | write _ _ | subscribe _ | unsubscribe _ | segmentCreate _ _ | segmentComplete _ _ _ =>
      exact absurd rfl hmedia

/-! ## No time -/

/-- What leaves a live path as it is leaves the registry as it is. -/
lemma update_of_same {name : String} {f : Path → Path}
    (h : ∀ e, r.live.get? name = some e → f e.path = e.path) : r.update name f = r := by
  cases he : r.live.get? name with
  | none => exact update_of_none he f
  | some e =>
    have hnotices : noticesSince e.path e.path = [] := by simp [noticesSince]
    simp only [update, he, h e he, hnotices, List.foldl_nil]
    rw [NameMap.insert_of_get? he]

/-- **When no time passes**, nothing happens.

**Proof sketch.** All paths show the present time, and at rest nothing is due: the timers of the
live paths lie ahead, those of the past are stopped, and commands are launched again later. -/
theorem Reachable.advance_now {Admits : ConfSet → Prop} (h : r.Reachable Admits) :
    r.advance r.now = r := by
  have hsame {p : Path} (hp : p ∈ r.paths) (hcalm : p.Calm) : p.advance r.now = p := by
    rw [← h.inTime p hp]
    exact (h.lived p hp).settle_of_calm hcalm
  have hlive : r.updateAll (·.advance r.now) = r := by
    refine List.foldlRecOn (motive := (· = r)) _ _ rfl fun b hb name _ => ?_
    rw [hb]
    exact update_of_same fun e he =>
      hsame (mem_paths.2 (.inr ⟨name, e, he, rfl⟩)) (h.calm name e he)
  have hpast : r.past.map (·.advance r.now) = r.past := by
    refine (List.map_congr_left fun p hp => ?_).trans (List.map_id' _)
    have hended : p.ended = true := (h.hosts.gone p hp).1.ended
    exact hsame (mem_paths.2 (.inl hp)) fun d hd => by simp [Path.deadline?, hended] at hd
  unfold advance
  dsimp only
  rw [hlive, hpast]

end Registry

end LivePaths
