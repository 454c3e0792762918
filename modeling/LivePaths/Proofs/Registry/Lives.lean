import LivePaths.Proofs.Path.Lives
import LivePaths.Proofs.Registry.Stages

set_option relaxedAutoImplicit false
set_option autoImplicit false

/-!
# The lives of a registry's paths

All paths of a registry, those of the past included, are in states of lives: whatever an operation
does to a path is a sequence of possible steps, or a media act. Whatever holds all along a life
hence holds of all paths of all registries at rest.

## Main results

* `Registry.Stage.lived` — stages lead all paths through their lives.
* `Registry.Reachable.lived` — all paths of a registry at rest are in states of lives.
-/

namespace LivePaths

namespace Registry

variable {Came : PathHandle → PathMessage → Prop} {r : Registry}

/-! ## Where paths come from -/

/-- A path is put in the place of a name. -/
lemma mem_paths_insert (r : Registry) {name : String} {e : RegistryEntry} {r' : Registry}
    {q : Path} (hq : q ∈ r'.paths) (hlive : r'.live = r.live.insert name e)
    (hsame : r'.past = r.past) : q = e.path ∨ q ∈ r.paths := by
  rcases mem_paths.1 hq with hpast | ⟨other, e', he', rfl⟩
  · exact .inr (mem_paths.2 (.inl (hsame ▸ hpast)))
  · rw [hlive, NameMap.get?_insert] at he'
    split at he'
    · exact .inl (congrArg (·.path) (Option.some.inj he').symm)
    · exact .inr (mem_paths.2 (.inr ⟨other, e', he', rfl⟩))

/-- The path of a name leaves its place. -/
lemma mem_paths_erase {name : String} {p : Path} {news : List HlsNews} {q : Path}
    (hq : q ∈ { r with live := r.live.erase name, past := r.past ++ [p], news }.paths) :
    q = p ∨ q ∈ r.paths := by
  rcases mem_paths.1 hq with hpast | ⟨other, e', he', rfl⟩
  · rcases List.mem_append.1 hpast with hpast | hnow
    · exact .inr (mem_paths.2 (.inl hpast))
    · exact .inl (List.mem_singleton.1 hnow)
  · rw [NameMap.get?_erase] at he'
    split at he'
    · cases he'
    · exact .inr (mem_paths.2 (.inr ⟨other, e', he', rfl⟩))

/-! ## Lives -/

/-- **Stages** lead all paths through their lives. -/
theorem Stage.lived {r' : Registry} (h : Stage Came r r') (hr : ∀ p ∈ r.paths, p.Lived) :
    ∀ q ∈ r'.paths, q.Lived := by
  have hlive {name : String} {e : RegistryEntry} (he : r.live.get? name = some e) :
      e.path.Lived := hr e.path (mem_paths.2 (.inr ⟨name, e, he, rfl⟩))
  intro q hq
  cases h with
  | note confs questions refusals => exact hr q hq
  | @steps name e ss he hname hlives hreached hss hm hgoes =>
    have hrun : (e.path.run ss).Lived := (hlive he).run hss
    rcases update_of_continues he (f := fun _ => e.path.run ss) hgoes hlives with
      ⟨-, ready, news, heq⟩ | ⟨-, news, heq⟩
    · rw [heq] at hq
      rcases mem_paths_insert r hq rfl rfl with rfl | hq
      · exact hrun
      · exact hr q hq
    · rw [heq] at hq
      rcases mem_paths_erase hq with rfl | hq
      · exact hrun
      · exact hr q hq
  | create found hnone =>
    rcases mem_paths_insert r hq rfl rfl with rfl | hq
    · exact .create ..
    · exact hr q hq
  | @handOver name e c he hlives hc =>
    rw [handOver_eq he] at hq
    rcases mem_paths_insert r hq rfl rfl with rfl | hq
    · exact (hlive he).step (s := .reload c) ⟨hlives, hc⟩
    · exact hr q hq
  | @remove name e he hlives =>
    rw [removePath_eq he] at hq
    rcases mem_paths_erase hq with rfl | hq
    · exact (hlive he).step (s := .destroy) trivial
    · exact hr q hq
  | media id act =>
    rw [paths_modifyPath] at hq
    obtain ⟨p, hp, rfl⟩ := List.mem_map.1 hq
    split
    · exact (hr p hp).media act
    · exact hr p hp
  | age time hpast =>
    rcases mem_paths.1 hq with hq | ⟨name, e, he, rfl⟩
    · obtain ⟨p, hp, rfl⟩ := List.mem_map.1 hq
      obtain ⟨hover, hle⟩ := hpast p hp
      rw [hover.advance_eq]
      exact (hr p (mem_paths.2 (.inl hp))).step (hover.permits_pass hle)
    · exact hlive he

/-- **The end** of a registry ends the lives of its paths. -/
lemma lived_close (hr : ∀ p ∈ r.paths, p.Lived) : ∀ q ∈ r.close.paths, q.Lived := by
  unfold close
  split
  · exact hr
  · intro q hq
    rcases mem_paths.1 hq with hq | ⟨name, e, he, -⟩
    · rcases List.mem_append.1 hq with hq | hq
      · exact hr q (mem_paths.2 (.inl hq))
      · obtain ⟨e, he, rfl⟩ := List.mem_map.1 hq
        obtain ⟨name, hget⟩ := (r.live.mem_values_iff e).1 he
        exact (hr e.path (mem_paths.2 (.inr ⟨name, e, hget, rfl⟩))).step (s := .destroy) trivial
    · simp at he

/-- **All paths of a registry at rest** are in states of lives.

**Proof sketch.** Operations are sequences of stages, but for another HLS server, which concerns no
path, and for the end. -/
theorem Reachable.lived {Admits : ConfSet → Prop} (h : r.Reachable Admits) :
    ∀ p ∈ r.paths, p.Lived := by
  induction h with
  | @start confs _ settings authenticator hls =>
    have hstages : Stages (fun _ _ => False) { settings, confs, authenticator, hls }
        (Registry.start settings confs authenticator hls) := stages_createMissing _
    exact hstages.keeps (I := fun r => ∀ p ∈ r.paths, p.Lived) (fun _ _ => Stage.lived)
      fun p hp => by simpa using mem_paths.1 hp
  | @apply r hreach op hop ih =>
    cases hglobal : op.isGlobal with
    | false =>
      exact (hreach.hosts.stages_apply hop hglobal).keeps
        (I := fun r => ∀ p ∈ r.paths, p.Lived) (fun _ _ => Stage.lived) ih
    | true =>
      cases op with
      | setHls server =>
        change ∀ p ∈ ((r.setHls server).toOption.getD r).paths, p.Lived
        cases heq : r.setHls server with
        | error e => exact ih
        | ok r' =>
          obtain ⟨news, rfl⟩ := setHls_eq heq
          exact ih
      | close => exact lived_close ih
      | _ => cases hglobal

end Registry

end LivePaths
