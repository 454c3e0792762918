import LivePaths.Proofs.Path.Order

set_option relaxedAutoImplicit false
set_option autoImplicit false

/-!
# Vacant paths

A path that a pattern governs is there only while it is used: as long as it has a source, or
somebody reads or waits. Whatever takes away the last use ends the path in the same step. The one
exception is a new configuration: a vacant path that was governed without a pattern is not looked at
again when a pattern takes over.

## Main definitions

* `Path.isVacant` — neither a source nor anybody who reads or waits.
* `Path.IsUsed` — a path that is used as long as it lives.
* `Path.Exposes` — the steps after which an unused path lives on.

## Main results

* `Path.Orderly.isUsed_step_iff` — which steps keep a path used.
* `Path.InOrder.isUsed_receive` — requests to a live path leave it used or end it.
* `Path.Orderly.isUsed_advance` — the passing of time keeps a path used.
-/

namespace LivePaths.Path

/-! ## Use -/

/-- Whether there is neither a source nor anybody who reads or waits. -/
def isVacant (p : Path) : Bool :=
  p.source.isNone && p.readers.isEmpty && p.heldDescribes.isEmpty && p.heldReaders.isEmpty

/-- **Used paths**: as long as the path lives, it is not unused. -/
def IsUsed (p : Path) : Prop := p.ended = false → p.isUnused = false

/-- **Steps that expose a path**: it is vacant and is handed a configuration with a pattern. -/
def Exposes (p : Path) : PathStep → Prop
  | .reload c => c.hasPattern = true ∧ p.isVacant = true
  | _ => False

/-- A path is unused if it is vacant under a pattern. -/
lemma isUnused_eq (p : Path) : p.isUnused = (p.conf.hasPattern && p.isVacant) := by
  simp [isUnused, isVacant, Bool.and_assoc]

/-- A path that has a source is used. -/
lemma isUsed_of_source {p : Path} (h : p.source.isSome = true) : p.IsUsed :=
  fun _ => isUnused_of_source h

/-- **A path that looks for its end** is used or has ended. -/
lemma isUsed_closeIfUnused (p : Path) : p.closeIfUnused.IsUsed := by
  intro he
  unfold closeIfUnused at he ⊢
  split at he
  · simp [p.isOver_shutdown.ended] at he
  · next hu =>
    rw [if_neg hu]
    simpa using hu

/-- A publisher who is taken makes the path ready. -/
lemma isReady_addPublisher {p q : Path} {request : Nat} {client : Client}
    {d : MediaDescription} {rtp : Bool} {query : String} {expected : Option Conf}
    (hq : p.addPublisher request client d rtp query expected = .ok q) : q.isReady = true := by
  rw [addPublisher_eq] at hq
  split at hq
  · cases hq
  · rw [← Except.ok.inj hq]
    have hr : ((p.takenOver client query).becomeReady (p.announced d rtp)
        |>.notePublisherReady).isReady = true := by
      rw [notePublisherReady_eq, becomeReady_eq]
      rfl
    obtain ⟨cs, answers, -, -, heq⟩ := releaseHeld_eq _ hr
    rw [heq]
    exact hr

/-! ## Steps -/

section Steps

variable {p : Path}

/-- **Messages** to a live path leave it used, whether it was used before or not, but for those of
readers who leave and clients who give up. -/
theorem InOrder.isUsed_receive (h : p.InOrder) (he : p.ended = false) {m : PathMessage}
    (hm : m.isReport = true → p.conf.hasStaticSource = true)
    (hleave : ∀ client, m ≠ .removeReader client) (habandon : ∀ n, m ≠ .abandon n) :
    (p.receive m).IsUsed := by
  unfold Path.receive
  rw [if_neg (by simp [he])]
  cases m with
  | describe request query => exact isUsed_closeIfUnused _
  | addPublisher request client d rtp query expected =>
    dsimp only
    split
    · next q hq =>
      exact isUsed_of_source ((coherent_addPublisher hq).isSome_source (isReady_addPublisher hq))
    · exact isUsed_closeIfUnused _
  | removePublisher client => exact isUsed_closeIfUnused _
  | addReader request client query => exact isUsed_closeIfUnused _
  | removeReader client => exact absurd rfl (hleave client)
  | sourceReady request d rtp =>
    have hc := h.coherent.sourceReady (hm rfl) request d rtp
    have hconf : (p.sourceReady request d rtp).conf = p.conf :=
      congrArg (·.2.2.1) (p.proceeds_sourceReady request d rtp).same
    exact isUsed_of_source (hc.source.isSome_of_isStatic (hconf ▸ hm rfl))
  | sourceNotReady => exact isUsed_closeIfUnused _
  | abandon n => exact absurd rfl (habandon n)

/-- **A reader who leaves** does so from a path that has a source, or was none. -/
lemma InOrder.isUsed_removeReader (h : p.InOrder) (hu : p.isUnused = false)
    (client : Client) : (p.removeReader client).IsUsed := by
  rw [removeReader_eq]
  by_cases hr : p.readers = []
  · intro _
    simpa [isUnused, hr] using hu
  · have hready : p.isReady = true := by
      by_contra hn
      exact hr (h.coherent.readers (by simpa [isReady] using hn))
    exact isUsed_of_source (h.coherent.isSome_source hready)

/-- **A timer that goes off** keeps a path used: when the deadline of a launch is over, nothing that
counts as use is taken away. -/
lemma InOrder.isUsed_expire (h : p.InOrder) (hdue : ∃ d ∈ p.deadline?, d ≤ p.now)
    (hu : p.isUnused = false) : p.expire.IsUsed := by
  rcases h.expire_cases hdue with ⟨-, -, -, heq⟩ | ⟨-, -, heq⟩ | ⟨-, -, -, heq⟩ | ⟨-, -, heq⟩
  · exact heq ▸ isUsed_closeIfUnused _
  · exact heq ▸ isUsed_closeIfUnused _
  · exact heq ▸ isUsed_closeIfUnused _
  · intro _
    rw [heq, retireLaunch, stopLaunch_eq]
    exact hu

/-- **A new configuration** leaves a path vacant or not, and brings its pattern. -/
lemma isUnused_reload (c : Conf) : (p.reload c).isUnused = (c.hasPattern && p.isVacant) := by
  have hsource : (p.sourceUnder c).isNone = p.source.isNone := by
    unfold sourceUnder
    split <;> simp_all
  rw [isUnused_eq, reload_eq]
  simp [isVacant, hsource]

/-- **Which steps keep a path used**: all possible ones but those that expose it.

**Proof sketch.** Message by message: what may take away the last use looks for the end of the path
afterwards, and whatever else happens leaves a source that was there. -/
theorem Orderly.isUsed_step_iff (h : p.Orderly) (hu : p.IsUsed) {s : PathStep}
    (hs : p.Permits s) : (p.step s).IsUsed ↔ ¬ p.Exposes s := by
  cases he : p.ended with
  | true =>
    have hover := (h.gone he).step hs
    refine iff_of_true (fun hlive => by simp [hover.ended] at hlive) ?_
    cases s <;> simp_all [Permits, Exposes]
  | false =>
    have ho := h.live he
    cases s with
    | message m =>
      refine iff_of_true ?_ not_false
      by_cases hleave : ∀ client, m ≠ .removeReader client
      · by_cases habandon : ∀ n, m ≠ .abandon n
        · exact ho.isUsed_receive he hs hleave habandon
        · obtain ⟨n, hn⟩ := not_forall.1 habandon
          obtain rfl := not_not.1 hn
          have heq : p.step (.message (.abandon n)) = p.abandon n := by
            simp [Path.step, receive, he]
          intro _
          simpa [heq, abandon, isUnused] using hu he
      · obtain ⟨client, hn⟩ := not_forall.1 hleave
        obtain rfl := not_not.1 hn
        have heq : p.step (.message (.removeReader client)) = p.removeReader client := by
          simp [Path.step, receive, he]
        exact heq ▸ ho.isUsed_removeReader (hu he) client
    | reload c =>
      have hlive : (p.reload c).ended = false := (p.proceeds_reload c).ended.trans he
      have hunused := p.isUnused_reload c
      simp [Path.step, Exposes, IsUsed, hlive, hunused]
    | pass time => exact iff_of_true (fun _ => hu he) not_false
    | expire => exact iff_of_true (ho.isUsed_expire hs (hu he)) not_false
    | destroy =>
      have hended : (p.step .destroy).ended = true := by
        simp [Path.step, destroy, he, (isOver_shutdown _).ended]
      exact iff_of_true (fun hlive => by simp [hended] at hlive) not_false

/-- **Time** keeps a path used. -/
theorem Orderly.isUsed_advance (h : p.Orderly) (hu : p.IsUsed) {time : Nat} (hle : p.now ≤ time) :
    (p.advance time).IsUsed := by
  obtain ⟨ss, htick, hs, heq⟩ := h.advance_eq_run hle
  rw [heq]
  clear heq hle
  induction ss generalizing p with
  | nil => exact hu
  | cons s rest ih =>
    have hexposes : ¬ p.Exposes s := by
      have := htick s List.mem_cons_self
      cases s <;> simp_all [PathStep.isTick, Exposes]
    exact ih (h.step hs.1) ((h.isUsed_step_iff hu hs.1).2 hexposes)
      (fun t ht => htick t (List.mem_cons_of_mem _ ht)) hs.2

end Steps

end LivePaths.Path
