import LivePaths.Proofs.Path.Launched

set_option relaxedAutoImplicit false
set_option autoImplicit false

/-!
# Time in parts

For a path it does not matter whether some time passes at once or in parts, wherever it is cut. A
deadline at the cut belongs to the first part: its timer goes off there, and after that no timer is
armed. A deadline after the cut is met in the second part as it would be met at once, since up to
then only commands are launched again.

## Main results

* `Path.Orderly.advance_advance` — time passes in parts as it passes at once.
-/

namespace LivePaths

namespace Path

variable {p : Path} {time later : Nat}

/-- The commands of a path follow the clock in parts. -/
lemma runTo_runTo (p : Path) (hle : time ≤ later) : (p.runTo time).runTo later = p.runTo later := by
  simp only [runTo, p.launcher.advance_advance hle]

/-- Up to a time before all deadlines only commands are launched again. -/
lemma advance_of_ahead (h : ∀ d ∈ p.deadline?, time < d) : p.advance time = p.runTo time := by
  have hsame : p.passDeadline time = p := by
    unfold passDeadline
    split
    · rfl
    · next d hd => rw [if_neg (Nat.not_le.2 (h d hd))]
  rw [advance, hsame, hsame]

namespace Orderly

variable (h : p.Orderly)

include h

/-- After the timer of a deadline has gone off, no timer is armed. -/
lemma deadline?_expire {d : Nat} (hd : p.deadline? = some d) :
    (p.runTo d).expire.deadline? = none := by
  rcases h.advance_cases d with ⟨d', hle, -, ⟨dead, hdead, hdue⟩, hnone, -⟩ | ⟨hahead, -⟩
  · obtain rfl : d = dead := Option.some.inj (hd.symm.trans hdead)
    rw [now_runTo] at hdue
    obtain rfl : d = d' := Nat.le_antisymm hdue hle
    exact hnone
  · exact absurd (hahead d hd) (Nat.lt_irrefl d)

/-- **Time passes in parts** as it passes at once.

**Proof sketch.** The next deadline lies in the first part, in the second part or after both. In
each case the path comes to it, or to the end of the time, with the same commands launched again,
and the timer that goes off there leaves none armed. -/
theorem advance_advance (hle : time ≤ later) :
    (p.advance time).advance later = p.advance later := by
  have hnext {q : Path} (hq : q.deadline? = none) {t : Nat} : q.advance t = q.runTo t :=
    advance_of_ahead fun d hd => by rw [hq] at hd; cases hd
  cases hd : p.deadline? with
  | none =>
    have hthen : (p.runTo time).deadline? = none := hd
    rw [hnext hd, hnext hd, hnext hthen, p.runTo_runTo hle]
  | some d =>
    have hnone := h.deadline?_expire hd
    by_cases hdt : d ≤ time
    · -- the timer goes off in the first part
      have hthen : ((p.runTo d).expire.runTo time).deadline? = none := hnone
      rw [advance_of_deadline hd hdt hnone, advance_of_deadline hd (Nat.le_trans hdt hle) hnone,
        hnext hthen, runTo_runTo _ hle]
    · have htd : time < d := Nat.lt_of_not_le hdt
      have hahead {t : Nat} (ht : t < d) : ∀ d' ∈ p.deadline?, t < d' := fun d' hd' => by
        rw [hd] at hd'
        exact Option.some.inj hd' ▸ ht
      rw [advance_of_ahead (hahead htd)]
      by_cases hdl : d ≤ later
      · -- it goes off in the second part
        have hmeets : (p.runTo time).runTo d = p.runTo d := p.runTo_runTo (Nat.le_of_lt htd)
        have hthen : (p.runTo time).deadline? = some d := hd
        rw [advance_of_deadline hd hdl hnone,
          advance_of_deadline hthen hdl (hmeets.symm ▸ hnone), hmeets]
      · have hld : later < d := Nat.lt_of_not_le hdl
        have hthen : ∀ d' ∈ (p.runTo time).deadline?, later < d' := hahead hld
        rw [advance_of_ahead hthen, advance_of_ahead (hahead hld), p.runTo_runTo hle]

end Orderly

end Path

end LivePaths
