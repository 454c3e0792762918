import Mathlib.Algebra.Order.Group.Multiset
import Mathlib.Tactic.Abel
import LivePaths.Proofs.Command.Plan

set_option relaxedAutoImplicit false
set_option autoImplicit false

/-!
# What is to come

The part of a plan that is still to come at some point of a history: the launches on all occasions
that are underway, and what is planned from then on. A step takes its own launches out of it.

## Main definitions

* `HookStep.launches`, `HookStep.lasting` — what a step launches, and what is underway after it.
* `HookHistory.outlook` — all that is still to come.
* `HookHistory.remaining` — what is underway at the end of a history.

## Main results

* `HookHistory.outlook_perm` — what is to come before a step is launched by it or comes after it.
* `HookHistory.remaining_cons` — what remains underway remains after the first step and the others.
-/

namespace LivePaths

section Definitions

variable (base : Environment) (c : CommandConf) (number time : Nat)

/-- **What is launched at a step** on an occasion that began before. -/
def Occasion.launchesIn (o : Occasion) (s : HookStep) : List Launch :=
  if s = .tearDown o.number then Launch.once time o.atEnd o.environment
  else o.relaunches time (time + s.duration)

/-- **What a step launches**: what is due on the occasions that are underway, the command of what
begins, and what is launched for a segment. -/
def HookStep.launches (os : List Occasion) (s : HookStep) : List Launch :=
  os.flatMap (·.launchesIn time s) ++
    ((s.occasion? base c number time).toList.flatMap fun o =>
      Launch.once o.start o.command.line o.environment) ++ s.single base c time

/-- **What is underway after a step**: what did not end, and what begins. -/
def HookStep.lasting (os : List Occasion) (s : HookStep) : List Occasion :=
  os.filter (fun o => s ≠ .tearDown o.number) ++ (s.occasion? base c number time).toList

/-- The number of the next teardown after a step. -/
def HookStep.nextNumber (s : HookStep) : Nat :=
  number + (s.occasion? base c number time).toList.length

namespace HookHistory

/-- **The outlook**: what is still to come on the occasions that are underway, and what is planned
from a time on. -/
def outlook (os : List Occasion) (h : HookHistory) : List Launch :=
  os.flatMap (·.toCome h time) ++
    ((h.occasions base number time).flatMap (fun x => x.1.launches x.2) ++ h.singles base time)

/-- What remains underway at the end of a history. -/
def remaining (os : List Occasion) (h : HookHistory) : List Occasion :=
  os.filter (fun o => ¬ h.TearsDown o.number) ++
    ((h.occasions base number time).filter fun x => ¬ x.2.TearsDown x.1.number).map (·.1)

end HookHistory

end Definitions

/-! ## Steps -/

section Laws

variable {base : Environment} {c : CommandConf} {number time : Nat} {os : List Occasion}

/-- At its end an occasion launches the command for it. -/
lemma Occasion.launchesIn_tearDown (o : Occasion) :
    o.launchesIn time (.tearDown o.number) = Launch.once time o.atEnd o.environment :=
  if_pos rfl

/-- At the end of another one it launches nothing. -/
lemma Occasion.launchesIn_of_ne {o : Occasion} (h : o.number ≠ number) :
    o.launchesIn time (.tearDown number) = [] := by
  have hne : HookStep.tearDown number ≠ .tearDown o.number := fun heq =>
    h (HookStep.tearDown.inj heq).symm
  rw [Occasion.launchesIn, if_neg hne]
  exact o.relaunches_self time

/-- Where a teardown is used, only what ends launches something. -/
lemma HookStep.launches_tearDown (n : Nat) :
    (tearDown n).launches base c number time os = os.flatMap (·.launchesIn time (tearDown n)) := by
  simp [HookStep.launches, HookStep.occasion?, HookStep.single]

lemma HookStep.lasting_tearDown (n : Nat) :
    (tearDown n).lasting base c number time os = os.filter (·.number ≠ n) := by
  simp [HookStep.lasting, HookStep.occasion?, eq_comm]

section Kinds

variable {s : HookStep} (hs : ∀ n, s ≠ .tearDown n)

include hs

/-- **A step that takes no time and ends nothing** launches what begins or what is for a segment. -/
lemma HookStep.launches_of_ne (hd : s.duration = 0) : s.launches base c number time os =
    ((s.occasion? base c number time).toList.flatMap fun o =>
      Launch.once o.start o.command.line o.environment) ++ s.single base c time := by
  have hnone : os.flatMap (·.launchesIn time s) = [] :=
    List.flatMap_eq_nil_iff.2 fun o _ => by
      rw [Occasion.launchesIn, if_neg (hs o.number), hd, Nat.add_zero, o.relaunches_self]
  rw [HookStep.launches, hnone, List.nil_append]

/-- If nothing ends, everything remains underway. -/
lemma HookStep.lasting_of_ne :
    s.lasting base c number time os = os ++ (s.occasion? base c number time).toList := by
  rw [HookStep.lasting, List.filter_eq_self.2 fun o _ => by simpa using hs o.number]

end Kinds

/-! ## Histories -/

/-- What is left out contributes nothing. -/
lemma flatMap_filter {α β : Type} (l : List α) (p : α → Bool) (f : α → List β) :
    (l.filter p).flatMap f = l.flatMap fun a => if p a then f a else [] := by
  induction l with
  | nil => rfl
  | cons a rest ih =>
    by_cases ha : p a = true
    · rw [List.filter_cons_of_pos ha, List.flatMap_cons, List.flatMap_cons, ih, if_pos ha]
    · rw [List.filter_cons_of_neg ha, List.flatMap_cons, ih, if_neg ha, List.nil_append]

namespace HookHistory

lemma occasions_cons (s : HookStep) (later : HookHistory) :
    occasions base number time ((c, s) :: later) =
      (s.occasion? base c number time).toList.map (·, later) ++
        later.occasions base (s.nextNumber base c number time) (time + s.duration) := by
  rw [occasions, HookStep.nextNumber]
  cases s.occasion? base c number time <;> rfl

/-- **Numbers** are given in the order of what begins. -/
lemma numbers_occasions (h : HookHistory) (number time : Nat) :
    (occasions base number time h).map (·.1.number) =
      List.range' number (occasions base number time h).length := by
  induction h generalizing number time with
  | nil => rfl
  | cons x later ih =>
    obtain ⟨c, s⟩ := x
    rw [occasions_cons, List.map_append, ih, List.length_append, HookStep.nextNumber]
    cases ho : s.occasion? base c number time with
    | none => simp
    | some o =>
      have hnumber : o.number = number := by cases s <;> cases ho <;> rfl
      rw [Option.toList_some, List.length_map, List.length_singleton, Nat.add_comm 1,
        List.range'_succ, ← hnumber]
      rfl

/-- What is to come on one occasion is launched at the step, or it is to come later. -/
lemma toCome_cons (o : Occasion) (s : HookStep) (later : HookHistory) :
    o.toCome ((c, s) :: later) time = o.launchesIn time s ++
      if s ≠ .tearDown o.number then o.toCome later (time + s.duration) else [] := by
  unfold Occasion.launchesIn
  by_cases hs : s = .tearDown o.number
  · subst hs
    simp [o.toCome_tearDown later c time]
  · rw [if_neg hs, if_pos hs, o.toCome_pass later hs c time]

/-- What begins at a step begins at once. -/
lemma start_of_occasion? {s : HookStep} {o : Occasion}
    (h : s.occasion? base c number time = some o) : o.start = time + s.duration := by
  cases s <;> cases h <;> rfl

/-- **What is to come before a step** is launched by it or to come after it.

**Proof sketch.** On each occasion that is underway, and for what begins at the step, what is to
come consists of these two parts. -/
lemma outlook_perm (s : HookStep) (later : HookHistory) :
    (outlook base number time os ((c, s) :: later)).Perm
      (s.launches base c number time os ++
        outlook base (s.nextNumber base c number time) (time + s.duration)
          (s.lasting base c number time os) later) := by
  have hunderway : (os.flatMap (·.toCome ((c, s) :: later) time)).Perm
      (os.flatMap (·.launchesIn time s) ++
        (os.filter fun o => s ≠ .tearDown o.number).flatMap
          (·.toCome later (time + s.duration))) := by
    have hfilter : (os.filter fun o => s ≠ .tearDown o.number).flatMap
        (·.toCome later (time + s.duration)) = os.flatMap fun o =>
          if s ≠ .tearDown o.number then o.toCome later (time + s.duration) else [] := by
      simp only [flatMap_filter, decide_eq_true_eq]
    rw [hfilter]
    simp only [toCome_cons]
    exact (List.flatMap_append_perm ..).symm
  have hbegins : (s.occasion? base c number time).toList.flatMap (·.launches later) =
      ((s.occasion? base c number time).toList.flatMap fun o =>
        Launch.once o.start o.command.line o.environment) ++
        (s.occasion? base c number time).toList.flatMap
          (·.toCome later (time + s.duration)) := by
    cases ho : s.occasion? base c number time with
    | none => rfl
    | some o => simp [o.launches_eq, start_of_occasion? ho]
  unfold outlook HookStep.launches HookStep.lasting
  rw [occasions_cons, singles, List.flatMap_append, List.flatMap_append, List.flatMap_map, hbegins]
  refine (hunderway.append_right _).trans ?_
  rw [← Multiset.coe_eq_coe]
  simp only [← Multiset.coe_add]
  abel

/-- **What remains underway** after a history remains after its first step and the others. -/
lemma remaining_cons (s : HookStep) (later : HookHistory) :
    remaining base number time os ((c, s) :: later) =
      remaining base (s.nextNumber base c number time) (time + s.duration)
        (s.lasting base c number time os) later := by
  have hunderway : os.filter (fun o => ¬ TearsDown ((c, s) :: later) o.number) =
      (os.filter fun o => s ≠ .tearDown o.number).filter
        fun o => ¬ later.TearsDown o.number := by
    rw [List.filter_filter]
    refine List.filter_congr fun o _ => ?_
    simp [tearsDown_cons, and_comm]
  have hbegins : (((s.occasion? base c number time).toList.map (·, later)).filter
        fun x => ¬ x.2.TearsDown x.1.number).map (·.1) =
      (s.occasion? base c number time).toList.filter fun o => ¬ later.TearsDown o.number := by
    cases s.occasion? base c number time with
    | none => rfl
    | some o => by_cases ho : later.TearsDown o.number <;> simp [ho]
  rw [remaining, hunderway, occasions_cons, List.filter_append, List.map_append, hbegins, remaining,
    HookStep.lasting, List.filter_append, List.append_assoc]

end HookHistory

end Laws

end LivePaths
