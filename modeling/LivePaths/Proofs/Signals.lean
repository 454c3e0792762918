import Mathlib.Data.List.Chain
import Mathlib.Tactic.Common

set_option relaxedAutoImplicit false
set_option autoImplicit false

/-!
# Alternating signals

What switches between two levels signals each change: on, off, on again. Signals that alternate are
determined by the level before them and their number, and the last one tells the level after them.

## Main definitions

* `Alternates`, `levelAfter` — alternating signals, and what is known after some signals.

## Main results

* `alternates_append`, `levelAfter_append` — more signals go on from what is known then.
* `count_of_alternates` — a level that is left as often as it is reached.
-/

namespace LivePaths

/-- **Alternation**: each signal says the opposite of the one before, and the first one the opposite
of what was known before. -/
def Alternates (before : Bool) (signals : List Bool) : Prop := (before :: signals).IsChain (· ≠ ·)

instance (before : Bool) (signals : List Bool) : Decidable (Alternates before signals) :=
  inferInstanceAs (Decidable ((before :: signals).IsChain (· ≠ ·)))

/-- **What is known** after some signals: what the last one says, or what was known before. -/
def levelAfter (before : Bool) (signals : List Bool) : Bool := signals.getLast?.getD before

section Signals

variable (before : Bool) (signals more : List Bool)

@[simp]
lemma alternates_nil : Alternates before [] := .singleton _

@[simp]
lemma levelAfter_nil : levelAfter before [] = before := rfl

@[simp]
lemma alternates_cons (s : Bool) :
    Alternates before (s :: signals) ↔ before ≠ s ∧ Alternates s signals :=
  List.isChain_cons_cons

@[simp]
lemma levelAfter_cons (s : Bool) : levelAfter before (s :: signals) = levelAfter s signals := by
  simp [levelAfter, List.getLast?_cons]

/-- More signals go on from what is known then. -/
lemma alternates_append : Alternates before (signals ++ more) ↔
    Alternates before signals ∧ Alternates (levelAfter before signals) more := by
  induction signals generalizing before with
  | nil => simp
  | cons s rest ih => simp [ih, and_assoc]

lemma levelAfter_append :
    levelAfter before (signals ++ more) = levelAfter (levelAfter before signals) more := by
  induction signals generalizing before with
  | nil => rfl
  | cons s rest ih => simp [ih]

/-- What is true after signals that began with nothing known was said by the last one. -/
lemma levelAfter_false_eq_true :
    levelAfter false signals = true ↔ signals.getLast? = some true := by
  unfold levelAfter
  cases signals.getLast? with
  | none => simp
  | some s => simp

variable {before signals} in
/-- **A level is left as often as it is reached**, but for the level before and the one after. -/
lemma count_of_alternates (h : Alternates before signals) :
    signals.count true + before.toNat =
      signals.count false + (levelAfter before signals).toNat := by
  induction signals generalizing before with
  | nil => simp
  | cons s rest ih =>
    obtain ⟨hne, hrest⟩ := (alternates_cons ..).1 h
    have hcount := ih hrest
    rw [levelAfter_cons]
    cases s <;> cases before <;> simp_all
    omega

end Signals

end LivePaths
