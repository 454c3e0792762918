import LivePaths.Path.Life

set_option relaxedAutoImplicit false
set_option autoImplicit false

/-!
# Runs of a path

What a path goes through, one step at a time: messages, configurations that its registry hands over,
the passing of time, timers that go off, and the end that its registry wants. A snapshot changes
nothing and is no step.

## Main definitions

* `PathStep`, `Path.step` — steps.
* `Path.Permits`, `Path.PermitsAll` — what can happen to a path.
* `Path.visited`, `Path.moves`, `Path.run` — the states, the steps and the last state of a run.
* `Path.GoesOn`, `Path.Reached` — what happens between steps, and all states that can be reached.

## Main results

* `Path.forall_visited` — what every step keeps holds all along a run.
* `Path.forall_visited_iff` — a law that every step keeps but for some.
-/

namespace LivePaths

/-! ## Steps -/

/-- **Steps** of a path. -/
inductive PathStep where
  | message (m : PathMessage)
  /-- The registry hands over a configuration. -/
  | reload (c : Conf)
  /-- Time passes, up to the next deadline at most. -/
  | pass (time : Nat)
  /-- A timer goes off. -/
  | expire
  /-- The registry wants the path to end. -/
  | destroy
  deriving DecidableEq

/-- Whether a message comes from the source that the path runs itself. -/
def PathMessage.isReport : PathMessage → Bool
  | .sourceReady .. | .sourceNotReady => true
  | _ => false

namespace Path

/-- **One step.** -/
def step (p : Path) : PathStep → Path
  | .message m => p.receive m
  | .reload c => p.reload c
  | .pass time => p.runTo time
  | .expire => p.expire
  | .destroy => p.destroy

/-- **Possible steps**: only a source that the path runs itself reports to it, a configuration is
handed over only if a running path can absorb the difference, and time does not pass by a
deadline. -/
def Permits (p : Path) : PathStep → Prop
  | .message m => m.isReport = true → p.conf.hasStaticSource = true
  | .reload c => p.ended = false ∧ p.conf.canHotReload c = true
  | .pass time => p.now ≤ time ∧ ∀ d ∈ p.deadline?, time ≤ d
  | .expire => ∃ d ∈ p.deadline?, d ≤ p.now
  | .destroy => True

instance (p : Path) (s : PathStep) : Decidable (p.Permits s) := by
  cases s <;> unfold Permits <;> infer_instance

/-! ## Runs -/

/-- **Possible runs** from a path on. -/
def PermitsAll : Path → List PathStep → Prop
  | _, [] => True
  | p, s :: rest => p.Permits s ∧ (p.step s).PermitsAll rest

/-- **The states of a run**, the first and the last one included. -/
def visited : Path → List PathStep → List Path
  | p, [] => [p]
  | p, s :: rest => p :: (p.step s).visited rest

/-- **The moves of a run**: each step with the state in which it happens. -/
def moves : Path → List PathStep → List (Path × PathStep)
  | _, [] => []
  | p, s :: rest => (p, s) :: (p.step s).moves rest

/-- **The last state of a run.** -/
def run (p : Path) (ss : List PathStep) : Path := ss.foldl step p

instance decidablePermitsAll : (p : Path) → (ss : List PathStep) → Decidable (p.PermitsAll ss)
  | _, [] => .isTrue trivial
  | p, s :: rest =>
    have := decidablePermitsAll (p.step s) rest
    inferInstanceAs (Decidable (p.Permits s ∧ (p.step s).PermitsAll rest))

section Runs

variable {I : Path → Prop} (keeps : ∀ p s, I p → p.Permits s → I (p.step s))

include keeps in
/-- **Invariants**: what holds at first and is kept by every possible step holds in every state of
a run. -/
theorem forall_visited {p : Path} (h : I p) {ss : List PathStep} (hs : p.PermitsAll ss) :
    ∀ q ∈ p.visited ss, I q := by
  induction ss generalizing p with
  | nil =>
    intro q hq
    obtain rfl := List.mem_singleton.1 hq
    exact h
  | cons s rest ih =>
    intro q hq
    rcases List.mem_cons.1 hq with rfl | hq
    · exact h
    · exact ih (keeps p s h hs.1) hs.2 q hq

include keeps in
/-- An invariant holds in the states in which the steps of a run happen, and these are possible. -/
theorem forall_moves {p : Path} (h : I p) {ss : List PathStep} (hs : p.PermitsAll ss) :
    ∀ m ∈ p.moves ss, I m.1 ∧ m.1.Permits m.2 := by
  induction ss generalizing p with
  | nil => intro m hm; cases hm
  | cons s rest ih =>
    intro m hm
    rcases List.mem_cons.1 hm with rfl | hm
    · exact ⟨h, hs.1⟩
    · exact ih (keeps p s h hs.1) hs.2 m hm

include keeps in
/-- **Laws with exceptions**: let a law hold at first, and let every step keep it unless the step is
an exception, which breaks it. Then the law holds all along a run exactly if the run has no
exception. -/
theorem forall_visited_iff {L : Path → Prop} {Breaks : Path → PathStep → Prop}
    (step_iff : ∀ p s, I p → p.Permits s → L p → (L (p.step s) ↔ ¬ Breaks p s))
    {p : Path} (h : I p) (hL : L p) {ss : List PathStep} (hs : p.PermitsAll ss) :
    (∀ q ∈ p.visited ss, L q) ↔ ∀ m ∈ p.moves ss, ¬ Breaks m.1 m.2 := by
  induction ss generalizing p with
  | nil => simpa [visited, moves] using hL
  | cons s rest ih =>
    have hstep := step_iff p s h hs.1 hL
    have hnext := keeps p s h hs.1
    simp only [visited, moves, List.forall_mem_cons, hL, true_and]
    constructor
    · intro hall
      have hq : L (p.step s) := hall _ (by cases rest <;> simp [visited])
      exact ⟨hstep.1 hq, (ih hnext hq hs.2).1 hall⟩
    · rintro ⟨hb, hrest⟩
      exact (ih hnext (hstep.2 hb) hs.2).2 hrest

end Runs

/-! ## All states -/

/-- **Going on between steps**: units are written, subscribers come and go, and segments of
recordings launch commands. No stream gets another description by this, and no time passes. -/
structure GoesOn (p q : Path) : Prop where
  same : q = { p with stream := q.stream, pastStreams := q.pastStreams, launcher := q.launcher }
  descriptions : q.stream.map (·.description) = p.stream.map (·.description)
  now_eq : q.now = p.now

/-- **States that a path can reach** from its beginning on, by steps and in between. -/
inductive Reached : Path → Prop where
  | create (settings : PathSettings) (now id : Nat) (name : String) (found : ConfSet.Found) :
      Reached (create settings now id name found)
  | step {p : Path} (h : p.Reached) {s : PathStep} (hs : p.Permits s) : Reached (p.step s)
  | goOn {p q : Path} (h : p.Reached) (hq : p.GoesOn q) : Reached q

/-- Steps lead from reached states to reached states. -/
theorem Reached.run {p : Path} (h : p.Reached) {ss : List PathStep} (hs : p.PermitsAll ss) :
    (p.run ss).Reached := by
  induction ss generalizing p with
  | nil => exact h
  | cons s rest ih => exact ih (h.step hs.1) hs.2

end Path

end LivePaths
