import LivePaths.Proofs.Command.Timetable
import LivePaths.Proofs.Command.Variables

set_option relaxedAutoImplicit false
set_option autoImplicit false

/-!
# Plans of launches

Which commands a sequence of steps has to launch, and when. A plan is made by looking ahead: what
begins at a step is launched again until the first later step that uses its teardown, and this is
when the command for its end is launched. A plan knows nothing of jobs, of clocks that are moved on
or of teardowns that are kept.

## Main definitions

* `HookHistory` — steps, each under the commands of a configuration.
* `HookHistory.timeUntil`, `HookHistory.TearsDown` — when a teardown is used, and whether it is.
* `Occasion`, `HookHistory.occasions` — what begins in a history.
* `Occasion.launches`, `HookHistory.plan` — what has to be launched.

## Main results

* `Occasion.launches_eq`, `Occasion.toCome_pass`, `Occasion.toCome_tearDown` — the launches of an
  occasion that are still to come, as time passes and at its end.
* `HookHistory.exists_of_mem_plan` — whatever is planned is launched in the environment of a step.
-/

namespace LivePaths

open Launcher (pause)

/-- **History**: steps of a run, each under the commands of a configuration of its own. -/
abbrev HookHistory := List (CommandConf × HookStep)

/-- How long a step takes. -/
def HookStep.duration : HookStep → Nat
  | .sleep ms => ms
  | _ => 0

namespace HookHistory

/-- **The time until a teardown** is used for the first time, or until the end of a history. -/
def timeUntil (number : Nat) : HookHistory → Nat
  | [] => 0
  | (_, s) :: later => if s = .tearDown number then 0 else s.duration + timeUntil number later

/-- **Use of a teardown** in a history. -/
def TearsDown (h : HookHistory) (number : Nat) : Prop := ∃ c, (c, .tearDown number) ∈ h

instance (h : HookHistory) (number : Nat) : Decidable (h.TearsDown number) :=
  decidable_of_iff (∃ x ∈ h, x.2 = .tearDown number) <| by
    simp [TearsDown]

variable {h : HookHistory} {number : Nat}

@[simp]
lemma not_tearsDown_nil : ¬ TearsDown [] number := by
  rintro ⟨c, hc⟩
  cases hc

lemma tearsDown_cons {c : CommandConf} {s : HookStep} :
    TearsDown ((c, s) :: h) number ↔ s = .tearDown number ∨ h.TearsDown number := by
  simp [TearsDown, exists_or, eq_comm]

end HookHistory

/-! ## Occasions -/

/-- **Occasion**: something that begins, with the command for its beginning and the one for its
end. -/
structure Occasion where
  /-- The number of its teardown. -/
  number : Nat
  /-- The time of its beginning. -/
  start : Nat
  command : CommandLine
  /-- The command for its end, none if it is empty. -/
  atEnd : String
  environment : Environment

/-- What begins at a step. -/
def HookStep.occasion? (base : Environment) (c : CommandConf) (number time : Nat) :
    HookStep → Option Occasion
  | .init => some ⟨number, time, c.onInit, "", base⟩
  | .demand query => some ⟨number, time, c.onDemand, c.onUndemand, base.forDemand query⟩
  | .ready source query =>
    some ⟨number, time, c.onReady, c.onNotReady, base.forReady source query⟩
  | _ => none

/-- What is launched for a segment. -/
def HookStep.single (base : Environment) (c : CommandConf) (time : Nat) : HookStep → List Launch
  | .segmentCreate segment => Launch.once time c.onSegmentCreate (base.forSegment segment)
  | .segmentComplete segment secs nanos =>
    Launch.once time c.onSegmentComplete (base.forCompleteSegment segment secs nanos)
  | _ => []

namespace Occasion

variable (o : Occasion)

/-- Whether the command is launched again and again. -/
def restarts : Bool := o.command.isSet && o.command.restart

/-- The launch of the command at a time. -/
def launchAt (time : Nat) : Launch := ⟨time, o.command.line, o.environment⟩

/-- **The times** at which the command is launched, if some steps follow: the time of the beginning
and, if it is to be restarted, all times after whole pauses until the teardown is used. -/
def times (later : HookHistory) : List Nat :=
  if o.restarts then
    (List.range (later.timeUntil o.number / pause + 1)).map fun k => o.start + pause * k
  else if o.command.isSet then [o.start]
  else []

/-- **The end**: the command for it is launched when the teardown is used for the first time, in the
environment of the beginning. -/
def ending (later : HookHistory) : List Launch :=
  if later.TearsDown o.number then
    Launch.once (o.start + later.timeUntil o.number) o.atEnd o.environment
  else []

/-- **All launches** on an occasion that some steps follow. -/
def launches (later : HookHistory) : List Launch :=
  (o.times later).map o.launchAt ++ o.ending later

end Occasion

/-! ### What is still to come -/

namespace Occasion

variable (o : Occasion) (later : HookHistory)

/-- The launches after a first time and up to a last one, if the occasion lasts so long. -/
def relaunches (first last : Nat) : List Launch :=
  if o.restarts then
    (List.range' ((first - o.start) / pause + 1)
        ((last - o.start) / pause - (first - o.start) / pause)).map fun k =>
      o.launchAt (o.start + pause * k)
  else []

/-- **What is still to come** after a time, if some steps follow. -/
def toCome (time : Nat) : List Launch :=
  o.relaunches time (time + later.timeUntil o.number) ++
    if later.TearsDown o.number then
      Launch.once (time + later.timeUntil o.number) o.atEnd o.environment
    else []

lemma relaunches_self (time : Nat) : o.relaunches time time = [] := by
  simp [relaunches]

/-- Time passes in parts. -/
lemma relaunches_append {first middle last : Nat} (hfm : first ≤ middle) (hml : middle ≤ last) :
    o.relaunches first middle ++ o.relaunches middle last = o.relaunches first last := by
  have hfirst := Nat.div_le_div_right (c := pause) (Nat.sub_le_sub_right hfm o.start)
  have hlast := Nat.div_le_div_right (c := pause) (Nat.sub_le_sub_right hml o.start)
  unfold relaunches
  split
  · rw [← List.map_append]
    congr 1
    rw [← Nat.sub_add_sub_cancel hlast hfirst, Nat.add_comm (_ - _), ← List.range'_append_1]
    congr 2
    omega
  · rfl

/-- **All launches** are the first one and those that are still to come then. -/
lemma launches_eq : o.launches later =
    Launch.once o.start o.command.line o.environment ++ o.toCome later o.start := by
  have htimes : (o.times later).map o.launchAt =
      Launch.once o.start o.command.line o.environment ++
        o.relaunches o.start (o.start + later.timeUntil o.number) := by
    unfold times relaunches Launch.once restarts CommandLine.isSet
    cases o.command.line.isEmpty <;> cases o.command.restart <;>
      simp [List.range_eq_range', List.range'_succ, launchAt]
  rw [launches, htimes, List.append_assoc]
  rfl

@[simp]
lemma toCome_nil (time : Nat) : o.toCome [] time = [] := by
  simp [toCome, HookHistory.timeUntil, relaunches_self]

/-- **A step passes**: it moves the launches of its time out of what is to come. -/
lemma toCome_pass {s : HookStep} (hs : s ≠ .tearDown o.number) (c : CommandConf) (time : Nat) :
    o.toCome ((c, s) :: later) time =
      o.relaunches time (time + s.duration) ++ o.toCome later (time + s.duration) := by
  unfold toCome
  rw [HookHistory.timeUntil, if_neg hs, ← Nat.add_assoc, ← List.append_assoc,
    relaunches_append _ (Nat.le_add_right ..) (Nat.le_add_right ..)]
  simp only [HookHistory.tearsDown_cons, hs, false_or]

/-- **The end**: its command is launched and nothing is still to come. -/
lemma toCome_tearDown (c : CommandConf) (time : Nat) :
    o.toCome ((c, .tearDown o.number) :: later) time =
      Launch.once time o.atEnd o.environment := by
  have hends : HookHistory.TearsDown ((c, .tearDown o.number) :: later) o.number :=
    HookHistory.tearsDown_cons.2 (.inl rfl)
  simp [toCome, HookHistory.timeUntil, relaunches_self, hends]

end Occasion

/-! ## Plans -/

namespace HookHistory

/-- **What begins** in a history, from a time on and with numbers from a first one on, each with the
steps that follow. -/
def occasions (base : Environment) (number time : Nat) :
    HookHistory → List (Occasion × HookHistory)
  | [] => []
  | (c, s) :: later =>
    match s.occasion? base c number time with
    | some o => (o, later) :: occasions base (number + 1) (time + s.duration) later
    | none => occasions base number (time + s.duration) later

/-- What is launched for segments in a history, from a time on. -/
def singles (base : Environment) (time : Nat) : HookHistory → List Launch
  | [] => []
  | (c, s) :: later => s.single base c time ++ singles base (time + s.duration) later

/-- **The plan** of a history, in no particular order. -/
def plan (base : Environment) (h : HookHistory) : List Launch :=
  (h.occasions base 0 0).flatMap (fun x => x.1.launches x.2) ++ h.singles base 0

variable {base : Environment}

/-! ### Environments -/

/-- An occasion has the environment of its step. -/
lemma environment_of_occasion? {s : HookStep} {c : CommandConf} {number time : Nat} {o : Occasion}
    (h : s.occasion? base c number time = some o) : s.environment? base = some o.environment := by
  cases s <;> cases h <;> rfl

/-- All launches of an occasion have its environment. -/
lemma environment_of_mem_launches {o : Occasion} {later : HookHistory} {x : Launch}
    (h : x ∈ o.launches later) : x.environment = o.environment := by
  rcases List.mem_append.1 h with h | h
  · obtain ⟨time, -, rfl⟩ := List.mem_map.1 h
    rfl
  · unfold Occasion.ending at h
    split at h
    · exact Launch.environment_of_mem_once h
    · cases h

lemma environment_of_mem_single {s : HookStep} {c : CommandConf} {time : Nat} {x : Launch}
    (h : x ∈ s.single base c time) : s.environment? base = some x.environment := by
  cases s with
  | segmentCreate | segmentComplete =>
    rw [Launch.environment_of_mem_once h]
    rfl
  | _ => cases h

lemma exists_of_mem_occasions {h : HookHistory} {number time : Nat} {x : Occasion × HookHistory}
    (hx : x ∈ h.occasions base number time) :
    ∃ y ∈ h, y.2.environment? base = some x.1.environment := by
  induction h generalizing number time with
  | nil => cases hx
  | cons y later ih =>
    obtain ⟨c, s⟩ := y
    unfold occasions at hx
    split at hx
    · next o ho =>
      rcases List.mem_cons.1 hx with rfl | hx
      · exact ⟨_, List.mem_cons_self, environment_of_occasion? ho⟩
      · obtain ⟨z, hz, henv⟩ := ih hx
        exact ⟨z, List.mem_cons_of_mem _ hz, henv⟩
    · obtain ⟨z, hz, henv⟩ := ih hx
      exact ⟨z, List.mem_cons_of_mem _ hz, henv⟩

lemma exists_of_mem_singles {h : HookHistory} {time : Nat} {x : Launch}
    (hx : x ∈ h.singles base time) : ∃ y ∈ h, y.2.environment? base = some x.environment := by
  induction h generalizing time with
  | nil => cases hx
  | cons y later ih =>
    rcases List.mem_append.1 hx with hx | hx
    · exact ⟨y, List.mem_cons_self, environment_of_mem_single hx⟩
    · obtain ⟨z, hz, henv⟩ := ih hx
      exact ⟨z, List.mem_cons_of_mem _ hz, henv⟩

/-- **Whatever is planned** is launched in the environment of a step. -/
lemma exists_of_mem_plan {h : HookHistory} {x : Launch} (hx : x ∈ h.plan base) :
    ∃ y ∈ h, y.2.environment? base = some x.environment := by
  rcases List.mem_append.1 hx with hx | hx
  · obtain ⟨⟨o, later⟩, ho, hmem⟩ := List.mem_flatMap.1 hx
    obtain ⟨y, hy, henv⟩ := exists_of_mem_occasions ho
    exact ⟨y, hy, by rw [environment_of_mem_launches hmem, henv]⟩
  · exact exists_of_mem_singles hx

end HookHistory

end LivePaths
