import LivePaths.Proofs.Command.Launches
import LivePaths.Proofs.Path.Lives
import LivePaths.Proofs.Signals

set_option relaxedAutoImplicit false
set_option autoImplicit false

/-!
# What those who watch a path are told

Those who watch a path are told when it begins and ends, when it becomes ready and ceases to be, and
when a command is launched that is to publish and is not needed any more. What begins is ended, and
it is ended with the commands and the environment that were fixed when it began. This holds however
the path comes to these ends, as what remains to be done at the end is part of its state.

## Main definitions

* `PathEvent.isMilestone` — what those who watch are told.
* `Openings` — what has begun and not ended, each with its environment.
* `Chronicle` — events and launches that belong together, from some openings to others.

## Main results

* `Chronicle.append` — one chronicle after another.
* `Chronicle.readiness`, `Chronicle.demands` — readiness and demand switch back and forth.
* `Chronicle.count_uninit`, `Chronicle.nothing_begins_after` — the end of the path.
-/

namespace LivePaths

/-! ## Milestones -/

namespace PathEvent

/-- **Milestones**: what those who watch a path are told, but for its source. -/
def isMilestone : PathEvent → Bool
  | .init | .uninit | .demand _ | .undemand _ | .ready | .notReady => true
  | _ => false

/-- The readiness of which an event tells. -/
def readiness? : PathEvent → Option Bool
  | .ready => some true
  | .notReady => some false
  | _ => none

/-- Whether a command is to publish, if an event tells of it. -/
def demanded? : PathEvent → Option Bool
  | .demand _ => some true
  | .undemand _ => some false
  | _ => none

lemma readiness?_of_not_milestone {e : PathEvent} (h : e.isMilestone = false) :
    e.readiness? = none := by
  cases e <;> simp_all [isMilestone, readiness?]

lemma demanded?_of_not_milestone {e : PathEvent} (h : e.isMilestone = false) :
    e.demanded? = none := by
  cases e <;> simp_all [isMilestone, demanded?]

end PathEvent

/-! ## Chronicles -/

/-- **Openings**: the environments of what has begun and not ended. -/
structure Openings where
  init : Option Environment := none
  ready : Option Environment := none
  demand : Option Environment := none

/-- The commands that were started for what has begun, each with its environment. -/
def Openings.running (c : CommandConf) (o : Openings) : List (CommandLine × Environment) :=
  o.init.toList.map (c.onInit, ·) ++ o.ready.toList.map (c.onReady, ·) ++
    o.demand.toList.map (c.onDemand, ·)

section Chronicles

variable (c : CommandConf) (base : Environment)

/-- **Chronicles**: events and the launches that belong to them, under some commands and the
environment that they have in common. What begins launches its first command in an environment that
tells of the occasion, and nothing begins twice or after the end of the path. What ends has begun,
and launches its last command in the same environment. Nothing else is launched, and nothing that
has a null character. -/
inductive Chronicle :
    Openings → List PathEvent → List (String × Environment) → Openings → Prop where
  | nil (o : Openings) : Chronicle o [] [] o
  | ready {o o' : Openings} {es : List PathEvent} {ls : List (String × Environment)}
      (source : Option Descriptor) (query : String) (hlive : o.init.isSome = true)
      (hclosed : o.ready = none)
      (h : Chronicle { o with ready := some (base.forReady source query) } es ls o') :
      Chronicle o (.ready :: es) (launchOf c.onReady.line (base.forReady source query) ++ ls) o'
  | notReady {o o' : Openings} {es : List PathEvent} {ls : List (String × Environment)}
      {env : Environment} (hopen : o.ready = some env)
      (h : Chronicle { o with ready := none } es ls o') :
      Chronicle o (.notReady :: es) (launchOf c.onNotReady env ++ ls) o'
  | demand {o o' : Openings} {es : List PathEvent} {ls : List (String × Environment)}
      (query : String) (hlive : o.init.isSome = true) (hclosed : o.demand = none)
      (h : Chronicle { o with demand := some (base.forDemand query) } es ls o') :
      Chronicle o (.demand query :: es) (launchOf c.onDemand.line (base.forDemand query) ++ ls) o'
  | undemand {o o' : Openings} {es : List PathEvent} {ls : List (String × Environment)}
      {env : Environment} (reason : String) (hopen : o.demand = some env)
      (h : Chronicle { o with demand := none } es ls o') :
      Chronicle o (.undemand reason :: es) (launchOf c.onUndemand env ++ ls) o'
  | uninit {o o' : Openings} {es : List PathEvent} {ls : List (String × Environment)}
      (hopen : o.init.isSome = true) (h : Chronicle { o with init := none } es ls o') :
      Chronicle o (.uninit :: es) ls o'
  | aside {o o' : Openings} {e : PathEvent} {es : List PathEvent}
      {ls : List (String × Environment)} (he : e.isMilestone = false) (h : Chronicle o es ls o') :
      Chronicle o (e :: es) ls o'

end Chronicles

namespace Chronicle

variable {c : CommandConf} {base : Environment} {o o' o'' : Openings} {es fs : List PathEvent}
  {ls ms : List (String × Environment)}

/-- One chronicle after another. -/
lemma append (h : Chronicle c base o es ls o') (h' : Chronicle c base o' fs ms o'') :
    Chronicle c base o (es ++ fs) (ls ++ ms) o'' := by
  induction h with
  | nil o => exact h'
  | ready source query hlive hclosed _ ih =>
    rw [List.append_assoc]
    exact .ready source query hlive hclosed (ih h')
  | notReady hopen _ ih =>
    rw [List.append_assoc]
    exact .notReady hopen (ih h')
  | demand query hlive hclosed _ ih =>
    rw [List.append_assoc]
    exact .demand query hlive hclosed (ih h')
  | undemand reason hopen _ ih =>
    rw [List.append_assoc]
    exact .undemand reason hopen (ih h')
  | uninit hopen _ ih => exact .uninit hopen (ih h')
  | aside he _ ih => exact .aside he (ih h')

/-- Events that are no milestones. -/
lemma asides (o : Openings) (hes : ∀ e ∈ es, e.isMilestone = false) :
    Chronicle c base o es [] o := by
  induction es with
  | nil => exact .nil o
  | cons e rest ih =>
    exact .aside (hes e List.mem_cons_self) (ih fun f hf => hes f (List.mem_cons_of_mem e hf))

/-- A milestone among events that are none. -/
lemma among {e : PathEvent} (h : Chronicle c base o [e] ls o')
    (hes : ∀ e ∈ es, e.isMilestone = false) (hfs : ∀ e ∈ fs, e.isMilestone = false) :
    Chronicle c base o (es ++ [e] ++ fs) ls o' := by
  have hbefore : Chronicle c base o es [] o := asides o hes
  have hall := (hbefore.append h).append (asides o' hfs)
  simpa using hall

/-! ### What a chronicle tells -/

/-- **Readiness** switches back and forth between what the openings say. -/
lemma readiness (h : Chronicle c base o es ls o') :
    Alternates o.ready.isSome (es.filterMap PathEvent.readiness?) ∧
      levelAfter o.ready.isSome (es.filterMap PathEvent.readiness?) = o'.ready.isSome := by
  induction h with
  | nil o => exact ⟨alternates_nil _, rfl⟩
  | ready source query hlive hclosed _ ih => simpa [PathEvent.readiness?, hclosed] using ih
  | notReady hopen _ ih => simpa [PathEvent.readiness?, hopen] using ih
  | aside he _ ih => simpa [PathEvent.readiness?_of_not_milestone he] using ih
  | demand _ _ _ _ ih | undemand _ _ _ ih | uninit _ _ ih =>
    rw [List.filterMap_cons_none rfl]
    exact ih

/-- **Demand** switches back and forth between what the openings say. -/
lemma demands (h : Chronicle c base o es ls o') :
    Alternates o.demand.isSome (es.filterMap PathEvent.demanded?) ∧
      levelAfter o.demand.isSome (es.filterMap PathEvent.demanded?) = o'.demand.isSome := by
  induction h with
  | nil o => exact ⟨alternates_nil _, rfl⟩
  | demand query hlive hclosed _ ih => simpa [PathEvent.demanded?, hclosed] using ih
  | undemand reason hopen _ ih => simpa [PathEvent.demanded?, hopen] using ih
  | aside he _ ih => simpa [PathEvent.demanded?_of_not_milestone he] using ih
  | ready _ _ _ _ _ ih | notReady _ _ ih | uninit _ _ ih =>
    rw [List.filterMap_cons_none rfl]
    exact ih

/-- In a chronicle nothing begins that has begun before: there is no beginning of the path. -/
lemma not_mem_init (h : Chronicle c base o es ls o') : .init ∉ es := by
  induction h with
  | nil o => simp
  | aside he _ ih =>
    rintro (_ | ⟨_, hmem⟩)
    · simp [PathEvent.isMilestone] at he
    · exact ih hmem
  | ready _ _ _ _ _ ih | notReady _ _ ih | demand _ _ _ _ ih | undemand _ _ _ ih
  | uninit _ _ ih => simpa using ih

/-- **The end** of the path is told at most once, and only if it has begun. -/
lemma count_uninit (h : Chronicle c base o es ls o') :
    es.count .uninit + o'.init.toList.length = o.init.toList.length := by
  induction h with
  | nil o => simp
  | @uninit o _ _ _ hopen _ ih =>
    obtain ⟨env, henv⟩ := Option.isSome_iff_exists.1 hopen
    simp only [Option.toList_none, List.length_nil, Nat.add_eq_zero_iff] at ih
    simp [henv, ih.1, ih.2]
  | @aside _ _ e _ _ he _ ih =>
    have hne : e ≠ .uninit := by
      rintro rfl
      simp [PathEvent.isMilestone] at he
    simpa [hne] using ih
  | ready _ _ _ _ _ ih | notReady _ _ ih | demand _ _ _ _ ih | undemand _ _ _ ih =>
    simpa using ih

/-- After the end of the path nothing begins. -/
lemma nothing_begins (h : Chronicle c base o es ls o') (hended : o.init = none) :
    ∀ e ∈ es, e ≠ .ready ∧ ∀ query, e ≠ .demand query := by
  induction h with
  | nil o => simp
  | ready source query hlive _ _ _ => simp [hended] at hlive
  | demand query hlive _ _ _ => simp [hended] at hlive
  | uninit hopen _ _ => simp [hended] at hopen
  | aside he _ ih =>
    refine List.forall_mem_cons.2 ⟨⟨?_, fun query => ?_⟩, ih hended⟩
    all_goals
      rintro rfl
      simp [PathEvent.isMilestone] at he
  | notReady _ _ ih | undemand _ _ _ ih => exact List.forall_mem_cons.2 ⟨by simp, ih hended⟩

/-- Commands that are launched in no environment leave no launches. -/
lemma launches_eq_nil (h : Chronicle c base o es ls o')
    (hc : ∀ line ∈ [c.onReady.line, c.onNotReady, c.onDemand.line, c.onUndemand],
      ∀ env, launchOf line env = []) : ls = [] := by
  induction h with
  | nil o => rfl
  | ready source query _ _ _ ih => rw [hc c.onReady.line (by simp), ih, List.append_nil]
  | notReady _ _ ih => rw [hc c.onNotReady (by simp), ih, List.append_nil]
  | demand query _ _ _ ih => rw [hc c.onDemand.line (by simp), ih, List.append_nil]
  | undemand _ _ _ ih => rw [hc c.onUndemand (by simp), ih, List.append_nil]
  | uninit _ _ ih | aside _ _ ih => exact ih

/-- What stands first is not what is looked for, which comes later. -/
lemma exists_of_cons_eq {e f : PathEvent} {before rest : List PathEvent} (hne : e ≠ f)
    (h : e :: es = before ++ f :: rest) : ∃ before', es = before' ++ f :: rest := by
  cases before with
  | nil => exact absurd (List.cons.inj h).1 hne
  | cons _ before' => exact ⟨before', (List.cons.inj h).2⟩

/-- **After the end** of the path nothing begins, wherever the end is told. -/
lemma nothing_begins_after (h : Chronicle c base o es ls o') {before rest : List PathEvent}
    (hes : es = before ++ .uninit :: rest) :
    ∀ e ∈ rest, e ≠ .ready ∧ ∀ query, e ≠ .demand query := by
  induction h generalizing before with
  | nil o => simp at hes
  | uninit hopen h ih =>
    cases before with
    | nil =>
      obtain rfl := (List.cons.inj hes).2
      exact h.nothing_begins rfl
    | cons f before' => exact ih (List.cons.inj hes).2
  | @aside _ _ e _ _ he h ih =>
    have hne : e ≠ .uninit := by
      rintro rfl
      simp [PathEvent.isMilestone] at he
    obtain ⟨before', heq⟩ := exists_of_cons_eq hne hes
    exact ih heq
  | ready _ _ _ _ h ih | notReady _ h ih | demand _ _ _ h ih | undemand _ _ h ih =>
    obtain ⟨before', heq⟩ := exists_of_cons_eq (by simp) hes
    exact ih heq

end Chronicle

end LivePaths
