import Mathlib.Tactic.Common
import LivePaths.Registry.Run
import LivePaths.Session.Step

set_option relaxedAutoImplicit false
set_option autoImplicit false

/-!
# Registries of sessions

A session works on its registry by operations only, so that its registry is a reachable one at every
step: what holds of these holds of whatever a session shows.

## Main definitions

* `SessionStep.Admissible` — steps that hand over admissible sets of configurations.

## Main results

* `Session.reachable_stepAll` — the registry of a session is reachable all along.
-/

namespace LivePaths

/-- **Admissible steps** hand over admissible sets of configurations only. -/
def SessionStep.Admissible (Admits : ConfSet → Prop) : SessionStep → Prop
  | .reload confs => Admits confs
  | _ => True

/-- The path that has created a source has the name under which the source is listed. -/
lemma Registry.mem_sourcesOf_self {r : Registry} (name : String) {h : PathHandle}
    (hm : h ∈ r.sourcesOf name) : h ∈ r.sourcesOf h.name := by
  obtain ⟨p, hp, rfl⟩ := List.mem_map.1 hm
  have hname : p.name = name ∧ p.hasCreatedSource = true := by
    simpa using (List.mem_filter.1 hp).2
  rwa [show p.handle.name = name from hname.1]

namespace Session

variable {Admits : ConfSet → Prop} {s : Session}

/-! ## What is shown -/

/-- Numbering a stream does not touch the registry. -/
@[simp]
lemma registry_number (s : Session) (id : StreamId) : (s.number id).1.registry = s.registry := by
  unfold number
  split
  · rfl
  · rfl

@[simp]
lemma registry_showStream (s : Session) (id : StreamId) :
    (s.showStream id).1.registry = s.registry := by
  unfold showStream
  split
  · exact s.registry_number id
  · exact s.registry_number id

/-- Taking an answer does not touch the registry. -/
@[simp]
lemma registry_take (s : Session) (p : PendingRequest) (a : Answer) :
    (s.take p a).1.registry = s.registry := by
  unfold take
  cases a with
  | refused e => rfl
  | redirect target => rfl
  | stream id =>
    dsimp only
    split
    · simp
    · simp
    · split
      · simp
      · simp

lemma registry_conclude (s : Session) (answers : List (Nat × Answer)) (o : Outcome) :
    (s.conclude answers o).1.registry = s.registry := by
  unfold conclude
  split
  · rfl
  · dsimp only
    split
    · rfl
    · simp

/-- Nor does taking the answers to earlier requests. -/
lemma registry_resolve (answers : List (Nat × Answer)) (s : Session) (ps : List PendingRequest) :
    (resolve answers s ps).1.registry = s.registry := by
  induction ps generalizing s with
  | nil => rfl
  | cons p rest ih =>
    unfold resolve
    split
    · exact ih _
    · next a _ =>
      dsimp only
      rw [ih, registry_take]

/-! ## Doing what a step says -/

/-- Only a source that a path has created reports. -/
lemma mem_sourcesOf_of_source {name : String} {number : Option Nat} {handle : PathHandle}
    (hm : s.source? name number = some handle) : handle ∈ s.registry.sourcesOf handle.name := by
  refine Registry.mem_sourcesOf_self name ?_
  unfold source? at hm
  split at hm
  · dsimp only at hm
    split at hm
    · exact List.mem_of_getElem? hm
    · exact List.mem_of_getLast? hm
  · cases hm

section Perform

variable (h : s.registry.Reachable Admits)

include h

/-- A request is one through the registry or to a path. -/
lemma reachable_request (via : Option String) (access : AccessRequest) (c : ClientRequest)
    (awaited : Awaited) (key : String) :
    Registry.Reachable Admits (s.request via access c.expected? (c.message s.steps access.query)
      awaited key).1.registry := by
  unfold request
  split
  · exact h.apply (.request s.steps access c) trivial
  · split
    · exact h
    · next handle _ => exact h.apply (.requestOf s.steps handle access.query c) trivial

/-- A client leaves a path. -/
lemma reachable_leave (name : String) (via : Option String) {m : PathMessage}
    (hm : ∀ handle, ∃ op, s.registry.Permits Admits op ∧
      s.registry.tell handle m = s.registry.apply op) :
    (s.leave name via m).1.registry.Reachable Admits := by
  unfold leave
  split
  · exact h
  · next handle _ =>
    obtain ⟨op, hop, heq⟩ := hm handle
    exact (show s.registry.tell handle m = _ from heq) ▸ h.apply op hop

/-- A change of the registry that may fail. -/
lemma reachable_change {e : Except PathError Registry}
    (he : (e.toOption.getD s.registry).Reachable Admits) :
    (s.change e).1.registry.Reachable Admits := by
  cases e with
  | error _ => exact h
  | ok r => exact he

/-- Something happens to a recording, if there is one. -/
lemma reachable_recorded {r : Option Registry} (hr : (r.getD s.registry).Reachable Admits) :
    (s.recorded r).1.registry.Reachable Admits := by
  cases r with
  | none => exact h
  | some r => exact hr

/-- The end of a subscription. -/
lemma reachable_dropReceiver (key : String) :
    (s.dropReceiver key).registry.Reachable Admits := by
  unfold dropReceiver
  split
  · exact h
  · next receiver _ => exact h.apply (.unsubscribe receiver.stream) trivial

/-- **Doing what a step says** is an operation of the registry, or two, or none. -/
theorem reachable_perform {st : SessionStep} (hst : st.Admissible Admits) :
    (s.perform st).1.registry.Reachable Admits := by
  cases st with
  | describe access via key => exact reachable_request h via access .describe _ _
  | publish access via client d rtp expected key =>
    exact reachable_request h via access (.publish client d rtp (s.expected? expected)) _ _
  | read access via client key => exact reachable_request h via access (.read client) _ _
  | unpublish name via client =>
    exact reachable_leave h name via fun handle => ⟨.unpublish handle client, trivial, rfl⟩
  | unread name via client =>
    exact reachable_leave h name via fun handle => ⟨.unread handle client, trivial, rfl⟩
  | sourceReady name number d rtp key =>
    change (s.sourceReady name number d rtp key).1.registry.Reachable Admits
    unfold sourceReady
    split
    · exact h
    · next handle hm =>
      exact h.apply (.sourceReady s.steps handle d rtp) (mem_sourcesOf_of_source hm)
  | sourceNotReady name number =>
    change (s.sourceNotReady name number).1.registry.Reachable Admits
    unfold sourceNotReady
    split
    · exact h
    · next handle hm => exact h.apply (.sourceNotReady handle) (mem_sourcesOf_of_source hm)
  | reload confs => exact reachable_change h (h.apply (.reload confs) hst)
  | setHls server => exact reachable_change h (h.apply (.setHls server) trivial)
  | find access =>
    have hfind := h.apply (.find access) trivial
    change (s.find access).1.registry.Reachable Admits
    have hasked : (s.find access).1.registry = (s.registry.find access).1 := by
      unfold find
      split
      · next heq => exact (congrArg (·.1) heq).symm
      · next heq => exact (congrArg (·.1) heq).symm
    rwa [hasked]
  | get name key =>
    change (s.get name key).1.registry.Reachable Admits
    unfold get
    split
    · exact h
    · exact h
  | sleep ms => exact h.apply (.sleep ms) trivial
  | close => exact h.apply .close trivial
  | abort step =>
    change (s.abort step).1.registry.Reachable Admits
    unfold abort
    split
    · exact h.apply (.abandon step) trivial
    · exact h
  | stream key =>
    change (s.showStreamKept key).1.registry.Reachable Admits
    unfold showStreamKept
    split
    · exact h
    · next id _ _ => exact (s.registry_number id).symm ▸ h
  | write key unit =>
    change (s.write key unit).1.registry.Reachable Admits
    unfold write
    split
    · exact h
    · next id _ => exact h.apply (.write id unit) trivial
  | subscribe key receiver =>
    change (s.subscribe key receiver).1.registry.Reachable Admits
    unfold subscribe
    split
    · exact h
    · next id _ =>
      split
      · exact h
      · next r position hr =>
        have hsubscribed := h.apply (.subscribe id) trivial
        have heq : s.registry.apply (.subscribe id) = r := by
          simp [Registry.apply, hr]
        exact reachable_dropReceiver (s := s.withRegistry r) (heq ▸ hsubscribed) receiver
  | unsubscribe receiver => exact reachable_dropReceiver h receiver
  | receive receiver limit =>
    change (s.receive receiver limit).1.registry.Reachable Admits
    unfold receive
    split
    · exact h
    · exact h
  | segmentCreate name segment =>
    exact reachable_recorded h (h.apply (.segmentCreate name segment) trivial)
  | segmentComplete name segment ms =>
    exact reachable_recorded h (h.apply (.segmentComplete name segment ms) trivial)
  | snapshot | handle | sameHandle | invalid => exact h

end Perform

/-! ## Whole steps -/

/-- **One step** of a session. -/
theorem reachable_step (h : s.registry.Reachable Admits) {st : SessionStep}
    (hst : st.Admissible Admits) : (s.step st).1.registry.Reachable Admits := by
  have hsame : (s.step st).1.registry = (s.perform st).1.registry := by
    unfold step
    dsimp only [report]
    rw [registry_resolve, registry_conclude]
  rw [hsame]
  exact reachable_perform h hst

/-- **A session** has a reachable registry all along, as long as all sets of configurations that are
handed over are admissible. -/
theorem reachable_stepAll (h : s.registry.Reachable Admits) {sts : List SessionStep}
    (hsts : ∀ st ∈ sts, st.Admissible Admits) : (s.stepAll sts).1.registry.Reachable Admits := by
  induction sts generalizing s with
  | nil => exact h
  | cons st rest ih =>
    exact ih (reachable_step h (hsts st List.mem_cons_self))
      fun st' hst' => hsts st' (List.mem_cons_of_mem _ hst')

/-- A session begins with a reachable registry. -/
theorem reachable_start {confs : ConfSet} (h : Admits confs) (settings : PathSettings)
    (authenticator : Authenticator) (hls : Option String) (view : SessionView) :
    (start settings confs authenticator hls view).1.registry.Reachable Admits :=
  .start h settings authenticator hls

end Session

end LivePaths
