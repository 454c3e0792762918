import LivePaths.Registry.Change
import LivePaths.Registry.Media
import LivePaths.Registry.Request

set_option relaxedAutoImplicit false
set_option autoImplicit false

/-!
# Runs of a registry

What a registry goes through, one operation at a time. Each operation runs until nothing is left to
do, so that the registry is at rest in between.

## Main definitions

* `ClientRequest` — what clients ask of a path.
* `RegistryOp`, `Registry.apply` — the operations.
* `Registry.Permits`, `Registry.PermitsAll`, `Registry.run` — runs of possible operations.
* `Registry.Reachable` — the registries that operations lead to.
* `ConfSet.HasValidNames` — sets in which every configuration without a pattern has a path name.
-/

namespace LivePaths

/-- **Valid names**: every configuration without a pattern has the name of a path. -/
def ConfSet.HasValidNames (s : ConfSet) : Prop := ∀ c ∈ s.fixed, Name.IsValid c.name

instance (s : ConfSet) : Decidable s.HasValidNames :=
  inferInstanceAs (Decidable (∀ c ∈ s.fixed, Name.IsValid c.name))

/-! ## Operations -/

/-- **What clients ask** of a path. -/
inductive ClientRequest where
  | describe
  | publish (client : Client) (description : MediaDescription) (rtp : Bool)
      (expected : Option Conf)
  | read (client : Client)
  deriving DecidableEq

namespace ClientRequest

/-- The message to the path, which answers it under a number. -/
def message (c : ClientRequest) (number : Nat) (query : String) : PathMessage :=
  match c with
  | .describe => .describe number query
  | .publish client d rtp expected => .addPublisher number client d rtp query expected
  | .read client => .addReader number client query

/-- The configuration that the client expects, if it expects one. -/
def expected? : ClientRequest → Option Conf
  | .publish _ _ _ expected => expected
  | .describe | .read _ => none

end ClientRequest

/-- **Operations** on a registry. -/
inductive RegistryOp where
  /-- A request through the registry. -/
  | request (number : Nat) (access : AccessRequest) (c : ClientRequest)
  /-- A request to a path whose handle the client has. -/
  | requestOf (number : Nat) (h : PathHandle) (query : String) (c : ClientRequest)
  | unpublish (h : PathHandle) (client : Client)
  | unread (h : PathHandle) (client : Client)
  | sourceReady (number : Nat) (h : PathHandle) (description : MediaDescription) (rtp : Bool)
  | sourceNotReady (h : PathHandle)
  | abandon (number : Nat)
  | find (access : AccessRequest)
  | reload (confs : ConfSet)
  | setHls (server : Option String)
  | sleep (ms : Nat)
  | close
  | write (stream : StreamId) (unit : MediaUnit)
  | subscribe (stream : StreamId)
  | unsubscribe (stream : StreamId)
  | segmentCreate (name segment : String)
  | segmentComplete (name segment : String) (ms : Nat)

/-- The number under which the request of an operation is answered, if it makes one. -/
def RegistryOp.number? : RegistryOp → Option Nat
  | .request number .. | .requestOf number .. | .sourceReady number .. => some number
  | _ => none

namespace Registry

/-- **One operation**; one that fails leaves the registry as it is. -/
def apply (r : Registry) : RegistryOp → Registry
  | .request number access c => r.request number access c.expected? (c.message number access.query)
  | .requestOf number h query c => r.requestOf number h (c.message number query)
  | .unpublish h client => r.tell h (.removePublisher client)
  | .unread h client => r.tell h (.removeReader client)
  | .sourceReady number h d rtp => r.requestOf number h (.sourceReady number d rtp)
  | .sourceNotReady h => r.tell h .sourceNotReady
  | .abandon number => r.abandon number
  | .find access => (r.find access).1
  | .reload confs => (r.reload confs).toOption.getD r
  | .setHls server => (r.setHls server).toOption.getD r
  | .sleep ms => r.advance (r.now + ms)
  | .close => r.close
  | .write stream u => (r.write stream u).1
  | .subscribe stream => ((r.subscribe? stream).map (·.1)).getD r
  | .unsubscribe stream => r.unsubscribe stream
  | .segmentCreate name segment => (r.segmentCreated? name segment).getD r
  | .segmentComplete name segment ms => (r.segmentComplete? name segment ms).getD r

/-! ## Runs -/

/-- **Possible operations**: only admissible sets of configurations are handed over, and only
sources that a path has created report to it. -/
def Permits (Admits : ConfSet → Prop) (r : Registry) : RegistryOp → Prop
  | .reload confs => Admits confs
  | .sourceReady _ h _ _ | .sourceNotReady h => h ∈ r.sourcesOf h.name
  | _ => True

/-- **Possible runs** from a registry on. -/
def PermitsAll (Admits : ConfSet → Prop) : Registry → List RegistryOp → Prop
  | _, [] => True
  | r, op :: rest => r.Permits Admits op ∧ (r.apply op).PermitsAll Admits rest

/-- **The last state of a run.** -/
def run (r : Registry) (ops : List RegistryOp) : Registry := ops.foldl apply r

/-- A run is possible if its first part is, and then the other one from there on. -/
theorem permitsAll_append {Admits : ConfSet → Prop} {r : Registry}
    {before after : List RegistryOp} : r.PermitsAll Admits (before ++ after) ↔
      r.PermitsAll Admits before ∧ (r.run before).PermitsAll Admits after := by
  induction before generalizing r with
  | nil => simp [PermitsAll, run]
  | cons op rest ih => exact (and_congr_right fun _ => ih).trans and_assoc.symm

/-- **Reachable registries**, from a new one with an admissible set of configurations on. -/
inductive Reachable (Admits : ConfSet → Prop) : Registry → Prop where
  | start {confs : ConfSet} (h : Admits confs) (settings : PathSettings)
      (authenticator : Authenticator) (hls : Option String) :
      Reachable Admits (.start settings confs authenticator hls)
  | apply {r : Registry} (h : Reachable Admits r) (op : RegistryOp) (hop : r.Permits Admits op) :
      Reachable Admits (r.apply op)

/-- Operations lead from reachable registries to reachable registries. -/
theorem Reachable.run {Admits : ConfSet → Prop} {r : Registry} (h : r.Reachable Admits)
    {ops : List RegistryOp} (hops : r.PermitsAll Admits ops) : (r.run ops).Reachable Admits := by
  induction ops generalizing r with
  | nil => exact h
  | cons op rest ih => exact ih (h.apply op hops.1) hops.2

end Registry

end LivePaths
