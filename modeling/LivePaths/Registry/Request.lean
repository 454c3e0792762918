import LivePaths.Registry.Basic

set_option relaxedAutoImplicit false
set_option autoImplicit false

/-!
# Requests to a registry

How a request finds its path. It is refused, in this order, if the name is no path name or has no
configuration, if a publisher expects another configuration, or if the client may not do what it
asks; only then the path is looked up or created.

## Main definitions

* `Registry.acquire` — the path for a request.
* `Registry.request`, `Registry.requestOf` — a request through the registry or to a path.
* `Registry.find`, `Registry.get`, `Registry.list`, `Registry.snapshot` — questions that change no
  path.
-/

namespace LivePaths.Registry

/-! ## The path for a request -/

/-- **Authentication** of a request, unless it is known already. -/
def authenticate (r : Registry) (a : AccessRequest) : Registry × Except PathError Unit :=
  if a.skipAuth then (r, .ok ())
  else
    let question := a.toAuthRequest
    ({ r with questions := r.questions ++ [question] },
      (r.authenticator question).mapError .authDenied)

/-- **The path of a name**, a new one if there is none. A path that has ended and has not left yet
is taken out first (none is met where the registry is at rest). -/
def provide (r : Registry) (name : String) (found : ConfSet.Found) : Registry :=
  match r.live.get? name with
  | none => r.createPath name found
  | some e => if e.path.ended then (r.removePath name).createPath name found else r

/-- **The path for a request**, if it is not refused. -/
def acquire (r : Registry) (a : AccessRequest) (expected : Option Conf) :
    Registry × Except PathError Unit :=
  if r.closed then (r, .error .terminated)
  else
    match r.governing a.name with
    | .error e => (r, .error e)
    | .ok found =>
      if expected.any (· ≠ found.conf) then (r, .error .configurationChanged)
      else
        match r.authenticate a with
        | (r, .error e) => (r, .error e)
        | (r, .ok ()) => (r.provide a.name found, .ok ())

/-! ## Requests -/

/-- Refuses a request that does not reach a path. -/
def refuse (r : Registry) (request : Nat) (e : PathError) : Registry :=
  { r with refusals := r.refusals ++ [(request, e)] }

/-- A path receives a message, and what is due then is done. -/
def deliver (m : PathMessage) (p : Path) : Path := (p.receive m).settle

/-- **A request** through the registry, which passes on a message. -/
def request (r : Registry) (number : Nat) (a : AccessRequest) (expected : Option Conf)
    (m : PathMessage) : Registry :=
  match r.acquire a expected with
  | (r, .error e) => r.refuse number e
  | (r, .ok ()) => r.update a.name (deliver m)

/-- **A request to a path** whose handle the client has. -/
def requestOf (r : Registry) (number : Nat) (h : PathHandle) (m : PathMessage) : Registry :=
  if r.isLive h then r.update h.name (deliver m) else r.refuse number .terminated

/-- A message to a path that expects no answer. -/
def tell (r : Registry) (h : PathHandle) (m : PathMessage) : Registry :=
  r.updateHandle h (deliver m)

/-- **A client gives up** its request. -/
def abandon (r : Registry) (number : Nat) : Registry := r.updateAll (deliver (.abandon number))

/-! ## Questions -/

/-- **The configuration** that governs a path, if the client may ask. -/
def find (r : Registry) (a : AccessRequest) : Registry × Except PathError ConfSet.Found :=
  if r.closed then (r, .error .terminated)
  else
    match r.governing a.name with
    | .error e => (r, .error e)
    | .ok found =>
      let (r, granted) := r.authenticate a
      (r, granted.map fun _ => found)

/-- **The live path** of a name. -/
def get (r : Registry) (name : String) : Except PathError PathHandle :=
  if r.closed then .error .terminated
  else
    match r.live.get? name with
    | some e => .ok e.path.handle
    | none => .error (.notFound name)

/-- What can be seen of all live paths. -/
def list (r : Registry) : Except PathError (List Path.Snapshot) :=
  if r.closed then .error .terminated else .ok r.snapshots

/-- What can be seen of the live path of a name. -/
def snapshot (r : Registry) (name : String) : Except PathError Path.Snapshot :=
  if r.closed then .error .terminated
  else
    match r.live.get? name with
    | some e => .ok e.path.snapshot
    | none => .error (.notFound name)

/-- What can be seen of a live path of a handle. -/
def snapshotOf (r : Registry) (h : PathHandle) : Except PathError Path.Snapshot :=
  match r.live.get? h.name with
  | some e => if e.path.id = h.id then .ok e.path.snapshot else .error .terminated
  | none => .error .terminated

/-- The sources that paths of a name have created, by the handles of their paths, oldest first. -/
def sourcesOf (r : Registry) (name : String) : List PathHandle :=
  (r.paths.filter fun p => p.name = name && p.hasCreatedSource).map Path.handle

/-! ## Answers -/

/-- The answers that a path has given since it had an earlier history. -/
def answersAfter (events : Nat) (p : Path) : List (Nat × Answer) :=
  (p.log.drop events).filterMap PathEvent.answer?

/-- How many events there were of a path. -/
def eventsOf (r : Registry) (id : Nat) : Nat :=
  match r.path? id with
  | some p => p.log.length
  | none => 0

/-- **The answers** that were given since an earlier state. -/
def answersSince (before after : Registry) : List (Nat × Answer) :=
  (after.refusals.drop before.refusals.length).map (fun x => (x.1, .refused x.2)) ++
    after.paths.flatMap fun p => answersAfter (before.eventsOf p.id) p

end LivePaths.Registry
