import LivePaths.Registry.Basic

set_option relaxedAutoImplicit false
set_option autoImplicit false

/-!
# Changes of a registry

What concerns all paths at once: a new set of configurations, another HLS server, the passing of
time, and the end.

## Main definitions

* `Registry.reload` — a new set of configurations.
* `Registry.setHls` — another HLS server.
* `Registry.advance` — passing of time.
* `Registry.close` — the end.
-/

namespace LivePaths.Registry

/-! ## New configurations -/

/-- What a live path does when the set of configurations changes. -/
inductive Fate where
  | keep
  /-- It takes up a configuration. -/
  | reload (c : Conf)
  | remove
  deriving DecidableEq

/-- **The fate** of a path, by its configuration and by the names of the configurations that a
running path can absorb or that are replaced. It ends if nothing governs it any more or if it
cannot absorb the difference. -/
def fateOf (m : Matching) (new : ConfSet) (absorbed replaced : List String) (name : String)
    (current : Conf) : Fate :=
  match new.find m name with
  | .error _ => .remove
  | .ok found =>
    if found.conf.name ≠ current.name then
      if current.canHotReload found.conf then .reload found.conf else .remove
    else if found.conf.name ∈ replaced then .remove
    else if found.conf.name ∈ absorbed then .reload found.conf
    else .keep

/-- **Hands over** a configuration to the live path of a name, which takes it up. -/
def handOver (r : Registry) (name : String) (c : Conf) : Registry :=
  { r with live := r.live.modify name fun e => { e with conf := c } }.update name (·.reload c)

/-- Carries out the fate of the live path of a name. -/
def reloadPath (new : ConfSet) (absorbed replaced : List String) (r : Registry) (name : String) :
    Registry :=
  match r.live.get? name with
  | none => r
  | some e =>
    match fateOf r.settings.matching new absorbed replaced name e.conf with
    | .keep => r
    | .reload c => r.handOver name c
    | .remove => r.removePath name

/-- **A new set of configurations** replaces the present one. -/
def reload (r : Registry) (new : ConfSet) : Except PathError Registry :=
  if r.closed then .error .terminated
  else
    let absorbed := r.confs.namesWith new .absorbed
    let replaced := r.confs.namesWith new .replaced
    let moved := r.live.names.foldl (reloadPath new absorbed replaced) r
    .ok { moved with confs := new }.createMissing

/-! ## HLS servers -/

/-- **Another HLS server**, or none; it is told which paths are ready. -/
def setHls (r : Registry) (server : Option String) : Except PathError Registry :=
  if r.closed then .error .terminated
  else
    let ready := r.live.values.filter (·.ready)
    .ok (ready.foldl (fun r e => r.tellHls true e.path.handle) { r with hls := server })

/-! ## Time and end -/

/-- **Passing of time** up to a later time. -/
def advance (r : Registry) (time : Nat) : Registry :=
  let moved := r.updateAll (·.advance time)
  { moved with past := moved.past.map (·.advance time), now := time }

/-- **The end**: all paths are destroyed. -/
def close (r : Registry) : Registry :=
  if r.closed then r
  else
    { r with
      live := .empty
      past := r.past ++ r.live.values.map (·.path.destroy)
      closed := true }

/-- The text of a registry. -/
def debugText (r : Registry) : String :=
  "PathRegistry \x7b closed: " ++ toString r.closed ++ " \x7d"

end LivePaths.Registry
