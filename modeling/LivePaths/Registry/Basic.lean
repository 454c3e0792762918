import LivePaths.Access.Request
import LivePaths.Path.Life

set_option relaxedAutoImplicit false
set_option autoImplicit false

/-!
# Registries

A registry owns all paths of a server. It creates and destroys them, takes up what they notify, and
passes the news of their readiness on to an HLS server.

## Main definitions

* `Registry` — the configurations, the live paths and the paths of the past.
* `Registry.update` — something happens to a live path.
* `Registry.createPath`, `Registry.removePath` — the beginning and the end of a path.
-/

namespace LivePaths

/-- **Handle** of a path: its name and the number under which it was created. -/
structure PathHandle where
  name : String
  id : Nat
  deriving DecidableEq, Repr

/-- The handle of a path. -/
def Path.handle (p : Path) : PathHandle := ⟨p.name, p.id⟩

/-- **Entry** of a live path. -/
structure RegistryEntry where
  path : Path
  /-- The configuration that was handed to the path last. -/
  conf : Conf
  /-- What the path has notified of its readiness. -/
  ready : Bool := false

/-- **News for an HLS server**: a path is or is not ready. -/
structure HlsNews where
  ready : Bool
  path : PathHandle
  /-- The tag of the server. -/
  server : String
  deriving DecidableEq, Repr

/-- **Registry** of paths. -/
structure Registry where
  settings : PathSettings
  confs : ConfSet
  /-- The live paths. -/
  live : NameMap RegistryEntry := .empty
  /-- The paths that have ended, oldest first. -/
  past : List Path := []
  /-- How many paths have been created. -/
  created : Nat := 0
  authenticator : Authenticator := .allowAll
  /-- What the authenticator was asked, the first question at the head. -/
  questions : List AuthRequest := []
  /-- The tag of the attached HLS server. -/
  hls : Option String := none
  /-- What HLS servers were told, the first news at the head. -/
  news : List HlsNews := []
  /-- The requests that were refused without reaching a path. -/
  refusals : List (Nat × PathError) := []
  now : Nat := 0
  closed : Bool := false

namespace Registry

/-! ## Looking up -/

/-- **The governing configuration** of a path. -/
def governing (r : Registry) (name : String) : Except PathError ConfSet.Found :=
  r.confs.find r.settings.matching name

/-- All paths, first those that have ended. -/
def paths (r : Registry) : List Path := r.past ++ r.live.values.map (·.path)

/-- The path of a number. -/
def path? (r : Registry) (id : Nat) : Option Path := r.paths.find? (·.id = id)

/-- Whether a handle is that of a live path. -/
def isLive (r : Registry) (h : PathHandle) : Bool :=
  (r.live.get? h.name).any (·.path.id = h.id)

/-- What can be seen of the live paths, in the order of their names. -/
def snapshots (r : Registry) : List Path.Snapshot := r.live.values.map (·.path.snapshot)

/-! ## Notices -/

/-- Tells the HLS server whether a path is ready. -/
def tellHls (r : Registry) (ready : Bool) (path : PathHandle) : Registry :=
  match r.hls with
  | none => r
  | some server => { r with news := r.news ++ [⟨ready, path, server⟩] }

/-- Takes up one notice of the live path of a name. -/
def takeNotice (name : String) (r : Registry) (n : Notice) : Registry :=
  match r.live.get? name with
  | none => r
  | some e =>
    match n with
    | .ready =>
      { r with live := r.live.insert name { e with ready := true } }.tellHls true e.path.handle
    | .notReady =>
      { r with live := r.live.insert name { e with ready := false } }.tellHls false e.path.handle
    | .closed =>
      let left := { r with live := r.live.erase name, past := r.past ++ [e.path] }
      if e.ready then left.tellHls false e.path.handle else left

/-- The notices that a path has given since an earlier state. -/
def noticesSince (before after : Path) : List Notice :=
  (after.log.drop before.log.length).filterMap PathEvent.notice?

/-- **Something happens** to the live path of a name; its notices are taken up. -/
def update (r : Registry) (name : String) (f : Path → Path) : Registry :=
  match r.live.get? name with
  | none => r
  | some e =>
    (noticesSince e.path (f e.path)).foldl (takeNotice name)
      { r with live := r.live.insert name { e with path := f e.path } }

/-- Something happens to a live path of a handle. -/
def updateHandle (r : Registry) (h : PathHandle) (f : Path → Path) : Registry :=
  if r.isLive h then r.update h.name f else r

/-- Something happens to all live paths. -/
def updateAll (r : Registry) (f : Path → Path) : Registry :=
  r.live.names.foldl (fun r name => r.update name f) r

/-- Changes a path, live or not, without any notice. -/
def modifyPath (r : Registry) (id : Nat) (f : Path → Path) : Registry :=
  let change (p : Path) : Path := if p.id = id then f p else p
  { r with
    live := r.live.mapValues fun e => { e with path := change e.path }
    past := r.past.map change }

/-! ## Beginning and end of a path -/

/-- **A new path** of a name. -/
def createPath (r : Registry) (name : String) (found : ConfSet.Found) : Registry :=
  let path := Path.create r.settings r.now (r.created + 1) name found
  { r with live := r.live.insert name { path, conf := found.conf }, created := r.created + 1 }

/-- **The end** of the live path of a name. -/
def removePath (r : Registry) (name : String) : Registry :=
  match r.live.get? name with
  | none => r
  | some e =>
    let left := { r with live := r.live.erase name, past := r.past ++ [e.path.destroy] }
    if e.ready then left.tellHls false e.path.handle else left

/-- The configurations without a pattern for which there is no path. -/
def missing (r : Registry) : List Conf :=
  r.confs.fixed.filter fun c => !r.live.contains c.name

/-- Creates the paths that are missing. -/
def createMissing (r : Registry) : Registry :=
  r.missing.foldl (fun r c => r.createPath c.name ⟨c, []⟩) r

/-- **A new registry**: every configuration without a pattern has its path. -/
def start (settings : PathSettings) (confs : ConfSet) (authenticator : Authenticator)
    (hls : Option String) : Registry :=
  createMissing { settings, confs, authenticator, hls }

end Registry

end LivePaths
