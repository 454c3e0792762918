import LivePaths.Access.Users
import LivePaths.Registry.Change
import LivePaths.Registry.Config
import LivePaths.Registry.Media
import LivePaths.Registry.Request

set_option relaxedAutoImplicit false
set_option autoImplicit false

/-!
# Sessions

A session works with one registry, step by step. It keeps what it is given, handles of paths,
streams and subscriptions, under keys of its choice, and it waits for the requests that are not
answered at once.

## Main definitions

* `SessionStep` — what can be done in a step.
* `SessionResult` — what comes of it.
* `Session` — the registry and what the session keeps.
-/

namespace LivePaths

/-! ## Steps -/

/-- **The configuration that a publisher expects**: the present one of the path whose handle is kept
under a key, if there is one; else a given one, if any. -/
structure ExpectedConf where
  handle : Option String := none
  conf : Option Conf := none
  deriving DecidableEq

/-- **Steps** of a session. A request goes to the path whose handle is kept under the key `via`, or
through the registry. A stream that results is kept under `key`. -/
inductive SessionStep where
  | describe (access : AccessRequest) (via : Option String) (key : String)
  | publish (access : AccessRequest) (via : Option String) (client : Client)
      (description : MediaDescription) (rtp : Bool) (expected : ExpectedConf) (key : String)
  | read (access : AccessRequest) (via : Option String) (client : Client) (key : String)
  | unpublish (name : String) (via : Option String) (client : Client)
  | unread (name : String) (via : Option String) (client : Client)
  /-- The source of a number that was created for a name, or the last one, is ready. -/
  | sourceReady (name : String) (number : Option Nat) (description : MediaDescription)
      (rtp : Bool) (key : String)
  | sourceNotReady (name : String) (number : Option Nat)
  | reload (confs : ConfSet)
  | setHls (server : Option String)
  | find (access : AccessRequest)
  | get (name key : String)
  | snapshot (name : String) (via : Option String)
  | sleep (ms : Nat)
  | close
  /-- The client of the request of a step gives up. -/
  | abort (step : Nat)
  | handle (key : String)
  | sameHandle (key other : String)
  | stream (key : String)
  | write (key : String) (unit : MediaUnit)
  | subscribe (key receiver : String)
  | unsubscribe (receiver : String)
  | receive (receiver : String) (limit : Nat)
  | segmentCreate (name segment : String)
  | segmentComplete (name segment : String) (ms : Nat)
  /-- A step that nobody could put together. -/
  | invalid (e : PathError)
  deriving DecidableEq

/-! ## Results -/

/-- What a session does not have. -/
inductive Missing where
  | source
  | request
  | handle
  | stream
  | receiver
  | recording
  deriving DecidableEq, Repr

/-- A stream as the session shows it; streams are numbered in the order in which they appear. -/
structure StreamView where
  number : Nat
  description : String
  rtp : Bool
  closed : Bool
  deriving DecidableEq, Repr

/-- A path as the session shows it. -/
structure HandleView where
  path : PathHandle
  terminated : Bool
  conf : String
  recordPath : String
  maxReaders : Nat
  deriving DecidableEq, Repr

/-- **Full text** of a handle. -/
def HandleView.debugText (v : HandleView) : String :=
  "PathHandle \x7b name: " ++ Text.quoted v.path.name ++ ", id: " ++ toString v.path.id ++
    ", terminated: " ++ toString v.terminated ++ " \x7d"

/-- **Results** of steps. -/
inductive SessionResult where
  | done
  /-- The request is not answered yet. -/
  | pending
  | failed (e : PathError)
  | missing (what : Missing)
  | described (stream : StreamView)
  /-- The client is attached to a path, which it learns if it came through the registry. -/
  | attached (path : Option PathHandle) (stream : StreamView)
  | redirected (target : String)
  | found (f : ConfSet.Found)
  | handle (view : HandleView)
  | same (b : Bool)
  | snapshot (s : Path.Snapshot)
  | stream (view : StreamView) (s : Stream)
  /-- So many subscribers got a unit. -/
  | reached (subscribers : Nat)
  /-- The stream has no new subscribers. -/
  | streamClosed
  | existed (b : Bool)
  | received (receipts : List Stream.Receipt)
  | registryClosed (text : String)
  deriving DecidableEq

/-! ## Sessions -/

/-- A subscription: a stream and the position of the next unit. -/
structure Receiver where
  stream : StreamId
  next : Nat
  deriving DecidableEq, Repr

/-- What a request is for. -/
inductive Awaited where
  | description
  /-- A path, whose handle is kept under a key if the request came through the registry. -/
  | attachment (handleKey : Option String)
  deriving DecidableEq, Repr

/-- A request that is not answered yet; its number is that of its step. -/
structure PendingRequest where
  step : Nat
  awaited : Awaited
  streamKey : String
  deriving DecidableEq, Repr

/-- **What a session shows.** -/
structure SessionView where
  /-- Whether it runs the sources of paths, and shows what they are told. -/
  sources : Bool := true
  /-- Whether it shows of its paths only that clients are disconnected. -/
  plain : Bool := false
  deriving DecidableEq, Repr

/-- **Session.** -/
structure Session where
  registry : Registry
  view : SessionView := {}
  handles : NameMap PathHandle := .empty
  streams : NameMap StreamId := .empty
  receivers : NameMap Receiver := .empty
  /-- The streams that have appeared, each at the place of its number. -/
  numbered : List StreamId := []
  pending : List PendingRequest := []
  /-- The live paths as they were shown last. -/
  shown : Option (List Path.Snapshot) := none
  /-- How many steps there have been. -/
  steps : Nat := 0

end LivePaths
