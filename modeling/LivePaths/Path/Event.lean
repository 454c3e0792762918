import LivePaths.Descriptor
import LivePaths.Error
import LivePaths.Media.Recording

set_option relaxedAutoImplicit false
set_option autoImplicit false

/-!
# Events of a path

What happens in the life of a path, as far as it concerns others: those who watch it, its source,
its recorder, its clients and its registry.

## Main definitions

* `StreamId` — which stream of which path.
* `Answer` — what a request is told.
* `Notice` — what the registry is told.
* `PathEvent` — all events.
-/

namespace LivePaths

/-- **Stream identifier**: a path and the place of the stream among all streams of the path. -/
structure StreamId where
  path : Nat
  serial : Nat
  deriving DecidableEq, Repr

/-- **Answer** to a request. -/
inductive Answer where
  | stream (id : StreamId)
  /-- The client must look elsewhere. -/
  | redirect (target : String)
  | refused (e : PathError)
  deriving DecidableEq, Repr

/-- **Notice** for the registry. -/
inductive Notice where
  | ready
  | notReady
  | closed
  deriving DecidableEq, Repr

/-- **Events** of a path. -/
inductive PathEvent where
  /-- The path begins. -/
  | init
  /-- The path ends. -/
  | uninit
  /-- A command was launched that is to publish. -/
  | demand (query : String)
  /-- It is not needed any more. -/
  | undemand (reason : String)
  /-- The source was started because somebody asked. -/
  | sourceDemand (query : String)
  /-- It is not needed any more. -/
  | sourceUndemand (reason : String)
  | ready
  | notReady
  | sourceCreated (path url : String) (captures : List String)
  | sourceStarted (onDemand : Bool) (query : String)
  | sourceStopped (reason : String)
  /-- The source is told the configuration of a name. -/
  | sourceReloaded (conf : String)
  | sourceClosed (reason : String)
  | recordStarted (recording : Recording) (description : String)
  | recordStopped (pathFormat : String)
  | publisherClosed (client : Client)
  | readerClosed (client : Client)
  | answered (request : Nat) (answer : Answer)
  | noticed (notice : Notice)
  deriving DecidableEq, Repr

namespace PathEvent

/-- The notice of an event that is one. -/
def notice? : PathEvent → Option Notice
  | .noticed n => some n
  | _ => none

/-- The request and the answer of an event that is one. -/
def answer? : PathEvent → Option (Nat × Answer)
  | .answered request a => some (request, a)
  | _ => none

/-- The recording of an event that starts one. -/
def recording? : PathEvent → Option Recording
  | .recordStarted r _ => some r
  | _ => none

/-- Whether an event concerns the source that the path runs. -/
def isSourceCall : PathEvent → Bool
  | .sourceCreated .. | .sourceStarted .. | .sourceStopped _ | .sourceReloaded _
  | .sourceClosed _ => true
  | _ => false

/-- Whether an event creates the source that the path runs. -/
def isSourceCreation : PathEvent → Bool
  | .sourceCreated .. => true
  | _ => false

/-- Whether an event closes a client. -/
def isClientClose : PathEvent → Bool
  | .publisherClosed _ | .readerClosed _ => true
  | _ => false

end PathEvent

end LivePaths
