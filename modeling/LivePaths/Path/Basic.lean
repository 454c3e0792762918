import LivePaths.Command.Hooks
import LivePaths.Conf.Reload
import LivePaths.Media.Stream
import LivePaths.Path.Event
import LivePaths.Path.OnDemand

set_option relaxedAutoImplicit false
set_option autoImplicit false

/-!
# Paths

A path carries at most one stream from a source to its readers. It knows where the stream comes
from, who reads it, who waits for it, what is started only on demand, what is recorded, and what has
to be done when something ends.

## Main definitions

* `PathSettings` — what all paths of a server share.
* `Path` — a path and its history.
* `Path.snapshot` — what can be seen of a path from outside.
-/

namespace LivePaths

/-! ## Parts of a path -/

/-- **Settings** that all paths of a server share. -/
structure PathSettings where
  streamCapacity : Nat := 512
  rtspAddress : String := ":8554"
  /-- Whether there is somebody who records. -/
  recorders : Bool := false
  /-- How a source describes itself that a path runs, by the name of the path, the captures of its
  pattern and the URL. -/
  describeSource : String → List String → String → Descriptor := fun _ _ url => ⟨"idleSource", url⟩
  /-- How patterns are matched with names. -/
  matching : Matching := .engine

/-- **Source** of a path. -/
inductive Source where
  /-- Readers are sent elsewhere. -/
  | redirect
  /-- A client publishes. -/
  | publisher (client : Client)
  /-- The path runs the source itself. -/
  | static (url : String)
  deriving DecidableEq, Repr

/-- A request for the description of the stream that waits until the path is ready. -/
structure HeldDescribe where
  request : Nat
  /-- Whether the client has given up. -/
  abandoned : Bool := false
  deriving DecidableEq, Repr

/-- A reader that waits until the path is ready. -/
structure HeldReader where
  request : Nat
  client : Client
  /-- Whether the client has given up. -/
  abandoned : Bool := false
  deriving DecidableEq, Repr

/-! ## Paths -/

/-- **Path.** -/
structure Path where
  id : Nat
  name : String
  conf : Conf
  /-- What the pattern of the configuration made of the name when the path was created. -/
  captures : List String
  settings : PathSettings
  source : Option Source := none
  /-- The stream, while the path is ready. -/
  stream : Option Stream := none
  /-- The streams before, oldest first. -/
  pastStreams : List Stream := []
  /-- Since when the path has been ready. -/
  readySince : Option Nat := none
  /-- The query of the request that brought the source. -/
  query : String := ""
  /-- The attached readers, in the order in which they came. -/
  readers : List Client := []
  heldDescribes : List HeldDescribe := []
  heldReaders : List HeldReader := []
  /-- The activation of a source that the path runs itself. -/
  sourceDemand : OnDemand := {}
  /-- The activation of a command that is to publish. -/
  launchDemand : OnDemand := {}
  recording : Option Recording := none
  onUninit : Option Teardown := none
  onNotReady : Option Teardown := none
  onUndemand : Option Teardown := none
  /-- The clock of the path and its commands. -/
  launcher : Launcher := {}
  /-- All events so far, the first one at the head. -/
  log : List PathEvent := []
  /-- Whether the path is ending or has ended. -/
  ended : Bool := false

namespace Path

/-- The present time. -/
def now (p : Path) : Nat := p.launcher.now

/-- What all commands of the path find in their environment. -/
def baseEnvironment (p : Path) : Environment :=
  .base p.name p.settings.rtspAddress p.captures

/-- Whether there is a stream. -/
def isReady (p : Path) : Bool := p.stream.isSome

/-- The identifier of the present stream, or else of the next one. -/
def streamId (p : Path) : StreamId := ⟨p.id, p.pastStreams.length⟩

/-- The stream at a place among all streams of the path. -/
def stream? (p : Path) (serial : Nat) : Option Stream :=
  (p.pastStreams ++ p.stream.toList)[serial]?

/-- Whether the path has created a source that it runs itself. -/
def hasCreatedSource (p : Path) : Bool := p.log.any (·.isSourceCreation)

/-- The recording that was started last. -/
def lastRecording? (p : Path) : Option Recording :=
  (p.log.filterMap PathEvent.recording?).getLast?

/-- How the source is described. -/
def sourceDescriptor (p : Path) : Option Descriptor :=
  p.source.map fun
    | .redirect => ⟨"redirect", p.conf.sourceRedirect⟩
    | .publisher client => client.descriptor
    | .static url => p.settings.describeSource p.name p.captures url

/-- **Unused**: a path that was created for a name that matches a pattern ends as soon as it has no
source and nobody reads or waits. -/
def isUnused (p : Path) : Bool :=
  p.conf.hasPattern && p.source.isNone && p.readers.isEmpty && p.heldDescribes.isEmpty &&
    p.heldReaders.isEmpty

/-- Changes the stream at a place among all streams of the path. -/
def modifyStream (p : Path) (serial : Nat) (f : Stream → Stream) : Path :=
  if serial < p.pastStreams.length then { p with pastStreams := p.pastStreams.modify serial f }
  else if serial = p.pastStreams.length then { p with stream := p.stream.map f }
  else p

/-! ## Events -/

/-- Writes an event down. -/
def emit (p : Path) (e : PathEvent) : Path := { p with log := p.log ++ [e] }

/-- Answers a request. -/
def answer (p : Path) (request : Nat) (a : Answer) : Path := p.emit (.answered request a)

/-- Notifies the registry, unless the path is ending. -/
def notify (p : Path) (n : Notice) : Path := if p.ended then p else p.emit (.noticed n)

/-- Carries out a teardown, if there is one. -/
def tearDown (p : Path) (t : Option Teardown) : Path :=
  match t with
  | some t => { p with launcher := p.launcher.tearDown t }
  | none => p

/-! ## Looking from outside -/

/-- **Snapshot**: what can be seen of a path. -/
structure Snapshot where
  name : String
  conf : String
  source : Option Descriptor := none
  ready : Bool := false
  /-- Whether it is known since when the path has been ready. -/
  timed : Bool := false
  tracks : List String := []
  received : UInt64 := 0
  sent : UInt64 := 0
  readers : List Descriptor := []
  deriving DecidableEq, Repr

/-- The snapshot of a path where nothing has happened. -/
def Snapshot.idle (name conf : String) : Snapshot := { name, conf }

/-- **The snapshot** of a path; the readers are in the order of their lines. -/
def snapshot (p : Path) : Snapshot :=
  let seen :=
    { Snapshot.idle p.name p.conf.name with
      source := p.sourceDescriptor
      readers := Text.sortByLine Descriptor.line (p.readers.map (·.descriptor)) }
  match p.stream with
  | none => seen
  | some s =>
    { seen with
      ready := true, timed := p.readySince.isSome, tracks := s.description.codecs
      received := s.received, sent := s.sent }

end Path

end LivePaths
