import LivePaths.Registry.Basic

set_option relaxedAutoImplicit false
set_option autoImplicit false

/-!
# Streams and recordings of a registry

What sources, subscribers and recorders do with what they were given. It concerns one stream or one
recording, also when its path has ended.

## Main definitions

* `Registry.write`, `Registry.subscribe?`, `Registry.unsubscribe` — units of a stream.
* `Registry.segmentCreated?`, `Registry.segmentComplete?` — segments of a recording.
-/

namespace LivePaths.Registry

/-! ## Streams -/

/-- The stream of an identifier. -/
def stream? (r : Registry) (id : StreamId) : Option Stream :=
  (r.path? id.path).bind (·.stream? id.serial)

/-- Changes a stream. -/
def modifyStream (r : Registry) (id : StreamId) (f : Stream → Stream) : Registry :=
  r.modifyPath id.path (·.modifyStream id.serial f)

/-- **Writing** a unit to a stream; also gives the number of subscribers that it reaches. -/
def write (r : Registry) (id : StreamId) (u : MediaUnit) : Registry × Nat :=
  match r.stream? id with
  | none => (r, 0)
  | some s => (r.modifyStream id fun s => (s.write u).1, (s.write u).2)

/-- **Subscription** to a stream, unless it is closed; also gives the position of the first unit. -/
def subscribe? (r : Registry) (id : StreamId) : Option (Registry × Nat) := do
  let s ← r.stream? id
  let (subscribed, position) ← s.subscribe?
  some (r.modifyStream id fun _ => subscribed, position)

/-- The end of a subscription. -/
def unsubscribe (r : Registry) (id : StreamId) : Registry := r.modifyStream id Stream.unsubscribe

/-! ## Recordings -/

/-- The path of a name that has recorded last, with its recording. -/
def lastRecording? (r : Registry) (name : String) : Option (Path × Recording) :=
  (r.paths.filterMap fun p =>
    if p.name = name then p.lastRecording?.map (p, ·) else none).getLast?

/-- **A segment was created** by the last recording of a path. -/
def segmentCreated? (r : Registry) (name segment : String) : Option Registry := do
  let (p, recording) ← r.lastRecording? name
  some <| r.modifyPath p.id fun p =>
    { p with
      launcher :=
        p.launcher.onSegmentCreate p.baseEnvironment recording.onSegmentCreate segment }

/-- **A segment is complete** and has some length in milliseconds. -/
def segmentComplete? (r : Registry) (name segment : String) (ms : Nat) : Option Registry := do
  let (p, recording) ← r.lastRecording? name
  some <| r.modifyPath p.id fun p =>
    { p with
      launcher :=
        p.launcher.onSegmentComplete p.baseEnvironment recording.onSegmentComplete segment
          (ms / 1000) (ms % 1000 * 1000000) }

end LivePaths.Registry
