import LivePaths.Error
import LivePaths.Media.Description

set_option relaxedAutoImplicit false
set_option autoImplicit false

/-!
# Streams

A stream hands the units of a source to all its subscribers. It keeps the latest units, so that a
subscriber that is slower than the source loses the oldest ones and is told how many.

## Main definitions

* `Stream` — a stream with the units that it keeps and its byte counters.
* `Stream.write`, `Stream.close` — what the source and the path do.
* `Stream.subscribe?`, `Stream.receive` — what subscribers do.

## Main results

* `Stream.write_of_closed` — nothing is written to a closed stream.
-/

namespace LivePaths

/-! ## Units -/

/-- Data given as a text that is repeated. -/
structure Payload where
  text : String
  times : Nat := 1
  deriving DecidableEq, Repr

namespace Payload

/-- The size of the data in bytes. -/
def size (p : Payload) : Nat := p.text.utf8ByteSize * p.times

/-- The data as one text. -/
def toText (p : Payload) : String := String.join (List.replicate p.times p.text)

/-- The data as one text, unless it is long. -/
def short? (p : Payload) : Option String := if p.size ≤ 64 then some p.toText else none

end Payload

/-- **Unit**: a piece of data of one media. -/
structure MediaUnit where
  /-- The position of the media in the description. -/
  media : Nat := 0
  timestamp : Nat := 0
  payload : Payload
  keyframe : Bool := false
  deriving DecidableEq, Repr

/-! ## Streams -/

/-- **Stream** of a path that is ready. -/
structure Stream where
  description : MediaDescription
  /-- Whether packets are made for the readers. -/
  rtp : Bool
  /-- How many units are kept. -/
  capacity : Nat
  /-- The kept units, oldest first. -/
  units : List MediaUnit := []
  /-- How many units have been handed out, kept or lost. -/
  position : Nat := 0
  subscribers : Nat := 0
  /-- The bytes that came from the source. -/
  received : UInt64 := 0
  /-- The bytes that went to subscribers. -/
  sent : UInt64 := 0
  closed : Bool := false
  deriving DecidableEq, Repr

namespace Stream

/-- **A new stream** of a path. It has a media, and room for a power of two of units. -/
def open? (path : String) (description : MediaDescription) (rtp : Bool) (capacity : Nat) :
    Except PathError Stream :=
  if description.isEmpty then .error (.emptyDescription path)
  else .ok { description, rtp, capacity := (max capacity 1).nextPowerOfTwo }

/-- **Writing** a unit: every subscriber gets it. Nothing is kept if there is none. Also gives the
number of subscribers. -/
def write (s : Stream) (u : MediaUnit) : Stream × Nat :=
  if s.closed then (s, 0)
  else
    let size := UInt64.ofNat u.payload.size
    let counted :=
      { s with
        received := s.received + size, sent := s.sent + size * UInt64.ofNat s.subscribers }
    if s.subscribers = 0 then (counted, 0)
    else
      let units := s.units ++ [u]
      ({ counted with
          units := units.drop (units.length - s.capacity), position := s.position + 1 },
        s.subscribers)

/-- **Subscription** from the present position on, unless the stream is closed. -/
def subscribe? (s : Stream) : Option (Stream × Nat) :=
  if s.closed then none else some ({ s with subscribers := s.subscribers + 1 }, s.position)

/-- The end of a subscription. -/
def unsubscribe (s : Stream) : Stream := { s with subscribers := s.subscribers - 1 }

/-- **Closing**: subscribers can still get what is kept. -/
def close (s : Stream) : Stream := { s with closed := true }

/-- What a subscriber gets. -/
inductive Receipt where
  | unit (u : MediaUnit)
  /-- So many units were lost. -/
  | lagged (lost : Nat)
  /-- There is nothing yet. -/
  | empty
  /-- There will be nothing any more. -/
  | closed
  deriving DecidableEq, Repr

/-- **Reception** by a subscriber that got everything before a position; also gives the position
after it. -/
def receive (s : Stream) (next : Nat) : Receipt × Nat :=
  let oldest := s.position - s.capacity
  if next < oldest then (.lagged (oldest - next), oldest)
  else
    match s.units[next + s.units.length - s.position]? with
    | some u => (.unit u, next + 1)
    | none => (if s.closed then .closed else .empty, next)

/-- Up to `limit` receptions, up to the first that finds nothing. -/
def receiveMany (s : Stream) (next : Nat) : Nat → List Receipt × Nat
  | 0 => ([], next)
  | limit + 1 =>
    match s.receive next with
    | (.unit u, next) =>
      let (rest, next) := s.receiveMany next limit
      (.unit u :: rest, next)
    | (.lagged lost, next) =>
      let (rest, next) := s.receiveMany next limit
      (.lagged lost :: rest, next)
    | (nothing, next) => ([nothing], next)

/-- Nothing is written to a closed stream. -/
theorem write_of_closed {s : Stream} (h : s.closed = true) (u : MediaUnit) :
    s.write u = (s, 0) := by
  simp [write, h]

/-- **Full text** of a stream. -/
def debugText (s : Stream) : String :=
  "Stream \x7b desc: " ++ s.description.debugText ++ ", closed: " ++ toString s.closed ++ " \x7d"

end Stream

end LivePaths
