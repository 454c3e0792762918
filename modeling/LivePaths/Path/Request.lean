import LivePaths.Path.Activation
import LivePaths.Path.Readiness

set_option relaxedAutoImplicit false
set_option autoImplicit false

/-!
# Requests to a path

What clients ask of a path and what its source reports. A request that cannot be answered yet is
held until the path is ready or what was started for it has failed.

## Main definitions

* `Path.describe`, `Path.addReader`, `Path.removeReader` — what readers ask.
* `Path.addPublisher`, `Path.removePublisher` — what publishers ask.
* `Path.sourceReady`, `Path.sourceNotReady` — what the source reports.
* `Path.releaseHeld`, `Path.failHeld` — the end of holding.
* `Path.abandon` — a client gives up.
-/

namespace LivePaths.Path

/-! ## Readers -/

/-- Whether another reader is too many. -/
def isFull (p : Path) : Bool := p.conf.maxReaders ≠ 0 && p.conf.maxReaders ≤ p.readers.length

/-- **Attaching a reader** to the stream. One that is attached already gets the stream again. -/
def attach (p : Path) (request : Nat) (client : Client) : Path :=
  if !p.isReady then p.answer request (.refused (.noStreamAvailable p.name))
  else if client ∈ p.readers then p.answer request (.stream p.streamId)
  else if p.isFull then p.answer request (.refused (.maxReadersReached p.name))
  else
    { p with readers := p.readers ++ [client] }.noteReaderAttached.answer request
      (.stream p.streamId)

/-- **A client asks what the path carries.** -/
def describe (p : Path) (request : Nat) (query : String) : Path :=
  if p.source = some .redirect then p.answer request (.redirect p.conf.sourceRedirect)
  else if p.isReady then p.answer request (.stream p.streamId)
  else
    match p.awaken? query with
    | some p => { p with heldDescribes := p.heldDescribes ++ [{ request }] }
    | none =>
      if p.conf.fallback.isEmpty then p.answer request (.refused (.noStreamAvailable p.name))
      else p.answer request (.redirect p.conf.fallback)

/-- **A client wants to read.** -/
def addReader (p : Path) (request : Nat) (client : Client) (query : String) : Path :=
  if p.isReady then p.attach request client
  else
    match p.awaken? query with
    | some p => { p with heldReaders := p.heldReaders ++ [{ request, client }] }
    | none => p.answer request (.refused (.noStreamAvailable p.name))

/-- **A client stops reading.** -/
def removeReader (p : Path) (client : Client) : Path :=
  let left := { p with readers := p.readers.filter (· ≠ client) }
  if left.readers.isEmpty then left.noteReadersGone else left

/-! ## Held requests -/

/-- Answers a held request, unless its client has given up. -/
def answerHeld (p : Path) (request : Nat) (abandoned : Bool) (a : Answer) : Path :=
  if abandoned then p else p.answer request a

/-- **Release**: the held requests are answered, first those for the description, then the readers,
each group in the order in which they came. -/
def releaseHeld (p : Path) : Path :=
  if p.isReady then
    let described :=
      p.heldDescribes.foldl (fun p h => p.answerHeld h.request h.abandoned (.stream p.streamId)) p
    let waiting := p.heldReaders.filter fun h => !h.abandoned
    waiting.foldl (fun p h => p.attach h.request h.client)
      { described with heldDescribes := [], heldReaders := [] }
  else p

/-- **Failure**: all held requests are refused. -/
def failHeld (p : Path) (e : PathError) : Path :=
  let described :=
    p.heldDescribes.foldl (fun p h => p.answerHeld h.request h.abandoned (.refused e)) p
  let read :=
    p.heldReaders.foldl (fun p h => p.answerHeld h.request h.abandoned (.refused e)) described
  { read with heldDescribes := [], heldReaders := [] }

/-- **A client gives up** its request. It keeps its place, but is not answered. -/
def abandon (p : Path) (request : Nat) : Path :=
  { p with
    heldDescribes := p.heldDescribes.map fun h =>
      if h.request = request then { h with abandoned := true } else h
    heldReaders := p.heldReaders.map fun h =>
      if h.request = request then { h with abandoned := true } else h }

/-! ## Publishers -/

/-- The client that publishes. -/
def publisher? (p : Path) : Option Client :=
  match p.source with
  | some (.publisher client) => some client
  | _ => none

/-- **The first reason to refuse a publisher**: the path is not for publishers, its configuration is
not the expected one, nothing is announced, or somebody publishes and may not be replaced. -/
def publisherFault? (p : Path) (expected : Option Conf) (d : MediaDescription) :
    Option PathError :=
  if p.conf.source ≠ .publisher then some (.notPublisherSource p.name)
  else if expected.any (· ≠ p.conf) then some .configurationChanged
  else if d.isEmpty then some (.emptyDescription p.name)
  else if p.publisher?.isSome && !p.conf.overridePublisher then some (.alreadyPublishing p.name)
  else none

/-- Disconnects the client that publishes, if there is one. -/
def evictPublisher (p : Path) : Path :=
  match p.publisher? with
  | none => p
  | some client => { (p.emit (.publisherClosed client)).becomeUnready with source := none }

/-- **A client wants to publish.** It replaces the one that publishes at present. -/
def addPublisher (p : Path) (request : Nat) (client : Client) (d : MediaDescription)
    (rtp : Bool) (query : String) (expected : Option Conf) : Except PathError Path :=
  match p.publisherFault? expected d with
  | some e => .error e
  | none => do
    let s ← Stream.open? p.name d rtp p.settings.streamCapacity
    let taken := { p.evictPublisher with source := some (.publisher client), query }
    let ready := (taken.becomeReady s).notePublisherReady.releaseHeld
    .ok (ready.answer request (.stream ready.streamId))

/-- **A client stops publishing**; nothing happens if it does not publish. -/
def removePublisher (p : Path) (client : Client) : Path :=
  if p.publisher? = some client then { p.becomeUnready with source := none } else p

/-! ## Reports of the source -/

/-- **The source is ready** and announces its medias. What it announced before is over, even if
there is nothing to announce now. -/
def sourceReady (p : Path) (request : Nat) (d : MediaDescription) (rtp : Bool) : Path :=
  let unready := p.becomeUnready
  match Stream.open? p.name d rtp p.settings.streamCapacity with
  | .error e => unready.answer request (.refused e)
  | .ok s =>
    let ready := (unready.becomeReady s).noteSourceReady.releaseHeld
    ready.answer request (.stream ready.streamId)

/-- **The source has failed.** -/
def sourceNotReady (p : Path) : Path :=
  let unready := p.becomeUnready
  if unready.conf.hasOnDemandSource && !unready.sourceDemand.isIdle then
    unready.stopSource "an error occurred"
  else unready

end LivePaths.Path
