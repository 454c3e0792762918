import LivePaths.Session.Report

set_option relaxedAutoImplicit false
set_option autoImplicit false

/-!
# Steps of a session

How a session carries out a step, and what it shows afterwards.

## Main definitions

* `Session.start` — the beginning.
* `Session.perform` — what a step does.
* `Session.step` — a step with its report.
-/

namespace LivePaths.Session

/-! ## Results -/

/-- The number of a stream, a new one if it has not appeared yet. -/
def number (s : Session) (id : StreamId) : Session × Nat :=
  match s.numbered.idxOf? id with
  | some n => (s, n)
  | none => ({ s with numbered := s.numbered ++ [id] }, s.numbered.length)

/-- A stream as it is shown. -/
def viewStream (s : Session) (id : StreamId) (stream : Stream) : Session × StreamView :=
  let (s, number) := s.number id
  (s, ⟨number, stream.description.toText, stream.rtp, stream.closed⟩)

/-- The stream of an identifier as it is shown. -/
def showStream (s : Session) (id : StreamId) : Session × StreamView :=
  match s.registry.stream? id with
  | some stream => s.viewStream id stream
  | none => let (s, number) := s.number id; (s, ⟨number, "", false, true⟩)

/-- The handle of the path of a stream. -/
def handleOf? (s : Session) (id : StreamId) : Option PathHandle :=
  (s.registry.path? id.path).map Path.handle

/-- Takes an answer: keeps what it gives and shows it. -/
def take (s : Session) (p : PendingRequest) (a : Answer) : Session × SessionResult :=
  match a with
  | .refused e => (s, .failed e)
  | .redirect target => (s, .redirected target)
  | .stream id =>
    let kept := { s with streams := s.streams.insert p.streamKey id }
    match p.awaited with
    | .description => let (s, view) := kept.showStream id; (s, .described view)
    | .attachment none => let (s, view) := kept.showStream id; (s, .attached none view)
    | .attachment (some key) =>
      match s.handleOf? id with
      | none => let (s, view) := kept.showStream id; (s, .attached none view)
      | some handle =>
        let kept := { kept with handles := kept.handles.insert key handle }
        let (s, view) := kept.showStream id
        (s, .attached (some handle) view)

/-- The path of a handle as it is shown. -/
def showHandle (s : Session) (h : PathHandle) : SessionResult :=
  match s.registry.path? h.id with
  | none => .missing .handle
  | some p => .handle ⟨h, p.ended, p.conf.name, p.conf.record.path, p.conf.maxReaders⟩

/-! ## Requests -/

/-- What comes of a step before anything is answered. -/
inductive Outcome where
  | result (r : SessionResult)
  | awaits (awaited : Awaited) (streamKey : String)

/-- The session with another registry. -/
def withRegistry (s : Session) (r : Registry) : Session := { s with registry := r }

/-- A result for which nothing changes. -/
def answered (s : Session) (r : SessionResult) : Session × Outcome := (s, .result r)

/-- A request of this step, through the registry or to the path of a kept handle. -/
def request (s : Session) (via : Option String) (access : AccessRequest)
    (expected : Option Conf) (m : PathMessage) (awaited : Awaited) (key : String) :
    Session × Outcome :=
  match via with
  | none => (s.withRegistry (s.registry.request s.steps access expected m), .awaits awaited key)
  | some via =>
    match s.handles.get? via with
    | none => s.answered (.missing .handle)
    | some h => (s.withRegistry (s.registry.requestOf s.steps h m), .awaits awaited key)

/-- What a request for an attachment is for: one through the registry also gives a handle. -/
def attachmentVia (via : Option String) (key : String) : Awaited :=
  .attachment (if via.isNone then some key else none)

/-- The configuration that a publisher expects, if there is one to compare with. -/
def expected? (s : Session) (expected : ExpectedConf) : Option Conf :=
  let ofHandle := do
    let h ← s.handles.get? (← expected.handle)
    let p ← s.registry.path? h.id
    some p.conf
  ofHandle <|> expected.conf

/-- A client wants to publish. -/
def publish (s : Session) (access : AccessRequest) (via : Option String) (client : Client)
    (description : MediaDescription) (rtp : Bool) (expected : ExpectedConf) (key : String) :
    Session × Outcome :=
  let expected := s.expected? expected
  s.request via access expected
    (.addPublisher s.steps client description rtp access.query expected)
    (attachmentVia via key) key

/-- The path that a client leaves: the one of a kept handle or the live one of a name. -/
def leaving (s : Session) (name : String) (via : Option String) :
    Except SessionResult PathHandle :=
  match via with
  | some via =>
    match s.handles.get? via with
    | some h => .ok h
    | none => .error (.missing .handle)
  | none =>
    match s.handles.get? name with
    | some h => .ok h
    | none => (s.registry.get name).mapError .failed

/-- A client leaves a path. -/
def leave (s : Session) (name : String) (via : Option String) (m : PathMessage) :
    Session × Outcome :=
  match s.leaving name via with
  | .error r => s.answered r
  | .ok h => (s.withRegistry (s.registry.tell h m), .result .done)

/-- A client gives up a request that is not answered yet. -/
def abort (s : Session) (step : Nat) : Session × Outcome :=
  if s.pending.any (·.step = step) then
    ({ s with
        registry := s.registry.abandon step
        pending := s.pending.filter (·.step ≠ step) },
      .result .done)
  else s.answered (.missing .request)

/-! ## Sources -/

/-- The source that a step is about. -/
def source? (s : Session) (name : String) (number : Option Nat) : Option PathHandle :=
  if s.view.sources then
    let sources := s.registry.sourcesOf name
    match number with
    | some n => sources[n]?
    | none => sources.getLast?
  else none

/-- A source reports that it is ready. -/
def sourceReady (s : Session) (name : String) (number : Option Nat)
    (description : MediaDescription) (rtp : Bool) (key : String) : Session × Outcome :=
  match s.source? name number with
  | none => s.answered (.missing .source)
  | some h =>
    (s.withRegistry (s.registry.requestOf s.steps h (.sourceReady s.steps description rtp)),
      .awaits (.attachment none) key)

/-- A source reports that it has failed. -/
def sourceNotReady (s : Session) (name : String) (number : Option Nat) : Session × Outcome :=
  match s.source? name number with
  | none => s.answered (.missing .source)
  | some h => (s.withRegistry (s.registry.tell h .sourceNotReady), .result .done)

/-! ## The registry -/

/-- A change of the registry that may fail. -/
def change (s : Session) (r : Except PathError Registry) : Session × Outcome :=
  match r with
  | .error e => s.answered (.failed e)
  | .ok r => (s.withRegistry r, .result .done)

/-- The configuration that governs a path. -/
def find (s : Session) (access : AccessRequest) : Session × Outcome :=
  match s.registry.find access with
  | (r, .ok found) => (s.withRegistry r, .result (.found found))
  | (r, .error e) => (s.withRegistry r, .result (.failed e))

/-- The handle of a live path, which is kept. -/
def get (s : Session) (name key : String) : Session × Outcome :=
  match s.registry.get name with
  | .error e => s.answered (.failed e)
  | .ok h => ({ s with handles := s.handles.insert key h }, .result (s.showHandle h))

/-- What can be seen of a path. -/
def snapshot (s : Session) (name : String) (via : Option String) : SessionResult :=
  let shown (seen : Except PathError Path.Snapshot) : SessionResult :=
    match seen with
    | .ok seen => .snapshot seen
    | .error e => .failed e
  match via with
  | none => shown (s.registry.snapshot name)
  | some via =>
    match s.handles.get? via with
    | none => .missing .handle
    | some h => shown (s.registry.snapshotOf h)

/-- The end of the registry. -/
def close (s : Session) : Session × Outcome :=
  let r := s.registry.close
  (s.withRegistry r, .result (.registryClosed r.debugText))

/-! ## What is kept -/

/-- A kept handle. -/
def showKept (s : Session) (key : String) : SessionResult :=
  match s.handles.get? key with
  | none => .missing .handle
  | some h => s.showHandle h

/-- Whether two kept handles are those of one path. -/
def sameKept (s : Session) (key other : String) : SessionResult :=
  match s.handles.get? key, s.handles.get? other with
  | some a, some b => .same (a = b)
  | _, _ => .missing .handle

/-- A kept stream. -/
def showStreamKept (s : Session) (key : String) : Session × Outcome :=
  match (s.streams.get? key).bind fun id => (s.registry.stream? id).map (id, ·) with
  | none => s.answered (.missing .stream)
  | some (id, stream) =>
    let (s, view) := s.viewStream id stream
    s.answered (.stream view stream)

/-- Writes a unit to a kept stream. -/
def write (s : Session) (key : String) (unit : MediaUnit) : Session × Outcome :=
  match s.streams.get? key with
  | none => s.answered (.missing .stream)
  | some id =>
    let (r, reached) := s.registry.write id unit
    (s.withRegistry r, .result (.reached reached))

/-- Ends the subscription that is kept under a key. -/
def dropReceiver (s : Session) (key : String) : Session :=
  match s.receivers.get? key with
  | none => s
  | some receiver =>
    { s with
      registry := s.registry.unsubscribe receiver.stream
      receivers := s.receivers.erase key }

/-- Subscribes to a kept stream. -/
def subscribe (s : Session) (key receiver : String) : Session × Outcome :=
  match s.streams.get? key with
  | none => s.answered (.missing .stream)
  | some id =>
    match s.registry.subscribe? id with
    | none => s.answered .streamClosed
    | some (r, next) =>
      let left := (s.withRegistry r).dropReceiver receiver
      ({ left with receivers := left.receivers.insert receiver ⟨id, next⟩ }, .result .done)

/-- Receives what a kept subscription has to offer. -/
def receive (s : Session) (receiver : String) (limit : Nat) : Session × Outcome :=
  match (s.receivers.get? receiver).bind fun r => (s.registry.stream? r.stream).map (r, ·) with
  | none => s.answered (.missing .receiver)
  | some (r, stream) =>
    let (receipts, next) := stream.receiveMany r.next limit
    ({ s with receivers := s.receivers.insert receiver { r with next } },
      .result (.received receipts))

/-- Something happens to a recording, if there is one. -/
def recorded (s : Session) (r : Option Registry) : Session × Outcome :=
  match r with
  | none => s.answered (.missing .recording)
  | some r => (s.withRegistry r, .result .done)

/-! ## Whole steps -/

/-- **Doing** what a step says. -/
def perform (s : Session) : SessionStep → Session × Outcome
  | .describe access via key =>
    s.request via access none (.describe s.steps access.query) .description key
  | .publish access via client description rtp expected key =>
    s.publish access via client description rtp expected key
  | .read access via client key =>
    s.request via access none (.addReader s.steps client access.query) (attachmentVia via key) key
  | .unpublish name via client => s.leave name via (.removePublisher client)
  | .unread name via client => s.leave name via (.removeReader client)
  | .sourceReady name number description rtp key => s.sourceReady name number description rtp key
  | .sourceNotReady name number => s.sourceNotReady name number
  | .reload confs => s.change (s.registry.reload confs)
  | .setHls server => s.change (s.registry.setHls server)
  | .find access => s.find access
  | .get name key => s.get name key
  | .snapshot name via => s.answered (s.snapshot name via)
  | .sleep ms => s.change (.ok (s.registry.advance (s.registry.now + ms)))
  | .close => s.close
  | .abort step => s.abort step
  | .handle key => s.answered (s.showKept key)
  | .sameHandle key other => s.answered (s.sameKept key other)
  | .stream key => s.showStreamKept key
  | .write key unit => s.write key unit
  | .subscribe key receiver => s.subscribe key receiver
  | .unsubscribe receiver =>
    (s.dropReceiver receiver, .result (.existed (s.receivers.contains receiver)))
  | .receive receiver limit => s.receive receiver limit
  | .segmentCreate name segment => s.recorded (s.registry.segmentCreated? name segment)
  | .segmentComplete name segment ms =>
    s.recorded (s.registry.segmentComplete? name segment ms)
  | .invalid e => s.answered (.failed e)

/-- The result of a step, given what was answered in it, and the request that it leaves open. -/
def conclude (s : Session) (answers : List (Nat × Answer)) :
    Outcome → Session × SessionResult × List PendingRequest
  | .result r => (s, r, [])
  | .awaits awaited key =>
    let p : PendingRequest := ⟨s.steps, awaited, key⟩
    match answers.lookup s.steps with
    | none => (s, .pending, [p])
    | some a => let (s, r) := s.take p a; (s, r, [])

/-- Takes the answers to requests of earlier steps; those without one stay open. -/
def resolve (answers : List (Nat × Answer)) (s : Session) :
    List PendingRequest → Session × List (Nat × SessionResult)
  | [] => (s, [])
  | p :: rest =>
    match answers.lookup p.step with
    | none => resolve answers { s with pending := s.pending ++ [p] } rest
    | some a =>
      let (s, result) := s.take p a
      let (s, resolved) := resolve answers s rest
      (s, (p.step, result) :: resolved)

/-- **One step** and its report. -/
def step (s : Session) (st : SessionStep) : Session × Report :=
  let before := s.registry
  let (done, outcome) := s.perform st
  let answers := before.answersSince done.registry
  let (s, result, opened) := done.conclude answers outcome
  let (s, resolved) := resolve answers { s with pending := [] } done.pending
  { s with pending := s.pending ++ opened, steps := s.steps + 1 }.report before (some result)
    resolved

/-- Several steps and their reports. -/
def stepAll (s : Session) : List SessionStep → Session × List Report
  | [] => (s, [])
  | st :: rest =>
    let (s, report) := s.step st
    let (s, reports) := s.stepAll rest
    (s, report :: reports)

/-- **The beginning** of a session and its report. -/
def start (settings : PathSettings) (confs : ConfSet) (authenticator : Authenticator)
    (hls : Option String) (view : SessionView) : Session × Report :=
  let s : Session := { registry := .start settings confs authenticator hls, view }
  s.report { settings, confs } none []

end LivePaths.Session
