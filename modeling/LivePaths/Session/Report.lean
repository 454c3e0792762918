import LivePaths.Session.Basic

set_option relaxedAutoImplicit false
set_option autoImplicit false

/-!
# Reports

What a session shows after a step: the result, the requests that were answered, and everything that
has happened since the step before.

## Main definitions

* `Report` — all of this.
* `Session.eventsSince`, `Registry.newsSince`, `Registry.launchesSince` — what has happened.
-/

namespace LivePaths

/-- The events of one path. -/
structure EventGroup where
  path : PathHandle
  log : List PathEvent
  deriving DecidableEq

/-- **Report** of a step. -/
structure Report where
  result : Option SessionResult := none
  /-- The requests of earlier steps that were answered. -/
  resolved : List (Nat × SessionResult) := []
  events : List EventGroup := []
  news : List HlsNews := []
  questions : List AuthRequest := []
  launches : List Launch := []
  /-- The live paths, if they look different from before. -/
  state : Option (List Path.Snapshot) := none
  deriving DecidableEq

/-! ## Order -/

/-- Whether a handle comes before another one or is the same: by name, then by number. -/
def PathHandle.le (a b : PathHandle) : Bool :=
  decide (a.name < b.name) || (a.name = b.name && decide (a.id ≤ b.id))

namespace PathEvent

/-- The disconnection of a client as one line of text. -/
def closeLine : PathEvent → String
  | .publisherClosed c =>
    Text.jsonArray [Text.jsonString "publisher_close", Text.jsonString c.descriptor.id]
  | .readerClosed c =>
    Text.jsonArray [Text.jsonString "reader_close", Text.jsonString c.descriptor.id]
  | _ => ""

/-- Whether an event disconnects a reader. -/
def isReaderClose : PathEvent → Bool
  | .readerClosed _ => true
  | _ => false

/-- Readers that are disconnected together have no order among themselves: a run of such events is
listed in the order of their lines. The first argument is the run so far. -/
def sortReaders (run : List PathEvent) : List PathEvent → List PathEvent
  | [] => Text.sortByLine closeLine run
  | e :: rest =>
    if e.isReaderClose then sortReaders (run ++ [e]) rest
    else Text.sortByLine closeLine run ++ e :: sortReaders [] rest

end PathEvent

/-! ## What has happened -/

namespace Registry

/-- What HLS servers were told since an earlier state, by paths. -/
def newsSince (before after : Registry) : List HlsNews :=
  (after.news.drop before.news.length).mergeSort fun a b => a.path.le b.path

/-- What the authenticator was asked since an earlier state. -/
def questionsSince (before after : Registry) : List AuthRequest :=
  after.questions.drop before.questions.length

/-- The commands that were launched since an earlier state, in the order of their lines. -/
def launchesSince (before after : Registry) : List Launch :=
  let launchesOf (r : Registry) (id : Nat) : List Launch :=
    ((r.path? id).map (·.launcher.launches)).getD []
  Text.sortByLine Launch.text <|
    after.paths.flatMap fun p => p.launcher.launches.drop (launchesOf before p.id).length

end Registry

namespace Session

/-- Whether an event is shown. -/
def shows (v : SessionView) (e : PathEvent) : Bool :=
  e.notice?.isNone && e.answer?.isNone && (v.sources || !e.isSourceCall)

/-- The events of a path since an earlier state of the registry. -/
def logSince (before : Registry) (p : Path) : List PathEvent :=
  p.log.drop (before.eventsOf p.id)

/-- The events of all paths since an earlier state of the registry, path by path. -/
def groupsSince (v : SessionView) (before after : Registry) : List EventGroup :=
  let group (p : Path) : Option EventGroup :=
    let log := PathEvent.sortReaders [] ((logSince before p).filter (shows v))
    if log.isEmpty then none else some ⟨p.handle, log⟩
  (after.paths.filterMap group).mergeSort fun a b => a.path.le b.path

/-- The disconnections of clients since an earlier state of the registry, of whatever path. -/
def closesSince (before after : Registry) : List EventGroup :=
  let closes := (after.paths.flatMap (logSince before)).filter (·.isClientClose)
  if closes.isEmpty then []
  else [⟨⟨"?", 0⟩, Text.sortByLine PathEvent.closeLine closes⟩]

/-- **Events** since an earlier state of the registry, as they are shown. -/
def eventsSince (v : SessionView) (before after : Registry) : List EventGroup :=
  if v.plain then closesSince before after else groupsSince v before after

/-- **The report** after a step, and the session that has shown it. -/
def report (s : Session) (before : Registry) (result : Option SessionResult)
    (resolved : List (Nat × SessionResult)) : Session × Report :=
  let r := s.registry
  let state := r.list.toOption
  let changed := state.isSome && state ≠ s.shown
  ({ s with shown := if changed then state else s.shown },
    { result, resolved
      events := eventsSince s.view before r
      news := before.newsSince r
      questions := if s.view.plain then [] else before.questionsSince r
      launches := before.launchesSince r
      state := if changed then state else none })

end Session

end LivePaths
