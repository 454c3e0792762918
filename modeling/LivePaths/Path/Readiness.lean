import LivePaths.Path.Basic

set_option relaxedAutoImplicit false
set_option autoImplicit false

/-!
# Readiness

A path is ready while it has a stream. Becoming ready begins a recording and launches commands;
ceasing to be ready ends all that depends on the stream.

## Main definitions

* `Path.becomeReady` — the path takes up a stream.
* `Path.becomeUnready` — the path gives up its stream.
* `Path.startRecording`, `Path.stopRecording` — the beginning and the end of a recording.
-/

namespace LivePaths.Path

/-! ## Recordings -/

/-- **The beginning of a recording**, if there is a stream and somebody who records. -/
def startRecording (p : Path) : Path :=
  match p.stream with
  | none => p
  | some s =>
    if p.settings.recorders then
      let recording := Recording.ofConf p.name p.conf
      { p with recording := some recording }.emit (.recordStarted recording s.description.toText)
    else p

/-- **The end of the recording**, if there is one. -/
def stopRecording (p : Path) : Path :=
  match p.recording with
  | none => p
  | some r => { p with recording := none }.emit (.recordStopped r.params.pathFormat)

/-! ## Streams -/

/-- Launches what is to be launched when the path is ready. -/
def launchReady (p : Path) : Path :=
  let (launcher, teardown) :=
    p.launcher.onReady p.baseEnvironment p.conf.commands p.sourceDescriptor p.query
  { p with launcher, onNotReady := some teardown }

/-- **Becoming ready** with a stream. -/
def becomeReady (p : Path) (s : Stream) : Path :=
  let ready := { p with stream := some s, readySince := some p.now }
  let recording := if ready.conf.record.enabled then ready.startRecording else ready
  (recording.launchReady.emit .ready).notify .ready

/-- Disconnects all readers. They go in the order in which they came, which is a choice: nothing
else depends on it, and another order would do as well. -/
def closeReaders (p : Path) : Path :=
  { p with readers := [], log := p.log ++ p.readers.map .readerClosed }

/-- Closes the stream and keeps it among those of the past. -/
def closeStream (p : Path) : Path :=
  { p with
    stream := none
    pastStreams := p.pastStreams ++ (p.stream.map Stream.close).toList
    readySince := none }

/-- **Ceasing to be ready**, if there is a stream: the readers are disconnected, the teardown is
carried out, the recording ends and the stream is closed. -/
def becomeUnready (p : Path) : Path :=
  if p.isReady then
    let left := (p.notify .notReady).closeReaders
    let ended := { left.tearDown left.onNotReady with onNotReady := none }
    (ended.emit .notReady).stopRecording.closeStream
  else p

end LivePaths.Path
