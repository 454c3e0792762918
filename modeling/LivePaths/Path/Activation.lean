import LivePaths.Path.Basic

set_option relaxedAutoImplicit false
set_option autoImplicit false

/-!
# Activation on demand

What a path starts when somebody asks for it, and how that is stopped again: the source that the
path runs itself, or a command that is to publish.

## Main definitions

* `Path.awaken?` — somebody asks for a path that is not ready.
* `Path.startSource`, `Path.stopSource` — the source that the path runs.
* `Path.startLaunch`, `Path.stopLaunch` — the command that is to publish.
-/

namespace LivePaths.Path

/-- Whether the path runs its source itself. -/
def runsSource (p : Path) : Bool :=
  match p.source with
  | some (.static _) => true
  | _ => false

/-- Tells the source, if the path runs it itself. -/
def tellSource (p : Path) (e : PathEvent) : Path := if p.runsSource then p.emit e else p

/-- **Start of the source** for a query. -/
def startSource (p : Path) (query : String) : Path :=
  { p.tellSource (.sourceStarted true query) with
    query
    sourceDemand := p.sourceDemand.begin (p.now + p.conf.sourceStartTimeout) }.emit
      (.sourceDemand query)

/-- **Stop of the source.** -/
def stopSource (p : Path) (reason : String) : Path :=
  { p with sourceDemand := p.sourceDemand.reset }.tellSource (.sourceStopped reason)
    |>.emit (.sourceUndemand reason)

/-- **Start of the launch** for a query. -/
def startLaunch (p : Path) (query : String) : Path :=
  let (launcher, teardown) := p.launcher.onDemand p.baseEnvironment p.conf.commands query
  { p with
    launcher
    onUndemand := some teardown
    launchDemand := p.launchDemand.begin (p.now + p.conf.launchStartTimeout) }.emit (.demand query)

/-- **Stop of the launch.** -/
def stopLaunch (p : Path) (reason : String) : Path :=
  { p.tearDown p.onUndemand with
    onUndemand := none, launchDemand := p.launchDemand.reset }.emit (.undemand reason)

/-- **Awakening**: somebody asks for a path that is not ready. What runs on demand is started unless
it was started before; nothing results if nothing runs on demand. -/
def awaken? (p : Path) (query : String) : Option Path :=
  if p.conf.hasOnDemandSource then
    some (if p.sourceDemand.isIdle then p.startSource query else p)
  else if p.conf.hasOnDemandLaunch then
    some (if p.launchDemand.isIdle then p.startLaunch query else p)
  else none

/-! ## Readers and readiness -/

/-- A reader has come. -/
def noteReaderAttached (p : Path) : Path :=
  { p with
    sourceDemand :=
      if p.conf.hasOnDemandSource then p.sourceDemand.readerAttached else p.sourceDemand
    launchDemand :=
      if p.conf.hasOnDemandLaunch then p.launchDemand.readerAttached else p.launchDemand }

/-- The last reader has gone. -/
def noteReadersGone (p : Path) : Path :=
  { p with
    sourceDemand :=
      if p.conf.hasOnDemandSource then
        p.sourceDemand.readersGone (p.now + p.conf.sourceCloseAfter)
      else p.sourceDemand
    launchDemand :=
      if p.conf.hasOnDemandLaunch then
        p.launchDemand.readersGone (p.now + p.conf.launchCloseAfter)
      else p.launchDemand }

/-- The source is ready. -/
def noteSourceReady (p : Path) : Path :=
  if p.conf.hasOnDemandSource then
    { p with sourceDemand := p.sourceDemand.ready (p.now + p.conf.sourceCloseAfter) }
  else p

/-- A publisher is ready; this matters if a command was launched for it. -/
def notePublisherReady (p : Path) : Path :=
  if p.conf.hasOnDemandLaunch && !p.launchDemand.isIdle then
    { p with launchDemand := p.launchDemand.ready (p.now + p.conf.launchCloseAfter) }
  else p

end LivePaths.Path
