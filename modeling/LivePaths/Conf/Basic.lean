import LivePaths.Conf.Camera
import LivePaths.Error
import LivePaths.Pattern.Basic

set_option relaxedAutoImplicit false
set_option autoImplicit false

/-!
# Configurations

A configuration says how a path behaves: where its stream comes from, who may publish and read, what
is recorded and which commands are launched. It governs the path of its own name or, if it has a
pattern, all paths whose names match. Durations are in milliseconds.

## Main definitions

* `SourceKind` — where the stream of a path comes from.
* `RecordConf`, `CommandConf`, `Conf` — configurations and their defaults.
* `Conf.named` — the default configuration for a name.
* `Conf.check` — whether the settings of a configuration fit together.
-/

namespace LivePaths

/-! ## Parts of a configuration -/

/-- **Source kinds.** -/
inductive SourceKind where
  /-- Clients publish to the path. -/
  | publisher
  /-- Readers are sent elsewhere. -/
  | redirect
  /-- The stream is pulled from a URL. -/
  | pull (url : String)
  /-- The stream is read from a camera. -/
  | camera
  deriving DecidableEq, Repr

namespace SourceKind

/-- Whether the path runs the source itself. -/
def isStatic : SourceKind → Bool
  | .pull _ | .camera => true
  | .publisher | .redirect => false

/-- The source as it is written in a configuration. -/
def toText : SourceKind → String
  | .publisher => "publisher"
  | .redirect => "redirect"
  | .pull url => url
  | .camera => "rpiCamera"

end SourceKind

/-- How a stream is pulled. -/
inductive Transport where
  | automatic
  | udp
  | multicast
  | tcp
  deriving DecidableEq, Repr

/-- The name of a transport. -/
def Transport.toText : Transport → String
  | .automatic => "Automatic"
  | .udp => "Udp"
  | .multicast => "Multicast"
  | .tcp => "Tcp"

/-- The container of recordings. -/
inductive RecordFormat where
  | fmp4
  | mpegTs
  deriving DecidableEq, Repr

/-- The name of a container. -/
def RecordFormat.toText : RecordFormat → String
  | .fmp4 => "Fmp4"
  | .mpegTs => "MpegTs"

/-- **Recording settings.** -/
structure RecordConf where
  enabled : Bool := false
  path : String := "./recordings/%path/%Y-%m-%d_%H-%M-%S-%f"
  format : RecordFormat := .fmp4
  partDuration : Nat := 1000
  maxPartSize : Nat := 50 * 1024 * 1024
  segmentDuration : Nat := 3600 * 1000
  deleteAfter : Nat := 24 * 3600 * 1000
  deriving DecidableEq, Repr

/-- A command line and whether it is launched again after it ends; no command if it is empty. -/
structure CommandLine where
  line : String := ""
  restart : Bool := false
  deriving DecidableEq, Repr

/-- Whether there is a command. -/
def CommandLine.isSet (c : CommandLine) : Bool := !c.line.isEmpty

/-- **Commands** launched in the life of a path. Those that answer an end are launched once. -/
structure CommandConf where
  onInit : CommandLine := {}
  onDemand : CommandLine := {}
  onUndemand : String := ""
  onReady : CommandLine := {}
  onNotReady : String := ""
  onSegmentCreate : String := ""
  onSegmentComplete : String := ""
  deriving DecidableEq, Repr

/-! ## Configurations -/

/-- **Configuration** of a path or of all paths that match a pattern. All durations are whole
numbers of milliseconds, nothing finer can be said, and what is not a number is no setting of a
camera (see `CameraNumber`), so that every configuration equals itself. -/
structure Conf where
  /-- A path name, or `~` and a regular expression. -/
  name : String := ""
  /-- The pattern, for names that have one. -/
  pattern : Option Pattern := none
  source : SourceKind := .publisher
  sourceFingerprint : String := ""
  /-- Whether a static source runs only when somebody asks for the path. -/
  sourceOnDemand : Bool := false
  sourceStartTimeout : Nat := 10000
  sourceCloseAfter : Nat := 10000
  /-- Where readers of a redirect are sent. -/
  sourceRedirect : String := ""
  transport : Transport := .automatic
  camera : CameraConf := {}
  /-- The greatest number of readers, 0 for any number. -/
  maxReaders : Nat := 0
  /-- Where readers are sent while there is nothing to read; nowhere if it is empty. -/
  fallback : String := ""
  /-- Whether a new publisher replaces the present one. -/
  overridePublisher : Bool := true
  record : RecordConf := {}
  commands : CommandConf := {}
  launchStartTimeout : Nat := 10000
  launchCloseAfter : Nat := 10000
  deriving DecidableEq

namespace Conf

/-- The name of the configuration for all paths without another one. -/
def allOthers : String := "all_others"

/-- The expression that stands for all names. -/
def allOthersExpression : String := "^.*$"

/-- The pattern of an expression, as a part of a name. -/
def compilePattern (expression : String) : Except PathError Pattern :=
  match Pattern.compile? expression with
  | some pattern => .ok pattern
  | none => .error (.invalidName expression .badExpression)

/-- **Default configuration for a name**: what follows a tilde is a pattern, one name stands for
all names, and any other one must be a path name. -/
def named (name : String) : Except PathError Conf :=
  match name.toList with
  | '~' :: expression => do
    .ok { name, pattern := some (← compilePattern (.ofList expression)) }
  | _ =>
    if name = allOthers then do
      .ok { name, pattern := some (← compilePattern allOthersExpression) }
    else do
      Name.check name
      .ok { name }

/-- Whether a configuration governs names by a pattern. -/
def hasPattern (c : Conf) : Bool := c.pattern.isSome

/-- Whether the path runs its source itself. -/
def hasStaticSource (c : Conf) : Bool := c.source.isStatic

/-- Whether the path runs its source itself, and only on demand. -/
def hasOnDemandSource (c : Conf) : Bool := c.hasStaticSource && c.sourceOnDemand

/-- Whether a command is launched on demand that is to publish. -/
def hasOnDemandLaunch (c : Conf) : Bool :=
  c.source = .publisher && c.commands.onDemand.isSet

/-- The first reason why the settings of a configuration do not fit together. -/
def fault? (c : Conf) : Option NameReason :=
  let nameFault := if c.hasPattern then none else (Name.fault? c.name).map NameReason.fault
  match nameFault with
  | some reason => some reason
  | none =>
    if c.sourceOnDemand && !c.hasStaticSource then some .onDemandWithoutStaticSource
    else if c.source = .redirect ∧ c.sourceRedirect = "" then some .redirectWithoutTarget
    else if c.source = .camera ∧ c.hasPattern = true then some .cameraWithPattern
    else if c.commands.onDemand.isSet = true ∧ c.source ≠ .publisher then
      some .launchWithoutPublisher
    else none

/-- **Consistency** of a configuration. -/
def check (c : Conf) : Except PathError Unit :=
  match c.fault? with
  | none => .ok ()
  | some reason => .error (.invalidName c.name reason)

/-! ## Settings made together -/

/-- Pulls the stream from a URL. -/
def withPull (c : Conf) (url : String) : Conf := { c with source := .pull url }

/-- Sends readers elsewhere. -/
def withRedirect (c : Conf) (target : String) : Conf :=
  { c with source := .redirect, sourceRedirect := target }

/-- Runs the source only on demand. -/
def withSourceOnDemand (c : Conf) (startTimeout closeAfter : Nat) : Conf :=
  { c with
    sourceOnDemand := true, sourceStartTimeout := startTimeout, sourceCloseAfter := closeAfter }

/-- Launches a command on demand. -/
def withLaunchOnDemand (c : Conf) (line : String) (startTimeout closeAfter : Nat) :
    Conf :=
  { c with
    commands := { c.commands with onDemand := { c.commands.onDemand with line } }
    launchStartTimeout := startTimeout, launchCloseAfter := closeAfter }

/-- Records to a path. -/
def withRecord (c : Conf) (path : String) : Conf :=
  { c with record := { c.record with enabled := true, path } }

end Conf

end LivePaths
