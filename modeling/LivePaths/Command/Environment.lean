import LivePaths.Descriptor
import LivePaths.NameMap
import LivePaths.Text.Seconds

set_option relaxedAutoImplicit false
set_option autoImplicit false

/-!
# Environments of commands

The variables that a command finds in its environment: the path, the port of the server, the groups
of the path's pattern, and what belongs to the occasion.

## Main definitions

* `Environment` — variables and their values.
* `Environment.base` — what all commands of a path find.
* `Environment.forDemand`, `Environment.forReady`, `Environment.forSegment` — what they find
  on an occasion.
-/

namespace LivePaths

/-- **Environment**: the values of variables. -/
abbrev Environment := NameMap String

namespace Environment

/-- The text after the last colon of an address, empty if there is no colon. -/
def portOf (address : String) : String :=
  let cs := address.toList
  if ':' ∈ cs then .ofList ((cs.reverse.takeWhile (· ≠ ':')).reverse) else ""

/-- Adds a variable for each group of a pattern, numbered from 1; the whole match has none. -/
def withGroups (env : Environment) (captures : List String) : Environment :=
  (captures.zipIdx.drop 1).foldl (fun env c => env.insert ("G" ++ toString c.2) c.1) env

/-- **Base environment** of a path. -/
def base (path rtspAddress : String) (captures : List String) : Environment :=
  let fixed : Environment :=
    ((NameMap.empty.insert "MTX_PATH" path).insert "RTSP_PATH" path).insert "RTSP_PORT"
      (portOf rtspAddress)
  fixed.withGroups captures

/-- The environment when somebody asks for the path. -/
def forDemand (env : Environment) (query : String) : Environment :=
  env.insert "MTX_QUERY" query

/-- The environment when the path is ready. -/
def forReady (env : Environment) (source : Option Descriptor) (query : String) : Environment :=
  match source with
  | none => env.forDemand query
  | some d => ((env.forDemand query).insert "MTX_SOURCE_TYPE" d.kind).insert "MTX_SOURCE_ID" d.id

/-- The environment when a segment is created. -/
def forSegment (env : Environment) (segment : String) : Environment :=
  env.insert "MTX_SEGMENT_PATH" segment

/-- The environment when a segment of some length is complete. -/
def forCompleteSegment (env : Environment) (segment : String) (secs nanos : Nat) : Environment :=
  (env.forSegment segment).insert "MTX_SEGMENT_DURATION" (Text.seconds secs nanos)

/-- Whether commands can be launched in an environment: no variable holds a null character. -/
def isLaunchable (env : Environment) : Bool :=
  env.entries.all fun e => !e.1.contains '\x00' && !e.2.contains '\x00'

end Environment

end LivePaths
