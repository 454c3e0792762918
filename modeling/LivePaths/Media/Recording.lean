import LivePaths.Conf.Basic
import LivePaths.Text.Quoted
import LivePaths.Text.Seconds

set_option relaxedAutoImplicit false
set_option autoImplicit false

/-!
# Recordings

What a recorder is told when a path starts to record. Durations are in milliseconds.

## Main definitions

* `RecordParams` — what is recorded where.
* `Recording` — the parameters with the commands for its segments.
-/

namespace LivePaths

/-- **Parameters of a recording.** -/
structure RecordParams where
  /-- The path that is recorded. -/
  path : String
  /-- Where segments are written. -/
  pathFormat : String
  format : RecordFormat
  partDuration : Nat
  maxPartSize : Nat
  segmentDuration : Nat
  deriving DecidableEq, Repr

namespace RecordParams

/-- The parameters that a configuration sets for a path. -/
def ofConf (path : String) (c : Conf) : RecordParams where
  path
  pathFormat := c.record.path
  format := c.record.format
  partDuration := c.record.partDuration
  maxPartSize := c.record.maxPartSize
  segmentDuration := c.record.segmentDuration

/-- **Full text** of the parameters. -/
def debugText (p : RecordParams) : String :=
  "RecordParams \x7b path_name: " ++ Text.quoted p.path ++
    ", path_format: " ++ Text.quoted p.pathFormat ++
    ", format: " ++ p.format.toText ++
    ", part_duration: " ++ Text.withUnit p.partDuration ++
    ", max_part_size: " ++ toString p.maxPartSize ++
    ", segment_duration: " ++ Text.withUnit p.segmentDuration ++ " \x7d"

end RecordParams

/-- **Recording** that was started, with the commands that its segments launch. -/
structure Recording where
  params : RecordParams
  onSegmentCreate : String
  onSegmentComplete : String
  deriving DecidableEq, Repr

/-- The recording that a configuration asks for. -/
def Recording.ofConf (path : String) (c : Conf) : Recording where
  params := .ofConf path c
  onSegmentCreate := c.commands.onSegmentCreate
  onSegmentComplete := c.commands.onSegmentComplete

end LivePaths
