import LivePaths.Text.Quoted

set_option relaxedAutoImplicit false
set_option autoImplicit false

/-!
# Media descriptions

What a source announces: the medias of its stream and their codecs.

## Main definitions

* `MediaDescription` — a list of medias.
* `MediaDescription.toText`, `MediaDescription.debugText` — its two texts.
-/

namespace LivePaths

/-- **Kinds of medias.** -/
inductive MediaKind where
  | video
  | audio
  | application
  deriving DecidableEq, Repr

/-- The name of a kind. -/
def MediaKind.toText : MediaKind → String
  | .video => "Video"
  | .audio => "Audio"
  | .application => "Application"

/-- **Media**: one track of a stream. -/
structure Media where
  kind : MediaKind
  codec : String
  deriving DecidableEq, Repr

/-- **Description** of a stream. -/
structure MediaDescription where
  medias : List Media := []
  deriving DecidableEq, Repr

namespace MediaDescription

/-- The codecs, in the order of the medias. -/
def codecs (d : MediaDescription) : List String := d.medias.map (·.codec)

/-- Whether there is no media. -/
def isEmpty (d : MediaDescription) : Bool := d.medias.isEmpty

/-- **Short text**: the number of tracks and their codecs. -/
def toText (d : MediaDescription) : String :=
  toString d.medias.length ++ (if d.medias.length = 1 then " track (" else " tracks (") ++
    ", ".intercalate d.codecs ++ ")"

/-- **Full text**: all fields with their names. -/
def debugText (d : MediaDescription) : String :=
  let media (m : Media) :=
    "Media \x7b kind: " ++ m.kind.toText ++ ", codec: " ++ Text.quoted m.codec ++ " \x7d"
  "MediaDescription \x7b medias: [" ++ ", ".intercalate (d.medias.map media) ++ "] \x7d"

end MediaDescription

end LivePaths
