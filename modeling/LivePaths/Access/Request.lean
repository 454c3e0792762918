import LivePaths.Address
import LivePaths.Error

set_option relaxedAutoImplicit false
set_option autoImplicit false

/-!
# Access requests

What a client asks of a path, and the question whether it may do so.

## Main definitions

* `AccessRequest` — a request as the front end took it.
* `AuthRequest` — the question put to an authenticator.
* `Authenticator` — who answers it.
-/

namespace LivePaths

/-! ## Requests -/

/-- **Actions** on a path. -/
inductive AuthAction where
  | publish
  | read
  | playback
  deriving DecidableEq, Repr

/-- The name of an action. -/
def AuthAction.toText : AuthAction → String
  | .publish => "publish"
  | .read => "read"
  | .playback => "playback"

/-- **Protocols** over which clients come. -/
inductive Protocol where
  | rtsp
  | rtmp
  | hls
  | webrtc
  | srt
  deriving DecidableEq, Repr

/-- The name of a protocol. -/
def Protocol.toText : Protocol → String
  | .rtsp => "rtsp"
  | .rtmp => "rtmp"
  | .hls => "hls"
  | .webrtc => "webrtc"
  | .srt => "srt"

/-- A user and a password; both are empty for a client that gave none. -/
structure Credentials where
  user : String := ""
  pass : String := ""
  deriving DecidableEq, Repr

/-- **Access request**: what a client asks. -/
structure AccessRequest where
  /-- The path. -/
  name : String := ""
  query : String := ""
  /-- Whether the client wants to publish; else it wants to read. -/
  publish : Bool := false
  /-- Whether the client is known already. -/
  skipAuth : Bool := false
  credentials : Option Credentials := none
  address : Option Address := none
  protocol : Protocol := .rtsp
  deriving DecidableEq, Repr

/-- **Authentication request**: who wants to do what on which path. -/
structure AuthRequest where
  action : AuthAction := .read
  path : String := ""
  query : String := ""
  credentials : Credentials := {}
  address : Option Address := none
  protocol : Protocol := .rtsp
  deriving DecidableEq, Repr

/-- The action that a request asks for. -/
def AccessRequest.action (a : AccessRequest) : AuthAction :=
  if a.publish then .publish else .read

/-- The question that a request raises. -/
def AccessRequest.toAuthRequest (a : AccessRequest) : AuthRequest where
  action := a.action
  path := a.name
  query := a.query
  credentials := a.credentials.getD {}
  address := a.address
  protocol := a.protocol

/-! ## Decisions -/

/-- **Authenticator**: decides every authentication request. -/
abbrev Authenticator := AuthRequest → Except AuthError Unit

namespace Authenticator

/-- Lets everybody do everything. -/
def allowAll : Authenticator := fun _ => .ok ()

/-- Cannot be asked. -/
def unavailable (cause : String) : Authenticator := fun _ => .error (.unavailable cause)

end Authenticator

end LivePaths
