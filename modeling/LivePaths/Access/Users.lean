import LivePaths.Access.Request
import LivePaths.Conf.Basic

set_option relaxedAutoImplicit false
set_option autoImplicit false

/-!
# Lists of users

Authentication by a list of users, each with a password and permissions.

## Main definitions

* `Permission` — an action on one path, on the paths that match a pattern, or on all paths.
* `User` — a user with permissions.
* `Authenticator.ofUsers` — who is in the list may do what the permissions say.
-/

namespace LivePaths

/-- **Permission** for an action. -/
structure Permission where
  action : AuthAction
  /-- A path name, or `~` and a regular expression; all paths if there is none. -/
  path : Option String := none
  deriving DecidableEq, Repr

/-- Whether a permission extends to a path; one with a malformed expression extends to none. -/
def Permission.covers (m : Matching) (p : Permission) (path : String) : Bool :=
  match p.path with
  | none => true
  | some text =>
    match text.toList with
    | '~' :: expression =>
      match m.compile? (.ofList expression) with
      | some pattern => m.isMatch pattern path
      | none => false
    | _ => text = path

/-- Whether a permission allows an action on a path. -/
def Permission.allows (m : Matching) (p : Permission) (action : AuthAction) (path : String) :
    Bool :=
  p.action = action && p.covers m path

/-- **User** with a password and permissions. -/
structure User where
  name : String := ""
  pass : String := ""
  permissions : List Permission := []
  deriving DecidableEq, Repr

/-- The name that stands for every client. -/
def User.anyone : String := "any"

/-- Whether a client with these credentials is the user. -/
def User.isClient (u : User) (c : Credentials) : Bool :=
  u.name = User.anyone || (u.name = c.user && u.pass = c.pass)

/-- Whether a user grants a request. -/
def User.grants (m : Matching) (u : User) (r : AuthRequest) : Bool :=
  u.isClient r.credentials && u.permissions.any (·.allows m r.action r.path)

/-- **Authentication by a list**: some user grants the request. -/
def Authenticator.ofUsers (m : Matching) (users : List User) : Authenticator := fun r =>
  if users.any (·.grants m r) then .ok ()
  else .error (.denied r.credentials.user r.path)

end LivePaths
