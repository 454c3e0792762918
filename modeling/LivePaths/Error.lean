import LivePaths.Name

set_option relaxedAutoImplicit false
set_option autoImplicit false

/-!
# Errors

Everything that a client of a path can be told instead of an answer. Errors are kept as causes; the
label for programs and the wording for people are derived from them.

## Main definitions

* `NameReason` — why a name is refused.
* `AuthError` — why a request is not authenticated.
* `PathError` — all errors, with `PathError.label` and `PathError.message`.
-/

namespace LivePaths

/-! ## Causes -/

/-- **Name reasons**: why the name of a path or of a configuration is refused. -/
inductive NameReason where
  /-- The name itself is at fault. -/
  | fault (f : NameFault)
  /-- The name is a pattern that is not a regular expression. -/
  | badExpression
  /-- Starting on demand is asked of a source that cannot be started. -/
  | onDemandWithoutStaticSource
  /-- A redirect has nowhere to go. -/
  | redirectWithoutTarget
  /-- A camera is configured for a pattern. -/
  | cameraWithPattern
  /-- A launch command is configured for a source that is no publisher. -/
  | launchWithoutPublisher
  /-- A reason given by somebody else. -/
  | stated (text : String)
  deriving DecidableEq, Repr

/-- The wording of a reason. -/
def NameReason.message : NameReason → String
  | .fault f => f.message
  | .badExpression => "invalid regular expression"
  | .onDemandWithoutStaticSource => "'sourceOnDemand' is useless when source is not a static source"
  | .redirectWithoutTarget => "'sourceRedirect' is required when source is 'redirect'"
  | .cameraWithPattern => "a camera source can't be used with a path pattern"
  | .launchWithoutPublisher => "'runOnDemand' can be used only when source is 'publisher'"
  | .stated text => text

/-- **Authentication errors.** -/
inductive AuthError where
  /-- The user may not do this on the path. -/
  | denied (user path : String)
  /-- Nobody could be asked. -/
  | unavailable (cause : String)
  deriving DecidableEq, Repr

/-- The wording of an authentication error. -/
def AuthError.message : AuthError → String
  | .denied user path => "user '" ++ user ++ "' is not allowed on path '" ++ path ++ "'"
  | .unavailable cause => "authentication service unavailable: " ++ cause

/-- **Errors** of requests to paths and to their registry. -/
inductive PathError where
  /-- No configuration governs the name. -/
  | notFound (name : String)
  | invalidName (name : String) (reason : NameReason)
  | authDenied (cause : AuthError)
  /-- The path takes its stream from elsewhere. -/
  | notPublisherSource (name : String)
  /-- Somebody publishes already and may not be replaced. -/
  | alreadyPublishing (name : String)
  | maxReadersReached (name : String)
  /-- Nobody publishes, and nothing can be started. -/
  | noStreamAvailable (name : String)
  /-- What was started on demand did not become ready in time. -/
  | sourceTimedOut (name : String)
  /-- The path or the registry has ended. -/
  | terminated
  /-- The path does not run with the configuration that the publisher expects. -/
  | configurationChanged
  /-- A stream without any media was announced. -/
  | emptyDescription (name : String)
  deriving DecidableEq, Repr

/-! ## Texts -/

/-- **Label**: a short name for the kind of an error. -/
def PathError.label : PathError → String
  | .notFound _ => "path_not_found"
  | .invalidName _ _ => "path_invalid_name"
  | .authDenied _ => "path_auth_denied"
  | .notPublisherSource _ => "path_not_publisher_source"
  | .alreadyPublishing _ => "path_already_publishing"
  | .maxReadersReached _ => "path_max_readers_reached"
  | .noStreamAvailable _ => "path_no_stream_available"
  | .sourceTimedOut _ => "path_source_timed_out"
  | .terminated => "path_terminated"
  | .configurationChanged => "path_configuration_changed"
  | .emptyDescription _ => "path_empty_description"

/-- **Message**: the wording of an error. -/
def PathError.message : PathError → String
  | .notFound name => "path '" ++ name ++ "' is not configured"
  | .invalidName name reason => "invalid path name '" ++ name ++ "': " ++ reason.message
  | .authDenied cause => "authentication failed: " ++ cause.message
  | .notPublisherSource name =>
    "can't publish to path '" ++ name ++ "' since 'source' is not 'publisher'"
  | .alreadyPublishing name => "someone is already publishing to path '" ++ name ++ "'"
  | .maxReadersReached name => "maximum reader count reached on path '" ++ name ++ "'"
  | .noStreamAvailable name => "no stream is available on path '" ++ name ++ "'"
  | .sourceTimedOut name => "source of path '" ++ name ++ "' has timed out"
  | .terminated => "terminated"
  | .configurationChanged => "configuration has changed"
  | .emptyDescription name => "media description of path '" ++ name ++ "' contains no medias"

/-- Refuses a name that has a fault. -/
def Name.check (name : String) : Except PathError Unit :=
  match Name.fault? name with
  | none => .ok ()
  | some f => .error (.invalidName name (.fault f))

end LivePaths
