import LivePaths.Path.Basic

set_option relaxedAutoImplicit false
set_option autoImplicit false

/-!
# Tuning of a registry

Sizes of queues and buffers, and the address of the server.

## Main definitions

* `RegistryConfig` — the tuning and its defaults; no size is 0.
-/

namespace LivePaths

/-- **Tuning** of a registry. -/
structure RegistryConfig where
  pathInboxCapacity : Nat := 32
  registryInboxCapacity : Nat := 64
  eventCapacity : Nat := 64
  /-- How many units a stream keeps at least. -/
  streamCapacity : Nat := 512
  rtspAddress : String := ":8554"
  deriving DecidableEq, Repr

namespace RegistryConfig

/-- Sets the size of the queue of a path. -/
def withPathInbox (c : RegistryConfig) (n : Nat) : RegistryConfig :=
  { c with pathInboxCapacity := max n 1 }

/-- Sets the size of the queue of the registry. -/
def withRegistryInbox (c : RegistryConfig) (n : Nat) : RegistryConfig :=
  { c with registryInboxCapacity := max n 1 }

/-- Sets the size of the queue of notices. -/
def withEvents (c : RegistryConfig) (n : Nat) : RegistryConfig :=
  { c with eventCapacity := max n 1 }

/-- Sets how many units a stream keeps. -/
def withStream (c : RegistryConfig) (n : Nat) : RegistryConfig :=
  { c with streamCapacity := max n 1 }

/-- Sets the address. -/
def withAddress (c : RegistryConfig) (address : String) : RegistryConfig :=
  { c with rtspAddress := address }

/-- The settings of paths under a tuning. -/
def pathSettings (c : RegistryConfig) (recorders : Bool)
    (describeSource : String → List String → String → Descriptor) : PathSettings where
  streamCapacity := c.streamCapacity
  rtspAddress := c.rtspAddress
  recorders
  describeSource

end RegistryConfig

end LivePaths
