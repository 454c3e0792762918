import LivePaths.Text.Json

set_option relaxedAutoImplicit false
set_option autoImplicit false

/-!
# Descriptors and clients

How sources and readers are known to a path and to whoever looks at it.

## Main definitions

* `Descriptor` — the kind of an entity and its identifier.
* `Client` — somebody who publishes or reads, and describes itself.
-/

namespace LivePaths

/-- **Descriptor** of a source or a reader. It is there to be looked at, and decides nothing. -/
structure Descriptor where
  kind : String
  id : String
  deriving DecidableEq, Repr

/-- A descriptor as one line of text. -/
def Descriptor.line (d : Descriptor) : String :=
  Text.jsonArray [Text.jsonString d.kind, Text.jsonString d.id]

/-- **Client**: a publisher or a reader. What it is, is its number; two clients with different
numbers are different ones even if they describe themselves alike. -/
structure Client where
  number : Nat
  descriptor : Descriptor
  deriving DecidableEq, Repr

end LivePaths
