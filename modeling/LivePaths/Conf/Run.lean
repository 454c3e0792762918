import LivePaths.Conf.Set

set_option relaxedAutoImplicit false
set_option autoImplicit false

/-!
# Runs of a set of configurations

A set of configurations is built and changed by calls, one after another. Some of them hand out the
configuration that they take from the set, others are made for the set alone.

## Main definitions

* `ConfCall`, `ConfReply` — the calls, and what they hand out.
* `ConfSet.call`, `ConfSet.run` — one call, and calls in a row.
-/

namespace LivePaths

/-- **Calls** to a set of configurations. -/
inductive ConfCall where
  /-- Inserts a configuration and hands out the one that it replaces. -/
  | insert (c : Conf)
  /-- Inserts a configuration for the set alone, to which more can be added. -/
  | add (c : Conf)
  /-- Removes the configuration of a name and hands it out. -/
  | remove (name : String)
  deriving DecidableEq

/-- **Replies** to calls. -/
inductive ConfReply where
  /-- The configuration that has left the set, or none. -/
  | former (c? : Option Conf)
  /-- Nothing beside the set. -/
  | itself
  deriving DecidableEq

namespace ConfSet

/-- **One call**: its reply, and the set afterwards. -/
def call (s : ConfSet) : ConfCall → ConfReply × ConfSet
  | .insert c =>
    let (former, t) := s.getThenInsert c
    (.former former, t)
  | .add c => (.itself, s.insert c)
  | .remove name =>
    let (former, t) := s.getThenErase name
    (.former former, t)

/-- **Calls in a row**: their replies, and the set after the last one. -/
def run (s : ConfSet) : List ConfCall → List ConfReply × ConfSet
  | [] => ([], s)
  | k :: rest =>
    let (reply, t) := s.call k
    let (replies, u) := t.run rest
    (reply :: replies, u)

end ConfSet

end LivePaths
