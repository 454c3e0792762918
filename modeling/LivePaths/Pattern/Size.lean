import LivePaths.Pattern.Expr
import LivePaths.Unicode.Encoding
import Std.Data.HashMap

set_option relaxedAutoImplicit false
set_option autoImplicit false

/-!
# Size of name patterns

The size of a pattern is that of two automata over bytes, one that reads forwards and one that
reads backwards. Each state takes 32 bytes; a state with a table of ranges of bytes takes 8 more
for each of them, and a branching state 4 more for each of its ways. No automaton may take more
than ten megabytes. Repetitions are copies of what they repeat, so it is they that make patterns
large.

Sets of non-ASCII characters take most of the room. The forward automaton of a set has one state
for all that go on with the same ranges to the same states; the backward automaton shares the ways
that begin with the same ranges. States are found again in a table with a fixed number of places,
in which a state takes the place of an earlier one with the same key, and is built again if it is
needed once more. Keys depend on the numbers of states, so copies of a set may differ in size.

## Main definitions

* `Extent` — the size of an automaton under construction.
* `Expr.extent?` — the automaton of an expression, added to one under construction.
* `Expr.fits` — whether both automata of a pattern are small enough.
-/

namespace LivePaths.Pattern

/-! ## Extents -/

/-- **Extent** of an automaton: its states, and the bytes they take beyond the 32 of each. -/
structure Extent where
  states : Nat := 0
  extra : Nat := 0
  deriving DecidableEq, Repr, Inhabited

/-- The greatest size of an automaton. -/
def maxSize : Nat := 10 * 1024 * 1024

/-- The size of an automaton. -/
def Extent.size (x : Extent) : Nat := 32 * x.states + x.extra

/-- Adds states and further bytes, as long as the automaton is not too large. -/
def Extent.grow? (x : Extent) (states extra : Nat) : Option Extent :=
  let grown : Extent := ⟨x.states + states, x.extra + extra⟩
  if grown.size ≤ maxSize then some grown else none

/-- The direction in which an automaton reads. -/
inductive Direction where
  | forward
  | backward
  deriving DecidableEq, Repr

/-- **Fragment**: the automaton that ends with the states of an expression, and whether the last of
these branches, so that going on from there takes one more way. -/
abbrev Fragment := Extent × Bool

/-- Goes on from the end of a fragment. -/
def Fragment.link? (f : Fragment) : Option Extent := f.1.grow? 0 (if f.2 then 4 else 0)

/-! ## Tables of states -/

/-- Adds a number to a key (FNV-1a with numbers for bytes). -/
def mixKey (key : UInt64) (value : Nat) : UInt64 := (key ^^^ .ofNat value) * 1099511628211

/-- The key of no numbers. -/
def emptyKey : UInt64 := 14695981039346656037

/-- Adds a range of bytes to a key. -/
def mixRange (key : UInt64) (bytes : ByteRange) : UInt64 := mixKey (mixKey key bytes.1) bytes.2

/-! ## Sets, forwards -/

/-- A range of bytes and the state it leads to. -/
abbrev Arc := ByteRange × Nat

/-- An automaton under construction, with the states that can be found again. -/
structure SharedStates where
  extent : Extent
  known : Std.HashMap Nat (List Arc × Nat)

/-- The place of a state among 10000. -/
def arcsPlace (arcs : List Arc) : Nat :=
  (arcs.foldl (fun key arc => mixKey (mixRange key arc.1) arc.2) emptyKey).toNat % 10000

/-- The state with the given arcs: one that is found, or else a new one. -/
def SharedStates.state? (g : SharedStates) (arcs : List Arc) : Option (Nat × SharedStates) :=
  let place := arcsPlace arcs
  match g.known[place]? with
  | some (found, state) => if found == arcs then some (state, g) else add? place
  | none => add? place
where
  /-- A new state, which takes a place. -/
  add? (place : Nat) : Option (Nat × SharedStates) := do
    let extent ← g.extent.grow? 1 (8 * arcs.length)
    some (g.extent.states, ⟨extent, g.known.insert place (arcs, g.extent.states)⟩)

/-- **Path**: states not built yet, because their arcs are still being added. Each has the arcs
that are complete, and a range of bytes that leads to the next one. -/
abbrev Path := List (List Arc × ByteRange)

/-- Builds the states of a path from its end, where it leads to the target. -/
def closePath? (target : Nat) : Path → SharedStates → Option (Nat × SharedStates)
  | [], g => some (target, g)
  | (arcs, bytes) :: deeper, g => do
    let (next, g) ← closePath? target deeper g
    g.state? (arcs ++ [(bytes, next)])

/-- Adds a byte pattern: follows the path as long as it agrees, builds the states below, and goes
on with new ones. -/
def extendPath? (target : Nat) :
    Path → List ByteRange → SharedStates → Option (Path × SharedStates)
  | [], pattern, g => some (pattern.map ([], ·), g)
  | path, [], g => some (path, g)
  | (arcs, bytes) :: deeper, bytes' :: pattern, g =>
    if bytes = bytes' then do
      let (deeper, g) ← extendPath? target deeper pattern g
      some ((arcs, bytes) :: deeper, g)
    else do
      let (next, g) ← closePath? target deeper g
      some ((arcs ++ [(bytes, next)], bytes') :: pattern.map ([], ·), g)

/-- The forward automaton of byte patterns in ascending order. -/
def forwardExtent? (patterns : List (List ByteRange)) (x : Extent) : Option Extent := do
  let target := x.states
  let extent ← x.grow? 1 0
  let (path, g) ← patterns.foldlM
    (fun (path, g) pattern => extendPath? target path pattern g) (([] : Path), ⟨extent, ∅⟩)
  let (_, g) ← closePath? target path g
  some g.extent

/-! ## Sets, backwards -/

/-- An automaton under construction, with the ways that can be found again: each from a range of
bytes to a state. -/
structure SharedWays where
  extent : Extent
  known : Std.HashMap Nat (Arc × Nat)

/-- The place of a way among 1000. -/
def wayPlace (way : Arc) : Nat := (mixRange (mixKey emptyKey way.2) way.1).toNat % 1000

/-- The state of a way: one that is found, or else a new one. -/
def SharedWays.state? (g : SharedWays) (way : Arc) : Option (Nat × SharedWays) :=
  let place := wayPlace way
  match g.known[place]? with
  | some (found, state) => if found == way then some (state, g) else add? place
  | none => add? place
where
  /-- A new state, which takes a place. -/
  add? (place : Nat) : Option (Nat × SharedWays) := do
    let extent ← g.extent.grow? 1 0
    some (g.extent.states, ⟨extent, g.known.insert place (way, g.extent.states)⟩)

/-- Adds a byte pattern that leads to a state. -/
def SharedWays.add? (g : SharedWays) (next : Nat) : List ByteRange → Option SharedWays
  | [] => do
    let extent ← g.extent.grow? 0 4
    some { g with extent }
  | bytes :: pattern => do
    let (state, g) ← g.state? (bytes, next)
    g.add? state pattern

/-- The backward automaton of byte patterns in ascending order. -/
def backwardExtent? (patterns : List (List ByteRange)) (x : Extent) : Option Extent := do
  let target := x.states + 1
  let extent ← x.grow? 2 0
  let g ← patterns.foldlM (fun (g : SharedWays) pattern => g.add? target pattern) ⟨extent, ∅⟩
  some g.extent

/-- The automaton of a set: one table of ranges for ASCII. -/
def setExtent? (d : Direction) (s : CharSet) (x : Extent) : Option Extent :=
  if s.isAscii then x.grow? 2 (8 * s.ranges.length)
  else match d with
    | .forward => forwardExtent? s.encodings x
    | .backward => backwardExtent? s.encodings x

/-! ## Choices between texts -/

/-- **Forest** of the bytes of texts. A tree has a byte, the number of times that a text ends with
it, the trees of the bytes that follow, and its siblings. Its round is the number of texts that had
ended before it when it was added: what comes first is preferred, so a tree is not shared by texts
of different rounds. -/
inductive Forest where
  | nil
  | tree (round : Nat) (byte : UInt8) (ends : Nat) (below others : Forest)
  deriving Repr, Inhabited

/-- The forest of one text. -/
def Forest.ofText (round : Nat) : List UInt8 → Forest
  | [] => .nil
  | [byte] => .tree round byte 1 .nil .nil
  | byte :: text => .tree round byte 0 (ofText 0 text) .nil

/-- The number of ends after one more text ends; without anything below, it counts once. -/
def Forest.endsAfter (ends : Nat) : Forest → Nat
  | .nil => max ends 1
  | .tree .. => ends + 1

/-- Adds a text in a given round. -/
def Forest.add (f : Forest) (round : Nat) (text : List UInt8) : Forest :=
  match f, text with
  | _, [] => f
  | .nil, text => ofText round text
  | .tree round' byte ends below others, byte' :: rest =>
    if round' = round ∧ byte = byte' then
      match rest with
      | [] => .tree round' byte (endsAfter ends below) below others
      | rest => .tree round' byte ends (below.add ends rest) others
    else .tree round' byte ends below (others.add round (byte' :: rest))

/-- The number of trees of a round. -/
def Forest.width (round : Nat) : Forest → Nat
  | .nil => 0
  | .tree round' _ _ _ others => (if round' = round then 1 else 0) + others.width round

/-- The states of one place: one that branches, with a way for each end and for each round with
trees, and a state for each of these rounds, with a table if it has several bytes. -/
def Forest.place (ends : Nat) : Forest → Extent
  | .nil => {}
  | f =>
    let widths := ((List.range (ends + 1)).map f.width).filter (· ≠ 0)
    let tables := (widths.filter (· ≠ 1)).foldl Nat.add 0
    ⟨1 + widths.length, 4 * (widths.length + ends) + 8 * tables⟩

/-- All states below the trees of a forest. -/
def Forest.extent : Forest → Extent
  | .nil => {}
  | .tree _ _ ends below others =>
    let here := below.place ends
    let inside := below.extent
    let beside := others.extent
    ⟨here.states + inside.states + beside.states, here.extra + inside.extra + beside.extra⟩

/-- The automaton of a choice between texts, which share their common starts, or their common ends
when read backwards. -/
def textsExtent? (d : Direction) (texts : List (List Char)) (x : Extent) : Option Extent :=
  let forest := texts.foldl (fun (f : Forest) text =>
    let bytes := text.flatMap String.utf8EncodeChar
    f.add 0 (if d = .forward then bytes else bytes.reverse)) .nil
  let root := forest.place 0
  let inside := forest.extent
  x.grow? (1 + root.states + inside.states) (root.extra + inside.extra)

/-- The texts of choices that are texts only. -/
def textsOf? (choices : List Expr) : Option (List (List Char)) :=
  choices.mapM fun
    | .literal text => some text
    | _ => none

/-! ## Repetitions -/

/-- A way of adding states to an automaton. -/
abbrev Growth := Extent → Option Fragment

/-- Further copies behind a fragment. -/
def moreCopies? (inner : Growth) : Nat → Fragment → Option Fragment
  | 0, f => some f
  | n + 1, f => do
    let f' ← inner f.1
    let x ← Fragment.link? (f'.1, f.2)
    moreCopies? inner n (x, f'.2)

/-- A number of copies; none of them are a state of their own. -/
def exactCopies? (inner : Growth) : Nat → Growth
  | 0, x => do some (← x.grow? 1 0, false)
  | n + 1, x => do moreCopies? inner n (← inner x)

/-- Optional copies behind a fragment, each after a branch that may leave them. -/
def optionalCopies? (inner : Growth) : Nat → Fragment → Option Fragment
  | 0, f => some f
  | n + 1, f => do
    let x ← f.1.grow? 1 8
    let f' ← inner x
    let x ← Fragment.link? (f'.1, f.2)
    optionalCopies? inner n (x, f'.2)

/-- A branch behind a fragment that leads back to its last copy. -/
def repeatLast? (f : Fragment) : Option Fragment := do
  let x ← f.1.grow? 1 4
  some (← Fragment.link? (x, f.2), true)

/-- Any number of copies. A copy that may be empty is entered by a branch of its own. -/
def anyCopies? (nullable : Bool) (inner : Growth) (x : Extent) : Option Fragment := do
  if nullable then
    let f ← inner x
    let (x, _) ← repeatLast? f
    some (← x.grow? 2 12, false)
  else
    let x ← x.grow? 1 4
    some (← Fragment.link? (← inner x), true)

/-- The automaton of a repetition. -/
def repetitionExtent? (min : Nat) (max : Option Nat) (nullable : Bool) (inner : Growth) : Growth :=
  fun x => do
    match min, max with
    | 0, none => anyCopies? nullable inner x
    | 1, none => repeatLast? (← inner x)
    | n + 2, none =>
      let f ← exactCopies? inner (n + 1) x
      let last ← inner f.1
      repeatLast? (← Fragment.link? (last.1, f.2), last.2)
    | 0, some 1 =>
      let x ← x.grow? 1 8
      let f ← inner x
      some (← Fragment.link? (← f.1.grow? 1 0, f.2), false)
    | min, some max =>
      let f ← exactCopies? inner min x
      if max ≤ min then some f
      else
        let f ← optionalCopies? inner (max - min) (← f.1.grow? 1 0, f.2)
        some (← Fragment.link? f, false)

/-! ## Expressions -/

/-- **Automaton of an expression**, added to one under construction. Only the forward automaton
keeps captures. -/
def Expr.extent? (d : Direction) : Expr → Extent → Option Fragment
  | .empty, x => do some (← x.grow? 1 0, false)
  | .look _, x => do some (← x.grow? 1 0, false)
  | .literal text, x => do some (← x.grow? (text.flatMap String.utf8EncodeChar).length 0, false)
  | .set chars, x => do some (← setExtent? d chars x, false)
  | .capture _ inner, x =>
    match d with
    | .forward => do
      let f ← inner.extent? d (← x.grow? 1 0)
      some (← Fragment.link? (← f.1.grow? 1 0, f.2), false)
    | .backward => inner.extent? d x
  | .concat parts, x =>
    match d with
    | .forward => inOrder parts (x, false)
    | .backward => reversed parts x
  | .alternation choices, x =>
    match textsOf? choices with
    | some texts => do some (← textsExtent? d texts x, false)
    | none => do some (← ofChoices choices 0 x, false)
  | .repetition min max _ inner, x =>
    repetitionExtent? min max inner.nullable (inner.extent? d) x
where
  /-- The parts of a sequence, each behind the one before. -/
  inOrder : List Expr → Fragment → Option Fragment
    | [], f => some f
    | part :: rest, f => do
      let f' ← part.extent? d f.1
      inOrder rest (← Fragment.link? (f'.1, f.2), f'.2)
  /-- The parts of a sequence, the last one first. -/
  reversed : List Expr → Extent → Option Fragment
    | [], x => some (x, false)
    | part :: rest, x => do
      let f ← reversed rest x
      let f' ← part.extent? d f.1
      some (← Fragment.link? (f'.1, f.2), f'.2)
  /-- Choices, each a way from a branch to a common end; these two come behind the second one. -/
  ofChoices : List Expr → Nat → Extent → Option Extent
    | [], _, x => some x
    | choice :: rest, n, x => do
      let f ← choice.extent? d x
      let x ← f.1.grow? (if n = 1 then 2 else 0) 4
      ofChoices rest (n + 1) (← Fragment.link? (x, f.2))

/-- Whether an expression matches only where the text starts, or where it ends for an automaton
that reads backwards, as far as its shape tells. -/
def Expr.anchored (d : Direction) : Expr → Bool
  | .look condition => condition == if d = .forward then .textStart else .textEnd
  | .capture _ inner => inner.anchored d
  | .concat parts => if d = .forward then first parts else last parts
  | .alternation choices => all choices
  | .repetition min _ _ inner => min ≠ 0 && inner.anchored d
  | _ => false
where
  /-- Whether one of the first parts is anchored, before any part that takes characters. -/
  first : List Expr → Bool
    | [] => false
    | part :: rest => part.anchored d || (part.onlyEmpty && first rest)
  /-- Whether one of the last parts is anchored, behind all parts that take characters. -/
  last : List Expr → Bool
    | [] => false
    | part :: rest => last rest || (onlyEmpty rest && part.anchored d)
  /-- Whether no part takes characters. -/
  onlyEmpty : List Expr → Bool
    | [] => true
    | part :: rest => part.onlyEmpty && onlyEmpty rest
  /-- Whether all choices are anchored. -/
  all : List Expr → Bool
    | [] => true
    | choice :: rest => choice.anchored d && all rest

/-- The whole automaton of a pattern: what skips the text before a match unless the pattern is
anchored, the expression as capture 0, and the state of a match. -/
def Expr.wholeExtent? (d : Direction) (e : Expr) : Option Extent := do
  let anchored := e.anchored d
  let x ← if anchored then Extent.grow? {} 1 0 else Extent.grow? {} 3 12
  let f ← (Expr.capture 0 e).extent? d x
  let x ← Fragment.link? (← f.1.grow? 1 0, f.2)
  Fragment.link? (x, !anchored)

/-- **Size check**: whether both automata of a pattern are small enough. -/
def Expr.fits (e : Expr) : Bool :=
  (e.wholeExtent? .forward).isSome && (e.wholeExtent? .backward).isSome

end LivePaths.Pattern
