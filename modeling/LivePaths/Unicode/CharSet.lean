set_option relaxedAutoImplicit false
set_option autoImplicit false

/-!
# Sets of characters

A set of characters is kept as a list of closed ranges of code points, in ascending order and
with a gap between neighbours. All set operations return that form, so two equal sets have
equal ranges.

## Main definitions

* `CharSet` — the sets, with `CharSet.contains` as membership.
* `CharSet.union`, `CharSet.inter`, `CharSet.diff`, `CharSet.symmDiff`, `CharSet.compl`.
* `CharSet.ofHex` — reads the notation of the tables of this library.
* `CharSet.named?` — looks up such a table.
-/

namespace LivePaths

/-- The greatest code point. -/
def maxCodePoint : Nat := 0x10FFFF

/-- **Character set**: the code points of all its closed ranges. -/
structure CharSet where
  /-- Closed ranges, ascending, with a gap between neighbours. -/
  ranges : List (Nat × Nat)
  deriving DecidableEq, Repr, Inhabited

namespace CharSet

/-- The set without any character. -/
def empty : CharSet := ⟨[]⟩

/-- The set of all characters. -/
def all : CharSet := ⟨[(0, maxCodePoint)]⟩

/-- Membership of a code point. -/
def containsCode (s : CharSet) (n : Nat) : Bool :=
  s.ranges.any fun r => r.1 ≤ n && n ≤ r.2

/-- Membership of a character. -/
def contains (s : CharSet) (c : Char) : Bool := s.containsCode c.toNat

/-- Whether no range is left. -/
def isEmpty (s : CharSet) : Bool := s.ranges.isEmpty

/-! ## Building sets -/

/-- Joins ranges that overlap or touch; the input ascends by lower end. -/
def coalesce (rs : List (Nat × Nat)) : List (Nat × Nat) :=
  (rs.foldl (fun joined r =>
    match joined with
    | [] => [r]
    | last :: before =>
      if r.1 ≤ last.2 + 1 then (last.1, max last.2 r.2) :: before else r :: joined) []).reverse

/-- The set of all code points in the given ranges, in any order. -/
def ofRanges (rs : List (Nat × Nat)) : CharSet :=
  ⟨coalesce (rs.mergeSort fun a b => a.1 ≤ b.1)⟩

/-- The set of one character. -/
def singleton (c : Char) : CharSet := ⟨[(c.toNat, c.toNat)]⟩

/-- The only character of a set, if it has just one. -/
def single? (s : CharSet) : Option Char :=
  match s.ranges with
  | [(lo, hi)] => if lo = hi then some (.ofNat lo) else none
  | _ => none

/-- The characters from `a` to `b`. -/
def interval (a b : Char) : CharSet := ⟨[(a.toNat, b.toNat)]⟩

/-- The code points below and between the given ranges, from `lo` upwards. -/
def gaps (lo : Nat) : List (Nat × Nat) → List (Nat × Nat)
  | [] => if lo ≤ maxCodePoint then [(lo, maxCodePoint)] else []
  | r :: rest => (if lo < r.1 then [(lo, r.1 - 1)] else []) ++ gaps (r.2 + 1) rest

/-! ## Set operations -/

/-- The characters in one of two sets. -/
def union (s t : CharSet) : CharSet := ofRanges (s.ranges ++ t.ranges)

/-- The characters that are not in a set. -/
def compl (s : CharSet) : CharSet := ⟨gaps 0 s.ranges⟩

/-- The characters in both of two sets. -/
def inter (s t : CharSet) : CharSet := (s.compl.union t.compl).compl

/-- The characters in the first set but not in the second. -/
def diff (s t : CharSet) : CharSet := s.inter t.compl

/-- The characters in exactly one of two sets. -/
def symmDiff (s t : CharSet) : CharSet := (s.diff t).union (t.diff s)

/-- The union of a list of sets. -/
def unions (ss : List CharSet) : CharSet := ofRanges (ss.flatMap (·.ranges))

/-- Whether a set has ASCII characters only. -/
def isAscii (s : CharSet) : Bool := s.ranges.all fun r => r.2 < 0x80

/-! ## The notation of the tables -/

/-- The value of an upper-case hexadecimal numeral. -/
def hexValue (digits : List Char) : Nat :=
  digits.foldl (fun n c =>
    16 * n + (if c.isDigit then c.toNat - '0'.toNat else c.toNat - 'A'.toNat + 10)) 0

/-- Reads a table entry, one hexadecimal numeral or two joined by a dash. -/
def hexRange (entry : List Char) : Nat × Nat :=
  match entry.span (· ≠ '-') with
  | (lo, []) => (hexValue lo, hexValue lo)
  | (lo, _ :: hi) => (hexValue lo, hexValue hi)

/-- Splits text at its blanks and line ends and leaves out empty pieces. -/
def words (text : String) : List (List Char) :=
  let pieces := text.toList.foldr (fun c pieces =>
    match c, pieces with
    | ' ', pieces => [] :: pieces
    | '\n', pieces => [] :: pieces
    | c, [] => [[c]]
    | c, piece :: rest => (c :: piece) :: rest) []
  pieces.filter (!·.isEmpty)

/-- Reads a set written as hexadecimal code points and ranges between blanks, as in
`"30-39 5F 61-7A"`. -/
def ofHex (text : String) : CharSet := ofRanges ((words text).map hexRange)

/-- **Look-up in a table of sets**, each written in hexadecimal under several names: the set with
the given name. -/
def named? (table : List (List String × String)) (name : String) : Option CharSet :=
  (table.find? fun entry => entry.1.contains name).map fun entry => ofHex entry.2

end CharSet

end LivePaths
