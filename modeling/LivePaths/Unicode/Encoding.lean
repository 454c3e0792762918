import LivePaths.Unicode.CharSet

set_option relaxedAutoImplicit false
set_option autoImplicit false

/-!
# Sets of characters as sequences of bytes

Encoded in UTF-8, the characters of a set are the byte strings of a list of patterns, each a
sequence of ranges of bytes. A code point is written in groups of six bits behind a leading group,
and each group is a byte of its own; so an interval of code points splits where it does not run
over all values of its lower groups.

## Main definitions

* `ByteRange` — ranges of bytes.
* `CharSet.encodings` — the byte patterns of a set.
-/

namespace LivePaths

/-- **Range of bytes**, from the first number to the second one. -/
abbrev ByteRange := Nat × Nat

namespace Unicode

/-- The byte patterns of an interval of values in groups of six bits: a leading group, whose byte
is counted from `lead`, and the given number of further ones. An interval over several leading
groups is cut into the rest of the first one, those that are complete, and the start of the last
one. -/
def intervalEncodings (lead : Nat) : Nat → Nat → Nat → List (List ByteRange)
  | 0, lo, hi => [[(lead + lo, lead + hi)]]
  | groups + 1, lo, hi =>
    let unit := 64 ^ (groups + 1)
    let (first, last) := (lo / unit, hi / unit)
    let under (group : Nat) (lo hi : Nat) : List (List ByteRange) :=
      (intervalEncodings 0x80 groups lo hi).map ((lead + group, lead + group) :: ·)
    if first = last then under first (lo % unit) (hi % unit)
    else
      let partialFirst := lo % unit ≠ 0
      let partialLast := hi % unit ≠ unit - 1
      let start := if partialFirst then under first (lo % unit) (unit - 1) else []
      let finish := if partialLast then under last 0 (hi % unit) else []
      let low := if partialFirst then first + 1 else first
      let high := if partialLast then last else last + 1
      let middle :=
        if low < high then
          [(lead + low, lead + high - 1) :: List.replicate (groups + 1) (0x80, 0xBF)]
        else []
      start ++ middle ++ finish

/-- The intervals of code points with encodings of the same length: the lowest and the highest
code point, the first leading byte, and the number of bytes behind it. Surrogates have no
encoding. -/
def encodedPlanes : List (Nat × Nat × Nat × Nat) :=
  [(0, 0x7F, 0, 0), (0x80, 0x7FF, 0xC0, 1), (0x800, 0xD7FF, 0xE0, 2), (0xE000, 0xFFFF, 0xE0, 2),
    (0x10000, 0x10FFFF, 0xF0, 3)]

/-- The byte patterns of a range of code points. -/
def rangeEncodings (range : Nat × Nat) : List (List ByteRange) :=
  encodedPlanes.flatMap fun (least, greatest, lead, groups) =>
    let lo := max range.1 least
    let hi := min range.2 greatest
    if lo ≤ hi then intervalEncodings lead groups lo hi else []

end Unicode

/-- **Encodings**: the byte patterns of the characters of a set, in ascending order. -/
def CharSet.encodings (s : CharSet) : List (List ByteRange) :=
  s.ranges.flatMap Unicode.rangeEncodings

end LivePaths
