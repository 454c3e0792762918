set_option relaxedAutoImplicit false
set_option autoImplicit false

/-!
# Internet addresses

Addresses of both versions, read from text and written in their canonical form.

## Main definitions

* `Address` — four bytes or eight groups of 16 bits.
* `Address.parse?` — the address that a text denotes.
* `Address.toText` — the canonical text.
-/

namespace LivePaths

/-- **Internet address.** -/
inductive Address where
  /-- Four bytes. -/
  | v4 (bytes : List Nat)
  /-- Eight groups of 16 bits. -/
  | v6 (groups : List Nat)
  deriving DecidableEq, Repr

namespace Address

/-! ## Reading -/

/-- The value of a digit in a base of at most 16. -/
def digit? (base : Nat) (c : Char) : Option Nat :=
  let value :=
    if c.isDigit then c.toNat - '0'.toNat
    else if 'a' ≤ c ∧ c ≤ 'f' then c.toNat - 'a'.toNat + 10
    else if 'A' ≤ c ∧ c ≤ 'F' then c.toNat - 'A'.toNat + 10
    else base
  if value < base then some value else none

/-- Reads a number of at most `width` digits, all digits that there are. -/
def readNumber (base width : Nat) (zeroInFront : Bool) (cs : List Char) :
    Option (Nat × List Char) :=
  let digits := cs.takeWhile fun c => (digit? base c).isSome
  if digits.isEmpty || width < digits.length then none
  else if !zeroInFront && 1 < digits.length && digits.head? == some '0' then none
  else some
    (digits.foldl (fun n c => base * n + (digit? base c).getD 0) 0, cs.drop digits.length)

/-- Reads `n` bytes with dots between them; the first one is preceded by a dot unless it is the
first of all. -/
def readBytes (first : Bool) : Nat → List Char → Option (List Nat × List Char)
  | 0, cs => some ([], cs)
  | n + 1, cs => do
    let cs ← if first then some cs else
      match cs with
      | '.' :: r => some r
      | _ => none
    let (byte, cs) ← readNumber 10 3 false cs
    if 255 < byte then none
    else
      let (bytes, cs) ← readBytes false n cs
      some (byte :: bytes, cs)

/-- Reads up to `n` groups with colons between them; four bytes may stand for the last two. Says
whether they do. -/
def readGroups (first : Bool) : Nat → List Char → List Nat × Bool × List Char
  | 0, cs => ([], false, cs)
  | n + 1, cs =>
    let start? := if first then some cs else
      match cs with
      | ':' :: r => some r
      | _ => none
    match start? with
    | none => ([], false, cs)
    | some start =>
      match (if 0 < n then readBytes true 4 start else none) with
      | some ([a, b, c, d], rest) => ([256 * a + b, 256 * c + d], true, rest)
      | _ =>
        match readNumber 16 4 true start with
        | none => ([], false, cs)
        | some (group, rest) =>
          let (groups, hasBytes, rest) := readGroups false n rest
          (group :: groups, hasBytes, rest)

/-- Reads eight groups, of which one run of at least one may be left out. -/
def readV6 (cs : List Char) : Option (List Nat × List Char) :=
  match readGroups true 8 cs with
  | (front, hasBytes, rest) =>
    if front.length = 8 then some (front, rest)
    else if hasBytes then none
    else
      match rest with
      | ':' :: ':' :: rest =>
        let (back, _, rest) := readGroups true (7 - front.length) rest
        some (front ++ List.replicate (8 - front.length - back.length) 0 ++ back, rest)
      | _ => none

/-- **Parsing**: the address that a text denotes. -/
def parse? (text : String) : Option Address :=
  match readBytes true 4 text.toList with
  | some (bytes, rest) => if rest.isEmpty then some (.v4 bytes) else none
  | none =>
    match readV6 text.toList with
    | some (groups, []) => some (.v6 groups)
    | _ => none

/-! ## Writing -/

/-- Numbers in a base with a separator between them. -/
def joined (separator : String) (base : Nat) (ns : List Nat) : String :=
  separator.intercalate (ns.map fun n => .ofList (Nat.toDigits base n))

/-- The length of the run of zeros at the front. -/
def zerosAt (groups : List Nat) : Nat := (groups.takeWhile (· = 0)).length

/-- Where the longest run of zeros starts, the first one of several, and its length. -/
def longestZeros (groups : List Nat) : Nat × Nat :=
  (List.range groups.length).foldl (fun best i =>
    let n := zerosAt (groups.drop i)
    if best.2 < n then (i, n) else best) (0, 0)

/-- **Canonical text**: groups in lower-case hexadecimal digits, the longest run of at least two
zero groups left out; the four bytes of an embedded address are written as such. -/
def toText : Address → String
  | .v4 bytes => joined "." 10 bytes
  | .v6 [0, 0, 0, 0, 0, 0xFFFF, a, b] =>
    "::ffff:" ++ joined "." 10 [a / 256, a % 256, b / 256, b % 256]
  | .v6 groups =>
    let (start, length) := longestZeros groups
    if 1 < length then
      joined ":" 16 (groups.take start) ++ "::" ++ joined ":" 16 (groups.drop (start + length))
    else joined ":" 16 groups

end Address

end LivePaths
