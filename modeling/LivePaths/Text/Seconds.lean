set_option relaxedAutoImplicit false
set_option autoImplicit false

/-!
# Durations as text

A duration is written in two ways: with its unit, exactly; and as a number of seconds in double
precision, with the fewest digits that read back as the same number and never with an exponent.

Double-precision numbers are pairs of a mantissa and an exponent of two, and everything is
computed on integers.

## Main definitions

* `Text.withUnit` — whole milliseconds with the unit.
* `Text.Double` — non-negative numbers in double precision, `Double.ofRatio` rounds to them.
* `Text.Double.shortest` — the shortest decimal that reads back.
* `Text.seconds` — seconds and nanoseconds as a number of seconds.
-/

namespace LivePaths.Text

/-! ## Exact text -/

/-- The decimal digits of a number, filled up with zeros in front to a width. -/
def padded (width n : Nat) : List Char :=
  let digits := Nat.toDigits 10 n
  List.replicate (width - digits.length) '0' ++ digits

/-- Leaves out zeros at the end. -/
def trimZeros (digits : List Char) : List Char :=
  (digits.reverse.dropWhile (· = '0')).reverse

/-- A decimal number: its whole part and, if they are not all zeros, the digits behind the
point. -/
def positional (whole : List Char) (fraction : List Char) : List Char :=
  let fraction := trimZeros fraction
  if fraction.isEmpty then whole else whole ++ '.' :: fraction

/-- **Milliseconds with their unit**: seconds from one second on, else milliseconds, and nothing
at all in nanoseconds. -/
def withUnit (ms : Nat) : String :=
  if 1000 ≤ ms then
    .ofList (positional (Nat.toDigits 10 (ms / 1000)) (padded 3 (ms % 1000)) ++ ['s'])
  else if 0 < ms then .ofList (Nat.toDigits 10 ms ++ ['m', 's'])
  else "0ns"

/-! ## Double precision -/

/-- **Double-precision number** `mantissa * 2 ^ exponent`; unless it is zero, the mantissa has
53 bits. -/
structure Double where
  mantissa : Nat
  exponent : Int
  deriving DecidableEq, Repr

namespace Double

/-- A quotient rounded to the nearest integer, halves to the even neighbour. -/
def roundDiv (num den : Nat) : Nat :=
  let q := num / den
  let r := num % den
  if den < 2 * r || (2 * r == den && q % 2 == 1) then q + 1 else q

/-- The exponent of the leading bit of a positive quotient. -/
def binaryExponent (num den : Nat) : Int :=
  let guess : Int := (num.log2 : Int) - den.log2
  -- the quotient lies between `2 ^ (guess - 1)` and `2 ^ (guess + 1)`
  if den <<< guess.toNat ≤ num <<< (-guess).toNat then guess else guess - 1

/-- **Rounding**: the double-precision number nearest to a quotient, halves to the one with an
even mantissa. -/
def ofRatio (num den : Nat) : Double :=
  if num = 0 then ⟨0, 0⟩
  else
    let exponent := binaryExponent num den - 52
    let mantissa := roundDiv (num <<< (-exponent).toNat) (den <<< exponent.toNat)
    if mantissa = 1 <<< 53 then ⟨1 <<< 52, exponent + 1⟩ else ⟨mantissa, exponent⟩

/-- The sum, rounded. -/
def add (x y : Double) : Double :=
  let low := min x.exponent y.exponent
  let sum := x.mantissa <<< (x.exponent - low).toNat + y.mantissa <<< (y.exponent - low).toNat
  ofRatio (sum <<< low.toNat) (1 <<< (-low).toNat)

/-- A number with zeros written behind it: times a power of ten. -/
def withZeros (n zeros : Nat) : Nat := n * Nat.pow 10 zeros

/-- Whether a decimal `digits * 10 ^ power` reads back as `x`: it lies between the midpoints to the
neighbours of `x`, the midpoints included if the mantissa is even. Below a power of two the
neighbour is nearer. -/
def readsBack (x : Double) (digits : Nat) (power : Int) : Bool :=
  -- all sides are multiplied by the same power of two and of ten
  let exponent := x.exponent - 2
  let decimal := withZeros digits power.toNat <<< (-exponent).toNat
  let scale := withZeros 1 (-power).toNat <<< exponent.toNat
  let low := (4 * x.mantissa - (if x.mantissa = 1 <<< 52 then 1 else 2)) * scale
  let high := (4 * x.mantissa + 2) * scale
  if x.mantissa % 2 = 0 then low ≤ decimal && decimal ≤ high
  else low < decimal && decimal < high

/-- The number over a power of ten, as a quotient of whole numbers. -/
def overPower (x : Double) (power : Int) : Nat × Nat :=
  (withZeros (x.mantissa <<< x.exponent.toNat) (-power).toNat,
    withZeros (1 <<< (-x.exponent).toNat) power.toNat)

/-- The number of decimal digits before the point of a positive number; zero or less if the number
is below one tenth and so on. -/
def decimalPlaces (x : Double) (candidates : List Int) : Int :=
  -- the first power of ten above the number
  (candidates.find? fun power =>
    let (num, den) := x.overPower power
    num < den).getD 0

/-- **Shortest decimal**: of the decimals with the fewest digits that read back as `x`, the one
nearest to `x`, as its digits and a power of ten. With a given number of digits only the two
neighbours of `x` can be nearest. -/
def shortest (x : Double) : Nat × Int :=
  let places := x.decimalPlaces ((List.range 640).map fun (i : Nat) => (i : Int) - 325)
  let found := (List.range 17).findSome? fun (i : Nat) =>
    let power := places - (i + 1)
    let (num, den) := x.overPower power
    let below := num / den
    let nearest := if den ≤ 2 * (num % den) then below + 1 else below
    let other := if nearest = below then below + 1 else below
    if x.readsBack nearest power then some (nearest, power)
    else if x.readsBack other power then some (other, power)
    else none
  found.getD (0, 0)

/-- The shortest decimal, written without an exponent. -/
def toText (x : Double) : String :=
  if x.mantissa = 0 then "0"
  else
    let (digits, power) := x.shortest
    if 0 ≤ power then .ofList (Nat.toDigits 10 digits ++ List.replicate power.toNat '0')
    else
      let unit := withZeros 1 (-power).toNat
      .ofList (positional (Nat.toDigits 10 (digits / unit)) (padded (-power).toNat (digits % unit)))

end Double

/-- **Seconds and nanoseconds** as a number of seconds: the whole seconds and the rest are each
rounded to double precision, then their sum. -/
def seconds (secs nanos : Nat) : String :=
  let whole := Double.ofRatio (secs + nanos / 1000000000) 1
  (whole.add (Double.ofRatio (nanos % 1000000000) 1000000000)).toText

end LivePaths.Text
