set_option relaxedAutoImplicit false
set_option autoImplicit false

/-!
# Camera settings

Settings of a camera that serves as the source of a path. Some of them, the *tuning*, can be changed
while the camera runs.

Numbers are given in double precision. They are never computed with, only compared, so they are
kept as their bit patterns in a form in which equal numbers have equal bits: there is one zero,
and what is not a number is left out.

## Main definitions

* `CameraNumber` — numbers of the tuning; `CameraNumber.ofBits?` reads a bit pattern.
* `CameraTuning`, `CameraConf` — the settings and their defaults.

## Main results

* `CameraNumber.ofBits?_eq_iff` — two bit patterns give the same number exactly if they are the same
  or both are a zero.
-/

namespace LivePaths

/-! ## Numbers -/

/-- The bits of the zero with a sign. -/
def negativeZeroBits : UInt64 := 0x8000000000000000

/-- Whether a bit pattern is no number: all exponent bits are set and some other bit but the sign
is, too. -/
def isNotANumber (bits : UInt64) : Bool :=
  0x7FF0000000000000 < (bits &&& 0x7FFFFFFFFFFFFFFF)

/-- **Camera number**: a double-precision number, given by bits that equal numbers share. What is
not a number, and so not equal to itself, is excluded. -/
structure CameraNumber where
  bits : UInt64
  isNumber : isNotANumber bits = false
  isPlain : bits ≠ negativeZeroBits

instance : DecidableEq CameraNumber := fun a b =>
  if h : a.bits = b.bits then
    isTrue (by cases a; cases b; cases h; rfl)
  else isFalse fun e => h (congrArg CameraNumber.bits e)

namespace CameraNumber

/-- Zero. -/
def zero : CameraNumber := ⟨0, by decide, by decide⟩

/-- One. -/
def one : CameraNumber := ⟨0x3FF0000000000000, by decide, by decide⟩

/-- Thirty. -/
def thirty : CameraNumber := ⟨0x403E000000000000, by decide, by decide⟩

/-- **Reading** a bit pattern: both zeros are zero, and what is not a number is refused. -/
def ofBits? (bits : UInt64) : Option CameraNumber :=
  if h : isNotANumber bits = false then
    if hz : bits = negativeZeroBits then some zero else some ⟨bits, h, hz⟩
  else none

/-- Whether a bit pattern is one of the two zeros. -/
def isZeroBits (bits : UInt64) : Bool := bits == 0 || bits == negativeZeroBits

/-- Two bit patterns of numbers give the same number exactly if they are the same or both are
a zero. -/
theorem ofBits?_eq_iff {a b : UInt64} (ha : isNotANumber a = false) (hb : isNotANumber b = false) :
    ofBits? a = ofBits? b ↔ a = b ∨ (isZeroBits a = true ∧ isZeroBits b = true) := by
  unfold ofBits?
  simp only [ha, hb, ↓reduceDIte, isZeroBits, Bool.or_eq_true, beq_iff_eq]
  by_cases h1 : a = negativeZeroBits <;> by_cases h2 : b = negativeZeroBits
  · simp [h1, h2]
  · simp only [h1, h2, ↓reduceDIte, Option.some.injEq, zero, CameraNumber.mk.injEq, or_true,
      or_false, true_and]
    constructor
    · exact fun h => Or.inr h.symm
    · rintro (h | h)
      · exact absurd h.symm h2
      · exact h.symm
  · simp only [h1, h2, ↓reduceDIte, Option.some.injEq, zero, CameraNumber.mk.injEq, or_true,
      or_false, and_true]
    constructor
    · exact fun h => Or.inr h
    · rintro (h | h)
      · exact h.elim
      · exact h
  · simp only [h1, h2, ↓reduceDIte, Option.some.injEq, CameraNumber.mk.injEq, or_false]
    constructor
    · exact Or.inl
    · rintro (h | ⟨h, h'⟩)
      · exact h
      · rw [h, h']

end CameraNumber

/-! ## Settings -/

/-- **Camera tuning**: settings that can be changed while the camera runs. -/
structure CameraTuning where
  brightness : CameraNumber := .zero
  contrast : CameraNumber := .one
  saturation : CameraNumber := .one
  sharpness : CameraNumber := .one
  exposure : String := "normal"
  flickerPeriod : Nat := 0
  awb : String := "auto"
  awbGains : List CameraNumber := [.zero, .zero]
  denoise : String := "off"
  shutter : Nat := 0
  metering : String := "centre"
  gain : CameraNumber := .zero
  ev : CameraNumber := .zero
  fps : CameraNumber := .thirty
  idrPeriod : Nat := 60
  bitrate : Nat := 1000000
  deriving DecidableEq

/-- **Camera settings.** -/
structure CameraConf where
  cameraId : Nat := 0
  width : Nat := 1920
  height : Nat := 1080
  hFlip : Bool := false
  vFlip : Bool := false
  tuning : CameraTuning := {}
  deriving DecidableEq

end LivePaths
