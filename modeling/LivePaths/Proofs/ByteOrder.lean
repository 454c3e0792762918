import Mathlib.Data.Char
import Mathlib.Data.String.Basic
import Mathlib.Data.List.Basic
import Mathlib.Tactic.Common

set_option relaxedAutoImplicit false
set_option autoImplicit false

/-!
# The order of names is that of their bytes

Names are compared character by character. This is the same as comparing the bytes of their UTF-8
encodings: of two different characters the greater one has the greater encoding, and neither
encoding is the beginning of the other one.

## Main definitions

* `Name.bytes` — the UTF-8 encoding of a name.

## Main results

* `Name.encode_append_lt` — the encodings of two characters decide the order of whatever begins
  with them.
* `Name.lt_iff_bytes_lt` — the order of names is that of their bytes.
-/

namespace LivePaths.Name

/-- **The bytes** of a name. -/
def bytes (name : String) : List UInt8 := name.toUTF8.data.toList

/-! ## Characters -/

/-- Small numbers are compared like the bytes that hold them. -/
lemma ofNat_lt_iff {m n : Nat} (hm : m < 256) (hn : n < 256) :
    UInt8.ofNat m < UInt8.ofNat n ↔ m < n := by
  rw [UInt8.lt_iff_toNat_lt, UInt8.toNat_ofNat_of_lt' hm, UInt8.toNat_ofNat_of_lt' hn]

/-- Bytes hold different small numbers apart. -/
lemma ofNat_eq_iff {m n : Nat} (hm : m < 256) (hn : n < 256) :
    UInt8.ofNat m = UInt8.ofNat n ↔ m = n := by
  rw [← UInt8.toNat_inj, UInt8.toNat_ofNat_of_lt' hm, UInt8.toNat_ofNat_of_lt' hn]

/-- Of two numbers the lesser one has the lesser quotient, or the lesser rest. -/
lemma div_mod_lt {v w : Nat} (h : v < w) : v / 64 < w / 64 ∨ v / 64 = w / 64 ∧ v % 64 < w % 64 := by
  omega

/-- Numbers are compared by groups of six bits, the highest group first. -/
lemma groups_lt {v w : Nat} (h : v < w) :
    v / 262144 < w / 262144 ∨ v / 262144 = w / 262144 ∧
      (v / 4096 % 64 < w / 4096 % 64 ∨ v / 4096 % 64 = w / 4096 % 64 ∧
        (v / 64 % 64 < w / 64 % 64 ∨ v / 64 % 64 = w / 64 % 64 ∧ v % 64 < w % 64)) := by
  have hsecond (n : Nat) : n / 64 / 64 = n / 4096 := Nat.div_div_eq_div_mul ..
  have hthird (n : Nat) : n / 4096 / 64 = n / 262144 := Nat.div_div_eq_div_mul ..
  rcases div_mod_lt h with hlt | ⟨heq, hlt⟩
  · rcases div_mod_lt hlt with hlt | ⟨heq, hlt⟩
    · rw [hsecond, hsecond] at hlt
      rcases div_mod_lt hlt with hlt | ⟨heq, hlt⟩
      · exact .inl (by rwa [hthird, hthird] at hlt)
      · exact .inr ⟨by rwa [hthird, hthird] at heq, .inl hlt⟩
    · rw [hsecond, hsecond] at heq
      exact .inr ⟨by rw [← hthird, ← hthird, heq], .inr ⟨by rw [heq], .inl hlt⟩⟩
  · have heq' : v / 4096 = w / 4096 := by rw [← hsecond, ← hsecond, heq]
    exact .inr ⟨by rw [← hthird, ← hthird, heq'], .inr ⟨by rw [heq'], .inr ⟨by rw [heq], hlt⟩⟩⟩

/-- **The greater character has the greater encoding**, whatever follows.

**Proof sketch.** The encoding of the greater character is longer or as long. The first byte of a
longer encoding is greater; encodings of the same length hold groups of six bits, the highest group
first. -/
lemma encode_append_lt {c d : Char} (h : c < d) (xs ys : List UInt8) :
    String.utf8EncodeChar c ++ xs < String.utf8EncodeChar d ++ ys := by
  have hlt : c.val.toNat < d.val.toNat := UInt32.lt_iff_toNat_lt.1 h
  have hmax : d.val.toNat < 1114112 := by
    rcases d.valid with hd | hd
    · exact Nat.lt_trans hd (by decide)
    · exact hd.2
  unfold String.utf8EncodeChar
  generalize c.val.toNat = v at hlt ⊢
  generalize d.val.toNat = w at hlt hmax ⊢
  have hgroups := groups_lt hlt
  have hv : v / 262144 % 8 = v / 262144 := Nat.mod_eq_of_lt (by omega)
  have hw : w / 262144 % 8 = w / 262144 := Nat.mod_eq_of_lt (by omega)
  dsimp only
  rw [hv, hw]
  -- one case for each pair of lengths
  split_ifs <;>
    simp (disch := omega) only [List.cons_append, List.nil_append, List.cons_lt_cons_iff,
      ofNat_lt_iff, ofNat_eq_iff] <;>
    omega

/-! ## Names -/

/-- The bytes of a name are those of its characters, one after another. -/
lemma bytes_eq (name : String) : bytes name = name.toList.flatMap String.utf8EncodeChar := by
  unfold bytes
  conv => lhs; rw [← String.ofList_toList (s := name)]
  rw [String.toUTF8_eq_toByteArray, String.toByteArray_ofList, List.utf8Encode]
  simp

/-- Lists of characters in order have encodings in order.

**Proof sketch.** Induction on the lists: they differ first in two characters, or one of them is the
beginning of the other one. -/
lemma encode_lt {cs ds : List Char} (h : cs < ds) :
    cs.flatMap String.utf8EncodeChar < ds.flatMap String.utf8EncodeChar := by
  induction cs generalizing ds with
  | nil =>
    cases ds with
    | nil => exact absurd h (List.lt_irrefl _)
    | cons d ds =>
      rw [List.flatMap_nil, List.flatMap_cons]
      cases hd : String.utf8EncodeChar d with
      | nil => exact absurd hd String.utf8EncodeChar_ne_nil
      | cons b bs => exact List.nil_lt_cons b _
  | cons c cs ih =>
    cases ds with
    | nil => exact absurd h (List.not_lt_nil _)
    | cons d ds =>
      rw [List.flatMap_cons, List.flatMap_cons]
      rcases List.cons_lt_cons_iff.1 h with hlt | ⟨rfl, hlt⟩
      · exact encode_append_lt hlt _ _
      · exact List.append_left_lt (ih hlt)

/-- **The order of names is that of their bytes.** -/
theorem lt_iff_bytes_lt (a b : String) : a < b ↔ bytes a < bytes b := by
  have hmono {a b : String} (h : a < b) : bytes a < bytes b := by
    rw [bytes_eq, bytes_eq]
    exact encode_lt (String.lt_iff_toList_lt.1 h)
  refine ⟨hmono, fun h => ?_⟩
  rcases lt_trichotomy a b with hab | rfl | hba
  · exact hab
  · exact absurd h (List.lt_irrefl _)
  · exact absurd (hmono hba) (List.lt_asymm h)

end LivePaths.Name
