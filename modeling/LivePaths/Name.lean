set_option relaxedAutoImplicit false
set_option autoImplicit false

/-!
# Path names

Which texts can be the name of a path: slash-separated pieces of ASCII letters, digits and a few
marks, with no slash at either end.

## Main definitions

* `NameFault` — what can be wrong with a name, with `NameFault.message`.
* `Name.fault?` — the first fault of a name.
* `Name.IsValid` — names without a fault.

## Main results

* `Name.isValid_iff` — the valid names, said without the order of the checks.
-/

namespace LivePaths

/-- **Name faults**, in the order in which they are looked for. -/
inductive NameFault where
  | empty
  | leadingSlash
  | trailingSlash
  | badCharacter
  deriving DecidableEq, Repr

/-- The wording of a fault. -/
def NameFault.message : NameFault → String
  | .empty => "cannot be empty"
  | .leadingSlash => "can't begin with a slash"
  | .trailingSlash => "can't end with a slash"
  | .badCharacter =>
    "can contain only alphanumeric characters, underscore, dot, tilde, minus, slash or colon"

namespace Name

/-- The characters that a name may have. -/
def isAllowed (c : Char) : Bool :=
  c.isAlphanum || c = '_' || c = '-' || c = '/' || c = '.' || c = '~' || c = ':'

/-- The first fault of a name, given by its characters. -/
def faultOf? (cs : List Char) : Option NameFault :=
  if cs.isEmpty then some .empty
  else if cs.head? = some '/' then some .leadingSlash
  else if cs.getLast? = some '/' then some .trailingSlash
  else if cs.all isAllowed then none
  else some .badCharacter

/-- **First fault** of a name. -/
def fault? (name : String) : Option NameFault := faultOf? name.toList

/-- **Valid names** are those without a fault. -/
def IsValid (name : String) : Prop := fault? name = none

instance (name : String) : Decidable (IsValid name) :=
  inferInstanceAs (Decidable (fault? name = none))

/-- A name is valid exactly if it has a character, has no slash at its ends and consists of allowed
characters. -/
theorem isValid_iff (name : String) :
    IsValid name ↔ name.toList ≠ [] ∧ name.toList.head? ≠ some '/' ∧
      name.toList.getLast? ≠ some '/' ∧ ∀ c ∈ name.toList, isAllowed c = true := by
  unfold IsValid fault? faultOf?
  simp only [List.isEmpty_iff, List.all_eq_true, ne_eq]
  split <;> (try split) <;> (try split) <;> (try split) <;> simp_all

end Name

end LivePaths
