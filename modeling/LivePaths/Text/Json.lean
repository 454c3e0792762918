set_option relaxedAutoImplicit false
set_option autoImplicit false

/-!
# JSON text

Values as one line of JSON without blanks. Records whose order carries no meaning are listed in the
order of these lines.

## Main definitions

* `Text.jsonString`, `Text.jsonArray`, `Text.jsonObject` — the lines of strings, arrays and objects.
* `Text.sortByLine` — a list in the order of the lines of its members.
-/

namespace LivePaths.Text

/-- One character in a JSON string: quotes, backslashes and control characters are escaped. -/
def jsonChar (c : Char) : List Char :=
  match c with
  | '"' => ['\\', '"']
  | '\\' => ['\\', '\\']
  | '\x08' => ['\\', 'b']
  | '\x0c' => ['\\', 'f']
  | '\n' => ['\\', 'n']
  | '\r' => ['\\', 'r']
  | '\t' => ['\\', 't']
  | c =>
    if c.toNat < 0x20 then
      ['\\', 'u', '0', '0', Nat.digitChar (c.toNat / 16), Nat.digitChar (c.toNat % 16)]
    else [c]

/-- **A string** as JSON. -/
def jsonString (s : String) : String :=
  .ofList (['"'] ++ s.toList.flatMap jsonChar ++ ['"'])

/-- **An array** as JSON, from the lines of its members. -/
def jsonArray (members : List String) : String := "[" ++ ",".intercalate members ++ "]"

/-- **An object** as JSON, from its names and the lines of their values. -/
def jsonObject (fields : List (String × String)) : String :=
  let field (f : String × String) := jsonString f.1 ++ ":" ++ f.2
  "\x7b" ++ ",".intercalate (fields.map field) ++ "\x7d"

/-- **Sorting** by the lines of the members. -/
def sortByLine {α : Type} (line : α → String) (members : List α) : List α :=
  members.mergeSort fun a b => decide (line a ≤ line b)

end LivePaths.Text
