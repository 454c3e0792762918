import LivePaths.Unicode.Recent

set_option relaxedAutoImplicit false
set_option autoImplicit false

/-!
# Quoted text

Text in double quotes, in which quotes, backslashes and whatever cannot be printed are escaped.

## Main definitions

* `Text.quoted` — the quoted form of a text.
-/

namespace LivePaths.Text

/-- The characters that are written as they are: all but control and format characters,
unassigned and private ones, separators other than the blank, invisible ones, and marks that attach
to the character before them. The two half-width sound marks take a place of their own. -/
def printable : CharSet :=
  let other := (Unicode.category? "other").getD .empty
  let separators := ((Unicode.category? "separator").getD .empty).diff (.singleton ' ')
  let invisible := (Unicode.property? "defaultignorablecodepoint").getD .empty
  let attached := ((Unicode.property? "graphemeextend").getD .empty).diff (.ofHex "FF9E-FF9F")
  (CharSet.unions [other, separators, invisible, attached]).compl.union Unicode.newPrintable

/-- A code point as an escape, in lower-case hexadecimal digits between braces. -/
def codeEscape (c : Char) : List Char :=
  ['\\', 'u', '\x7b'] ++ Nat.toDigits 16 c.toNat ++ ['\x7d']

/-- One character of quoted text. -/
def quotedChar (c : Char) : List Char :=
  match c with
  | '"' => ['\\', '"']
  | '\\' => ['\\', '\\']
  | '\n' => ['\\', 'n']
  | '\t' => ['\\', 't']
  | '\r' => ['\\', 'r']
  | '\x00' => ['\\', '0']
  | c =>
    if c.toNat < 0x7F then (if c.toNat < 0x20 then codeEscape c else [c])
    else if printable.contains c then [c] else codeEscape c

/-- **Quoted text.** -/
def quoted (s : String) : String :=
  .ofList (['"'] ++ s.toList.flatMap quotedChar ++ ['"'])

end LivePaths.Text
