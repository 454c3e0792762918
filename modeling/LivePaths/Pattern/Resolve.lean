import LivePaths.Pattern.Syntax
import LivePaths.Pattern.Expr
import LivePaths.Unicode.Age
import LivePaths.Unicode.Break
import LivePaths.Unicode.Class
import LivePaths.Unicode.Category
import LivePaths.Unicode.Script
import LivePaths.Unicode.Property
import LivePaths.Unicode.Fold

set_option relaxedAutoImplicit false
set_option autoImplicit false

/-!
# The meaning of name patterns

Resolves the flags and classes of a tree, which leaves an expression in its simplest form.

## Main definitions

* `Flags` — the flags that hold at a place.
* `PropertyQuery.resolve?`, `ClassSyntax.resolve?` — the sets of classes.
* `Syntax.resolve?` — the resolved expression of a tree; fails for a class that does not exist
  and for what would match parts of characters.
-/

namespace LivePaths.Pattern

/-! ## Flags -/

/-- The flags that hold at a place. -/
structure Flags where
  ignoreCase : Bool := false
  multiLine : Bool := false
  dotAll : Bool := false
  swapGreed : Bool := false
  unicode : Bool := true
  crlf : Bool := false
  deriving DecidableEq, Repr

/-- Sets or clears one flag. -/
def Flags.change (flags : Flags) : FlagChange → Flags
  | (.ignoreCase, on) => { flags with ignoreCase := on }
  | (.multiLine, on) => { flags with multiLine := on }
  | (.dotAll, on) => { flags with dotAll := on }
  | (.swapGreed, on) => { flags with swapGreed := on }
  | (.unicode, on) => { flags with unicode := on }
  | (.crlf, on) => { flags with crlf := on }
  | (.ignoreSpace, _) => flags

/-- Sets and clears several flags. -/
def Flags.changeAll (flags : Flags) (changes : List FlagChange) : Flags :=
  changes.foldl Flags.change flags

/-! ## Classes -/

/-- A name of a property or of its value, in the form of the tables: in lower case, without
blanks, dashes, underscores and a leading "is". The name "isc" stands for itself. -/
def normalName (name : String) : String :=
  let cs := name.toList
  let (hadIs, cs) := match cs with
    | i :: s :: rest =>
      if (i = 'i' || i = 'I') && (s = 's' || s = 'S') then (true, rest) else (false, cs)
    | _ => (false, cs)
  let cs := (cs.filter fun c => c ≠ ' ' && c ≠ '_' && c ≠ '-' && c.toNat < 0x80).map Char.toLower
  if hadIs && cs = ['c'] then "isc" else .ofList cs

/-- The general categories, with three more classes that are named like them. -/
def generalCategory? (name : String) : Option CharSet :=
  if name = "any" then some .all
  else if name = "assigned" then (Unicode.category? "cn").map CharSet.compl
  else if name = "ascii" then some ⟨[(0, 0x7F)]⟩
  else Unicode.category? name

/-- **Unicode classes**: a name alone is looked up among the properties, then the general
categories, then the scripts; three short names are those of categories only. -/
def PropertyQuery.resolve? : PropertyQuery → Option CharSet
  | .named name =>
    let name := normalName name
    let property :=
      if name = "cf" ∨ name = "sc" ∨ name = "lc" then none else Unicode.property? name
    property <|> generalCategory? name <|> Unicode.script? name
  | .valued property value =>
    let value := normalName value
    match normalName property with
    | "gc" | "generalcategory" => generalCategory? value
    | "sc" | "script" => Unicode.script? value
    | "scx" | "scriptextensions" => Unicode.scriptExtensions? value
    | "age" => Unicode.age? value
    | "gcb" | "graphemeclusterbreak" => Unicode.graphemeBreak? value
    | "wb" | "wordbreak" => Unicode.wordBreak? value
    | "sb" | "sentencebreak" => Unicode.sentenceBreak? value
    | _ => none

/-- The ASCII classes by name. -/
def asciiClass : String → CharSet
  | "alnum" => .ofHex "30-39 41-5A 61-7A"
  | "alpha" => .ofHex "41-5A 61-7A"
  | "ascii" => .ofHex "0-7F"
  | "blank" => .ofHex "9 20"
  | "cntrl" => .ofHex "0-1F 7F"
  | "digit" => .ofHex "30-39"
  | "graph" => .ofHex "21-7E"
  | "lower" => .ofHex "61-7A"
  | "print" => .ofHex "20-7E"
  | "punct" => .ofHex "21-2F 3A-40 5B-60 7B-7E"
  | "space" => .ofHex "9-D 20"
  | "upper" => .ofHex "41-5A"
  | "word" => .ofHex "30-39 41-5A 5F 61-7A"
  | "xdigit" => .ofHex "30-39 41-46 61-66"
  | _ => .empty

/-- The set with both cases of its ASCII letters. -/
def asciiCaseClosure (s : CharSet) : CharSet :=
  let lower := (s.inter (asciiClass "upper")).ranges.map fun r => (r.1 + 32, r.2 + 32)
  let upper := (s.inter (asciiClass "lower")).ranges.map fun r => (r.1 - 32, r.2 - 32)
  s.union (.ofRanges (lower ++ upper))

/-- Case variants are added if case is ignored. -/
def Flags.fold (flags : Flags) (s : CharSet) : CharSet :=
  if flags.ignoreCase then (if flags.unicode then s.caseClosure else asciiCaseClosure s) else s

/-- Outside Unicode a set must be ASCII, since it could match parts of characters otherwise. -/
def Flags.admit? (flags : Flags) (s : CharSet) : Option CharSet :=
  if flags.unicode || s.isAscii then some s else none

/-- A finished class: folded, then negated. -/
def Flags.close? (flags : Flags) (negated : Bool) (s : CharSet) : Option CharSet :=
  let s := flags.fold s
  flags.admit? (if negated then s.compl else s)

/-- A class with a letter of its own. -/
def Flags.letterClass? (flags : Flags) (kind : LetterClass) (negated : Bool) : Option CharSet :=
  let s := match kind, flags.unicode with
    | .digit, true => Unicode.digit
    | .space, true => Unicode.space
    | .word, true => Unicode.word
    | .digit, false => asciiClass "digit"
    | .space, false => asciiClass "space"
    | .word, false => asciiClass "word"
  flags.admit? (if negated then s.compl else s)

/-- A Unicode class; there are none outside Unicode. -/
def Flags.propertyClass? (flags : Flags) (query : PropertyQuery) (negated : Bool) :
    Option CharSet := do
  if flags.unicode then flags.close? negated (← query.resolve?) else none

/-- The set operations. -/
def SetOperation.apply : SetOperation → CharSet → CharSet → CharSet
  | .intersection => .inter
  | .difference => .diff
  | .symmetricDifference => .symmDiff

/-- **The set of a class.** The operands of an operation are folded before it. -/
def ClassSyntax.resolve? (flags : Flags) : ClassSyntax → Option CharSet
  | .char c => flags.admit? (.singleton c)
  | .range a b => flags.admit? (.interval a b)
  | .ascii name negated => flags.close? negated (asciiClass name)
  | .letter kind negated => flags.letterClass? kind negated
  | .property query negated => flags.propertyClass? query negated
  | .items parts => resolveAll? parts
  | .binary op left right => do
    some (op.apply (flags.fold (← left.resolve? flags)) (flags.fold (← right.resolve? flags)))
  | .nested negated inside => do flags.close? negated (← inside.resolve? flags)
where
  /-- The union of a list of items. -/
  resolveAll? : List ClassSyntax → Option CharSet
    | [] => some .empty
    | part :: rest => do some ((← part.resolve? flags).union (← resolveAll? rest))

/-! ## Trees -/

/-- The condition of an assertion. -/
def Flags.look (flags : Flags) : Assertion → Look
  | .lineStart => if flags.multiLine then .lineStart flags.crlf else .textStart
  | .lineEnd => if flags.multiLine then .lineEnd flags.crlf else .textEnd
  | .textStart => .textStart
  | .textEnd => .textEnd
  | .wordBoundary => .words .boundary flags.unicode
  | .notWordBoundary => .words .notBoundary flags.unicode
  | .wordStart => .words .start flags.unicode
  | .wordEnd => .words .finish flags.unicode
  | .wordStartHalf => .words .startHalf flags.unicode
  | .wordEndHalf => .words .finishHalf flags.unicode

/-- What the dot matches; outside Unicode it could match parts of characters. -/
def Flags.dot? (flags : Flags) : Option CharSet :=
  if !flags.unicode then none
  else if flags.dotAll then some .all
  else if flags.crlf then some (CharSet.compl (.ofHex "A D"))
  else some (CharSet.compl (.ofHex "A"))

/-- **Resolution**: the expression of a tree under given flags, and the flags that hold behind
it. Flags set in a group end with it, but go on into its later choices. -/
def Syntax.resolve? (flags : Flags) : Syntax → Option (Expr × Flags)
  | .empty => some (.empty, flags)
  | .flags changes => some (.empty, flags.changeAll changes)
  | .literal c byte =>
    if byte && !flags.unicode && 0x7F < c.toNat then none
    else some (.ofSet (flags.fold (.singleton c)), flags)
  | .dot => flags.dot?.map fun s => (.ofSet s, flags)
  | .assertion kind => some (.look (flags.look kind), flags)
  | .letter kind negated => (flags.letterClass? kind negated).map fun s => (.ofSet s, flags)
  | .property query negated => (flags.propertyClass? query negated).map fun s => (.ofSet s, flags)
  | .bracketed negated inside => do
    some (.ofSet (← flags.close? negated (← inside.resolve? flags)), flags)
  | .repetition min max greedy inner => do
    let (e, after) ← inner.resolve? flags
    some (.repeated min max (greedy != after.swapGreed) e, after)
  | .group (.capture index) inner => do
    let (e, _) ← inner.resolve? flags
    some (.capture index e, flags)
  | .group (.flags changes) inner => do
    let (e, _) ← inner.resolve? (flags.changeAll changes)
    some (e, flags)
  | .concat parts => do
    let (es, after) ← resolveAll? flags parts
    some (.sequence es, after)
  | .alternation choices => do
    let (es, after) ← resolveAll? flags choices
    some (.choice es, after)
where
  /-- Resolves a list in order, each under the flags left by those before it. -/
  resolveAll? (flags : Flags) : List Syntax → Option (List Expr × Flags)
    | [] => some ([], flags)
    | part :: rest => do
      let (e, after) ← part.resolve? flags
      let (es, last) ← resolveAll? after rest
      some (e :: es, last)

end LivePaths.Pattern
