set_option relaxedAutoImplicit false
set_option autoImplicit false

/-!
# Syntax of name patterns

The tree that the parser of regular expressions builds. Nothing is resolved here: which flags
hold at a place and which characters a class stands for is decided when the tree is given its
meaning.

## Main definitions

* `Syntax` — regular expressions.
* `ClassSyntax` — what stands between brackets.
* `Syntax.depth` — how deep groups, repetitions, sequences and classes are nested; expressions
  nested deeper than `maxDepth` are refused.
-/

namespace LivePaths.Pattern

/-! ## Parts -/

/-- **Flags** that change how what follows is read or matched. -/
inductive Flag where
  /-- Letters match in either case (`i`). -/
  | ignoreCase
  /-- `^` and `$` match at line ends (`m`). -/
  | multiLine
  /-- The dot matches line feeds as well (`s`). -/
  | dotAll
  /-- Repetitions are lazy unless marked (`U`). -/
  | swapGreed
  /-- Classes and boundaries follow Unicode (`u`), else ASCII. -/
  | unicode
  /-- A carriage return ends a line, too (`R`). -/
  | crlf
  /-- Blanks and comments are skipped (`x`). -/
  | ignoreSpace
  deriving DecidableEq, Repr

/-- A flag and whether it is set or cleared. -/
abbrev FlagChange := Flag × Bool

/-- **Assertions**: conditions on a position, as written. -/
inductive Assertion where
  | lineStart
  | lineEnd
  | textStart
  | textEnd
  | wordBoundary
  | notWordBoundary
  | wordStart
  | wordEnd
  | wordStartHalf
  | wordEndHalf
  deriving DecidableEq, Repr

/-- The classes with a letter of their own. -/
inductive LetterClass where
  /-- Decimal digits. -/
  | digit
  /-- White space. -/
  | space
  /-- Word characters. -/
  | word
  deriving DecidableEq, Repr

/-- A question for a Unicode class: a name alone, or a property with a value. -/
inductive PropertyQuery where
  | named (name : String)
  | valued (property value : String)
  deriving DecidableEq, Repr

/-- The operations between sets in a class. -/
inductive SetOperation where
  | intersection
  | difference
  | symmetricDifference
  deriving DecidableEq, Repr

/-- **Class syntax**: what may stand between brackets. -/
inductive ClassSyntax where
  /-- One character. -/
  | char (c : Char)
  /-- All characters between two. -/
  | range (a b : Char)
  /-- A named ASCII class such as `[:alpha:]`. -/
  | ascii (name : String) (negated : Bool)
  /-- A class with a letter of its own such as `\d`. -/
  | letter (kind : LetterClass) (negated : Bool)
  /-- A Unicode class such as `\pL`. -/
  | property (query : PropertyQuery) (negated : Bool)
  /-- Items side by side. -/
  | items (parts : List ClassSyntax)
  /-- Two sets joined by an operation. -/
  | binary (op : SetOperation) (left right : ClassSyntax)
  /-- A class in brackets of its own. -/
  | nested (negated : Bool) (inside : ClassSyntax)
  deriving Repr, Inhabited

/-- What a pair of parentheses is for. -/
inductive GroupKind where
  /-- The group with this number is captured. -/
  | capture (index : Nat)
  /-- The group holds flags for its inside only. -/
  | flags (changes : List FlagChange)
  deriving DecidableEq, Repr

/-- **Regular expressions** as written. -/
inductive Syntax where
  | empty
  /-- Flags for the rest of the enclosing group. -/
  | flags (changes : List FlagChange)
  /-- One character; `byte` says that it was written as two hexadecimal digits. -/
  | literal (c : Char) (byte : Bool)
  | dot
  | assertion (kind : Assertion)
  | letter (kind : LetterClass) (negated : Bool)
  | property (query : PropertyQuery) (negated : Bool)
  | bracketed (negated : Bool) (inside : ClassSyntax)
  /-- At least `min` and at most `max` copies, as many as possible if `greedy`. -/
  | repetition (min : Nat) (max : Option Nat) (greedy : Bool) (inner : Syntax)
  | group (kind : GroupKind) (inner : Syntax)
  | concat (parts : List Syntax)
  | alternation (choices : List Syntax)
  deriving Repr, Inhabited

/-! ## Building trees -/

/-- Items of a class as one piece: a single item stands for itself. -/
def ClassSyntax.ofItems : List ClassSyntax → ClassSyntax
  | [item] => item
  | parts => .items parts

/-- A sequence: nothing, the only part, or a concatenation. -/
def Syntax.ofParts : List Syntax → Syntax
  | [] => .empty
  | [part] => part
  | parts => .concat parts

/-- Choices: the only choice, or an alternation. -/
def Syntax.ofChoices : List Syntax → Syntax
  | [choice] => choice
  | choices => .alternation choices

/-! ## Depth -/

/-- The greatest depth that is accepted. -/
def maxDepth : Nat := 250

/-- **Depth of a class**: brackets, unions of several items and operations count one each. -/
def ClassSyntax.depth : ClassSyntax → Nat
  | .items [] => 0
  | .items parts => depthOfAll parts + 1
  | .binary _ left right => max left.depth right.depth + 1
  | .nested _ inside => inside.depth + 1
  | _ => 0
where
  /-- The greatest depth in a list of classes. -/
  depthOfAll : List ClassSyntax → Nat
    | [] => 0
    | part :: rest => max part.depth (depthOfAll rest)

/-- **Depth of an expression**: groups, repetitions, sequences, alternations and classes count
one each. -/
def Syntax.depth : Syntax → Nat
  | .bracketed _ inside => inside.depth + 1
  | .repetition _ _ _ inner => inner.depth + 1
  | .group _ inner => inner.depth + 1
  | .concat parts => depthOfAll parts + 1
  | .alternation choices => depthOfAll choices + 1
  | _ => 0
where
  /-- The greatest depth in a list of expressions. -/
  depthOfAll : List Syntax → Nat
    | [] => 0
    | part :: rest => max part.depth (depthOfAll rest)

end LivePaths.Pattern
