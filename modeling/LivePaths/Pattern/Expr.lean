import LivePaths.Unicode.Class

set_option relaxedAutoImplicit false
set_option autoImplicit false

/-!
# Expressions

What a name pattern means once its flags and classes are resolved: sets of characters, conditions
on a position, captures, sequences, choices and repetitions. Expressions are built in a simplest
form: texts and sequences are joined, choices between single characters become sets, and what all
choices begin with is taken out of them.

## Main definitions

* `Expr` — resolved expressions.
* `Look` — conditions on a position, with `Look.holds`.
* `Expr.ofSet`, `Expr.sequence`, `Expr.choice`, `Expr.repeated` — the simplest forms.
* `Expr.nullable` — whether an expression may match the empty text.
-/

namespace LivePaths.Pattern

/-! ## Conditions on positions -/

/-- Where a position lies relative to the words around it. -/
inductive Boundary where
  /-- At the start or end of a word. -/
  | boundary
  /-- Anywhere else. -/
  | notBoundary
  /-- At the start of a word. -/
  | start
  /-- At the end of a word. -/
  | finish
  /-- Not behind a word character. -/
  | startHalf
  /-- Not before a word character. -/
  | finishHalf
  deriving DecidableEq, Repr

/-- **Looks**: conditions on a position in a text. -/
inductive Look where
  | textStart
  | textEnd
  /-- At the start of a line; with `crlf`, carriage returns end lines, too. -/
  | lineStart (crlf : Bool)
  | lineEnd (crlf : Bool)
  /-- A condition on words, of Unicode or of ASCII. -/
  | words (kind : Boundary) (unicode : Bool)
  deriving DecidableEq, Repr

/-- Whether a character belongs to an ASCII word. -/
def isAsciiWord (c : Char) : Bool := c.isAlphanum || c = '_'

/-- Whether a condition holds between the character before a position and the one behind it. -/
def Look.holds (look : Look) (before after : Option Char) : Bool :=
  match look with
  | .textStart => before.isNone
  | .textEnd => after.isNone
  | .lineStart false => before.all (· = '\n')
  | .lineEnd false => after.all (· = '\n')
  | .lineStart true =>
    before.all (· = '\n') || (before == some '\r' && after != some '\n')
  | .lineEnd true =>
    after.all (· = '\r') || (after == some '\n' && before != some '\r')
  | .words kind unicode =>
    let isWord := if unicode then Unicode.isWord else isAsciiWord
    let left := before.any isWord
    let right := after.any isWord
    match kind with
    | .boundary => left != right
    | .notBoundary => left == right
    | .start => !left && right
    | .finish => left && !right
    | .startHalf => !left
    | .finishHalf => !right

/-! ## Expressions -/

/-- **Resolved expressions.** -/
inductive Expr where
  | empty
  /-- The given characters one after another, at least one. -/
  | literal (text : List Char)
  /-- One character of a set. -/
  | set (chars : CharSet)
  | look (condition : Look)
  | capture (index : Nat) (inner : Expr)
  | concat (parts : List Expr)
  | alternation (choices : List Expr)
  /-- At least `min` and at most `max` copies, as many as possible if `greedy`. -/
  | repetition (min : Nat) (max : Option Nat) (greedy : Bool) (inner : Expr)
  deriving Repr, Inhabited

/-- The length of the shortest matches, counted up to 1; none if nothing matches. -/
def Expr.minLength : Expr → Option Nat
  | .empty => some 0
  | .literal _ => some 1
  | .set chars => if chars.isEmpty then none else some 1
  | .look _ => some 0
  | .capture _ inner => inner.minLength
  | .concat parts => ofParts parts
  | .alternation choices => ofChoices choices
  | .repetition min _ _ inner => inner.minLength.map fun n => Nat.min 1 (n * min)
where
  /-- The shortest matches of a sequence. -/
  ofParts : List Expr → Option Nat
    | [] => some 0
    | part :: rest => do some (Nat.min 1 ((← part.minLength) + (← ofParts rest)))
  /-- The shortest matches of choices, unless one of them matches nothing. -/
  ofChoices : List Expr → Option Nat
    | [] => none
    | [choice] => choice.minLength
    | choice :: rest => do some (Nat.min (← choice.minLength) (← ofChoices rest))

/-- Whether an expression may match the empty text, as far as its shape tells. -/
def Expr.nullable (e : Expr) : Bool := e.minLength != some 1

/-- Whether an expression matches the empty text only. -/
def Expr.onlyEmpty : Expr → Bool
  | .empty => true
  | .literal _ => false
  | .set _ => false
  | .look _ => true
  | .capture _ inner => inner.onlyEmpty
  | .concat parts => all parts
  | .alternation choices => all choices
  | .repetition _ max _ inner => max.isSome && (inner.onlyEmpty || max == some 0)
where
  /-- Whether all of a list match the empty text only. -/
  all : List Expr → Bool
    | [] => true
    | part :: rest => part.onlyEmpty && all rest

/-- The greatest number of a capture, 0 if there is none. -/
def Expr.lastCapture : Expr → Nat
  | .capture index inner => max index inner.lastCapture
  | .concat parts => ofAll parts
  | .alternation choices => ofAll choices
  | .repetition _ _ _ inner => inner.lastCapture
  | _ => 0
where
  /-- The greatest number of a capture in a list. -/
  ofAll : List Expr → Nat
    | [] => 0
    | part :: rest => max part.lastCapture (ofAll rest)

/-- Whether two expressions have the same form. -/
def Expr.same : Expr → Expr → Bool
  | .empty, .empty => true
  | .literal a, .literal b => a == b
  | .set a, .set b => a == b
  | .look a, .look b => a == b
  | .capture i a, .capture j b => i == j && a.same b
  | .concat as, .concat bs => all as bs
  | .alternation as, .alternation bs => all as bs
  | .repetition min max greedy a, .repetition min' max' greedy' b =>
    min == min' && max == max' && greedy == greedy' && a.same b
  | _, _ => false
where
  /-- Whether two lists have the same forms. -/
  all : List Expr → List Expr → Bool
    | [], [] => true
    | a :: as, b :: bs => a.same b && all as bs
    | _, _ => false

/-! ## Simplest forms -/

/-- **Set**: the set of one character is that character. -/
def Expr.ofSet (chars : CharSet) : Expr :=
  match chars.single? with
  | some c => .literal [c]
  | none => .set chars

/-- **Repetition**: what matches the empty text only is repeated once at most, no copies are the
empty expression (with the captures inside lost), and one copy is the expression itself. -/
def Expr.repeated (min : Nat) (max : Option Nat) (greedy : Bool) (inner : Expr) : Expr :=
  let (min, max) :=
    if inner.onlyEmpty then (Nat.min min 1, some (Nat.min (max.getD 1) 1)) else (min, max)
  if max = some 0 then .empty
  else if min = 1 ∧ max = some 1 then inner
  else .repetition min max greedy inner

/-- The parts of an expression as a part of a sequence. -/
def Expr.parts : Expr → List Expr
  | .empty => []
  | .concat parts => parts
  | e => [e]

/-- Joins texts that follow each other. -/
def joinLiterals : List Expr → List Expr
  | [] => []
  | .literal a :: rest =>
    match joinLiterals rest with
    | .literal b :: more => .literal (a ++ b) :: more
    | joined => .literal a :: joined
  | e :: rest => e :: joinLiterals rest

/-- **Sequence**: without empty parts and sequences inside, and with texts joined. -/
def Expr.sequence (parts : List Expr) : Expr :=
  match joinLiterals (parts.flatMap Expr.parts) with
  | [] => .empty
  | [e] => e
  | parts => .concat parts

/-- The choices of an expression as one of several choices. -/
def Expr.choices : Expr → List Expr
  | .alternation choices => choices
  | e => [e]

/-- The set that stands for choices between single characters, or between sets. -/
def setOfChoices? (choices : List Expr) : Option CharSet :=
  let ofCharacters := choices.mapM fun
    | .literal [c] => some (CharSet.singleton c)
    | _ => none
  let ofSets := choices.mapM fun
    | .set chars => some chars
    | _ => none
  (ofCharacters <|> ofSets).map CharSet.unions

/-- What two sequences begin with. -/
def commonParts : List Expr → List Expr → List Expr
  | a :: as, b :: bs => if a.same b then a :: commonParts as bs else []
  | _, _ => []

/-- What all of several sequences begin with; empty if one of the choices is no sequence. -/
def commonStart (choices : List Expr) : List Expr :=
  let sequences := choices.mapM fun
    | .concat parts => some parts
    | _ => none
  match sequences with
  | some (first :: rest) => rest.foldl commonParts first
  | _ => []

/-- Choices without any inside; those between single characters or sets are a set. -/
def Expr.plainChoice (choices : List Expr) : Expr :=
  match choices.flatMap Expr.choices with
  | [] => .set .empty
  | [e] => e
  | choices => ((setOfChoices? choices).map Expr.ofSet).getD (.alternation choices)

/-- **Choice**: what all choices begin with comes before them. The rests have no common start any
more, or it would belong to the one taken out. -/
def Expr.choice (choices : List Expr) : Expr :=
  match Expr.plainChoice choices with
  | .alternation choices =>
    match commonStart choices with
    | [] => .alternation choices
    | start =>
      let rests := choices.map fun choice => .sequence (choice.parts.drop start.length)
      .sequence (start ++ [.plainChoice rests])
  | e => e

end LivePaths.Pattern
