import LivePaths.Pattern.Size

set_option relaxedAutoImplicit false
set_option autoImplicit false

/-!
# Programs for name patterns

A resolved expression is turned into a nondeterministic automaton: a list of instructions that
refer to each other by number. The order of the two ways of a `split` says which one is preferred,
so the order of all ways through a program is the order in which matches are preferred.

## Main definitions

* `Instr`, `Program` — automata.
* `Expr.emit` — the instructions of an expression in front of given ones.
* `Program.ofExpr?` — the program of an expression, if it is not too large.
-/

namespace LivePaths.Pattern

/-- **Instructions.** Numbers refer to the instruction to go on with. -/
inductive Instr where
  /-- Take a character of the set. -/
  | take (chars : CharSet) (next : Nat)
  /-- Go on where the condition holds. -/
  | look (condition : Look) (next : Nat)
  /-- Remember the position. -/
  | save (slot : Nat) (next : Nat)
  /-- Two ways; the first one is preferred. -/
  | split (first second : Nat)
  /-- The match is complete. -/
  | accept
  deriving Repr, Inhabited

/-- **Program**: instructions, the one to start with, and the number of groups, of which the
whole match is the first. -/
structure Program where
  code : Array Instr
  start : Nat
  groups : Nat
  deriving Repr, Inhabited

/-! ## Instructions of an expression -/

/-- A split that prefers `more` if it is greedy, else `less`. -/
def Instr.choose (greedy : Bool) (more less : Nat) : Instr :=
  if greedy then .split more less else .split less more

/-- The number of an instruction and all instructions so far. -/
abbrev Emitted := Nat × Array Instr

/-- Adds an instruction. -/
def addInstr (code : Array Instr) (instr : Instr) : Emitted := (code.size, code.push instr)

/-- Copies in front of each other: the last of `n` copies goes on with `next`. -/
def copies (emit : Nat → Array Instr → Emitted) : Nat → Nat → Array Instr → Emitted
  | 0, next, code => (next, code)
  | n + 1, next, code =>
    let (start, code) := emit next code
    copies emit n start code

/-- Optional copies in front of each other, each inside the one before: any of them may go on
with `next` instead. -/
def optionals (emit : Nat → Array Instr → Emitted) (greedy : Bool) (next : Nat) :
    Nat → Nat → Array Instr → Emitted
  | 0, start, code => (start, code)
  | n + 1, start, code =>
    let (body, code) := emit start code
    let (choice, code) := addInstr code (.choose greedy body next)
    optionals emit greedy next n choice code

/-- One or more copies. -/
def oneOrMore (emit : Nat → Array Instr → Emitted) (greedy : Bool) (next : Nat)
    (code : Array Instr) : Emitted :=
  let (again, code) := addInstr code .accept
  let (body, code) := emit again code
  (body, code.setIfInBounds again (.choose greedy body next))

/-- Any number of copies. Where a copy may be empty, the choice before the first copy is not the
one after each copy: otherwise an empty copy would be given up for no copy. -/
def anyNumber (emit : Nat → Array Instr → Emitted) (nullable greedy : Bool) (next : Nat)
    (code : Array Instr) : Emitted :=
  let (again, code) := addInstr code .accept
  let (body, code) := emit again code
  let code := code.setIfInBounds again (.choose greedy body next)
  if nullable then addInstr code (.choose greedy body next) else (again, code)

/-- The characters of a text in front of each other. -/
def emitText : List Char → Nat → Array Instr → Emitted
  | [], next, code => (next, code)
  | c :: text, next, code =>
    let (start, code) := emitText text next code
    addInstr code (.take (.singleton c) start)

/-- **Emission**: the instructions of an expression that goes on with `next`, added to given
ones, and the number of the first of them. -/
def Expr.emit : Expr → Nat → Array Instr → Emitted
  | .empty, next, code => (next, code)
  | .literal text, next, code => emitText text next code
  | .set chars, next, code => addInstr code (.take chars next)
  | .look condition, next, code => addInstr code (.look condition next)
  | .capture index inner, next, code =>
    let (close, code) := addInstr code (.save (2 * index + 1) next)
    let (body, code) := inner.emit close code
    addInstr code (.save (2 * index) body)
  | .concat parts, next, code => emitParts parts next code
  | .alternation choices, next, code => emitChoices choices next code
  | .repetition min none greedy inner, next, code =>
    match min with
    | 0 => anyNumber inner.emit inner.nullable greedy next code
    | n + 1 =>
      let (start, code) := oneOrMore inner.emit greedy next code
      copies inner.emit n start code
  | .repetition min (some max) greedy inner, next, code =>
    let (start, code) := optionals inner.emit greedy next (max - min) next code
    copies inner.emit min start code
where
  /-- The instructions of a sequence. -/
  emitParts : List Expr → Nat → Array Instr → Emitted
    | [], next, code => (next, code)
    | part :: rest, next, code =>
      let (start, code) := emitParts rest next code
      part.emit start code
  /-- The instructions of choices, the first preferred. -/
  emitChoices : List Expr → Nat → Array Instr → Emitted
    | [], next, code => (next, code)
    | [choice], next, code => choice.emit next code
    | choice :: rest, next, code =>
      let (others, code) := emitChoices rest next code
      let (first, code) := choice.emit next code
      addInstr code (.split first others)

/-- **Program of an expression**, if it is not too large. The whole match is captured as
group 0. -/
def Program.ofExpr? (e : Expr) : Option Program :=
  if e.fits then
    let (start, code) := (Expr.capture 0 e).emit 0 #[.accept]
    some ⟨code, start, e.lastCapture + 1⟩
  else none

end LivePaths.Pattern
