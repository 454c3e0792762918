import LivePaths.Pattern.Parser
import LivePaths.Pattern.Resolve
import LivePaths.Pattern.Matcher

set_option relaxedAutoImplicit false
set_option autoImplicit false

/-!
# Name patterns

A name pattern is a regular expression that was found to be well formed, together with the
program that runs it. The program is determined by the expression, so two patterns are equal as
soon as their expressions are.

## Main definitions

* `Pattern` — compiled patterns.
* `Pattern.compile?` — the pattern of an expression, if it is well formed.
* `Pattern.captures?` — the first match in a name and its groups.
* `Matching` — any way to compile expressions and to match them; `Matching.engine` is this one.

## Main results

* `Pattern.eq_of_expression_eq` — patterns with the same expression are equal.
-/

namespace LivePaths

/-- The program of a regular expression, if it is well formed. -/
def Pattern.program? (expression : String) : Option Pattern.Program := do
  let tree ← Pattern.Syntax.parse? expression
  let (e, _) ← tree.resolve? {}
  Pattern.Program.ofExpr? e

/-- **Pattern**: a well-formed regular expression with its program. -/
structure Pattern where
  expression : String
  program : Pattern.Program
  /-- The program is that of the expression. -/
  compiles : Pattern.program? expression = some program

namespace Pattern

/-- **Compilation**: the pattern of an expression, if it is well formed. -/
def compile? (expression : String) : Option Pattern :=
  match h : program? expression with
  | some program => some ⟨expression, program, h⟩
  | none => none

/-- **Captures**: the first match anywhere in a name, followed by the groups; a group that took
no part is empty. -/
def captures? (p : Pattern) (name : String) : Option (List String) := p.program.captures name

/-- Patterns with the same expression are equal. -/
theorem eq_of_expression_eq {p q : Pattern} (h : p.expression = q.expression) : p = q := by
  obtain ⟨_, _, hp⟩ := p
  obtain ⟨_, _, hq⟩ := q
  obtain rfl : _ = _ := h
  obtain rfl := Option.some.inj (hp.symm.trans hq)
  rfl

instance : DecidableEq Pattern := fun p q =>
  if h : p.expression = q.expression then isTrue (eq_of_expression_eq h)
  else isFalse fun e => h (congrArg expression e)

/-- A compiled pattern keeps its expression. -/
theorem expression_of_compile? {expression : String} {p : Pattern}
    (h : compile? expression = some p) : p.expression = expression := by
  unfold compile? at h
  split at h
  · exact (Option.some.inj h) ▸ rfl
  · cases h

end Pattern

/-- **Matching** as the rest of the library uses it: which expressions are patterns, and what a
pattern makes of a name. Nothing else is known of it where names are looked up, permissions are
checked and captures are compared. -/
structure Matching where
  compile? : String → Option Pattern
  captures? : Pattern → String → Option (List String)

namespace Matching

/-- The matching of compiled programs. -/
def engine : Matching := ⟨Pattern.compile?, Pattern.captures?⟩

instance : Inhabited Matching := ⟨engine⟩

/-- Whether a pattern matches somewhere in a name. -/
def isMatch (m : Matching) (p : Pattern) (name : String) : Bool := (m.captures? p name).isSome

end Matching

end LivePaths
