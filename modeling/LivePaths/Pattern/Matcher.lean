import LivePaths.Pattern.Program

set_option relaxedAutoImplicit false
set_option autoImplicit false

/-!
# Running name patterns

A program is run by following its preferred ways first. A way that comes to an instruction at a
position where an earlier way has been is given up, since the earlier way found no match from
there. So each pair of an instruction and a position is visited once, and the search ends.

## Main definitions

* `Thread` — a way not yet followed.
* `explore` — the search from given threads.
* `Program.captures` — the captures of the first match in a text.
-/

namespace LivePaths.Pattern

/-- **Thread**: where to go on, and the positions remembered on the way there. -/
structure Thread where
  instr : Nat
  pos : Nat
  slots : Array (Option Nat)

/-- The threads that follow an instruction, the preferred one first; `none` for a match. -/
def Thread.next (t : Thread) (text : Array Char) (instr : Instr) : Option (List Thread) :=
  match instr with
  | .take chars next =>
    match text[t.pos]? with
    | some c => some (if chars.contains c then [{ t with instr := next, pos := t.pos + 1 }] else [])
    | none => some []
  | .look condition next =>
    let before := if t.pos = 0 then none else text[t.pos - 1]?
    some (if condition.holds before text[t.pos]? then [{ t with instr := next }] else [])
  | .save slot next =>
    some [{ t with instr := next, slots := t.slots.setIfInBounds slot (some t.pos) }]
  | .split first second => some [{ t with instr := first }, { t with instr := second }]
  | .accept => none

/-- Marking an unvisited place leaves fewer unvisited places. -/
theorem count_set_lt {visited : Array Bool} {i : Nat} (h : i < visited.size)
    (hi : visited[i] = false) : (visited.set i true h).count false < visited.count false := by
  have pos : 0 < visited.count false := by
    rw [Array.count_pos_iff, ← hi]
    exact Array.getElem_mem h
  rw [Array.count_set h, hi]
  simp only [beq_self_eq_true, ↓reduceIte, Bool.true_beq, Bool.false_eq_true]
  omega

/-- **Search**: follows threads in order until one matches. Returns its slots, if any, and the
places visited. -/
def explore (code : Array Instr) (text : Array Char) (threads : List Thread)
    (visited : Array Bool) : Option (Array (Option Nat)) × Array Bool :=
  match threads with
  | [] => (none, visited)
  | t :: rest =>
    let place := t.instr * (text.size + 1) + t.pos
    if h : place < visited.size then
      if hv : visited[place] = false then
        match (code[t.instr]?).map (t.next text) with
        | none => explore code text rest (visited.set place true h)
        | some none => (some t.slots, visited)
        | some (some threads) => explore code text (threads ++ rest) (visited.set place true h)
      else explore code text rest visited
    else explore code text rest visited
termination_by (visited.count false, threads.length)
decreasing_by
  all_goals first
    | exact Prod.Lex.left _ _ (count_set_lt h hv)
    | exact Prod.Lex.right _ (by simp)

/-- The slots of the first match at one of the given positions. -/
def firstMatch (program : Program) (text : Array Char) : List Nat → Array Bool →
    Option (Array (Option Nat))
  | [], _ => none
  | pos :: later, visited =>
    let slots := Array.replicate (2 * program.groups) none
    match explore program.code text [⟨program.start, pos, slots⟩] visited with
    | (some slots, _) => some slots
    | (none, visited) => firstMatch program text later visited

/-- The text between two remembered positions, empty if the group took no part. -/
def slice (text : Array Char) (from? to? : Option Nat) : String :=
  match from?, to? with
  | some i, some j => .ofList ((text.extract i j).toList)
  | _, _ => ""

/-- **Captures** of the first match in a text: the whole match, then each group. -/
def Program.captures (program : Program) (name : String) : Option (List String) :=
  let text := name.toList.toArray
  let visited := Array.replicate (program.code.size * (text.size + 1)) false
  (firstMatch program text (List.range (text.size + 1)) visited).map fun slots =>
    (List.range program.groups).map fun i =>
      slice text (slots[2 * i]?.getD none) (slots[2 * i + 1]?.getD none)

end LivePaths.Pattern
