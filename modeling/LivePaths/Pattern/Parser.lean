import LivePaths.Pattern.Syntax
import LivePaths.Unicode.Class
import LivePaths.Unicode.Recent

set_option relaxedAutoImplicit false
set_option autoImplicit false

/-!
# Reading name patterns

Reads the text of a regular expression. The grammar has groups (numbered, named or with flags),
repetitions, classes with set operations, Unicode classes, assertions and escapes; it has no
look-around and no back-references. Text outside the grammar is refused without a reason,
since nobody is told one.

Parentheses and brackets are kept on an explicit stack of what is still open, so that each
step of the two loops takes at least one character.

## Main definitions

* `Syntax.parse?` — the tree of an expression.
-/

namespace LivePaths.Pattern

/-! ## Characters and blanks -/

/-- Leaves out blanks and comments (from `#` to the end of the line) at the front. -/
def skipBlanks (inComment : Bool) : List Char → List Char
  | [] => []
  | c :: r =>
    if inComment then skipBlanks (c ≠ '\n') r
    else if Unicode.isSpace c then skipBlanks false r
    else if c = '#' then skipBlanks true r
    else c :: r

/-- What is left out between tokens: blanks and comments if they are skipped, else nothing. -/
def skipper (skips : Bool) : List Char → List Char :=
  if skips then skipBlanks false else id

/-- The characters from the front that satisfy `p`, and the rest; `skip` is applied behind each
of them. -/
def takeSkipping (skip : List Char → List Char) (p : Char → Bool) (cs : List Char) :
    List Char × List Char :=
  match cs with
  | [] => ([], [])
  | c :: r =>
    if p c then
      if (skip r).length ≤ r.length then
        let taken := takeSkipping skip p (skip r)
        (c :: taken.1, taken.2)
      else ([c], [])
    else ([], c :: r)
termination_by cs.length

/-- The character behind the first one, for which blanks do not count if they are skipped. A `#`
opens a comment only once, and the comment ends at its first character that is not blank. -/
def peekBehind (skips : Bool) (r : List Char) : Option Char :=
  if skips then
    match r.dropWhile Unicode.isSpace with
    | '#' :: r' => (r'.dropWhile Unicode.isSpace ++ ['#']).head?
    | r' => r'.head?
  else r.head?

/-- Whether a character is a hexadecimal digit. -/
def isHexDigit (c : Char) : Bool :=
  c.isDigit || ('a' ≤ c && c ≤ 'f') || ('A' ≤ c && c ≤ 'F')

/-- The value of a hexadecimal numeral in either case. -/
def hexNumber (digits : List Char) : Nat := CharSet.hexValue (digits.map Char.toUpper)

/-- The character with a code point, if there is one. -/
def charOfCode? (n : Nat) : Option Char :=
  if h : n.isValidChar then some (Char.ofNatAux n h) else none

/-- The value of a decimal numeral. -/
def decimalNumber (digits : List Char) : Nat :=
  digits.foldl (fun n c => 10 * n + (c.toNat - '0'.toNat)) 0

/-- The greatest count of a repetition. -/
def maxCount : Nat := 4294967295

/-- Reads a count, with blanks around it. -/
def readCount (skip : List Char → List Char) (cs : List Char) : Option (Nat × List Char) :=
  let (digits, rest) := takeSkipping skip Char.isDigit (cs.dropWhile Unicode.isSpace)
  let rest := (takeSkipping skip Unicode.isSpace rest).2
  if digits.isEmpty || maxCount < decimalNumber digits then none
  else some (decimalNumber digits, rest)

/-! ## Escapes -/

/-- Characters with a meaning of their own. -/
def isMeta (c : Char) : Bool := "\\.+*?()|[]\x7b\x7d^$#&-~".contains c

/-- Whether a backslash in front leaves a character as it is: true of all ASCII characters but
letters, digits and the two angle brackets. -/
def isEscapable (c : Char) : Bool :=
  isMeta c || (c.toNat < 0x80 && !c.isAlphanum && c ≠ '<' && c ≠ '>')

/-- Reads `n` hexadecimal digits. -/
def readHexDigits (skip : List Char → List Char) : Nat → List Char → Option (List Char × List Char)
  | 0, r => some ([], r)
  | _ + 1, [] => none
  | n + 1, c :: r =>
    if isHexDigit c then (readHexDigits skip n (skip r)).map fun (ds, r') => (c :: ds, r')
    else none

/-- Reads the code point behind `\x`, `\u` or `\U`: a fixed number of digits, or any number in
braces. Only two digits without braces count as a byte. -/
def readHex (skip : List Char → List Char) (count : Nat) (r : List Char) :
    Option (Syntax × List Char) := do
  match skip r with
  | '\x7b' :: r' =>
    match takeSkipping skip (· ≠ '\x7d') (skip r') with
    | (digits, _ :: rest) =>
      if digits.isEmpty || !digits.all isHexDigit then none
      else
        let c ← charOfCode? (hexNumber digits)
        some (.literal c false, skip rest)
    | (_, []) => none
  | r' =>
    let (digits, rest) ← readHexDigits skip count r'
    let c ← charOfCode? (hexNumber digits)
    some (.literal c (count == 2), rest)

/-- Cuts text at the first place where a separator stands. -/
def cutAt? (separator : List Char) (before : List Char) : List Char → Option (List Char × List Char)
  | [] => none
  | c :: r =>
    if separator.isPrefixOf (c :: r) then some (before.reverse, (c :: r).drop separator.length)
    else cutAt? separator (c :: before) r

/-- Reads what stands in the braces of a Unicode class: a name, or a property and a value with
`!=`, `:` or `=` between them. The flag says that the class is negated by `!=`. -/
def readQuery (text : List Char) : PropertyQuery × Bool :=
  match cutAt? ['!', '='] [] text with
  | some (property, value) => (.valued (.ofList property) (.ofList value), true)
  | none =>
    match cutAt? [':'] [] text with
    | some (property, value) => (.valued (.ofList property) (.ofList value), false)
    | none =>
      match cutAt? ['='] [] text with
      | some (property, value) => (.valued (.ofList property) (.ofList value), false)
      | none => (.named (.ofList text), false)

/-- Reads what follows `\p` or `\P`. -/
def readProperty (skip : List Char → List Char) (negated : Bool) (r : List Char) :
    Option (Syntax × List Char) :=
  match skip r with
  | [] => none
  | '\x7b' :: r' =>
    match takeSkipping skip (· ≠ '\x7d') (skip r') with
    | (text, _ :: rest) =>
      let (query, unequal) := readQuery text
      some (.property query (negated != unequal), rest)
    | (_, []) => none
  | c :: r' => if c = '\\' then none else some (.property (.named (.ofList [c])) negated, skip r')

/-- Reads the braces that may follow `\b`. Braces that do not start with a letter or a dash are
left for a repetition. -/
def readBoundary (skip : List Char → List Char) (r : List Char) : Option (Syntax × List Char) :=
  let isNameChar : Char → Bool := fun c => c.isAlpha || c = '-'
  match r with
  | '\x7b' :: r' =>
    match skip r' with
    | [] => none
    | c :: r'' =>
      if isNameChar c then
        match takeSkipping skip isNameChar (c :: r'') with
        | (name, '\x7d' :: rest) =>
          match String.ofList name with
          | "start" => some (.assertion .wordStart, rest)
          | "end" => some (.assertion .wordEnd, rest)
          | "start-half" => some (.assertion .wordStartHalf, rest)
          | "end-half" => some (.assertion .wordEndHalf, rest)
          | _ => none
        | _ => none
      else some (.assertion .wordBoundary, r)
  | _ => some (.assertion .wordBoundary, r)

/-- Reads what follows a backslash. -/
def readEscape (skip : List Char → List Char) : List Char → Option (Syntax × List Char)
  | [] => none
  | c :: r =>
    match c with
    | 'x' => readHex skip 2 r
    | 'u' => readHex skip 4 r
    | 'U' => readHex skip 8 r
    | 'p' => readProperty skip false r
    | 'P' => readProperty skip true r
    | 'd' => some (.letter .digit false, r)
    | 'D' => some (.letter .digit true, r)
    | 's' => some (.letter .space false, r)
    | 'S' => some (.letter .space true, r)
    | 'w' => some (.letter .word false, r)
    | 'W' => some (.letter .word true, r)
    | 'a' => some (.literal '\x07' false, r)
    | 'f' => some (.literal '\x0c' false, r)
    | 't' => some (.literal '\t' false, r)
    | 'n' => some (.literal '\n' false, r)
    | 'r' => some (.literal '\r' false, r)
    | 'v' => some (.literal '\x0b' false, r)
    | 'A' => some (.assertion .textStart, r)
    | 'z' => some (.assertion .textEnd, r)
    | 'b' => readBoundary skip r
    | 'B' => some (.assertion .notWordBoundary, r)
    | '<' => some (.assertion .wordStart, r)
    | '>' => some (.assertion .wordEnd, r)
    | c => if isEscapable c then some (.literal c false, r) else none

/-! ## Classes -/

/-- A class that is still open. -/
structure OpenClass where
  negated : Bool
  /-- What stands left of the last operation. -/
  left : Option (SetOperation × ClassSyntax)
  /-- The items since then, last one first. -/
  items : List ClassSyntax

/-- The set that an open class holds so far. -/
def OpenClass.contents (o : OpenClass) : ClassSyntax :=
  let right := ClassSyntax.ofItems o.items.reverse
  match o.left with
  | none => right
  | some (op, left) => .binary op left right

/-- Adds an item to an open class. -/
def OpenClass.push (o : OpenClass) (item : ClassSyntax) : OpenClass :=
  { o with items := item :: o.items }

/-- Puts an operation behind what an open class holds. -/
def OpenClass.operate (o : OpenClass) (op : SetOperation) : OpenClass :=
  { o with left := some (op, o.contents), items := [] }

/-- Opens a class behind its bracket: a caret negates it, and dashes and, before all else, a
closing bracket at the front stand for themselves. -/
def openClass (skip : List Char → List Char) (r : List Char) : OpenClass × List Char :=
  let (negated, r) := match skip r with
    | '^' :: r' => (true, skip r')
    | r' => (false, r')
  let (dashes, r) := takeSkipping skip (· = '-') r
  let items := dashes.map ClassSyntax.char
  match items, r with
  | [], ']' :: r' => (⟨negated, none, [.char ']']⟩, skip r')
  | _, _ => (⟨negated, none, items⟩, r)

/-- The names of the ASCII classes. -/
def asciiClassNames : List String :=
  ["alnum", "alpha", "ascii", "blank", "cntrl", "digit", "graph", "lower", "print", "punct",
    "space", "upper", "word", "xdigit"]

/-- Reads a named ASCII class behind its opening bracket; fails where none stands. -/
def readAsciiClass (r : List Char) : Option (ClassSyntax × List Char) :=
  match r with
  | ':' :: r =>
    let (negated, r) := match r with
      | '^' :: r' => (true, r')
      | _ => (false, r)
    match r.span (· ≠ ':') with
    | (name, ':' :: ']' :: rest) =>
      if asciiClassNames.contains (String.ofList name) then
        some (.ascii (.ofList name) negated, rest)
      else none
    | _ => none
  | _ => none

/-- Reads one character or escape of a class. -/
def readClassPart (skip : List Char → List Char) : List Char → Option (Syntax × List Char)
  | [] => none
  | '\\' :: r => readEscape skip r
  | c :: r => some (.literal c false, r)

/-- An escape as an item of a class; assertions are none. -/
def classItem? : Syntax → Option ClassSyntax
  | .literal c _ => some (.char c)
  | .letter kind negated => some (.letter kind negated)
  | .property query negated => some (.property query negated)
  | _ => none

/-- Reads an item of a class, or a range from one character to another. -/
def readClassItem (skips : Bool) (cs : List Char) : Option (ClassSyntax × List Char) := do
  let skip := skipper skips
  let (first, r) ← readClassPart skip cs
  match skip r with
  | [] => none
  | '-' :: r' =>
    match peekBehind skips r' with
    | some ']' | some '-' =>
      let item ← classItem? first
      some (item, '-' :: r')
    | _ =>
      match first, ← readClassPart skip (skip r') with
      | .literal a _, (.literal b _, rest) => if a ≤ b then some (.range a b, rest) else none
      | _, _ => none
  | r' =>
    let item ← classItem? first
    some (item, r')

/-- Reads a class to the end; `outer` holds the classes around the innermost open one. -/
def readClass (skips : Bool) (current : OpenClass) (outer : List OpenClass) (cs : List Char) :
    Option (Syntax × List Char) :=
  let skip := skipper skips
  let continueWith (current : OpenClass) (outer : List OpenClass) (rest : List Char) :=
    if rest.length < cs.length then readClass skips current outer rest else none
  match skip cs with
  | [] => none
  | '[' :: r =>
    match readAsciiClass r with
    | some (item, rest) => continueWith (current.push item) outer rest
    | none =>
      let (opened, rest) := openClass skip r
      continueWith opened (current :: outer) rest
  | ']' :: r =>
    match outer with
    | [] => some (.bracketed current.negated current.contents, r)
    | parent :: outer' =>
      continueWith (parent.push (.nested current.negated current.contents)) outer' r
  | '&' :: '&' :: r => continueWith (current.operate .intersection) outer r
  | '-' :: '-' :: r => continueWith (current.operate .difference) outer r
  | '~' :: '~' :: r => continueWith (current.operate .symmetricDifference) outer r
  | r =>
    match readClassItem skips r with
    | some (item, rest) => continueWith (current.push item) outer rest
    | none => none
termination_by cs.length

/-! ## Groups -/

/-- The flag with a letter. -/
def flag? : Char → Option Flag
  | 'i' => some .ignoreCase
  | 'm' => some .multiLine
  | 's' => some .dotAll
  | 'U' => some .swapGreed
  | 'u' => some .unicode
  | 'R' => some .crlf
  | 'x' => some .ignoreSpace
  | _ => none

/-- Reads flags up to a colon or a closing parenthesis, which is returned, too. One dash may
stand between the flags that are set and those that are cleared; no flag comes twice. -/
def readFlags (cleared dangling : Bool) (changes : List FlagChange) :
    List Char → Option (List FlagChange × Char × List Char)
  | [] => none
  | c :: r =>
    if c = ':' || c = ')' then
      if dangling then none else some (changes.reverse, c, r)
    else if c = '-' then
      if cleared then none else readFlags true true changes r
    else
      match flag? c with
      | none => none
      | some f =>
        if changes.any fun change => change.1 == f then none
        else readFlags cleared false ((f, !cleared) :: changes) r

/-- Whether flags skip blanks, if they say so. -/
def skipsAfter (changes : List FlagChange) (before : Bool) : Bool :=
  match changes.find? fun change => change.1 == .ignoreSpace with
  | some change => change.2
  | none => before

/-- Whether a group name may start with a character. -/
def startsName (c : Char) : Bool := c = '_' || Unicode.isAlphabetic c

/-- Whether a group name may go on with a character. -/
def continuesName (c : Char) : Bool :=
  c = '_' || c = '.' || c = '[' || c = ']' || Unicode.isAlphabetic c || Unicode.isNumeric c

/-- Reads a group name and its closing angle bracket. -/
def readName (r : List Char) : Option (String × List Char) :=
  match r.span (· ≠ '>') with
  | (c :: name, _ :: rest) =>
    if startsName c && name.all continuesName then some (.ofList (c :: name), rest) else none
  | _ => none

/-- A group that is still open, with what stands before it. -/
structure OpenGroup where
  kind : GroupKind
  /-- What precedes the group in its sequence, last part first. -/
  parts : List Syntax
  /-- The choices before that sequence, last one first. -/
  choices : List Syntax
  /-- Whether blanks are skipped around the group. -/
  skips : Bool

/-- **Parser state**: the text still to be read and all that is open. -/
structure ParserState where
  rest : List Char
  /-- Whether blanks are skipped. -/
  skips : Bool
  /-- How many captured groups were opened. -/
  groups : Nat
  /-- The group names seen so far. -/
  names : List String
  /-- The present sequence, last part first. -/
  parts : List Syntax
  /-- The choices before it, last one first. -/
  choices : List Syntax
  /-- The groups around it, innermost first. -/
  outer : List OpenGroup

namespace ParserState

/-- Adds a part to the present sequence. -/
def push (s : ParserState) (part : Syntax) (rest : List Char) : ParserState :=
  { s with parts := part :: s.parts, rest }

/-- All choices of the innermost open group. -/
def contents (s : ParserState) : Syntax :=
  .ofChoices (Syntax.ofParts s.parts.reverse :: s.choices).reverse

/-- Opens a group. -/
def openGroup (s : ParserState) (kind : GroupKind) (skips : Bool) (rest : List Char) :
    ParserState :=
  { s with
    rest, skips, parts := [], choices := [],
    outer := ⟨kind, s.parts, s.choices, s.skips⟩ :: s.outer }

/-- Opens the next captured group. -/
def openCapture (s : ParserState) (rest : List Char) : ParserState :=
  { s.openGroup (.capture (s.groups + 1)) s.skips rest with groups := s.groups + 1 }

/-- Opens a captured group with a name. -/
def openNamed (s : ParserState) (r : List Char) : Option ParserState := do
  let (name, rest) ← readName r
  if s.names.contains name then none
  else some { s.openCapture rest with names := name :: s.names }

/-- Reads what follows an opening parenthesis. -/
def readGroup (s : ParserState) (r : List Char) : Option ParserState := do
  match skipper s.skips r with
  | '?' :: '=' :: _ | '?' :: '!' :: _ | '?' :: '<' :: '=' :: _ | '?' :: '<' :: '!' :: _ => none
  | '?' :: 'P' :: '<' :: r' => s.openNamed r'
  | '?' :: '<' :: r' => s.openNamed r'
  | '?' :: r' =>
    let (changes, closing, rest) ← readFlags false false [] r'
    if closing = ')' then
      if changes.isEmpty then none
      else some { s.push (.flags changes) rest with skips := skipsAfter changes s.skips }
    else some (s.openGroup (.flags changes) (skipsAfter changes s.skips) rest)
  | r' => some (s.openCapture r')

/-- Closes the innermost open group. -/
def closeGroup (s : ParserState) (rest : List Char) : Option ParserState :=
  match s.outer with
  | [] => none
  | group :: outer => some
    { s with
      rest, outer, skips := group.skips, choices := group.choices,
      parts := .group group.kind s.contents :: group.parts }

/-! ## Repetitions -/

/-- Repeats the last part of the sequence; nothing and flags cannot be repeated. -/
def repeatLast (s : ParserState) (min : Nat) (max : Option Nat) (greedy : Bool)
    (rest : List Char) : Option ParserState :=
  match s.parts with
  | [] | .empty :: _ | .flags _ :: _ => none
  | last :: before => some { s with parts := .repetition min max greedy last :: before, rest }

/-- Reads what may follow `?`, `*` or `+`: a question mark makes it lazy. -/
def readRepetition (s : ParserState) (min : Nat) (max : Option Nat) (r : List Char) :
    Option ParserState :=
  match r with
  | '?' :: r' => s.repeatLast min max false r'
  | _ => s.repeatLast min max true r

/-- Reads the end of a counted repetition. -/
def closeCounts (s : ParserState) (min : Nat) (max : Option Nat) (r : List Char) :
    Option ParserState :=
  match r with
  | '\x7d' :: r' =>
    if max.all (min ≤ ·) then s.readRepetition min max (skipper s.skips r') else none
  | _ => none

/-- Reads the counts of a repetition behind the opening brace. -/
def readCounts (s : ParserState) (r : List Char) : Option ParserState := do
  let skip := skipper s.skips
  let (min, r) ← readCount skip (skip r)
  match r with
  | ',' :: r' =>
    match skip r' with
    | '\x7d' :: r'' => s.closeCounts min none ('\x7d' :: r'')
    | r'' =>
      let (max, rest) ← readCount skip r''
      s.closeCounts min (some max) rest
  | _ => s.closeCounts min (some min) r

/-! ## Expressions -/

/-- Reads one piece of the expression, which starts with the given character. -/
def step (s : ParserState) (c : Char) (r : List Char) : Option ParserState := do
  match c with
  | '(' => s.readGroup r
  | ')' => s.closeGroup r
  | '|' =>
    some { s with rest := r, parts := [], choices := .ofParts s.parts.reverse :: s.choices }
  | '[' =>
    let (opened, rest) := openClass (skipper s.skips) r
    let (part, rest) ← readClass s.skips opened [] rest
    some (s.push part rest)
  | '?' => s.readRepetition 0 (some 1) r
  | '*' => s.readRepetition 0 none r
  | '+' => s.readRepetition 1 none r
  | '\x7b' => s.readCounts r
  | '\\' =>
    let (part, rest) ← readEscape (skipper s.skips) r
    some (s.push part rest)
  | '.' => some (s.push .dot r)
  | '^' => some (s.push (.assertion .lineStart) r)
  | '$' => some (s.push (.assertion .lineEnd) r)
  | c => some (s.push (.literal c false) r)

/-- Reads the expression to its end, where no group may be open. -/
def run (s : ParserState) : Option Syntax :=
  match skipper s.skips s.rest with
  | [] => if s.outer.isEmpty then some s.contents else none
  | c :: r =>
    match s.step c r with
    | none => none
    | some s' => if s'.rest.length < s.rest.length then s'.run else none
termination_by s.rest.length

end ParserState

/-- **Parsing**: the tree of an expression, if the text is one and is not nested too deep. -/
def Syntax.parse? (text : String) : Option Syntax := do
  let tree ← ParserState.run ⟨text.toList, false, 0, [], [], [], []⟩
  if tree.depth ≤ maxDepth then some tree else none

end LivePaths.Pattern
