import StepPipeline.Pattern.Bracket
import StepPipeline.Pattern.Layout
import StepPipeline.Unicode.Recent

/-!
# Reading patterns

A pattern is cut into tokens from left to right, each under the flags in force where it stands; a
group's flags end with the group. The tokens are then put together with a stack of open groups.
-/

namespace StepPipeline.Pattern

/-- A part of a pattern that is put together as a whole. -/
inductive Token where
  | atom (n : Node) (depth : Nat)
  /-- A change of flags; it cannot be repeated. -/
  | flags
  /-- The start of a group, which may remember what it matches. -/
  | opening (remembers : Bool)
  | closing
  | bar
  | repetition (least : Nat) (most : Option Nat)

/-- Where the reader stands: the flags in force, those to go back to at the end of each open
group, and the names of groups so far. -/
structure Scan where
  flags : Flags := {}
  outer : List Flags := []
  names : List String := []

def Scan.enter (s : Scan) (flags : Flags) : Scan :=
  { s with flags := flags, outer := s.flags :: s.outer }

/-! ### Counts -/

/-- A count: digits with blanks around them, below `2 ^ 32`. -/
def count? (f : Flags) (cs : List Char) : Option (Option Nat × List Char) :=
  let (ds, rest) := f.span Char.isDigit (Text.trimStart cs)
  let rest := f.skip (Text.trimStart rest)
  if ds.isEmpty then some (none, rest)
  else if Decimal.ofDigits ds < UInt32.size then some (some (Decimal.ofDigits ds), rest)
  else none

/-- The bounds behind an opening brace: `n`, `n,` or `n,m`, and the closing brace. -/
def bounds? (f : Flags) (cs : List Char) : Option ((Nat × Option Nat) × List Char) := do
  let (least, rest) ← count? f (f.skip cs)
  let least ← least
  match rest with
  | '\x7d' :: rest => some ((least, some least), rest)
  | ',' :: rest =>
    match f.skip rest with
    | '\x7d' :: rest => some ((least, none), rest)
    | rest =>
      let (most, rest) ← count? f rest
      let most ← most
      match rest with
      | '\x7d' :: rest => if least ≤ most then some ((least, some most), rest) else none
      | _ => none
  | _ => none

/-- Drop the mark of a reluctant repetition; it does not change what matches. -/
def dropReluctant : List Char → List Char
  | '?' :: rest => rest
  | cs => cs

/-! ### Groups -/

def Flags.set? (f : Flags) (letter : Char) (on : Bool) : Option Flags :=
  match letter with
  | 'i' => some { f with ignoreCase := on }
  | 'm' => some { f with multiLine := on }
  | 's' => some { f with dotAll := on }
  | 'U' => some { f with swapGreed := on }
  | 'u' => some { f with unicode := on }
  | 'R' => some { f with crlf := on }
  | 'x' => some { f with verbose := on }
  | _ => none

/-- Apply flag letters; those behind a minus sign are turned off. No letter and no sign may occur
twice, and a sign needs a letter behind it. -/
def Flags.apply (f : Flags) (letters : List Char) : Option Flags :=
  if letters.getLast? = some '-' ∨ ¬ letters.Nodup then none
  else
    let on := letters.takeWhile (· ≠ '-')
    let off := (letters.dropWhile (· ≠ '-')).drop 1
    (on.foldlM (fun (f : Flags) c => f.set? c true) f).bind fun f =>
      off.foldlM (fun (f : Flags) c => f.set? c false) f

def beginsName (c : Char) : Bool := c = '_' || Unicode.Recent.alphabetic.contains c

def continuesName (c : Char) : Bool :=
  beginsName c || c = '.' || c = '[' || c = ']' || Unicode.Recent.number.contains c

/-- The name of a group up to its closing angle. -/
def groupName (s : Scan) (cs : List Char) : Except Error (Scan × List Char) :=
  let name := cs.takeWhile (· ≠ '>')
  match cs.drop name.length with
  | [] => .error .badGroupName
  | _ :: rest =>
    let ok := match name with
      | [] => false
      | c :: more => beginsName c && more.all continuesName
    let text := String.ofList name
    if !ok then .error .badGroupName
    else if s.names.contains text then .error (.repeatedGroupName text)
    else .ok ({ s with names := text :: s.names }, rest)

def group (s : Scan) (cs : List Char) : Except Error (Token × Scan × List Char) := do
  let cs := s.flags.skip cs
  match cs with
  | '?' :: rest =>
    match rest with
    | '=' :: _ | '!' :: _ | '<' :: '=' :: _ | '<' :: '!' :: _ => throw .lookAround
    | 'P' :: '<' :: rest | '<' :: rest =>
      let (s, rest) ← groupName s rest
      return (.opening true, s.enter s.flags, rest)
    | rest =>
      let letters := rest.takeWhile fun c => c ≠ ':' && c ≠ ')'
      match rest.drop letters.length with
      | [] => throw .badFlags
      | mark :: rest =>
        match s.flags.apply letters with
        | none => throw .badFlags
        | some flags =>
          if mark = ':' then return (.opening false, s.enter flags, rest)
          else if letters.isEmpty then throw .nothingToRepeat
          else return (.flags, { s with flags := flags }, rest)
  | cs => return (.opening true, s.enter s.flags, cs)

/-! ### Tokens -/

def token (s : Scan) (cs : List Char) : Except Error (Option (Token × Scan × List Char)) := do
  let f := s.flags
  let atom := fun (n : Node) (rest : List Char) => some (Token.atom n 0, s, rest)
  match f.skip cs with
  | [] => return none
  | c :: rest =>
    if c = '(' then return some (← group s rest)
    else if c = ')' then
      match s.outer with
      | [] => throw .unopenedGroup
      | flags :: outer => return some (.closing, { s with flags := flags, outer := outer }, rest)
    else if c = '|' then return some (.bar, s, rest)
    else if c = '[' then
      let (b, rest) ← bracket f rest
      return some (.atom (.char b.set) b.depth, s, rest)
    else if c = '?' then return some (.repetition 0 (some 1), s, dropReluctant rest)
    else if c = '*' then return some (.repetition 0 none, s, dropReluctant rest)
    else if c = '+' then return some (.repetition 1 none, s, dropReluctant rest)
    else if c = '\x7b' then
      match bounds? f rest with
      | some ((least, most), rest) =>
        return some (.repetition least most, s, dropReluctant (f.skip rest))
      | none => throw .badCount
    else if c = '.' then return atom (.char (← f.dot)) rest
    else if c = '^' then
      return atom (.look (if f.multiLine then .lineStart f.crlf else .textStart)) rest
    else if c = '$' then
      return atom (.look (if f.multiLine then .lineEnd f.crlf else .textEnd)) rest
    else if c = '\\' then
      let (p, rest) ← escape f rest
      match p with
      | .literal c => return atom (.char (f.literal c)) rest
      | .class set => return atom (.char (← f.checked set)) rest
      | .look l => return atom (.look l) rest
    else return atom (.char (f.literal c)) rest

/-- The tokens of a text, behind those in `acc`. -/
def tokens (s : Scan) (cs : List Char) (acc : List Token) : Except Error (List Token) :=
  match token s cs with
  | .error e => .error e
  | .ok none => if s.outer.isEmpty then .ok acc.reverse else .error .unclosedGroup
  | .ok (some (t, s, rest)) =>
    if rest.length < cs.length then tokens s rest (t :: acc) else .error .badEscape
termination_by cs.length

/-! ### Putting tokens together -/

/-- A part that has been put together, and how deep it nests. -/
structure Piece where
  node : Node
  depth : Nat

/-- A group that is still open: the choices that are finished and the items, last first, of the one
that is not. A change of flags is an item without a piece. -/
structure OpenGroup where
  remembers : Bool := false
  choices : List Piece := []
  items : List (Option Piece) := []

namespace OpenGroup

def sequence (g : OpenGroup) : Piece :=
  match g.items.reverse.filterMap id with
  | [] => ⟨.empty, 0⟩
  | [p] => if g.items.length = 1 then p else ⟨p.node, p.depth + 1⟩
  | pieces =>
    ⟨pieces.foldr (fun p n => if n == .empty then p.node else .seq p.node n) .empty,
      pieces.foldl (fun d p => max d p.depth) 0 + 1⟩

def close (g : OpenGroup) : Piece :=
  match g.choices with
  | [] => g.sequence
  | choices =>
    let all := (g.sequence :: choices).reverse
    ⟨(all.dropLast.foldr (fun p n => .alt p.node n) g.sequence.node),
      all.foldl (fun d p => max d p.depth) 0 + 1⟩

def add (g : OpenGroup) (p : Option Piece) : OpenGroup := { g with items := p :: g.items }

end OpenGroup

/-- Put one more token to the innermost open group and those around it. -/
def put (inner : OpenGroup) (outer : List OpenGroup) :
    Token → Except Error (OpenGroup × List OpenGroup)
  | .atom n depth => .ok (inner.add (some ⟨n, depth⟩), outer)
  | .flags => .ok (inner.add none, outer)
  | .opening remembers => .ok ({ remembers := remembers }, inner :: outer)
  | .closing =>
    match outer with
    | [] => .error .unopenedGroup
    | next :: outer =>
      let p := inner.close
      let node := if inner.remembers then .group p.node else p.node
      .ok (next.add (some ⟨node, p.depth + 1⟩), outer)
  | .bar => .ok ({ inner with choices := inner.sequence :: inner.choices, items := [] }, outer)
  | .repetition least most =>
    match inner.items with
    | some p :: items =>
      .ok ({ inner with items := some ⟨.rep p.node least most, p.depth + 1⟩ :: items }, outer)
    | _ => .error .nothingToRepeat

def assemble (inner : OpenGroup) (outer : List OpenGroup) : List Token → Except Error Piece
  | [] => if outer.isEmpty then .ok inner.close else .error .unclosedGroup
  | t :: rest =>
    match put inner outer t with
    | .ok (inner, outer) => assemble inner outer rest
    | .error e => .error e

/-- No pattern nests deeper than this. -/
def maxDepth : Nat := 250

def read (text : String) : Except Error Node := do
  let piece ← assemble {} [] (← tokens {} text.toList [])
  if maxDepth < piece.depth then throw .tooDeep
  if sizeLimit < piece.node.size then throw .tooLarge
  return piece.node

end StepPipeline.Pattern
