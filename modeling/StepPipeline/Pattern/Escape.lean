import StepPipeline.Decimal.Reading
import StepPipeline.Pattern.Error
import StepPipeline.Pattern.Node
import StepPipeline.Text.Blank
import StepPipeline.Text.Search

/-!
# Flags and escapes

The flags that are in force at a place of a pattern, and what stands for a character, a class of
characters or a condition there: a plain character, or a backslash and what follows it.
-/

namespace StepPipeline.Pattern

/-- The switches that are on where the reader stands; a group can change them up to its end. -/
structure Flags where
  ignoreCase : Bool := false
  multiLine : Bool := false
  dotAll : Bool := false
  swapGreed : Bool := false
  unicode : Bool := true
  crlf : Bool := false
  /-- Blanks and comments do not count. -/
  verbose : Bool := false

/-- Drop blanks and comments; a comment runs from `#` to the end of the line. -/
def skipVerbose : Bool → List Char → List Char
  | _, [] => []
  | false, c :: rest =>
    if Text.isBlank c then skipVerbose false rest
    else if c = '#' then skipVerbose true rest
    else c :: rest
  | true, c :: rest => skipVerbose (c ≠ '\n') rest

/-- Drop what does not count at the front. -/
def Flags.skip (f : Flags) (cs : List Char) : List Char :=
  if f.verbose then skipVerbose false cs else cs

theorem length_skipVerbose_le (inComment : Bool) (cs : List Char) :
    (skipVerbose inComment cs).length ≤ cs.length := by
  induction cs generalizing inComment with
  | nil => simp [skipVerbose]
  | cons c rest ih =>
    have step : ∀ b, (skipVerbose b rest).length ≤ (c :: rest).length := fun b =>
      Nat.le_succ_of_le (ih b)
    cases inComment with
    | true => exact step _
    | false =>
      unfold skipVerbose
      split
      · exact step _
      · split
        · exact step _
        · exact Nat.le_refl _

theorem Flags.length_skip_le (f : Flags) (cs : List Char) : (f.skip cs).length ≤ cs.length := by
  unfold Flags.skip
  split
  · exact length_skipVerbose_le false cs
  · exact Nat.le_refl _

/-- The characters at the front that satisfy a test, with what does not count behind each of them
left out, and the rest. -/
def Flags.span (f : Flags) (test : Char → Bool) (cs : List Char) : List Char × List Char :=
  match cs with
  | [] => ([], [])
  | c :: rest =>
    if test c then
      let (taken, rest) := f.span test (f.skip rest)
      (c :: taken, rest)
    else ([], c :: rest)
termination_by cs.length
decreasing_by
  have := f.length_skip_le rest
  simp only [List.length_cons]
  omega

/-- What stands before the next closing brace, without what does not count, and the text behind the
brace. -/
def Flags.inBraces? (f : Flags) (cs : List Char) : Option (List Char × List Char) :=
  let (inside, rest) := f.span (· ≠ '\x7d') (f.skip cs)
  match rest with
  | [] => none
  | _ :: rest => some (inside, rest)

/-- The character at the front as a look ahead sees it: it passes over blanks and over one mark that
begins a comment, but not over the comment. -/
def Flags.peek? (f : Flags) (cs : List Char) : Option Char :=
  if f.verbose then
    let seen := match cs.dropWhile Text.isBlank with
      | '#' :: rest => rest.dropWhile Text.isBlank
      | rest => rest
    seen.head? <|> cs.head?
  else cs.head?

/-- What a plain character or an escape stands for. -/
inductive Primitive where
  | literal (c : Char)
  | class (set : CharSet)
  | look (l : Look)

namespace Flags

def literal (f : Flags) (c : Char) : CharSet :=
  if f.unicode then CharSet.foldIf f.ignoreCase (.single c)
  else if f.ignoreCase && c.toNat < 128 then .inter (.range 0 127) (.folded (.single c))
  else .single c

def word (f : Flags) : CharSet :=
  if f.unicode then .property Unicode.Property.word else CharSet.asciiWord

def digit (f : Flags) : CharSet :=
  if f.unicode then .property Unicode.Property.digit else CharSet.asciiDigit

def space (f : Flags) : CharSet :=
  if f.unicode then .property Unicode.Property.space else CharSet.asciiSpace

/-- Refuse a set that, without Unicode, is not made of ASCII characters alone. -/
def checked (f : Flags) (set : CharSet) : Except Error CharSet :=
  if f.unicode then .ok set
  else if set.contains (Char.ofNat 128) then .error .notUnicode
  else .ok (.inter (.range 0 127) set)

def checkedChar (f : Flags) (c : Char) : Except Error CharSet :=
  if f.unicode || c.toNat < 128 then .ok (.single c) else .error .notUnicode

def dot (f : Flags) : Except Error CharSet :=
  f.checked <| .compl <|
    if f.dotAll then .empty
    else if f.crlf then .union (.single '\n') (.single '\r')
    else .single '\n'

end Flags

def hexNumber? (digits : List Char) : Option Nat :=
  digits.foldlM (fun n c =>
    if c.isDigit then some (16 * n + (c.toNat - 48))
    else if 'a' ≤ c ∧ c ≤ 'f' then some (16 * n + (c.toNat - 87))
    else if 'A' ≤ c ∧ c ≤ 'F' then some (16 * n + (c.toNat - 55))
    else none) 0

def codePoint (digits : List Char) : Except Error Char :=
  match hexNumber? digits with
  | some n => if h : n.isValidChar then .ok (Char.ofNatAux n h) else .error .badCodePoint
  | none => .error .badCodePoint

/-- Take a number of characters, skipping what does not count between them. -/
def take (f : Flags) : Nat → List Char → List Char → Option (List Char × List Char)
  | 0, taken, cs => some (taken.reverse, cs)
  | n + 1, taken, c :: rest => take f n (c :: taken) (f.skip rest)
  | _ + 1, _, [] => none

/-- The code point behind `\x`, `\u` or `\U`: in braces, or in exactly `width` digits. -/
def hexadecimal (f : Flags) (width : Nat) (cs : List Char) : Except Error (Char × List Char) :=
  match f.skip cs with
  | '\x7b' :: rest =>
    match f.inBraces? rest with
    | none => .error .badCodePoint
    | some (digits, rest) =>
      if digits.isEmpty then .error .badCodePoint
      else (codePoint digits).map fun c => (c, f.skip rest)
  | cs =>
    match take f width [] cs with
    | some (digits, rest) => (codePoint digits).map fun c => (c, rest)
    | none => .error .badCodePoint

/-- What stands before and behind the first place where a text occurs. -/
def cutAt? (mark : List Char) : List Char → Option (List Char × List Char)
  | [] => none
  | c :: rest =>
    match Text.dropLeading? mark (c :: rest) with
    | some behind => some ([], behind)
    | none => (cutAt? mark rest).map fun (before, behind) => (c :: before, behind)

/-- The property that a text in braces asks for, and whether it is to be negated: a kind and a value
with `!=`, `:` or `=` between them, looked for in this order, or a name. -/
def propertyInBraces? (inside : List Char) : Option (Unicode.Property × Bool) :=
  match cutAt? ['!', '='] inside with
  | some (kind, value) => (Unicode.Property.byValue? kind value).map (·, true)
  | none =>
    match cutAt? [':'] inside <|> cutAt? ['='] inside with
    | some (kind, value) => (Unicode.Property.byValue? kind value).map (·, false)
    | none => (Unicode.Property.byName? inside).map (·, false)

def Flags.ofProperty (f : Flags) (p : Unicode.Property) (negated : Bool) : CharSet :=
  CharSet.complIf negated (CharSet.foldIf f.ignoreCase (.property p))

/-- The property behind `\p`: one letter, or a name or a kind and a value in braces. -/
def property (f : Flags) (negated : Bool) (cs : List Char) :
    Except Error (CharSet × List Char) := do
  if !f.unicode then throw .notUnicode
  match f.skip cs with
  | [] => throw .badEscape
  | '\x7b' :: rest =>
    match f.inBraces? rest with
    | none => throw .badEscape
    | some (inside, rest) =>
      match propertyInBraces? inside with
      | some (p, different) => return (f.ofProperty p (negated != different), rest)
      | none => throw (.unknownProperty (String.ofList inside))
  | c :: rest =>
    if c = '\\' then throw .badEscape
    match Unicode.Property.byName? [c] with
    | some p => return (f.ofProperty p negated, f.skip rest)
    | none => throw (.unknownProperty (String.ofList [c]))

def namedBoundary? (f : Flags) (name : String) : Option Look :=
  match name with
  | "start" => some (.wordStart f.word)
  | "end" => some (.wordEnd f.word)
  | "start-half" => some (.wordStartHalf f.word)
  | "end-half" => some (.wordEndHalf f.word)
  | _ => none

def isBoundaryName (c : Char) : Bool := c.isAlpha || c = '-'

/-- The boundary behind `\b`, plain or with a name in braces; braces with anything but a name are a
count. -/
def boundary (f : Flags) (cs : List Char) : Except Error (Primitive × List Char) :=
  match cs with
  | '\x7b' :: rest =>
    let inside := f.skip rest
    let (name, behind) := f.span isBoundaryName inside
    if name.isEmpty then
      if inside.isEmpty then .error .badEscape else .ok (.look (.wordBoundary f.word), cs)
    else match behind with
      | '\x7d' :: rest =>
        match namedBoundary? f (String.ofList name) with
        | some l => .ok (.look l, rest)
        | none => .error .badEscape
      | _ => .error .badEscape
  | _ => .ok (.look (.wordBoundary f.word), cs)

def control? (c : Char) : Option Char :=
  if c = 'a' then some (Char.ofNat 7)
  else if c = 'f' then some (Char.ofNat 12)
  else if c = 'n' then some '\n'
  else if c = 'r' then some '\r'
  else if c = 't' then some '\t'
  else if c = 'v' then some (Char.ofNat 11)
  else none

/-- What a backslash and the text behind it stand for, and what is left of the text. -/
def escape (f : Flags) (cs : List Char) : Except Error (Primitive × List Char) := do
  match cs with
  | [] => throw .badEscape
  | c :: rest =>
    if c.isDigit then throw .backReference
    else if c = 'x' then
      let braced := (f.skip rest).head? == some '\x7b'
      let (c, rest) ← hexadecimal f 2 rest
      if !f.unicode && !braced && 128 ≤ c.toNat then throw .notUnicode
      return (.literal c, rest)
    else if c = 'u' then
      let (c, rest) ← hexadecimal f 4 rest
      return (.literal c, rest)
    else if c = 'U' then
      let (c, rest) ← hexadecimal f 8 rest
      return (.literal c, rest)
    else if c = 'p' ∨ c = 'P' then
      let (set, rest) ← property f (c = 'P') rest
      return (.class set, rest)
    else if c = 'd' then return (.class f.digit, rest)
    else if c = 'D' then return (.class (.compl f.digit), rest)
    else if c = 's' then return (.class f.space, rest)
    else if c = 'S' then return (.class (.compl f.space), rest)
    else if c = 'w' then return (.class f.word, rest)
    else if c = 'W' then return (.class (.compl f.word), rest)
    else if c = 'A' then return (.look .textStart, rest)
    else if c = 'z' then return (.look .textEnd, rest)
    else if c = 'b' then boundary f rest
    else if c = 'B' then return (.look (.notWordBoundary f.word), rest)
    else if c = '<' then return (.look (.wordStart f.word), rest)
    else if c = '>' then return (.look (.wordEnd f.word), rest)
    else match control? c with
      | some c => return (.literal c, rest)
      | none =>
        if c.toNat < 128 && !c.isAlpha then return (.literal c, rest) else throw .badEscape

end StepPipeline.Pattern
