import StepPipeline.Json.Basic

/-!
# Writing JSON

The compact text, without any blank, and the indented text. Inside a string the quote, the
backslash and the control characters are escaped, nothing else.
-/

namespace StepPipeline.Json

def hexDigit (n : Nat) : Char := Nat.digitChar (n % 16)

def escapeChar (c : Char) : List Char :=
  if c = '"' then ['\\', '"']
  else if c = '\\' then ['\\', '\\']
  else if c = '\n' then ['\\', 'n']
  else if c = '\r' then ['\\', 'r']
  else if c = '\t' then ['\\', 't']
  else if c.toNat = 8 then ['\\', 'b']
  else if c.toNat = 12 then ['\\', 'f']
  else if c.toNat < 32 then ['\\', 'u', '0', '0', hexDigit (c.toNat / 16), hexDigit c.toNat]
  else [c]

def quote (s : String) : String :=
  "\"" ++ String.ofList (s.toList.flatMap escapeChar) ++ "\""

def compact : Json → String
  | .null => "null"
  | .bool b => if b then "true" else "false"
  | .num n => String.ofList n.text
  | .str s => quote s
  | .arr items => "[" ++ ",".intercalate (items.map fun v => compact v) ++ "]"
  | .obj fields =>
    "\x7b" ++ ",".intercalate (fields.map fun e => quote e.1 ++ ":" ++ compact e.2) ++ "\x7d"
termination_by v => sizeOf v
decreasing_by
  all_goals simp_wf
  · have := List.sizeOf_lt_of_mem ‹_›; omega
  · have := sizeOf_lt_of_mem ‹_›; omega

/-- A string as it is, and the compact text of any other value. -/
def toText : Json → String
  | .str s => s
  | v => compact v

/-- Put each part on a line of its own, between brackets; no parts leave the brackets together. -/
def bracketed (left right : String) (depth : Nat) (parts : List String) : String :=
  if parts.isEmpty then left ++ right
  else
    let indent := fun n => "\n" ++ String.ofList (List.replicate (2 * n) ' ')
    left ++ indent (depth + 1) ++ ("," ++ indent (depth + 1)).intercalate parts ++ indent depth
      ++ right

/-- The text of a value with every item and entry on a line of its own, two blanks deeper than
its surroundings. -/
def indented (depth : Nat) : Json → String
  | .arr items => bracketed "[" "]" depth (items.map fun v => indented (depth + 1) v)
  | .obj fields =>
    bracketed "\x7b" "\x7d" depth
      (fields.map fun e => quote e.1 ++ ": " ++ indented (depth + 1) e.2)
  | v => compact v
termination_by v => sizeOf v
decreasing_by
  all_goals simp_wf
  · have := List.sizeOf_lt_of_mem ‹_›; omega
  · have := sizeOf_lt_of_mem ‹_›; omega

end StepPipeline.Json
