import StepPipeline.Unicode.Recent

/-!
# Quoted texts in messages

A text as a message shows it: between quotes, with a backslash before quotes and backslashes, and
with everything that cannot be seen by itself written as an escape.
-/

namespace StepPipeline.Text

/-- Whether a character is seen by itself. -/
def isVisible (c : Char) : Bool :=
  if 32 ≤ c.toNat && c.toNat < 127 then true else Unicode.Recent.visible.contains c

def quoteChar (c : Char) : List Char :=
  if c = '"' then ['\\', '"']
  else if c = '\\' then ['\\', '\\']
  else if c = '\n' then ['\\', 'n']
  else if c = '\r' then ['\\', 'r']
  else if c = '\t' then ['\\', 't']
  else if c.toNat = 0 then ['\\', '0']
  else if isVisible c then [c]
  else ['\\', 'u', '\x7b'] ++ Nat.toDigits 16 c.toNat ++ ['\x7d']

def quoted (s : String) : String := "\"" ++ String.ofList (s.toList.flatMap quoteChar) ++ "\""

end StepPipeline.Text
