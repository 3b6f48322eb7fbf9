import StepPipeline.Json.Basic
import StepPipeline.Text.Search

/-!
# JSON texts

`Written.read` accepts exactly the JSON grammar and yields the text as a tree that keeps what a
value cannot hold: repeated names and the order of the fields, numbers too large for a float, and
strings with half of a surrogate pair. Who takes a value out of the tree decides what of it
counts: `Written.value?` takes all of it, `Written.field` of a description may skip a field
unseen.

A reader returns what is left of the text, and that this is shorter than what it was given; the
length of the text is the measure of the recursion.
-/

namespace StepPipeline

/-- A JSON text as it was written. -/
inductive Written where
  | null
  | bool (value : Bool)
  /-- A number; nothing when it is too large for a float. -/
  | num (value : Option Number)
  /-- A string; nothing when an escape in it is half of a surrogate pair. -/
  | str (value : Option String)
  | arr (items : List Written)
  | obj (fields : List (Option String × Written))
  deriving Inhabited

namespace Written

/-! ### Blanks and strings -/

/-- The four blanks that may stand between the parts of a JSON text. -/
def isSpace (c : Char) : Bool := c == ' ' || c == '\n' || c == '\t' || c == '\r'

def skip (cs : List Char) : List Char := cs.dropWhile isSpace

theorem length_skip_le (cs : List Char) : (skip cs).length ≤ cs.length :=
  (List.dropWhile_suffix isSpace).length_le

theorem length_of_skip {cs rest : List Char} {c : Char} (h : skip cs = c :: rest) :
    rest.length < cs.length := by
  have := length_skip_le cs
  rw [h, List.length_cons] at this
  omega

/-- A string is written with characters and with escaped 16-bit codes. -/
inductive Unit16 where
  | char (c : Char)
  | code (n : Nat)

def hexValue? (c : Char) : Option Nat :=
  if c.isDigit then some (c.toNat - 48)
  else if 'a' ≤ c ∧ c ≤ 'f' then some (c.toNat - 87)
  else if 'A' ≤ c ∧ c ≤ 'F' then some (c.toNat - 55)
  else none

def hexNumber? (digits : List Char) : Option Nat :=
  digits.foldlM (fun n c => (hexValue? c).map (16 * n + ·)) 0

/-- The character behind a backslash. -/
def escaped? (c : Char) : Option Char :=
  if c = '"' then some '"'
  else if c = '\\' then some '\\'
  else if c = '/' then some '/'
  else if c = 'b' then some (Char.ofNat 8)
  else if c = 'f' then some (Char.ofNat 12)
  else if c = 'n' then some '\n'
  else if c = 'r' then some '\r'
  else if c = 't' then some '\t'
  else none

/-- The units of a string up to its closing quote, put in front of `acc` in reverse, and the text
behind the quote. -/
def units? : List Char → List Unit16 → Option (List Unit16 × List Char)
  | [], _ => none
  | c :: rest, acc =>
    if c = '"' then some (acc.reverse, rest)
    else if c = '\\' then
      match rest with
      | [] => none
      | e :: rest =>
        if e = 'u' then
          match rest with
          | h₁ :: h₂ :: h₃ :: h₄ :: rest =>
            match hexNumber? [h₁, h₂, h₃, h₄] with
            | some n => units? rest (.code n :: acc)
            | none => none
          | _ => none
        else
          match escaped? e with
          | some x => units? rest (.char x :: acc)
          | none => none
    else if c.toNat < 32 then none
    else units? rest (.char c :: acc)

theorem length_of_units? {cs acc us rest} (h : units? cs acc = some (us, rest)) :
    rest.length < cs.length := by
  fun_induction units? cs acc <;> simp_all <;> omega

/-- Join the units of a string; the two halves of a surrogate pair become one character, and a
half that stands alone leaves no string. -/
def join? : List Unit16 → Option (List Char)
  | [] => some []
  | .char c :: rest => (join? rest).map (c :: ·)
  | .code n :: rest =>
    if 0xD800 ≤ n ∧ n < 0xDC00 then
      match rest with
      | .code m :: rest =>
        if 0xDC00 ≤ m ∧ m < 0xE000 then
          (join? rest).map (Char.ofNat (0x10000 + (n - 0xD800) * 0x400 + (m - 0xDC00)) :: ·)
        else none
      | _ => none
    else if 0xDC00 ≤ n ∧ n < 0xE000 then none
    else (join? rest).map (Char.ofNat n :: ·)

def string? (cs : List Char) : Option { p : Option String × List Char // p.2.length < cs.length } :=
  match h : units? cs [] with
  | some (us, rest) => some ⟨((join? us).map String.ofList, rest), length_of_units? h⟩
  | none => none

/-! ### Numbers and words -/

def digits (cs : List Char) : List Char := cs.takeWhile Char.isDigit

def afterDigits (cs : List Char) : List Char := cs.dropWhile Char.isDigit

theorem length_digits_add (cs : List Char) :
    (digits cs).length + (afterDigits cs).length = cs.length := by
  rw [← List.length_append, digits, afterDigits, List.takeWhile_append_dropWhile]

def minus : List Char → Bool × List Char
  | '-' :: rest => (true, rest)
  | cs => (false, cs)

theorem length_minus_le (cs : List Char) : (minus cs).2.length ≤ cs.length := by
  unfold minus; split <;> simp

def sign : List Char → Bool × List Char
  | '-' :: rest => (true, rest)
  | '+' :: rest => (false, rest)
  | cs => (false, cs)

theorem length_sign_le (cs : List Char) : (sign cs).2.length ≤ cs.length := by
  unfold sign; split <;> simp

/-- The exponent at the front of the text, if there is one; a mark without digits is an
error. -/
def exponent? : List Char → Option (Option Int × List Char)
  | [] => some (none, [])
  | c :: rest =>
    if c = 'e' ∨ c = 'E' then
      let (negative, rest) := sign rest
      if (digits rest).isEmpty then none
      else
        let n : Int := Decimal.ofDigits (digits rest)
        some (some (if negative then -n else n), afterDigits rest)
    else some (none, c :: rest)

theorem length_of_exponent? {cs e rest} (h : exponent? cs = some (e, rest)) :
    rest.length ≤ cs.length := by
  unfold exponent? at h
  split at h
  · simp_all
  · next c tail =>
    split at h
    · have h₁ := length_sign_le tail
      have h₂ := length_digits_add (sign tail).2
      simp only at h
      split at h
      · simp at h
      · simp only [Option.some.injEq, Prod.mk.injEq] at h
        rw [← h.2, List.length_cons]; omega
    · simp only [Option.some.injEq, Prod.mk.injEq] at h
      exact Nat.le_of_eq (congrArg List.length h.2).symm

/-- The digits behind a point at the front of the text, if there is one; a point without digits
is an error. -/
def fraction? : List Char → Option (List Char × List Char)
  | '.' :: rest =>
    if (digits rest).isEmpty then none else some (digits rest, afterDigits rest)
  | cs => some ([], cs)

theorem length_of_fraction? {cs f rest} (h : fraction? cs = some (f, rest)) :
    rest.length ≤ cs.length := by
  unfold fraction? at h
  split at h
  · next tail =>
    have := length_digits_add tail
    split at h
    · simp at h
    · simp only [Option.some.injEq, Prod.mk.injEq] at h
      rw [← h.2, List.length_cons]; omega
  · simp only [Option.some.injEq, Prod.mk.injEq] at h
    exact Nat.le_of_eq (congrArg List.length h.2).symm

/-- Digits without a leading zero. -/
def isWhole (ds : List Char) : Bool := !ds.isEmpty && (ds.length == 1 || ds.head? != some '0')

def number? (cs : List Char) : Option { p : Written × List Char // p.2.length < cs.length } :=
  let body := (minus cs).2
  if hw : isWhole (digits body) = true then
    match hf : fraction? (afterDigits body) with
    | none => none
    | some (fraction, afterFraction) =>
      match he : exponent? afterFraction with
      | none => none
      | some (exponent, rest) =>
        let literal : Decimal.Literal :=
          ⟨(minus cs).1, digits body, fraction, exponent.getD 0⟩
        let value := Number.ofLiteral literal (fraction.isEmpty && exponent.isNone)
        some ⟨(.num value, rest), by
          have h₁ : body.length ≤ cs.length := length_minus_le cs
          have h₂ := length_digits_add body
          have h₃ := length_of_fraction? hf
          have h₄ := length_of_exponent? he
          have h₅ : 0 < (digits body).length := by
            cases hd : digits body with
            | nil => simp [hd, isWhole] at hw
            | cons _ _ => simp
          simp only; omega⟩
  else none

/-- The value that a word at the front of the text names. -/
def word? (word : List Char) (nonempty : word ≠ []) (v : Written) (cs : List Char) :
    Option { p : Written × List Char // p.2.length < cs.length } :=
  match h : Text.dropLeading? word cs with
  | some rest => some ⟨(v, rest), by
      rw [Text.dropLeading?_eq_some_iff.1 h, List.length_append]
      have := List.length_pos_iff.2 nonempty
      simp only; omega⟩
  | none => none

/-! ### Values -/

mutual

def valueAt? (cs : List Char) : Option { p : Written × List Char // p.2.length < cs.length } :=
  match hs : skip cs with
  | [] => none
  | c :: rest =>
    have shorter : rest.length < cs.length := length_of_skip hs
    if c = '[' then
      match ht : skip rest with
      | ']' :: rest =>
        some ⟨(.arr [], rest), by have := length_of_skip ht; simp only; omega⟩
      | _ => itemsAt? cs.length rest shorter []
    else if c = '\x7b' then
      match ht : skip rest with
      | '\x7d' :: rest =>
        some ⟨(.obj [], rest), by have := length_of_skip ht; simp only; omega⟩
      | _ => fieldsAt? cs.length rest shorter []
    else if c = '"' then
      match string? rest with
      | some ⟨(s, rest), h⟩ => some ⟨(.str s, rest), by simp only at h ⊢; omega⟩
      | none => none
    else
      let scalar := if c = 'n' then word? ['n', 'u', 'l', 'l'] (by simp) .null (c :: rest)
        else if c = 't' then word? ['t', 'r', 'u', 'e'] (by simp) (.bool true) (c :: rest)
        else if c = 'f' then word? ['f', 'a', 'l', 's', 'e'] (by simp) (.bool false) (c :: rest)
        else number? (c :: rest)
      match scalar with
      | some ⟨p, h⟩ => some ⟨p, by rw [List.length_cons] at h; omega⟩
      | none => none
termination_by (cs.length, 0)

/-- The items of an array from here to its closing bracket, behind those in `acc`. -/
def itemsAt? (bound : Nat) (cs : List Char) (within : cs.length < bound) (acc : List Written) :
    Option { p : Written × List Char // p.2.length < bound } :=
  match valueAt? cs with
  | none => none
  | some ⟨(v, rest), h⟩ =>
    match hs : skip rest with
    | [] => none
    | c :: rest =>
      have shorter : rest.length < cs.length := by
        have := length_of_skip hs
        simp only at h; omega
      if c = ',' then itemsAt? bound rest (by omega) (v :: acc)
      else if c = ']' then some ⟨(.arr (v :: acc).reverse, rest), by simp only; omega⟩
      else none
termination_by (cs.length, 1)

/-- The fields of an object from here to its closing brace, behind those in `acc`. -/
def fieldsAt? (bound : Nat) (cs : List Char) (within : cs.length < bound)
    (acc : List (Option String × Written)) :
    Option { p : Written × List Char // p.2.length < bound } :=
  match hq : skip cs with
  | '"' :: afterQuote =>
    match string? afterQuote with
    | none => none
    | some ⟨(key, afterKey), hk⟩ =>
      match hc : skip afterKey with
      | ':' :: afterColon =>
        have shorter : afterColon.length < cs.length := by
          have := length_of_skip hq
          have := length_of_skip hc
          simp only at hk; omega
        match valueAt? afterColon with
        | none => none
        | some ⟨(v, rest), h⟩ =>
          match hs : skip rest with
          | [] => none
          | c :: rest =>
            have shorter' : rest.length < cs.length := by
              have := length_of_skip hs
              simp only at h; omega
            if c = ',' then fieldsAt? bound rest (by omega) ((key, v) :: acc)
            else if c = '\x7d' then
              some ⟨(.obj ((key, v) :: acc).reverse, rest), by simp only; omega⟩
            else none
      | _ => none
  | _ => none
termination_by (cs.length, 1)

end

/-- The tree of a JSON text: one value, with nothing but blanks around it. -/
def read (text : String) : Option Written :=
  match valueAt? text.toList with
  | some ⟨(v, rest), _⟩ => if (skip rest).isEmpty then some v else none
  | none => none

/-! ### Taking values out -/

mutual

/-- The value that a text denotes, if it has one and nests at most `depth` arrays and objects. Of
fields with one name the last counts. -/
def value? : Written → Nat → Option Json
  | .null, _ => some .null
  | .bool b, _ => some (.bool b)
  | .num n, _ => n.map .num
  | .str s, _ => s.map .str
  | .arr items, depth + 1 => (values? items depth []).map .arr
  | .obj fields, depth + 1 => (entries? fields depth []).map fun es => .obj (Table.ofList es)
  | _, 0 => none

def values? : List Written → Nat → List Json → Option (List Json)
  | [], _, acc => some acc.reverse
  | w :: rest, depth, acc =>
    match value? w depth with
    | some v => values? rest depth (v :: acc)
    | none => none

def entries? : List (Option String × Written) → Nat → List (String × Json) →
    Option (List (String × Json))
  | [], _, acc => some acc.reverse
  | (key, w) :: rest, depth, acc =>
    match key, value? w depth with
    | some k, some v => entries? rest depth ((k, v) :: acc)
    | _, _ => none

end

/-- No text nests arrays and objects deeper than this. -/
def maxDepth : Nat := 127

end Written

namespace Json

def parse? (text : String) : Option Json :=
  (Written.read text).bind fun w => w.value? Written.maxDepth

end Json
end StepPipeline
