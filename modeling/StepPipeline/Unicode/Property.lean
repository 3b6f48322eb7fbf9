import StepPipeline.Unicode.Age
import StepPipeline.Unicode.ScriptExtension
import StepPipeline.Unicode.Segmentation

/-!
# Properties by name

A property of characters as a pattern asks for it: a general category, a script, a binary property,
an age or a place in a text where it may be cut. Names are compared loosely: case, blanks, hyphens,
underscores and a leading `is` do not count.
-/

namespace StepPipeline.Unicode

/-- A named set of characters; the name decides which. -/
structure Property where
  name : String
  ranges : Ranges

instance : BEq Property := ⟨fun p q => p.name == q.name⟩

namespace Property

def holds (p : Property) (c : Char) : Bool := p.ranges.contains c

/-- The entry of a list that goes by a name, as a property of the given kind. -/
def named? (kind : String) (entries : List (List String × Ranges)) (name : String) :
    Option Property :=
  (entries.find? fun e => e.1.contains name).map fun e => ⟨kind ++ e.1.headD "", e.2⟩

section Categories
open Category

/-- The general categories and the groups that gather them, each with its names. Surrogates are no
characters, and their category has no name here. -/
def categories : List (List String × Ranges) := [
  (["lu", "uppercaseletter"], lu), (["ll", "lowercaseletter"], ll),
  (["lt", "titlecaseletter"], lt), (["lm", "modifierletter"], lm), (["lo", "otherletter"], lo),
  (["mn", "nonspacingmark"], mn), (["mc", "spacingmark"], mc), (["me", "enclosingmark"], me),
  (["nd", "decimalnumber", "digit"], nd), (["nl", "letternumber"], nl),
  (["no", "othernumber"], no), (["pc", "connectorpunctuation"], pc),
  (["pd", "dashpunctuation"], pd), (["ps", "openpunctuation"], ps),
  (["pe", "closepunctuation"], pe), (["pi", "initialpunctuation"], pi),
  (["pf", "finalpunctuation"], pf), (["po", "otherpunctuation"], po), (["sm", "mathsymbol"], sm),
  (["sc", "currencysymbol"], sc), (["sk", "modifiersymbol"], sk), (["so", "othersymbol"], so),
  (["zs", "spaceseparator"], zs), (["zl", "lineseparator"], zl),
  (["zp", "paragraphseparator"], zp), (["cc", "control", "cntrl"], cc), (["cf", "format"], cf),
  (["co", "privateuse"], co), (["cn", "unassigned"], cn), (["l", "letter"], letter),
  (["lc", "casedletter"], casedLetter), (["m", "mark", "combiningmark"], mark),
  (["n", "number"], number), (["p", "punctuation", "punct"], punctuation),
  (["s", "symbol"], symbol), (["z", "separator"], separator), (["c", "other"], other),
  (["any"], Ranges.between 0 maxCodePoint), (["assigned"], assigned),
  (["ascii"], Ranges.between 0 127)]

end Categories

def category? (name : String) : Option Property := named? "gc=" categories name

def script? (name : String) : Option Property := named? "sc=" Script.all name

/-- The characters used with a script. -/
def extension? (name : String) : Option Property :=
  (Script.all.find? fun e => e.1.contains name).map fun e =>
    ⟨"scx=" ++ e.1.headD "", Script.extension (e.1.headD "") e.2⟩

/-- The characters of a version and those before it. -/
def age? (name : String) : Option Property :=
  (Age.upTo? name).map fun r => ⟨"age=" ++ name, r⟩

def binary? (name : String) : Option Property := named? "" Binary.all name

/-- A name with all that does not count left out. A leading `is` counts when only a `c` follows. -/
def normalize (name : List Char) : String :=
  let bare := fun (cs : List Char) =>
    (cs.filter fun c => c.toNat < 128 && c ≠ ' ' && c ≠ '_' && c ≠ '-').map Char.toLower
  String.ofList <| match name with
    | 'i' :: 's' :: rest | 'I' :: 's' :: rest | 'i' :: 'S' :: rest | 'I' :: 'S' :: rest =>
      if bare rest = ['c'] then ['i', 's', 'c'] else bare rest
    | cs => bare cs

/-- The property that a bare name asks for. Three names mean a category before anything else. -/
def byName? (name : List Char) : Option Property :=
  let name := normalize name
  let binary := if name = "cf" ∨ name = "sc" ∨ name = "lc" then none else binary? name
  binary <|> category? name <|> script? name

/-- The property that a kind of property and one of its values ask for. -/
def byValue? (kind value : List Char) : Option Property :=
  let value := normalize value
  match normalize kind with
  | "gc" | "generalcategory" => category? value
  | "sc" | "script" => script? value
  | "scx" | "scriptextensions" => extension? value
  | "age" => age? value
  | "gcb" | "graphemeclusterbreak" => named? "gcb=" GraphemeBreak.all value
  | "wb" | "wordbreak" => named? "wb=" WordBreak.all value
  | "sb" | "sentencebreak" => named? "sb=" SentenceBreak.all value
  | _ => none

/-- The characters of words: letters, marks, decimal digits, connectors and joiners. -/
def word : Property :=
  ⟨"word", Ranges.unions [Binary.alphabetic, Category.mark, Category.nd, Category.pc,
    Binary.joinControl]⟩

def digit : Property := ⟨"digit", Category.nd⟩

def space : Property := ⟨"space", Binary.whiteSpace⟩

end Property
end StepPipeline.Unicode
