import FencedHighlight.Unicode.Age
import FencedHighlight.Unicode.ScriptExtension
import FencedHighlight.Unicode.Segment

namespace FencedHighlight
namespace Unicode

/-!
Character properties by name.

A property is named by a general category, a major class, a script, or one of
the properties that cut across the categories; or by a kind of property and a
value, such as an edition of the standard.  Names are compared loosely: case,
blanks, hyphens and underscores do not count, nor does a leading `is`.  A
character has a property if an odd number of its tables contains it.
-/

namespace Category

/-- Every general category with its names and its table. -/
def named : List (List String × List RangeTable) := [
  (["lu", "uppercaseletter"], [uppercaseLetter]),
  (["ll", "lowercaseletter"], [lowercaseLetter]),
  (["lt", "titlecaseletter"], [titlecaseLetter]),
  (["lm", "modifierletter"], [modifierLetter]),
  (["lo", "otherletter"], [otherLetter]),
  (["mn", "nonspacingmark"], [nonspacingMark]),
  (["mc", "spacingmark"], [spacingMark]),
  (["me", "enclosingmark"], [enclosingMark]),
  (["nd", "decimalnumber", "digit"], [decimalNumber]),
  (["nl", "letternumber"], [letterNumber]),
  (["no", "othernumber"], [otherNumber]),
  (["pc", "connectorpunctuation"], [connectorPunctuation]),
  (["pd", "dashpunctuation"], [dashPunctuation]),
  (["ps", "openpunctuation"], [openPunctuation]),
  (["pe", "closepunctuation"], [closePunctuation]),
  (["pi", "initialpunctuation"], [initialPunctuation]),
  (["pf", "finalpunctuation"], [finalPunctuation]),
  (["po", "otherpunctuation"], [otherPunctuation]),
  (["sm", "mathsymbol"], [mathSymbol]),
  (["sc", "currencysymbol"], [currencySymbol]),
  (["sk", "modifiersymbol"], [modifierSymbol]),
  (["so", "othersymbol"], [otherSymbol]),
  (["zs", "spaceseparator"], [spaceSeparator]),
  (["zl", "lineseparator"], [lineSeparator]),
  (["zp", "paragraphseparator"], [paragraphSeparator]),
  (["cc", "control", "cntrl"], [control]),
  (["cf", "format"], [format]),
  (["co", "privateuse"], [privateUse]),
  (["cn", "unassigned"], [unassigned])]

/-- The major classes with their names and the tables of their categories. -/
def majorClasses : List (List String × List RangeTable) := [
  (["c", "other"],
    [control, format, privateUse, unassigned]),
  (["l", "letter"],
    [uppercaseLetter, lowercaseLetter, titlecaseLetter, modifierLetter, otherLetter]),
  (["lc", "casedletter"],
    [uppercaseLetter, lowercaseLetter, titlecaseLetter]),
  (["m", "mark", "combiningmark"],
    [nonspacingMark, spacingMark, enclosingMark]),
  (["n", "number"],
    [decimalNumber, letterNumber, otherNumber]),
  (["p", "punctuation", "punct"],
    [connectorPunctuation, dashPunctuation, openPunctuation, closePunctuation,
      initialPunctuation, finalPunctuation, otherPunctuation]),
  (["s", "symbol"],
    [mathSymbol, currencySymbol, modifierSymbol, otherSymbol]),
  (["z", "separator"],
    [spaceSeparator, lineSeparator, paragraphSeparator])]

end Category

namespace Property

/-- The name after a leading `is` in any case. -/
def withoutIs (name : List Char) : List Char :=
  match name with
  | first :: second :: rest =>
      if (first == 'i' || first == 'I') && (second == 's' || second == 'S') then rest
      else name
  | _ => name

/-- A name without a leading `is`, and without case, blanks, hyphens and
underscores.  What is left of `isc` keeps its beginning. -/
def normalize (name : List Char) : List Char :=
  let rest := withoutIs name
  let kept := rest.filter fun char =>
    char.toNat < 128 && char != ' ' && char != '_' && char != '-'
  match kept.map Char.toLower with
  | ['c'] => if rest.length < name.length then ['i', 's', 'c'] else ['c']
  | lowered => lowered

def lookup {α : Type} (entries : List (List String × α)) (name : String) :
    Option α :=
  (entries.find? fun entry => entry.1.contains name).map (·.2)

/-- The tables of a general category, a major class, or one of the three
names that cover all, the assigned, and the ASCII characters. -/
def category? (name : String) : Option (List RangeTable) :=
  if name = "any" then
    some [⟨#[0]⟩]
  else if name = "ascii" then
    some [⟨#[0, 128]⟩]
  else if name = "assigned" then
    some (Category.named.flatMap fun entry =>
      if entry.1.contains "cn" then [] else entry.2)
  else
    (lookup Category.majorClasses name).orElse fun _ => lookup Category.named name

def script? (name : String) : Option (List RangeTable) :=
  (lookup Script.named name).map fun table => [table]

/-- The tables of what is in use by a script. -/
def scriptExtension? (name : String) : Option (List RangeTable) :=
  (Script.named.find? fun entry => entry.1.contains name).map ScriptExtension.tablesOf

/-- The tables of a property given by a single name: a property that cuts
across the categories, else a category, else a script. -/
def single? (name : List Char) : Option (List RangeTable) :=
  let name := String.ofList (normalize name)
  let crossing :=
    if ["cf", "sc", "lc"].contains name then none
    else lookup Derived.named name
  crossing.orElse fun _ => (category? name).orElse fun _ => script? name

/-- The tables of a property given by a kind of property and a value. -/
def ofKind? (kind value : List Char) : Option (List RangeTable) :=
  let value := String.ofList (normalize value)
  match String.ofList (normalize kind) with
  | "gc" | "generalcategory" => category? value
  | "sc" | "script" => script? value
  | "scx" | "scriptextensions" => scriptExtension? value
  | "age" => Age.upTo? value
  | "gcb" | "graphemeclusterbreak" => lookup Segment.graphemeClasses value
  | "wb" | "wordbreak" => lookup Segment.wordClasses value
  | "sb" | "sentencebreak" => lookup Segment.sentenceClasses value
  | _ => none

end Property

end Unicode
end FencedHighlight
