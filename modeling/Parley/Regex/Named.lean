import Parley.Regex.Flags
import Parley.Unicode.Age
import Parley.Unicode.ScriptExtension
import Parley.Unicode.Segmentation

/-!
# Parley.Regex.Named

Sets of characters that a regular expression names: the ASCII classes, the shorthands, and the
properties of the Unicode Character Database.

* `asciiClass?`: the classes that stand between colons.
* `shorthand?`: the sets of a letter behind a backslash.
* `namedSet?`, `valuedSet?`: properties by name alone, and by name and value.
-/

namespace Parley
namespace Regex

open Unicode (CodeSet)

/-- The ASCII classes by name. -/
def asciiClass? : String → Option CodeSet
  | "alnum" => some (CodeSet.ofText "30-39 41-5A 61-7A")
  | "alpha" => some (CodeSet.ofText "41-5A 61-7A")
  | "ascii" => some (CodeSet.ofText "0-7F")
  | "blank" => some (CodeSet.ofText "9 20")
  | "cntrl" => some (CodeSet.ofText "0-1F 7F")
  | "digit" => some (CodeSet.ofText "30-39")
  | "graph" => some (CodeSet.ofText "21-7E")
  | "lower" => some (CodeSet.ofText "61-7A")
  | "print" => some (CodeSet.ofText "20-7E")
  | "punct" => some (CodeSet.ofText "21-2F 3A-40 5B-60 7B-7E")
  | "space" => some (CodeSet.ofText "9-D 20")
  | "upper" => some (CodeSet.ofText "41-5A")
  | "word" => some asciiWordy
  | "xdigit" => some (CodeSet.ofText "30-39 41-46 61-66")
  | _ => none

/-- The set of `\d`, `\s` or `\w`, or of all else for the upper-case letter. -/
def shorthand? (f : Flags) (letter : Char) : Option (Except Fault CodeSet) :=
  let base : Option CodeSet := match letter.toLower with
    | 'd' => some (if f.unicode then Unicode.digits else CodeSet.ofText "30-39")
    | 's' => some (if f.unicode then Unicode.blank else CodeSet.ofText "9-D 20")
    | 'w' => some (if f.unicode then Unicode.wordy else asciiWordy)
    | _ => none
  base.map fun s =>
    if letter.isUpper then
      if f.unicode then .ok (negateSet f s) else .error .notText
    else .ok s

/-- A general category by its loose name. Surrogates are no characters, so no set is named after
them. -/
def category? : String → Option CodeSet
  | "any" => some anyChar
  | "assigned" => some Unicode.unassigned.complement
  | "ascii" => some (CodeSet.range 0 127)
  | "l" | "letter" => some Unicode.letters
  | "lc" | "casedletter" => some Unicode.casedLetters
  | "m" | "mark" | "combiningmark" => some Unicode.marks
  | "n" | "number" => some Unicode.numbers
  | "p" | "punctuation" | "punct" => some Unicode.punctuation
  | "s" | "symbol" => some Unicode.symbols
  | "z" | "separator" => some Unicode.separators
  | "c" | "other" => some Unicode.others
  | "cn" | "unassigned" => some Unicode.unassigned
  | "lu" | "uppercaseletter" => some Unicode.Category.uppercaseLetterSet
  | "ll" | "lowercaseletter" => some Unicode.Category.lowercaseLetterSet
  | "lt" | "titlecaseletter" => some Unicode.Category.titlecaseLetterSet
  | "lm" | "modifierletter" => some Unicode.Category.modifierLetterSet
  | "lo" | "otherletter" => some Unicode.Category.otherLetterSet
  | "mn" | "nonspacingmark" => some Unicode.Category.nonspacingMarkSet
  | "mc" | "spacingmark" => some Unicode.Category.spacingMarkSet
  | "me" | "enclosingmark" => some Unicode.Category.enclosingMarkSet
  | "nd" | "decimalnumber" | "digit" => some Unicode.Category.decimalNumberSet
  | "nl" | "letternumber" => some Unicode.Category.letterNumberSet
  | "no" | "othernumber" => some Unicode.Category.otherNumberSet
  | "pc" | "connectorpunctuation" => some Unicode.Category.connectorPunctuationSet
  | "pd" | "dashpunctuation" => some Unicode.Category.dashPunctuationSet
  | "ps" | "openpunctuation" => some Unicode.Category.openPunctuationSet
  | "pe" | "closepunctuation" => some Unicode.Category.closePunctuationSet
  | "pi" | "initialpunctuation" => some Unicode.Category.initialPunctuationSet
  | "pf" | "finalpunctuation" => some Unicode.Category.finalPunctuationSet
  | "po" | "otherpunctuation" => some Unicode.Category.otherPunctuationSet
  | "sm" | "mathsymbol" => some Unicode.Category.mathSymbolSet
  | "sc" | "currencysymbol" => some Unicode.Category.currencySymbolSet
  | "sk" | "modifiersymbol" => some Unicode.Category.modifierSymbolSet
  | "so" | "othersymbol" => some Unicode.Category.otherSymbolSet
  | "zs" | "spaceseparator" => some Unicode.Category.spaceSeparatorSet
  | "zl" | "lineseparator" => some Unicode.Category.lineSeparatorSet
  | "zp" | "paragraphseparator" => some Unicode.Category.paragraphSeparatorSet
  | "cc" | "control" | "cntrl" => some Unicode.Category.controlSet
  | "cf" | "format" => some Unicode.Category.formatSet
  | "co" | "privateuse" => some Unicode.Category.privateUseSet
  | _ => none

/-- A property that is named alone: a yes-or-no property, a category or a script. The short names
`cf`, `sc` and `lc` are categories. -/
def namedSet? (name : String) : Option CodeSet :=
  let name := Unicode.looseName name
  let asCategory := (category? name).orElse fun _ => Unicode.script? name
  if name == "cf" || name == "sc" || name == "lc" then asCategory
  else (Unicode.property? name).orElse fun _ => asCategory

/-- A property that is named with its value. -/
def valuedSet? (property value : String) : Option CodeSet :=
  let value := Unicode.looseName value
  match Unicode.looseName property with
  | "gc" | "generalcategory" => category? value
  | "sc" | "script" => Unicode.script? value
  | "scx" | "scriptextensions" => Unicode.scriptExtension? value
  | "age" => Unicode.assignedBy? value
  | "gcb" | "graphemeclusterbreak" => Unicode.breakClass? Unicode.clusterBreaks value
  | "wb" | "wordbreak" => Unicode.breakClass? Unicode.wordBreaks value
  | "sb" | "sentencebreak" => Unicode.breakClass? Unicode.sentenceBreaks value
  | _ => none

end Regex
end Parley
