import AutoReply.Pattern.CharSet
import AutoReply.Text.PropertyTable
import AutoReply.Text.Script

/-!
The sets of characters that a pattern calls by a name: general categories, scripts and binary
properties. Case, blanks, hyphens, underscores and a leading `is` do not count in a name.
-/

namespace AutoReply.Pattern.ClassName

open AutoReply.Text

def normalize (name : List Char) : List Char :=
  let (start, rest) := (name.take 2, name.drop 2)
  let marked := start.map Char.toLower == ['i', 's']
  let kept := (if marked then rest else name).filter fun character =>
    character.toNat < 128 && !(character = ' ' || character = '_' || character = '-')
  let kept := kept.map Char.toLower
  if marked && kept == ['c'] then ['i', 's', 'c'] else kept

open Category in
def singleCategories : List (Category × List String) :=
  [(uppercaseLetter, ["lu", "uppercaseletter"]), (lowercaseLetter, ["ll", "lowercaseletter"]),
    (titlecaseLetter, ["lt", "titlecaseletter"]), (modifierLetter, ["lm", "modifierletter"]),
    (otherLetter, ["lo", "otherletter"]), (nonspacingMark, ["mn", "nonspacingmark"]),
    (spacingMark, ["mc", "spacingmark"]), (enclosingMark, ["me", "enclosingmark"]),
    (decimalNumber, ["nd", "decimalnumber", "digit"]), (letterNumber, ["nl", "letternumber"]),
    (otherNumber, ["no", "othernumber"]), (connectorPunctuation, ["pc", "connectorpunctuation"]),
    (dashPunctuation, ["pd", "dashpunctuation"]), (openPunctuation, ["ps", "openpunctuation"]),
    (closePunctuation, ["pe", "closepunctuation"]),
    (initialPunctuation, ["pi", "initialpunctuation"]),
    (finalPunctuation, ["pf", "finalpunctuation"]), (otherPunctuation, ["po", "otherpunctuation"]),
    (mathSymbol, ["sm", "mathsymbol"]), (currencySymbol, ["sc", "currencysymbol"]),
    (modifierSymbol, ["sk", "modifiersymbol"]), (otherSymbol, ["so", "othersymbol"]),
    (spaceSeparator, ["zs", "spaceseparator"]), (lineSeparator, ["zl", "lineseparator"]),
    (paragraphSeparator, ["zp", "paragraphseparator"]), (control, ["cc", "control", "cntrl"]),
    (format, ["cf", "format"]), (privateUse, ["co", "privateuse"]),
    (unassigned, ["cn", "unassigned"])]

open Category in
def categoryGroups : List (List Category × List String) :=
  let letters := [uppercaseLetter, lowercaseLetter, titlecaseLetter, modifierLetter, otherLetter]
  [([uppercaseLetter, lowercaseLetter, titlecaseLetter], ["lc", "casedletter"]),
    (letters, ["l", "letter"]),
    ([nonspacingMark, spacingMark, enclosingMark], ["m", "mark", "combiningmark"]),
    ([decimalNumber, letterNumber, otherNumber], ["n", "number"]),
    ([connectorPunctuation, dashPunctuation, openPunctuation, closePunctuation,
      initialPunctuation, finalPunctuation, otherPunctuation], ["p", "punctuation", "punct"]),
    ([mathSymbol, currencySymbol, modifierSymbol, otherSymbol], ["s", "symbol"]),
    ([spaceSeparator, lineSeparator, paragraphSeparator], ["z", "separator"]),
    ([control, format, surrogate, privateUse, unassigned], ["c", "other"])]

def generalCategory? (name : String) : Option CharSet :=
  if name = "any" then some (.complement .none)
  else if name = "assigned" then some (.ofCategories (· != .unassigned))
  else if name = "ascii" then some .asciiOnly
  else match singleCategories.find? fun entry => entry.2.contains name with
    | some entry => some (.ofCategories (· == entry.1))
    | none =>
        (categoryGroups.find? fun entry => entry.2.contains name).map fun entry =>
          .ofCategories entry.1.contains

def script? (name : String) : Option CharSet :=
  (scriptTag? name).map fun tag => .points (scriptRanges tag)

def scriptExtension? (name : String) : Option CharSet :=
  (scriptTag? name).map fun tag =>
    .either (.points (scriptRanges tag)) (.points (scriptExtensionRanges tag))

def property? (name : String) : Option CharSet :=
  if name = "alphabetic" || name = "alpha" then some (.points alphabeticRanges)
  else if name = "whitespace" || name = "wspace" || name = "space" then some .blank
  else if name = "cased" then some (.points casedRanges)
  else if name = "caseignorable" || name = "ci" then some (.points caseIgnorableRanges)
  else (properties.find? fun property => property.names.contains name).map fun property =>
    .either (.ofCategories property.categories.contains) (.points (.ofGaps property.exceptions))

/-- A class with one name. `cf`, `sc` and `lc` name categories and nothing else. -/
def lookup? (written : List Char) : Option CharSet :=
  let name := String.ofList (normalize written)
  if name = "cf" || name = "sc" || name = "lc" then generalCategory? name
  else ((property? name).orElse fun _ => generalCategory? name).orElse fun _ => script? name

def lookupOf? (kind written : List Char) : Option CharSet :=
  let name := String.ofList (normalize written)
  match String.ofList (normalize kind) with
  | "gc" => generalCategory? name
  | "generalcategory" => generalCategory? name
  | "sc" => script? name
  | "script" => script? name
  | "scx" => scriptExtension? name
  | "scriptextensions" => scriptExtension? name
  | _ => none

end AutoReply.Pattern.ClassName
