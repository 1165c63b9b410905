import Concord.Text.Age
import Concord.Text.Binary
import Concord.Text.Break
import Concord.Text.Category
import Concord.Text.CharSet
import Concord.Text.Runs
import Concord.Text.Script

namespace Concord.Text

/-! Properties of characters by the names that Unicode gives them. -/

namespace Property

open Category

/-- Sets of characters, each under its names. -/
abbrev Named := List (List String × CharSet)

def Named.setOf? (known : Named) (name : String) : Option CharSet :=
  (known.find? fun entry => entry.1.contains name).map (·.2)

def ofTables (tables : List (List String × Runs)) : Named :=
  tables.map fun (names, runs) => (names, .runs runs)

def letterTables : List Runs :=
  [uppercaseLetter, lowercaseLetter, titlecaseLetter, modifierLetter, otherLetter]

def markTables : List Runs := [nonspacingMark, spacingMark, enclosingMark]

def numberTables : List Runs := [decimalNumber, letterNumber, otherNumber]

def punctuationTables : List Runs :=
  [connectorPunctuation, dashPunctuation, openPunctuation, closePunctuation, initialPunctuation,
    finalPunctuation, otherPunctuation]

def symbolTables : List Runs := [mathSymbol, currencySymbol, modifierSymbol, otherSymbol]

def separatorTables : List Runs := [spaceSeparator, lineSeparator, paragraphSeparator]

/-- Halves of surrogate pairs are no characters. -/
def otherTables : List Runs := [control, format, privateUse]

def assigned : CharSet :=
  .ofTables (letterTables ++ markTables ++ numberTables ++ punctuationTables ++ symbolTables ++
    separatorTables ++ otherTables)

def unassigned : CharSet := .complement assigned

/-- The general categories under their short and long names. -/
def categories : Named := [
  (["l", "letter"], .ofTables letterTables),
  (["lc", "casedletter"], .ofTables [uppercaseLetter, lowercaseLetter, titlecaseLetter]),
  (["lu", "uppercaseletter"], .runs uppercaseLetter),
  (["ll", "lowercaseletter"], .runs lowercaseLetter),
  (["lt", "titlecaseletter"], .runs titlecaseLetter),
  (["lm", "modifierletter"], .runs modifierLetter),
  (["lo", "otherletter"], .runs otherLetter),
  (["m", "mark", "combiningmark"], .ofTables markTables),
  (["mn", "nonspacingmark"], .runs nonspacingMark),
  (["mc", "spacingmark"], .runs spacingMark),
  (["me", "enclosingmark"], .runs enclosingMark),
  (["n", "number"], .ofTables numberTables),
  (["nd", "decimalnumber", "digit"], .runs decimalNumber),
  (["nl", "letternumber"], .runs letterNumber),
  (["no", "othernumber"], .runs otherNumber),
  (["p", "punctuation", "punct"], .ofTables punctuationTables),
  (["pc", "connectorpunctuation"], .runs connectorPunctuation),
  (["pd", "dashpunctuation"], .runs dashPunctuation),
  (["ps", "openpunctuation"], .runs openPunctuation),
  (["pe", "closepunctuation"], .runs closePunctuation),
  (["pi", "initialpunctuation"], .runs initialPunctuation),
  (["pf", "finalpunctuation"], .runs finalPunctuation),
  (["po", "otherpunctuation"], .runs otherPunctuation),
  (["s", "symbol"], .ofTables symbolTables),
  (["sm", "mathsymbol"], .runs mathSymbol),
  (["sc", "currencysymbol"], .runs currencySymbol),
  (["sk", "modifiersymbol"], .runs modifierSymbol),
  (["so", "othersymbol"], .runs otherSymbol),
  (["z", "separator"], .ofTables separatorTables),
  (["zs", "spaceseparator"], .runs spaceSeparator),
  (["zl", "lineseparator"], .runs lineSeparator),
  (["zp", "paragraphseparator"], .runs paragraphSeparator),
  (["c", "other"], .union unassigned (.ofTables otherTables)),
  (["cc", "control", "cntrl"], .runs control),
  (["cf", "format"], .runs format),
  (["co", "privateuse"], .runs privateUse),
  (["cn", "unassigned"], unassigned),
  (["any"], .all),
  (["assigned"], assigned),
  (["ascii"], .between '\x00' '\x7f')]

def lowercase : CharSet := .ofTables [lowercaseLetter, Binary.otherLowercase]

def uppercase : CharSet := .ofTables [uppercaseLetter, Binary.otherUppercase]

def cased : CharSet := .union lowercase (.union uppercase (.runs titlecaseLetter))

def alphabetic : CharSet :=
  .ofTables (letterTables ++
    [letterNumber, Binary.otherLowercase, Binary.otherUppercase, Binary.otherAlphabetic])

def graphemeExtend : CharSet :=
  .ofTables [nonspacingMark, enclosingMark, Binary.otherGraphemeExtend]

def binaryTable (name : String) : CharSet := ((ofTables Binary.named).setOf? name).getD .empty

/-- What patterns are made of begins and continues no name. -/
def patternChars : CharSet :=
  .union (binaryTable "patternsyntax") (binaryTable "patternwhitespace")

def startsName : CharSet :=
  .difference (.ofTables (letterTables ++ [letterNumber, Binary.otherIdStart])) patternChars

def continuesName : CharSet :=
  .union startsName (.difference
    (.ofTables [nonspacingMark, spacingMark, decimalNumber, connectorPunctuation,
      Binary.otherIdContinue]) patternChars)

def binary : Named := ofTables Binary.named ++ [
  (["alphabetic", "alpha"], alphabetic),
  (["caseignorable", "ci"],
    .ofTables [nonspacingMark, enclosingMark, format, modifierLetter, modifierSymbol,
      Binary.midLetters]),
  (["cased"], cased),
  (["changeswhencasemapped", "cwcm"],
    .union (binaryTable "changeswhenlowercased")
      (.union (binaryTable "changeswhenuppercased") (binaryTable "changeswhentitlecased"))),
  (["graphemebase", "grbase"],
    .complement (.union (.union unassigned graphemeExtend)
      (.ofTables [control, format, privateUse, lineSeparator, paragraphSeparator]))),
  (["graphemeextend", "grext"], graphemeExtend),
  (["idcontinue", "idc"], continuesName),
  (["idstart", "ids"], startsName),
  (["lowercase", "lower"], lowercase),
  (["math"], .ofTables [mathSymbol, Binary.otherMath]),
  (["otheralphabetic", "oalpha"], .runs Binary.otherAlphabetic),
  (["otherdefaultignorablecodepoint", "odi"], .runs Binary.otherDefaultIgnorable),
  (["othergraphemeextend", "ogrext"], .runs Binary.otherGraphemeExtend),
  (["otheridcontinue", "oidc"], .runs Binary.otherIdContinue),
  (["otheridstart", "oids"], .runs Binary.otherIdStart),
  (["otherlowercase", "olower"], .runs Binary.otherLowercase),
  (["othermath", "omath"], .runs Binary.otherMath),
  (["otheruppercase", "oupper"], .runs Binary.otherUppercase),
  (["uppercase", "upper"], uppercase),
  (["xidcontinue", "xidc"], .difference continuesName (.runs Binary.unstableContinues)),
  (["xidstart", "xids"], .difference startsName (.runs Binary.unstableStarts))]

/-- A name without what its spelling may vary in: case, blanks, hyphens, lines below, what is not
ASCII, and a leading `is`. The name `isc` keeps that. -/
def normalName (name : String) : String :=
  let (isMarked, rest) := match name.toList with
    | i :: s :: rest =>
        if i.toLower = 'i' ∧ s.toLower = 's' then (true, rest) else (false, i :: s :: rest)
    | chars => (false, chars)
  let kept := rest.filterMap fun c =>
    if c = ' ' ∨ c = '_' ∨ c = '-' ∨ 0x7F < c.toNat then none else some c.toLower
  if isMarked && kept == ['c'] then "isc" else String.ofList kept

/-- The characters of a property that is given by one name: one that holds or does not, a general
category or a script. -/
def named? (name : String) : Option CharSet :=
  let name := normalName name
  binary.setOf? name <|> categories.setOf? name <|> (ofTables Script.own).setOf? name

/-- The characters that there were in a version of Unicode. -/
def ofVersion? (name : String) : Option CharSet :=
  let isNamed (version : List String × Runs) : Bool := version.1.contains name
  if Age.versions.any isNamed then
    let earlier := Age.versions.takeWhile (!isNamed ·)
    let last := (Age.versions.dropWhile (!isNamed ·)).take 1
    some (.ofTables ((earlier ++ last).map (·.2)))
  else none

/-- The characters with a value of a property. -/
def valued? (property value : String) : Option CharSet :=
  let value := normalName value
  match normalName property with
  | "gc" | "generalcategory" => categories.setOf? value
  | "sc" | "script" => (ofTables Script.own).setOf? value
  | "scx" | "scriptextensions" =>
      (ofTables Script.extended).setOf? value <|> (ofTables Script.own).setOf? value
  | "age" => ofVersion? value
  | "gcb" | "graphemeclusterbreak" => (ofTables Break.grapheme).setOf? value
  | "wb" | "wordbreak" => (ofTables Break.word).setOf? value
  | "sb" | "sentencebreak" => (ofTables Break.sentence).setOf? value
  | _ => none

end Property

def whiteSpaceSet : CharSet := .runs (whiteSpace.map fun (first, last) => (first, last, 1))

/-- Letters, marks, digits, connectors and the two joiners: the characters that words are made
of. -/
def wordSet : CharSet :=
  .union Property.alphabetic (.ofTables (Property.markTables ++
    [Category.decimalNumber, Category.connectorPunctuation, [(0x200C, 0x200D, 1)]]))

def isWordChar (c : Char) : Bool :=
  c.isAlphanum || c == '_' || (0x7F < c.toNat && wordSet.contains c)

def isLetter (c : Char) : Bool :=
  c.isAlpha || (0x7F < c.toNat && Property.alphabetic.contains c)

def isNumber (c : Char) : Bool :=
  c.isDigit || (0x7F < c.toNat && Property.numberTables.any (·.contain c.toNat))

end Concord.Text
