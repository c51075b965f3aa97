import FormEngine.Text.Blank
import FormEngine.Unicode.Category
import FormEngine.Unicode.Script
/-!
# Properties of characters

The yes-or-no questions that patterns ask of a character, and the names under which they ask.
-/

namespace FormEngine.Unicode

/-- The code points of alphabetic characters that are neither letters nor letter numbers. -/
def otherAlphabeticRuns : List Run :=
  runsOf [
    "N837YN29Y13N576Y14NYNY2NY2NYN72Y11N48Y13NY7N16YN101Y7N4Y4N2Y2N4YN35YN30Y16N102Y11N101Y2N3Y9N",
    "Y3NY4N106YN60Y12N3Y7N6Y20N54Y2N2Y15NY2N5Y3N10Y2N29Y3N58Y7N2Y2N2Y2N10YN10Y2N29Y3N58Y5N4Y2N2Y2",
    "N4YN30Y2N3YN11Y3N58Y8NY3NY2N21Y2N22Y3N4Y3N58Y7N2Y2N2Y2N9Y2N10Y2N30YN59Y5N3Y3NY3N10YN40Y5N57",
    "Y7NY3NY3N8Y2N11Y2N29Y3N58Y7NY3NY3N8Y2N11Y2N15YN12Y4N58Y7NY3NY3N10YN10Y2N29Y3N75Y6NYNY8N18Y2",
    "N61YN2Y7N18YN99YN2Y6NY2N16YN163Y19N9Y11NY36N110Y12NYN2Y4N23Y4N4Y3NY3N2Y7N3Y4N13Y12NYN10Y4",
    "N1652Y2N30Y2N30Y2N30Y2N66Y19N188Y2N34YN118Y12N4Y9N222Y5N57Y10N2Y20N74Y2N11Y3N49Y5N48Y15N60Y3",
    "N30Y9N2Y2N57Y11N50Y19N412Y34N1729Y52N2294Y32N30836Y8N34Y2N354YN8YN23Y5N88Y2N50Y16NYN57YN38Y5",
    "N28Y12N45Y4N48Y12N37YN67Y14N12YN8Y2N45Y3N50YNY3N2Y2N5YN44Y5N5YN237Y8N20275YN2135Y5N1670Y3NY2",
    "N5Y4N788Y4N65YN321Y2N79YN259Y3N53Y14N45Y2N11Y3N45Y9N9YN61Y3N36Y12N18Y2N57Y3N48Y13N14Y2N92Y9",
    "N2YN6YN2YN157Y10N23Y4N58Y7N2Y2N2Y2N10YN10Y2N84Y9NYN2YNY4NY2N103Y13NY3N106Y18N237Y7N2Y7N29Y2",
    "N82Y15NYN106Y11N103Y14N257Y13N247Y6NY2N2Y2N3YNYN142Y7N2Y6N4YN28Y10N42Y5NY4N18Y11N46Y14N407Y8",
    "NY7N83Y22NY14N122Y6N3YNY2NY3NYN3YN66Y5NY2NY4N348Y4N9Y2NYN48Y7N3Y3N16861Y17N3616YNY55N7Y4N93",
    "Y2N19628YN9057Y7NY17N2Y7NY2NY5N100YN2231YN2024Y26N6Y26N6Y26"
  ]

/-- The code points of lowercase characters that are not lowercase letters. -/
def otherLowercaseRuns : List Run :=
  runsOf [
    "N170YN15YN501Y9N7Y2N30Y5N96YN52YN3457YN3119Y63N13YN34Y37N689YN13YN16Y13N211Y16N848Y26N1938Y2",
    "N31262Y2N210YN129Y3N3Y2N866Y4N9YN23574YN2Y3NY42NY9N55413Y62"
  ]

/-- The code points of uppercase characters that are not uppercase letters. -/
def otherUppercaseRuns : List Run :=
  runsOf [
    "N8544Y16N838Y26N117856Y26N6Y26N6Y26"
  ]

def isYes (runs : List Run) (c : Char) : Bool := valueAt? runs c.toNat == some "Y"

/-- The categories of letters and of numbers that are letters. -/
def letterCategories : List String := ["Lu", "Ll", "Lt", "Lm", "Lo", "Nl"]

def isAlphabetic (c : Char) : Bool :=
  letterCategories.contains (category c) || isYes otherAlphabeticRuns c

def isLowercase (c : Char) : Bool := category c == "Ll" || isYes otherLowercaseRuns c

def isUppercase (c : Char) : Bool := category c == "Lu" || isYes otherUppercaseRuns c

def isNumeric (c : Char) : Bool := ["Nd", "Nl", "No"].contains (category c)

/-- The categories of marks, decimal digits and the punctuation that connects words. -/
def joiningCategories : List String := ["Mn", "Mc", "Me", "Nd", "Pc"]

/-- The characters of words: alphabetic ones, marks, decimal digits, the punctuation that
connects, and the two joiners. -/
def isWordChar (c : Char) : Bool :=
  joiningCategories.contains (category c) || isAlphabetic c || c == '\u200c' || c == '\u200d'

/-- A question about a character. -/
inductive CharProperty where
  | any
  | assigned
  | ascii
  | alphabetic
  | lowercase
  | uppercase
  | whiteSpace
  | wordChar
  | categoryIn (names : List String)
  | scriptIs (name : String)
  deriving DecidableEq, Repr, Inhabited

/-- The answer for a character. -/
def CharProperty.holds : CharProperty → Char → Bool
  | .any, _ => true
  | .assigned, c => category c != "Cn"
  | .ascii, c => c.toNat < 128
  | .alphabetic, c => isAlphabetic c
  | .lowercase, c => isLowercase c
  | .uppercase, c => isUppercase c
  | .whiteSpace, c => Text.isBlank c
  | .wordChar, c => isWordChar c
  | .categoryIn names, c => names.contains (category c)
  | .scriptIs name, c => script c == name

/-! ## Names -/

/-- A name for comparison: ASCII alone, in small letters, without blanks, low lines and hyphens,
and without `is` in front. The one name of a category that would be lost in this way is `isc`. -/
def looseName (name : String) : String :=
  let cs := name.toList
  let named := cs.take 2 |>.map Char.toLower
  let rest := if named = ['i', 's'] then cs.drop 2 else cs
  let kept := (rest.filter fun c => c.toNat < 128 && !(c == ' ' || c == '_' || c == '-')).map Char.toLower
  if named = ['i', 's'] && kept = ['c'] then "isc" else String.ofList kept

/-- The categories, and the three collections that are named like them. -/
def categoryProperty? (loose : String) : Option CharProperty :=
  match loose with
  | "any" => some .any
  | "assigned" => some .assigned
  | "ascii" => some .ascii
  | _ => (categoriesNamed? loose).map .categoryIn

/-- The properties that are asked for by name alone. -/
def binaryProperty? (loose : String) : Option CharProperty :=
  match loose with
  | "alpha" | "alphabetic" => some .alphabetic
  | "lower" | "lowercase" => some .lowercase
  | "upper" | "uppercase" => some .uppercase
  | "space" | "wspace" | "whitespace" => some .whiteSpace
  | _ => none

/-- The property of a name: a property by itself, else a category, else a script. -/
def CharProperty.ofName? (name : String) : Option CharProperty :=
  let loose := looseName name
  (binaryProperty? loose).or ((categoryProperty? loose).or ((scriptNamed? loose).map .scriptIs))

/-- The property of a name and a value. -/
def CharProperty.ofNameValue? (name value : String) : Option CharProperty :=
  match looseName name with
  | "gc" | "generalcategory" => categoryProperty? (looseName value)
  | "sc" | "script" => (scriptNamed? (looseName value)).map .scriptIs
  | _ => none

end FormEngine.Unicode
