import Dialogue.Unicode.Classes
import Dialogue.Unicode.Property
import Dialogue.Unicode.Script
import Dialogue.Unicode.Case

namespace Dialogue.Unicode

/-!
# Sets of characters by name

Names are compared without regard to case, blanks, hyphens, underscores and an `is` in front.

* `setNamed?`: the set of a property, a general category or a script.
* `setOfValue?`: the set of the code points for which a property has a value.
-/

/-- A name as it is compared. Characters outside ASCII do not count. -/
def comparableName (name : String) : String :=
  let clean (cs : List Char) : List Char :=
    (cs.filter fun c => c.toNat < 128 && c != ' ' && c != '_' && c != '-').map Char.toLower
  match name.toList with
  | a :: b :: rest =>
    if a.toLower = 'i' ∧ b.toLower = 's' then
      let cs := clean rest
      if cs = ['c'] then "isc" else String.ofList cs
    else String.ofList (clean (a :: b :: rest))
  | cs => String.ofList (clean cs)

/-- Whether a name is one of the names of a set, given as it is compared. -/
def isNamed (names : List String) (name : String) : Bool :=
  names.any fun n => comparableName n == name

/-- The general categories and their groups, with their names. -/
def categoryGroups : List (List String × List Category) :=
  [ (["C", "Other"], [.control, .format, .unassigned, .privateUse]),
    (["Cc", "Control", "cntrl"], [.control]),
    (["Cf", "Format"], [.format]),
    (["Cn", "Unassigned"], [.unassigned]),
    (["Co", "Private_Use"], [.privateUse]),
    (["L", "Letter"],
      [.uppercaseLetter, .lowercaseLetter, .titlecaseLetter, .modifierLetter, .otherLetter]),
    (["LC", "Cased_Letter"], [.uppercaseLetter, .lowercaseLetter, .titlecaseLetter]),
    (["Ll", "Lowercase_Letter"], [.lowercaseLetter]),
    (["Lm", "Modifier_Letter"], [.modifierLetter]),
    (["Lo", "Other_Letter"], [.otherLetter]),
    (["Lt", "Titlecase_Letter"], [.titlecaseLetter]),
    (["Lu", "Uppercase_Letter"], [.uppercaseLetter]),
    (["M", "Mark", "Combining_Mark"], [.nonspacingMark, .spacingMark, .enclosingMark]),
    (["Mc", "Spacing_Mark"], [.spacingMark]),
    (["Me", "Enclosing_Mark"], [.enclosingMark]),
    (["Mn", "Nonspacing_Mark"], [.nonspacingMark]),
    (["N", "Number"], [.decimalNumber, .letterNumber, .otherNumber]),
    (["Nd", "Decimal_Number", "digit"], [.decimalNumber]),
    (["Nl", "Letter_Number"], [.letterNumber]),
    (["No", "Other_Number"], [.otherNumber]),
    (["P", "Punctuation", "punct"],
      [.connectorPunctuation, .dashPunctuation, .openPunctuation, .closePunctuation,
        .initialPunctuation, .finalPunctuation, .otherPunctuation]),
    (["Pc", "Connector_Punctuation"], [.connectorPunctuation]),
    (["Pd", "Dash_Punctuation"], [.dashPunctuation]),
    (["Pe", "Close_Punctuation"], [.closePunctuation]),
    (["Pf", "Final_Punctuation"], [.finalPunctuation]),
    (["Pi", "Initial_Punctuation"], [.initialPunctuation]),
    (["Po", "Other_Punctuation"], [.otherPunctuation]),
    (["Ps", "Open_Punctuation"], [.openPunctuation]),
    (["S", "Symbol"], [.mathSymbol, .currencySymbol, .modifierSymbol, .otherSymbol]),
    (["Sc", "Currency_Symbol"], [.currencySymbol]),
    (["Sk", "Modifier_Symbol"], [.modifierSymbol]),
    (["Sm", "Math_Symbol"], [.mathSymbol]),
    (["So", "Other_Symbol"], [.otherSymbol]),
    (["Z", "Separator"], [.spaceSeparator, .lineSeparator, .paragraphSeparator]),
    (["Zl", "Line_Separator"], [.lineSeparator]),
    (["Zp", "Paragraph_Separator"], [.paragraphSeparator]),
    (["Zs", "Space_Separator"], [.spaceSeparator]) ]

/-- The code points of some categories. -/
def categoryRanges (categories : List Category) : Ranges :=
  .ofList (categories.flatMap fun k => k.codes.ranges.spans)

/-- All code points. -/
def allRanges : Ranges := ⟨[(0, lastCode)]⟩

/-- The set of a general category or group, by a name as it is compared. -/
def categoryNamed? (name : String) : Option Ranges :=
  match name with
  | "any" => some allRanges
  | "assigned" => some ((categoryRanges [.unassigned]).complement lastCode)
  | "ascii" => some ⟨[(0, 127)]⟩
  | _ => (categoryGroups.find? (isNamed ·.1 name)).map (categoryRanges ·.2)

/-- The set of a script, by a name as it is compared. -/
def scriptNamed? (name : String) : Option Ranges :=
  (scripts.find? (isNamed ·.names name)).map NamedSet.ranges

/-- What can begin an identifier. -/
def identifierStart : Ranges :=
  (categoryRanges [.uppercaseLetter, .lowercaseLetter, .titlecaseLetter, .modifierLetter,
    .otherLetter, .letterNumber]).union (CodeSet.ofText ["1885-1886 2118 212E 309B-309C"]).ranges

/-- What an identifier can go on with. -/
def identifierContinue : Ranges :=
  (identifierStart.union (categoryRanges
    [.nonspacingMark, .spacingMark, .decimalNumber, .connectorPunctuation])).union
    (CodeSet.ofText ["B7 387 1369-1371 19DA 200C-200D 30FB FF65"]).ranges

/-- What no identifier holds once it is decomposed for compatibility. -/
def unstableInIdentifiers : Ranges :=
  (CodeSet.ofText ["37A 309B-309C FC5E-FC63 FDFA-FDFB FE70-FE7E/2"]).ranges

/-- What is written as a character of its own. -/
def graphemeBase : Ranges :=
  ((categoryRanges [.control, .format, .unassigned, .privateUse, .lineSeparator,
    .paragraphSeparator]).union graphemeExtendSet.ranges).complement lastCode

/-- The properties that are put together from other sets. -/
def derivedProperties : List (List String × (Unit → Ranges)) :=
  [ (["Alphabetic", "Alpha"], fun _ => alphabeticSet.ranges),
    (["Case_Ignorable", "CI"], fun _ => caseIgnorableSet.ranges),
    (["Cased"], fun _ => casedSet.ranges),
    (["Grapheme_Base", "Gr_Base"], fun _ => graphemeBase),
    (["Grapheme_Extend", "Gr_Ext"], fun _ => graphemeExtendSet.ranges),
    (["ID_Continue", "IDC"], fun _ => identifierContinue),
    (["ID_Start", "IDS"], fun _ => identifierStart),
    (["XID_Continue", "XIDC"], fun _ => identifierContinue.minus unstableInIdentifiers),
    (["XID_Start", "XIDS"], fun _ => identifierStart.minus (unstableInIdentifiers.union
      (CodeSet.ofText ["E33 EB3 FF9E-FF9F"]).ranges)) ]

/-- The set of a property, by a name as it is compared. -/
def propertyNamed? (name : String) : Option Ranges :=
  match derivedProperties.find? (isNamed ·.1 name) with
  | some (_, set) => some (set ())
  | none => (propertyTables.find? (isNamed ·.names name)).map NamedSet.ranges

/-- The set of a property, a general category or a script. Three names that could be those of
properties are those of categories. -/
def setNamed? (name : String) : Option Ranges :=
  let n := comparableName name
  let property := if n ∈ ["cf", "sc", "lc"] then none else propertyNamed? n
  (property.or (categoryNamed? n)).or (scriptNamed? n)

/-- The set of the code points for which a property has a value. -/
def setOfValue? (property value : String) : Option Ranges :=
  match comparableName property with
  | "gc" | "generalcategory" => categoryNamed? (comparableName value)
  | "sc" | "script" => scriptNamed? (comparableName value)
  | _ => none

/-- What stands in a word. -/
def wordRanges : Ranges :=
  (alphabeticSet.ranges.union (categoryRanges [.nonspacingMark, .spacingMark, .enclosingMark,
    .decimalNumber, .connectorPunctuation])).union
    (CodeSet.ofText ["30-39 41-5A 5F 61-7A 200C-200D"]).ranges

/-- The decimal digits. -/
def digitRanges : Ranges := categoryRanges [.decimalNumber]

/-- The blanks. -/
def blankRanges : Ranges :=
  (CodeSet.ofText ["9-D 20 85 A0 1680 2000-200A 2028-2029 202F 205F 3000"]).ranges

end Dialogue.Unicode
