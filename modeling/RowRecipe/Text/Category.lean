import RowRecipe.Text.Table.Letters
import RowRecipe.Text.Table.Marks
import RowRecipe.Text.Table.Signs
import RowRecipe.Text.Table.Traits

/-!
# Categories of characters

Each character has one general category, such as uppercase letter or dash. Characters with case and
the ones that a change of case looks past are unions of categories with a few characters more.
-/
namespace RowRecipe.Text

/-- The general categories, unassigned code points apart. -/
inductive Category where
  | uppercaseLetter | lowercaseLetter | titlecaseLetter | modifierLetter | otherLetter
  | nonspacingMark | spacingMark | enclosingMark
  | decimalNumber | letterNumber | otherNumber
  | connectorPunctuation | dashPunctuation | openPunctuation | closePunctuation
  | initialPunctuation | finalPunctuation | otherPunctuation
  | mathSymbol | currencySymbol | modifierSymbol | otherSymbol
  | spaceSeparator | lineSeparator | paragraphSeparator
  | control | format | privateUse
  deriving Repr, DecidableEq

namespace Category

def codes : Category → CodeSet
  | .uppercaseLetter => Table.uppercaseLetters
  | .lowercaseLetter => Table.lowercaseLetters
  | .titlecaseLetter => Table.titlecaseLetters
  | .modifierLetter => Table.modifierLetters
  | .otherLetter => Table.otherLetters
  | .nonspacingMark => Table.nonspacingMarks
  | .spacingMark => Table.spacingMarks
  | .enclosingMark => Table.enclosingMarks
  | .decimalNumber => Table.decimalNumbers
  | .letterNumber => Table.letterNumbers
  | .otherNumber => Table.otherNumbers
  | .connectorPunctuation => Table.connectorPunctuation
  | .dashPunctuation => Table.dashPunctuation
  | .openPunctuation => Table.openPunctuation
  | .closePunctuation => Table.closePunctuation
  | .initialPunctuation => Table.initialPunctuation
  | .finalPunctuation => Table.finalPunctuation
  | .otherPunctuation => Table.otherPunctuation
  | .mathSymbol => Table.mathSymbols
  | .currencySymbol => Table.currencySymbols
  | .modifierSymbol => Table.modifierSymbols
  | .otherSymbol => Table.otherSymbols
  | .spaceSeparator => Table.spaceSeparators
  | .lineSeparator => .ofCodes [0x2028]
  | .paragraphSeparator => .ofCodes [0x2029]
  | .control => .ofRanges [(0, 0x1F), (0x7F, 0x9F)]
  | .format => Table.formatCharacters
  | .privateUse => Table.privateUse

def codesOf (categories : List Category) : CodeSet :=
  .unions (categories.map codes)

end Category

def letterCategories : List Category :=
  [.uppercaseLetter, .lowercaseLetter, .titlecaseLetter, .modifierLetter, .otherLetter]

def markCategories : List Category :=
  [.nonspacingMark, .spacingMark, .enclosingMark]

def shownCategories : List Category :=
  letterCategories ++ markCategories ++
    [.decimalNumber, .letterNumber, .otherNumber, .connectorPunctuation, .dashPunctuation,
      .openPunctuation, .closePunctuation, .initialPunctuation, .finalPunctuation,
      .otherPunctuation, .mathSymbol, .currencySymbol, .modifierSymbol, .otherSymbol]

def lowercaseCodes : CodeSet :=
  Table.lowercaseLetters.union Table.otherLowercase

def uppercaseCodes : CodeSet :=
  Table.uppercaseLetters.union Table.otherUppercase

def alphabeticCodes : CodeSet :=
  .unions [lowercaseCodes, uppercaseCodes, Table.otherAlphabetic,
    Category.codesOf [.titlecaseLetter, .modifierLetter, .otherLetter, .letterNumber]]

def numberCodes : CodeSet :=
  Category.codesOf [.decimalNumber, .letterNumber, .otherNumber]

def casedCodes : CodeSet :=
  .unions [lowercaseCodes, uppercaseCodes, Table.titlecaseLetters]

def caseIgnorableCodes : CodeSet :=
  .unions [Table.innerPunctuation, Category.codesOf
    [.nonspacingMark, .enclosingMark, .format, .modifierLetter, .modifierSymbol]]

/-- Characters that extend the one in front of them. -/
def graphemeExtendCodes : CodeSet :=
  .unions [Table.nonspacingMarks, Table.enclosingMarks, Table.otherGraphemeExtend]

/-- Characters that show by themselves and stand apart from the one in front of them. -/
def shownCodes : CodeSet :=
  (Category.codesOf shownCategories).difference graphemeExtendCodes

/-- Characters that show by themselves and take room of their own. -/
def visibleCodes : CodeSet :=
  (Category.codesOf shownCategories).difference
    (.unions [Table.nonspacingMarks, Table.enclosingMarks, Table.defaultIgnorable])

def isCased (c : Char) : Bool :=
  if c.toNat < 0x80 then c.isAlpha else casedCodes.holds c.toNat

/-- Whether a character is passed over when looking for the letter next to another. -/
def isCaseIgnorable (c : Char) : Bool :=
  caseIgnorableCodes.holds c.toNat

end RowRecipe.Text
