import EntityProps.Text.Property

/-!
# Digits and word characters

A word character is a letter, a decimal digit, a mark, a connector such as `_`,
or a join control.
-/

namespace EntityProps.Text

/-- Decimal digits of every script. -/
def digitRanges : Ranges :=
  Category.decimalNumber

/-- Word characters of every script. -/
def wordRanges : Ranges :=
  .normal (Property.alphabetic.ranges ++ Category.ofCodes ["Mn", "Mc", "Me", "Nd", "Pc"] ++
    Property.joinControl.ranges)

def isWord (c : Char) : Bool :=
  wordRanges.contains c

end EntityProps.Text
