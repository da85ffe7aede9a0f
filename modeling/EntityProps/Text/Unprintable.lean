import EntityProps.Text.Later

/-!
# Characters that quoted text escapes

Quoted text shows a character only if it stands for itself on paper. Controls,
formats, private and unassigned code points, blanks other than the space, marks
that extend the character before them and characters that a font may leave out
are written by number.
-/

namespace EntityProps.Text

/-- The halfwidth sound marks count as letters here, although they extend the character before them. -/
def halfwidthSoundMarks : Ranges :=
  [(0xff9e, 0xff9f)]

def unprintableRanges : Ranges :=
  (Ranges.normal (Category.ofCodes ["Cc", "Cf", "Cn", "Co", "Zs", "Zl", "Zp"] ++
    Property.graphemeExtend.ranges ++ Property.defaultIgnorable.ranges)).diff
      (.normal ((0x20, 0x20) :: halfwidthSoundMarks ++ laterPrintable))

def isUnprintable (c : Char) : Bool :=
  unprintableRanges.contains c

end EntityProps.Text
