/-
Blank code points: the white space of Unicode together with the four information separators. Lines
are trimmed of them, and words are what stands between them.
-/
import Routewright.Text.Basic

namespace Routewright

namespace CodePoint

def isBlank (c : CodePoint) : Bool :=
  (9 ≤ c.val && c.val ≤ 13) || (28 ≤ c.val && c.val ≤ 32) || c.val == 0x85 || c.val == 0xa0 ||
    c.val == 0x1680 || (0x2000 ≤ c.val && c.val ≤ 0x200a) || c.val == 0x2028 || c.val == 0x2029 ||
    c.val == 0x202f || c.val == 0x205f || c.val == 0x3000

end CodePoint

namespace Text

/-- The text without the blanks at both ends. -/
def strip (t : Text) : Text := trim CodePoint.isBlank t

def stripStart (t : Text) : Text := trimStart CodePoint.isBlank t

def stripEnd (t : Text) : Text := trimEnd CodePoint.isBlank t

end Text

end Routewright
