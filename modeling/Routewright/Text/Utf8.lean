/-
Text as bytes in UTF-8. Surrogates have no bytes, and bytes that are not UTF-8 are no text.
-/
import Routewright.Text.Basic

namespace Routewright.Text

/-- The bytes of a text without surrogates. -/
def encode? (t : Text) : Option ByteArray :=
  if t.any CodePoint.isSurrogate then none else some t.asString.toUTF8

/-- The text of some bytes. -/
def decode? (bytes : ByteArray) : Option Text := (String.fromUTF8? bytes).map ofString

end Routewright.Text
