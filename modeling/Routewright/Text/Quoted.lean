/-
Quoted text. A string literal is written between double quotes with the escapes of JSON; text
outside ASCII stays as it is. A message quotes text in single quotes, or in double ones when that
saves an escape, and escapes what is not printable.
-/
import Routewright.Text.Printable

namespace Routewright.Text

/-! ## String literals -/

/-- A code point inside a string literal. -/
def escapeQuoted (c : CodePoint) : Text :=
  if c = '"' then ['\\', '"']
  else if c = '\\' then ['\\', '\\']
  else if c = '\n' then ['\\', 'n']
  else if c = '\r' then ['\\', 'r']
  else if c = '\t' then ['\\', 't']
  else if c = '\x08' then ['\\', 'b']
  else if c = '\x0c' then ['\\', 'f']
  else if c.val < 0x20 then '\\' :: 'u' :: ofHex 4 c.val
  else [c]

/-- A text as a string literal. -/
def quoted (t : Text) : Text := '"' :: (t.flatMap escapeQuoted ++ "\"")

/-! ## Template literals -/

/-- Text inside a template literal: backslashes are escaped first, then back ticks and the start of a
substitution, whose own backslashes are to stay single. -/
def escapeTemplate (t : Text) : Text :=
  ((t.replaceAll "\\" "\\\\").replaceAll "\x60" "\\\x60").replaceAll "$\x7b" "\\$\x7b"

/-! ## Quotations in messages -/

/-- The quote a message puts around a text. -/
def displayQuote (t : Text) : CodePoint :=
  if CodePoint.ofChar '\'' ∈ t ∧ CodePoint.ofChar '"' ∉ t then '"' else '\''

/-- A code point inside a quotation. -/
def escapeDisplayed (quote c : CodePoint) : Text :=
  if c = quote ∨ c = '\\' then ['\\', c]
  else if c = '\n' then ['\\', 'n']
  else if c = '\r' then ['\\', 'r']
  else if c = '\t' then ['\\', 't']
  else if c.isPrintable then [c]
  else if c.val < 0x100 then '\\' :: 'x' :: ofHex 2 c.val
  else if c.val < 0x10000 then '\\' :: 'u' :: ofHex 4 c.val
  else '\\' :: 'U' :: ofHex 8 c.val

/-- A text as a message quotes it. -/
def displayed (t : Text) : Text :=
  let quote := displayQuote t
  quote :: (t.flatMap (escapeDisplayed quote) ++ [quote])

end Routewright.Text
