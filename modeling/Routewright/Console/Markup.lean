/-
Messages on a console that has colour. They are printed as markup, in which brackets hold marks and
backslashes escape them: the marks of a message itself are escaped and so shown, but a backslash in
front of a bracket that opens no mark is lost, and those that a message ends in meet what follows.
Names between colons stand for emoji, codes that would move the cursor are left out, and tabs reach
to the next stop.
-/
import Routewright.Text.Blank
import Routewright.Text.Case
import Routewright.Text.Emoji

namespace Routewright.Markup

def backslash : CodePoint := '\\'

/-! ## Marks -/

/-- Whether the name of a mark may start with a code point. -/
def startsMark (c : CodePoint) : Bool := c.isLower || c == '#' || c == '/' || c == '@'

/-- The mark that a text starts with, brackets included, and the text after it. No bracket is opened
inside a mark. -/
def mark? : Text → Option (Text × Text)
  | bracket :: first :: rest =>
    if bracket = '[' ∧ startsMark first then
      let name := rest.takeWhile fun c : CodePoint => c != '[' && c != ']'
      match rest.drop name.length with
      | [] => none
      | close :: after =>
        if close = ']' then some (bracket :: first :: (name ++ [close]), after) else none
    else none
  | _ => none

/-- The pieces of a text, after the code points of the first one so far, the last one first: marks,
the backslashes in front of them, and what stands between. Each step takes some of the text. -/
def piecesFrom : Nat → Text → Text → List Text
  | 0, current, t => [current.reverse ++ t]
  | _, current, [] => [current.reverse]
  | fuel + 1, current, c :: rest =>
    let escapes := (c :: rest).takeWhile (· = backslash)
    match mark? ((c :: rest).drop escapes.length) with
    | some (mark, after) => current.reverse :: escapes :: mark :: piecesFrom fuel [] after
    | none =>
      if escapes.isEmpty then piecesFrom fuel (c :: current) rest
      else piecesFrom fuel (escapes ++ current) ((c :: rest).drop escapes.length)

def pieces (t : Text) : List Text := piecesFrom t.length [] t

/-! ## Pieces -/

/-- A text without the backslashes in front of brackets. -/
def dropEscapes : Text → Text
  | [] => []
  | [c] => [c]
  | c :: d :: rest =>
    if c = backslash ∧ d = '[' then dropEscapes (d :: rest) else c :: dropEscapes (d :: rest)

/-- What may follow a name to ask for a form of its emoji, and the code point for it. -/
def emojiForms : List (Text × CodePoint) := [("-emoji", .ofNat 0xfe0f), ("-text", .ofNat 0xfe0e)]

/-- What stands between two colons as an emoji, if it is the name of one. Case does not count. -/
def emojiOf? (name : Text) : Option Text :=
  match emojiForms.findSome? fun form => (Text.dropEnd? form.1 name).map (Prod.mk · form.2) with
  | some (name, form) => (Text.emoji? name.lower).map (· ++ [form])
  | none => Text.emoji? name.lower

/-- A text with the names between colons replaced by their emoji. A colon that closes a name opens
no other one. -/
def replaceEmoji : Nat → Text → Text
  | 0, t => t
  | _, [] => []
  | fuel + 1, c :: rest =>
    if c = ':' then
      let name := rest.takeWhile fun d : CodePoint => d != ':' && !d.isBlank
      match rest.drop name.length with
      | [] => c :: rest
      | close :: after =>
        if close = ':' then
          (emojiOf? name).getD (c :: (name ++ [close])) ++ replaceEmoji fuel after
        else c :: replaceEmoji fuel rest
    else c :: replaceEmoji fuel rest

/-- The bell, the backspace, the vertical tab, the form feed, and the carriage return. -/
def isCursorCode (c : CodePoint) : Bool := [7, 8, 11, 12, 13].contains c.val

/-- A piece as it is shown. -/
def showPiece (t : Text) : Text :=
  (replaceEmoji t.length (dropEscapes t)).filter (!isCursorCode ·)

/-! ## Messages -/

/-- The columns between two tab stops. -/
def tabWidth : Nat := 8

/-- A text from a column on with blanks in place of its tabs. A code point takes one column. -/
def expandTabs : Nat → Text → Text
  | _, [] => []
  | column, c :: rest =>
    if c = '\t' then
      let stop := (column / tabWidth + 1) * tabWidth
      List.replicate (stop - column) (CodePoint.ofChar ' ') ++ expandTabs stop rest
    else c :: expandTabs (if c = '\n' then 0 else column + 1) rest

/-- The backslashes that a message ends in, as they are shown. A single one is doubled to stand for
itself, which only a mark after it undoes; more of them are taken for pairs before the mark. -/
def showEnd (closing : Option Text) (count : Nat) : Text :=
  match closing with
  | none => List.replicate (if count = 1 then 2 else count) backslash
  | some mark =>
    if count ≤ 1 then List.replicate count backslash
    else List.replicate (count / 2) backslash ++ if count % 2 = 1 then mark else []

/-- A message after its lead and before its closing mark, if it has one, as it is shown. -/
def message (lead : Text) (closing : Option Text) (t : Text) : Text :=
  let count := (t.reverse.takeWhile (· = backslash)).length
  let body := (pieces (t.take (t.length - count))).flatMap showPiece
  expandTabs 0 (lead ++ body ++ showEnd closing count)

end Routewright.Markup
