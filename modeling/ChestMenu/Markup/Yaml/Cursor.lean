/-!
# Cursors

A cursor is a place in the text of a document: what is still to be read, and how many characters,
lines and columns lie behind. The byte order mark has no width.
-/
namespace ChestMenu.Markup.Yaml

/-- A place in a text. -/
structure Cursor where
  rest : List Char
  index : Nat
  line : Nat
  column : Nat
deriving Repr

/-- Whether a character ends a line. -/
def isBreak (c : Char) : Bool :=
  c = '\n' || c = '\x85' || c = '\u2028' || c = '\u2029'

/-- What a line end stands for in the text of a scalar. -/
def breakChar (c : Char) : Char :=
  if c = '\x85' then '\n' else c

/-- Whether a text is at its end or starts with a line end. -/
def atBreak : List Char → Bool
  | [] => true
  | c :: _ => isBreak c

/-- Whether a text is at its end or starts with a line end or a space. -/
def atSpace : List Char → Bool
  | [] => true
  | c :: _ => c = ' ' || isBreak c

/-- Whether a text is at its end or starts with a line end, a space or a tab. -/
def atGap : List Char → Bool
  | [] => true
  | c :: _ => c = ' ' || c = '\t' || isBreak c

/-- Whether a text starts with a mark that separates documents. -/
def atSeparator (cs : List Char) : Bool :=
  ("---".toList.isPrefixOf cs || "...".toList.isPrefixOf cs) && atGap (cs.drop 3)

namespace Cursor

/-- The start of a text. -/
def ofChars (cs : List Char) : Cursor := ⟨cs, 0, 0, 0⟩

/-- The place behind the next character. -/
def next (cursor : Cursor) : Cursor :=
  match cursor.rest with
  | [] => cursor
  | c :: rest =>
    if isBreak c then ⟨rest, cursor.index + 1, cursor.line + 1, 0⟩
    else if c = '\uFEFF' then ⟨rest, cursor.index + 1, cursor.line, cursor.column⟩
    else ⟨rest, cursor.index + 1, cursor.line, cursor.column + 1⟩

/-- The place `n` characters further on. -/
def advance : Nat → Cursor → Cursor
  | 0, cursor => cursor
  | n + 1, cursor => advance n cursor.next

/-- The next character. -/
def peek? (cursor : Cursor) : Option Char :=
  cursor.rest.head?

/-- The characters in front that have the property, and the place behind them. -/
def span (p : Char → Bool) (cursor : Cursor) : List Char × Cursor :=
  let taken := cursor.rest.takeWhile p
  (taken, cursor.advance taken.length)

/-- The place behind the characters in front that have the property. -/
def skip (p : Char → Bool) (cursor : Cursor) : Cursor :=
  (cursor.span p).2

/-- The place behind the spaces and the comment in front. -/
def skipComment (cursor : Cursor) : Cursor :=
  let cursor := cursor.skip (· = ' ')
  if cursor.peek? = some '#' then cursor.skip (!isBreak ·) else cursor

end Cursor

end ChestMenu.Markup.Yaml
