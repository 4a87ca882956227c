import ChestMenu.Text.CharacterTable
import ChestMenu.Text.Case
import ChestMenu.Text.Half

/-!
# Quoted text

Quoted text is the form in which a text stands inside a printed list or table. The quote is a single
one unless the text holds a single quote and no double one. The backslash and the quote in use are
escaped, as are line feed, carriage return, tab, every character that is not printable and every half
of a surrogate pair; all other characters stand for themselves.
-/
namespace ChestMenu.Text

/-- A hexadecimal digit in lower case. -/
def hexDigit (n : Nat) : Char :=
  if n < 10 then Char.ofNat (0x30 + n) else Char.ofNat (0x57 + n)

/-- The last `width` hexadecimal digits of a number. -/
def hexDigits : (width n : Nat) → List Char
  | 0, _ => []
  | width + 1, n => hexDigits width (n / 16) ++ [hexDigit (n % 16)]

/-- Whether a character is printable. -/
def isPrintable (c : Char) : Bool :=
  inBounds printableBounds c.toNat

/-- The escape of a character by its number, as short as its size allows. -/
def escapeCode (code : Nat) : List Char :=
  if code < 0x100 then '\\' :: 'x' :: hexDigits 2 code
  else if code < 0x10000 then '\\' :: 'u' :: hexDigits 4 code
  else '\\' :: 'U' :: hexDigits 8 code

/-- A character as it stands between the quotes `quote`. -/
def quoteChar (quote c : Char) : List Char :=
  if c = quote || c = '\\' then ['\\', c]
  else if c = '\n' then ['\\', 'n']
  else if c = '\r' then ['\\', 'r']
  else if c = '\t' then ['\\', 't']
  else if isPrintable c then [c]
  else escapeCode c.toNat

/-- What a text counts as it stands between the quotes `quote`. -/
def quoteUnit (quote : Char) (unit : List Char) : List Char :=
  match unit with
  | [mark, c] => ((halfOf? mark c).map escapeCode).getD (unit.flatMap (quoteChar quote))
  | _ => unit.flatMap (quoteChar quote)

/-- The quote that a text is written between. -/
def quoteFor (cs : List Char) : Char :=
  if cs.contains '\'' && !cs.contains '"' then '"' else '\''

/-- A text between quotes. -/
def quoted (s : String) : String :=
  let quote := quoteFor s.toList
  String.ofList (quote :: (units s.toList).flatMap (quoteUnit quote) ++ [quote])

/-- A sequence of bytes between quotes, marked by a leading `b`. Bytes that are no printable ASCII
characters are escaped by number. -/
def quotedBytes (bytes : List UInt8) : String :=
  let cs := bytes.map fun b => Char.ofNat b.toNat
  let quote := quoteFor cs
  let inside := cs.flatMap fun c => if c.toNat < 0x7F then quoteChar quote c else escapeCode c.toNat
  String.ofList ('b' :: quote :: inside ++ [quote])

end ChestMenu.Text
