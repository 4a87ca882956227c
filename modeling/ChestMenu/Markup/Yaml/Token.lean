import ChestMenu.Markup.Utf8
import ChestMenu.Markup.Yaml.Scalar

/-!
# The tokens of a document

Indentation and the place of a colon decide where collections begin, so the tokens that open a block
are set in after the fact: a scalar turns out to be a key when the colon behind it is reached. Such
a key stands on one line and has at most `keyReach` characters.

A text with a fault in it has tokens up to the fault. Whoever reads them meets the fault only behind
them, so that a fault of their own comes first.
-/
namespace ChestMenu.Markup.Yaml

/-- A token. -/
inductive Token where
  | versionDirective (major : Nat)
  | tagDirective (handle start : String)
  | otherDirective
  | documentStart
  | documentEnd
  | blockSequenceStart
  | blockMappingStart
  | blockEnd
  | flowSequenceStart
  | flowSequenceEnd
  | flowMappingStart
  | flowMappingEnd
  | blockEntry
  | flowEntry
  | key
  | value
  | alias (name : String)
  | anchor (name : String)
  | tag (handle : Option String) (suffix : String)
  | scalar (text : String) (plain : Bool)
deriving Repr, DecidableEq

/-- The tokens of a text, with the fault behind them if the text has one. Without a fault the end of
the list is the end of the text. -/
structure TokenStream where
  tokens : List Token
  fault : Option Fault
deriving Repr

/-- The most characters between the start of a key and its colon. -/
def keyReach : Nat := 1024

/-- A token that may turn out to be the start of a key. In a block it has to, where it stands at the
indentation of the block. -/
structure PossibleKey where
  tokenNumber : Nat
  index : Nat
  line : Nat
  column : Nat
  required : Bool
deriving Repr

/-- What the scanner knows between two tokens. Tokens are held newest first, the possible keys by the
depth of brackets they stand at. -/
structure Scanner where
  cursor : Cursor
  tokens : List Token
  depth : Nat
  indent : Int
  outerIndents : List Int
  keysAllowed : Bool
  possibleKeys : List (Nat × PossibleKey)
deriving Repr

namespace Scanner

/-- The scanner at the start of a text. -/
def start (cs : List Char) : Scanner :=
  { cursor := .ofChars cs, tokens := [], depth := 0, indent := -1, outerIndents := [],
    keysAllowed := true, possibleKeys := [] }

/-- Whether the scanner is inside brackets. -/
def inFlow (s : Scanner) : Bool := s.depth != 0

/-- Adds a token behind the others. -/
def push (s : Scanner) (token : Token) : Scanner :=
  { s with tokens := token :: s.tokens }

/-- Adds a token and moves `size` characters on. -/
def emit (s : Scanner) (token : Token) (size : Nat) : Scanner :=
  { s.push token with cursor := s.cursor.advance size }

/-- Sets a token in front of the one with the given number. -/
def setIn (s : Scanner) (number : Nat) (token : Token) : Scanner :=
  let newer := s.tokens.length - number
  { s with tokens := s.tokens.take newer ++ token :: s.tokens.drop newer }

/-- Forgets the possible keys that can no longer be keys; one that has to be a key is a fault. -/
def dropStale (s : Scanner) : Except Fault Scanner :=
  let isStale (k : PossibleKey) : Bool :=
    k.line != s.cursor.line || keyReach < s.cursor.index - k.index
  if s.possibleKeys.any fun (_, k) => isStale k && k.required then .error .malformed
  else .ok { s with possibleKeys := s.possibleKeys.filter fun (_, k) => !isStale k }

/-- Forgets the possible key at the present depth. -/
def dropKey (s : Scanner) : Except Fault Scanner :=
  if s.possibleKeys.any fun (depth, k) => depth == s.depth && k.required then .error .malformed
  else .ok { s with possibleKeys := s.possibleKeys.filter fun (depth, _) => depth != s.depth }

/-- Notes that the next token may be a key. -/
def saveKey (s : Scanner) : Except Fault Scanner := do
  if s.keysAllowed then
    let s' ← s.dropKey
    let key : PossibleKey :=
      { tokenNumber := s.tokens.length, index := s.cursor.index, line := s.cursor.line,
        column := s.cursor.column,
        required := !s.inFlow && s.indent == (s.cursor.column : Int) }
    return { s' with possibleKeys := (s.depth, key) :: s'.possibleKeys }
  else return s

/-- Closes the blocks that are indented more than `column`. -/
def closeBlocks (column : Int) (s : Scanner) : Scanner :=
  if s.inFlow then s
  else
    let opened := s.indent :: s.outerIndents
    let closed := opened.takeWhile (column < ·)
    match opened.drop closed.length with
    | [] => s
    | indent :: outer =>
      { s with
        tokens := List.replicate closed.length .blockEnd ++ s.tokens
        indent := indent
        outerIndents := outer }

/-- Opens a block at a column, if it is indented more than the present one. -/
def openBlock? (column : Nat) (s : Scanner) : Option Scanner :=
  if s.indent < column then
    some { s with indent := column, outerIndents := s.indent :: s.outerIndents }
  else none

/-- Skips spaces, comments and line ends. In a block, a key may start on a new line. The first
argument bounds the number of lines. -/
def skipToToken : Nat → Scanner → Scanner
  | 0, s => s
  | fuel + 1, s =>
    let cursor := s.cursor.skipComment
    match cursor.rest with
    | [] => { s with cursor }
    | c :: _ =>
      if isBreak c then
        skipToToken fuel { s with cursor := cursor.next, keysAllowed := s.keysAllowed || !s.inFlow }
      else { s with cursor }

/-- A character of the names of directives and anchors. -/
def isNameChar (c : Char) : Bool :=
  c.isAlphanum || c = '-' || c = '_'

/-- A character of a tag. -/
def isTagChar (c : Char) : Bool :=
  c.isAlphanum || "-;/?:@&=+$,_.!~*'()[]".toList.contains c

/-- Decodes the escaped bytes of a tag. The first argument bounds the number of characters. -/
def tagBytes : Nat → Cursor → Except Fault (List UInt8 × Cursor)
  | 0, cursor => .ok ([], cursor)
  | fuel + 1, cursor =>
    match cursor.rest with
    | '%' :: rest =>
      match rest with
      | a :: b :: _ =>
        match Json.hexValue? a, Json.hexValue? b with
        | some high, some low => do
          let (bytes, behind) ← tagBytes fuel (cursor.advance 3)
          .ok ((16 * high + low).toUInt8 :: bytes, behind)
        | _, _ => .error .malformed
      | _ => .error .malformed
    | c :: _ =>
      if isTagChar c then do
        let (bytes, behind) ← tagBytes fuel cursor.next
        .ok (c.toNat.toUInt8 :: bytes, behind)
      else .ok ([], cursor)
    | [] => .ok ([], cursor)

/-- Scans the text of a tag, which is not empty. -/
def tagText (cursor : Cursor) : Except Fault (String × Cursor) := do
  let (bytes, behind) ← tagBytes (cursor.rest.length + 1) cursor
  match bytes, decode? bytes with
  | _ :: _, some cs => .ok (String.ofList cs, behind)
  | _, _ => .error .malformed

/-- Scans the handle of a tag: one exclamation mark, or two with a name between them. -/
def tagHandle (cursor : Cursor) : Except Fault (String × Cursor) :=
  match cursor.rest with
  | '!' :: ' ' :: _ => .ok ("!", cursor.next)
  | '!' :: _ =>
    let (name, behind) := cursor.next.span isNameChar
    if behind.peek? = some '!' then .ok (String.ofList ('!' :: name ++ ['!']), behind.next)
    else .error .malformed
  | _ => .error .malformed

/-- Scans a tag. -/
def scanTag (cursor : Cursor) : Except Fault (Token × Cursor) := do
  let (token, behind) ←
    match cursor.rest.drop 1 with
    | '<' :: _ => do
      let (suffix, behind) ← tagText (cursor.advance 2)
      if behind.peek? = some '>' then .ok (Token.tag none suffix, behind.next)
      else .error .malformed
    | rest =>
      if atGap rest then .ok (Token.tag none "!", cursor.next)
      else if (rest.takeWhile fun c => !(c = ' ' || isBreak c)).contains '!' then do
        let (handle, behind) ← tagHandle cursor
        let (suffix, behind) ← tagText behind
        .ok (Token.tag (some handle) suffix, behind)
      else do
        let (suffix, behind) ← tagText cursor.next
        .ok (Token.tag (some "!") suffix, behind)
  if atSpace behind.rest then .ok (token, behind) else .error .malformed

/-- Scans a number and what has to stand behind it. -/
private def versionNumber (ends : List Char → Bool) (cursor : Cursor) :
    Except Fault (Nat × Cursor) :=
  match cursor.span Char.isDigit with
  | ([], _) => .error .malformed
  | (ds, behind) =>
    if ends behind.rest then .ok (ds.foldl (fun n d => 10 * n + (d.toNat - 0x30)) 0, behind)
    else .error .malformed

/-- Scans a directive up to the end of its line. -/
def scanDirective (cursor : Cursor) : Except Fault (Token × Cursor) := do
  let (name, behind) := cursor.next.span isNameChar
  if name.isEmpty || !atSpace behind.rest then throw .malformed
  let (token, behind) ←
    if name = "YAML".toList then do
      let (major, behind) ← versionNumber (·.head? = some '.') (behind.skip (· = ' '))
      let (_, behind) ← versionNumber atSpace behind.next
      pure (Token.versionDirective major, behind)
    else if name = "TAG".toList then do
      let (handle, behind) ← tagHandle (behind.skip (· = ' '))
      if behind.peek? ≠ some ' ' then throw .malformed
      let (start, behind) ← tagText (behind.skip (· = ' '))
      if !atSpace behind.rest then throw .malformed
      pure (Token.tagDirective handle start, behind)
    else pure (Token.otherDirective, behind.skip (!isBreak ·))
  let behind := behind.skipComment
  if atBreak behind.rest then return (token, behind.next) else throw .malformed

/-- Scans the name of an anchor or an alias. -/
def scanName (cursor : Cursor) : Except Fault (String × Cursor) :=
  match cursor.next.span isNameChar with
  | ([], _) => .error .malformed
  | (name, behind) =>
    if atGap behind.rest || behind.rest.head?.any ("?:,]\x7d%@\x60".toList.contains ·) then
      .ok (String.ofList name, behind)
    else .error .malformed

/-- Adds a mark between documents or a directive: all blocks end in front of it. -/
private def boundary (s : Scanner) : Except Fault Scanner := do
  let s ← (s.closeBlocks (-1)).dropKey
  return { s with keysAllowed := false }

/-- Adds an opening bracket. -/
private def openBracket (s : Scanner) (token : Token) : Except Fault Scanner := do
  let s ← s.saveKey
  return { s.emit token 1 with depth := s.depth + 1, keysAllowed := true }

/-- Adds a closing bracket, which needs an open one. -/
private def closeBracket (s : Scanner) (token : Token) : Except Fault Scanner := do
  let s ← s.dropKey
  if s.depth = 0 then throw .malformed
  return { s.emit token 1 with depth := s.depth - 1, keysAllowed := false }

/-- Opens a block in front of a token that needs one, where a key may start. -/
private def enterBlock (s : Scanner) (opening : Token) : Except Fault Scanner :=
  if s.inFlow then .ok s
  else if !s.keysAllowed then .error .malformed
  else
    match s.openBlock? s.cursor.column with
    | some opened => .ok (opened.push opening)
    | none => .ok s

/-- Adds a colon. If a key was possible in front of it, the key is marked now. -/
private def colon (s : Scanner) : Except Fault Scanner := do
  match s.possibleKeys.lookup s.depth with
  | some k =>
    let s := { s with possibleKeys := s.possibleKeys.filter fun (depth, _) => depth != s.depth }
    let s := s.setIn k.tokenNumber .key
    let s :=
      match if s.inFlow then none else s.openBlock? k.column with
      | some opened => opened.setIn k.tokenNumber .blockMappingStart
      | none => s
    return { s.emit .value 1 with keysAllowed := false }
  | none =>
    let s ← enterBlock s .blockMappingStart
    let s ← s.dropKey
    return { s.emit .value 1 with keysAllowed := !s.inFlow }

/-- Adds a token that may be a key, scanned from the cursor on. -/
private def keyed (s : Scanner) (scan : Cursor → Except Fault (Token × Cursor)) :
    Except Fault Scanner := do
  let s ← s.saveKey
  let (token, cursor) ← scan s.cursor
  return { s.push token with cursor, keysAllowed := false }

/-- Adds a block of lines; a key may stand behind it. -/
private def block (s : Scanner) (folded : Bool) : Except Fault Scanner := do
  let s ← s.dropKey
  let (text, cursor) ← scanBlock folded s.indent s.cursor.next
  return { s.push (.scalar (String.ofList text) false) with cursor, keysAllowed := true }

/-- Adds a plain scalar; a key may stand behind it if the scalar ended with its line. -/
private def plain (s : Scanner) : Except Fault Scanner := do
  let s ← s.saveKey
  let (text, cursor, lineEnded) :=
    scanPlain s.inFlow (s.indent + 1) (s.cursor.rest.length + 1) s.cursor
  return { s.push (.scalar (String.ofList text) true) with cursor, keysAllowed := lineEnded }

private def quoted (s : Scanner) (double : Bool) : Except Fault Scanner :=
  keyed s fun cursor => do
    let (text, behind) ← scanQuoted double (cursor.rest.length + 1) cursor.next
    return (.scalar (String.ofList text) false, behind)

/-- Whether a plain scalar can start with a character, given what follows it. -/
def startsPlain (inFlow : Bool) (c : Char) (rest : List Char) : Bool :=
  !(atGap [c] || "-?:,[]\x7b\x7d#&*!|>'\"%@\x60".toList.contains c) ||
    (!atGap rest && (c = '-' || (!inFlow && (c = '?' || c = ':'))))

/-- Adds the token that starts with the character `c`. -/
def scanAt (s : Scanner) (c : Char) (rest : List Char) : Except Fault Scanner := do
  let lineStart := s.cursor.column == 0
  if c = '%' && lineStart then
    let s ← boundary s
    let (token, cursor) ← scanDirective s.cursor
    return { s.push token with cursor }
  else if lineStart && atSeparator (c :: rest) then
    return (← boundary s).emit (if c = '-' then .documentStart else .documentEnd) 3
  else if c = '[' then openBracket s .flowSequenceStart
  else if c = '\x7b' then openBracket s .flowMappingStart
  else if c = ']' then closeBracket s .flowSequenceEnd
  else if c = '\x7d' then closeBracket s .flowMappingEnd
  else if c = ',' then
    let s ← s.dropKey
    return { s.emit .flowEntry 1 with keysAllowed := true }
  else if c = '-' && atGap rest then
    let s ← enterBlock s .blockSequenceStart
    let s ← s.dropKey
    return { s.emit .blockEntry 1 with keysAllowed := true }
  else if c = '?' && (s.inFlow || atGap rest) then
    let s ← enterBlock s .blockMappingStart
    let s ← s.dropKey
    return { s.emit .key 1 with keysAllowed := !s.inFlow }
  else if c = ':' && (s.inFlow || atGap rest) then colon s
  else if c = '*' then
    keyed s fun cursor => do
      let (name, behind) ← scanName cursor
      return (.alias name, behind)
  else if c = '&' then
    keyed s fun cursor => do
      let (name, behind) ← scanName cursor
      return (.anchor name, behind)
  else if c = '!' then keyed s scanTag
  else if c = '|' && !s.inFlow then block s false
  else if c = '>' && !s.inFlow then block s true
  else if c = '\'' then quoted s false
  else if c = '"' then quoted s true
  else if startsPlain s.inFlow c rest then plain s
  else throw .malformed

/-- Adds what comes next, a token or the end of the text, and says whether the text goes on. -/
def step (s : Scanner) : Except Fault (Scanner × Bool) := do
  let s ← (s.skipToToken (s.cursor.rest.length + 1)).dropStale
  let s := s.closeBlocks s.cursor.column
  match s.cursor.rest with
  | [] => return (← (s.closeBlocks (-1)).dropKey, false)
  | c :: rest => return (← (← s.scanAt c rest).dropStale, true)

/-- The tokens that nothing can be set in front of any more. -/
def settled (s : Scanner) : List Token :=
  let numbers := s.possibleKeys.map fun (_, k) => k.tokenNumber
  s.tokens.reverse.take (numbers.foldl min s.tokens.length)

/-- Adds all tokens up to the end of the text or to a fault. The first argument bounds their number. -/
def run : Nat → Scanner → TokenStream
  | 0, s => ⟨s.settled, some .malformed⟩
  | fuel + 1, s =>
    match s.step with
    | .error fault => ⟨s.settled, some fault⟩
    | .ok (s, false) => ⟨s.tokens.reverse, none⟩
    | .ok (s, true) => run fuel s

end Scanner

/-- Whether a character may stand in a document. -/
def isAllowed (c : Char) : Bool :=
  let code := c.toNat
  code == 0x09 || code == 0x0A || code == 0x0D || (0x20 ≤ code && code ≤ 0x7E) || code == 0x85 ||
    (0xA0 ≤ code && code ≤ 0xD7FF) || (0xE000 ≤ code && code ≤ 0xFFFD) || 0x10000 ≤ code

/-- The tokens of a text. A byte order mark at its very start is passed over; a character that may
not stand in a document is a fault in front of all tokens. -/
def Token.scan (cs : List Char) : TokenStream :=
  if !cs.all isAllowed then ⟨[], some .malformed⟩
  else
    let start := Scanner.start cs
    let start :=
      if cs.head? = some '\uFEFF' then { start with cursor := start.cursor.next } else start
    start.run (cs.length + 1)

end ChestMenu.Markup.Yaml
