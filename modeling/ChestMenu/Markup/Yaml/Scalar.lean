import ChestMenu.Markup.Fault
import ChestMenu.Markup.Json
import ChestMenu.Markup.Yaml.Cursor

/-!
# The text of scalars

The text of scalars in a document: plain ones, quoted ones, and blocks of lines. Line ends inside a
plain or quoted scalar fold into a space; in a block they stay as they are or fold, as its header
says.

Every scan takes the cursor at the start of the scalar and gives the text and the cursor behind it.
-/
namespace ChestMenu.Markup.Yaml

open ChestMenu.Text

/-- The text that a line end and the empty lines behind it fold into. -/
def foldBreaks (first : Char) (breaks : List Char) : List Char :=
  if first ≠ '\n' then first :: breaks
  else if breaks.isEmpty then [' ']
  else breaks

/-- Whether a plain scalar ends in front of a text: at a gap, at a colon with a gap behind it, and
inside brackets also at what separates members. -/
def plainEnds (inFlow : Bool) : List Char → Bool
  | [] => true
  | c :: rest =>
    atGap (c :: rest) ||
      (c = ':' && (atGap rest || (inFlow && rest.head?.any (",[]\x7b\x7d".toList.contains ·)))) ||
      (inFlow && ",?[]\x7b\x7d".toList.contains c)

/-- The characters up to the end of a plain scalar's word. -/
def plainWord (inFlow : Bool) : List Char → List Char
  | [] => []
  | c :: rest => if plainEnds inFlow (c :: rest) then [] else c :: plainWord inFlow rest

/-- The line ends, among spaces, that follow a first one; nothing if they lead to a separator of
documents. The first argument bounds the number of characters. -/
def plainBreaks : Nat → Cursor → Option (List Char) × Cursor
  | 0, cursor => (some [], cursor)
  | fuel + 1, cursor =>
    match cursor.rest with
    | [] => (some [], cursor)
    | c :: rest =>
      if c = ' ' then plainBreaks fuel cursor.next
      else if isBreak c then
        if atSeparator rest then (none, cursor.next)
        else
          let (breaks, behind) := plainBreaks fuel cursor.next
          (breaks.map (breakChar c :: ·), behind)
      else (some [], cursor)

/-- What lies between two words of a plain scalar: the text it folds into, the place behind it and
whether a line ended. Nothing lies there if the scalar is at its end. -/
def plainGap (cursor : Cursor) : List Char × Cursor × Bool :=
  let (spaces, cursor) := cursor.span (· = ' ')
  match cursor.rest with
  | [] => (spaces, cursor, false)
  | c :: rest =>
    if isBreak c then
      if atSeparator rest then ([], cursor.next, true)
      else
        match plainBreaks (rest.length + 1) cursor.next with
        | (none, behind) => ([], behind, true)
        | (some breaks, behind) => (foldBreaks (breakChar c) breaks, behind, true)
    else (spaces, cursor, false)

/-- Scans a plain scalar that is indented by at least `indent`. The answer also says whether the
scalar ended with its line. The first argument bounds the number of words. -/
def scanPlain (inFlow : Bool) (indent : Int) : Nat → Cursor → List Char × Cursor × Bool
  | 0, cursor => ([], cursor, false)
  | fuel + 1, cursor =>
    let word := plainWord inFlow cursor.rest
    let (gap, behind, lineEnded) := plainGap (cursor.advance word.length)
    if gap.isEmpty || behind.peek? = some '#' || (!inFlow && (behind.column : Int) < indent) ||
        plainEnds inFlow behind.rest then
      (word, behind, lineEnded)
    else
      let (more, last, lineEnded) := scanPlain inFlow indent fuel behind
      (word ++ gap ++ more, last, lineEnded)

/-- The character that an escape by letter stands for. -/
def escapedChar? : Char → Option Char
  | '0' => some '\x00'
  | 'a' => some '\x07'
  | 'b' => some '\x08'
  | 't' => some '\t'
  | '\t' => some '\t'
  | 'n' => some '\n'
  | 'v' => some '\x0b'
  | 'f' => some '\x0c'
  | 'r' => some '\r'
  | 'e' => some '\x1b'
  | ' ' => some ' '
  | '"' => some '"'
  | '\\' => some '\\'
  | '/' => some '/'
  | 'N' => some '\x85'
  | '_' => some '\xa0'
  | 'L' => some '\u2028'
  | 'P' => some '\u2029'
  | _ => none

/-- How many hexadecimal digits follow an escape by number. -/
def escapeWidth? : Char → Option Nat
  | 'x' => some 2
  | 'u' => some 4
  | 'U' => some 8
  | _ => none

/-- The number that `width` hexadecimal digits stand for. -/
private def hexNumber? (width : Nat) (cs : List Char) : Option Nat :=
  if (cs.take width).length < width then none
  else (cs.take width).foldlM (fun n c => (Json.hexValue? c).map (16 * n + ·)) 0

/-- What an escape by number stands for. A half of a surrogate pair stays one, also in front of the other
half. -/
def numbered (code : Nat) : Except Fault (List Char) :=
  if 0x80000000 ≤ code then .error (.failed .codeTooLarge)
  else if 0x110000 ≤ code then .error .malformed
  else .ok (ofCode code)

/-- The empty lines behind a line end inside quotes; a separator of documents may not stand there.
The first argument bounds the number of characters. -/
def quotedBreaks : Nat → Cursor → Except Fault (List Char × Cursor)
  | 0, _ => .error .malformed
  | fuel + 1, cursor =>
    if atSeparator cursor.rest then .error .malformed
    else
      let cursor := cursor.skip fun c => c = ' ' || c = '\t'
      match cursor.rest with
      | [] => .ok ([], cursor)
      | c :: _ =>
        if isBreak c then do
          let (breaks, behind) ← quotedBreaks fuel cursor.next
          .ok (breakChar c :: breaks, behind)
        else .ok ([], cursor)

/-- Scans the rest of a quoted scalar up to its closing quote. Between single quotes the quote is
written twice, between double quotes escapes begin with a backslash. The first argument bounds the
number of characters. -/
def scanQuoted (double : Bool) : Nat → Cursor → Except Fault (List Char × Cursor)
  | 0, _ => .error .malformed
  | fuel + 1, cursor =>
    match cursor.rest with
    | [] => .error .malformed
    | c :: rest =>
      if c = (if double then '"' else '\'') then
        if !double && rest.head? = some '\'' then do
          let (more, behind) ← scanQuoted double fuel (cursor.advance 2)
          .ok ('\'' :: more, behind)
        else .ok ([], cursor.next)
      else if double && c = '\\' then
        match rest with
        | [] => .error .malformed
        | e :: digits =>
          match escapedChar? e, escapeWidth? e with
          | some d, _ => do
            let (more, behind) ← scanQuoted double fuel (cursor.advance 2)
            .ok (d :: more, behind)
          | none, some width =>
            match hexNumber? width digits with
            | none => .error .malformed
            | some code => do
              let first ← numbered code
              let (more, behind) ← scanQuoted double fuel (cursor.advance (2 + width))
              .ok (first ++ more, behind)
          | none, none =>
            if isBreak e then do
              let (breaks, behind) ← quotedBreaks (digits.length + 1) (cursor.advance 2)
              let (more, behind) ← scanQuoted double fuel behind
              .ok (breaks ++ more, behind)
            else .error .malformed
      else if c = ' ' || c = '\t' || isBreak c then
        let (gap, cursor) := cursor.span fun c => c = ' ' || c = '\t'
        match cursor.rest with
        | [] => .error .malformed
        | b :: rest =>
          if isBreak b then do
            let (breaks, behind) ← quotedBreaks (rest.length + 1) cursor.next
            let (more, behind) ← scanQuoted double fuel behind
            .ok (foldBreaks (breakChar b) breaks ++ more, behind)
          else do
            let (more, behind) ← scanQuoted double fuel cursor
            .ok (gap ++ more, behind)
      else do
        let (more, behind) ← scanQuoted double fuel cursor.next
        .ok (c :: more, behind)

/-- What becomes of the line ends at the end of a block. -/
inductive Chomp where
  | strip
  | clip
  | keep
deriving Repr, DecidableEq

private def chompOf? : Char → Option Chomp
  | '+' => some .keep
  | '-' => some .strip
  | _ => none

/-- A step of indentation: a digit from one to nine. -/
private def stepOf? (c : Char) : Option Nat :=
  if c.isDigit && c ≠ '0' then some (c.toNat - 0x30) else none

/-- Reads the header of a block: an indicator for its end and a step of indentation, in any order. -/
def blockHeader? (cs : List Char) : Option (Chomp × Option Nat × Nat) :=
  let header : Chomp × Option Nat × Nat :=
    match cs with
    | a :: rest =>
      match chompOf? a, stepOf? a with
      | some chomp, _ =>
        match rest.head?.bind stepOf? with
        | some step => (chomp, some step, 2)
        | none => (chomp, none, 1)
      | none, some step =>
        match rest.head?.bind chompOf? with
        | some chomp => (chomp, some step, 2)
        | none => (.clip, some step, 1)
      | none, none => (.clip, none, 0)
    | [] => (.clip, none, 0)
  if atSpace (cs.drop header.2.2) then some header else none

/-- The line ends in front, and the greatest number of spaces that a line among them begins with.
The first argument bounds the number of characters. -/
def blockIndentation : Nat → Nat → Cursor → List Char × Nat × Cursor
  | 0, deepest, cursor => ([], deepest, cursor)
  | fuel + 1, deepest, cursor =>
    match cursor.rest with
    | [] => ([], deepest, cursor)
    | c :: _ =>
      if isBreak c then
        let (breaks, deepest, behind) := blockIndentation fuel deepest cursor.next
        (breakChar c :: breaks, deepest, behind)
      else if c = ' ' then
        blockIndentation fuel (max deepest cursor.next.column) cursor.next
      else ([], deepest, cursor)

/-- Skips spaces up to a column. -/
def skipIndent (indent : Nat) : Nat → Cursor → Cursor
  | 0, cursor => cursor
  | fuel + 1, cursor =>
    if cursor.column < indent && cursor.peek? = some ' ' then skipIndent indent fuel cursor.next
    else cursor

/-- The empty lines in front, with the indentation of the line behind them skipped. The first
argument bounds the number of characters. -/
def blockBreaks (indent : Nat) : Nat → Cursor → List Char × Cursor
  | 0, cursor => ([], cursor)
  | fuel + 1, cursor =>
    let cursor := skipIndent indent indent cursor
    match cursor.rest with
    | [] => ([], cursor)
    | c :: _ =>
      if isBreak c then
        let (breaks, behind) := blockBreaks indent fuel cursor.next
        (breakChar c :: breaks, behind)
      else ([], cursor)

/-- Scans the lines of a block from the start of a line's text on; `breaks` are the empty lines in
front of it. The first argument bounds the number of lines. -/
def blockLines (folded : Bool) (chomp : Chomp) (indent : Nat) :
    Nat → List Char → Cursor → List Char × Cursor
  | 0, _, cursor => ([], cursor)
  | fuel + 1, breaks, cursor =>
    let startsWithGap := cursor.rest.head?.any fun c => c = ' ' || c = '\t'
    let (line, cursor) := cursor.span (!isBreak ·)
    let ending := cursor.rest.head?.map breakChar
    let (nextBreaks, behind) := blockBreaks indent (cursor.rest.length + 1) cursor.next
    if behind.column = indent && !behind.rest.isEmpty then
      let (more, last) := blockLines folded chomp indent fuel nextBreaks behind
      let nextStartsWithGap := behind.rest.head?.any fun c => c = ' ' || c = '\t'
      let joint :=
        if folded && ending = some '\n' && !startsWithGap && !nextStartsWithGap then
          if nextBreaks.isEmpty then [' '] else []
        else ending.toList
      (breaks ++ line ++ joint ++ more, last)
    else
      let tail := (if chomp = .strip then [] else ending.toList) ++
        (if chomp = .keep then nextBreaks else [])
      (breaks ++ line ++ tail, behind)

/-- Scans a block from behind the character that announces it; `outer` is the indentation of what
the block stands in. -/
def scanBlock (folded : Bool) (outer : Int) (cursor : Cursor) : Except Fault (List Char × Cursor) :=
  match blockHeader? cursor.rest with
  | none => .error .malformed
  | some (chomp, step, size) =>
    let cursor := (cursor.advance size).skipComment
    if !atBreak cursor.rest then .error .malformed
    else
      let cursor := cursor.next
      let fuel := cursor.rest.length + 1
      let least : Nat := max 1 (outer + 1).toNat
      let (breaks, indent, start) : List Char × Nat × Cursor :=
        match step with
        | none =>
          let (breaks, deepest, behind) := blockIndentation fuel 0 cursor
          (breaks, max least deepest, behind)
        | some step =>
          let indent := least + step - 1
          let (breaks, behind) := blockBreaks indent fuel cursor
          (breaks, indent, behind)
      if start.column = indent && !start.rest.isEmpty then
        .ok (blockLines folded chomp indent fuel breaks start)
      else .ok (if chomp = .keep then breaks else [], start)

end ChestMenu.Markup.Yaml
