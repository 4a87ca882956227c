import ChestMenu.Machine
import ChestMenu.Markup.Yaml.Tag
import ChestMenu.Markup.Yaml.Token

/-!
# Nodes

The nodes of a document are scalars, sequences and mappings, each with its tag. The nodes stand in a
table, and the members of a collection are places in it. An alias is the place of the node that its
anchor names. An anchor comes before its aliases and names a collection from its start on, so that a
collection may be a member of itself.

Nodes are put together from tokens. Collections may be nested as deep as the machine has room for.
-/
namespace ChestMenu.Markup.Yaml

/-- A node of a document, whose members are places in a table. -/
inductive Node where
  | scalar (tag : Tag) (text : String)
  | sequence (tag : Tag) (items : List Nat)
  | mapping (tag : Tag) (pairs : List (Nat × Nat))
deriving Repr

namespace Node

/-- The empty scalar, which stands wherever a node is left out. -/
def empty : Node := .scalar .null ""

/-- The tag of a node. -/
def tag : Node → Tag
  | scalar tag _ | sequence tag _ | mapping tag _ => tag

/-- The node with another tag. -/
def withTag (tag : Tag) : Node → Node
  | scalar _ text => scalar tag text
  | sequence _ items => sequence tag items
  | mapping _ pairs => mapping tag pairs

end Node

/-- The nodes of a document, with the place of the one that holds the others. -/
structure NodeTable where
  nodes : Array Node
  root : Nat
deriving Repr

/-- What is known while nodes are put together: the tokens to come, the fault behind them, the places
of the anchored nodes, what the handles of tags stand for, and the nodes so far. -/
structure Composer where
  tokens : List Token
  fault : Option Fault
  anchors : List (String × Nat)
  handles : List (String × String)
  nodes : Array Node

/-- A step that puts nodes together. -/
abbrev Compose := StateT Composer (Except Fault)

namespace Composer

/-- The handles that need no directive. -/
def usualHandles : List (String × String) := [("!", "!"), ("!!", Tag.coreStart)]

/-- The composer in front of the tokens of a text. -/
def start (stream : TokenStream) : Composer :=
  ⟨stream.tokens, stream.fault, [], usualHandles, #[]⟩

/-- The next token, which stays where it is; nothing at the end of the text. -/
def peek? : Compose (Option Token) := do
  let s ← get
  match s.tokens, s.fault with
  | token :: _, _ => return some token
  | [], none => return none
  | [], some fault => throw fault

/-- Drops the next token. -/
def drop : Compose Unit :=
  modify fun s => { s with tokens := s.tokens.tail }

/-- Drops the next token if it is the given one, and says so. -/
def take? (token : Token) : Compose Bool := do
  if (← peek?) = some token then
    drop
    return true
  else return false

/-- Whether the next token is one of those given. The end of the text is none. -/
def isNext (tokens : List Token) : Compose Bool := do
  return (← peek?).any tokens.contains

/-- Gives up. -/
def fail {α : Type} : Compose α := throw .malformed

/-- The full name of a tag that was written with a handle or without. -/
def tagName (handle : Option String) (suffix : String) : Compose String := do
  match handle with
  | none => return suffix
  | some handle =>
    match (← get).handles.lookup handle with
    | some start => return start ++ suffix
    | none => fail

/-- Reads an anchor, if one comes next. -/
def anchor? : Compose (Option String) := do
  match ← peek? with
  | some (.anchor name) =>
    drop
    return some name
  | _ => return none

/-- Reads a tag as it is written, if one comes next. -/
def tag? : Compose (Option (Option String × String)) := do
  match ← peek? with
  | some (.tag handle suffix) =>
    drop
    return some (handle, suffix)
  | _ => return none

/-- Reads the properties of a node, an anchor and a tag in any order. -/
def properties : Compose (Option String × Option String) := do
  let first ← anchor?
  let tag ← tag?
  let anchor ← if first.isNone && tag.isSome then anchor? else pure first
  match tag with
  | some (handle, suffix) => return (anchor, some (← tagName handle suffix))
  | none => return (anchor, none)

/-- Adds a node and gives its place, which its anchor names from now on. A name is used for one anchor
only. -/
def add (anchor : Option String) (node : Node) : Compose Nat := do
  let s ← get
  match anchor with
  | some name =>
    if (s.anchors.lookup name).isSome then fail
    set { s with nodes := s.nodes.push node, anchors := (name, s.nodes.size) :: s.anchors }
  | none => set { s with nodes := s.nodes.push node }
  return s.nodes.size

/-- The place of a node that is left out. -/
def omitted : Compose Nat := add none .empty

/-- Adds a collection, whose place is known before its members are read. `room` is how many collections
may still be nested here. -/
def collect {α : Type} (anchor : Option String) (room : Nat) (ofMembers : List α → Node)
    (members : Nat → Compose (List α)) : Compose Nat := do
  match room with
  | 0 => throw (.failed .tooDeep)
  | room + 1 =>
    let place ← add anchor (ofMembers [])
    let found ← members room
    modify fun s => { s with nodes := s.nodes.setIfInBounds place (ofMembers found) }
    return place

/-- The tag of a scalar. A lone exclamation mark leaves the choice to the form of the text, as does
a plain scalar without a tag. -/
def scalarTag (tag : Option String) (plain : Bool) (text : String) : Tag :=
  match tag with
  | some "!" => .ofPlain text
  | some name => .ofName name
  | none => if plain then .ofPlain text else .str

/-- The tag of a collection. -/
def collectionTag (tag : Option String) (usual : Tag) : Tag :=
  match tag with
  | none | some "!" => usual
  | some name => .ofName name

-- The last argument of each reading bounds it.
mutual

/-- Reads a node and gives its place. `block` says that a block may start here, `indentless` that the
entries of a sequence may stand here without a block of their own. -/
def node (block indentless : Bool) (room : Nat) : Nat → Compose Nat
  | 0 => fail
  | fuel + 1 => do
    match ← peek? with
    | some (.alias name) =>
      drop
      match (← get).anchors.lookup name with
      | some place => return place
      | none => fail
    | _ =>
      let (anchor, tag) ← properties
      let ofItems := Node.sequence (collectionTag tag .seq)
      let ofPairs := Node.mapping (collectionTag tag .map)
      match ← peek? with
      | some (.scalar text plain) =>
        drop
        add anchor (.scalar (scalarTag tag plain text) text)
      | some .flowSequenceStart =>
        collect anchor room ofItems fun room => do
          drop
          flowItems room true fuel
      | some .flowMappingStart =>
        collect anchor room ofPairs fun room => do
          drop
          flowPairs room true fuel
      | next =>
        if indentless && next = some .blockEntry then
          collect anchor room ofItems fun room => indentlessItems room fuel
        else if block && next = some .blockSequenceStart then
          collect anchor room ofItems fun room => do
            drop
            blockItems room fuel
        else if block && next = some .blockMappingStart then
          collect anchor room ofPairs fun room => do
            drop
            blockPairs room fuel
        else if anchor.isSome || tag.isSome then
          add anchor (.scalar (scalarTag tag true "") "")
        else fail
termination_by structural fuel => fuel

/-- Reads the items of a sequence in block form up to the end of the block. -/
def blockItems (room : Nat) : Nat → Compose (List Nat)
  | 0 => fail
  | fuel + 1 => do
    if ← take? .blockEntry then
      let item ←
        if ← isNext [.blockEntry, .blockEnd] then omitted else node true false room fuel
      return item :: (← blockItems room fuel)
    else if ← take? .blockEnd then return []
    else fail
termination_by structural fuel => fuel

/-- Reads the items of a sequence that has no block of its own. -/
def indentlessItems (room : Nat) : Nat → Compose (List Nat)
  | 0 => fail
  | fuel + 1 => do
    if ← take? .blockEntry then
      let item ←
        if ← isNext [.blockEntry, .key, .value, .blockEnd] then omitted
        else node true false room fuel
      return item :: (← indentlessItems room fuel)
    else return []
termination_by structural fuel => fuel

/-- Reads the pairs of a mapping in block form up to the end of the block. -/
def blockPairs (room : Nat) : Nat → Compose (List (Nat × Nat))
  | 0 => fail
  | fuel + 1 => do
    let closing := [Token.key, .value, .blockEnd]
    if ← take? .key then
      let key ← if ← isNext closing then omitted else node true true room fuel
      let value ←
        if ← take? .value then
          if ← isNext closing then omitted else node true true room fuel
        else omitted
      return (key, value) :: (← blockPairs room fuel)
    else if ← take? .blockEnd then return []
    else fail
termination_by structural fuel => fuel

/-- Reads a key in brackets or braces and the value behind its colon; `closing` are the tokens that
may stand where one of them is left out. -/
def flowPair (room : Nat) (closing : List Token) : Nat → Compose (Nat × Nat)
  | 0 => fail
  | fuel + 1 => do
    let key ← if ← isNext (.value :: closing) then omitted else node false false room fuel
    let value ←
      if ← take? .value then
        if ← isNext closing then omitted else node false false room fuel
      else omitted
    return (key, value)
termination_by structural fuel => fuel

/-- Reads the items of a sequence in brackets; a pair among them is a mapping of its own. -/
def flowItems (room : Nat) (first : Bool) : Nat → Compose (List Nat)
  | 0 => fail
  | fuel + 1 => do
    if ← take? .flowSequenceEnd then return []
    if !first then
      if !(← take? .flowEntry) then fail
    if ← isNext [.key] then
      let item ← collect none room (Node.mapping .map) fun room => do
        drop
        return [← flowPair room [.flowEntry, .flowSequenceEnd] fuel]
      return item :: (← flowItems room false fuel)
    else if ← take? .flowSequenceEnd then return []
    else
      let item ← node false false room fuel
      return item :: (← flowItems room false fuel)
termination_by structural fuel => fuel

/-- Reads the pairs of a mapping in braces; a key without a colon has the empty value. -/
def flowPairs (room : Nat) (first : Bool) : Nat → Compose (List (Nat × Nat))
  | 0 => fail
  | fuel + 1 => do
    if ← take? .flowMappingEnd then return []
    if !first then
      if !(← take? .flowEntry) then fail
    if ← take? .key then
      let pair ← flowPair room [.flowEntry, .flowMappingEnd] fuel
      return pair :: (← flowPairs room false fuel)
    else if ← take? .flowMappingEnd then return []
    else
      let key ← node false false room fuel
      let pair := (key, ← omitted)
      return pair :: (← flowPairs room false fuel)
termination_by structural fuel => fuel

end

/-- Reads the directives in front of a document: at most one version, which has to be of the first
generation, and one meaning for each handle. The last argument bounds their number. -/
def directives (versioned : Bool) (declared : List (String × String)) : Nat → Compose Unit
  | 0 => fail
  | fuel + 1 => do
    match ← peek? with
    | some (.versionDirective major) =>
      drop
      if versioned || major ≠ 1 then fail
      directives true declared fuel
    | some (.tagDirective handle start) =>
      drop
      if (declared.lookup handle).isSome then fail
      directives versioned ((handle, start) :: declared) fuel
    | some .otherDirective =>
      drop
      directives versioned declared fuel
    | _ => modify fun s => { s with handles := declared ++ usualHandles }

/-- Whether a token begins or ends a document. -/
def isBoundary : Token → Bool
  | .versionDirective _ | .tagDirective .. | .otherDirective | .documentStart | .documentEnd => true
  | _ => false

/-- Reads the mark behind the directives of a document. -/
def openDocument (fuel : Nat) : Compose Unit := do
  directives false [] fuel
  if !(← take? .documentStart) then fail

/-- Drops the marks at the end of a document. The argument bounds their number. -/
def closeDocument : Nat → Compose Unit
  | 0 => fail
  | fuel + 1 => do
    if ← take? .documentEnd then closeDocument fuel

/-- Reads the only document of a text and gives the place of its root; nothing if there is none. The
argument bounds the reading. -/
def document [Machine] (fuel : Nat) : Compose (Option Nat) := do
  match ← peek? with
  | none => return none
  | some next =>
    let isMarked := isBoundary next && next ≠ .documentEnd
    if isMarked then openDocument fuel
    let root ←
      if isMarked && (← peek?).all isBoundary then omitted
      else node true false Machine.yamlNesting fuel
    closeDocument fuel
    if (← peek?).isSome then
      openDocument fuel
      fail
    return some root

end Composer

/-- The nodes of the only document of a text; nothing if there is none. -/
def NodeTable.ofTokens? [Machine] (stream : TokenStream) : Except Fault (Option NodeTable) := do
  let fuel := 2 * stream.tokens.length + 4
  let (root, s) ← (Composer.document fuel).run (.start stream)
  return root.map fun root => ⟨s.nodes, root⟩

end ChestMenu.Markup.Yaml
