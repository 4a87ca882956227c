import ChestMenu.Markup.Yaml.Literal
import ChestMenu.Markup.Yaml.Node

/-!
# The value of a document

A scalar has its value as soon as it is met. A collection is at first only a place in a table; it is
filled when everything met before it has been filled. So a collection may hold itself, and of two
faults the one met first counts.

Merge keys are replaced before a mapping is filled: the pairs of the merged mappings come in front
of its own, so that its own pairs win and keep the places that the merged ones gave their keys.

At the end each place that leads into no circle gives way to what it holds.
-/
namespace ChestMenu.Markup.Yaml

/-- What is known while a document is given its value: its nodes, of which merge keys disappear; the
values of the nodes that were met, with collections as places; the collections in the order in which
they were met; and what the collections hold. -/
structure Construction where
  nodes : Array Node
  values : Array (Option Value)
  met : Array Nat
  contents : Array Value

/-- A step that gives values to nodes. -/
abbrev Construct := ExceptT Fault (StateM Construction)

namespace Construction

/-- Nothing is known about the values of the nodes. -/
def start (nodes : Array Node) : Construction :=
  ⟨nodes, .replicate nodes.size none, #[], .replicate nodes.size .null⟩

/-- Gives up. -/
def fail {α : Type} : Construct α := throw .malformed

/-- The node at a place. -/
def nodeAt (place : Nat) : Construct Node := do
  return (← get).nodes.getD place .empty

/-- Puts a node in the place of another. -/
def setNode (place : Nat) (node : Node) : Construct Unit :=
  modify fun s => { s with nodes := s.nodes.setIfInBounds place node }

/-- The first pair whose key has a tag, with the number of pairs in front of it. -/
def findKey? (tag : Tag) : List (Nat × Nat) → Construct (Option (Nat × Nat))
  | [] => return none
  | (key, value) :: rest => do
    if (← nodeAt key).tag = tag then return some (0, value)
    else return (← findKey? tag rest).map fun (before, value) => (before + 1, value)

/-- The keys of a mapping that stand for its default are texts from now on. -/
def settleDefaults (pairs : List (Nat × Nat)) : Construct Unit :=
  pairs.forM fun (key, _) => do
    let node ← nodeAt key
    if node.tag = .defaultValue then setNode key (node.withTag .str)

/-- Replaces the merge keys of a mapping by the pairs that they bring in; of several mappings the last
comes first. `brought` are the pairs that are brought in already. Each merge key is deleted before it
is followed, and the first argument bounds their number. -/
def merge : Nat → List (Nat × Nat) → Nat → Construct Unit
  | 0, _, _ => fail
  | fuel + 1, brought, place => do
    let .mapping tag pairs ← nodeAt place | fail
    match ← findKey? .merge pairs with
    | none =>
      settleDefaults pairs
      setNode place (.mapping tag (brought ++ pairs))
    | some (before, value) =>
      setNode place (.mapping tag (pairs.eraseIdx before))
      let merged (place : Nat) : Construct (List (Nat × Nat)) := do
        merge fuel [] place
        let .mapping _ pairs ← nodeAt place | fail
        return pairs
      match ← nodeAt value with
      | .mapping .. => merge fuel (brought ++ (← merged value)) place
      | .sequence _ items =>
        let several ← items.mapM merged
        merge fuel (brought ++ several.reverse.flatten) place
      | .scalar .. => fail

/-- The text of a node that is read as a scalar. A mapping stands for what its default key holds. The
first argument bounds how many default keys are followed. -/
def scalarText : Nat → Nat → Construct String
  | 0, _ => throw (.failed .tooDeep)
  | fuel + 1, place => do
    match ← nodeAt place with
    | .scalar _ text => return text
    | .sequence .. => fail
    | .mapping _ pairs =>
      match ← findKey? .defaultValue pairs with
      | some (_, value) => scalarText fuel value
      | none => fail

variable [Machine]

/-- The value of a node. A collection is only noted, and its value is its place. -/
def valueOf (place : Nat) : Construct Value := do
  match (← get).values.getD place none with
  | some value => return value
  | none =>
    let node ← nodeAt place
    let value ←
      match node.tag with
      | .seq | .map | .set | .omap | .pairs =>
        modify fun s => { s with met := s.met.push place }
        pure (.loop place [])
      | .merge | .defaultValue | .unknown => fail
      | tag =>
        let text ← scalarText Machine.yamlReach place
        match tag, node with
        | .timestamp, .mapping .. => throw (.failed (.notText "list"))
        | _, _ => readScalar tag text
    modify fun s => { s with values := s.values.setIfInBounds place (some value) }
    return value

/-- The values of the pairs of a mapping, whose keys have to be fit for it. -/
def pairsOf (pairs : List (Nat × Nat)) : Construct (List (Value × Value)) :=
  pairs.foldlM (fun entered (key, value) => do
    let key ← valueOf key
    if key.keyFault?.isSome then fail
    return Value.insertPair key (← valueOf value) entered) []

/-- The values of the pairs that mappings of one pair each hold. -/
def singlePairsOf (items : List Nat) : Construct (List Value) :=
  items.mapM fun item => do
    let .mapping _ [(key, value)] ← nodeAt item | fail
    let key ← valueOf key
    return .tuple [key, ← valueOf value]

/-- The pairs of a mapping without merge keys. -/
def mergedPairs (place : Nat) : Construct (List (Nat × Nat)) := do
  let .mapping .. ← nodeAt place | fail
  let s ← get
  let keys := s.nodes.foldl (fun count node =>
    match node with
    | .mapping _ pairs => count + pairs.length
    | _ => count) 0
  merge (keys + 1) [] place
  let .mapping _ pairs ← nodeAt place | fail
  return pairs

/-- What a collection holds, with the collections in it as places. -/
def contentOf (place : Nat) : Construct Value := do
  match ← nodeAt place with
  | .mapping .map _ => return .map (← pairsOf (← mergedPairs place))
  | .mapping .set _ => return .set (Machine.arrange ((← pairsOf (← mergedPairs place)).map (·.1)))
  | .sequence .seq items => return .list (← items.mapM valueOf)
  | .sequence .omap items | .sequence .pairs items => return .list (← singlePairsOf items)
  | _ => fail

/-- Fills the collections in the order in which they are met. The first argument counts those that are
filled, the second bounds their number. -/
def fill (filled : Nat) : Nat → Construct Unit
  | 0 => return
  | fuel + 1 => do
    match (← get).met[filled]? with
    | none => return
    | some place =>
      let content ← contentOf place
      modify fun s => { s with contents := s.contents.setIfInBounds place content }
      fill (filled + 1) fuel

end Construction

/-- Notes what the places hold whose members are all known, from the last place to the first. -/
def settleOnce (contents : Array Value) (known : Array (Option Value)) : Array (Option Value) :=
  (List.range contents.size).foldr (fun place known =>
    if (known.getD place none).isSome then known
    else known.setIfInBounds place ((contents.getD place .null).replacePlaces (known.getD · none)))
    known

/-- What the places hold that lead into no circle. An alias is written behind its anchor, so there are
no more rounds than aliases that build on one another; the first argument bounds them. -/
def settle (contents : Array Value) : Nat → Array (Option Value) → Array (Option Value)
  | 0, known => known
  | fuel + 1, known =>
    let more := settleOnce contents known
    if more.countP Option.isSome = known.countP Option.isSome then known
    else settle contents fuel more

/-- The value with what its places hold. A place that leads into a circle stays a place in a table. -/
def unfold (contents : Array Value) (value : Value) : Value :=
  let known := settle contents contents.size (.replicate contents.size none)
  let put (table : List Value) (place : Nat) : Value := (known.getD place none).getD (.loop place table)
  let table := contents.toList.map fun content => Id.run (content.replacePlaces (put []))
  Id.run (value.replacePlaces (put table))

variable [Machine]

/-- The value of the document whose nodes these are. -/
def NodeTable.value (table : NodeTable) : Except Fault Value := do
  let construct : Construct Value := do
    let value ← Construction.valueOf table.root
    Construction.fill 0 table.nodes.size
    return value
  let (value, s) := construct.run.run (.start table.nodes)
  return unfold s.contents (← value)

/-- The value of the only document of a text; null if there is none. -/
def read (cs : List Char) : Except Fault Value := do
  match ← NodeTable.ofTokens? (Token.scan cs) with
  | none => return .null
  | some table => table.value

end ChestMenu.Markup.Yaml
