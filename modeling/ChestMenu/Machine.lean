import ChestMenu.Value.Basic

/-!
# What a program finds in the machine that it runs on

Some of what a program does is not settled by its text: how deep its calls can be inside one another,
how many members a list can have, under which numbers texts are kept as keys, and in which order the
members of a set are gone through. These are the members of a `Machine`. Whatever reads one of them takes
the machine as a parameter, and what is proved of it holds on every machine.
-/
namespace ChestMenu

/-- The greatest number of members that is counted. -/
def countLimit : Nat := Nat.pow 2 63 - 1

/-- What an integer that is too long is divided by where it is the number of a key. -/
def keyDivisor : Nat := Nat.pow 2 61 - 1

/-- What a program finds in the machine that it runs on. Each kind of nesting has a bound of its own,
since each is gone through in its own way. -/
class Machine where
  /-- How many calls inside one another there is room for behind the one that reads the slots of a page
  item, which is the innermost one of the loading of a menu. -/
  calls : Nat
  /-- How many lists and mappings inside one another have a text. -/
  textNesting : Nat
  /-- How many arrays and objects inside one another a JSON document may have. -/
  jsonNesting : Nat
  /-- How many collections inside one another a YAML document may have. -/
  yamlNesting : Nat
  /-- How many default keys of a YAML document are followed one after another. -/
  yamlReach : Nat
  /-- The most members that there is room for in a list that is made of a range. -/
  room : Nat
  room_le : room ≤ countLimit
  /-- The number under which a text is kept as a key. -/
  textNumber : String → Int
  /-- The members of a set in the order in which they are gone through. -/
  arrange : List Value → List Value
  arrange_perm (xs : List Value) : (arrange xs).Perm xs

/-- A machine with the bounds that are usual. The members of a set are gone through as they were entered. -/
instance Machine.usual : Machine where
  calls := 970
  textNesting := 980
  jsonNesting := 980
  yamlNesting := 485
  yamlReach := 970
  room := Nat.pow 2 30
  room_le := by decide
  textNumber s := (s.toList.foldl (fun n c => (1000003 * n + c.toNat) % keyDivisor) 1 : Nat)
  arrange xs := xs
  arrange_perm xs := .refl xs

end ChestMenu
