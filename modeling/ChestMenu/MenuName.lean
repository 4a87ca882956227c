import ChestMenu.Text.Case
import ChestMenu.Text.Search

/-!
# Names of menus

A menu may be named by its id or by a file it could be read from; the id of a file is the last part
of its path without the ending. Ids that differ only in case name one menu, so what is filed under
an id is filed under its `key`.
-/
namespace ChestMenu.MenuName

open ChestMenu.Text

/-- The endings of menu files, in lower case. -/
def endings : List String := [".yml", ".yaml", ".json"]

/-- The last part of a path. Empty parts and parts of one dot do not count. -/
def lastPart (path : List Char) : List Char :=
  (((splitOnChar '/' path).filter fun part => part ≠ [] && part ≠ ['.']).getLast?).getD []

/-- Cuts a file name in front of its last dot; a dot at either end of the name cuts nothing. -/
def stemAndEnding (name : List Char) : List Char × List Char :=
  let behind := (name.reverse.takeWhile (· ≠ '.')).reverse
  let stem := name.take (name.length - behind.length - 1)
  if behind.isEmpty || stem.isEmpty || behind.length = name.length then (name, [])
  else (stem, '.' :: behind)

/-- The ending of a file name. -/
def ending (name : String) : String :=
  String.ofList (stemAndEnding (lastPart name.toList)).2

/-- A file name without its ending. -/
def stem (name : String) : String :=
  String.ofList (stemAndEnding (lastPart name.toList)).1

/-- Whether a file is a menu file, by its ending in any case. -/
def isMenuFile (name : String) : Bool :=
  endings.contains (lower (ending name))

/-- The id that a name stands for. -/
def toId (name : String) : String :=
  if isMenuFile name then stem name else name

/-- What an id is filed under, whatever its case. -/
def key (id : String) : String := lower id

/-- The last part of a path is a part of it. -/
theorem lastPart_sublist (path : List Char) : (lastPart path).Sublist path := by
  unfold lastPart
  cases last : ((splitOnChar '/' path).filter fun part => part ≠ [] && part ≠ ['.']).getLast? with
  | none => exact List.nil_sublist path
  | some part =>
    exact sublist_of_mem_splitOnChar ((List.mem_filter.mp (List.mem_of_getLast? last)).1)

/-- Without an ending a name is shorter than with it. So cutting endings off comes to an end. -/
theorem stem_sublist {name : List Char} (ends : (stemAndEnding name).2 ≠ []) :
    (stemAndEnding name).1.Sublist name ∧ (stemAndEnding name).1.length < name.length := by
  unfold stemAndEnding at ends ⊢
  dsimp only at ends ⊢
  split at ends
  · simp at ends
  · rename_i cut
    rw [if_neg cut]
    have notEmpty : 0 < name.length := by
      cases name with
      | nil => simp at cut
      | cons c cs => simp
    refine ⟨List.take_sublist _ _, ?_⟩
    rw [List.length_take]
    omega

/-- A name of a menu file stands for an id that is filed under another key than the name itself. -/
theorem key_toId_ne {name : String} (isFile : isMenuFile name = true) : key (toId name) ≠ key name := by
  have ends : (stemAndEnding (lastPart name.toList)).2 ≠ [] := by
    intro none
    unfold isMenuFile ending at isFile
    rw [none] at isFile
    exact absurd isFile (by decide)
  obtain ⟨sub, less⟩ := stem_sublist ends
  have part := lastPart_sublist name.toList
  have shorter := length_lowerChars_lt (sub.trans part) (Nat.lt_of_lt_of_le less part.length_le)
  intro same
  unfold toId at same
  rw [if_pos isFile] at same
  have equal := congrArg (·.toList.length) same
  unfold key lower stem at equal
  simp only [String.toList_ofList] at equal
  omega

end ChestMenu.MenuName
