import ChestMenu.Context.Discovery
import ChestMenu.Notice

/-!
# Ledgers

A ledger is what placeholders need to know of an engine while they are resolved, and what they leave
behind: the notices of what failed, how often each counting resolver was asked, and the accessors of
the context types that were looked at.
-/
namespace ChestMenu

/-- The number of open menus, and the traces of resolving placeholders. -/
structure Ledger where
  openMenus : Nat := 0
  notices : List Notice := []
  counts : List (Nat × Nat) := []
  accessors : Discovery.Cache := []

/-- A step that resolves placeholders. -/
abbrev Resolving := StateM Ledger

/-- Leaves a notice. -/
def Resolving.note (notice : Notice) : Resolving Unit :=
  modify fun ledger => { ledger with notices := ledger.notices ++ [notice] }

/-- Counts one more call of a counting resolver, and gives the number of its calls. -/
def Resolving.count (counter : Nat) : Resolving Nat := do
  let ledger ← get
  let n := (ledger.counts.lookup counter).getD 0 + 1
  set { ledger with counts := (counter, n) :: ledger.counts.filter (·.1 != counter) }
  return n

/-- Uses the cache of accessors. -/
def Resolving.withAccessors {α : Type} (use : Discovery.Cache → α × Discovery.Cache) :
    Resolving α := do
  let ledger ← get
  let (result, accessors) := use ledger.accessors
  set { ledger with accessors }
  return result

end ChestMenu
