import ChestMenu.Failure

/-!
# Faults of documents

The reading of a document can end without a value. Either the text is no document of its format,
which the reader of a menu file reports and survives, or a scalar that claims a type breaks the
rules of that type in a way that stops the whole operation.
-/
namespace ChestMenu.Markup

/-- Why a document has no value. -/
inductive Fault where
  /-- The text is not a document of the format. -/
  | malformed
  /-- Reading broke off. -/
  | failed (cause : Failure)
deriving Repr, DecidableEq

end ChestMenu.Markup
