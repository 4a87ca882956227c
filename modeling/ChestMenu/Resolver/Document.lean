import ChestMenu.Resolver
import ChestMenu.Value.Member

/-!
# Resolvers as documents

The document of a resolver is a mapping whose only member names the kind of the resolver and holds
what it needs. Any other value stands for no resolver and cannot be asked.

Counting resolvers are numbered in the order in which they are read, so that no two count together.
-/
namespace ChestMenu.Resolver

mutual

/-- The resolver that a document describes. The state is the number of the next counting resolver. -/
def ofDocument : Value → StateM Nat Resolver
  | .map [(.text "cat", .list parts)] => return joined (← ofDocuments parts)
  | .map [(.text word, argument)] => do
    match word, argument with
    | "const", value => return const value
    | "raise", message => return raise message.label
    | "actor", name => return actorAttribute name.label
    | "level_at_least", .list [level, atLeast, below] =>
      return levelAtLeast level.integer atLeast below
    | "counter", _ => return counter (← modifyGet fun next => (next, next + 1))
    | "ctx", name => return contextField name.label
    | "page_is", page => return pageIs page.integer
    | _, _ => return uncallable "dict"
  | v => return uncallable v.typeName

/-- The resolvers that several documents describe. -/
def ofDocuments : List Value → StateM Nat (List Resolver)
  | [] => return []
  | document :: documents => do
    let first ← ofDocument document
    return first :: (← ofDocuments documents)

end

end ChestMenu.Resolver
