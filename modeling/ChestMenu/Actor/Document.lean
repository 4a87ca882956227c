import ChestMenu.Actor
import ChestMenu.Value.Member

/-!
# Actors as documents

The document of an actor is a mapping with the attributes. Every attribute is taken as it is given;
permissions may be any members that can be told apart.
-/
namespace ChestMenu.Actor

variable [Machine]

/-- An actor with the attributes that a document gives; the others stay as they are. -/
def update (actor : Actor) (document : Value) : Except Failure Actor :=
  document.entries.foldlM (fun actor (name, value) =>
    match name with
    | "id" => return { actor with id := value }
    | "name" => return { actor with name := value }
    | "health" => return { actor with health := value }
    | "level" => return { actor with level := value }
    | "permissions" => do return { actor with permissions := ← value.distinctMembers }
    | _ => return actor) actor

end ChestMenu.Actor
