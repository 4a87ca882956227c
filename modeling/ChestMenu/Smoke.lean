import ChestMenu.Value.Text

/-!
# A smoke check of a web host

The check makes four requests, one after another, and prints a line or two about what came back of
each. If the first request finds no host, the check ends there; what fails later is told and keeps
no other request from being made.
-/
namespace ChestMenu.Smoke

variable [Machine]

/-- A request of the check. -/
structure Request where
  method : String
  url : String
  body : Option Value := none

/-- What comes of a request: an answer, no host, or some other failure. -/
inductive Reply where
  | answered (status : Value) (body : Value)
  | unreachable (reason : String)
  | failed (message : String)

/-- How a check can break off. -/
inductive Fault where
  /-- The request failed. -/
  | failed (message : String)
  /-- There is no reply left. -/
  | noReply
  /-- A value of the type has no length. -/
  | noLength (typeName : String)
  /-- A value of the type has no members. -/
  | noMembers (typeName : String)

/-- The text of a fault. -/
def Fault.message : Fault → String
  | failed message => message
  | noReply => "pop from empty list"
  | noLength typeName => "object of type '" ++ typeName ++ "' has no len()"
  | noMembers typeName => "'" ++ typeName ++ "' object has no attribute 'get'"

/-- The requests that were made, the lines that were printed and the replies that are left. -/
structure Transcript where
  requests : List Request := []
  lines : List String := []
  replies : List Reply := []

/-- A step of the check. -/
abbrev Check := ExceptT Fault (StateM Transcript)

/-- The address of the host that is checked if none is given. -/
def usualBase : String := "http://localhost:5000"

/-- The actor of the check. -/
def actor : String := "smoke-actor"

/-- The requests of the check, in order. -/
def requests (base : String) : List Request :=
  let post (path : String) (members : List (String × Value)) : Request :=
    ⟨"POST", base ++ path, some (.ofMembers members)⟩
  [⟨"GET", base ++ "/api/menus", none⟩,
    post "/api/open"
      [("actor", .ofMembers [("id", .text actor), ("name", .text "Smoke"), ("level", .int 3)]),
        ("menu", .text "shop"), ("context", .ofMembers [("gold", .int 100)])],
    post "/api/click" [("actor_id", .text actor), ("slot", .int 13)],
    post "/api/close" [("actor_id", .text actor)]]

/-- Prints a line. -/
def printLine (line : String) : Check Unit :=
  modify fun transcript => { transcript with lines := transcript.lines ++ [line] }

/-- Makes a request and gives the reply. -/
def send (request : Request) : Check Reply := do
  let transcript ← get
  set { transcript with
    requests := transcript.requests ++ [request], replies := transcript.replies.drop 1 }
  match transcript.replies with
  | reply :: _ => return reply
  | [] => throw .noReply

/-- A member of a body; nothing if the body has none of the name. -/
def member? (body : Value) (name : String) : Check (Option Value) :=
  match body with
  | .map pairs => return Value.lookup? name pairs
  | v => throw (.noMembers v.typeName)

/-- A member of a body, or null. -/
def member (body : Value) (name : String) : Check Value := do
  return (← member? body name).getD .null

/-- The number of members of a body. -/
def length (body : Value) : Check Nat :=
  match body with
  | .text s => return s.length
  | .list xs => return xs.length
  | .map pairs => return pairs.length
  | v => throw (.noLength v.typeName)

/-- Whether a status says that all is well. -/
def isFine (status : Value) : Bool :=
  status.sameKey (.int 200)

/-- What is told of an endpoint that works. -/
def working (endpoint : String) : Check Unit :=
  printLine ("✓ " ++ endpoint ++ " endpoint working")

/-- What is told of an endpoint that answers with another status. -/
def notWorking (endpoint : String) (status : Value) : Check Unit :=
  printLine ("✗ " ++ endpoint ++ " endpoint failed with status " ++ status.label)

/-- Checks the list of menus, and tells whether there is a host. -/
def checkMenus (request : Request) : Check Bool := do
  match ← send request with
  | .unreachable _ =>
    printLine "✗ Could not connect to server. Is it running?"
    return false
  | .failed message => throw (.failed message)
  | .answered status body =>
    if isFine status then
      working "Menus"
      printLine ("  Found " ++ Number.naturalText (← length body) ++ " menus")
    else notWorking "Menus" status
    return true

/-- Makes a request and looks at the answer; whatever fails is told. -/
def checkEndpoint (word : String) (request : Request) (look : Value → Value → Check Unit) :
    Check Unit :=
  let attempt : Check Unit := do
    match ← send request with
    | .answered status body => look status body
    | .unreachable message | .failed message => throw (.failed message)
  tryCatch attempt fun fault =>
    printLine ("✗ Error testing " ++ word ++ " endpoint: " ++ fault.message)

/-- Looks at the answer to opening a menu. -/
def lookAtOpening (status body : Value) : Check Unit := do
  if isFine status then
    let surface ← member body "surface"
    let surface := if surface.truthy then surface else .map []
    working "Open"
    let title ← member? surface "title"
    printLine ("  Title: " ++ (title.map Value.label).getD "N/A")
  else notWorking "Open" status

/-- Looks at the answer to a click. -/
def lookAtClick (status body : Value) : Check Unit := do
  if isFine status then
    working "Click"
    printLine ("  Executed: " ++ (← member body "executed").label)
  else notWorking "Click" status

/-- Looks at the answer to closing a menu. -/
def lookAtClosing (status body : Value) : Check Unit := do
  let closed ← if isFine status then do pure (← member body "success").truthy else pure false
  if closed then working "Close" else notWorking "Close" status

/-- The whole check. -/
def check (base : String) : Check Unit := do
  match requests base with
  | [menus, opening, click, closing] =>
    if ← checkMenus menus then
      checkEndpoint "open" opening lookAtOpening
      checkEndpoint "click" click lookAtClick
      checkEndpoint "close" closing lookAtClosing
  | _ => return ()

/-- Runs the check on replies: what was asked and printed, and the fault that ended it if there is
one. -/
def run (base : String) (replies : List Reply) : Transcript × Option Fault :=
  match (check base).run.run { replies } with
  | (.ok _, transcript) => (transcript, none)
  | (.error fault, transcript) => (transcript, some fault)

end ChestMenu.Smoke
