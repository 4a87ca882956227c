import ChestMenu.Markup.Encoding
import ChestMenu.Markup.Json
import ChestMenu.Text.Case
import ChestMenu.Text.Search

/-!
# Requests to the web host

The path of a request names a route, and a route is asked with one method. A request that asks for
something else, or whose body is no document, is answered by a status alone.
-/
namespace ChestMenu.Web

open ChestMenu.Markup ChestMenu.Text

variable [Machine]

/-- The method of a request. -/
inductive Method where
  | get
  | post
deriving Repr, DecidableEq

/-- The body of a request: a document, or a text with the type that it claims to have. -/
inductive Body where
  | empty
  | document (value : Value)
  | text (contentType : String) (cs : List Char)

/-- A request. -/
structure Request where
  method : Method
  path : String
  body : Body := .empty

/-- An answer: a status, and a document unless the answer is for people. -/
structure Response where
  status : Nat
  body : Option Value := none

/-- What can be asked of the host. -/
inductive Route where
  | index
  | menus
  | sessions
  | openMenu
  | click
  | page
  | close
  | surface (actor : String)
  | reload
  /-- A file for people, of which there are none. -/
  | asset
deriving Repr, DecidableEq

namespace Route

/-- The route that the parts of a path name. -/
def ofParts? : List String → Option Route
  | ["", ""] => some index
  | ["", "api", "menus"] => some menus
  | ["", "api", "sessions"] => some sessions
  | ["", "api", "open"] => some openMenu
  | ["", "api", "click"] => some click
  | ["", "api", "page"] => some page
  | ["", "api", "close"] => some close
  | ["", "api", "reload"] => some reload
  | ["", "api", "surface", actor] => if actor.isEmpty then none else some (surface actor)
  | "" :: "static" :: first :: _ => if first.isEmpty then none else some asset
  | _ => none

/-- The method that a route is asked with. -/
def method : Route → Method
  | index | menus | sessions | surface _ | asset => .get
  | openMenu | click | page | close | reload => .post

end Route

/-- The bytes of a path, with the escapes of a percent sign and two digits resolved. -/
def pathBytes : List UInt8 → List UInt8
  | 0x25 :: high :: low :: rest =>
    match Json.hexValue? (Char.ofNat high.toNat), Json.hexValue? (Char.ofNat low.toNat) with
    | some h, some l => UInt8.ofNat (16 * h + l) :: pathBytes rest
    | _, _ => 0x25 :: pathBytes (high :: low :: rest)
  | byte :: rest => byte :: pathBytes rest
  | [] => []

/-- An address without the name of its scheme, if it starts with one. -/
def withoutScheme (cs : List Char) : List Char :=
  let isPart (c : Char) : Bool := c.isAlphanum || c = '+' || c = '-' || c = '.'
  let (scheme, rest) := cs.span (· ≠ ':')
  match rest with
  | _ :: rest => if (scheme.head?.any Char.isAlpha) && scheme.all isPart then rest else cs
  | [] => cs

/-- What stands in an address between its scheme and host and its query. -/
def middleOf (address : List Char) : List Char :=
  let written := (address.dropWhile (· ≤ ' ')).filter fun c => c ≠ '\t' && c ≠ '\n' && c ≠ '\r'
  let behind :=
    match withoutScheme written with
    | '/' :: '/' :: rest => rest.dropWhile fun c => c ≠ '/' && c ≠ '?' && c ≠ '#'
    | rest => rest
  behind.takeWhile fun c => c ≠ '?' && c ≠ '#'

/-- The path of an address. What is left of an address without scheme and host is once more taken for
an address. -/
def pathOf (address : String) : List Char :=
  let cs := middleOf (middleOf address.toList)
  decodeLossy (pathBytes (String.ofList cs).toUTF8.toList)

/-- The parts of a path between its slashes. -/
def partsOf (path : List Char) : List String :=
  (splitOnChar '/' path).map String.ofList

/-- A path with one slash for each run of slashes. -/
def mergeSlashes : List Char → List Char
  | '/' :: tail@('/' :: _) => mergeSlashes tail
  | c :: rest => c :: mergeSlashes rest
  | [] => []

/-- The start of the paths for the transport of events. -/
def eventPath : List Char := "/socket.io/".toList

/-- The route of a request, or the status that refuses it. How many slashes a path starts with makes no
difference, and none at all sends a reader on to the index. A path with several slashes in a row
elsewhere is sent on to the path with single ones, if that is one. A path for the transport of events
is refused, since no request speaks its protocol. -/
def Request.route (request : Request) : Except Nat Route :=
  let checked (route : Route) : Except Nat Route :=
    if route.method = request.method then .ok route else .error 405
  match pathOf request.path with
  | [] => .error (if request.method = .get then 308 else 404)
  | path =>
    if eventPath.isPrefixOf path then .error 400 else
    let path := '/' :: path.dropWhile (· = '/')
    match Route.ofParts? (partsOf path) with
    | some route => checked route
    | none =>
      match Route.ofParts? (partsOf (mergeSlashes path)) with
      | some route => (checked route).bind fun _ => .error 308
      | none => .error 404

/-- Whether a type says that a text is a document. -/
def isDocumentType (contentType : String) : Bool :=
  let type := trimChars isBlank ((contentType.toList.takeWhile (· ≠ ';')).map Char.toLower)
  type = "application/json".toList ||
    ("application/".toList.isPrefixOf type && "+json".toList.isSuffixOf type)

/-- The document that a text holds, whatever its encoding, or the status that refuses it. -/
def readBytes (bs : List UInt8) : Except Nat Value :=
  match (Encoding.detect bs).decode? bs with
  | none => .error 400
  | some cs =>
    match Json.read (if cs.head? = some '\ufeff' then cs.drop 1 else cs) with
    | .ok value => .ok value
    | .error .malformed => .error 400
    | .error (.failed _) => .error 500

/-- The document of a body, or the status that refuses it. -/
def Body.read : Body → Except Nat Value
  | empty => .error 415
  | document value => .ok value
  | text contentType cs =>
    if isDocumentType contentType then readBytes (String.ofList cs).toUTF8.toList else .error 415

end ChestMenu.Web
