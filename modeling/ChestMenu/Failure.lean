/-!
# Failures

A failure is the cause for which an operation is refused or breaks off, and each has a text. A cause
is either a rule of this library that was not kept, a value of the wrong kind, or a failure that a
registered callback chose to report.
-/
namespace ChestMenu

/-- The kinds of failure that a callback can report. -/
inductive ReportedKind where
  | runtime
  | value
  | type
  | lookup
deriving Repr, DecidableEq

/-- Why an operation was refused or broke off. -/
inductive Failure where
  /-- A text or a number is not the numeral that is needed. -/
  | notANumeral (shown : String)
  /-- An infinite number has no integer part. -/
  | infiniteNumber
  /-- An integer is out of the range of floating-point numbers. -/
  | numberTooLarge
  /-- An integer has more digits than are ever written. -/
  | numeralTooLong
  /-- The number of a character is beyond every table of characters. -/
  | codeTooLarge
  /-- There are more members than can be counted. -/
  | tooManyMembers
  /-- There is no room for so many members. -/
  | noRoom
  /-- A text is no decimal, or an operation on decimals is undefined. -/
  | notADecimal
  /-- A decimal is too large to be kept. -/
  | decimalTooLarge
  /-- A numeral without a character. -/
  | emptyNumeral
  /-- A list has no member at the place that is asked for. -/
  | noSuchPlace
  /-- What is written or gone through is nested too deeply. -/
  | tooDeep
  /-- A file does not exist. -/
  | fileMissing (name : String)
  /-- A scalar that claims to be a truth value is no word for one. -/
  | notATruthWord (shown : String)
  /-- A scalar that claims to be a time has not the form of one. -/
  | notATime
  /-- A value of this type is taken for a text. -/
  | notText (typeName : String)
  /-- A value of this type is to take the place of a token. -/
  | notReplaceable (typeName : String)
  /-- A value of this type is no number. -/
  | notNumeric (typeName : String)
  /-- A value of this type has no members to go through. -/
  | notIterable (typeName : String)
  /-- Members that are not pairs cannot make up a mapping. -/
  | notPairs
  /-- A mapping lacks the key. -/
  | missingKey (key : String)
  /-- An object lacks the attribute, or the attribute cannot be set. -/
  | missingAttribute (name : String)
  /-- A value of this type cannot be called, or not with these arguments. -/
  | notCallable (typeName : String)
  /-- A value of this type cannot be the key of a mapping. -/
  | unhashable (typeName : String)
  /-- Values of these types cannot be added or joined. -/
  | mismatchedTypes (first second : String)
  /-- The text, the truth or the size of an object is not of the type that it has to be of. -/
  | badAnswer (method typeName : String)
  /-- The bases of a class have no common order. -/
  | inconsistentBases (className : String)
  /-- The bases of a class, or a base and its stored attributes, cannot make up one object. -/
  | incompatibleBases (className : String)
  /-- Objects of a class cannot be made without what its base needs. -/
  | cannotInstantiate (className : String)
  /-- A class stores an attribute under the name of one of its items. -/
  | storeConflict (name : String)
  /-- The value of a data field would be shared by all objects of its class and can change. -/
  | sharedDefault (name : String)
  /-- A data field without a value follows one that has a value. -/
  | fieldWithoutDefault (name : String)
  /-- A resolver of placeholders is not callable. -/
  | resolverNotCallable (name : String)
  /-- A resolver for a context type is not callable. -/
  | contextResolverNotCallable (name : String)
  /-- A named handler is not callable. -/
  | handlerNotCallable (name : String)
  /-- A slot callback is not callable. -/
  | slotCallbackNotCallable (menu : String) (slot : Int)
  /-- A handler of clicks in the player's inventory is not callable. -/
  | inventoryHandlerNotCallable (menu : String)
  /-- The registry of that name is not asked in this scope. -/
  | scopeNotConsulted (registry scope : String)
  /-- A handler in this scope needs a key. -/
  | scopeKeyMissing (scope : String)
  /-- The scopes listed are not known. -/
  | unknownHandlerScopes (shown : String)
  /-- A placeholder for a menu needs the id of the menu. -/
  | menuPlaceholderKeyMissing
  /-- A placeholder for an actor needs the id of the actor. -/
  | actorPlaceholderKeyMissing
  /-- A scope of placeholders that is not known. -/
  | unknownPlaceholderScope (scope : String)
  /-- The slots of a refresh policy are integers. -/
  | refreshSlotNotInteger (shown : String)
  /-- The session holds no context of the type that is needed. -/
  | contextMissing (typeName actor : String)
  /-- The output does not take a text that is to be printed. -/
  | unwritable
  /-- The capacity of a record of effects is negative. -/
  | negativeCapacity
  /-- A callback reported a failure. -/
  | reported (kind : ReportedKind) (message : String)
deriving Repr, DecidableEq

/-- The text of a failure. -/
def Failure.message : Failure → String
  | .notANumeral shown => "not a numeral: " ++ shown
  | .infiniteNumber => "cannot convert float infinity to integer"
  | .numberTooLarge => "int too large to convert to float"
  | .numeralTooLong =>
    "Exceeds the limit (4300 digits) for integer string conversion; " ++
      "use sys.set_int_max_str_digits() to increase the limit"
  | .codeTooLarge => "Python int too large to convert to C int"
  | .tooManyMembers => "Python int too large to convert to C ssize_t"
  | .noRoom => ""
  | .notADecimal => "not a decimal"
  | .decimalTooLarge => "the decimal is too large"
  | .emptyNumeral => "string index out of range"
  | .noSuchPlace => "list index out of range"
  | .tooDeep => "maximum recursion depth exceeded"
  | .fileMissing name => "No such file or directory: '" ++ name ++ "'"
  | .notATruthWord shown => shown
  | .notATime => "'NoneType' object has no attribute 'groupdict'"
  | .notText typeName => "expected string or bytes-like object, got '" ++ typeName ++ "'"
  | .notReplaceable typeName => "replace() argument 2 must be str, not " ++ typeName
  | .notNumeric typeName => "'" ++ typeName ++ "' is not a number"
  | .notIterable typeName => "'" ++ typeName ++ "' object is not iterable"
  | .notPairs => "the members are not pairs"
  | .missingKey key => key
  | .missingAttribute name => "no attribute '" ++ name ++ "'"
  | .notCallable typeName => "'" ++ typeName ++ "' object is not callable"
  | .unhashable typeName => "unhashable type: '" ++ typeName ++ "'"
  | .mismatchedTypes first second => "'" ++ first ++ "' does not go with '" ++ second ++ "'"
  | .badAnswer method typeName => method ++ " answers with a value of type " ++ typeName
  | .inconsistentBases className => "the bases of " ++ className ++ " have no common order"
  | .incompatibleBases className => "the bases of " ++ className ++ " do not go together"
  | .cannotInstantiate className => "no object of " ++ className ++ " can be made without arguments"
  | .storeConflict name => "'" ++ name ++ "' is stored and an item of the class"
  | .sharedDefault name => "the value of the field " ++ name ++ " can change"
  | .fieldWithoutDefault name => "the field " ++ name ++ " follows a field that has a value"
  | .resolverNotCallable name => "Placeholder resolver for " ++ name ++ " is not callable"
  | .contextResolverNotCallable name => "Context resolver for " ++ name ++ " is not callable"
  | .handlerNotCallable name => "Handler for " ++ name ++ " is not callable"
  | .slotCallbackNotCallable menu slot =>
    "Slot callback for " ++ menu ++ ":" ++ toString slot ++ " is not callable"
  | .inventoryHandlerNotCallable menu => "Inventory handler for " ++ menu ++ " is not callable"
  | .scopeNotConsulted registry scope =>
    "Registry '" ++ registry ++ "' does not consult the " ++ scope ++ " scope"
  | .scopeKeyMissing scope => "A " ++ scope ++ "-scoped handler needs a scope key"
  | .unknownHandlerScopes shown =>
    "Unknown handler scopes " ++ shown ++ "; expected some of ('actor', 'menu', 'global')"
  | .menuPlaceholderKeyMissing => "Menu-scoped placeholders need the menu id as scope_key"
  | .actorPlaceholderKeyMissing => "Actor-scoped placeholders need the actor id as scope_key"
  | .unknownPlaceholderScope scope =>
    "Unknown placeholder scope " ++ scope ++ "; expected one of ('global', 'menu', 'actor')"
  | .refreshSlotNotInteger shown => "Refresh slots must be ints, got " ++ shown
  | .contextMissing typeName actor =>
    "Menu context of type " ++ typeName ++ " not found for " ++ actor
  | .unwritable => "surrogates not allowed"
  | .negativeCapacity => "the capacity is negative"
  | .reported _ message => message

/-- Whether a failure says that a value of the right kind is not one of those allowed. -/
def Failure.isBadValue : Failure → Bool
  | .notANumeral _ | .numeralTooLong | .notPairs | .storeConflict _ | .sharedDefault _
  | .scopeNotConsulted .. | .scopeKeyMissing _
  | .unknownHandlerScopes _ | .menuPlaceholderKeyMissing | .actorPlaceholderKeyMissing
  | .unknownPlaceholderScope _ | .unwritable | .negativeCapacity | .reported .value _ => true
  | _ => false

/-- Whether a failure says that a value is not of the type that it has to be of. -/
def Failure.isWrongType : Failure → Bool
  | .notText _ | .notReplaceable _ | .notNumeric _ | .notIterable _ | .notCallable _ | .unhashable _
  | .mismatchedTypes .. | .badAnswer .. | .inconsistentBases _ | .incompatibleBases _
  | .cannotInstantiate _ | .fieldWithoutDefault _ | .resolverNotCallable _
  | .contextResolverNotCallable _ | .handlerNotCallable _ | .slotCallbackNotCallable ..
  | .inventoryHandlerNotCallable _ | .refreshSlotNotInteger _ | .reported .type _ => true
  | _ => false

/-- Whether a failure says that a key is not there. -/
def Failure.isMissingKey : Failure → Bool
  | .missingKey _ | .notATruthWord _ => true
  | _ => false

/-- A failure that says that a type is wrong does not speak of a key. -/
theorem Failure.isMissingKey_of_isWrongType {cause : Failure} (wrongType : cause.isWrongType = true) :
    cause.isMissingKey = false := by
  cases cause <;> first | rfl | cases wrongType

/-- Whether a failure says that a value stands for no number. -/
def Failure.isNoNumber : Failure → Bool
  | .notANumeral _ | .notNumeric _ | .notCallable _ | .badAnswer .. => true
  | _ => false

end ChestMenu
