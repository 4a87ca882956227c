import ChestMenu.Proofs.Accessors
import ChestMenu.Proofs.Building
import Mathlib.Data.List.Dedup
import Mathlib.Data.List.Induction

/-!
# What a discovery answers

A discovery is asked about contexts again and again, and keeps what it found out about their types. The fields of such
a context can always be had: a source that fails takes away its own value only, and what the object holds by itself
under the name of the field then shows. Their tokens can be had if all values can be written.

What is kept about types makes no difference to any answer, and there is as much of it as there are different types
that were introspected since the discovery last forgot them.
-/
namespace ChestMenu.Discovery

section

variable {classes : Classes} {type name field source : String} {context value : Value} {cache : Cache}

/-- A context is introspected if there is one, it does not describe its fields and it is no mapping. -/
def isIntrospected (classes : Classes) : Value → Bool
  | .null => false
  | context => !describesFields classes context && context.pairs?.isNone

/-- The public attributes that an object holds by itself and that cannot be called. -/
def ownFields (classes : Classes) (context : Value) : OrderedMap String Value :=
  (classes.ownAttributes context).filter fun (name, value) => isPublic name && !isCallable value

/-- What the accessors of a context's type read from it. -/
def readFields [Machine] (classes : Classes) (context : Value) : OrderedMap String Value :=
  (accessorsOf classes (Classes.typeOf context)).filterMap fun a =>
    (readAccessor? classes context a).map fun value => (a.field, value)

/-- Pairs under names as pairs under texts. -/
def underNames (entries : OrderedMap String Value) : List (Value × Value) :=
  entries.map fun (name, value) => (.text name, value)

/-- A field of a context and its value: what the source of the field reads or, where it reads nothing, what the object
holds by itself. -/
inductive IsField [Machine] (isGetter : Method → Bool) (classes : Classes) (context : Value) (name : String)
    (value : Value) :
    Prop
  | read {source : String} (taken : TakenFrom isGetter classes (Classes.typeOf context) name source)
      (reads : readAccessor? classes context ⟨name, source⟩ = some value)
  | own (unread : ∀ source, TakenFrom isGetter classes (Classes.typeOf context) name source →
        readAccessor? classes context ⟨name, source⟩ = none)
      (held : OrderedMap.last? name (ownFields classes context) = some value)

/-- Where two notions of a getter agree on the methods whose names tell fields, a context has the same fields. What a
context holds by itself does not depend on methods. -/
theorem isField_congr [Machine] {isGetter isGetter' : Method → Bool}
    (same : ∀ name m, classes.item? (Classes.typeOf context) name = some (.method m) →
      (fieldOfMethod? name).isSome = true → isGetter m = isGetter' m) :
    IsField isGetter classes context name value ↔ IsField isGetter' classes context name value := by
  constructor
  · rintro (⟨taken, reads⟩ | ⟨unread, held⟩)
    · exact .read ((takenFrom_congr same).mp taken) reads
    · exact .own (fun source taken => unread source ((takenFrom_congr same).mpr taken)) held
  · rintro (⟨taken, reads⟩ | ⟨unread, held⟩)
    · exact .read ((takenFrom_congr same).mpr taken) reads
    · exact .own (fun source taken => unread source ((takenFrom_congr same).mp taken)) held

/-- A pair is put under a text as it is put under a name. A name is the same key as its text. -/
theorem insertPair_underNames (entries : OrderedMap String Value) :
    Value.insertPair (.text name) value (underNames entries) = underNames (entries.put name value) := by
  induction entries with
  | nil => rfl
  | cons first rest ih =>
    obtain ⟨k, v⟩ := first
    unfold underNames at ih ⊢
    by_cases same : k = name
    · simp [Value.insertPair, Value.sameKey, OrderedMap.put, same]
    · simp [Value.insertPair, Value.sameKey, OrderedMap.put, same, ih]

/-- Pairs are entered under texts as they are entered under names. The induction is on the pairs. -/
theorem ofPairs_underNames (entries : OrderedMap String Value) :
    Value.ofPairs (underNames entries) = underNames (OrderedMap.ofPairs entries) := by
  have entering (entered : OrderedMap String Value) :
      (underNames entries).foldl (fun entered pair => Value.insertPair pair.1 pair.2 entered) (underNames entered) =
        underNames (entered.putAll entries) := by
    induction entries generalizing entered with
    | nil => rfl
    | cons first rest ih =>
      change (underNames rest).foldl _ (Value.insertPair (.text first.1) first.2 (underNames entered)) = _
      rw [insertPair_underNames, ih]
      rfl
  exact entering []

/-- The fields of an introspected context are those that it holds by itself, and over them those that its accessors
read. A sound cache has the right accessors for it or none. -/
theorem fields_of_isIntrospected [Machine] (isThere : isIntrospected classes context = true)
    (sound : cache.Sound classes) :
    fields classes cache context =
      (.ok (underNames (OrderedMap.ofPairs (ownFields classes context ++ readFields classes context))),
        (accessors classes cache context).2) := by
  obtain ⟨found, -⟩ := accessors_of_sound sound context
  unfold isIntrospected at isThere
  split at isThere
  · cases isThere
  · rename_i notNull
    obtain ⟨undescribed, noPairs⟩ := Bool.and_eq_true_iff.mp isThere
    rw [Bool.not_eq_true'] at undescribed
    rw [Option.isNone_iff_eq_none] at noPairs
    unfold fields
    split
    · exact absurd rfl notNull
    · rw [if_neg (by simp [undescribed]), noPairs]
      dsimp only
      rw [found, ← ofPairs_underNames]
      simp [underNames, ownFields, readFields, List.map_filterMap, Option.map_map, Function.comp_def]

/-- Looking at any other context leaves the cache as it is. Mappings, objects that describe their fields and null are
told without it. -/
theorem fields_of_not_isIntrospected [Machine] (isElse : isIntrospected classes context = false) :
    (fields classes cache context).2 = cache := by
  unfold fields
  split
  · rfl
  · rename_i notNull
    split
    · rfl
    · rename_i undescribed
      split
      · rfl
      · rename_i noPairs
        unfold isIntrospected at isElse
        split at isElse
        · exact absurd rfl notNull
        · simp [undescribed, noPairs] at isElse

/-- Each field is read once, since it has one accessor. -/
theorem nodup_readFields [Machine] : (OrderedMap.keys (readFields classes context)).Nodup := by
  have apart : (accessorsOf classes (Classes.typeOf context)).Pairwise fun a b => a.field ≠ b.field :=
    List.pairwise_map.mp nodup_accessorsOf
  rw [OrderedMap.keys, List.Nodup, List.pairwise_map]
  refine List.Pairwise.filterMap _ (fun a b other pair isPair pair' isPair' => ?_) apart
  obtain ⟨-, -, rfl⟩ := Option.map_eq_some_iff.mp isPair
  obtain ⟨-, -, rfl⟩ := Option.map_eq_some_iff.mp isPair'
  exact other

/-- What is read for a field is what its source reads. A source that fails reads nothing. -/
theorem last?_readFields [Machine] :
    OrderedMap.last? name (readFields classes context) = some value ↔
      ∃ source, TakenFrom looksBare classes (Classes.typeOf context) name source ∧
        readAccessor? classes context ⟨name, source⟩ = some value := by
  rw [OrderedMap.last?_eq_get? nodup_readFields]
  constructor
  · intro held
    obtain ⟨a, isAccessor, isPair⟩ := List.mem_filterMap.mp (OrderedMap.mem_of_get? held)
    obtain ⟨read, reads, same⟩ := Option.map_eq_some_iff.mp isPair
    cases same
    exact ⟨a.source, mem_accessorsOf.mp isAccessor, reads⟩
  · rintro ⟨source, taken, reads⟩
    exact OrderedMap.get?_of_mem nodup_readFields
      (List.mem_filterMap.mpr ⟨⟨name, source⟩, mem_accessorsOf.mpr taken, by rw [reads]; rfl⟩)

/-- The fields that a context holds by itself and those that are read, put together, are its fields. What is read
comes before what is held. -/
theorem get?_fields [Machine] :
    OrderedMap.get? name (OrderedMap.ofPairs (ownFields classes context ++ readFields classes context)) = some value ↔
      IsField looksBare classes context name value := by
  rw [OrderedMap.ofPairs, OrderedMap.get?_putAll, OrderedMap.last?_append, OrderedMap.get?, Option.or_none]
  cases read : OrderedMap.last? name (readFields classes context) with
  | some known =>
    obtain ⟨source, taken, reads⟩ := last?_readFields.mp read
    rw [Option.some_or, ← read]
    constructor
    · intro isRead
      obtain ⟨source, taken, reads⟩ := last?_readFields.mp isRead
      exact .read taken reads
    · rintro (⟨taken, reads⟩ | ⟨unread, -⟩)
      · exact last?_readFields.mpr ⟨_, taken, reads⟩
      · rw [unread source taken] at reads
        cases reads
  | none =>
    have unread (source : String) (taken : TakenFrom looksBare classes (Classes.typeOf context) name source) :
        readAccessor? classes context ⟨name, source⟩ = none := by
      rw [Option.eq_none_iff_forall_ne_some]
      intro value reads
      rw [last?_readFields.mpr ⟨source, taken, reads⟩] at read
      cases read
    rw [Option.none_or]
    constructor
    · exact .own unread
    · rintro (⟨taken, reads⟩ | ⟨-, held⟩)
      · rw [unread _ taken] at reads
        cases reads
      · exact held

/-- The tokens of fields whose values have a text. -/
def tokenPairs [Machine] (entries : OrderedMap String Value) : List (String × String) :=
  entries.filterMap fun (name, value) =>
    value.placeholderText?.toOption.join.map fun text => ("\x7bcontext." ++ name ++ "\x7d", text)

/-- The tokens of fields can be had exactly if no value fails to be written, and are then those of the fields whose
values have a text. A value without a text, such as a list, tells no token. -/
theorem tokensOfFields_underNames [Machine] (entries : OrderedMap String Value) {told : List (String × String)} :
    tokensOfFields (underNames entries) = .ok told ↔
      (∀ entry ∈ entries, Succeeds entry.2.placeholderText?) ∧ told = tokenPairs entries := by
  have tells (entry : String × Value) : Tells (.text entry.1, entry.2) ↔ Succeeds entry.2.placeholderText? :=
    exists_congr fun words => and_iff_left fun _ => ⟨entry.1, rfl⟩
  have succeeds : Succeeds (tokensOfFields (underNames entries)) ↔
      ∀ entry ∈ entries, Succeeds entry.2.placeholderText? := by
    rw [succeeds_tokensOfFields, underNames, List.forall_mem_map]
    exact forall₂_congr fun entry _ => tells entry
  have same {told : List (String × String)} (isTold : tokensOfFields (underNames entries) = .ok told) :
      told = tokenPairs entries := by
    rw [eq_of_filterMapM isTold, underNames, List.filterMap_map, tokenPairs]
    refine congrArg (List.filterMap · entries) (funext fun entry => ?_)
    dsimp only [Function.comp]
    cases entry.2.placeholderText? with
    | error cause => rfl
    | ok words => cases words <;> rfl
  constructor
  · exact fun isTold => ⟨succeeds.mp ⟨told, isTold⟩, same isTold⟩
  · rintro ⟨all, rfl⟩
    obtain ⟨told, isTold⟩ := succeeds.mpr all
    rw [isTold, same isTold]

/-- The type that a request introspects, if it introspects one. -/
def Request.type? (classes : Classes) : Request → Option String
  | .tokens context => if isIntrospected classes context then some (Classes.typeOf context) else none
  | .forget => none

/-- A request is not to forget. -/
def Request.isLook : Request → Bool
  | .tokens _ => true
  | .forget => false

/-- The types that requests introspected since the last that was to forget, the latest first. -/
def typesSince (classes : Classes) (requests : List Request) : List String :=
  (requests.reverse.takeWhile Request.isLook).filterMap (Request.type? classes)

/-- A cache holds the accessors of these types, as they would be found anew, and each type once. -/
structure Cache.Holds (classes : Classes) (types : List String) (cache : Cache) : Prop where
  sound : cache.Sound classes
  once : (OrderedMap.keys cache).Nodup
  mem_keys : ∀ type, type ∈ OrderedMap.keys cache ↔ type ∈ types

/-- A cache has no accessors for a type exactly if it does not hold the type. An empty list of accessors is a member,
too. -/
theorem lookup_eq_none_iff : cache.lookup type = none ↔ type ∉ OrderedMap.keys cache := by
  rw [List.lookup_eq_none_iff, OrderedMap.keys, List.mem_map]
  constructor
  · rintro others ⟨pair, member, same⟩
    simpa [same] using others pair member
  · exact fun absent pair member => bne_iff_ne.mpr fun same => absent ⟨pair, member, same.symm⟩

/-- Looking for the accessors of a value enters its type into the cache, unless it is there. Nothing is ever taken out
of it in this way. -/
theorem accessors_cache (v : Value) :
    (accessors classes cache v).2 =
      if Classes.typeOf v ∈ OrderedMap.keys cache then cache
      else cache ++ [(Classes.typeOf v, accessorsOf classes (Classes.typeOf v))] := by
  unfold accessors
  dsimp only
  cases held : cache.lookup (Classes.typeOf v) with
  | some found =>
    rw [if_pos]
    by_contra absent
    rw [lookup_eq_none_iff.mpr absent] at held
    cases held
  | none => rw [if_neg (lookup_eq_none_iff.mp held)]

/-- Looking for the accessors of a value makes a cache hold its type. It still holds each type once, with the
accessors that would be found anew. -/
theorem Cache.Holds.accessors {types : List String} (holds : cache.Holds classes types) (v : Value) :
    (Discovery.accessors classes cache v).2.Holds classes (Classes.typeOf v :: types) := by
  have sound := (accessors_of_sound holds.sound v).2
  rw [accessors_cache] at sound ⊢
  split
  · rename_i isThere
    refine ⟨holds.sound, holds.once, fun type => ?_⟩
    rw [holds.mem_keys, List.mem_cons]
    exact ⟨.inr, fun member => member.elim (fun same => same ▸ (holds.mem_keys _).mp isThere) id⟩
  · rename_i absent
    rw [if_neg absent] at sound
    refine ⟨sound, ?_, fun type => ?_⟩
    · rw [← OrderedMap.put_eq_append absent]
      exact OrderedMap.nodup_put holds.once
    · rw [← OrderedMap.put_eq_append absent, OrderedMap.keys_put, if_neg absent, List.mem_append, List.mem_singleton,
        List.mem_cons, holds.mem_keys, or_comm]

/-- A request leaves what the cache should hold behind it. A look at a context that is introspected adds its type, and
a request to forget empties the cache. -/
theorem Cache.Holds.perform [Machine] {types : List String} (holds : cache.Holds classes types) (request : Request) :
    (request.perform classes cache).2.Holds classes
      (if request.isLook then (request.type? classes).toList ++ types else []) := by
  cases request with
  | forget => exact ⟨sound_nil, List.nodup_nil, fun _ => Iff.rfl⟩
  | tokens context =>
    change (fields classes cache context).2.Holds classes
      ((if isIntrospected classes context then some (Classes.typeOf context) else none).toList ++ types)
    split
    · rename_i isThere
      rw [fields_of_isIntrospected isThere holds.sound]
      exact holds.accessors context
    · rename_i isElse
      rw [fields_of_not_isIntrospected (Bool.eq_false_iff.mpr isElse)]
      exact holds

/-- Requests are answered as by a discovery that was never asked before. The induction is on the requests, and the
cache stays sound. -/
theorem answers_performAll [Machine] (requests : List Request) (sound : cache.Sound classes) :
    (performAll classes cache requests).1 = requests.map fun request => (request.perform classes []).1 := by
  induction requests generalizing cache with
  | nil => rfl
  | cons request later ih =>
    have step : (request.perform classes cache).1 = (request.perform classes []).1 ∧
        (request.perform classes cache).2.Sound classes := by
      cases request with
      | forget => exact ⟨rfl, sound_nil⟩
      | tokens context =>
        obtain ⟨same, kept⟩ := tokens_of_sound sound context
        exact ⟨congrArg some same, kept⟩
    change (request.perform classes cache).1 :: (performAll classes (request.perform classes cache).2 later).1 = _
    rw [step.1, ih step.2, List.map_cons]

/-- Requests leave the same cache behind whether they come at once or in two parts. So a run may be looked at up to
its last request. -/
theorem performAll_append [Machine] (before after : List Request) :
    (performAll classes cache (before ++ after)).2 =
      (performAll classes (performAll classes cache before).2 after).2 := by
  induction before generalizing cache with
  | nil => rfl
  | cons request before ih => exact ih

/-- One more request introspects its type, or forgets all. This is what the size of the cache follows. -/
theorem typesSince_append (requests : List Request) (request : Request) :
    typesSince classes (requests ++ [request]) =
      if request.isLook then (request.type? classes).toList ++ typesSince classes requests else [] := by
  unfold typesSince
  rw [List.reverse_append, List.reverse_singleton, List.singleton_append, List.takeWhile_cons]
  split
  · rw [List.filterMap_cons]
    cases request.type? classes <;> rfl
  · rfl

/-- Behind requests the cache holds the types that were introspected since the last that was to forget. The induction
is on the requests, from the end. -/
theorem holds_performAll [Machine] (requests : List Request) :
    (performAll classes [] requests).2.Holds classes (typesSince classes requests) := by
  induction requests using List.reverseRecOn with
  | nil => exact ⟨sound_nil, List.nodup_nil, fun _ => Iff.rfl⟩
  | append_singleton requests request ih =>
    rw [performAll_append, typesSince_append]
    exact ih.perform request

/-- A cache that holds these types has as many members as there are different ones among them. It holds each of them
once. -/
theorem Cache.Holds.size_eq {types : List String} (holds : cache.Holds classes types) :
    cache.size = types.dedup.length := by
  have same : (OrderedMap.keys cache).Perm types.dedup :=
    (List.perm_ext_iff_of_nodup holds.once (List.nodup_dedup types)).mpr fun type => by
      rw [holds.mem_keys, List.mem_dedup]
  rw [← same.length_eq, OrderedMap.keys, List.length_map, Cache.size]

/-- Whatever a discovery was asked before, it answers as one that was never asked, and its cache has as many members
as different types were introspected since it was last to forget them. The fields of an introspected context can
always be had: each is what its source reads, and where that fails or there is none, what the object holds by itself.
The tokens are those of the fields whose values have a text, and can be had exactly if no value fails to be written.

A method counts as a getter if nothing is required behind its first parameter. If none whose name tells a field is
static, the fields are those for which the methods count to which nothing has to be given.

Proof: by induction on the requests the cache holds what would be found anew, for exactly the types that were
introspected, each once. An answer depends on the cache only through what is kept for the type, so it is that of a
discovery that was never asked. Which accessor a field has is told by the order in which the sources are gone through,
where the first to offer a field keeps it. -/
theorem performAll_exact [Machine] (classes : Classes) (requests : List Request) :
    (performAll classes [] requests).1 = requests.map (fun request => (request.perform classes []).1) ∧
    (performAll classes [] requests).2.size = (typesSince classes requests).dedup.length ∧
    ∀ context, isIntrospected classes context = true →
      (∃ entries : OrderedMap String Value,
        (fields classes (performAll classes [] requests).2 context).1 = .ok (underNames entries) ∧
        (OrderedMap.keys entries).Nodup ∧
        (∀ name value, entries.get? name = some value ↔ IsField looksBare classes context name value) ∧
        ∀ told, (tokens classes (performAll classes [] requests).2 context).1 = .ok told ↔
          (∀ entry ∈ entries, Succeeds entry.2.placeholderText?) ∧ told = tokenPairs entries) ∧
      ((∀ name m, classes.item? (Classes.typeOf context) name = some (.method m) →
          (fieldOfMethod? name).isSome = true → m.static = false) →
        ∀ name value, IsField looksBare classes context name value ↔ IsField takesNothing classes context name value) := by
  have holds : (performAll classes [] requests).2.Holds classes (typesSince classes requests) :=
    holds_performAll requests
  refine ⟨answers_performAll requests sound_nil, holds.size_eq, fun context isThere => ⟨?_, fun bound name value => ?_⟩⟩
  · have given := fields_of_isIntrospected isThere holds.sound
    refine ⟨_, congrArg Prod.fst given, OrderedMap.nodup_putAll List.nodup_nil, fun name value => get?_fields,
      fun told => ?_⟩
    rw [← tokensOfFields_underNames]
    unfold tokens
    rw [given]
    rfl
  · refine isField_congr fun name m isMethod tells => ?_
    rw [looksBare_eq, if_neg (by simp [bound name m isMethod tells])]

/-- A class with a data field, a getter for the same field, a getter that fails and a property that reads the
data field. -/
def vaultClass : ContextClass where
  name := "Vault"
  dataFields := some ["balance"]
  properties := [("capacity", { call held _ := .ok ((held.attributes.lookup "balance").getD .null) })]
  methods := [("get_balance", { member := .answers (.int 1) }), ("get_owner", { member := .reports "gone" })]

/-- The classes with this one. -/
def vaultClasses : Classes :=
  (Classes.declare {} vaultClass).toOption.getD {}

/-- An object of this class, which stores its owner by itself. -/
def vault [Machine] : Value :=
  (vaultClasses.instantiate "Vault" [("balance", .int 7), ("owner", .text "Ann")]).toOption.getD .null

/-- The accessors of the vault are for its data field, its property and the getter of its owner. The getter of the
balance has none, as there is a data field for it. -/
theorem accessorsOf_vaultClasses :
    accessorsOf vaultClasses "Vault" =
      [⟨"balance", "balance"⟩, ⟨"capacity", "capacity"⟩, ⟨"owner", "get_owner"⟩] := by
  have names : publicNames vaultClasses "Vault" = ["capacity", "get_balance", "get_owner"] :=
    (List.mergeSort_of_pairwise (by decide +kernel)).trans (by decide +kernel)
  have found : ((publicData vaultClasses "Vault" ++ publicStores vaultClasses "Vault").map plain ++
      ["capacity", "get_balance", "get_owner"].filterMap (memberAccessor? vaultClasses "Vault")).foldl addAccessor [] =
        [⟨"balance", "balance"⟩, ⟨"capacity", "capacity"⟩, ⟨"owner", "get_owner"⟩] := by decide +kernel
  rw [accessorsOf, if_neg (by decide), declaredAccessors, names, found]
  exact List.mergeSort_of_pairwise (by decide)

end

/-- The vault was looked at twice since the discovery forgot it, and an integer before that. The data field comes
before the getter, the getter that fails takes nothing from the object, and the property tells what the object holds. -/
theorem performAll_vault :
    isIntrospected vaultClasses vault = true ∧
    (∀ name m, vaultClasses.item? (Classes.typeOf vault) name = some (.method m) →
      (fieldOfMethod? name).isSome = true → m.static = false) ∧
    (performAll vaultClasses [] [.tokens (.int 5), .forget, .tokens vault, .tokens (.map []), .tokens vault]).2.size = 1 ∧
    (∃ entries : OrderedMap String Value,
      (fields vaultClasses (performAll vaultClasses [] [.tokens vault, .tokens (.int 5)]).2 vault).1 =
        .ok (underNames entries) ∧
      entries.get? "balance" = some (.int 7) ∧ entries.get? "owner" = some (.text "Ann") ∧
      entries.get? "capacity" = some (.int 7)) ∧
    IsField takesNothing vaultClasses vault "balance" (.int 7) := by
  have bound : ∀ name m, vaultClasses.item? (Classes.typeOf vault) name = some (.method m) →
      (fieldOfMethod? name).isSome = true → m.static = false := by
    intro name m isThere tells
    rw [item?_of_ancestors (c := vaultClass) rfl] at isThere
    have member := mem_methods isThere (undescribing_of_told tells)
    simp only [vaultClass, List.mem_cons, Prod.mk.injEq, List.not_mem_nil, or_false] at member
    rcases member with ⟨-, rfl⟩ | ⟨-, rfl⟩ <;> rfl
  have balance : IsField looksBare vaultClasses vault "balance" (.int 7) :=
    .read (mem_accessorsOf.mp (accessorsOf_vaultClasses ▸ List.mem_cons_self)) rfl
  have capacity : IsField looksBare vaultClasses vault "capacity" (.int 7) :=
    .read (mem_accessorsOf.mp (accessorsOf_vaultClasses ▸ List.mem_cons_of_mem _ List.mem_cons_self)) rfl
  have owner : IsField looksBare vaultClasses vault "owner" (.text "Ann") := by
    refine .own (fun source taken => ?_) rfl
    have member := mem_accessorsOf.mpr taken
    change _ ∈ accessorsOf vaultClasses "Vault" at member
    rw [accessorsOf_vaultClasses] at member
    obtain rfl : source = "get_owner" := by simpa using member
    rfl
  obtain ⟨⟨entries, given, -, found, -⟩, alike⟩ :=
    (performAll_exact vaultClasses [.tokens vault, .tokens (.int 5)]).2.2 vault rfl
  refine ⟨rfl, bound, ?_, ⟨entries, given, (found _ _).mpr balance, (found _ _).mpr owner, (found _ _).mpr capacity⟩,
    (alike bound _ _).mp balance⟩
  rw [(performAll_exact vaultClasses _).2.1]
  rfl

section

/-- A class with a getter and, before it by name, a static method that looks like one. -/
def misledChest : ContextClass where
  name := "Chest"
  methods := [("getGold", { member := .answers (.int 1), static := true, required := 1 }),
    ("get_gold", { member := .answers (.int 7) })]

/-- The classes with this one. -/
def misledClasses : Classes :=
  (Classes.declare {} misledChest).toOption.getD {}

/-- An object of this class. -/
def misledContext [Machine] : Value :=
  (misledClasses.instantiate "Chest" []).toOption.getD .null

/-- The static method is the only accessor of the misled class, although there is a getter for the same field. -/
theorem accessorsOf_misledClasses : accessorsOf misledClasses "Chest" = [⟨"gold", "getGold"⟩] := by
  have names : publicNames misledClasses "Chest" = ["getGold", "get_gold"] :=
    (List.mergeSort_of_pairwise (by decide +kernel)).trans (by decide +kernel)
  rw [accessorsOf, if_neg (by decide), declaredAccessors, names]
  decide +kernel

end

/-- A static method that takes an argument is taken for a getter, and hides the getter of the same field. -/
theorem fields_miss_getter :
    isIntrospected misledClasses misledContext = true ∧ (fields misledClasses [] misledContext).1 = .ok [] ∧
      IsField takesNothing misledClasses misledContext "gold" (.int 7) := by
  have nothing : readFields misledClasses misledContext = [] := by
    change (accessorsOf misledClasses "Chest").filterMap _ = []
    rw [accessorsOf_misledClasses]
    rfl
  have taken : TakenFrom takesNothing misledClasses "Chest" "gold" "get_gold" := by
    rw [TakenFrom, if_neg (by decide)]
    refine .member (by decide) (by decide) (.getter rfl rfl rfl rfl) fun other offers => ?_
    rcases offers with ⟨isThere, -, -⟩ | ⟨isThere, -, takes, told⟩
    · rw [item?_of_ancestors (c := misledChest) rfl] at isThere
      cases mem_properties isThere
    · rw [item?_of_ancestors (c := misledChest) rfl] at isThere
      have member := mem_methods isThere (undescribing_of_told (Option.isSome_of_eq_some told))
      simp only [misledChest, List.mem_cons, Prod.mk.injEq, List.not_mem_nil, or_false] at member
      rcases member with ⟨rfl, rfl⟩ | ⟨rfl, -⟩
      · cases takes
      · exact String.le_refl _
  refine ⟨rfl, ?_, .read taken rfl⟩
  rw [fields_of_isIntrospected rfl sound_nil, nothing]
  rfl

end ChestMenu.Discovery
