import ChestMenu.Proofs.Registries
import Mathlib.Data.List.Induction

/-!
# What a history of requests leaves of named handlers

A registry files handlers in buckets and makes and drops buckets as a whole; what a host relies on is said without
buckets. A handler stands under a name, in a scope and for a key, if it is what was last registered there and nothing
since has taken it away. Names have no case and no blanks around them, the ids of menus have no case, all other keys
count as they are written, and in the scope for everyone all keys are the same. A search finds what stands in the
first scope where anything does.

A request that is refused leaves the registry as it is, and with it whatever is looked for later.
-/
namespace ChestMenu

/-- Two keys of a scope are those of the same handlers. In a scope that needs a key a missing one is that of none. -/
def HandlerScope.SameKey : HandlerScope → Option String → Option String → Prop
  | everywhere, _, _ => True
  | menu, some id, some id' => id ≠ "" ∧ id' ≠ "" ∧ Text.lower id = Text.lower id'
  | _, some key, some key' => key ≠ "" ∧ key = key'
  | _, _, _ => False

namespace HandlerScope

variable {scope : HandlerScope} {key key' filed : Option String}

/-- Without a key nothing can be filed where one is needed. An empty key counts as none. -/
theorem fileKey_error (needed : scope ≠ everywhere) (missing : key = none ∨ key = some "") :
    scope.fileKey key = .error (.scopeKeyMissing scope.word) := by
  unfold fileKey
  rcases missing with rfl | rfl <;> cases scope <;> simp_all

/-- Keys are those of the same handlers if they can be filed under the same. Two keys that cannot be filed under at
all are not the same in this sense. -/
theorem sameKey_iff :
    scope.SameKey key key' ↔ ∃ filed, scope.fileKey key = .ok filed ∧ scope.fileKey key' = .ok filed := by
  cases scope with
  | everywhere => exact iff_of_true trivial ⟨none, rfl, rfl⟩
  | menu =>
    simp only [fileKey_menu]
    constructor
    · intro same
      match key, key', same with
      | some id, some id', ⟨given, given', same⟩ =>
        exact ⟨_, ⟨id, rfl, given, rfl⟩, id', rfl, given', congrArg some same⟩
    · rintro ⟨_, ⟨id, rfl, given, rfl⟩, id', rfl, given', same⟩
      exact ⟨given, given', Option.some.inj same⟩
  | actor | other =>
    simp only [fileKey_written, ne_eq, reduceCtorEq, not_false_eq_true]
    constructor
    · intro same
      match key, key', same with
      | some id, some id', ⟨given, same⟩ =>
        exact ⟨_, ⟨id, rfl, given, rfl⟩, id', rfl, same ▸ given, congrArg some same⟩
    · rintro ⟨_, ⟨id, rfl, given, rfl⟩, id', rfl, -, same⟩
      exact ⟨given, Option.some.inj same⟩

/-- Where one key can be filed under, another is of the same handlers if it is filed under the same. -/
theorem sameKey_iff_of_fileKey (found : scope.fileKey key' = .ok filed) :
    scope.SameKey key key' ↔ scope.fileKey key = .ok filed := by
  rw [sameKey_iff, found]
  simp

/-- A bucket is that of a scope and a key if it is one of the scope, for a key of the same handlers. This turns a
question about places into one about names and keys. -/
theorem bucket_eq_iff {within : HandlerScope} {filed' : Option String} (found : scope.fileKey key' = .ok filed)
    (found' : within.fileKey key = .ok filed') :
    (within, filed') = (scope, filed) ↔ within = scope ∧ scope.SameKey key key' := by
  rw [Prod.mk.injEq, sameKey_iff_of_fileKey found]
  refine and_congr_right fun same => ?_
  rw [← same, found', Except.ok.injEq]

/-- What can be filed under no key is no key of any handlers. Nothing is found there. -/
theorem not_sameKey {cause : Failure} (found : scope.fileKey key' = .error cause) : ¬scope.SameKey key key' := by
  rw [sameKey_iff, found]
  simp

end HandlerScope

/-- Something that is asked of a registry. -/
inductive HandlerRequest where
  | change (change : HandlerChange)
  | clear

namespace HandlerRequest

/-- The registry after a request. If the request is refused, it is the registry from before. -/
def on (r : HandlerRegistry) : HandlerRequest → HandlerRegistry
  | change c => (c.apply r).toOption.getD r
  | clear => r.clear

/-- A request that registries with these scopes refuse: to register what cannot be called, in a scope where nothing is
looked for, or without a key where one is needed. -/
def IsRefused (scopes : List HandlerScope) : HandlerRequest → Prop
  | change (.register _ handler scope key) =>
    handler.isCallable = false ∨ scope ∉ scopes ∨ scope ≠ .everywhere ∧ (key = none ∨ key = some "")
  | _ => False

/-- A request registers a handler under a name, in a scope and for a key. -/
def Registers (scopes : List HandlerScope) (handler : Callback) (name : String) (scope : HandlerScope)
    (key : Option String) : HandlerRequest → Prop
  | change (.register word given within id) =>
    given = handler ∧ handler.isCallable = true ∧ scope ∈ scopes ∧
      HandlerRegistry.SameName word name ∧ within = scope ∧ scope.SameKey id key
  | _ => False

/-- A request takes away what is registered under a name, in a scope and for a key. -/
def Removes (name : String) (scope : HandlerScope) (key : Option String) : HandlerRequest → Prop
  | change (.unregister word within id) =>
    HandlerRegistry.SameName word name ∧ within = scope ∧ scope.SameKey id key
  | change (.clearScope within id) => within = scope ∧ scope.SameKey id key
  | clear => True
  | _ => False

/-- A request changes nothing of what is registered under a name, in a scope and for a key. -/
def Leaves (scopes : List HandlerScope) (name : String) (scope : HandlerScope) (key : Option String)
    (request : HandlerRequest) : Prop :=
  ¬request.Removes name scope key ∧ ∀ handler, ¬request.Registers scopes handler name scope key

end HandlerRequest

/-- A handler stands under a name, in a scope and for a key, after a history of requests to a registry that had no
handlers: it was registered there, and nothing since has been registered there or taken away. -/
def Stands (scopes : List HandlerScope) (history : List HandlerRequest) (handler : Callback) (name : String)
    (scope : HandlerScope) (key : Option String) : Prop :=
  ∃ before request after, history = before ++ request :: after ∧ request.Registers scopes handler name scope key ∧
    ∀ later ∈ after, later.Leaves scopes name scope key

namespace HandlerRegistry

variable {r : HandlerRegistry} {handler : Callback} {name word : String} {scope within : HandlerScope}
  {key id filed : Option String} {scopes : List HandlerScope} {history : List HandlerRequest} {request : HandlerRequest}

/-- A registry without handlers. -/
def fresh (name : String) (scopes : List HandlerScope) : HandlerRegistry :=
  { name, scopes }

/-- The registry after a history of requests. -/
def after (r : HandlerRegistry) (history : List HandlerRequest) : HandlerRegistry :=
  history.foldl HandlerRequest.on r

/-- The handler that a scope has under a name for a key. -/
def asked? (r : HandlerRegistry) (name : String) (scope : HandlerScope) (key : Option String) : Option Callback :=
  match scope.fileKey key with
  | .ok filed => r.held? (scope, filed) name
  | .error _ => none

/-- A search asks one scope after another, in the order of the registry, and ends with the first that has something. -/
theorem lookup_eq (r : HandlerRegistry) (name : String) (keys : HandlerScope → Option String) :
    r.lookup name keys =
      r.scopes.findSome? fun scope => (r.asked? name scope (keys scope)).map fun handler => (handler, scope) := by
  unfold lookup bucketFor? asked? held?
  refine congrArg (List.findSome? · r.scopes) (funext fun scope => ?_)
  cases scope.fileKey (keys scope) with
  | error cause => rfl
  | ok filed =>
    cases there : r.buckets.get? (scope, filed) with
    | none => simp [there]
    | some handlers => cases held : handlers.get? (fileName name) <;> simp [there, held]

/-- A scope has what is filed under the key. Without a key that can be filed under, it has nothing. -/
theorem asked?_of_fileKey (found : scope.fileKey key = .ok filed) :
    r.asked? name scope key = r.held? (scope, filed) name := by
  unfold asked?
  rw [found]

/-- A change that can be made is made, and the registry is the changed one. -/
theorem on_of_ok {change : HandlerChange} {changed : HandlerRegistry} (done : change.apply r = .ok changed) :
    (HandlerRequest.change change).on r = changed := by
  simp only [HandlerRequest.on, done, Except.toOption, Option.getD_some]

/-- A change that fails is none. The failure itself is told to whoever asked for the change. -/
theorem on_of_error {change : HandlerChange} {cause : Failure} (failed : change.apply r = .error cause) :
    (HandlerRequest.change change).on r = r := by
  simp only [HandlerRequest.on, failed, Except.toOption, Option.getD_none]

/-- A registry asks the same scopes whatever is requested of it. They are given once, when the registry is made. -/
theorem scopes_on (request : HandlerRequest) (r : HandlerRegistry) : (request.on r).scopes = r.scopes := by
  cases request with
  | clear => rfl
  | change change =>
    cases done : change.apply r with
    | error cause => rw [on_of_error done]
    | ok changed =>
      rw [on_of_ok done]
      cases change with
      | register word handler scope id =>
        obtain ⟨-, -, filed, -, rfl⟩ := register_eq_ok.mp done
        rfl
      | unregister word scope id | clearScope scope id =>
        obtain ⟨filed, -, same⟩ := ok_of_bind done
        cases same
        rfl

/-- What is refused fails and leaves the registry as it is. There are three reasons: what cannot be called, a scope
that the registry does not ask, and a missing key where one is needed. -/
theorem on_of_isRefused (refused : request.IsRefused r.scopes) :
    (∃ change, request = .change change ∧ ∃ cause, change.apply r = .error cause) ∧ request.on r = r := by
  match request, refused with
  | .change (.register word handler scope id), refused =>
    cases done : (HandlerChange.register word handler scope id).apply r with
    | error cause => exact ⟨⟨_, rfl, cause, done⟩, on_of_error done⟩
    | ok changed =>
      obtain ⟨callable, asked, filed, found, -⟩ := register_eq_ok.mp done
      rcases refused with uncallable | absent | ⟨needed, missing⟩
      · cases callable.symm.trans uncallable
      · exact absurd (List.contains_iff_mem.mp asked) absent
      · cases found.symm.trans (HandlerScope.fileKey_error needed missing)

/-- A handler that is registered is the one of its name where the key is one of the same handlers. Handlers of other
names, scopes or keys stay. -/
theorem held?_on_register (found : scope.fileKey key = .ok filed) {given : Callback} {request : HandlerRequest}
    (asks : request = .change (.register word given within id)) :
    (request.on r).held? (scope, filed) name = some handler ↔
      request.Registers r.scopes handler name scope key ∨
        r.held? (scope, filed) name = some handler ∧ request.Leaves r.scopes name scope key := by
  subst asks
  simp only [HandlerRequest.Leaves, HandlerRequest.Registers, HandlerRequest.Removes]
  cases done : (HandlerChange.register word given within id).apply r with
  | error cause =>
    rw [on_of_error done]
    have apart (handler : Callback) : ¬(given = handler ∧ handler.isCallable = true ∧ scope ∈ r.scopes ∧
        SameName word name ∧ within = scope ∧ scope.SameKey id key) := by
      rintro ⟨rfl, callable, asked, -, rfl, same⟩
      have accepted : r.register word given within id = .ok _ := register_eq_ok.mpr
        ⟨callable, List.contains_iff_mem.mpr asked, filed, (HandlerScope.sameKey_iff_of_fileKey found).mp same, rfl⟩
      cases done.symm.trans accepted
    simp [apart]
  | ok changed =>
    rw [on_of_ok done]
    obtain ⟨callable, asked, filed', found', rfl⟩ := register_eq_ok.mp done
    -- The bucket of the request is the one that is asked if the scope is and the keys are of the same handlers.
    have own := HandlerScope.bucket_eq_iff found found'
    rw [held?_filing]
    grind

/-- Unregistering takes the handler of a name away where the key is one of the same handlers. All others stay. -/
theorem held?_on_unregister (found : scope.fileKey key = .ok filed) {request : HandlerRequest}
    (asks : request = .change (.unregister word within id)) :
    (request.on r).held? (scope, filed) name = some handler ↔
      request.Registers r.scopes handler name scope key ∨
        r.held? (scope, filed) name = some handler ∧ request.Leaves r.scopes name scope key := by
  subst asks
  simp only [HandlerRequest.Leaves, HandlerRequest.Registers, HandlerRequest.Removes]
  cases done : (HandlerChange.unregister word within id).apply r with
  | error cause =>
    rw [on_of_error done]
    have apart : ¬(SameName word name ∧ within = scope ∧ scope.SameKey id key) := by
      rintro ⟨-, rfl, same⟩
      rw [HandlerChange.apply, unregister, (HandlerScope.sameKey_iff_of_fileKey found).mp same] at done
      cases done
    simp [apart]
  | ok changed =>
    rw [on_of_ok done]
    obtain ⟨filed', found', same⟩ := ok_of_bind done
    cases same
    have own := HandlerScope.bucket_eq_iff found found'
    have held := held?_adjust (r := r) (within, filed') (scope, filed) word name
    grind

/-- Clearing takes the handlers of all names away where the key is one of the same handlers. Those of other scopes and
keys stay. -/
theorem held?_on_clearScope (found : scope.fileKey key = .ok filed) {request : HandlerRequest}
    (asks : request = .change (.clearScope within id)) :
    (request.on r).held? (scope, filed) name = some handler ↔
      request.Registers r.scopes handler name scope key ∨
        r.held? (scope, filed) name = some handler ∧ request.Leaves r.scopes name scope key := by
  subst asks
  simp only [HandlerRequest.Leaves, HandlerRequest.Registers, HandlerRequest.Removes]
  cases done : (HandlerChange.clearScope within id).apply r with
  | error cause =>
    rw [on_of_error done]
    have apart : ¬(within = scope ∧ scope.SameKey id key) := by
      rintro ⟨rfl, same⟩
      rw [HandlerChange.apply, clearScope, (HandlerScope.sameKey_iff_of_fileKey found).mp same] at done
      cases done
    simp [apart]
  | ok changed =>
    rw [on_of_ok done]
    obtain ⟨filed', found', same⟩ := ok_of_bind done
    cases same
    have own := HandlerScope.bucket_eq_iff found found'
    have held := held?_erase (r := r) (within, filed') (scope, filed) name
    grind

/-- After a request a scope has under a name what the request registers there, or else what it had before, unless the
request takes that away. The cases are those of the request, which is refused or made. -/
theorem asked?_on : (request.on r).asked? name scope key = some handler ↔
    request.Registers r.scopes handler name scope key ∨
      r.asked? name scope key = some handler ∧ request.Leaves r.scopes name scope key := by
  cases found : scope.fileKey key with
  | error cause =>
    have nothing (r : HandlerRegistry) : r.asked? name scope key = none := by
      unfold asked?
      rw [found]
    have apart (request : HandlerRequest) : ¬request.Registers r.scopes handler name scope key := by
      intro registers
      match request, registers with
      | .change (.register ..), ⟨_, _, _, _, _, same⟩ => exact HandlerScope.not_sameKey found same
    rw [nothing, nothing]
    simp [apart]
  | ok filed =>
    rw [asked?_of_fileKey found, asked?_of_fileKey found]
    match asks : request with
    | .change (.register ..) => exact held?_on_register found rfl
    | .change (.unregister ..) => exact held?_on_unregister found rfl
    | .change (.clearScope ..) => exact held?_on_clearScope found rfl
    | .clear =>
      have none : (HandlerRequest.clear.on r).held? (scope, filed) name = none := rfl
      rw [none]
      simp [HandlerRequest.Leaves, HandlerRequest.Registers, HandlerRequest.Removes]

/-- What comes of two histories is what comes of the second after the first. -/
theorem after_append (r : HandlerRegistry) (history more : List HandlerRequest) :
    r.after (history ++ more) = (r.after history).after more :=
  List.foldl_append

/-- A registry asks the same scopes after any history. The induction is on the requests. -/
theorem scopes_after (r : HandlerRegistry) (history : List HandlerRequest) : (r.after history).scopes = r.scopes := by
  induction history using List.reverseRecOn with
  | nil => rfl
  | append_singleton history request ih =>
    rw [after_append]
    exact (scopes_on request _).trans ih

/-- What stands after one more request is what the request registers, or what stood before it and is left. So what
stands is told by the last request that has something to do with it. -/
theorem stands_append : Stands scopes (history ++ [request]) handler name scope key ↔
    request.Registers scopes handler name scope key ∨
      Stands scopes history handler name scope key ∧ request.Leaves scopes name scope key := by
  constructor
  · rintro ⟨before, registering, after, joined, registers, left⟩
    rcases List.eq_nil_or_concat after with rfl | ⟨after, last, rfl⟩
    · obtain ⟨rfl, same⟩ := List.append_inj' joined rfl
      cases same
      exact Or.inl registers
    · rw [List.concat_eq_append] at joined left
      rw [← List.cons_append, ← List.append_assoc] at joined
      obtain ⟨rfl, same⟩ := List.append_inj' joined rfl
      cases same
      obtain ⟨earlier, leaves⟩ := List.forall_mem_append.mp left
      exact Or.inr ⟨⟨before, registering, after, rfl, registers, earlier⟩, leaves _ List.mem_cons_self⟩
  · rintro (registers | ⟨⟨before, registering, after, rfl, registers, left⟩, leaves⟩)
    · exact ⟨history, request, [], rfl, registers, fun _ none => absurd none List.not_mem_nil⟩
    · refine ⟨before, registering, after ++ [request], by simp, registers, fun later member => ?_⟩
      rcases List.mem_append.mp member with there | last
      · exact left later there
      · rwa [List.mem_singleton.mp last]

/-- What a scope has after a history is what stands at the end of it. The induction is on the history, from its end. -/
theorem asked?_after : ((fresh word scopes).after history).asked? name scope key = some handler ↔
    Stands scopes history handler name scope key := by
  -- A history grows at its end, where what was last asked for stands.
  induction history using List.reverseRecOn generalizing handler with
  | nil =>
    have nothing : (fresh word scopes).asked? name scope key = none := by
      unfold asked?
      cases scope.fileKey key <;> rfl
    refine iff_of_false (fun held => Option.some_ne_none handler (held.symm.trans nothing)) ?_
    rintro ⟨before, registering, after, joined, -⟩
    cases before <;> cases joined
  | append_singleton history request ih =>
    rw [after_append, stands_append, ← ih]
    refine asked?_on.trans ?_
    rw [scopes_after]
    rfl

/-- A handler that stands was registered, under the name as far as names are compared and with such a key. There is no
other way to come to stand. -/
theorem registered_of_stands (stands : Stands scopes history handler name scope key) :
    ∃ word id, .change (.register word handler scope id) ∈ history ∧ SameName word name ∧
      scope.SameKey id key := by
  obtain ⟨before, request, after, rfl, registers, -⟩ := stands
  match request, registers with
  | .change (.register word given within id), registers =>
    obtain ⟨rfl, -, -, named, rfl, same⟩ := registers
    exact ⟨word, id, by simp, named, same⟩

/-- A refused request makes no difference to what comes after it. It can be left out of the history. -/
theorem after_of_isRefused (before after : List HandlerRequest) (refused : request.IsRefused r.scopes) :
    (∃ change, request = .change change ∧ ∃ cause, change.apply (r.after before) = .error cause) ∧
      r.after (before ++ request :: after) = r.after (before ++ after) := by
  rw [← scopes_after r before] at refused
  obtain ⟨fails, same⟩ := on_of_isRefused refused
  refine ⟨fails, ?_⟩
  rw [after_append, after_append]
  exact congrArg (HandlerRegistry.after · after) same

/-- A search finds what stands in the first scope that has anything under the name for its key, and it finds nothing
exactly if no scope has. A refused request makes no difference to it, and what it finds for an actor was registered
for the very key that is asked with.

Proof: by induction on the history `asked?_after` says of one scope what it answers, which is what stands there. A
search asks the scopes in turn, and so it finds what the first that answers gives. -/
theorem lookup_after (word : String) (scopes : List HandlerScope) (history : List HandlerRequest) (name : String)
    (keys : HandlerScope → Option String) :
    (∀ handler scope, ((fresh word scopes).after history).lookup name keys = some (handler, scope) ↔
        ∃ earlier later, scopes = earlier ++ scope :: later ∧ Stands scopes history handler name scope (keys scope) ∧
          ∀ other ∈ earlier, ∀ handler, ¬Stands scopes history handler name other (keys other)) ∧
      (((fresh word scopes).after history).lookup name keys = none ↔
        ∀ scope ∈ scopes, ∀ handler, ¬Stands scopes history handler name scope (keys scope)) ∧
      (∀ before request after, history = before ++ request :: after → request.IsRefused scopes →
        (∃ change, request = .change change ∧
          ∃ cause, change.apply ((fresh word scopes).after before) = .error cause) ∧
        ((fresh word scopes).after history).lookup name keys =
          ((fresh word scopes).after (before ++ after)).lookup name keys) ∧
      (∀ handler, ((fresh word scopes).after history).lookup name keys = some (handler, .actor) →
        ∃ spelling id, .change (.register spelling handler .actor (some id)) ∈ history ∧ keys .actor = some id) := by
  have asks : ((fresh word scopes).after history).scopes = scopes := scopes_after _ _
  have nothing (scope : HandlerScope) : ((fresh word scopes).after history).asked? name scope (keys scope) = none ↔
      ∀ handler, ¬Stands scopes history handler name scope (keys scope) := by
    simp only [Option.eq_none_iff_forall_ne_some, Ne, asked?_after]
  have finds (handler : Callback) (scope : HandlerScope) :
      ((fresh word scopes).after history).lookup name keys = some (handler, scope) ↔
        ∃ earlier later, scopes = earlier ++ scope :: later ∧ Stands scopes history handler name scope (keys scope) ∧
          ∀ other ∈ earlier, ∀ handler, ¬Stands scopes history handler name other (keys other) := by
    rw [lookup_eq, asks, List.findSome?_eq_some_iff]
    simp only [Option.map_eq_some_iff, Option.map_eq_none_iff, nothing, asked?_after]
    constructor
    · rintro ⟨earlier, _, later, joined, ⟨_, stands, same⟩, none⟩
      cases same
      exact ⟨earlier, later, joined, stands, none⟩
    · rintro ⟨earlier, later, joined, stands, none⟩
      exact ⟨earlier, scope, later, joined, ⟨handler, stands, rfl⟩, none⟩
  refine ⟨finds, ?_, ?_, ?_⟩
  · rw [lookup_eq, asks, List.findSome?_eq_none_iff]
    simp only [Option.map_eq_none_iff, nothing]
  · rintro before request after rfl refused
    obtain ⟨fails, same⟩ := after_of_isRefused (r := fresh word scopes) before after refused
    exact ⟨fails, by rw [same]⟩
  · intro handler found
    obtain ⟨-, -, -, stands, -⟩ := (finds handler .actor).mp found
    obtain ⟨spelling, id, registered, -, same⟩ := registered_of_stands stands
    match id, own : keys .actor, same with
    | some id, some key, ⟨_, isKey⟩ => exact ⟨spelling, id, registered, by rw [isKey]⟩

/-- A greeting for everyone, one for the shop and one for a guest, who is then forgotten; one that cannot be called is
refused. -/
def greetings : List HandlerRequest :=
  [.change (.register " greet " (.script "everyone" []) .everywhere none),
    .change (.register "Greet" (.script "shop" []) .menu (some "SHOP")),
    .change (.register "greet" (.script "guest" []) .actor (some "Steve")),
    .change (.register "greet" (.uncallable "int") .menu (some "shop")),
    .change (.clearScope .actor (some "Steve"))]

/-- In the shop the guest gets the greeting of the shop, in any spelling of its name, and would get it without the
request that was refused, too. -/
theorem lookup_greetings :
    let keys : HandlerScope → Option String := fun scope => if scope = .actor then some "Steve" else some "Shop"
    ((fresh "handlers" [.actor, .menu, .everywhere]).after greetings).lookup "GREET" keys =
        some (.script "shop" [], .menu) ∧
      Stands [.actor, .menu, .everywhere] greetings (.script "shop" []) "GREET" .menu (some "Shop") ∧
      ((fresh "handlers" [.actor, .menu, .everywhere]).after (greetings.eraseIdx 3)).lookup "GREET" keys =
        some (.script "shop" [], .menu) := by
  intro keys
  obtain ⟨finds, -, refusing, -⟩ := lookup_after "handlers" [.actor, .menu, .everywhere] greetings "GREET" keys
  have found : ((fresh "handlers" [.actor, .menu, .everywhere]).after greetings).lookup "GREET" keys =
      some (.script "shop" [], .menu) := rfl
  obtain ⟨-, -, -, stands, -⟩ := (finds _ _).mp found
  obtain ⟨-, same⟩ := refusing (greetings.take 3) _ (greetings.drop 4) rfl (Or.inl rfl)
  exact ⟨found, stands, same.symm.trans found⟩

end HandlerRegistry

end ChestMenu
