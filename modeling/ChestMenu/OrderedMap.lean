/-!
# Ordered maps

A finite map that remembers the order in which its keys were first entered is a list of pairs.
Putting a value under a key that is there keeps the key's place; erasing a key and entering it again
moves it to the end.

The lemmas say what each operation does to the look-up of a key.
-/
namespace ChestMenu

/-- A map as the list of its pairs, in the order in which the keys were entered. -/
abbrev OrderedMap (α : Type) (β : Type) := List (α × β)

namespace OrderedMap

variable {α β : Type} [DecidableEq α]

/-- What the map holds under a key. -/
def get? (key : α) : OrderedMap α β → Option β
  | [] => none
  | (k, v) :: rest => if k = key then some v else get? key rest

/-- Whether the map has the key. -/
def has (key : α) (m : OrderedMap α β) : Bool :=
  (get? key m).isSome

/-- Puts a value under a key. -/
def put (key : α) (value : β) : OrderedMap α β → OrderedMap α β
  | [] => [(key, value)]
  | (k, v) :: rest => if k = key then (k, value) :: rest else (k, v) :: put key value rest

/-- Removes a key. -/
def erase (key : α) : OrderedMap α β → OrderedMap α β
  | [] => []
  | (k, v) :: rest => if k = key then erase key rest else (k, v) :: erase key rest

/-- Changes what is held under a key, if the map has it. -/
def adjust (key : α) (change : β → β) : OrderedMap α β → OrderedMap α β
  | [] => []
  | (k, v) :: rest => if k = key then (k, change v) :: rest else (k, v) :: adjust key change rest

/-- Enters the pairs of the second map into the first, one after another. -/
def putAll (m entries : OrderedMap α β) : OrderedMap α β :=
  entries.foldl (fun m (key, value) => put key value m) m

/-- The map with these pairs, entered one after another. -/
def ofPairs (pairs : List (α × β)) : OrderedMap α β :=
  putAll [] pairs

/-- The keys, in order. -/
def keys (m : OrderedMap α β) : List α :=
  m.map (·.1)

/-- After a value was put, it is found under its key, and under any other key what was found before. -/
theorem get?_put (key k : α) (value : β) (m : OrderedMap α β) :
    get? k (put key value m) = if key = k then some value else get? k m := by
  induction m with
  | nil => simp [put, get?]
  | cons pair rest ih =>
    obtain ⟨first, v⟩ := pair
    by_cases h : first = key
    · subst h
      by_cases hk : first = k <;> simp [put, get?, hk]
    · by_cases hk : first = k
      · subst hk
        simp [put, get?, h, Ne.symm h]
      · simp [put, get?, h, hk, ih]

/-- After a key was erased, nothing is found under it, and under any other key what was found before. -/
theorem get?_erase (key k : α) (m : OrderedMap α β) :
    get? k (erase key m) = if key = k then none else get? k m := by
  induction m with
  | nil => simp [erase, get?]
  | cons pair rest ih =>
    obtain ⟨first, v⟩ := pair
    by_cases h : first = key
    · subst h
      by_cases hk : first = k
      · subst hk
        simpa [erase] using ih
      · simp [erase, get?, hk, ih]
    · by_cases hk : first = k
      · subst hk
        simp [erase, get?, h, Ne.symm h]
      · simp [erase, get?, h, hk, ih]

/-- After a change under a key, the changed value is found there if there was one, and under any other key what was
found before. -/
theorem get?_adjust (key k : α) (change : β → β) (m : OrderedMap α β) :
    get? k (adjust key change m) = if key = k then (get? k m).map change else get? k m := by
  induction m with
  | nil => simp [adjust, get?]
  | cons pair rest ih =>
    obtain ⟨first, v⟩ := pair
    by_cases h : first = key
    · subst h
      by_cases hk : first = k <;> simp [adjust, get?, hk]
    · by_cases hk : first = k
      · subst hk
        simp [adjust, get?, h, Ne.symm h]
      · simp [adjust, get?, h, hk, ih]

/-- A map from which a key was erased has the other keys that it had, and not that one. -/
theorem has_erase (key k : α) (m : OrderedMap α β) :
    has k (erase key m) = (!decide (key = k) && has k m) := by
  by_cases h : key = k <;> simp [has, get?_erase, h]

/-- A change of what is held under a key neither enters a key nor takes one away. -/
theorem has_adjust (key k : α) (change : β → β) (m : OrderedMap α β) :
    has k (adjust key change m) = has k m := by
  by_cases h : key = k <;> simp [has, get?_adjust, h]

/-- What is held after a key was taken away was held before, under another key. This is `get?_erase` read backwards. -/
theorem of_get?_erase {key k : α} {value : β} {m : OrderedMap α β}
    (found : get? k (erase key m) = some value) : key ≠ k ∧ get? k m = some value := by
  rw [get?_erase] at found
  split at found
  · cases found
  · exact ⟨‹_›, found⟩

/-- What is held after a value was changed is the changed one, or was held before under another key. This is
`get?_adjust` read backwards. -/
theorem of_get?_adjust {key k : α} {change : β → β} {value : β} {m : OrderedMap α β}
    (found : get? k (adjust key change m) = some value) :
    (key = k ∧ ∃ before, get? k m = some before ∧ change before = value) ∨ (key ≠ k ∧ get? k m = some value) := by
  rw [get?_adjust] at found
  split at found
  · exact Or.inl ⟨‹_›, Option.map_eq_some_iff.mp found⟩
  · exact Or.inr ⟨‹_›, found⟩

/-- What is held under a key is one of the pairs. It is the first of them with this key. -/
theorem mem_of_get? {key : α} {value : β} {m : OrderedMap α β} (found : get? key m = some value) :
    (key, value) ∈ m := by
  induction m with
  | nil => simp [get?] at found
  | cons pair rest ih =>
    obtain ⟨first, v⟩ := pair
    by_cases h : first = key
    · have same : v = value := by simpa [get?, h] using found
      simp [h, same]
    · have later : get? key rest = some value := by simpa [get?, h] using found
      exact List.mem_cons_of_mem _ (ih later)

/-- A map has the key of each of its pairs. -/
theorem has_of_mem {pair : α × β} {m : OrderedMap α β} (member : pair ∈ m) : has pair.1 m = true := by
  induction m with
  | nil => simp at member
  | cons first rest ih =>
    obtain ⟨k, v⟩ := first
    by_cases h : k = pair.1
    · simp [has, get?, h]
    · rcases List.mem_cons.mp member with same | later
      · exact absurd (by rw [same]) h
      · simpa [has, get?, h] using ih later

/-- A pair of a map after a change is a pair that was there, or the one that was put. -/
theorem mem_put {key : α} {value : β} {m : OrderedMap α β} {pair : α × β}
    (member : pair ∈ put key value m) : pair ∈ m ∨ pair = (key, value) := by
  induction m with
  | nil => simpa [put] using member
  | cons first rest ih =>
    obtain ⟨k, v⟩ := first
    by_cases h : k = key
    · rcases (by simpa [put, h] using member : pair = (key, value) ∨ pair ∈ rest) with same | later
      · exact Or.inr same
      · exact Or.inl (List.mem_cons_of_mem _ later)
    · rcases (by simpa [put, h] using member : pair = (k, v) ∨ pair ∈ put key value rest) with
        same | later
      · exact Or.inl (by simp [same])
      · exact (ih later).imp (List.mem_cons_of_mem _) id

/-- A pair of a map without a key is a pair that was there, and not under that key. -/
theorem mem_erase {key : α} {m : OrderedMap α β} {pair : α × β} (member : pair ∈ erase key m) :
    pair ∈ m ∧ pair.1 ≠ key := by
  induction m with
  | nil => simp [erase] at member
  | cons first rest ih =>
    obtain ⟨k, v⟩ := first
    by_cases h : k = key
    · have later : pair ∈ erase key rest := by simpa [erase, h] using member
      exact ⟨List.mem_cons_of_mem _ (ih later).1, (ih later).2⟩
    · rcases (by simpa [erase, h] using member : pair = (k, v) ∨ pair ∈ erase key rest) with
        same | later
      · exact ⟨by simp [same], by simpa [same] using h⟩
      · exact ⟨List.mem_cons_of_mem _ (ih later).1, (ih later).2⟩

/-- A pair of a map with one value changed is a pair that was there, or the changed one. -/
theorem mem_adjust {key : α} {change : β → β} {m : OrderedMap α β} {pair : α × β}
    (member : pair ∈ adjust key change m) :
    pair ∈ m ∨ ∃ value, (key, value) ∈ m ∧ pair = (key, change value) := by
  induction m with
  | nil => simp [adjust] at member
  | cons first rest ih =>
    obtain ⟨k, v⟩ := first
    by_cases h : k = key
    · rcases (by simpa [adjust, h] using member : pair = (key, change v) ∨ pair ∈ rest) with
        same | later
      · exact Or.inr ⟨v, by simp [h], same⟩
      · exact Or.inl (List.mem_cons_of_mem _ later)
    · rcases (by simpa [adjust, h] using member : pair = (k, v) ∨ pair ∈ adjust key change rest) with
        same | later
      · exact Or.inl (by simp [same])
      · rcases ih later with there | ⟨value, there, changed⟩
        · exact Or.inl (List.mem_cons_of_mem _ there)
        · exact Or.inr ⟨value, List.mem_cons_of_mem _ there, changed⟩

/-- A map that holds nothing under any key is empty. Any pair would be found under its key. -/
theorem eq_nil_of_get? {m : OrderedMap α β} (absent : ∀ key, get? key m = none) : m = [] := by
  cases m with
  | nil => rfl
  | cons pair rest => simpa [get?] using absent pair.1

/-- Putting what is there already changes nothing. The order of the keys stays as well. -/
theorem put_eq_self {key : α} {value : β} {m : OrderedMap α β} (found : get? key m = some value) :
    put key value m = m := by
  induction m with
  | nil => simp [get?] at found
  | cons pair rest ih =>
    obtain ⟨k, v⟩ := pair
    by_cases h : k = key
    · have same : v = value := by simpa [get?, h] using found
      simp [put, h, same]
    · have later : get? key rest = some value := by simpa [get?, h] using found
      simp [put, h, ih later]

/-- Erasing what is not there changes nothing. -/
theorem erase_eq_self {key : α} {m : OrderedMap α β} (absent : get? key m = none) :
    erase key m = m := by
  induction m with
  | nil => rfl
  | cons pair rest ih =>
    obtain ⟨k, v⟩ := pair
    by_cases h : k = key
    · simp [get?, h] at absent
    · have later : get? key rest = none := by simpa [get?, h] using absent
      simp [erase, h, ih later]

/-- A change that is none changes nothing. It is enough that the change does nothing to what is there. -/
theorem adjust_eq_self {key : α} {change : β → β} {value : β} {m : OrderedMap α β}
    (found : get? key m = some value) (same : change value = value) : adjust key change m = m := by
  induction m with
  | nil => simp [get?] at found
  | cons pair rest ih =>
    obtain ⟨k, v⟩ := pair
    by_cases h : k = key
    · have isValue : v = value := by simpa [get?, h] using found
      simp [adjust, h, isValue, same]
    · have later : get? key rest = some value := by simpa [get?, h] using found
      simp [adjust, h, ih later]

/-- Leaving out pairs of other keys changes nothing for a key. All pairs of the key itself have to be kept. -/
theorem get?_filter {key : α} {p : α × β → Bool} {m : OrderedMap α β}
    (kept : ∀ value, p (key, value) = true) : get? key (m.filter p) = get? key m := by
  induction m with
  | nil => rfl
  | cons pair rest ih =>
    obtain ⟨k, v⟩ := pair
    by_cases h : k = key
    · subst h
      simp [get?, kept v]
    · by_cases stays : p (k, v) = true
      · simp [get?, stays, h, ih]
      · simp [get?, stays, h, ih]

/-- Behind pairs of other keys a key is found as if they were not there. The search goes past them. -/
theorem get?_append {key : α} {before after : OrderedMap α β}
    (others : ∀ pair ∈ before, pair.1 ≠ key) : get? key (before ++ after) = get? key after := by
  induction before with
  | nil => rfl
  | cons pair rest ih =>
    have first : pair.1 ≠ key := others pair List.mem_cons_self
    rw [List.cons_append, get?, if_neg first]
    exact ih fun other member => others other (List.mem_cons_of_mem _ member)

/-- A map holds nothing under a key that it does not have. The search ends without a pair. -/
theorem get?_eq_none {key : α} {m : OrderedMap α β} (absent : key ∉ keys m) : get? key m = none := by
  cases held : get? key m with
  | none => rfl
  | some value =>
    have there : key ∈ m.map (·.1) := List.mem_map_of_mem (mem_of_get? held)
    exact absurd there absent

/-- Putting a value enters no key but its own. The others were there before. -/
theorem mem_keys_put {key k : α} {value : β} {m : OrderedMap α β} (member : k ∈ keys (put key value m)) :
    k ∈ keys m ∨ k = key := by
  obtain ⟨pair, there, rfl⟩ := List.mem_map.mp member
  rcases mem_put there with before | rfl
  · exact Or.inl (List.mem_map_of_mem before)
  · exact Or.inr rfl

/-- A map that holds each key once does so after a value was put. A key that is there is not entered again. -/
theorem nodup_put {key : α} {value : β} {m : OrderedMap α β} (once : (keys m).Nodup) :
    (keys (put key value m)).Nodup := by
  induction m with
  | nil => simp [put, keys]
  | cons pair rest ih =>
    obtain ⟨k, v⟩ := pair
    obtain ⟨absent, later⟩ := List.nodup_cons.mp once
    by_cases h : k = key
    · simpa [put, h, keys] using once
    · have apart : k ∉ keys (put key value rest) := fun member =>
        (mem_keys_put member).elim absent h
      simpa [put, h, keys] using List.nodup_cons.mpr ⟨apart, ih later⟩

/-- Changing what is held under a key changes no key. The order stays, too. -/
theorem keys_adjust (key : α) (change : β → β) (m : OrderedMap α β) :
    keys (adjust key change m) = keys m := by
  induction m with
  | nil => rfl
  | cons pair rest ih =>
    obtain ⟨k, v⟩ := pair
    by_cases h : k = key
    · simp [adjust, h, keys]
    · simpa [adjust, h, keys] using ih

/-- A map that holds each key once does so after one was removed. The keys that are left are some of those before. -/
theorem nodup_erase {key : α} {m : OrderedMap α β} (once : (keys m).Nodup) :
    (keys (erase key m)).Nodup := by
  induction m with
  | nil => exact once
  | cons pair rest ih =>
    obtain ⟨k, v⟩ := pair
    obtain ⟨absent, later⟩ := List.nodup_cons.mp once
    by_cases h : k = key
    · simpa [erase, h] using ih later
    · have apart : k ∉ keys (erase key rest) := by
        intro member
        obtain ⟨pair, there, rfl⟩ := List.mem_map.mp member
        exact absent (List.mem_map.mpr ⟨pair, (mem_erase there).1, rfl⟩)
      simpa [erase, h, keys] using List.nodup_cons.mpr ⟨apart, ih later⟩

omit [DecidableEq α] in
/-- In a map that holds each key once, the pairs around one have other keys. -/
theorem ne_of_mem_around {before after : OrderedMap α β} {pair other : α × β}
    (once : (keys (before ++ pair :: after)).Nodup) (member : other ∈ before ++ after) :
    other.1 ≠ pair.1 := by
  rw [keys, List.map_append, List.map_cons] at once
  obtain ⟨-, behind, apart⟩ := List.nodup_append.mp once
  rcases List.mem_append.mp member with early | late
  · exact apart _ (List.mem_map_of_mem early) _ List.mem_cons_self
  · intro same
    refine (List.nodup_cons.mp behind).1 ?_
    rw [← same]
    exact List.mem_map_of_mem late

/-- What is put under a new key comes last. The keys that are there keep their places. -/
theorem put_eq_append {key : α} {value : β} {m : OrderedMap α β} (absent : key ∉ keys m) :
    put key value m = m ++ [(key, value)] := by
  induction m with
  | nil => rfl
  | cons pair rest ih =>
    obtain ⟨k, v⟩ := pair
    have apart : k ≠ key := fun same => absent (by simp [keys, same])
    have later : key ∉ keys rest := fun member => absent (List.mem_cons_of_mem _ member)
    rw [put, if_neg apart, ih later, List.cons_append]

/-- Pairs with new keys, each of them once, come last in their order. The induction is on the pairs that are entered. -/
theorem putAll_eq_append {m entries : OrderedMap α β} (once : (keys (m ++ entries)).Nodup) :
    putAll m entries = m ++ entries := by
  induction entries generalizing m with
  | nil => exact (List.append_nil m).symm
  | cons pair rest ih =>
    have absent : pair.1 ∉ keys m := fun member => by
      obtain ⟨other, there, same⟩ := List.mem_map.mp member
      exact ne_of_mem_around once (List.mem_append_left _ there) same
    change putAll (put pair.1 pair.2 m) rest = _
    rw [put_eq_append absent, List.append_cons m pair rest]
    rw [List.append_cons] at once
    exact ih once

/-- Pairs with different keys are the map with these pairs. -/
theorem ofPairs_eq_self {pairs : List (α × β)} (once : (pairs.map (·.1)).Nodup) : ofPairs pairs = pairs :=
  putAll_eq_append once

/-- In a map that holds each key once, every pair is what is found under its key. -/
theorem get?_of_mem {pair : α × β} {m : OrderedMap α β} (once : (keys m).Nodup) (member : pair ∈ m) :
    get? pair.1 m = some pair.2 := by
  induction m with
  | nil => simp at member
  | cons first rest ih =>
    obtain ⟨k, v⟩ := first
    obtain ⟨absent, later⟩ := List.nodup_cons.mp once
    rcases List.mem_cons.mp member with same | there
    · subst same
      simp [get?]
    · have apart : k ≠ pair.1 := fun same => absent (List.mem_map.mpr ⟨pair, there, same.symm⟩)
      simpa [get?, apart] using ih later there

/-- Putting a value enters its key at the end, if the map does not have it. A key that is there keeps its place. -/
theorem keys_put (key : α) (value : β) (m : OrderedMap α β) :
    keys (put key value m) = if key ∈ keys m then keys m else keys m ++ [key] := by
  induction m with
  | nil => simp [put, keys]
  | cons pair rest ih =>
    obtain ⟨k, v⟩ := pair
    by_cases h : k = key
    · simp [put, h, keys]
    · have apart : ¬key = k := Ne.symm h
      have step : keys (put key value ((k, v) :: rest)) = k :: keys (put key value rest) := by
        rw [put, if_neg h]
        rfl
      change _ = if key ∈ k :: keys rest then k :: keys rest else k :: keys rest ++ [key]
      rw [step, ih]
      by_cases there : key ∈ keys rest <;> simp [apart, there]

/-- Erasing a key leaves the other keys in their order. -/
theorem keys_erase (key : α) (m : OrderedMap α β) : keys (erase key m) = (keys m).filter (· ≠ key) := by
  induction m with
  | nil => rfl
  | cons pair rest ih =>
    obtain ⟨k, v⟩ := pair
    by_cases h : k = key
    · simpa [erase, h, keys] using ih
    · simpa [erase, h, keys] using ih

/-- Entering pairs into a map that holds each key once gives another. The induction is on the pairs that are entered. -/
theorem nodup_putAll {m entries : OrderedMap α β} (once : (keys m).Nodup) : (keys (putAll m entries)).Nodup := by
  induction entries generalizing m with
  | nil => exact once
  | cons pair entries ih => exact ih (nodup_put once)

/-- In maps that hold each key once, the order of the pairs makes no difference to what is found. Under each key there
is one pair to be found. -/
theorem get?_perm {m other : OrderedMap α β} (once : (keys m).Nodup) (same : other.Perm m) (key : α) :
    get? key other = get? key m := by
  have keysPerm : (keys other).Perm (keys m) := same.map _
  have once' : (keys other).Nodup := keysPerm.nodup_iff.mpr once
  exact Option.ext fun value =>
    ⟨fun found => get?_of_mem once (same.mem_iff.mp (mem_of_get? found)),
      fun found => get?_of_mem once' (same.mem_iff.mpr (mem_of_get? found))⟩

/-- The value of the last of several pairs with a key. -/
def last? (key : α) (pairs : List (α × β)) : Option β :=
  pairs.reverse.findSome? fun pair => if pair.1 = key then some pair.2 else none

/-- Of two lists the second comes first. The first is asked for what the second does not have. -/
theorem last?_append (key : α) (before after : List (α × β)) :
    last? key (before ++ after) = (last? key after).or (last? key before) := by
  rw [last?, List.reverse_append, List.findSome?_append]
  rfl

/-- What is entered into a map comes before what was there, and of several values for a key the last counts. -/
theorem get?_putAll (key : α) (m entries : OrderedMap α β) :
    get? key (putAll m entries) = (last? key entries).or (get? key m) := by
  induction entries generalizing m with
  | nil => rfl
  | cons pair entries ih =>
    change get? key (putAll (put pair.1 pair.2 m) entries) = _
    rw [ih, get?_put, ← List.singleton_append, last?_append, Option.or_assoc]
    by_cases h : pair.1 = key <;> simp [last?, h]

/-- In a map that holds each key once the last pair with a key is the only one. So the last counts no more than the
first. -/
theorem last?_eq_get? {key : α} {m : OrderedMap α β} (once : (keys m).Nodup) : last? key m = get? key m := by
  have entered : get? key (ofPairs m) = (last? key m).or none := get?_putAll key [] m
  rw [ofPairs_eq_self once, Option.or_none] at entered
  exact entered.symm

end OrderedMap

end ChestMenu
