/-!
# Attribute maps

The attributes of one element. Keys stand in the order in which they were first inserted, no
key stands twice, and inserting under a key that is there puts the new value behind the old one
(`joinValues`). The order of keys after an insertion is `keys_insertEntry`.
-/

namespace Shorthand

namespace Attribute

/-- Two values of one key become one value with a space between them. -/
def joinValues (current addition : String) : String := current ++ " " ++ addition

/-- Inserts into a list of entries: behind the old value of the key if it is there, else as the
last entry. -/
def insertEntry (key value : String) : List (String × String) → List (String × String)
  | [] => [(key, value)]
  | entry :: rest =>
    if entry.1 = key then (entry.1, joinValues entry.2 value) :: rest
    else entry :: insertEntry key value rest

/-- Insertion keeps the keys and their order; a new key comes last. -/
theorem keys_insertEntry (key value : String) (entries : List (String × String)) :
    (insertEntry key value entries).map (·.1) =
      if key ∈ entries.map (·.1) then entries.map (·.1) else entries.map (·.1) ++ [key] := by
  induction entries with
  | nil => simp [insertEntry]
  | cons entry rest ih =>
    rw [insertEntry]
    by_cases h : entry.1 = key
    · simp [h]
    · have h' : ¬ key = entry.1 := fun e => h e.symm
      simp only [h, if_false, List.map_cons, ih, List.mem_cons, h', false_or]
      split <;> simp

theorem nodup_keys_insertEntry {entries : List (String × String)}
    (nodup : (entries.map (·.1)).Nodup) (key value : String) :
    ((insertEntry key value entries).map (·.1)).Nodup := by
  rw [keys_insertEntry]
  split
  · exact nodup
  · next h => exact List.nodup_append.2 ⟨nodup, by simp, by simpa using fun a b hab e => h (by
      simpa using ⟨b, e ▸ hab⟩)⟩

end Attribute

/-- The attributes of an element in the order of their first insertion. -/
structure AttributeMap where
  entries : List (String × String)
  nodup : (entries.map (·.1)).Nodup
deriving DecidableEq

namespace AttributeMap

/-- The map without attributes. -/
def empty : AttributeMap := ⟨[], by simp⟩

instance : EmptyCollection AttributeMap := ⟨empty⟩

instance : Inhabited AttributeMap := ⟨empty⟩

/-- Inserts a value under a key; a value that is there already stays in front of it. -/
def insert (map : AttributeMap) (key value : String) : AttributeMap :=
  ⟨Attribute.insertEntry key value map.entries, Attribute.nodup_keys_insertEntry map.nodup _ _⟩

/-- The value under a key. -/
def get? (map : AttributeMap) (key : String) : Option String := map.entries.lookup key

/-- Whether a key has a value. -/
def contains (map : AttributeMap) (key : String) : Bool := (map.get? key).isSome

/-- The number of keys. -/
def size (map : AttributeMap) : Nat := map.entries.length

/-- Whether there is no key. -/
def isEmpty (map : AttributeMap) : Bool := map.entries.isEmpty

/-- The keys in the order of their first insertion. -/
def keys (map : AttributeMap) : List String := map.entries.map (·.1)

/-- Inserts keys with values one after the other. -/
def insertAll (map : AttributeMap) (pairs : List (String × String)) : AttributeMap :=
  pairs.foldl (fun map pair => map.insert pair.1 pair.2) map

@[ext] theorem ext {a b : AttributeMap} (h : a.entries = b.entries) : a = b := by
  cases a
  cases b
  simpa using h

@[simp] theorem entries_empty : empty.entries = [] := rfl

@[simp] theorem entries_insert (map : AttributeMap) (key value : String) :
    (map.insert key value).entries = Attribute.insertEntry key value map.entries := rfl

theorem keys_insert (map : AttributeMap) (key value : String) :
    (map.insert key value).keys =
      if key ∈ map.keys then map.keys else map.keys ++ [key] :=
  Attribute.keys_insertEntry key value map.entries

end AttributeMap

end Shorthand
