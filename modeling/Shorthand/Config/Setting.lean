import Shorthand.Text.LowerCase
import Shorthand.Toml.Number
import Shorthand.Toml.Value

/-!
# Settings

Settings are a table of texts, numbers, truth values, lists and tables that is put together
layer by layer. A later layer goes over an earlier one key by key: tables are merged, and every
other value takes the place of what was there (`overlay`). Keys are put into lower case when
they are merged. A key at the top of a file may be the place of a setting further down
(`Place.read?`).

This stands for the `config` library. It is taken to read its sources in the order in which they
were added, to merge tables key by key with later values in the place of earlier ones, and to name
the file that a list or a table comes from.
-/

namespace Shorthand.Config

/-- A value that holds no other values. -/
inductive Scalar where
  | text (value : String)
  | integer (value : Int)
  | floating (value : Toml.Floating)
  | boolean (value : Bool)
deriving DecidableEq, Repr

/-- The value as text. -/
def Scalar.asText : Scalar → String
  | text value => value
  | integer value => toString value
  | floating value => value.text
  | boolean value => if value then "true" else "false"

/-- A setting. Lists and tables know the file they come from; a table that was put together
from layers comes from none. -/
inductive Setting where
  /-- An item that was never set. -/
  | nothing
  | scalar (value : Scalar)
  | list (origin : Option String) (items : List Setting)
  | table (origin : Option String) (entries : List (String × Setting))
deriving Inhabited

/-- The entries of a table of settings. -/
abbrev Entries := List (String × Setting)

namespace Entries

/-- Gives a key a setting: in the place of its old one, or as the last entry. -/
def put (key : String) (setting : Setting) : Entries → Entries
  | [] => [(key, setting)]
  | entry :: rest =>
    if entry.1 = key then (key, setting) :: rest else entry :: put key setting rest

theorem lookup_put_self (key : String) (setting : Setting) (entries : Entries) :
    (put key setting entries).lookup key = some setting := by
  induction entries with
  | nil => simp [put]
  | cons entry rest ih =>
    obtain ⟨name, old⟩ := entry
    rw [put]
    by_cases h : name = key
    · simp [h]
    · have h' : (key == name) = false := by simpa using fun e => h e.symm
      simp [h, List.lookup_cons, h', ih]

theorem lookup_put_of_ne {key other : String} (ne : other ≠ key) (setting : Setting)
    (entries : Entries) : (put key setting entries).lookup other = entries.lookup other := by
  induction entries with
  | nil =>
    have h : (other == key) = false := by simpa using ne
    simp [put, List.lookup_cons, h]
  | cons entry rest ih =>
    obtain ⟨name, old⟩ := entry
    rw [put]
    by_cases h : name = key
    · subst h
      have h' : (other == name) = false := by simpa using ne
      simp [List.lookup_cons, h']
    · simp [h, List.lookup_cons, ih]

end Entries

/-! ## One value -/

/-- The settings of a table; nothing else has any. -/
def Setting.entries : Setting → Entries
  | table _ entries => entries
  | _ => []

/-- The items of a list; nothing else has any. -/
def Setting.items : Setting → List Setting
  | list _ items => items
  | _ => []

/-- A table with other entries in the place of a setting. Only a table hands on its origin. -/
def Setting.withEntries (setting : Setting) (entries : Entries) : Setting :=
  match setting with
  | table origin _ => table origin entries
  | _ => table none entries

/-- A list with other items in the place of a setting. Only a list hands on its origin. -/
def Setting.withItems (setting : Setting) (items : List Setting) : Setting :=
  match setting with
  | list origin _ => list origin items
  | _ => list none items

mutual

/-- The setting that a value in a file stands for. -/
def Setting.ofToml (origin : String) : Toml.Value → Setting
  | .text value => .scalar (.text value)
  | .integer value => .scalar (.integer value)
  | .floating value => .scalar (.floating value)
  | .boolean value => .scalar (.boolean value)
  | .moment text => .scalar (.text text)
  | .array _ items => .list (some origin) (listOfToml origin items)
  | .table _ entries => .table (some origin) (entriesOfToml origin entries)

/-- The settings that values in a file stand for. -/
def listOfToml (origin : String) : List Toml.Value → List Setting
  | [] => []
  | value :: rest => Setting.ofToml origin value :: listOfToml origin rest

/-- The settings that the entries of a table in a file stand for. -/
def entriesOfToml (origin : String) : List (String × Toml.Value) → Entries
  | [] => []
  | entry :: rest => entryOfToml origin entry :: entriesOfToml origin rest

/-- The setting that one entry of a table in a file stands for. -/
def entryOfToml (origin : String) : String × Toml.Value → String × Setting
  | (key, value) => (key, Setting.ofToml origin value)

end

/-! ## Layers -/

mutual

/-- A value in a file over the setting that was there. A table goes over a table entry by
entry, takes the place of anything else, and changes nothing when it is empty. -/
def overlay (origin : String) (old : Option Setting) : Toml.Value → Setting
  | .table _ entries =>
    match entries with
    -- there is no entry to lay over, so nothing is replaced
    | [] => old.getD (.table none [])
    | entry :: rest =>
      let here := old.getD .nothing
      here.withEntries (entriesOver origin (entryOver origin here.entries entry) rest)
  | other => Setting.ofToml origin other

/-- The entries of a table in a file over settings. -/
def entriesOver (origin : String) (current : Entries) : List (String × Toml.Value) → Entries
  | [] => current
  | entry :: rest => entriesOver origin (entryOver origin current entry) rest

/-- One entry of a table in a file over settings. -/
def entryOver (origin : String) (current : Entries) : String × Toml.Value → Entries
  | (key, value) =>
    let name := Text.lowerCase key
    current.put name (overlay origin (current.lookup name) value)

end

/-! ## Places -/

/-- A step from a setting to one inside it. -/
inductive Step where
  /-- To an entry of a table. -/
  | key (name : String)
  /-- To an item of a list; a negative index counts from the end. -/
  | item (index : Int)
deriving DecidableEq, Repr

/-- The place of a setting: the key at the top, and the steps from there. -/
structure Place where
  top : String
  steps : List Step
deriving DecidableEq, Repr

/-- Whether a character may stand in a name of a place. -/
def isNameChar (c : Char) : Bool := c.isAlphanum || c = '_' || c = '-' || c = ' '

/-- Whether a character may stand around an index. -/
def isIndexSpace (c : Char) : Bool := c = ' ' || c = '\t'

/-- Reads an index between brackets. It must fit into 64 bits with a sign. -/
def readIndex? (text : List Char) : Option Int :=
  let inner := ((text.dropWhile isIndexSpace).reverse.dropWhile isIndexSpace).reverse
  let (negative, digits) := match inner with
    | '-' :: digits => (true, digits)
    | digits => (false, digits)
  if digits = [] ∨ !digits.all Char.isDigit then none
  else
    let size : Int := Toml.numeral 10 digits
    let index := if negative then -size else size
    if Int64.minValue.toInt ≤ index ∧ index ≤ Int64.maxValue.toInt then some index else none

/-- Reads steps: names behind dots and indices between brackets. -/
def readSteps? (text : List Char) : Option (List Step) :=
  match text with
  | [] => some []
  | '.' :: rest =>
    let name := rest.takeWhile isNameChar
    if name = [] then none
    else (readSteps? (rest.dropWhile isNameChar)).map (.key (String.ofList name) :: ·)
  | '[' :: rest =>
    match readIndex? (rest.takeWhile (· ≠ ']')), _h : rest.dropWhile (· ≠ ']') with
    | some index, _ :: after => (readSteps? after).map (.item index :: ·)
    | _, _ => none
  | _ => none
termination_by text.length
decreasing_by
  · have := (List.dropWhile_suffix (p := isNameChar) (l := rest)).length_le
    simp only [List.length_cons]
    omega
  · have := (List.dropWhile_suffix (p := (· ≠ ']')) (l := rest)).length_le
    rw [_h] at this
    simp only [List.length_cons] at this ⊢
    omega

/-- Reads a place: a name and steps. -/
def Place.read? (key : String) : Option Place :=
  let top := key.toList.takeWhile isNameChar
  if top = [] then none
  else (readSteps? (key.toList.dropWhile isNameChar)).map (Place.mk (String.ofList top))

/-- Changes the item at an index. A list that is too short is filled up; an index before the
first item changes nothing. -/
def changeItem (index : Int) (change : Setting → Setting) (items : List Setting) : List Setting :=
  let position := if 0 ≤ index then index else items.length + index
  if position < 0 then items
  else
    (items ++ List.replicate (position.toNat + 1 - items.length) Setting.nothing).modify
      position.toNat change

/-- Lays a value of a file over what is found by steps from a setting. What stands in the way
gives way, to a table for a name and to a list for an index. Only the last name is put into
lower case. -/
def setInside (origin : String) (value : Toml.Value) (step : Step) :
    List Step → Setting → Setting
  | [], here =>
    match step with
    | .key name => here.withEntries (entryOver origin here.entries (name, value))
    | .item index =>
      here.withItems (changeItem index (fun _ => Setting.ofToml origin value) here.items)
  | next :: rest, here =>
    match step with
    | .key name =>
      let inner := (here.entries.lookup name).getD .nothing
      here.withEntries (here.entries.put name (setInside origin value next rest inner))
    | .item index =>
      here.withItems (changeItem index (setInside origin value next rest) here.items)

/-- Lays a top-level entry of a file over settings. A key that does not read as a place is a
key of its own. -/
def topEntryOver (origin : String) (current : Entries) (entry : String × Toml.Value) : Entries :=
  match Place.read? entry.1 with
  | some ⟨top, step :: rest⟩ =>
    let inner := (current.lookup top).getD .nothing
    current.put top (setInside origin entry.2 step rest inner)
  | _ => entryOver origin current entry

/-- Lays a file over settings. -/
def layerOver (origin : String) (file : Toml.Entries) (current : Entries) : Entries :=
  file.foldl (topEntryOver origin) current

end Shorthand.Config
