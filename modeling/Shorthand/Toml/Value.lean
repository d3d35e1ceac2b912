import Shorthand.Decimal.Basic

/-!
# TOML values

The values of a TOML document, and how a table grows while a document is read. A table can be
written in one place or in several: as a table under its own header, by headers of tables
inside it, by dotted keys, or inline. Each table remembers how it came to be, because that
decides what may still be added to it. Keys stand in the order in which they appear.
-/

namespace Shorthand.Toml

/-- How a table came to be. -/
inductive TableForm where
  /-- It has a header. -/
  | headed
  /-- It was needed for the header of a table inside it, and may still get a header. -/
  | implied
  /-- It was needed for a dotted key, and more dotted keys may go into it. -/
  | dotted
  /-- It was written inline; nothing can be added. -/
  | inline
deriving DecidableEq, Repr

/-- A floating point number: a finite one as its shortest decimal, zero with no digits. -/
inductive Floating where
  | finite (negative : Bool) (decimal : Decimal)
  | infinite (negative : Bool)
  | notANumber
deriving DecidableEq, Repr

/-- A TOML value. Dates and times are kept as their text. -/
inductive Value where
  | text (value : String)
  | integer (value : Int)
  | floating (value : Floating)
  | boolean (value : Bool)
  | moment (text : String)
  /-- An array; one whose items are tables with headers can grow. -/
  | array (growing : Bool) (items : List Value)
  | table (form : TableForm) (entries : List (String × Value))
deriving Inhabited

/-- The entries of a table. -/
abbrev Entries := List (String × Value)

mutual

/-- Tells values apart. -/
def Value.decEq : (first second : Value) → Decidable (first = second)
  | .text first, second => match second with
    | .text second => decidable_of_iff (first = second) (by simp)
    | .integer _ | .floating _ | .boolean _ | .moment _ | .array _ _ | .table _ _ => isFalse nofun
  | .integer first, second => match second with
    | .integer second => decidable_of_iff (first = second) (by simp)
    | .text _ | .floating _ | .boolean _ | .moment _ | .array _ _ | .table _ _ => isFalse nofun
  | .floating first, second => match second with
    | .floating second => decidable_of_iff (first = second) (by simp)
    | .text _ | .integer _ | .boolean _ | .moment _ | .array _ _ | .table _ _ => isFalse nofun
  | .boolean first, second => match second with
    | .boolean second => decidable_of_iff (first = second) (by simp)
    | .text _ | .integer _ | .floating _ | .moment _ | .array _ _ | .table _ _ => isFalse nofun
  | .moment first, second => match second with
    | .moment second => decidable_of_iff (first = second) (by simp)
    | .text _ | .integer _ | .floating _ | .boolean _ | .array _ _ | .table _ _ => isFalse nofun
  | .array growing items, second => match second with
    | .array growing' items' =>
      have := decEqItems items items'
      decidable_of_iff (growing = growing' ∧ items = items') (by simp)
    | .text _ | .integer _ | .floating _ | .boolean _ | .moment _ | .table _ _ => isFalse nofun
  | .table form entries, second => match second with
    | .table form' entries' =>
      have := decEqEntries entries entries'
      decidable_of_iff (form = form' ∧ entries = entries') (by simp)
    | .text _ | .integer _ | .floating _ | .boolean _ | .moment _ | .array _ _ => isFalse nofun

/-- Tells the items of arrays apart. -/
def decEqItems : (first second : List Value) → Decidable (first = second)
  | [], second => match second with
    | [] => isTrue rfl
    | _ :: _ => isFalse nofun
  | item :: rest, second => match second with
    | [] => isFalse nofun
    | item' :: rest' =>
      have := Value.decEq item item'
      have := decEqItems rest rest'
      decidable_of_iff (item = item' ∧ rest = rest') (by simp)

/-- Tells the entries of tables apart. -/
def decEqEntries : (first second : List (String × Value)) → Decidable (first = second)
  | [], second => match second with
    | [] => isTrue rfl
    | _ :: _ => isFalse nofun
  | entry :: rest, second => match second with
    | [] => isFalse nofun
    | entry' :: rest' =>
      have := decEqEntry entry entry'
      have := decEqEntries rest rest'
      decidable_of_iff (entry = entry' ∧ rest = rest') (by simp)

/-- Tells entries apart, by key and value. -/
def decEqEntry : (first second : String × Value) → Decidable (first = second)
  | (key, value), (key', value') =>
    have := Value.decEq value value'
    decidable_of_iff (key = key' ∧ value = value') (by simp)

end

instance : DecidableEq Value := Value.decEq

namespace Entries

/-- Gives a key a value: in the place of its old one, or as the last entry. -/
def put (key : String) (value : Value) : Entries → Entries
  | [] => [(key, value)]
  | entry :: rest => if entry.1 = key then (key, value) :: rest else entry :: put key value rest

/-- Adds a value under a key that must not be there. -/
def add? (key : String) (value : Value) (entries : Entries) : Option Entries :=
  if (entries.lookup key).isSome then none else some (entries ++ [(key, value)])

/-- Adds a value under a dotted key. The tables on the way are made if they are not there; a
table that is there must not have a header and must not be inline, and the last one must be
made by dotted keys. `mayTake` says whether the table at hand may take the value itself. -/
def addDotted? (key : String) (value : Value) (mayTake : Bool) :
    List String → Entries → Option Entries
  | [], entries => if mayTake then entries.add? key value else none
  | step :: path, entries =>
    match entries.lookup step with
    | none => (addDotted? key value true path []).map fun inner =>
        entries ++ [(step, .table .dotted inner)]
    | some (.table .dotted inner) => (addDotted? key value true path inner).map fun inner =>
        put step (.table .dotted inner) entries
    | some (.table .implied inner) => (addDotted? key value false path inner).map fun inner =>
        put step (.table .implied inner) entries
    | some _ => none

/-- Changes the table that a header path leads to. In an array of tables the path goes on in
the last one; a table that is not there is made. -/
def within? (change : Entries → Option Entries) : List String → Entries → Option Entries
  | [], entries => change entries
  | step :: path, entries =>
    match entries.lookup step with
    | none => (within? change path []).map fun inner =>
        entries ++ [(step, .table .implied inner)]
    | some (.table .inline _) => none
    | some (.table form inner) => (within? change path inner).map fun inner =>
        put step (.table form inner) entries
    | some (.array true items) =>
      match items.getLast? with
      | some (.table form inner) => (within? change path inner).map fun inner =>
          put step (.array true (items.dropLast ++ [.table form inner])) entries
      | _ => none
    | some _ => none

/-- Opens a table under a header: a new one, or one that other headers needed. -/
def openTable? (name : String) (entries : Entries) : Option Entries :=
  match entries.lookup name with
  | none => some (entries ++ [(name, .table .headed [])])
  | some (.table .implied inner) => some (put name (.table .headed inner) entries)
  | some _ => none

/-- Opens the next table of an array of tables. -/
def openItem? (name : String) (entries : Entries) : Option Entries :=
  match entries.lookup name with
  | none => some (entries ++ [(name, .array true [.table .headed []])])
  | some (.array true items) =>
    some (put name (.array true (items ++ [.table .headed []])) entries)
  | some _ => none

end Entries

/-! ## Statements -/

/-- A path of keys that is not empty: its last key and the keys before it. -/
structure KeyPath where
  before : List String
  last : String
deriving DecidableEq, Repr

/-- All keys of the path. -/
def KeyPath.all (path : KeyPath) : List String := path.before ++ [path.last]

/-- What one line of a document says. -/
inductive Statement where
  /-- Nothing. -/
  | blank
  /-- A key has a value in the current table. -/
  | entry (path : KeyPath) (value : Value)
  /-- The header of a table, which becomes the current one. -/
  | table (path : KeyPath)
  /-- The header of an item of an array of tables, which becomes the current table. -/
  | item (path : KeyPath)

/-- Carries out statements one after the other; `current` is the path of the current table. -/
def build? (current : List String) : List Statement → Entries → Option Entries
  | [], entries => some entries
  | .blank :: rest, entries => build? current rest entries
  | .entry path value :: rest, entries => do
    let entries ← entries.within? (Entries.addDotted? path.last value true path.before) current
    build? current rest entries
  | .table path :: rest, entries => do
    let entries ← entries.within? (Entries.openTable? path.last) path.before
    build? path.all rest entries
  | .item path :: rest, entries => do
    let entries ← entries.within? (Entries.openItem? path.last) path.before
    build? path.all rest entries

end Shorthand.Toml
