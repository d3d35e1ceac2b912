import Mathlib.Data.List.Basic
import Mathlib.Data.List.Induction
import Shorthand.Element.Basic

/-!
# Attributes grouped by their keys

An attribute map is built by inserting one pair at a time, into the entry of its key or behind all
entries. What comes out can be said of the pairs as a whole: one entry for each key, in the order
in which the keys are met, with all values of the key in the order in which they were inserted
(`entries_insertAll`). For an element this settles what becomes of an id or a class that is also
written as an attribute: it joins the one in the shorthand, which comes first.
-/

namespace Shorthand

namespace Attribute

/-- The values that stand under a key, in order. -/
def valuesUnder (key : String) (pairs : List (String × String)) : List String :=
  (pairs.filter (·.1 = key)).map (·.2)

/-- The values that stand under a key as one value, with a space between each and the next. -/
def joinedUnder (key : String) (pairs : List (String × String)) : String :=
  " ".intercalate (valuesUnder key pairs)

/-- One entry for each key, at the place where the key is met first. -/
def grouped (pairs : List (String × String)) : List (String × String) :=
  (pairs.map (·.1)).eraseDups.map fun key => (key, joinedUnder key pairs)

/-! ## Values under a key -/

theorem valuesUnder_append (key : String) (first second : List (String × String)) :
    valuesUnder key (first ++ second) = valuesUnder key first ++ valuesUnder key second := by
  rw [valuesUnder, List.filter_append, List.map_append]
  rfl

theorem valuesUnder_eq_nil_iff {key : String} {pairs : List (String × String)} :
    valuesUnder key pairs = [] ↔ key ∉ pairs.map (·.1) := by
  simp only [valuesUnder, List.map_eq_nil_iff, List.filter_eq_nil_iff, decide_eq_true_eq,
    List.mem_map, not_exists, not_and]

theorem joinedUnder_concat_of_ne {key other : String} (h : key ≠ other) (value : String)
    (pairs : List (String × String)) :
    joinedUnder key (pairs ++ [(other, value)]) = joinedUnder key pairs := by
  have nothing : valuesUnder key [(other, value)] = [] := by
    simpa [valuesUnder_eq_nil_iff] using h
  rw [joinedUnder, valuesUnder_append, nothing, List.append_nil]
  rfl

theorem joinedUnder_concat (key value : String) (pairs : List (String × String)) :
    joinedUnder key (pairs ++ [(key, value)]) =
      if key ∈ pairs.map (·.1) then joinValues (joinedUnder key pairs) value else value := by
  have one : valuesUnder key [(key, value)] = [value] := by simp [valuesUnder]
  rw [joinedUnder, valuesUnder_append, one]
  by_cases found : key ∈ pairs.map (·.1)
  · have some_value : valuesUnder key pairs ≠ [] := fun nothing =>
      valuesUnder_eq_nil_iff.1 nothing found
    rw [if_pos found, String.intercalate_append_of_ne_nil some_value (List.cons_ne_nil value []),
      String.intercalate_singleton]
    rfl
  · rw [if_neg found, valuesUnder_eq_nil_iff.2 found, List.nil_append,
      String.intercalate_singleton]

/-! ## Insertion -/

theorem eraseDups_concat (keys : List String) (key : String) :
    (keys ++ [key]).eraseDups = if key ∈ keys then keys.eraseDups else keys.eraseDups ++ [key] := by
  rw [List.eraseDups_append]
  by_cases found : key ∈ keys <;> simp [List.removeAll, found, List.eraseDups_cons]

/-- Inserting into entries whose keys are all different changes the entry of the key. -/
theorem insertEntry_map {keys : List String} (nodup : keys.Nodup) (f : String → String)
    (key value : String) :
    insertEntry key value (keys.map fun k => (k, f k)) =
      if key ∈ keys then keys.map fun k => (k, if k = key then joinValues (f k) value else f k)
      else keys.map (fun k => (k, f k)) ++ [(key, value)] := by
  induction keys with
  | nil => rfl
  | cons first keys ih =>
    obtain ⟨fresh, nodup⟩ := List.nodup_cons.1 nodup
    rw [List.map_cons, insertEntry]
    by_cases same : first = key
    · subst same
      have others : keys.map (fun k => (k, if k = first then joinValues (f k) value else f k)) =
          keys.map fun k => (k, f k) := by
        refine List.map_congr_left fun k member => ?_
        rw [if_neg]
        rintro rfl
        exact fresh member
      simp [others]
    · rw [if_neg same, ih nodup]
      have other : key ≠ first := fun h => same h.symm
      by_cases found : key ∈ keys <;> simp [found, same, other]

theorem keys_grouped (pairs : List (String × String)) :
    (grouped pairs).map (·.1) = (pairs.map (·.1)).eraseDups := by
  rw [grouped, List.map_map]
  exact List.map_id _

theorem insertEntry_grouped {pairs : List (String × String)}
    (nodup : ((grouped pairs).map (·.1)).Nodup) (key value : String) :
    insertEntry key value (grouped pairs) = grouped (pairs ++ [(key, value)]) := by
  rw [keys_grouped] at nodup
  rw [grouped, insertEntry_map nodup, grouped, List.map_append, List.map_singleton,
    eraseDups_concat]
  simp only [List.mem_eraseDups]
  by_cases found : key ∈ pairs.map (·.1)
  · rw [if_pos found, if_pos found]
    refine List.map_congr_left fun k _ => ?_
    by_cases same : k = key
    · rw [if_pos same, same, joinedUnder_concat, if_pos found]
    · rw [if_neg same, joinedUnder_concat_of_ne same]
  · rw [if_neg found, if_neg found, List.map_append, List.map_singleton, joinedUnder_concat,
      if_neg found]
    refine congrArg (· ++ [(key, value)]) (List.map_congr_left fun k member => ?_)
    have other : k ≠ key := by
      rintro rfl
      exact found (List.mem_eraseDups.1 member)
    rw [joinedUnder_concat_of_ne other]

theorem lookup_grouped (key : String) (pairs : List (String × String)) :
    (grouped pairs).lookup key =
      if key ∈ pairs.map (·.1) then some (joinedUnder key pairs) else none := by
  by_cases found : key ∈ pairs.map (·.1)
  · rw [if_pos found, grouped, List.lookup_graph _ (List.mem_eraseDups.2 found)]
  · rw [if_neg found, List.lookup_eq_none_iff]
    intro entry member
    have known : entry.1 ∈ (grouped pairs).map (·.1) := List.mem_map_of_mem member
    rw [keys_grouped, List.mem_eraseDups] at known
    rw [bne_iff_ne]
    rintro rfl
    exact found known

/-! ## The first of several keys -/

theorem valuesUnder_filter_ne {key other : String} (h : key ≠ other)
    (pairs : List (String × String)) :
    valuesUnder key (pairs.filter (·.1 ≠ other)) = valuesUnder key pairs := by
  rw [valuesUnder, List.filter_filter, valuesUnder]
  congr 1
  refine List.filter_congr fun pair _ => ?_
  by_cases same : pair.1 = key <;> simp [same, h]

theorem valuesUnder_map (key : String) (values : List String) :
    valuesUnder key (values.map fun value => (key, value)) = values := by
  simp [valuesUnder, List.filter_map, Function.comp_def]

theorem valuesUnder_map_of_ne {key other : String} (h : key ≠ other) (values : List String) :
    valuesUnder key (values.map fun value => (other, value)) = [] := by
  simp [valuesUnder, h.symm]

/-- The key that is met first has the first entry, with all values under it; the others are grouped
without it. -/
theorem grouped_cons (key value : String) (pairs : List (String × String)) :
    grouped ((key, value) :: pairs) =
      (key, " ".intercalate (value :: valuesUnder key pairs)) ::
        grouped (pairs.filter (·.1 ≠ key)) := by
  have first : joinedUnder key ((key, value) :: pairs) =
      " ".intercalate (value :: valuesUnder key pairs) := by
    simp [joinedUnder, valuesUnder]
  have others : (pairs.map (·.1)).filter (fun k => !k == key) =
      (pairs.filter (·.1 ≠ key)).map (·.1) := by
    rw [List.filter_map]
    refine congrArg _ (List.filter_congr fun pair _ => ?_)
    by_cases same : pair.1 = key <;> simp [same]
  rw [grouped, List.map_cons, List.eraseDups_cons, List.map_cons, first, others]
  refine congrArg (_ :: ·) (List.map_congr_left fun k member => ?_)
  have other : k ≠ key := by
    rw [List.mem_eraseDups, ← others, List.mem_filter] at member
    simpa using member.2
  have same : valuesUnder k ((key, value) :: pairs) = valuesUnder k pairs := by
    simp [valuesUnder, other.symm]
  rw [joinedUnder, same, ← valuesUnder_filter_ne other]
  rfl

theorem grouped_run {values : List String} (some_value : values ≠ []) (key : String)
    (others : List (String × String)) :
    grouped (values.map (fun value => (key, value)) ++ others) =
      (key, " ".intercalate (values ++ valuesUnder key others)) ::
        grouped (others.filter (·.1 ≠ key)) := by
  cases values with
  | nil => exact absurd rfl some_value
  | cons value values =>
    have none_left : (values.map fun value => (key, value)).filter (·.1 ≠ key) = [] := by simp
    rw [List.map_cons, List.cons_append, grouped_cons, valuesUnder_append, valuesUnder_map,
      List.filter_append, none_left, List.nil_append, List.cons_append]

end Attribute

namespace AttributeMap

open Attribute (grouped joinedUnder)

/-! ## A map of many insertions -/

/-- A map with one entry for each key of some pairs, in the order of the first pairs of the keys,
under which all values of the key stand with spaces between them. -/
structure Groups (map : AttributeMap) (pairs : List (String × String)) : Prop where
  distinct : map.keys.Nodup
  keys : map.keys = (pairs.map (·.1)).eraseDups
  entries : map.entries = map.keys.map fun key => (key, joinedUnder key pairs)
  get : ∀ key, map.get? key = if key ∈ pairs.map (·.1) then some (joinedUnder key pairs) else none
  contains : ∀ key, map.contains key = true ↔ key ∈ pairs.map (·.1)
  size : map.size = (pairs.map (·.1)).eraseDups.length

theorem entries_insertAll (pairs : List (String × String)) :
    (empty.insertAll pairs).entries = grouped pairs := by
  induction pairs using List.reverseRecOn with
  | nil => rfl
  | append_singleton pairs pair ih =>
    have nodup := (empty.insertAll pairs).nodup
    rw [ih] at nodup
    have inserted : empty.insertAll (pairs ++ [pair]) =
        (empty.insertAll pairs).insert pair.1 pair.2 := List.foldl_append
    rw [inserted, entries_insert, ih, Attribute.insertEntry_grouped nodup]

theorem groups_insertAll (pairs : List (String × String)) :
    (empty.insertAll pairs).Groups pairs := by
  have entries := entries_insertAll pairs
  have keys : (empty.insertAll pairs).keys = (pairs.map (·.1)).eraseDups := by
    rw [AttributeMap.keys, entries, Attribute.keys_grouped]
  have get (key : String) : (empty.insertAll pairs).get? key =
      if key ∈ pairs.map (·.1) then some (joinedUnder key pairs) else none := by
    rw [get?, entries, Attribute.lookup_grouped]
  refine ⟨(empty.insertAll pairs).nodup, keys, ?_, get, ?_, ?_⟩
  · rw [keys, entries]
    rfl
  · intro key
    rw [AttributeMap.contains, get]
    by_cases found : key ∈ pairs.map (·.1) <;> simp [found]
  · rw [AttributeMap.size, ← keys, AttributeMap.keys, List.length_map]

end AttributeMap

namespace Element

open Attribute (grouped valuesUnder readPair?)

/-! ## The attributes of an element -/

/-- The entries of an id and of classes in shorthand, each with what is written out under the same
name behind it. -/
def shorthandEntries (id : String) (classes : List String) (explicit : List (String × String)) :
    List (String × String) :=
  (if id = "" then [] else [("id", " ".intercalate (id :: valuesUnder "id" explicit))]) ++
    if classes = [] then []
    else [("class", " ".intercalate (classes ++ valuesUnder "class" explicit))]

theorem shorthandEntries_prefix (id : String) (classes : List String)
    (explicit : List (String × String)) :
    shorthandEntries id classes explicit <+:
      grouped ((if id = "" then [] else [("id", id)]) ++
        classes.map (fun token => ("class", token)) ++ explicit) := by
  have behind_id (others : List (String × String)) :
      (if classes = [] then []
        else [("class", " ".intercalate (classes ++ valuesUnder "class" others))]) <+:
      grouped (classes.map (fun token => ("class", token)) ++ others) := by
    by_cases no_class : classes = []
    · rw [if_pos no_class]
      exact List.nil_prefix
    · rw [if_neg no_class, Attribute.grouped_run no_class, ← List.singleton_append]
      exact List.prefix_append ..
  unfold shorthandEntries
  by_cases no_id : id = ""
  · rw [if_pos no_id, if_pos no_id, List.nil_append, List.nil_append]
    exact behind_id explicit
  · have classes_kept : (classes.map fun token => ("class", token)).filter (·.1 ≠ "id") =
        classes.map fun token => ("class", token) := by
      simp [List.filter_eq_self]
    have first := Attribute.grouped_run (List.cons_ne_nil id []) "id"
      (classes.map (fun token => ("class", token)) ++ explicit)
    rw [Attribute.valuesUnder_append, Attribute.valuesUnder_map_of_ne (by decide),
      List.filter_append, classes_kept] at first
    have others := behind_id (explicit.filter (·.1 ≠ "id"))
    rw [Attribute.valuesUnder_filter_ne (by decide)] at others
    rw [if_neg no_id, if_neg no_id, List.append_assoc]
    show _ <+: grouped ([id].map (fun value => ("id", value)) ++ _)
    rw [first]
    exact List.cons_prefix_cons.2 ⟨rfl, others⟩

/-- **Attributes accumulate.** Whatever is inserted, there is one entry for each key, in the order
in which the keys are met, and it holds all values of the key, in order, with spaces between them.
The attributes of an element are its id, its classes and its raw attributes that are pairs, inserted
in this order; so an id or a class that is written out stays behind the one in shorthand and takes
no place of its own. -/
theorem attributes_grouped :
    (∀ pairs, (AttributeMap.empty.insertAll pairs).Groups pairs) ∧
    ∀ tag id classTokens rawAttributes text,
      (ofShorthand tag id classTokens rawAttributes text).attributes.Groups
          ((if id = "" then [] else [("id", id)]) ++
            (classTokens.drop 1).map (fun token => ("class", token)) ++
            rawAttributes.filterMap readPair?) ∧
        shorthandEntries id (classTokens.drop 1) (rawAttributes.filterMap readPair?) <+:
          (ofShorthand tag id classTokens rawAttributes text).attributes.entries := by
  refine ⟨AttributeMap.groups_insertAll, ?_⟩
  intro tag id classTokens rawAttributes text
  refine ⟨AttributeMap.groups_insertAll _, ?_⟩
  show _ <+: (AttributeMap.empty.insertAll _).entries
  rw [AttributeMap.entries_insertAll]
  exact shorthandEntries_prefix id (classTokens.drop 1) (rawAttributes.filterMap readPair?)

example : (ofShorthand "a" "home" ["", "nav", "active"] ["href=\"/\"", "class=\"wide\"", "id=\"x"]
    "Home").attributes.entries =
      [("id", "home"), ("class", "nav active wide"), ("href", "/")] := by decide +kernel

end Element

end Shorthand
