import Shorthand.Element.Rows
import Shorthand.Forest.Builder

/-!
# Outlines

The outline of a forest is its preorder walk: one entry for each element, with the depth at which
it stands and everything it carries itself. Two facts make it the right view of a builder. A
forest can be read off its outline (`outlineAt_injective`), since the depths alone say who is
whose child. And a builder has an outline before its forest exists: closing an element only moves
it from the chain of open elements to its parent (`outline_closeInnermost`), so an element that is
settled becomes the last entry and changes no other (`outline_settle`).
-/

namespace Shorthand

/-- What a row says of its element alone. The number of children is left out, because the rows
that follow show it. -/
structure Entry where
  depth : Nat
  name : String
  attributes : AttributeMap
  text : Option String
deriving DecidableEq

/-- The entry the given number of levels further down. -/
def Entry.lower (levels : Nat) (entry : Entry) : Entry :=
  { entry with depth := entry.depth + levels }

def Row.entry (row : Row) : Entry := ⟨row.depth, row.name, row.attributes, row.text⟩

namespace Element

def entryAt (depth : Nat) (element : Element) : Entry :=
  ⟨depth, element.name, element.attributes, element.text⟩

/-- The preorder walk of elements that stand next to each other at the given depth. -/
def outlineAt (depth : Nat) (forest : List Element) : List Entry :=
  (forestRowsAt depth forest).map Row.entry

/-! ## Walking a forest -/

@[simp] theorem outlineAt_nil (depth : Nat) : outlineAt depth [] = [] := rfl

theorem outlineAt_cons (depth : Nat) (element : Element) (rest : List Element) :
    outlineAt depth (element :: rest) =
      element.entryAt depth :: outlineAt (depth + 1) element.children ++ outlineAt depth rest := by
  obtain ⟨name, attributes, children, text⟩ := element
  simp only [outlineAt, forestRowsAt, rowsAt, List.map_append, List.map_cons]
  rfl

theorem outlineAt_append (depth : Nat) (first second : List Element) :
    outlineAt depth (first ++ second) = outlineAt depth first ++ outlineAt depth second := by
  rw [outlineAt, forestRowsAt_append, List.map_append]
  rfl

theorem outlineAt_pushChild (depth : Nat) (parent child : Element) :
    outlineAt depth [parent.pushChild child] =
      outlineAt depth [parent] ++ outlineAt (depth + 1) [child] := by
  have children : (parent.pushChild child).children = parent.children ++ [child] := rfl
  have entry : (parent.pushChild child).entryAt depth = parent.entryAt depth := rfl
  simp only [outlineAt_cons, children, entry, outlineAt_append, outlineAt_nil, List.append_nil,
    List.cons_append]

/-- The walk of a forest that stands further down is the same walk further down. -/
theorem outlineAt_add (depth levels : Nat) (forest : List Element) :
    outlineAt (depth + levels) forest = (outlineAt depth forest).map (Entry.lower levels) := by
  -- the children of an element are walked before its siblings, so count all elements
  generalize size : (outlineAt depth forest).length = n
  induction n using Nat.strongRecOn generalizing depth forest with
  | ind n ih =>
    cases forest with
    | nil => rfl
    | cons element rest =>
      rw [outlineAt_cons] at size
      simp only [List.cons_append, List.length_cons, List.length_append] at size
      have below := ih _ (by omega) (depth + 1) element.children rfl
      have behind := ih _ (by omega) depth rest rfl
      rw [outlineAt_cons, outlineAt_cons, Nat.add_right_comm, below, behind, List.map_append,
        List.map_cons]
      rfl

theorem outlineAt_eq_map_lower (depth : Nat) (forest : List Element) :
    outlineAt depth forest = (outlineAt 0 forest).map (Entry.lower depth) := by
  rw [← outlineAt_add, Nat.zero_add]

/-- Nothing in a walk stands higher than where the walk starts. -/
theorem depth_le_of_mem_outlineAt {depth : Nat} {forest : List Element} {entry : Entry}
    (h : entry ∈ outlineAt depth forest) : depth ≤ entry.depth := by
  rw [outlineAt_eq_map_lower] at h
  obtain ⟨entry, -, rfl⟩ := List.mem_map.1 h
  exact Nat.le_add_left depth entry.depth

/-- The elements that stand next to each other are the entries at the depth of the walk. -/
theorem countP_outlineAt (depth : Nat) (forest : List Element) :
    (outlineAt depth forest).countP (·.depth = depth) = forest.length := by
  induction forest with
  | nil => rfl
  | cons element rest ih =>
    have below : (outlineAt (depth + 1) element.children).countP (·.depth = depth) = 0 := by
      rw [List.countP_eq_zero]
      intro entry member
      have := depth_le_of_mem_outlineAt member
      rw [decide_eq_true_eq]
      omega
    have here : decide ((element.entryAt depth).depth = depth) = true := decide_eq_true rfl
    rw [outlineAt_cons, List.countP_append, List.countP_cons, below, here, ih, if_pos rfl,
      List.length_cons]
    omega

/-! ## A forest from its outline -/

/-- The entries below the first element of a walk are those up to the next entry that is not
deeper than it. -/
theorem takeWhile_outlineAt (depth : Nat) (children rest : List Element) :
    (outlineAt (depth + 1) children ++ outlineAt depth rest).takeWhile (depth < ·.depth) =
      outlineAt (depth + 1) children := by
  rw [List.takeWhile_append_of_pos]
  · cases rest with
    | nil => simp
    | cons next rest =>
      have stop : ¬ depth < (next.entryAt depth).depth := Nat.lt_irrefl depth
      rw [outlineAt_cons, List.cons_append, List.takeWhile_cons_of_neg (by simpa using stop),
        List.append_nil]
  · intro entry h
    have := depth_le_of_mem_outlineAt h
    rw [decide_eq_true_eq]
    omega

theorem outlineAt_injective {depth : Nat} {first second : List Element}
    (h : outlineAt depth first = outlineAt depth second) : first = second := by
  generalize size : (outlineAt depth first).length = n
  induction n using Nat.strongRecOn generalizing depth first second with
  | ind n ih =>
    cases first with
    | nil =>
      cases second with
      | nil => rfl
      | cons element rest => rw [outlineAt_cons] at h; cases h
    | cons element rest =>
      cases second with
      | nil => rw [outlineAt_cons] at h; cases h
      | cons element' rest' =>
        rw [outlineAt_cons] at size
        simp only [List.cons_append, List.length_cons, List.length_append] at size
        rw [outlineAt_cons, outlineAt_cons, List.cons_append, List.cons_append] at h
        obtain ⟨entry, tails⟩ := List.cons.inj h
        have below : outlineAt (depth + 1) element.children =
            outlineAt (depth + 1) element'.children := by
          rw [← takeWhile_outlineAt depth element.children rest, tails, takeWhile_outlineAt]
        have behind : outlineAt depth rest = outlineAt depth rest' := by
          rw [below] at tails
          exact List.append_cancel_left tails
        have children := ih _ (by omega) below rfl
        have siblings := ih _ (by omega) behind rfl
        obtain ⟨name, attributes, _, text⟩ := element
        obtain ⟨name', attributes', _, text'⟩ := element'
        simp only [entryAt, Entry.mk.injEq] at entry
        obtain ⟨-, rfl, rfl, rfl⟩ := entry
        cases children
        cases siblings
        rfl

end Element

namespace ForestBuilder

open Element (outlineAt outlineAt_nil outlineAt_append outlineAt_pushChild)

/-- The walk of a chain of open elements, innermost first: an element stands as deep as there are
open elements around it. -/
def openOutline : List Element → List Entry
  | [] => []
  | inner :: outer => openOutline outer ++ outlineAt outer.length [inner]

/-- The walk of the forest as far as it is there: first the finished roots, then the chain of open
elements from the newest root down. -/
def outline (builder : ForestBuilder) : List Entry :=
  outlineAt 0 builder.finished ++ openOutline builder.opened

/-! ## What the operations do to the outline -/

@[simp] theorem outline_empty : empty.outline = [] := rfl

@[simp] theorem outline_closeInnermost (builder : ForestBuilder) :
    builder.closeInnermost.outline = builder.outline := by
  obtain ⟨finished, opened⟩ := builder
  match opened with
  | [] => rfl
  | [root] => simp [closeInnermost, outline, openOutline, outlineAt_append]
  | inner :: parent :: outer =>
    simp only [closeInnermost, outline, openOutline, outlineAt_pushChild, List.length_cons,
      List.append_assoc]

@[simp] theorem outline_close (count : Nat) (builder : ForestBuilder) :
    (builder.close count).outline = builder.outline := by
  induction count generalizing builder with
  | zero => rfl
  | succ count ih => rw [close, ih, outline_closeInnermost]

@[simp] theorem outline_closeTo (builder : ForestBuilder) (height : Nat) :
    (builder.closeTo height).outline = builder.outline := outline_close _ builder

theorem outline_push (builder : ForestBuilder) (element : Element) :
    (builder.push element).outline = builder.outline ++ outlineAt builder.height [element] :=
  (List.append_assoc ..).symm

/-- **Settling appends**: the entries of a settled element come behind all others, at the depth
where it is settled. -/
theorem outline_settle {builder : ForestBuilder} {depth : Nat} (fits : depth ≤ builder.height)
    (element : Element) :
    (builder.settle depth element).outline = builder.outline ++ outlineAt depth [element] := by
  have height : (builder.closeTo depth).height = depth := by
    rw [height_closeTo]
    omega
  rw [settle, outline_push, outline_closeTo, height]

theorem outlineAt_forest (builder : ForestBuilder) :
    outlineAt 0 builder.forest = builder.outline := by
  rw [← outline_closeTo builder 0, outline, opened_closeTo_zero, openOutline, List.append_nil]
  rfl

end ForestBuilder

end Shorthand
