import Mathlib.Data.List.Basic
import Shorthand.Proofs.Forest.Placement

/-!
# Going down through last children

Elements can be collected without a builder: a plain list of roots is enough, if each new element
is put below the last root, as many last children down as its depth says (`attach`). The list and
a builder do not look alike, since a builder hands an element to its parent only when it is closed.
Seen from the walk they are the same. Both put the new element at the end of it, and as long as no
element brings children, both accept what stands at most one level below the last entry
(`attach_cases`, `Agrees.take`). For the last entry is the last child of the last child, and so on,
of the last root (`Element.appendBelow_cases`).
-/

namespace Shorthand

open Element (outlineAt outlineAt_cons outlineAt_nil outlineAt_append)

/-! ## Below an element -/

namespace Element

theorem outlineAt_ne_nil {forest : List Element} (some_element : forest ≠ []) (depth : Nat) :
    outlineAt depth forest ≠ [] := by
  cases forest with
  | nil => exact absurd rfl some_element
  | cons element rest =>
    rw [outlineAt_cons]
    exact List.cons_ne_nil _ _

theorem getLast?_outlineAt_append (depth : Nat) (others : List Element) (last : Element) :
    (outlineAt depth (others ++ [last])).getLast? = (outlineAt depth [last]).getLast? := by
  have some_entry := outlineAt_ne_nil (List.cons_ne_nil last []) depth
  rw [outlineAt_append, List.getLast?_append_of_ne_nil _ some_entry]

variable {parent last : Element}

/-- The walk of an element with children ends with the walk of its last child. -/
theorem outlineAt_of_getLast? (h : parent.children.getLast? = some last) (level : Nat) :
    outlineAt level [parent] =
      parent.entryAt level :: outlineAt (level + 1) parent.children.dropLast ++
        outlineAt (level + 1) [last] := by
  obtain ⟨others, children⟩ := List.getLast?_eq_some_iff.1 h
  rw [outlineAt_cons, outlineAt_nil, List.append_nil, children, List.dropLast_concat,
    outlineAt_append, List.cons_append]

theorem outlineAt_replaceLast (parent last : Element) (level : Nat) :
    outlineAt level [parent.replaceLast last] =
      parent.entryAt level :: outlineAt (level + 1) parent.children.dropLast ++
        outlineAt (level + 1) [last] := by
  have children : (parent.replaceLast last).children = parent.children.dropLast ++ [last] := rfl
  have entry : (parent.replaceLast last).entryAt level = parent.entryAt level := rfl
  have found : (parent.replaceLast last).children.getLast? = some last := List.getLast?_concat
  rw [outlineAt_of_getLast? found, entry, children, List.dropLast_concat]

/-- **Appending below**: as far as the last entry of the walk lies below the first, the way down is
open, and the walk of the child comes behind that of its new parent. Further down the way ends at
that last entry. -/
theorem appendBelow_cases (child : Element) (depth level : Nat) {entry : Entry}
    (h : (outlineAt level [parent]).getLast? = some entry) :
    (level + depth ≤ entry.depth ∧ ∃ after, parent.appendBelow child depth = .ok after ∧
        outlineAt level [after] =
          outlineAt level [parent] ++ outlineAt (level + depth + 1) [child]) ∨
      entry.depth < level + depth ∧
        parent.appendBelow child depth =
          .error (.noOpenChild entry.name (level + depth - entry.depth)) := by
  induction depth generalizing parent level with
  | zero =>
    have below := depth_le_of_mem_outlineAt (List.mem_of_getLast? h)
    exact .inl ⟨below, _, rfl, outlineAt_pushChild level parent child⟩
  | succ depth ih =>
    cases found : parent.children.getLast? with
    | none =>
      have childless : parent.children = [] := List.getLast?_eq_none_iff.1 found
      rw [outlineAt_cons, childless, outlineAt_nil, outlineAt_nil] at h
      obtain rfl : parent.entryAt level = entry := Option.some.inj h
      refine .inr ⟨show level < level + (depth + 1) by omega, ?_⟩
      rw [appendBelow_of_childless childless, show level + (depth + 1) -
        (parent.entryAt level).depth = depth + 1 from Nat.add_sub_cancel_left ..]
      rfl
    | some last =>
      rw [outlineAt_of_getLast? found, List.getLast?_append_of_ne_nil _
        (outlineAt_ne_nil (List.cons_ne_nil last []) _)] at h
      rw [appendBelow_of_getLast? found, show level + (depth + 1) = level + 1 + depth by omega]
      rcases ih (level + 1) h with ⟨fits, after, appended, walk⟩ | ⟨deep, refused⟩
      · refine .inl ⟨fits, parent.replaceLast after, by rw [appended]; rfl, ?_⟩
        rw [outlineAt_replaceLast, outlineAt_of_getLast? found, walk, List.append_assoc]
      · exact .inr ⟨deep, by rw [refused]; rfl⟩

end Element

/-! ## A plain list of roots -/

/-- Puts an element behind the roots that are at hand, or below the last of them as many levels down
as its depth says, and tells whether it went well. There may be no root, or no way down to the
depth. -/
def attach (roots : List Element) (call : Placement) : List Element × Bool :=
  match call.depth with
  | 0 => (roots ++ [call.element], true)
  | depth + 1 =>
    match roots.getLast? with
    | none => (roots, false)
    | some root =>
      (roots.dropLast ++ [(root.appendInPlace call.element depth).1],
        (root.appendInPlace call.element depth).2.isOk)

/-- The roots after all calls, whether they went well or not. -/
def attachAll (roots : List Element) (calls : List Placement) : List Element :=
  calls.foldl (fun roots call => (attach roots call).1) roots

theorem attachAll_concat (roots : List Element) (calls : List Placement) (call : Placement) :
    attachAll roots (calls ++ [call]) = (attach (attachAll roots calls) call).1 :=
  List.foldl_append

/-- The depth up to which an element can follow a walk: one level below its last entry. -/
def room (walk : List Entry) : Nat := walk.getLast?.elim 0 fun entry => entry.depth + 1

theorem room_concat (walk : List Entry) (entry : Entry) :
    room (walk ++ [entry]) = entry.depth + 1 := by
  rw [room, List.getLast?_concat]
  rfl

/-- A call is accepted as far down as the walk leaves room, and what it adds comes last. A call that
is refused leaves the roots as they are. -/
theorem attach_cases (roots : List Element) (call : Placement) :
    (call.depth ≤ room (outlineAt 0 roots) ∧ ∃ after, attach roots call = (after, true) ∧
        outlineAt 0 after = outlineAt 0 roots ++ call.entries) ∨
      room (outlineAt 0 roots) < call.depth ∧ attach roots call = (roots, false) := by
  obtain ⟨depth, element⟩ := call
  rw [Placement.entries_eq]
  cases depth with
  | zero => exact .inl ⟨Nat.zero_le _, _, rfl, outlineAt_append 0 roots [element]⟩
  | succ depth =>
    rcases List.eq_nil_or_concat' roots with rfl | ⟨others, root, rfl⟩
    · exact .inr ⟨Nat.succ_pos depth, rfl⟩
    · obtain ⟨entry, last⟩ := Option.isSome_iff_exists.1
        (List.getLast?_isSome.2 (Element.outlineAt_ne_nil (List.cons_ne_nil root []) 0))
      have room_eq : room (outlineAt 0 (others ++ [root])) = entry.depth + 1 := by
        rw [room, Element.getLast?_outlineAt_append, last]
        rfl
      have found : (others ++ [root]).getLast? = some root := List.getLast?_concat
      simp only [attach, found, List.dropLast_concat, room_eq, Element.appendInPlace_eq]
      rcases Element.appendBelow_cases element depth 0 last with
        ⟨fits, after, appended, walk⟩ | ⟨deep, refused⟩
      · refine .inl ⟨by omega, others ++ [after], by rw [appended]; rfl, ?_⟩
        rw [outlineAt_append, outlineAt_append, walk, Nat.zero_add, List.append_assoc]
      · exact .inr ⟨by omega, by rw [refused]; rfl⟩

/-! ## Builder and list -/

namespace ForestBuilder

/-- A builder and a list of roots with the same walk, where as many elements are open as the walk
leaves room for. -/
structure Agrees (builder : ForestBuilder) (roots : List Element) : Prop where
  outline : builder.outline = outlineAt 0 roots
  height : builder.height = room (outlineAt 0 roots)

theorem agrees_empty : empty.Agrees [] := ⟨rfl, rfl⟩

variable {builder : ForestBuilder} {roots : List Element}

theorem Agrees.forest_eq (h : builder.Agrees roots) : builder.forest = roots := by
  have walks : outlineAt 0 builder.forest = outlineAt 0 roots := by
    rw [outlineAt_forest, h.outline]
  exact Element.outlineAt_injective walks

theorem Agrees.place_cases (h : builder.Agrees roots) (call : Placement) :
    (call.depth ≤ builder.height ∧ ∃ after, attach roots call = (after, true) ∧
        outlineAt 0 after = outlineAt 0 roots ++ call.entries) ∨
      builder.height < call.depth ∧ attach roots call = (roots, false) := by
  rw [h.height]
  exact attach_cases roots call

theorem Agrees.refused_iff (h : builder.Agrees roots) (call : Placement) :
    (∃ cause, builder.place call.depth call.element = .error cause) ↔
      (attach roots call).2 = false := by
  rcases h.place_cases call with ⟨fits, after, attached, -⟩ | ⟨deep, refused⟩
  · simp [place_of_le fits, attached]
  · simp [place_of_lt deep, refused]

/-- An element without children is the whole of what a call adds, so the next one may stand one
level below it. -/
theorem Agrees.take (h : builder.Agrees roots) {call : Placement}
    (childless : call.element.children = []) :
    (builder.take call).Agrees (attach roots call).1 := by
  rcases h.place_cases call with ⟨fits, after, attached, walk⟩ | ⟨deep, refused⟩
  · have entries : call.entries = [call.element.entryAt call.depth] := by
      rw [Placement.entries_eq, outlineAt_cons, childless]
      rfl
    rw [attached]
    constructor
    · rw [outline_take fits, h.outline, walk]
    · rw [height_take fits, walk, entries, room_concat]
      rfl
  · rw [take_of_lt deep, refused]
    exact h

theorem agrees_takeAll {calls : List Placement}
    (childless : ∀ call ∈ calls, call.element.children = []) :
    (empty.takeAll calls).Agrees (attachAll [] calls) := by
  induction calls using List.reverseRecOn with
  | nil => exact agrees_empty
  | append_singleton calls call ih =>
    have before := ih fun other member => childless other (by simp [member])
    rw [takeAll_concat, attachAll_concat]
    exact before.take (childless call (by simp))

/-- **Stack and tree agree**: a builder and a list of roots that are offered the same elements
without children hold the same forest, refuse the same next call, and are not changed by a call
that is refused. -/
theorem forest_takeAll_eq {calls : List Placement}
    (childless : ∀ call ∈ calls, call.element.children = []) :
    (empty.takeAll calls).forest = attachAll [] calls ∧
      ∀ call : Placement,
        ((∃ cause, (empty.takeAll calls).place call.depth call.element = .error cause) ↔
            (attach (attachAll [] calls) call).2 = false) ∧
          ((attach (attachAll [] calls) call).2 = false →
            empty.takeAll (calls ++ [call]) = empty.takeAll calls ∧
              attachAll [] (calls ++ [call]) = attachAll [] calls) := by
  have agrees := agrees_takeAll childless
  refine ⟨agrees.forest_eq, fun call => ⟨agrees.refused_iff call, fun refused => ?_⟩⟩
  rcases agrees.place_cases call with ⟨-, after, attached, -⟩ | ⟨deep, unchanged⟩
  · rw [attached] at refused
    cases refused
  · rw [takeAll_concat, attachAll_concat, take_of_lt deep, unchanged]
    exact ⟨rfl, rfl⟩

/-- The first and the fourth element are refused, and after the last one there is no way down to
depth two. -/
theorem forest_takeAll_eq_uneven :
    ∃ calls : List Placement,
      calls.map (fun call => (call.depth, call.element.name)) =
        [(1, "i"), (0, "ul"), (1, "li"), (3, "q"), (2, "b"), (1, "li"), (0, "p")] ∧
      (∀ call ∈ calls, call.element.children = []) ∧
      (empty.takeAll calls).forest =
        [⟨"ul", .empty, [⟨"li", .empty, [⟨"b", .empty, [], none⟩], none⟩,
          ⟨"li", .empty, [], none⟩], none⟩, ⟨"p", .empty, [], none⟩] ∧
      ∃ cause, (empty.takeAll calls).place 2 ⟨"a", .empty, [], none⟩ = .error cause := by
  let calls : List Placement :=
    [(1, "i"), (0, "ul"), (1, "li"), (3, "q"), (2, "b"), (1, "li"), (0, "p")].map
      fun (depth, name) => ⟨depth, ⟨name, .empty, [], none⟩⟩
  have childless : ∀ call ∈ calls, call.element.children = [] := by decide
  obtain ⟨forest, refusals⟩ := forest_takeAll_eq childless
  refine ⟨calls, rfl, childless, forest.trans rfl, ?_⟩
  exact (refusals ⟨2, ⟨"a", .empty, [], none⟩⟩).1.2 rfl

end ForestBuilder

end Shorthand
