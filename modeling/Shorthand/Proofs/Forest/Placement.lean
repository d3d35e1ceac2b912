import Mathlib.Data.List.Induction
import Shorthand.Proofs.Forest.Outline

/-!
# Runs of placements

A builder is offered elements in any order and at any depth. It refuses what is deeper than its
open elements reach and is then what it was before (`take_of_lt`); everything else becomes the end
of the outline (`outline_take`). Over a whole run the forest is therefore the elements that were
accepted, each laid out as a whole at the depth it was offered with (`takeAll_exact`); they may
bring children of their own.
-/

namespace Shorthand

/-- An element that is offered, and the depth at which it is to stand. -/
structure Placement where
  depth : Nat
  element : Element
deriving DecidableEq

/-- The preorder walk of the element, moved down to its depth. -/
def Placement.entries (call : Placement) : List Entry :=
  ((forestRows [call.element]).map Row.entry).map (Entry.lower call.depth)

theorem Placement.entries_eq (call : Placement) :
    call.entries = Element.outlineAt call.depth [call.element] :=
  (Element.outlineAt_eq_map_lower call.depth [call.element]).symm

namespace ForestBuilder

/-! ## One placement -/

/-- The builder that a call leaves, whether it is accepted or refused. -/
def take (builder : ForestBuilder) (call : Placement) : ForestBuilder :=
  ((placeInPlace call.depth call.element).run builder).2

variable {builder : ForestBuilder} {call : Placement}

theorem place_of_lt (deep : builder.height < call.depth) :
    builder.place call.depth call.element =
      .error (.depthOutOfRange call.depth builder.height) :=
  if_neg (Nat.not_le.2 deep)

theorem take_of_lt (deep : builder.height < call.depth) : builder.take call = builder := by
  rw [take, run_placeInPlace, place_of_lt deep]

theorem take_of_le (fits : call.depth ≤ builder.height) :
    builder.take call = builder.settle call.depth call.element := by
  rw [take, run_placeInPlace, place_of_le fits]

/-- What a call answers and leaves when it is refused. -/
theorem run_placeInPlace_of_lt (deep : builder.height < call.depth) :
    (placeInPlace call.depth call.element).run builder =
      (.error (.depthOutOfRange call.depth builder.height), builder) := by
  rw [run_placeInPlace, place_of_lt deep]

/-- What a call answers and leaves when it is accepted. -/
theorem run_placeInPlace_of_le (fits : call.depth ≤ builder.height) :
    (placeInPlace call.depth call.element).run builder = (.ok (), builder.take call) := by
  rw [take_of_le fits, run_placeInPlace, place_of_le fits]

theorem height_take (fits : call.depth ≤ builder.height) :
    (builder.take call).height = call.depth + 1 := by
  rw [take_of_le fits, height_settle fits]

theorem outline_take (fits : call.depth ≤ builder.height) :
    (builder.take call).outline = builder.outline ++ call.entries := by
  rw [take_of_le fits, outline_settle fits, Placement.entries_eq]

/-! ## A run of placements -/

/-- The builder after all calls. -/
def takeAll (builder : ForestBuilder) (calls : List Placement) : ForestBuilder :=
  calls.foldl take builder

/-- The calls that are accepted when all are made one after the other. -/
def accepted (builder : ForestBuilder) : List Placement → List Placement
  | [] => []
  | call :: rest =>
    match builder.place call.depth call.element with
    | .ok after => call :: after.accepted rest
    | .error _ => builder.accepted rest

theorem takeAll_append (builder : ForestBuilder) (first second : List Placement) :
    builder.takeAll (first ++ second) = (builder.takeAll first).takeAll second :=
  List.foldl_append

theorem takeAll_concat (builder : ForestBuilder) (calls : List Placement) (call : Placement) :
    builder.takeAll (calls ++ [call]) = (builder.takeAll calls).take call :=
  takeAll_append builder calls [call]

theorem accepted_cons_of_lt (deep : builder.height < call.depth) (rest : List Placement) :
    builder.accepted (call :: rest) = (builder.take call).accepted rest := by
  rw [accepted, place_of_lt deep, take_of_lt deep]

theorem accepted_cons_of_le (fits : call.depth ≤ builder.height) (rest : List Placement) :
    builder.accepted (call :: rest) = call :: (builder.take call).accepted rest := by
  rw [accepted, place_of_le fits, take_of_le fits]

theorem accepted_append (builder : ForestBuilder) (first second : List Placement) :
    builder.accepted (first ++ second) =
      builder.accepted first ++ (builder.takeAll first).accepted second := by
  induction first generalizing builder with
  | nil => rfl
  | cons call first ih =>
    rw [List.cons_append]
    rcases Nat.lt_or_ge builder.height call.depth with deep | fits
    · rw [accepted_cons_of_lt deep, accepted_cons_of_lt deep, ih]
      rfl
    · rw [accepted_cons_of_le fits, accepted_cons_of_le fits, ih]
      rfl

theorem accepted_concat_of_lt {calls : List Placement}
    (deep : (builder.takeAll calls).height < call.depth) :
    builder.accepted (calls ++ [call]) = builder.accepted calls := by
  rw [accepted_append, accepted_cons_of_lt deep]
  exact List.append_nil _

theorem accepted_concat_of_le {calls : List Placement}
    (fits : call.depth ≤ (builder.takeAll calls).height) :
    builder.accepted (calls ++ [call]) = builder.accepted calls ++ [call] := by
  rw [accepted_append, accepted_cons_of_le fits]
  rfl

/-- What a run adds to the walk is what its accepted calls add, in their order. -/
theorem outline_takeAll (builder : ForestBuilder) (calls : List Placement) :
    (builder.takeAll calls).outline =
      builder.outline ++ (builder.accepted calls).flatMap Placement.entries := by
  induction calls using List.reverseRecOn with
  | nil => exact (List.append_nil _).symm
  | append_singleton calls call ih =>
    rw [takeAll_concat]
    rcases Nat.lt_or_ge (builder.takeAll calls).height call.depth with deep | fits
    · rw [take_of_lt deep, accepted_concat_of_lt deep, ih]
    · rw [outline_take fits, accepted_concat_of_le fits, ih, List.flatMap_append,
        List.flatMap_singleton, List.append_assoc]

/-- **A run of placements**: the walk of the forest is that of the accepted elements, one behind
the other, each at the depth of its call. The next call is refused exactly when it is deeper than
there are open elements; the refusal names both numbers and leaves the builder as it is, and
whatever is called later, all is as if the refused call had not been made. An accepted call leaves
one open element more than its depth. -/
theorem takeAll_exact (calls : List Placement) :
    (forestRows (empty.takeAll calls).forest).map Row.entry =
        (empty.accepted calls).flatMap Placement.entries ∧
      ∀ call : Placement,
        (empty.takeAll calls).height < call.depth ∧
            (empty.takeAll calls).place call.depth call.element =
              .error (.depthOutOfRange call.depth (empty.takeAll calls).height) ∧
            (placeInPlace call.depth call.element).run (empty.takeAll calls) =
              (.error (.depthOutOfRange call.depth (empty.takeAll calls).height),
                empty.takeAll calls) ∧
            empty.accepted (calls ++ [call]) = empty.accepted calls ∧
            (∀ later, empty.takeAll (calls ++ call :: later) = empty.takeAll (calls ++ later)) ∨
          call.depth ≤ (empty.takeAll calls).height ∧
            (empty.takeAll calls).place call.depth call.element =
              .ok (empty.takeAll (calls ++ [call])) ∧
            (placeInPlace call.depth call.element).run (empty.takeAll calls) =
              (.ok (), empty.takeAll (calls ++ [call])) ∧
            empty.accepted (calls ++ [call]) = empty.accepted calls ++ [call] ∧
            (empty.takeAll (calls ++ [call])).height = call.depth + 1 := by
  constructor
  · show Element.outlineAt 0 _ = _
    rw [outlineAt_forest, outline_takeAll, outline_empty, List.nil_append]
  · intro call
    rcases Nat.lt_or_ge (empty.takeAll calls).height call.depth with deep | fits
    · refine .inl ⟨deep, place_of_lt deep, run_placeInPlace_of_lt deep,
        accepted_concat_of_lt deep, ?_⟩
      intro later
      rw [takeAll_append, takeAll_append]
      show ((empty.takeAll calls).take call).takeAll later = _
      rw [take_of_lt deep]
    · rw [takeAll_concat]
      refine .inr ⟨fits, ?_, run_placeInPlace_of_le fits, accepted_concat_of_le fits,
        height_take fits⟩
      rw [place_of_le fits, take_of_le fits]

end ForestBuilder

end Shorthand
