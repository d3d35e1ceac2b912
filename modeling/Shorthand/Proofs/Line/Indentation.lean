import Shorthand.Proofs.Line.Grammar

/-!
# Indentation

The spaces in front of a line say how deep it stands and nothing else. Whether a line is shorthand,
and with which fields, is settled by what follows them (`classify_indent`), so a shorthand line that
is moved to another depth is the same line there (`placed?_reindent`).
-/

namespace Shorthand.Line

/-! ## Leading spaces -/

/-- The spaces in front of a line of the given depth. -/
def indent (depth : Nat) : String := String.ofList (List.replicate depth ' ')

/-- How many spaces a line starts with. -/
def indentation (line : String) : Nat := (line.toList.takeWhile (· = ' ')).length

/-- A text with other leading spaces. -/
def reindented (depth : Nat) (text : List Char) : List Char :=
  List.replicate depth ' ' ++ text.dropWhile (· = ' ')

/-- A line with another indentation. -/
def reindent (depth : Nat) (line : String) : String :=
  String.ofList (reindented depth line.toList)

/-- The same kind of line at another depth. -/
def Kind.atDepth (depth : Nat) : Kind → Kind
  | root fields | nested _ fields => if depth = 0 then root fields else nested depth fields
  | unrecognized => unrecognized

theorem spaces_of_not_space {body : List Char} (start : body.head? ≠ some ' ') (depth : Nat) :
    (List.replicate depth ' ' ++ body).takeWhile (· = ' ') = List.replicate depth ' ' ∧
      (List.replicate depth ' ' ++ body).dropWhile (· = ' ') = body := by
  refine takeWhile_append_of_stop ?_ ?_
  · intro c member
    simp [List.eq_of_mem_replicate member]
  · rintro c head
    simpa using fun space : c = ' ' => start (by rw [head, space])

/-- Every line is spaces and something that starts with none. -/
theorem exists_body (line : String) :
    ∃ body : String, body.toList.head? ≠ some ' ' ∧ line = indent (indentation line) ++ body ∧
      ∀ depth, reindent depth line = indent depth ++ body := by
  refine ⟨String.ofList (line.toList.dropWhile (· = ' ')), ?_, ?_, ?_⟩
  · rw [String.toList_ofList]
    intro space
    have := List.head?_dropWhile_not (· = ' ') line.toList
    simp [space] at this
  · rw [← String.toList_inj, indent, indentation, String.toList_append, String.toList_ofList,
      String.toList_ofList, ← takeWhile_space, List.takeWhile_append_dropWhile]
  · intro depth
    rw [reindent, reindented, String.ofList_append]
    rfl

/-! ## Reading -/

/-- What is read behind the indentation does not depend on it. -/
theorem read?_indent {body : List Char} (start : body.head? ≠ some ' ') (depth : Nat) :
    read? (List.replicate depth ' ' ++ body) =
      (read? body).map fun reading => { reading with depth } := by
  obtain ⟨spaces, behind⟩ := spaces_of_not_space start depth
  obtain ⟨no_spaces, whole⟩ := spaces_of_not_space start 0
  rw [List.replicate_zero, List.nil_append] at no_spaces whole
  unfold read?
  rw [spaces, behind, no_spaces, whole, List.length_replicate]
  simp only [Option.bind_eq_bind, Option.pure_def, Option.map_bind, Function.comp_def,
    Option.map_some]

/-- The kind of a reading at another depth is its kind there. -/
theorem Reading.kind_atDepth (reading : Reading) (depth : Nat) :
    reading.kind.atDepth depth = ({ reading with depth } : Reading).kind := by
  unfold Reading.kind
  split <;> rfl

/-- **Indentation only sets the depth.** -/
theorem classify_indent {body : String} (start : body.toList.head? ≠ some ' ') (depth : Nat) :
    classify (indent depth ++ body) = (classify body).atDepth depth := by
  unfold classify
  rw [indent, String.toList_append, String.toList_ofList, read?_indent start]
  cases read? body.toList with
  | none => rfl
  | some reading =>
    dsimp only [Option.map_some]
    by_cases known : isShorthandTag (String.ofList reading.tag) = true
    · rw [if_pos known, if_pos known, Reading.kind_atDepth]
    · rw [if_neg known, if_neg known]
      rfl

/-! ## Another depth -/

theorem Kind.placed?_atDepth (kind : Kind) (depth : Nat) :
    (kind.atDepth depth).placed? = kind.placed?.map fun placed => (depth, placed.2) := by
  unfold Kind.atDepth
  split
  · split
    · next root => simp [Kind.placed?, root]
    · rfl
  · split
    · next root => simp [Kind.placed?, root]
    · rfl
  · rfl

/-- A shorthand line with another indentation has the same fields at the new depth. -/
theorem placed?_reindent {line : String} {depth : Nat} {fields : Fields}
    (placed : (classify line).placed? = some (depth, fields)) (depth' : Nat) :
    (classify (reindent depth' line)).placed? = some (depth', fields) := by
  obtain ⟨body, start, written, again⟩ := exists_body line
  rw [written, classify_indent start, Kind.placed?_atDepth] at placed
  obtain ⟨⟨_, found⟩, body_placed, same⟩ := Option.map_eq_some_iff.1 placed
  obtain rfl : found = fields := congrArg Prod.snd same
  rw [again, classify_indent start, Kind.placed?_atDepth, body_placed]
  rfl

/-- The depth of a shorthand line is the number of its leading spaces. -/
theorem indentation_of_placed? {line : String} {depth : Nat} {fields : Fields}
    (placed : (classify line).placed? = some (depth, fields)) : indentation line = depth := by
  obtain ⟨reading, read, -, rfl, -⟩ := exists_read?_of_placed? placed
  exact (parts_of_read? read).1.symm

end Shorthand.Line
