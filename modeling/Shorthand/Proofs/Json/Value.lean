import Shorthand.Json.Value
import Shorthand.Proofs.Text.ToldApart

/-!
# JSON texts are unambiguous

Both ways to write JSON follow one layout: brackets around items, a comma between them, and in front
of every item and of the closing bracket a line that may be empty but holds only blanks. A value
that is written so says where it ends (`Follows.toldApart`), since a string ends at its first bare
quote, and behind an item comes either a comma or blanks and the bracket. So no two values have the
same compact text, or the same pretty text.
-/

namespace Shorthand.Json

open Text (ToldApart toldApart_of_read toldApart_flatMap)

/-! ## Strings -/

/-- The value of a hexadecimal digit. -/
def hexValue (c : Char) : Nat := if c.toNat < 58 then c.toNat - 48 else c.toNat - 87

theorem hexValue_hexDigit : ∀ value < 16, hexValue (hexDigit value) = value := by decide

/-- Reads what stands behind a backslash. -/
def readEscape? : List Char → Option (Char × List Char)
  | 'u' :: _ :: _ :: high :: low :: rest =>
    some (Char.ofNat (16 * hexValue high + hexValue low), rest)
  | 'b' :: rest => some ('\x08', rest)
  | 'f' :: rest => some ('\x0c', rest)
  | 'n' :: rest => some ('\n', rest)
  | 'r' :: rest => some ('\r', rest)
  | 't' :: rest => some ('\t', rest)
  | c :: rest => some (c, rest)
  | [] => none

/-- Reads one character of a JSON string, escaped or not. -/
def readChar? : List Char → Option (Char × List Char)
  | [] => none
  | c :: rest => if c = '\\' then readEscape? rest else some (c, rest)

theorem readChar?_escapeChar (c : Char) (rest : List Char) :
    readChar? (escapeChar c ++ rest) = some (c, rest) := by
  unfold escapeChar
  split
  case h_8 _ _ not_slash _ _ _ _ _ =>
    split
    · next control =>
      have high := hexValue_hexDigit (c.toNat / 16) (by omega)
      have low := hexValue_hexDigit (c.toNat % 16) (by omega)
      have code : 16 * (c.toNat / 16) + c.toNat % 16 = c.toNat := by omega
      simp only [List.cons_append, List.nil_append, readChar?, if_true, readEscape?, high, low,
        code, Char.ofNat_toNat]
    · exact if_neg not_slash
  all_goals rfl

theorem head?_escapeChar (c : Char) (rest : List Char) :
    (escapeChar c ++ rest).head? ≠ some '"' := by
  unfold escapeChar
  split
  case h_8 _ not_quote _ _ _ _ _ _ =>
    split
    · simp
    · simpa using not_quote
  all_goals simp

theorem toList_quote (text : String) :
    (quote text).toList = '"' :: (text.toList.flatMap escapeChar ++ ['"']) := by
  simp [quote]

theorem toldApart_quote (first second : String) :
    ToldApart (fun text => (quote text).toList) id first second := by
  have chars : ToldApart (fun chars => chars.flatMap escapeChar ++ ['"']) (List.map id)
      first.toList second.toList := by
    refine toldApart_flatMap ?_ ?_
    · intro c _ d _
      exact toldApart_of_read readChar?_escapeChar
    · intro c _ rest rest' same
      exact head?_escapeChar c rest' (by rw [← same]; rfl)
  intro rest rest' same
  simp only [toList_quote, List.cons_append, List.cons.injEq, true_and] at same
  obtain ⟨texts, rests⟩ := chars rest rest' same
  rw [List.map_id, List.map_id] at texts
  exact ⟨String.toList_inj.1 texts, rests⟩

/-! ## Layouts -/

/-- How lists and objects are laid out: the line in front of an item, and what stands between a key
and its value. -/
structure Layout where
  line : Nat → List Char
  colon : List Char

/-- Items between brackets, from behind the opening bracket on. -/
def bracketed {α : Type} (line line' : List Char) (close : Char) (write : α → List Char) :
    List α → List Char
  | [] => [close]
  | item :: rest =>
    line ++ write item ++ rest.flatMap (fun item => ',' :: (line ++ write item)) ++
      (line' ++ [close])

/-- A field of an object. -/
def Layout.field (layout : Layout) (write : Json → List Char) (field : String × Json) :
    List Char :=
  (quote field.1).toList ++ (layout.colon ++ write field.2)

/-- Whether values are written in a layout. The items of a list or an object stand one level further
in than it does. -/
structure Follows (layout : Layout) (write : Nat → Json → List Char) : Prop where
  text : ∀ level value, write level (.text value) = (quote value).toList
  list : ∀ level items, write level (.list items) =
    '[' :: bracketed (layout.line (level + 1)) (layout.line level) ']' (write (level + 1)) items
  object : ∀ level fields, write level (.object fields) =
    '\x7b' :: bracketed (layout.line (level + 1)) (layout.line level) '\x7d'
      (layout.field (write (level + 1))) fields

/-- Shows a property of a value from that of the values inside it. -/
theorem induction {motive : Json → Prop} (ofText : ∀ value, motive (.text value))
    (ofList : ∀ items, (∀ item ∈ items, motive item) → motive (.list items))
    (ofObject : ∀ fields, (∀ field ∈ fields, motive field.2) → motive (.object fields)) :
    ∀ value, motive value
  | .text value => ofText value
  | .list items => ofList items fun item _ => induction ofText ofList ofObject item
  | .object fields => ofObject fields fun field _ => induction ofText ofList ofObject field.2
termination_by value => sizeOf value
decreasing_by
  · have smaller := List.sizeOf_lt_of_mem ‹item ∈ items›
    simp only [list.sizeOf_spec]
    omega
  · have smaller := List.sizeOf_lt_of_mem ‹field ∈ fields›
    obtain ⟨key, value⟩ := field
    simp only [Prod.mk.sizeOf_spec] at smaller
    simp only [object.sizeOf_spec]
    omega

/-! ## What is laid out is told apart -/

/-- Whether lines hold only blanks. -/
def Layout.Blank (layout : Layout) : Prop := ∀ level, ∀ c ∈ layout.line level, c = ' ' ∨ c = '\n'

variable {layout : Layout} {write : Nat → Json → List Char}

/-- What stands behind a blank line comes first if the line is empty. -/
theorem Layout.Blank.head?_line (blank : layout.Blank) (level : Nat) (c : Char) (rest : List Char) :
    ∀ first ∈ (layout.line level ++ c :: rest).head?, first = c ∨ first = ' ' ∨ first = '\n' := by
  intro first is_first
  cases line : layout.line level with
  | nil =>
    rw [line] at is_first
    exact .inl (Option.some.inj is_first).symm
  | cons d others =>
    rw [line] at is_first
    have same : d = first := Option.some.inj is_first
    exact .inr (blank level first (by rw [line, same]; exact List.mem_cons_self))

/-- Items between brackets are told apart when the items are, as long as none starts like the
closing bracket. -/
theorem toldApart_bracketed {α : Type} {close : Char} {write : α → List Char}
    (blank : layout.Blank) (level level' : Nat)
    (bracket : close ≠ ',' ∧ close ≠ ' ' ∧ close ≠ '\n') {first second : List α}
    (told : ∀ a ∈ first, ∀ b ∈ second, ToldApart write id a b)
    (starts : ∀ a ∈ first ++ second, ∃ c rest, write a = c :: rest ∧ c ≠ close) :
    ToldApart (bracketed (layout.line level) (layout.line level') close write) id first second := by
  intro rest rest' same
  -- an item does not start like what closes the list
  have item_ne : ∀ a ∈ first ++ second, ∀ rest rest',
      close :: rest ≠ layout.line level ++ (write a ++ rest') := by
    intro a member rest rest' same
    obtain ⟨c, inner, starting, other⟩ := starts a member
    rw [starting] at same
    rcases blank.head?_line level c (inner ++ rest') close (by rw [← List.cons_append, ← same]; rfl)
      with equal | space | feed
    · exact other equal.symm
    · exact bracket.2.1 space
    · exact bracket.2.2 feed
  cases first with
  | nil =>
    cases second with
    | nil => exact ⟨rfl, List.append_cancel_left same⟩
    | cons b second =>
      exact absurd (by simpa [bracketed] using same) (item_ne b (by simp) rest _)
  | cons a first =>
    cases second with
    | nil =>
      exact absurd (by simpa [bracketed] using same.symm) (item_ne a (by simp) rest' _)
    | cons b second =>
      simp only [bracketed, List.append_assoc] at same
      obtain ⟨heads, behind⟩ := told a (by simp) b (by simp) _ _ (List.append_cancel_left same)
      have tails : ToldApart (fun items => items.flatMap (fun item => ',' :: (layout.line level ++
          write item)) ++ (layout.line level' ++ [close])) (List.map id) first second := by
        refine toldApart_flatMap ?_ ?_
        · intro a member b member' rest rest' same
          simp only [List.cons_append, List.append_assoc, List.cons.injEq, true_and] at same
          exact told a (by simp [member]) b (by simp [member']) rest rest'
            (List.append_cancel_left same)
        · intro a member rest rest' same
          rcases blank.head?_line level' close rest ',' (by
            rw [List.append_assoc] at same
            rw [← List.singleton_append, same]
            rfl) with equal | space | feed
          · exact bracket.1 equal.symm
          · cases space
          · cases feed
      obtain ⟨others, rests⟩ := tails rest rest' (by simpa using behind)
      rw [List.map_id, List.map_id] at others
      exact ⟨by rw [id, id, others, show a = b from heads], rests⟩

theorem toldApart_field {write : Json → List Char} {first second : String × Json}
    (told : ToldApart write id first.2 second.2) :
    ToldApart (layout.field write) id first second := by
  obtain ⟨key, value⟩ := first
  obtain ⟨key', value'⟩ := second
  intro rest rest' same
  simp only [Layout.field, List.append_assoc] at same
  obtain ⟨keys, behind⟩ := toldApart_quote key key' _ _ same
  obtain ⟨values, rests⟩ := told rest rest' (List.append_cancel_left behind)
  exact ⟨Prod.ext keys values, rests⟩

theorem Follows.opening (follows : Follows layout write) (level : Nat) (value : Json) :
    ∃ c rest, write level value = c :: rest ∧ c ≠ ']' := by
  cases value with
  | text value =>
    rw [follows.text, toList_quote]
    exact ⟨_, _, rfl, by decide⟩
  | list items =>
    rw [follows.list]
    exact ⟨_, _, rfl, by decide⟩
  | object fields =>
    rw [follows.object]
    exact ⟨_, _, rfl, by decide⟩

/-- **A value says where it ends**, in any layout whose lines are blank. -/
theorem Follows.toldApart (follows : Follows layout write) (blank : layout.Blank)
    (first : Json) : ∀ level second, ToldApart (write level) id first second := by
  induction first using Json.induction with
  | ofText value =>
    intro level second rest rest' same
    rw [follows.text] at same
    cases second with
    | text value' =>
      rw [follows.text] at same
      obtain ⟨values, rests⟩ := toldApart_quote value value' rest rest' same
      exact ⟨congrArg Json.text values, rests⟩
    | list items' => simp [toList_quote, follows.list] at same
    | object fields' => simp [toList_quote, follows.object] at same
  | ofList items ih =>
    intro level second rest rest' same
    rw [follows.list] at same
    cases second with
    | text value' => simp [toList_quote, follows.text] at same
    | list items' =>
      rw [follows.list] at same
      have told : ToldApart (bracketed (layout.line (level + 1)) (layout.line level) ']'
          (write (level + 1))) id items items' :=
        toldApart_bracketed blank (level + 1) level (by decide)
          (fun item member item' _ => ih item member (level + 1) item')
          (fun item _ => follows.opening (level + 1) item)
      obtain ⟨all, rests⟩ := told rest rest' (List.cons.inj same).2
      exact ⟨congrArg Json.list all, rests⟩
    | object fields' => simp [follows.object] at same
  | ofObject fields ih =>
    intro level second rest rest' same
    rw [follows.object] at same
    cases second with
    | text value' => simp [toList_quote, follows.text] at same
    | list items' => simp [follows.list] at same
    | object fields' =>
      rw [follows.object] at same
      have told : ToldApart (bracketed (layout.line (level + 1)) (layout.line level) '\x7d'
          (layout.field (write (level + 1)))) id fields fields' :=
        toldApart_bracketed blank (level + 1) level (by decide)
          (fun field member field' _ => toldApart_field (ih field member (level + 1) field'.2))
          (fun field _ => ⟨'"', _, by rw [Layout.field, toList_quote]; rfl, by decide⟩)
      obtain ⟨all, rests⟩ := told rest rest' (List.cons.inj same).2
      exact ⟨congrArg Json.object all, rests⟩

/-! ## The two layouts -/

/-- The layout of compact texts. -/
def compactLayout : Layout := ⟨fun _ => [], [':']⟩

/-- The layout of pretty texts. -/
def prettyLayout : Layout := ⟨fun level => (newLine level).toList, [':', ' ']⟩

theorem blank_compactLayout : compactLayout.Blank := by
  intro level c member
  cases member

theorem blank_prettyLayout : prettyLayout.Blank := by
  intro level c member
  simp only [prettyLayout, newLine, String.toList_append, String.toList_ofList, List.mem_append,
    List.mem_replicate] at member
  rcases member with feed | ⟨-, space⟩
  · exact .inr (by simpa using feed)
  · exact .inl space

/-- Items that are written one by one, each with a comma if another one follows. -/
theorem toList_items {α : Type} {write : α → String} {all : List α → String} (nil : all [] = "")
    (cons : ∀ item rest, all (item :: rest) =
      write item ++ (if rest.isEmpty then "" else ",") ++ all rest) (item : α) (rest : List α) :
    (all (item :: rest)).toList =
      (write item).toList ++ rest.flatMap fun item => ',' :: (write item).toList := by
  induction rest generalizing item with
  | nil => simp [cons, nil]
  | cons next rest ih =>
    rw [cons, String.toList_append, ih]
    simp

theorem toList_compactField (field : String × Json) :
    (compactField field).toList =
      compactLayout.field (fun value => (compact value).toList) field := by
  obtain ⟨key, value⟩ := field
  simp [compactField, Layout.field, compactLayout]

theorem toList_prettyField (level : Nat) (field : String × Json) :
    (prettyField level field).toList =
      prettyLayout.field (fun value => (prettyAt level value).toList) field := by
  obtain ⟨key, value⟩ := field
  simp [prettyField, Layout.field, prettyLayout]

theorem follows_compact : Follows compactLayout fun _ value => (compact value).toList where
  text _ value := by rw [compact]
  list _ items := by
    rw [compact]
    cases items with
    | nil => simp [compactItems, bracketed]
    | cons item rest =>
      have items : (compactItems (item :: rest)).toList =
          (compact item).toList ++ rest.flatMap fun item => ',' :: (compact item).toList :=
        toList_items compactItems.eq_1 compactItems.eq_2 item rest
      simp [items, bracketed, compactLayout]
  object _ fields := by
    rw [compact]
    cases fields with
    | nil => simp [compactFields, bracketed]
    | cons field rest =>
      have fields : (compactFields (field :: rest)).toList =
          (compactField field).toList ++
            rest.flatMap fun field => ',' :: (compactField field).toList :=
        toList_items compactFields.eq_1 compactFields.eq_2 field rest
      simp only [toList_compactField] at fields
      simp [fields, bracketed, compactLayout]

theorem follows_prettyAt :
    Follows prettyLayout fun level value => (prettyAt level value).toList where
  text _ value := by rw [prettyAt]
  list level items := by
    rw [prettyAt]
    cases items with
    | nil => simp [bracketed]
    | cons item rest =>
      have items : (prettyItems (level + 1) (item :: rest)).toList =
          (newLine (level + 1) ++ prettyAt (level + 1) item).toList ++ rest.flatMap fun item =>
            ',' :: (newLine (level + 1) ++ prettyAt (level + 1) item).toList :=
        toList_items (prettyItems.eq_1 _) (prettyItems.eq_2 _) item rest
      simp [items, bracketed, prettyLayout]
  object level fields := by
    rw [prettyAt]
    cases fields with
    | nil => simp [bracketed]
    | cons field rest =>
      have fields : (prettyFields (level + 1) (field :: rest)).toList =
          (newLine (level + 1) ++ prettyField (level + 1) field).toList ++ rest.flatMap fun field =>
            ',' :: (newLine (level + 1) ++ prettyField (level + 1) field).toList :=
        toList_items (prettyFields.eq_1 _) (prettyFields.eq_2 _) field rest
      simp only [String.toList_append, toList_prettyField] at fields
      simp [fields, bracketed, prettyLayout]

/-! ## No two values have one text -/

theorem compact_injective {first second : Json} (same : first.compact = second.compact) :
    first = second :=
  (follows_compact.toldApart blank_compactLayout first 0 second).view_eq
    (congrArg String.toList same)

theorem pretty_injective {first second : Json} (same : first.pretty = second.pretty) :
    first = second :=
  (follows_prettyAt.toldApart blank_prettyLayout first 0 second).view_eq
    (congrArg String.toList same)

end Shorthand.Json
