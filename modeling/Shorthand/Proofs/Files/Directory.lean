import Shorthand.Files.Directory

/-!
# What writing changes

Writing gives one file a content and leaves all others alone (`target?_eq_of_content?_ne`), and the
path leads to that content afterwards (`contentAt?_of_write`). For the latter the path has to lead to
the same file as before: on its way it only passes directories, and these stay directories, since no
file is lost (`look_put_of_directory`). Whether a path can be written does not depend on what is
written.
-/

namespace Shorthand.Directory

variable {directory after : Directory} {path : String} {content : ByteArray}

/-! ## One file -/

theorem lookup_go (file other : FilePath) (content : ByteArray)
    (files : List (FilePath × File)) :
    (put.go file content files).lookup other =
      if other = file then some { (files.lookup file).getD { content } with content }
      else files.lookup other := by
  induction files with
  | nil =>
    by_cases same : other = file
    · simp [put.go, same]
    · have different : (other == file) = false := by simpa using same
      simp [put.go, List.lookup_cons, same, different]
  | cons first rest ih =>
    obtain ⟨name, old⟩ := first
    rw [put.go]
    by_cases found : name = file
    · by_cases same : other = file
      · simp [found, same]
      · have different : (other == file) = false := by simpa using same
        simp [found, List.lookup_cons, same, different]
    · have not_found : (file == name) = false := by simpa using fun e : file = name => found e.symm
      rw [if_neg found, List.lookup_cons, List.lookup_cons, List.lookup_cons, ih, not_found]
      by_cases same : other = file
      · subst same
        simp [not_found]
      · simp [same]

theorem file?_put_of_ne {file other : FilePath} (ne : other ≠ file) (directory : Directory)
    (content : ByteArray) : (directory.put file content).file? other = directory.file? other :=
  (lookup_go file other content directory.files).trans (if_neg ne)

theorem exists_file?_put (directory : Directory) (file : FilePath) (content : ByteArray) :
    ∃ stored, (directory.put file content).file? file = some stored ∧ stored.content = content :=
  ⟨_, (lookup_go file file content directory.files).trans (if_pos rfl), rfl⟩

theorem content?_put (directory : Directory) (file other : FilePath) (content : ByteArray) :
    (directory.put file content).content? other =
      if other = file then some content else directory.content? other := by
  by_cases same : other = file
  · obtain ⟨stored, found, rfl⟩ := exists_file?_put directory file content
    rw [if_pos same, content?, same, found]
    rfl
  · rw [if_neg same, content?, file?_put_of_ne same, content?]

theorem mem_keys_go {file other : FilePath} (content : ByteArray)
    {files : List (FilePath × File)} (member : other ∈ files.map (·.1)) :
    other ∈ (put.go file content files).map (·.1) := by
  induction files with
  | nil => cases member
  | cons first rest ih =>
    rw [put.go]
    rcases List.mem_cons.1 member with rfl | member
    · by_cases found : first.1 = file
      · simp [found]
      · simp [found]
    · by_cases found : first.1 = file
      · rw [if_pos found]
        exact List.mem_cons_of_mem _ member
      · rw [if_neg found]
        exact List.mem_cons_of_mem _ (ih member)

/-- No directory is lost, since every file stays. -/
theorem isDirectory_put {other : FilePath} (here : directory.isDirectory other = true)
    (file : FilePath) (content : ByteArray) :
    (directory.put file content).isDirectory other = true := by
  rw [isDirectory, Bool.or_eq_true, List.any_eq_true] at here ⊢
  rcases here with made | ⟨inner, member, below⟩
  · exact .inl made
  · have key : inner.1 ∈ (put.go file content directory.files).map (·.1) :=
      mem_keys_go content (List.mem_map_of_mem member)
    obtain ⟨inner', member', same⟩ := List.mem_map.1 key
    exact .inr ⟨inner', member', by rw [same]; exact below⟩

/-! ## Where a path leads -/

/-- The file that a spot is, or could become. -/
def Spot.file? : Spot → Option FilePath
  | .file path _ => some path
  | .vacant path => some path
  | .directory _ => none

/-- The file that a path leads to, or would lead to if it were made. -/
def target? (directory : Directory) (path : String) : Option FilePath :=
  (directory.resolve path).toOption.bind Spot.file?

theorem target?_eq_some_iff {file : FilePath} :
    directory.target? path = some file ↔
      ∃ spot, directory.resolve path = .ok spot ∧ spot.file? = some file := by
  rw [target?]
  cases directory.resolve path with
  | error fault => simp [Except.toOption]
  | ok spot => simp [Except.toOption]

/-- The content of the file that a path leads to, whoever may read it. -/
def contentAt? (directory : Directory) (path : String) : Option ByteArray :=
  (directory.target? path).bind directory.content?

theorem exists_look_put_self (directory : Directory) (file : FilePath) (content : ByteArray) :
    ∃ stored, (directory.put file content).look file = .file file stored := by
  obtain ⟨stored, found, -⟩ := exists_file?_put directory file content
  exact ⟨stored, by rw [look, found]⟩

theorem look_cases (directory : Directory) (file : FilePath) :
    (directory.look file).file? = some file ∨
      directory.look file = .directory file ∧ directory.file? file = none ∧
        directory.isDirectory file = true := by
  unfold look
  cases found : directory.file? file with
  | some stored => exact .inl rfl
  | none =>
    by_cases here : directory.isDirectory file = true
    · exact .inr (by simp [here])
    · exact .inl (by simp [here, Spot.file?])

theorem look_put_of_directory {file other : FilePath}
    (here : directory.look other = .directory other) (ne : other ≠ file) (content : ByteArray) :
    (directory.put file content).look other = .directory other := by
  rcases look_cases directory other with target | ⟨-, nothing, directory_here⟩
  · rw [here] at target
    cases target
  · simp [look, file?_put_of_ne ne, nothing, isDirectory_put directory_here]

/-! ## Following a path -/

/-- From a directory one component leads to a directory, whatever files there are, or to what a file
name stands for. -/
theorem follow_cases {here : FilePath} {name : String} {spot : Spot}
    (leads : directory.follow (.directory here) name = .ok spot) :
    (∃ here', spot = .directory here' ∧
        ∀ other : Directory, other.follow (.directory here) name = .ok (.directory here')) ∨
      ∃ file, spot = directory.look file ∧
        ∀ other : Directory, other.follow (.directory here) name = .ok (other.look file) := by
  simp only [follow] at leads ⊢
  by_cases stay : name = "" ∨ name = "."
  · simp only [if_pos stay, Except.ok.injEq] at leads ⊢
    exact .inl ⟨here, leads.symm, fun _ => rfl⟩
  · by_cases up : name = ".."
    · simp only [if_neg stay, if_pos up, Except.ok.injEq] at leads ⊢
      exact .inl ⟨here.dropLast, leads.symm, fun _ => rfl⟩
    · by_cases long : nameLimit < name.utf8ByteSize
      · simp [if_neg stay, if_neg up, if_pos long] at leads
      · simp only [if_neg stay, if_neg up, if_neg long, Except.ok.injEq] at leads ⊢
        exact .inr ⟨here ++ [name], leads.symm, fun _ => rfl⟩

/-- No path goes on behind a file or a vacant place. -/
theorem exists_fault_of_file? (directory : Directory) {spot : Spot} {file : FilePath}
    (target : spot.file? = some file) (name : String) :
    ∃ fault, directory.follow spot name = .error fault := by
  cases spot with
  | file path stored => exact ⟨_, rfl⟩
  | vacant path => exact ⟨_, rfl⟩
  | directory here => cases target

/-- A path that leads to a file still leads there when the file is written: on its way are only
directories, and the file is none of them. -/
theorem foldlM_follow_put {names : List String} {here : FilePath} {spot : Spot}
    {file : FilePath} (content : ByteArray)
    (leads : names.foldlM directory.follow (.directory here) = .ok spot)
    (target : spot.file? = some file) :
    directory.look file = spot ∧
      ∃ stored, names.foldlM (directory.put file content).follow (.directory here) =
        .ok (.file file stored) := by
  induction names generalizing here with
  | nil =>
    cases leads
    cases target
  | cons name rest ih =>
    rw [List.foldlM_cons] at leads ⊢
    cases one : directory.follow (.directory here) name with
    | error fault =>
      rw [one] at leads
      cases leads
    | ok next =>
      rw [one] at leads
      change rest.foldlM directory.follow next = .ok spot at leads
      rcases follow_cases one with ⟨here', rfl, always⟩ | ⟨file', rfl, always⟩
      · rw [always]
        exact ih leads
      · rw [always]
        -- a name that is no directory is the last one, and then it is the file that is written
        rcases look_cases directory file' with target' | ⟨directory_here, -⟩
        · cases rest with
          | nil =>
            cases leads
            obtain rfl : file' = file := Option.some.inj (target'.symm.trans target)
            obtain ⟨stored, found⟩ := exists_look_put_self directory file' content
            exact ⟨rfl, stored, congrArg Except.ok found⟩
          | cons name' rest =>
            obtain ⟨fault, stuck⟩ := exists_fault_of_file? directory target' name'
            rw [List.foldlM_cons, stuck] at leads
            cases leads
        · rw [directory_here] at leads
          obtain ⟨found, again⟩ := ih leads
          have ne : file' ≠ file := by
            rintro rfl
            rw [← found, directory_here] at target
            cases target
          refine ⟨found, ?_⟩
          rw [look_put_of_directory directory_here ne]
          exact again

theorem target?_put {file : FilePath} (leads : directory.target? path = some file)
    (content : ByteArray) : (directory.put file content).target? path = some file := by
  obtain ⟨spot, resolved, target⟩ := target?_eq_some_iff.1 leads
  refine target?_eq_some_iff.2 ?_
  unfold resolve at resolved ⊢
  cases fault : pathFault? path with
  | some fault' =>
    rw [fault] at resolved
    cases resolved
  | none =>
    rw [fault] at resolved
    obtain ⟨-, stored, again⟩ := foldlM_follow_put content resolved target
    exact ⟨_, again, rfl⟩

/-! ## Writing -/

/-- What can be written is what the path leads to. -/
theorem target?_of_opened {file : FilePath} (found : directory.opened path = .ok file) :
    directory.target? path = some file := by
  unfold opened at found
  by_cases slash : pathFault? path = none ∧ path.toList.getLast? = some '/'
  · rw [if_pos slash] at found
    cases found
  · rw [if_neg slash] at found
    refine target?_eq_some_iff.2 ?_
    cases leads : directory.resolve path with
    | error fault =>
      rw [leads] at found
      cases found
    | ok spot =>
      rw [leads] at found
      refine ⟨spot, rfl, ?_⟩
      cases spot with
      | file place stored =>
        by_cases writable : stored.writable = true
        · simpa [writable, Spot.file?] using found
        · simp [writable] at found
      | vacant place =>
        by_cases locked : place.dropLast ∈ directory.locked
        · simp [locked] at found
        · simpa [locked, Spot.file?] using found
      | directory here => cases found

/-- **Inversion of writing**: a path that is written leads to a file or to where one can be, and
that file gets the content. -/
theorem put_of_write (written : directory.write path content = .ok after) :
    ∃ file, directory.opened path = .ok file ∧ after = directory.put file content := by
  unfold write at written
  cases found : directory.opened path with
  | error fault =>
    rw [found] at written
    cases written
  | ok file =>
    rw [found] at written
    cases written
    exact ⟨file, rfl, rfl⟩

/-- **What was written is there** under its path. -/
theorem contentAt?_of_write (written : directory.write path content = .ok after) :
    after.contentAt? path = some content := by
  obtain ⟨file, found, rfl⟩ := put_of_write written
  rw [contentAt?, target?_put (target?_of_opened found), Option.bind_some, content?_put,
    if_pos rfl]

/-- Every file but the one that the path leads to is left alone. -/
theorem target?_eq_of_content?_ne (written : directory.write path content = .ok after)
    {file : FilePath} (changed : after.content? file ≠ directory.content? file) :
    directory.target? path = some file := by
  obtain ⟨written_file, found, rfl⟩ := put_of_write written
  rw [content?_put] at changed
  by_cases same : file = written_file
  · rw [same]
    exact target?_of_opened found
  · rw [if_neg same] at changed
    exact absurd rfl changed

/-- Whether a path can be written, whatever is to be written. -/
def Writable (directory : Directory) (path : String) : Prop :=
  ∀ content, ∃ after, directory.write path content = .ok after

theorem writable_of_write (written : directory.write path content = .ok after) :
    directory.Writable path := by
  intro content'
  obtain ⟨file, found, -⟩ := put_of_write written
  exact ⟨directory.put file content', by rw [write, found]; rfl⟩

end Shorthand.Directory
