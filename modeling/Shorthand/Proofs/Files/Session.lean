import Shorthand.Proofs.Files.Directory
import Shorthand.Files.Session

/-!
# Sessions that put out last

Two kinds of sessions, each closed under what sessions are put together with. A read-only session
neither writes nor prints, so it leaves the directory as it is and its output empty. A session that
puts out last either prints or has one write, and once it has printed or the write has succeeded
nothing can fail any more. What such a session does is then settled by how it ends: a failure has
changed nothing and printed nothing, a success has changed at most the one file
(`WritesLast.unchanged_or_written`).
-/

namespace Shorthand.Session

variable {ε ε' α β : Type}

/-! ## How a session ends -/

/-- What a session prints in a directory, its outcome, and the directory that it leaves. -/
structure Ends (session : Session ε α) (before : Directory) (output : String)
    (outcome : Except ε α) (after : Directory) : Prop where
  output : (session.runIn before).output = output
  outcome : (session.runIn before).outcome = outcome
  directory : (session.runIn before).directory = after

variable {before between after : Directory} {output : String}

theorem ends_done (result : α) (before : Directory) :
    (done result : Session ε α).Ends before "" (.ok result) before :=
  ⟨rfl, rfl, rfl⟩

theorem ends_print (text : String) (before : Directory) :
    (print text (done ()) : Session ε Unit).Ends before text (.ok ()) before :=
  ⟨String.append_empty, rfl, rfl⟩

/-- A first part that succeeds and prints nothing leaves the ending to what comes behind it. -/
theorem Ends.bind {first : Session ε α} {next : α → Session ε β} {result : α}
    {outcome : Except ε β} (h : first.Ends before "" (.ok result) between)
    (h' : (next result).Ends between output outcome after) :
    (first.bind next).Ends before output outcome after := by
  have run := runIn_bind first next before
  rw [h.outcome, h.output, h.directory] at run
  constructor
  · exact (congrArg Ran.output run).trans (String.empty_append.trans h'.output)
  · exact (congrArg Ran.outcome run).trans h'.outcome
  · exact (congrArg Ran.directory run).trans h'.directory

theorem Ends.bind_error {first : Session ε α} {error : ε}
    (h : first.Ends before output (.error error) after) (next : α → Session ε β) :
    (first.bind next).Ends before output (.error error) after := by
  have run := runIn_bind first next before
  rw [h.outcome, h.output, h.directory] at run
  constructor <;> rw [run]

theorem Ends.mapError {session : Session ε α} {outcome : Except ε α}
    (h : session.Ends before output outcome after) (f : ε → ε') :
    (session.mapError f).Ends before output (outcome.mapError f) after := by
  have run := runIn_mapError session f before
  rw [h.output, h.outcome, h.directory] at run
  constructor <;> rw [run]

/-- A traced computation, with its failures put differently, ends as it does by itself. -/
theorem ends_ofTraced {traced : Traced ε α} {outcome : Except ε α}
    (h : traced.outcome = outcome) (f : ε → ε') (before : Directory) :
    (ofTraced (traced.mapError f)).Ends before "" (outcome.mapError f) before := by
  have run := runIn_ofTraced (traced.mapError f) before
  constructor
  · rw [run]
  · rw [run, Traced.mapError, h]
  · rw [run]

/-! ## Read-only sessions -/

/-- A session that neither writes nor prints, whatever it reads. -/
inductive ReadOnly : Session ε α → Prop
  | done (result : α) : ReadOnly (.done result)
  | fail (error : ε) : ReadOnly (.fail error)
  | report (event : Event) {next : Session ε α} (h : ReadOnly next) : ReadOnly (.report event next)
  | place {next : FilePath → Session ε α} (h : ∀ path, ReadOnly (next path)) :
    ReadOnly (.place next)
  | read (path : String) {next : Except FileFault ByteArray → Session ε α}
      (h : ∀ answer, ReadOnly (next answer)) : ReadOnly (.read path next)

namespace ReadOnly

theorem bind {first : Session ε α} {next : α → Session ε β} (h : ReadOnly first)
    (h' : ∀ result, ReadOnly (next result)) : ReadOnly (first.bind next) := by
  induction h with
  | done result => exact h' result
  | fail error => exact .fail error
  | report event _ ih => exact .report event ih
  | place _ ih => exact .place ih
  | read path _ ih => exact .read path ih

theorem mapError {session : Session ε α} (h : ReadOnly session) (f : ε → ε') :
    ReadOnly (session.mapError f) := by
  induction h with
  | done result => exact .done result
  | fail error => exact .fail (f error)
  | report event _ ih => exact .report event ih
  | place _ ih => exact .place ih
  | read path _ ih => exact .read path ih

theorem ofTraced (traced : Traced ε α) : ReadOnly (Session.ofTraced traced) := by
  obtain ⟨events, outcome⟩ := traced
  rw [Session.ofTraced]
  induction events with
  | nil =>
    cases outcome with
    | ok result => exact .done result
    | error error => exact .fail error
  | cons event rest ih => exact .report event ih

theorem ends {session : Session ε α} (h : ReadOnly session) (before : Directory) :
    session.Ends before "" (session.runIn before).outcome before := by
  induction h with
  | done result => exact ⟨rfl, rfl, rfl⟩
  | fail error => exact ⟨rfl, rfl, rfl⟩
  | report event _ ih => exact ⟨ih.output, rfl, ih.directory⟩
  | place _ ih => exact ⟨(ih _).output, rfl, (ih _).directory⟩
  | read path _ ih => exact ⟨(ih _).output, rfl, (ih _).directory⟩

end ReadOnly

/-! ## Sessions that put out last -/

/-- A session that only reports and prints, and ends with a result. -/
inductive Settled : Session ε α → Prop
  | done (result : α) : Settled (.done result)
  | report (event : Event) {next : Session ε α} (h : Settled next) : Settled (.report event next)
  | print (text : String) {next : Session ε α} (h : Settled next) : Settled (.print text next)

/-- A session that prints or writes, to the output `target` and at most once, only when nothing can
fail any more but the write itself. A write that is refused ends it. -/
inductive WritesLast (target : Option String) : Session ε α → Prop
  | done (result : α) : WritesLast target (.done result)
  | fail (error : ε) : WritesLast target (.fail error)
  | report (event : Event) {next : Session ε α} (h : WritesLast target next) :
    WritesLast target (.report event next)
  | print (text : String) {next : Session ε α} (h : Settled next) :
    WritesLast target (.print text next)
  | place {next : FilePath → Session ε α} (h : ∀ path, WritesLast target (next path)) :
    WritesLast target (.place next)
  | read (path : String) {next : Except FileFault ByteArray → Session ε α}
      (h : ∀ answer, WritesLast target (next answer)) : WritesLast target (.read path next)
  | write {path : String} (content : String) {next : Except FileFault Unit → Session ε α}
      (named : target = some path) (written : Settled (next (.ok ())))
      (refused : ∀ fault, ∃ error, next (.error fault) = .fail error) :
    WritesLast target (.write path content next)

theorem Settled.bind {first : Session ε α} {next : α → Session ε β} (h : Settled first)
    (h' : ∀ result, Settled (next result)) : Settled (first.bind next) := by
  induction h with
  | done result => exact h' result
  | report event _ ih => exact .report event ih
  | print text _ ih => exact .print text ih

theorem Settled.mapError {session : Session ε α} (h : Settled session) (f : ε → ε') :
    Settled (session.mapError f) := by
  induction h with
  | done result => exact .done result
  | report event _ ih => exact .report event ih
  | print text _ ih => exact .print text ih

theorem Settled.exists_ends {session : Session ε α} (h : Settled session) (before : Directory) :
    ∃ output result, session.Ends before output (.ok result) before := by
  induction h with
  | done result => exact ⟨_, result, rfl, rfl, rfl⟩
  | report event _ ih =>
    obtain ⟨output, result, ended⟩ := ih
    exact ⟨output, result, ended.output, ended.outcome, ended.directory⟩
  | print text _ ih =>
    obtain ⟨output, result, ended⟩ := ih
    exact ⟨_, result, rfl, ended.outcome, ended.directory⟩

namespace WritesLast

variable {target : Option String}

theorem of_settled {session : Session ε α} (h : Settled session) : WritesLast target session := by
  induction h with
  | done result => exact .done result
  | report event _ ih => exact .report event ih
  | print text settled => exact .print text settled

/-- What comes in front of the output may fail, as long as it puts nothing out itself. -/
theorem of_bind {first : Session ε α} {next : α → Session ε β} (h : ReadOnly first)
    (h' : ∀ result, WritesLast target (next result)) : WritesLast target (first.bind next) := by
  induction h with
  | done result => exact h' result
  | fail error => exact .fail error
  | report event _ ih => exact .report event ih
  | place _ ih => exact .place ih
  | read path _ ih => exact .read path ih

/-- What comes behind the output must not fail. -/
theorem bind {first : Session ε α} {next : α → Session ε β} (h : WritesLast target first)
    (h' : ∀ result, Settled (next result)) : WritesLast target (first.bind next) := by
  induction h with
  | done result => exact of_settled (h' result)
  | fail error => exact .fail error
  | report event _ ih => exact .report event ih
  | print text settled => exact .print text (settled.bind h')
  | place _ ih => exact .place ih
  | read path _ ih => exact .read path ih
  | write content named written refused =>
    refine .write content named (written.bind h') fun fault => ?_
    obtain ⟨error, fails⟩ := refused fault
    exact ⟨error, by rw [fails]; rfl⟩

theorem mapError {session : Session ε α} (h : WritesLast target session) (f : ε → ε') :
    WritesLast target (session.mapError f) := by
  induction h with
  | done result => exact .done result
  | fail error => exact .fail (f error)
  | report event _ ih => exact .report event ih
  | print text settled => exact .print text (settled.mapError f)
  | place _ ih => exact .place ih
  | read path _ ih => exact .read path ih
  | write content named written refused =>
    refine .write content named (written.mapError f) fun fault => ?_
    obtain ⟨error, fails⟩ := refused fault
    exact ⟨f error, by rw [fails]; rfl⟩

/-- **What a session that puts out last leaves**: the directory as it was, and nothing printed if it
has failed, or, when it has a result, the directory with its output written. -/
theorem unchanged_or_written {session : Session ε α} (h : WritesLast target session)
    (before : Directory) :
    ((session.runIn before).directory = before ∧
        ∀ error, (session.runIn before).outcome = .error error →
          (session.runIn before).output = "") ∨
      ∃ path content result, target = some path ∧ (session.runIn before).outcome = .ok result ∧
        before.write path content = .ok (session.runIn before).directory := by
  induction h with
  | done result => exact .inl ⟨rfl, nofun⟩
  | fail error => exact .inl ⟨rfl, fun _ _ => rfl⟩
  | report event _ ih => exact ih
  | print text settled =>
    obtain ⟨output, result, ended⟩ := settled.exists_ends before
    refine .inl ⟨ended.directory, fun error failed => ?_⟩
    cases ended.outcome.symm.trans failed
  | place _ ih => exact ih _
  | read path _ ih => exact ih _
  | @write path content next named written refused =>
    rw [runIn]
    cases wrote : before.write path content.toUTF8 with
    | error fault =>
      -- a refused write is the end, so nothing can be printed behind it
      obtain ⟨error, fails⟩ := refused fault
      simp only [fails]
      exact .inl ⟨rfl, fun _ _ => rfl⟩
    | ok between =>
      obtain ⟨output, result, ended⟩ := written.exists_ends between
      exact .inr ⟨path, content.toUTF8, result, named, ended.outcome, by rw [wrote, ended.directory]⟩

/-- A failure leaves nothing behind. -/
theorem ends_of_error {session : Session ε α} (h : WritesLast target session) {error : ε}
    (failed : (session.runIn before).outcome = .error error) :
    session.Ends before "" (.error error) before := by
  rcases h.unchanged_or_written before with ⟨same, silent⟩ | ⟨_, _, result, -, succeeded, -⟩
  · exact ⟨silent error failed, failed, same⟩
  · cases failed.symm.trans succeeded

/-- Only the file that the output leads to can have another content afterwards. -/
theorem target?_of_changed {session : Session ε α} (h : WritesLast target session)
    {file : FilePath}
    (changed : (session.runIn before).directory.content? file ≠ before.content? file) :
    ∃ path, target = some path ∧ before.target? path = some file := by
  rcases h.unchanged_or_written before with ⟨same, -⟩ | ⟨path, _, _, named, -, written⟩
  · rw [same] at changed
    exact absurd rfl changed
  · exact ⟨path, named, Directory.target?_eq_of_content?_ne written changed⟩

end WritesLast

end Shorthand.Session
