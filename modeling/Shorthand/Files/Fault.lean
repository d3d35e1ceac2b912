/-!
# File faults

Why a file could not be read or written.
-/

namespace Shorthand

/-- Why a file could not be read or written. -/
inductive FileFault where
  /-- Nothing is there. -/
  | noSuchFile
  /-- A directory is there, not a file. -/
  | isDirectory
  /-- The path goes on behind a file. -/
  | notDirectory
  /-- The path, or a name in it, is longer than names may be. -/
  | nameTooLong
  /-- The path holds a zero character, which no path can. -/
  | zeroInName
  /-- The file or the directory is there, but may not be used like this. -/
  | permissionDenied
  /-- The content is not UTF-8. -/
  | notText
  /-- Something else, in the words of the system. -/
  | other (description : String)
deriving DecidableEq, Repr

/-- The fault in the words of the system. -/
def FileFault.message : FileFault → String
  | noSuchFile => "No such file or directory (os error 2)"
  | isDirectory => "Is a directory (os error 21)"
  | notDirectory => "Not a directory (os error 20)"
  | nameTooLong => "File name too long (os error 36)"
  | zeroInName => "file name contained an unexpected NUL byte"
  | permissionDenied => "Permission denied (os error 13)"
  | notText => "stream did not contain valid UTF-8"
  | other description => description

/-- Whether the fault tells that there is no file. -/
def FileFault.isAbsence : FileFault → Bool
  | noSuchFile | isDirectory | notDirectory | nameTooLong | zeroInName => true
  | permissionDenied | notText | other _ => false

/-- Reads bytes as text. -/
def decodeText (content : ByteArray) : Except FileFault String :=
  match String.fromUTF8? content with
  | some text => .ok text
  | none => .error .notText

end Shorthand
