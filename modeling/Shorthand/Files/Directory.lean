import Shorthand.Files.Fault
import Shorthand.Text.Split

/-!
# Directories

A working directory in the tree of files that it stands in, as a value. Files and directories are
named by the components of their paths from the root; a directory exists when it is the working
directory, has been made, or leads to either of these or to a file. `read` and `write` take paths as
they are given to a program, and answer as a file system does: a written file holds what was
written, every other file is as it was, and a refused write changes nothing. Reading a file, writing
a file and making one can each be forbidden. Links, and directories that may not be passed through,
are left out.
-/

namespace Shorthand

/-- The components of a path from the root. -/
abbrev FilePath := List String

/-- A file, with what may be done with it. -/
structure File where
  content : ByteArray
  readable : Bool := true
  writable : Bool := true

/-- A working directory and the files around it. -/
structure Directory where
  /-- Where the working directory is. -/
  place : FilePath
  /-- Directories that are there, whether they hold files or not. -/
  folders : List FilePath := []
  /-- Directories in which no file may be made. -/
  locked : List FilePath := []
  files : List (FilePath × File) := []

namespace Directory

/-- A directory without files. -/
def empty : Directory := { place := ["work"] }

/-- A file. -/
def file? (directory : Directory) (path : FilePath) : Option File :=
  directory.files.lookup path

/-- The content of a file. -/
def content? (directory : Directory) (path : FilePath) : Option ByteArray :=
  (directory.file? path).map File.content

/-- Whether a path is that of a directory. -/
def isDirectory (directory : Directory) (path : FilePath) : Bool :=
  path.isPrefixOf directory.place || directory.folders.any path.isPrefixOf ||
    directory.files.any fun file => path.isPrefixOf file.1 && path.length < file.1.length

/-- Gives a file its content; a file that is not there becomes the last one. -/
def put (directory : Directory) (path : FilePath) (content : ByteArray) : Directory :=
  { directory with files := go directory.files }
where
  /-- Replaces the content of the first entry of the path, or adds one. -/
  go : List (FilePath × File) → List (FilePath × File)
    | [] => [(path, { content })]
    | file :: rest =>
      if file.1 = path then (path, { file.2 with content }) :: rest else file :: go rest

/-! ## Paths -/

/-- What a path leads to. -/
inductive Spot where
  /-- A file. -/
  | file (path : FilePath) (file : File)
  /-- A directory. -/
  | directory (path : FilePath)
  /-- Nothing, inside a directory. -/
  | vacant (path : FilePath)

/-- What a name stands for inside a directory. -/
def look (directory : Directory) (path : FilePath) : Spot :=
  match directory.file? path with
  | some file => .file path file
  | none => if directory.isDirectory path then .directory path else .vacant path

/-- The most bytes that a name can have. -/
def nameLimit : Nat := 255

/-- The number of bytes that a path has to stay below. -/
def pathLimit : Nat := 4096

/-- What is wrong with a path before anything is looked up. -/
def pathFault? (path : String) : Option FileFault :=
  if path.toList.contains '\x00' then some .zeroInName
  else if path = "" then some .noSuchFile
  else if path.utf8ByteSize < pathLimit then none
  else some .nameTooLong

/-- Follows one component. An empty one and a single dot stay, two dots go up. -/
def follow (directory : Directory) : Spot → String → Except FileFault Spot
  | .file _ _, _ => .error .notDirectory
  | .vacant _, _ => .error .noSuchFile
  | .directory path, name =>
    if name = "" ∨ name = "." then .ok (.directory path)
    -- above the root is the root
    else if name = ".." then .ok (.directory path.dropLast)
    else if nameLimit < name.utf8ByteSize then .error .nameTooLong
    else .ok (directory.look (path ++ [name]))

/-- The components of a path, empty ones included. -/
def components (path : String) : List String :=
  (Text.splitOn '/' path.toList).map String.ofList

/-- The components of a path that lead anywhere: no empty ones, no single dots. -/
def names (path : String) : FilePath :=
  (components path).filter fun name => name ≠ "" ∧ name ≠ "."

/-- Follows the components of a path, from the root if it starts with a slash. -/
def followAll (directory : Directory) (names : List String) : Except FileFault Spot :=
  names.foldlM directory.follow
    (.directory (if names.head? = some "" then [] else directory.place))

/-- What a path leads to. The empty path leads nowhere. -/
def resolve (directory : Directory) (path : String) : Except FileFault Spot :=
  match pathFault? path with
  | some fault => .error fault
  | none => directory.followAll (components path)

/-! ## Reading and writing -/

/-- The content of the file that a path leads to. -/
def read (directory : Directory) (path : String) : Except FileFault ByteArray :=
  match directory.resolve path with
  | .error fault => .error fault
  | .ok (.file _ file) => if file.readable then .ok file.content else .error .permissionDenied
  | .ok (.directory _) => .error .isDirectory
  | .ok (.vacant _) => .error .noSuchFile

/-- What stands in the way of writing to a path that ends with a slash: such a path can only be
that of a directory, if what comes before its last name is one. -/
def slashFault (directory : Directory) (path : String) : FileFault :=
  let names := (components path).reverse.dropWhile (· = "")
  match directory.followAll (names.drop 1).reverse with
  | .error fault => fault
  | .ok (.file _ _) => .notDirectory
  | .ok (.vacant _) => .noSuchFile
  | .ok (.directory _) => .isDirectory

/-- The file that is there to be written under a path, or can be made. -/
def opened (directory : Directory) (path : String) : Except FileFault FilePath :=
  if pathFault? path = none ∧ path.toList.getLast? = some '/' then
    .error (directory.slashFault path)
  else match directory.resolve path with
    | .error fault => .error fault
    | .ok (.file path file) => if file.writable then .ok path else .error .permissionDenied
    | .ok (.vacant path) =>
      if path.dropLast ∈ directory.locked then .error .permissionDenied else .ok path
    | .ok (.directory _) => .error .isDirectory

/-- Writes a file, which is made if it is not there. Nothing can go wrong once it is opened. -/
def write (directory : Directory) (path : String) (content : ByteArray) :
    Except FileFault Directory :=
  (directory.opened path).map fun file => directory.put file content

/-! ## Making and comparing directories -/

/-- Puts files below the working directory, named by their paths from there. -/
def fill (directory : Directory) (files : List (String × ByteArray)) : Directory :=
  files.foldl (fun directory file =>
    directory.put (directory.place ++ names file.1) file.2) directory

/-- A directory with the given files, named by their paths. -/
def ofFiles (files : List (String × ByteArray)) : Directory := empty.fill files

/-- The files below the working directory that are new or have another content than before. -/
def changes (before after : Directory) : List (String × ByteArray) :=
  after.files.filterMap fun (path, file) =>
    if before.place.isPrefixOf path ∧
        (before.content? path).map (·.data) ≠ some file.content.data then
      some ("/".intercalate (path.drop before.place.length), file.content)
    else none

end Directory

end Shorthand
