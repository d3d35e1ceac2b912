import Shorthand.Files.Fault

/-!
# Configuration errors

Why a configuration could not be put together: a file cannot be found, read or understood, or a
setting does not fit what it is for.
-/

namespace Shorthand

/-- Why a configuration could not be put together. -/
inductive ConfigError where
  /-- There is no such file. -/
  | fileMissing (name : String)
  /-- A file that is there cannot be read. -/
  | fileFault (fault : FileFault)
  /-- A file is not well-formed. -/
  | malformed
  /-- A word is none of the words to choose from. -/
  | unknownWord (choice word : String)
  /-- Something other than a word stands where a word has to be chosen. -/
  | notAWord (choice : String)
  /-- Something other than a section stands under the name of a section. -/
  | notASection (found expected : String)
  /-- Something that has no text stands where a text is needed. -/
  | notText (found key : String) (origin : Option String)
deriving DecidableEq, Repr

/-- The cause in words. -/
def ConfigError.message : ConfigError → String
  | fileMissing name => "configuration file \"" ++ name ++ "\" not found"
  | fileFault fault => fault.message
  | malformed => "TOML parse error"
  | unknownWord choice word => "enum " ++ choice ++ " does not have variant constructor " ++ word
  | notAWord choice =>
    "value of enum " ++ choice ++
      " should be represented by either string or table with exactly one key"
  | notASection found expected =>
    "invalid type: " ++ found ++ ", expected struct " ++ expected
  | notText found key origin =>
    "invalid type: " ++ found ++ ", expected a string for key `" ++ key ++ "`" ++
      match origin with
      | some file => " in " ++ file
      | none => ""

end Shorthand
