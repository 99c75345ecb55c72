/-!
# Storage

The file operations that the program needs. Where an operation fails it says why in the words of the
system. A file that can be found may still not be readable.
-/

namespace HubDispatch

/-- Why a file cannot be read. -/
inductive ReadTrouble where
  | cannotOpen (reason : String)
  | cannotRead (reason : String)
  deriving DecidableEq, Repr

/-- A place where files are kept. -/
class Storage (m : Type → Type) where
  read : String → m (Except ReadTrouble (List UInt8))
  /-- A directory and those above it, if they are not there. -/
  makeDirectory : String → m (Except String Unit)
  /-- An empty file, even if there was another. -/
  create : String → m (Except String Unit)
  append : String → List UInt8 → m Unit

/-- What the system says of files. -/
inductive FileTrouble where
  | noSuchFile
  | fileExists
  | notADirectory
  | isADirectory
  | nameTooLong
  /-- A path with a null character, which no file can have. -/
  | nullCharacter
  deriving DecidableEq, Repr

def FileTrouble.message : FileTrouble → String
  | .noSuchFile => "No such file or directory (os error 2)"
  | .fileExists => "File exists (os error 17)"
  | .notADirectory => "Not a directory (os error 20)"
  | .isADirectory => "Is a directory (os error 21)"
  | .nameTooLong => "File name too long (os error 36)"
  | .nullCharacter => "file name contained an unexpected NUL byte"

end HubDispatch
