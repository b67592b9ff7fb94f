/-
What can go wrong when the host is asked for a file or a program.
-/

namespace TexAtlas.Host

inductive Fault where
  | notFound
  | permissionDenied
  | badExecutable
  | notDirectory
  | isDirectory
  | nameTooLong
  /-- Files that lead from one to the next too often. -/
  | tooManyLinks
  /-- A path with a character that ends names. -/
  | cutName
  /-- A program whose path has a character that ends names. -/
  | cutCommand
  | noSpace
  /-- The file was read, but its bytes are no text. -/
  | notText
  /-- A file that has a name but no path. -/
  | noPath (name : String)
  deriving DecidableEq, Repr

namespace Fault

def message : Fault → String
  | notFound => "No such file or directory (os error 2)"
  | permissionDenied => "Permission denied (os error 13)"
  | badExecutable => "Exec format error (os error 8)"
  | notDirectory => "Not a directory (os error 20)"
  | isDirectory => "Is a directory (os error 21)"
  | nameTooLong => "File name too long (os error 36)"
  | tooManyLinks => "Too many levels of symbolic links (os error 40)"
  | cutName => "file name contained an unexpected NUL byte"
  | cutCommand => "nul byte found in provided data"
  | noSpace => "No space left on device (os error 28)"
  | notText => "stream did not contain valid UTF-8"
  | noPath name => name ++ " has no known path"

/-- The word for the kind of fault. -/
def kind : Fault → String
  | notFound | noPath _ => "NotFound"
  | permissionDenied => "PermissionDenied"
  | badExecutable => "ExecFormat"
  | notDirectory => "NotADirectory"
  | isDirectory => "IsADirectory"
  | nameTooLong => "InvalidFilename"
  | tooManyLinks => "FilesystemLoop"
  | cutName | cutCommand => "InvalidInput"
  | noSpace => "StorageFull"
  | notText => "InvalidData"

end Fault

end TexAtlas.Host
