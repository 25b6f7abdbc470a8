import ContainerBuild.Path

/-! # Faults of file stores

Why an operation on a store did not succeed. A store in memory reports the path that it was asked
for; a disk reports what was attempted and, behind it, what the system said.
-/

namespace ContainerBuild

/-- What the system says about an operation on a disk. -/
inductive SystemFault where
  /-- A name of the path does not exist. -/
  | noSuchFile
  /-- The caller may not do this. -/
  | accessDenied
  /-- The name is taken. -/
  | fileExists
  /-- A name that is followed by others is not that of a directory. -/
  | notDirectory
  /-- The path names a directory. -/
  | isDirectory
  /-- A name or the whole path is too long. -/
  | nameTooLong
  /-- The path has a zero byte. -/
  | zeroByte
  /-- The content is no text. -/
  | notText
  /-- The path to copy from names no file. -/
  | notRegular
  deriving DecidableEq, Repr, Inhabited

/-- The fault in words, with its number where it has one. -/
def SystemFault.message : SystemFault → String
  | noSuchFile => "No such file or directory (os error 2)"
  | accessDenied => "Permission denied (os error 13)"
  | fileExists => "File exists (os error 17)"
  | notDirectory => "Not a directory (os error 20)"
  | isDirectory => "Is a directory (os error 21)"
  | nameTooLong => "File name too long (os error 36)"
  | zeroByte => "file name contained an unexpected NUL byte"
  | notText => "stream did not contain valid UTF-8"
  | notRegular => "the source path is neither a regular file nor a symlink to a regular file"

/-- What was attempted on a disk. -/
inductive Attempt where
  /-- To read a file. -/
  | readFile (path : Path)
  /-- To create a directory. -/
  | createDirectory (path : Path)
  /-- To write a file. -/
  | writeFile (path : Path)
  /-- To copy a file. -/
  | copyFile (source target : Path)
  /-- To list a directory. -/
  | readDirectory (path : Path)
  deriving DecidableEq, Repr, Inhabited

/-- The failed attempt in words. -/
def Attempt.message : Attempt → String
  | readFile path => "Failed to read file " ++ path.quoted
  | createDirectory path => "Failed to create directory " ++ path.quoted
  | writeFile path => "Failed to write file " ++ path.quoted
  | copyFile source target => "Failed to copy " ++ source.quoted ++ " to " ++ target.quoted
  | readDirectory path => "Failed to read directory " ++ path.quoted

/-- Why an operation on a store did not succeed. -/
inductive StoreFault where
  /-- Nothing is stored at the path. -/
  | notFound (path : Path)
  /-- A directory is stored where a file is read. -/
  | notFile (path : Path)
  /-- Writing at or below the path is denied. -/
  | denied (path : Path)
  /-- A directory is stored where a file is written. -/
  | isDirectory (path : Path)
  /-- No directory is stored where one is copied from. -/
  | notDirectory (path : Path)
  /-- An attempt failed on a disk. -/
  | failed (attempt : Attempt) (cause : SystemFault)
  deriving DecidableEq, Repr, Inhabited

namespace StoreFault

/-- What went wrong, and what caused it. -/
def chain : StoreFault → List String
  | notFound path => ["File not found: " ++ path.quoted]
  | notFile path => ["Not a file: " ++ path.quoted]
  | denied path => ["Permission denied: " ++ path.quoted]
  | isDirectory path => ["Is a directory: " ++ path.quoted]
  | notDirectory path => ["Not a directory: " ++ path.quoted]
  | failed attempt cause => [attempt.message, cause.message]

/-- What went wrong and what caused it, on one line. -/
def message (f : StoreFault) : String := ": ".intercalate f.chain

end StoreFault

end ContainerBuild
