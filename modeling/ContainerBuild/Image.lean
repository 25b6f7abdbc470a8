import ContainerBuild.Text.Lines
import ContainerBuild.Text.Quoted

/-! # Images

A reference to a container image: its name, the platform it is for, and whether it is built here or
only used. The name is also the directory of the image below the contexts root, so it is checked to
be a path that leads nowhere else.
-/

namespace ContainerBuild

/-- What is wrong with the name or the platform of an image. -/
inductive NameFault where
  /-- The name is empty. -/
  | emptyName
  /-- The name starts with, or holds, a character that names do not have. -/
  | malformedName (name : String)
  /-- A segment of the name is empty or names a directory by dots. -/
  | unsafeSegment (name : String)
  /-- The platform is empty. -/
  | emptyOs
  /-- The platform starts with, or holds, a character that platforms do not have. -/
  | malformedOs (os : String)
  deriving DecidableEq, Repr, Inhabited

namespace NameFault

/-- The fault in words. -/
def message : NameFault → String
  | emptyName => "image name must not be empty"
  | malformedName name => "malformed image name '" ++ Text.escape .name name ++ "'"
  | unsafeSegment name => "image name '" ++ name ++ "' has an empty, '.' or '..' path segment"
  | emptyOs => "image os must not be empty"
  | malformedOs os => "malformed image os '" ++ Text.escape .name os ++ "'"

end NameFault

/-- Whether the character may stand anywhere in a name. -/
def isNameChar (c : Char) : Bool :=
  c.isAlphanum || c == '.' || c == '_' || c == '/' || c == ':' || c == '@' || c == '+' || c == '-'

/-- Whether the character may stand anywhere in a platform. -/
def isOsChar (c : Char) : Bool :=
  c.isAlphanum || c == '.' || c == '_' || c == '/' || c == '-'

/-- Whether the text is a letter or digit followed by allowed characters. -/
def isWord (allowed : Char → Bool) : List Char → Bool
  | [] => false
  | c :: rest => c.isAlphanum && rest.all allowed

/-- Whether the segment would leave the directory it stands in, or name no file. -/
def isUnsafeSegment (segment : List Char) : Bool :=
  segment == [] || segment == ['.'] || segment == ['.', '.']

/-- Accepts a name that is a word of name characters and has only safe segments. -/
def checkName (name : String) : Except NameFault Unit :=
  if name.isEmpty then .error .emptyName
  else if !isWord isNameChar name.toList then .error (.malformedName name)
  else if (name.toList.splitOn '/').any isUnsafeSegment then .error (.unsafeSegment name)
  else .ok ()

/-- Accepts a platform that is a word of platform characters. -/
def checkOs (os : String) : Except NameFault Unit :=
  if os.isEmpty then .error .emptyOs
  else if !isWord isOsChar os.toList then .error (.malformedOs os)
  else .ok ()

/-- Where an image comes from. -/
inductive Origin where
  /-- It exists elsewhere and is only used. -/
  | imported
  /-- It is built here. -/
  | built
  deriving DecidableEq, Repr, Inhabited

/-- A reference to an image. -/
structure Image where
  /-- Where the image comes from. -/
  origin : Origin
  /-- The name, with a tag or digest. -/
  name : String
  /-- The platform. -/
  os : String
  deriving DecidableEq, Repr, Inhabited

namespace Image

/-- The image of that name and platform, if both are well formed; the name is checked first. -/
def checked (origin : Origin) (name os : String) : Except NameFault Image := do
  checkName name
  checkOs os
  .ok ⟨origin, name, os⟩

/-- A checked image has the name and the platform that were checked. -/
theorem checked_eq_ok {origin : Origin} {name os : String} {image : Image}
    (h : checked origin name os = .ok image) :
    checkName name = .ok () ∧ checkOs os = .ok () ∧ image = ⟨origin, name, os⟩ := by
  simp only [checked, bind, Except.bind] at h
  split at h
  · cases h
  next hname =>
    split at h
    · cases h
    next hos =>
      cases h
      exact ⟨hname, hos, rfl⟩

/-- A reference to an image that exists elsewhere. -/
def imported (name os : String) : Except NameFault Image := checked .imported name os

/-- Whether the image is built here. -/
def isBuilt (image : Image) : Bool := image.origin == .built

end Image

/-- An image to build on: a reference, or a name on the platform of the image that is built. -/
inductive ImageSource where
  /-- A reference. -/
  | image (image : Image)
  /-- A name. -/
  | named (name : String)
  deriving DecidableEq, Repr, Inhabited

/-- The image that the source stands for on a platform. -/
def ImageSource.resolve (os : String) : ImageSource → Except NameFault Image
  | .image i => .ok i
  | .named name => Image.imported name os

end ContainerBuild
