import ContainerBuild.Text.Lines
import ContainerBuild.Text.Quoted

/-! # Paths

A path is the sequence of bytes that it was written as. What it names depends only on its
components: repeated and trailing slashes and inner dots do not count, a leading dot does, and two
dots are never resolved. Paths with the same components are spellings of one another.
-/

namespace ContainerBuild

/-- A path, as written. -/
structure Path where
  /-- The bytes of the path. -/
  bytes : Bytes
  deriving DecidableEq, Repr, Inhabited

namespace Path

/-- The byte between segments. -/
def slash : UInt8 := 0x2F

/-- The segment that stays where it is. -/
def dot : Bytes := [0x2E]

/-- The segment that goes up. -/
def dots : Bytes := [0x2E, 0x2E]

/-- One step of a path. -/
inductive Component where
  /-- The root of all directories. -/
  | root
  /-- A dot at the start of a relative path. -/
  | current
  /-- Two dots. -/
  | parent
  /-- Any other segment. -/
  | normal (name : Bytes)
  deriving DecidableEq, Repr, Inhabited

namespace Component

/-- How the component is written. -/
def bytes : Component → Bytes
  | root => [slash]
  | current => dot
  | parent => dots
  | normal name => name

/-- Whether the component is a normal segment. -/
def isNormal : Component → Bool
  | normal _ => true
  | _ => false

/-- The place of the component's kind in the order of components. -/
def rank : Component → Nat
  | root => 0
  | current => 1
  | parent => 2
  | normal _ => 3

end Component

/-- Whether the first sequence of bytes comes before the second in lexicographic order. -/
def bytesBefore : Bytes → Bytes → Bool
  | _, [] => false
  | [], _ :: _ => true
  | a :: as, b :: bs => a < b || (a == b && bytesBefore as bs)

/-- Whether the first component comes before the second: by kind, normal segments by their
bytes. -/
def Component.before (a b : Component) : Bool :=
  match a, b with
  | .normal m, .normal n => bytesBefore m n
  | a, b => a.rank < b.rank

/-- Whether the first list of components comes before the second in lexicographic order. -/
def componentsBefore : List Component → List Component → Bool
  | _, [] => false
  | [], _ :: _ => true
  | a :: as, b :: bs => a.before b || (a == b && componentsBefore as bs)

/-- The path that a text spells. -/
def ofString (s : String) : Path := ⟨Utf8.encode s⟩

/-- The text of the path, with a replacement character for each run of bytes that is no text. -/
def display (p : Path) : String := Utf8.decodeLossy p.bytes

/-- The text of the path, if its bytes are text. -/
def text? (p : Path) : Option String := Utf8.decode? p.bytes

/-- The path between double quotes, with escapes. -/
def quoted (p : Path) : String := Text.quoteBytes p.bytes

/-- Whether the path starts at the root. -/
def isAbsolute (p : Path) : Bool := p.bytes.head? == some slash

/-- The parts of the path between slashes, empty ones included. -/
def segments (p : Path) : List Bytes := p.bytes.splitOn slash

/-- The component that a segment stands for, unless it is empty or a dot. -/
def component? (segment : Bytes) : Option Component :=
  if segment = [] ∨ segment = dot then none
  else if segment = dots then some .parent
  else some (.normal segment)

/-- The components of a path that starts with no dot, of which the segments are given. -/
def body (segments : List Bytes) : List Component := segments.filterMap component?

/-- The components of the path. -/
def components (p : Path) : List Component :=
  if p.isAbsolute then .root :: body p.segments
  else if p.segments.head? = some dot then .current :: body p.segments
  else body p.segments

/-- Whether both paths have the same components. -/
def same (p q : Path) : Bool := p.components == q.components

/-- Whether the path's components start with those of another path. -/
def startsWith (p base : Path) : Bool := base.components.isPrefixOf p.components

/-- The second path seen from the first: an absolute path stays as it is, any other is put behind a
slash, unless the first is empty or ends with one. -/
def join (p q : Path) : Path :=
  if q.isAbsolute then q
  else if p.bytes.isEmpty || p.bytes.getLast? == some slash then ⟨p.bytes ++ q.bytes⟩
  else ⟨p.bytes ++ slash :: q.bytes⟩

/-- The path with all parts joined to it, one after the other. -/
def joinAll (p : Path) (parts : List Path) : Path := parts.foldl join p

/-- The path that is written with the components. -/
def ofComponents (components : List Component) : Path :=
  joinAll ⟨[]⟩ (components.map fun c => ⟨c.bytes⟩)

/-- The segments with slashes between them. -/
def ofSegments (segments : List Bytes) : Path := ⟨[slash].intercalate segments⟩

/-- Whether the segment is no component. -/
def isIdle (segment : Bytes) : Bool := (component? segment).isNone

/-- The segments through the one that holds the `n`-th component. -/
def takeComponents (n : Nat) : List Bytes → List Bytes
  | [] => []
  | segment :: rest =>
    match n with
    | 0 => []
    | n + 1 => segment :: if isIdle segment then takeComponents (n + 1) rest
        else takeComponents n rest

/-- The segments after the one that holds the `n`-th component. -/
def dropComponents (n : Nat) : List Bytes → List Bytes
  | [] => []
  | segment :: rest =>
    match n with
    | 0 => segment :: rest
    | n + 1 => if isIdle segment then dropComponents (n + 1) rest else dropComponents n rest

/-- The path in front of the last component, as written, unless there is no component or only the
root. -/
def parent? (p : Path) : Option Path :=
  match p.components.reverse with
  | [] => none
  | .root :: _ => none
  | _ :: rest =>
    match rest.reverse, p.segments with
    | [], _ => some ⟨[]⟩
    | .root :: before, _ :: segments =>
      some ⟨slash :: (ofSegments (takeComponents before.length segments)).bytes⟩
    | .current :: before, segment :: segments =>
      if before.isEmpty then some ⟨segment⟩
      else some (ofSegments (segment :: takeComponents before.length segments))
    | before, segments => some (ofSegments (takeComponents before.length segments))

/-- The segments without those at both ends that are no components. -/
def trimIdle (segments : List Bytes) : List Bytes :=
  ((segments.dropWhile isIdle).reverse.dropWhile isIdle).reverse

/-- The path behind the first `n` components, as written. -/
def behind (p : Path) (n : Nat) : Path :=
  match n, p.components, p.segments with
  | n + 1, .root :: _, _ :: segments => ofSegments (trimIdle (dropComponents n segments))
  | n + 1, .current :: _, _ :: segments => ofSegments (trimIdle (dropComponents n segments))
  | n, _, segments => ofSegments (trimIdle (dropComponents n segments))

end Path

end ContainerBuild
