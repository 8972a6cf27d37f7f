import ToolingHost.Bytes

/-! # Path names

A path is a byte string whose components are separated by slashes. The operations here are lexical:
they never ask the file system. A component is a nonempty part other than `.`; only a `.` at the
very front of a relative path counts as one, so that `./x` keeps its parent `.`. -/

namespace ToolingHost

/-- A path name. -/
structure FilePath where
  /-- The bytes of the name. -/
  bytes : Bytes
  deriving DecidableEq, Repr

namespace FilePath

/-- The separator of components. -/
def separator : UInt8 := 47

/-- The byte of the component that means "here". -/
def dot : UInt8 := 46

/-- The path with the given name. -/
def ofString (s : String) : FilePath := ⟨Bytes.ofString s⟩

/-- The name as text, with replacement characters where it is none. -/
def display (p : FilePath) : String := Utf8.lossy p.bytes

/-- Whether the path starts at the root. -/
def isAbsolute (p : FilePath) : Bool := p.bytes.head? == some separator

/-- Whether the name is empty. -/
def isEmpty (p : FilePath) : Bool := p.bytes.isEmpty

/-- Whether a part between separators is no component. -/
def isIdle (part : Bytes) : Bool := part.isEmpty || part == [dot]

/-- The part of the name that stands before the components: the root, or a `.` at the front. -/
def lead (p : FilePath) : Bytes :=
  match p.bytes with
  | [] => []
  | b :: rest =>
    if b = separator then [b]
    else if b = dot ∧ (rest = [] ∨ rest.head? = some separator) then [b]
    else []

/-- The parts between separators after the lead. -/
def parts (p : FilePath) : List Bytes := Bytes.cut separator (p.bytes.drop p.lead.length)

/-- The components, without the root and without a `.` at the front. -/
def components (p : FilePath) : List Bytes := p.parts.filter fun part => !isIdle part

/-- Joins parts with separators. -/
def joinParts (parts : List Bytes) : Bytes := [separator].intercalate parts

/-- The parts without the idle ones at the end. -/
def dropIdleBack (parts : List Bytes) : List Bytes := (parts.reverse.dropWhile isIdle).reverse

/-- The path without its last component: none for the root and for the empty path. -/
def parent? (p : FilePath) : Option FilePath :=
  match (dropIdleBack p.parts).reverse with
  | _ :: before => some ⟨p.lead ++ joinParts (dropIdleBack before.reverse)⟩
  | [] => if p.lead = [dot] then some ⟨[]⟩ else none

/-- The paths from `p` upwards, each the parent of the one before. -/
def ancestors (p : FilePath) : List FilePath :=
  go p.bytes.length p
where
  /-- Walks up at most `fuel` steps; every parent has fewer bytes than its child. -/
  go : Nat → FilePath → List FilePath
    | 0, p => [p]
    | fuel + 1, p =>
      match p.parent? with
      | none => [p]
      | some q => p :: go fuel q

/-- `q` seen from `p`: an absolute `q` stands on its own, any other is appended after a separator.
-/
def join (p q : FilePath) : FilePath :=
  if q.isAbsolute then q
  else
    match p.bytes.getLast? with
    | none => q
    | some b => if b = separator then ⟨p.bytes ++ q.bytes⟩ else ⟨p.bytes ++ separator :: q.bytes⟩

/-- An absolute path replaces what it is joined to. -/
theorem join_of_isAbsolute {p q : FilePath} (h : q.isAbsolute = true) : p.join q = q := by
  simp [join, h]

/-- Nothing stands before a path that is joined to the empty one. -/
@[simp] theorem empty_join (q : FilePath) : (⟨[]⟩ : FilePath).join q = q := by
  simp [join]

end FilePath

end ToolingHost
