import FontAccessors.FileTree.Path

namespace FontAccessors

inductive FileError where
  | notFound
  | alreadyExists
  | notDirectory
  | isDirectory
  | nameTooLong
  | nullInName
  | notText
  | failed (reason : String)
  deriving DecidableEq, Repr

def FileError.message : FileError → String
  | notFound => "No such file or directory (os error 2)"
  | alreadyExists => "File exists (os error 17)"
  | notDirectory => "Not a directory (os error 20)"
  | isDirectory => "Is a directory (os error 21)"
  | nameTooLong => "File name too long (os error 36)"
  | nullInName => "file name contained an unexpected NUL byte"
  | notText => "stream did not contain valid UTF-8"
  | failed reason => reason

/-- Directories that names are counted from; they always exist. -/
inductive Origin where
  | root
  | above (levels : Nat)
  deriving DecidableEq, Repr

structure Location where
  origin : Origin
  /-- Names that lead there, the innermost first. -/
  names : List String
  deriving DecidableEq, Repr

namespace Location

def here : Location :=
  ⟨.above 0, []⟩

def parent : Location → Location
  | ⟨o, _ :: ns⟩ => ⟨o, ns⟩
  | ⟨.above n, []⟩ => ⟨.above (n + 1), []⟩
  | ⟨.root, []⟩ => ⟨.root, []⟩

def step (l : Location) (piece : String) : Location :=
  if piece = "." then l else if piece = ".." then l.parent else ⟨l.origin, piece :: l.names⟩

def start (path : String) : Location :=
  if FilePath.isRooted path then ⟨.root, []⟩ else here

end Location

inductive Entry where
  | directory
  | file (bytes : ByteArray)

def Entry.isDirectory : Entry → Bool
  | directory => true
  | file _ => false

structure FileTree where
  entries : List (Location × Entry)

namespace FileTree

def empty : FileTree :=
  ⟨[]⟩

def entry? (t : FileTree) (l : Location) : Option Entry :=
  if l.names.isEmpty then some .directory else t.entries.lookup l

def put (t : FileTree) (l : Location) (e : Entry) : FileTree :=
  ⟨(l, e) :: t.entries.filter (·.1 != l)⟩

def pathLimit : Nat := 4095

def nameLimit : Nat := 255

def walk (t : FileTree) (l : Location) : List String → Except FileError Location
  | [] => .ok l
  | p :: ps =>
    if p.isEmpty then walk t l ps
    else
      match t.entry? l with
      | none => .error .notFound
      | some (.file _) => .error .notDirectory
      | some .directory =>
        -- What the last piece leads to need not be there.
        if nameLimit < p.utf8ByteSize then .error .nameTooLong else walk t (l.step p) ps

def locate (t : FileTree) (path : String) : Except FileError Location :=
  if path.toList.contains '\x00' then .error .nullInName
  else if path.isEmpty then .error .notFound
  else if pathLimit < path.utf8ByteSize then .error .nameTooLong
  else t.walk (.start path) (FilePath.pieces path)

def read (t : FileTree) (path : String) : Except FileError ByteArray := do
  match t.entry? (← t.locate path) with
  | none => .error .notFound
  | some .directory => .error .isDirectory
  | some (.file bytes) => if FilePath.endsInSlash path then .error .notDirectory else .ok bytes

def write (t : FileTree) (path : String) (bytes : ByteArray) : Except FileError FileTree := do
  let l ← t.locate path
  if FilePath.endsInSlash path || (t.entry? l).any Entry.isDirectory then .error .isDirectory
  else return t.put l (.file bytes)

def makeDirectory (t : FileTree) (path : String) : Except FileError FileTree := do
  let l ← t.locate path
  if (t.entry? l).isSome then .error .alreadyExists else return t.put l .directory

def isDirectory (t : FileTree) (path : String) : Bool :=
  match t.locate path with
  | .ok l => (t.entry? l).any Entry.isDirectory
  | .error _ => false

def pathText (l : Location) (e : Entry) : String :=
  let names := "/".intercalate l.names.reverse
  match e with
  | .directory => names ++ "/"
  | .file _ => names

def paths (t : FileTree) : List String :=
  let inside := t.entries.filter fun p => p.1.origin = .above 0
  (inside.map fun p => pathText p.1 p.2).mergeSort fun a b => decide (a ≤ b)

end FileTree
end FontAccessors
