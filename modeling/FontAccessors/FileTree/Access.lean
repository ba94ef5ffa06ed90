import FontAccessors.FileTree.Basic

/-!
Programs that use files. What they do to a tree of files is the meaning of their operations; the
same programs run on real files. `save` leaves a file alone whose text is already right.
-/

namespace FontAccessors

class Files (m : Type → Type) where
  read : String → m (Except FileError ByteArray)
  write : String → ByteArray → m (Except FileError Unit)
  makeDirectory : String → m (Except FileError Unit)
  isDirectory : String → m Bool

def FileTree.update (t : FileTree) : Except FileError FileTree → Except FileError Unit × FileTree
  | .ok t => (.ok (), t)
  | .error e => (.error e, t)

instance : Files (StateM FileTree) where
  read path t := (t.read path, t)
  write path bytes t := t.update (t.write path bytes)
  makeDirectory path t := t.update (t.makeDirectory path)
  isDirectory path t := (t.isDirectory path, t)

inductive SaveError where
  | noDirectory (path : String) (error : FileError)
  | notWritten (path : String) (error : FileError)
  deriving DecidableEq, Repr

def SaveError.message : SaveError → String
  | noDirectory path e => "Failed to create " ++ path ++ ": " ++ e.message
  | notWritten path e => "Failed to write " ++ path ++ ": " ++ e.message

variable {m : Type → Type} [Monad m] [Files m]

/-- Makes the first of some directories, each of which is in the next one. -/
def makeDirectories : List String → m (Except FileError Unit)
  | [] => return .ok ()
  | path :: above => do
    let settle (made : Except FileError Unit) : m (Except FileError Unit) := do
      match made with
      | .ok () => return .ok ()
      -- Whatever the failure is, a directory that is there will do.
      | .error e => return if ← Files.isDirectory path then .ok () else .error e
    match ← Files.makeDirectory path with
    | .error .notFound =>
      match ← makeDirectories above with
      | .ok () => settle (← Files.makeDirectory path)
      | .error e => return .error e
    | made => settle made

def overwrite (path : String) (bytes : ByteArray) : m (Except SaveError Unit) := do
  let directories := FilePath.directories path
  match ← makeDirectories directories with
  | .error e => return .error (.noDirectory (directories.headD "") e)
  | .ok () =>
    match ← Files.write path bytes with
    | .error e => return .error (.notWritten path e)
    | .ok () => return .ok ()

/-- Tells whether the file had to be written. -/
def save (path text : String) : m (Except SaveError Bool) := do
  let bytes := text.toUTF8
  match ← Files.read path with
  | .ok old =>
    if old.data = bytes.data then return .ok false
    else return (← overwrite path bytes).map fun _ => true
  -- What cannot be read may still be written; if not, that failure is the one to report.
  | .error _ => return (← overwrite path bytes).map fun _ => true

end FontAccessors
