import FontAccessors.Generator.Logged

namespace FontAccessors

inductive Source where
  | manifest (path : String)
  | single (family : Family)
  deriving DecidableEq, Repr

def Source.ofOptions (manifest typeName fontName : Option String) : Except Failure Source :=
  -- A manifest comes before a family.
  match manifest, typeName with
  | some path, _ => .ok (.manifest path)
  | none, some name => .ok (.single ⟨name, fontName⟩)
  | none, none => .error .noSource

namespace Generator

def loadedRecord (path : String) (m : Manifest) : Log.Record :=
  ⟨.debug, .manifest,
    "loaded " ++ toString m.families.length ++ " families from " ++ path⟩

def manifestOf (path : String) (bytes : Except FileError ByteArray) : Logged Manifest :=
  match bytes with
  | .error e => .failed (.unreadable path e) []
  | .ok bytes =>
    match String.fromUTF8? bytes with
    | none => .failed (.unreadable path .notText) []
    | some text =>
      match Manifest.ofText text with
      | .error e => .failed (.unusable path e) []
      | .ok m => .ok m [loadedRecord path m]

def noFamiliesRecord : Log.Record :=
  ⟨.warn, .generate, "no font families to generate"⟩

def renderedRecord (families : List Family) (cratePath : String) : Log.Record :=
  ⟨.debug, .generate, "rendered " ++ toString families.length ++
    " families with runtime crate " ++ cratePath⟩

def render (families : List Family) (cratePath : String) : Logged String :=
  let warnings := if families.isEmpty then [noFamiliesRecord] else []
  match Module.render families cratePath with
  | .error e => .failed (.refused e) warnings
  | .ok text => .ok text (warnings ++ [renderedRecord families cratePath])

def renderManifest (requested : Option String) (m : Manifest) : Logged String :=
  render m.families (Module.cratePath requested m.cratePath)

variable {m : Type → Type} [Monad m] [Files m]

def load (path : String) : m (Logged Manifest) :=
  return manifestOf path (← Files.read path)

def source (s : Source) (requested : Option String) : m (Logged String) := do
  match s with
  | .manifest path => return (← load path).andThen (renderManifest requested)
  | .single family => return render [family] (Module.cratePath requested none)

def savedRecord (path : String) (isNew : Bool) : Log.Record :=
  ⟨.info, .generate, if isNew then "wrote " ++ path else path ++ " is up to date"⟩

def saveModule (path text : String) : m (Logged Unit) := do
  match ← save path text with
  | .ok isNew => return .ok () [savedRecord path isNew]
  | .error e => return .failed (.unsaved e) []

/-- Sends a generated text to a file if one is given, and leaves to print what is not sent. -/
def deliver (output : Option String) (x : Logged String) : m (Logged String) := do
  match output, x.outcome with
  | some path, .ok text =>
    let saved ← saveModule path text
    return x.andThen fun _ => saved.andThen fun _ => .ok "" []
  | _, _ => return x

end Generator
end FontAccessors
