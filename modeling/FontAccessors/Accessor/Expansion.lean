import FontAccessors.Accessor.Settings

namespace FontAccessors
open Grammar

/-- The outcome of an attribute, decided in the order of the constructors. -/
inductive Expansion where
  | noItem
  | unchanged (tokens : List Token)
  | failed (error : GenerateError) (item : Item)
  | generated (e : Enumeration) (accessors : List Accessor) (runtime : Path)

namespace Expansion

/-- The accessors that settings allow on an item, and the path that they use. Where no accessors
are wanted, no path is read. -/
def resolve (s : Settings) (a : Attachment) :
    Except GenerateError (Option (List Accessor × Path)) := do
  let accessors ← s.accessors a
  if accessors.isEmpty then return none
  else return some (accessors, ← s.runtime)

def ofItem (s : Settings) (i : Item) : Expansion :=
  match resolve s (.ofItem i), i with
  | .error error, i => failed error i
  | .ok none, i => unchanged i.tokens
  | .ok (some (accessors, runtime)), .enumeration e => generated e accessors runtime
  -- Never met: only enumerations have accessors.
  | .ok (some _), .other tokens => unchanged tokens

theorem ofItem_other (s : Settings) (tokens : List Token) :
    ofItem s (.other tokens) = unchanged tokens := rfl

section

variable {s : Settings} {name : String}

theorem ofItem_no_fontName (h : s.fontName = none) (e : Enumeration) :
    ofItem s (.enumeration e) = failed .missingFontName (.enumeration e) := by
  have missing : resolve s .enumeration = .error .missingFontName := by
    rw [resolve, Settings.accessors_of_no_fontName h]
    rfl
  simp only [ofItem, Attachment.ofItem, missing]

theorem ofItem_no_runtime (h : s.fontName = some name) {error : GenerateError}
    (refused : s.runtime = .error error) (e : Enumeration) :
    ofItem s (.enumeration e) = failed error (.enumeration e) := by
  have refused' : resolve s .enumeration = .error error := by
    rw [resolve, Settings.accessors_of_fontName h, refused]
    rfl
  simp only [ofItem, Attachment.ofItem, refused']

theorem ofItem_generated (h : s.fontName = some name) {p : Path} (hp : s.runtime = .ok p)
    (e : Enumeration) :
    ofItem s (.enumeration e) = generated e (Accessor.ofFont name) p := by
  have resolved : resolve s .enumeration = .ok (some (Accessor.ofFont name, p)) := by
    rw [resolve, Settings.accessors_of_fontName h, hp]
    rfl
  simp only [ofItem, Attachment.ofItem, resolved]

end

def ofTokens (settings item : List Token) : Expansion :=
  match Item.ofTokens? item with
  | none => noItem
  | some i => ofItem (Settings.ofTokens settings) i

def compileError (message : String) : List Token :=
  operator "::" ++ ident "core" ++ operator "::" ++ ident "compile_error" ++ operator "!" ++
    [.group .brace [Accessor.text message]]

def implementation (e : Enumeration) (body : List Token) : List Token :=
  ident "impl" ++ e.generics.write Parameter.bounded ++ [.ident e.name] ++
    e.generics.write Parameter.argument ++ e.conditions ++ [.group .brace body]

def accessorTokens (accessors : List Accessor) (runtime : List Token) :
    Except NameError (List Token) :=
  (accessors.mapM (Accessor.tokens · runtime)).map List.flatten

def tokens? : Expansion → Except NameError (Option (List Token))
  | noItem => .ok none
  | unchanged ts => .ok (some ts)
  | failed error i => .ok (some (compileError error.message ++ i.tokens))
  | generated e accessors runtime =>
    (accessorTokens accessors runtime.tokens).map fun body =>
      some (e.tokens ++ implementation e body)

/-- All that takes the item's place. Where there is no item, `explain` says why. -/
def emitted (explain : List Token → String) (settings item : List Token) :
    Except NameError (List Token) :=
  (ofTokens settings item).tokens?.map (·.getD (compileError (explain item)))

end Expansion
end FontAccessors
