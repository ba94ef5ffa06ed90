import FontAccessors.Generator.Render

/-!
The arguments of the command line. They are taken from left to right, and the first that stands out
decides: one that asks for the version or for help, or one that fits nowhere.
-/

namespace FontAccessors.CommandLine
open Text

inductive Word where
  | long (name : String) (value : Option String)
  | short (letter : Char) (rest : String)
  | separator
  | plain (text : String)
  deriving DecidableEq, Repr

def Word.ofChars : List Char → Word
  | ['-', '-'] => separator
  | '-' :: '-' :: cs =>
    let name := cs.takeWhile (· != '=')
    match cs.dropWhile (· != '=') with
    | _ :: value => long (String.ofList name) (some (String.ofList value))
    | [] => long (String.ofList name) none
  | '-' :: c :: cs => short c (String.ofList cs)
  | cs => plain (String.ofList cs)

def Word.ofText (s : String) : Word :=
  ofChars s.toList

inductive Key where
  | manifest
  | typeName
  | fontName
  | cratePath
  | output
  deriving DecidableEq, Repr

namespace Key

def all : List Key :=
  [manifest, typeName, fontName, cratePath, output]

def name : Key → String
  | manifest => "manifest"
  | typeName => "type-name"
  | fontName => "font-name"
  | cratePath => "crate-path"
  | output => "output"

def letter? : Key → Option Char
  | manifest => some 'm'
  | output => some 'o'
  | _ => none

def isPath : Key → Bool
  -- Paths may not be empty.
  | manifest | output => true
  | _ => false

end Key

abbrev Options := List (Key × String)

def Options.value? (o : Options) (k : Key) : Option String :=
  o.lookup k

inductive UsageError where
  | noCommand
  | unexpected (argument : String)
  | noValue (key : Key)
  | repeated (key : Key)
  | conflict (key : Key)
  deriving DecidableEq, Repr

/-- Which argument is wrong, in words of this library's own: only that a run is refused and how it
ends are fixed for the program, not what it says about its usage. -/
def UsageError.message : UsageError → String
  | noCommand => "a command is required: generate or styles"
  | unexpected argument => "unexpected argument '" ++ argument ++ "'"
  | noValue key => "a value is required for '--" ++ key.name ++ "'"
  | repeated key => "the argument '--" ++ key.name ++ "' cannot be used multiple times"
  | conflict key => "the argument '--manifest' cannot be used with '--" ++ key.name ++ "'"

inductive Stop where
  | version
  | help
  | refused (error : UsageError)
  deriving DecidableEq, Repr

def Options.assign (o : Options) (k : Key) (value : String) : Except Stop Options :=
  if k.isPath && value.isEmpty then .error (.refused (.noValue k))
  else if (o.value? k).isSome then .error (.refused (.repeated k))
  else .ok ((k, value) :: o)

def attached (rest : String) : Option String :=
  match rest.toList with
  | [] => none
  | '=' :: cs => some (String.ofList cs)
  | cs => some (String.ofList cs)

def keyOf (keys : List Key) (argument : String) : Except Stop (Key × Option String) :=
  let unexpected := Stop.refused (.unexpected argument)
  match Word.ofText argument with
  | .long "version" none => .error .version
  | .long "help" none => .error .help
  | .long name value =>
    match keys.find? (·.name == name) with
    | some k => .ok (k, value)
    | none => .error unexpected
  | .short 'V' _ => .error .version
  | .short 'h' _ => .error .help
  | .short c rest =>
    match keys.find? (·.letter? == some c) with
    | some k => .ok (k, attached rest)
    | none => .error unexpected
  | .separator | .plain _ => .error unexpected

/-- Reads the options of a command that has the given keys. `waiting` is a key whose value comes
next. -/
def options (keys : List Key) (o : Options) (waiting : Option Key) :
    List String → Except Stop Options
  | [] =>
    match waiting with
    | none => .ok o
    | some k => .error (.refused (.noValue k))
  | argument :: arguments =>
    match waiting, Word.ofText argument with
    | some k, .plain _ => (o.assign k argument).bind fun o => options keys o none arguments
    -- What looks like an option is no value.
    | some k, _ => .error (.refused (.noValue k))
    | none, .separator =>
      if let a :: _ := arguments then .error (.refused (.unexpected a)) else .ok o
    | none, _ =>
      match keyOf keys argument with
      | .error stop => .error stop
      | .ok (k, none) => options keys o (some k) arguments
      | .ok (k, some v) => (o.assign k v).bind fun o => options keys o none arguments

inductive Command where
  | generate
  | styles
  deriving DecidableEq, Repr

namespace Command

def all : List Command :=
  [generate, styles]

def name : Command → String
  | generate => "generate"
  | styles => "styles"

def keys : Command → List Key
  | generate => Key.all
  | styles => []

end Command

inductive Invocation where
  | generate (options : Options)
  | styles
  | version (command : Option Command)
  | help
  | refused (error : UsageError)
  deriving DecidableEq, Repr

namespace Invocation

def ofStop (command : Option Command) : Stop → Invocation
  | .version => version command
  | .help => help
  | .refused e => refused e

def conflict? (o : Options) : Option UsageError :=
  if (o.value? .manifest).isSome then
    ([Key.typeName, .fontName].find? fun k => (o.value? k).isSome).map .conflict
  else none

def ofCommand (c : Command) (arguments : List String) : Invocation :=
  match options c.keys [] none arguments with
  | .error stop => ofStop (some c) stop
  | .ok o =>
    match conflict? o, c with
    | some e, _ => refused e
    | none, .generate => generate o
    | none, .styles => styles

def ofHelp : List String → Invocation
  | [] => help
  | "help" :: rest => if let a :: _ := rest then refused (.unexpected a) else help
  | a :: rest =>
    if Command.all.any (·.name == a) then
      if let b :: _ := rest then refused (.unexpected b) else help
    else refused (.unexpected a)

def ofArguments : List String → Invocation
  | [] => refused .noCommand
  | "help" :: arguments => ofHelp arguments
  | argument :: arguments =>
    match Command.all.find? (·.name == argument) with
    | some c => ofCommand c arguments
    | none =>
      match keyOf [] argument with
      | .error stop => ofStop none stop
      | .ok (k, _) => refused (.noValue k)

end Invocation
end FontAccessors.CommandLine
