import FontAccessors.Text.Pieces

namespace FontAccessors.Log

inductive Level where
  | error
  | warn
  | info
  | debug
  | trace
  deriving DecidableEq, Repr

namespace Level

def all : List Level :=
  [error, warn, info, debug, trace]

def name : Level → String
  | error => "ERROR"
  | warn => "WARN"
  | info => "INFO"
  | debug => "DEBUG"
  | trace => "TRACE"

def rank : Level → Nat
  | error => 1
  | warn => 2
  | info => 3
  | debug => 4
  | trace => 5

end Level

inductive Origin where
  | manifest
  | generate
  deriving DecidableEq, Repr

def Origin.name : Origin → String
  | manifest => "fontsgen::manifest"
  | generate => "fontsgen::generate"

structure Record where
  level : Level
  origin : Origin
  message : String
  deriving DecidableEq, Repr

def indented (message : String) : String :=
  "\n    ".intercalate ((Text.split '\n' message.toList).map String.ofList)

def Record.line (r : Record) : String :=
  let level := r.level.name ++ String.ofList (List.replicate (5 - r.level.name.length) ' ')
  "[" ++ level ++ " " ++ r.origin.name ++ "] " ++ indented r.message ++ "\n"

end FontAccessors.Log
