import FontAccessors.CommandLine.Arguments
import FontAccessors.Log.Filter

namespace FontAccessors.CommandLine

structure Outcome where
  status : UInt32
  stdout : String
  stderr : String
  deriving DecidableEq, Repr

def programName : String := "fontsgen"
def version : String := "0.1.0"

def defaultFilter : String := "warn"

def versionText : Option Command → String
  | none => programName ++ " " ++ version ++ "\n"
  | some c => programName ++ "-" ++ c.name ++ " " ++ version ++ "\n"

/-- One text for every command. Its wording is not fixed for the program and is this library's
own. -/
def helpText : String :=
  "Usage: fontsgen <COMMAND>\n\nCommands:\n" ++
    "  generate  Renders font accessors as a Rust module\n" ++
    "  styles    Lists the built-in text style table\n" ++
    "  help      Print this message or the help of the given subcommand(s)\n\n" ++
    "Options of generate:\n" ++
    "  -m, --manifest <MANIFEST>      YAML manifest listing the font families\n" ++
    "      --type-name <TYPE_NAME>    Name of the generated enum, for a single family\n" ++
    "      --font-name <FONT_NAME>    Font family name, for a single family\n" ++
    "      --crate-path <CRATE_PATH>  Path of the crate providing the fonts\n" ++
    "  -o, --output <OUTPUT>          Output file; writes to stdout when omitted\n\n" ++
    "Options:\n  -h, --help     Print help\n  -V, --version  Print version\n"

def errorLine (message : String) : String :=
  "error: " ++ message ++ "\n"

def report (f : Log.Filter) (x : Logged String) : Outcome :=
  let lines := f.lines x.records
  match x.outcome with
  | .ok text => ⟨0, text, lines⟩
  | .error e => ⟨1, "", lines ++ errorLine e.message⟩

variable {m : Type → Type} [Monad m] [Files m]

def generate (o : Options) : m (Logged String) := do
  match Source.ofOptions (o.value? .manifest) (o.value? .typeName) (o.value? .fontName) with
  | .error e => return .failed e []
  | .ok s => Generator.deliver (o.value? .output) (← Generator.source s (o.value? .cratePath))

def perform (f : Log.Filter) : Invocation → m Outcome
  | .generate o => return report f (← generate o)
  | .styles => return ⟨0, Style.listing, ""⟩
  | .version c => return ⟨0, versionText c, ""⟩
  | .help => return ⟨0, helpText, ""⟩
  | .refused e => return ⟨2, "", errorLine e.message⟩

def run (arguments : List String) (filter : Option String) : m Outcome := do
  let (f, warnings) := Log.Filter.ofText (filter.getD defaultFilter)
  let out ← perform f (.ofArguments arguments)
  return { out with stderr := String.join (warnings.map (· ++ "\n")) ++ out.stderr }

end FontAccessors.CommandLine
