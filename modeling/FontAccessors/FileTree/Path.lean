import FontAccessors.Text.Pieces

namespace FontAccessors.FilePath
open Text

def pieces (path : String) : List String :=
  (split '/' path.toList).map String.ofList

def isRooted (path : String) : Bool :=
  path.toList.head? == some '/'

def endsInSlash (path : String) : Bool :=
  path.toList.getLast? == some '/'

def isFiller (piece : List Char) : Bool :=
  piece = [] || piece = ['.']

def trimEnd (ps : List (List Char)) : List (List Char) :=
  (ps.reverse.dropWhile isFiller).reverse

/-- The directory that a path's last name is in, as the path names it; it is empty for the working
directory, and the root is in none. -/
def parent? (path : String) : Option String :=
  match split '/' path.toList with
  | [] => none
  | first :: rest =>
    let rest := trimEnd rest
    if rest.isEmpty then if first.isEmpty then none else some ""
    else
      let above := trimEnd rest.dropLast
      let isRoot := first.isEmpty && above.isEmpty
      some (String.ofList (if isRoot then ['/'] else join '/' (first :: above)))

/-- A directory and those above it that the path names, the innermost first. The bound is on their
number. -/
def upwards : Nat → String → List String
  | 0, _ => []
  | n + 1, path =>
    if path.isEmpty then [] else path :: ((parent? path).map (upwards n)).getD []

def directories (path : String) : List String :=
  ((parent? path).map (upwards path.length)).getD []

end FontAccessors.FilePath
