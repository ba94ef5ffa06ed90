import FontAccessors.Text.LetterCase

namespace FontAccessors.Text

/-- A capital after a small letter or a digit begins a new word. -/
def snakeChars (afterWord : Bool) : List Char → List Char
  | [] => []
  | c :: cs =>
    if isUpperCase c then
      (if afterWord then ['_'] else []) ++ lowerCase c ++ snakeChars false cs
    else if c = '-' then '_' :: snakeChars false cs
    else c :: snakeChars (isLowerCase c || c.isDigit) cs

def snakeCase (s : String) : String :=
  String.ofList (snakeChars false s.toList)

def pascalChars : List Char → List Char
  | [] => []
  | c :: cs => upperCase c ++ cs

def pascalCase (s : String) : String :=
  String.ofList (pascalChars s.toList)

end FontAccessors.Text
