/-!
# Words of a command

`Text.shellWords?` : the words of a command line. Blanks, tabs and line ends separate words, single quotes
keep everything, double quotes keep everything but a backslash before a backslash or double quote, and a
backslash elsewhere keeps the next character. Quotes have to end, and a backslash cannot come last.
-/

namespace KubeManifest.Text

def separatesWords (c : Char) : Bool :=
  c == ' ' || c == '\t' || c == '\r' || c == '\n'

/-- Where in a command a character stands: outside of words, in a word, between quotes, or after a backslash
in a word or between double quotes. -/
inductive WordState
  | outside
  | inside
  | quoted (quote : Char)
  | escaped (inDouble : Bool)
deriving DecidableEq, Repr

/-- The words from a place on, the letters of the current one given reversed. -/
def wordsFrom (state : WordState) (word : List Char) : List Char → Option (List String)
  | [] =>
    match state with
    | .outside => some []
    | .inside => some [String.ofList word.reverse]
    | .quoted _ | .escaped _ => none
  | c :: cs =>
    match state with
    | .escaped false => wordsFrom .inside (c :: word) cs
    | .escaped true =>
      if c == '\\' || c == '"' then wordsFrom (.quoted '"') (c :: word) cs
      else wordsFrom (.quoted '"') (c :: '\\' :: word) cs
    | .quoted quote =>
      if c == quote then wordsFrom .inside word cs
      else if c == '\\' && quote == '"' then wordsFrom (.escaped true) word cs
      else wordsFrom state (c :: word) cs
    | .inside | .outside =>
      if separatesWords c then
        if state == .outside then wordsFrom .outside [] cs
        else (wordsFrom .outside [] cs).map (String.ofList word.reverse :: ·)
      else if c == '\\' then wordsFrom (.escaped false) word cs
      else if c == '\'' || c == '"' then wordsFrom (.quoted c) word cs
      else wordsFrom .inside (c :: word) cs

def shellWords? (s : String) : Option (List String) :=
  wordsFrom .outside [] s.toList

end KubeManifest.Text
