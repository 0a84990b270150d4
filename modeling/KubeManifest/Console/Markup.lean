import KubeManifest.Console.Emoji

/-!
# Console markup

Text for the console holds tags in brackets, which set a style until a closing tag ends it.

* `Markup.pieces` : a text cut into tags and the text between them. A backslash before a tag makes it text;
* `Markup.closed?` : the tags that are open after a further one. A closing tag has to end an open one;
* `Markup.plain?` : what is shown: the text between the tags.
-/

namespace KubeManifest.Console.Markup

inductive Piece
  | text (cs : List Char)
  | tag (inside : List Char)
deriving DecidableEq, Repr

/-! ## Cutting a text -/

def beginsTag (c : Char) : Bool :=
  ('a' ≤ c && c ≤ 'z') || c == '#' || c == '/' || c == '@'

/-- The inside of the tag that begins with a text's first character, and the text after it. -/
def takeTag? : List Char → Option (List Char × List Char)
  | '[' :: c :: cs =>
    let inside := cs.takeWhile fun d => d != '[' && d != ']'
    match cs.drop inside.length with
    | ']' :: rest => if beginsTag c then some (c :: inside, rest) else none
    | _ => none
  | _ => none

theorem length_rest_of_takeTag? {cs inside rest : List Char} (h : takeTag? cs = some (inside, rest)) :
    rest.length < cs.length := by
  unfold takeTag? at h
  split at h
  · rename_i c cs
    dsimp only at h
    split at h
    · rename_i rest' hd
      split at h
      · have hl := congrArg List.length hd
        simp only [Option.some.injEq, Prod.mk.injEq] at h
        obtain ⟨-, rfl⟩ := h
        simp at hl ⊢
        omega
      · simp at h
    · simp at h
  · simp at h

def textPiece (cs : List Char) : List Piece :=
  if cs.isEmpty then [] else [.text cs]

/-- The pieces from a place on, with the text since the last tag and the backslashes after it, both reversed. Two
backslashes before a tag stand for one, and a single one makes the tag text. -/
def piecesFrom (before : List Char) (slashes : List Char) (cs : List Char) : List Piece :=
  match h : takeTag? cs with
  | some (inside, rest) =>
    have := length_rest_of_takeTag? h
    textPiece before.reverse ++ textPiece (slashes.take (slashes.length / 2)) ++
      (if slashes.length % 2 == 1 then .text ('[' :: inside ++ [']']) else .tag inside) ::
      piecesFrom [] [] rest
  | none =>
    match cs with
    | [] => textPiece (slashes ++ before).reverse
    | c :: cs =>
      if c == '\\' then piecesFrom before (c :: slashes) cs
      else piecesFrom (c :: slashes ++ before) [] cs
termination_by cs.length

/-- The tags of a text and the text between them. -/
def pieces (cs : List Char) : List Piece :=
  piecesFrom [] [] cs

/-! ## Styles -/

def letterStyles : List (String × List String) := [
  ("bold", ["b"]), ("dim", ["d"]), ("italic", ["i"]), ("underline", ["u"]), ("blink", []), ("blink2", []),
  ("reverse", ["r"]), ("conceal", ["c"]), ("strike", ["s"]), ("underline2", ["uu"]), ("frame", []),
  ("encircle", []), ("overline", ["o"])]

def names (style : String × List String) (word : String) : Bool :=
  style.1 == word || style.2.contains word

def words (cs : List Char) : List String :=
  ((cs.splitOnP Text.isBlank).filter (!·.isEmpty)).map String.ofList

/-- The name under which a style is opened and closed: styles of letters have one name and one order. -/
def styleName (cs : List Char) : String :=
  let ws := (words cs).map Text.lower
  if !ws.isEmpty && ws.all fun w => letterStyles.any (names · w) then
    " ".intercalate ((letterStyles.filter fun style => ws.any (names style)).map (·.1))
  else Text.lower (String.ofList (Text.strip cs))

/-! ## Showing -/

/-- The open tags without the latest one of a name. -/
def close? (name : String) : List String → Option (List String)
  | [] => none
  | other :: rest => if other == name then some rest else (close? name rest).map (other :: ·)

/-- The tags that are open after a further one, the latest first. A tag with a slash closes the one that it
names, or the latest one. -/
def closed? (opened : List String) (inside : List Char) : Option (List String) :=
  let name := inside.takeWhile (· != '=')
  match name with
  | '/' :: name =>
    let name := Text.strip name
    if name.isEmpty then opened.tail? else close? (styleName name) opened
  | _ => some (styleName name :: opened)

/-- A text in which no backslash stands before a bracket. -/
def unescape : List Char → List Char
  | [] => []
  | '\\' :: '[' :: cs => '[' :: unescape cs
  | c :: cs => c :: unescape cs

/-- Whether a character moves the cursor without being shown, and is dropped. -/
def isDropped (c : Char) : Bool :=
  c == '\x07' || c == '\x08' || c == '\x0b' || c == '\x0c' || c == '\x0d'

/-- What is shown of pieces, with the tags that are open before them. -/
def shownFrom? (opened : List String) : List Piece → Option (List Char)
  | [] => some []
  | .text cs :: rest =>
    (shownFrom? opened rest).map (((withEmoji (unescape cs)).filter (!isDropped ·)) ++ ·)
  | .tag inside :: rest => do shownFrom? (← closed? opened inside) rest

/-- What is shown of a text with tags. There is nothing to show if a tag closes none. -/
def plain? (s : String) : Option (List Char) :=
  shownFrom? [] (pieces s.toList)

end KubeManifest.Console.Markup
