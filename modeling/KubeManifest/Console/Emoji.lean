import KubeManifest.Console.EmojiNames
import KubeManifest.Text.Blank
import KubeManifest.Text.Case

/-!
# Emoji in console text

`Console.withEmoji` : a text in which every name of an emoji between colons gives way to the emoji. A name may
ask for one of the two ways to show it, and a name that is not known stays.
-/

namespace KubeManifest.Console

def emojiIn? (name : List Char) : List (List Char) → Option (List Char)
  | word :: emoji :: rest => if word == name then some emoji else emojiIn? name rest
  | _ => none

def emoji? (name : List Char) : Option (List Char) :=
  emojiNames.findSome? fun line => emojiIn? name (line.toList.splitOn ' ')

/-- The endings of a name that ask for a way to show the emoji, with the character that selects it. -/
def variants : List (List Char × Char) :=
  [("-emoji".toList, '\ufe0f'), ("-text".toList, '\ufe0e')]

/-- What shows for a name between colons, if it is known. -/
def shown? (name : List Char) : Option (List Char) :=
  match variants.find? fun (ending, _) => ending.isSuffixOf name with
  | some (ending, selector) => (look (name.take (name.length - ending.length))).map (· ++ [selector])
  | none => look name
where
  /-- The emoji of a name in any case. -/
  look (name : List Char) : Option (List Char) :=
    emoji? (Text.lower (String.ofList name)).toList

def isNameChar (c : Char) : Bool :=
  !Text.isBlank c && c != ':'

/-- The name at the start of a text that a colon ends, and the text after the colon. -/
def takeName? (cs : List Char) : Option (List Char × List Char) :=
  match cs.dropWhile isNameChar with
  | ':' :: rest => some (cs.takeWhile isNameChar, rest)
  | _ => none

theorem length_rest_of_takeName? {cs name rest : List Char} (h : takeName? cs = some (name, rest)) :
    rest.length < cs.length := by
  unfold takeName? at h
  split at h
  · rename_i rest' hd
    have hl := (List.dropWhile_sublist (l := cs) isNameChar).length_le
    rw [hd] at hl
    simp only [Option.some.injEq, Prod.mk.injEq] at h
    obtain ⟨-, rfl⟩ := h
    simp at hl
    omega
  · simp at h

def withEmoji : List Char → List Char
  | [] => []
  | c :: cs =>
    if c == ':' then
      match h : takeName? cs with
      | some (name, rest) =>
        have := length_rest_of_takeName? h
        (shown? name).getD (':' :: name ++ [':']) ++ withEmoji rest
      | none => c :: withEmoji cs
    else c :: withEmoji cs
termination_by cs => cs.length

end KubeManifest.Console
