/-!
# White space

* `Text.isBlank` : the white space of every script, with the four separators of ASCII;
* `Text.strip` : a text without the white space around it;
* `Text.isBlankText` : a text of white space only, the empty one among them.
-/

namespace KubeManifest.Text

def isBlank (c : Char) : Bool :=
  let n := c.toNat
  (9 ≤ n && n ≤ 13) || (28 ≤ n && n ≤ 32) || n == 0x85 || n == 0xA0 || n == 0x1680 ||
    (0x2000 ≤ n && n ≤ 0x200A) || n == 0x2028 || n == 0x2029 || n == 0x202F || n == 0x205F ||
    n == 0x3000

/-- A text without the white space before it. -/
def stripLeft (cs : List Char) : List Char :=
  cs.dropWhile isBlank

/-- A text without the white space after it. -/
def stripRight (cs : List Char) : List Char :=
  (cs.reverse.dropWhile isBlank).reverse

/-- A text without the white space around it. -/
def strip (cs : List Char) : List Char :=
  stripRight (stripLeft cs)

/-- Whether a text holds nothing but white space. -/
def isBlankText (s : String) : Bool :=
  s.toList.all isBlank

@[simp] theorem isBlankText_empty : isBlankText "" = true := rfl

end KubeManifest.Text
