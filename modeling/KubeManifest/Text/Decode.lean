/-!
# Text from bytes

* `Text.decode?` : the characters that some bytes stand for in UTF-8;
* `Text.unifyBreaks` : every carriage return, alone or before a line feed, becomes a line feed;
* `Text.decode?_toUTF8` : a text with line feeds for all line breaks is read again from its bytes.
-/

namespace KubeManifest.Text

def unifyBreaks : List Char → List Char
  | [] => []
  | '\r' :: '\n' :: cs => '\n' :: unifyBreaks cs
  | c :: cs => (if c == '\r' then '\n' else c) :: unifyBreaks cs

/-- The text that bytes stand for, with line feeds for all line breaks. -/
def decode? (bytes : ByteArray) : Option (List Char) :=
  (String.fromUTF8? bytes).map fun s => unifyBreaks s.toList

/-- A text without the byte order mark before it. -/
def dropMark : List Char → List Char
  | '\ufeff' :: cs => cs
  | cs => cs

/-! ## Reading again -/

theorem unifyBreaks_of_notMem {cs : List Char} (h : '\r' ∉ cs) : unifyBreaks cs = cs := by
  induction cs with
  | nil => rfl
  | cons c cs ih =>
    obtain ⟨hc, hcs⟩ := not_or.mp (mt List.mem_cons.mpr h)
    have hne : c ≠ '\r' := fun heq => hc heq.symm
    rw [unifyBreaks.eq_3 c cs (fun rest heq => absurd heq hne), ih hcs]
    simp [hne]

theorem decode?_toUTF8 {s : String} (h : '\r' ∉ s.toList) : decode? s.toUTF8 = some s.toList := by
  have hbytes : String.fromUTF8? s.toUTF8 = some s := by
    unfold String.fromUTF8?
    exact dif_pos s.isValidUTF8
  rw [decode?, hbytes, Option.map_some, unifyBreaks_of_notMem h]

end KubeManifest.Text
