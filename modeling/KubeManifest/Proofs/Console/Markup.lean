import KubeManifest.Proofs.Console.Emoji

/-!
# Text that a console shows as it is

* `Markup.IsTag`, `Markup.takeTag?_eq_some_iff` : where a tag begins;
* `Markup.pieces_append_tag` : a text is cut at its tags;
* `Markup.texts`, `Markup.shownFrom?_eq_some` : what is shown is the text between the tags, whichever are open;
* `Markup.Literal` : a text that is shown as it is;
* `Markup.literal_iff` : any other one is shown with fewer marks.
-/

namespace KubeManifest.Console.Markup

variable {cs ds inside rest before slashes s : List Char} {opened : List String} {ps qs : List Piece}

/-! ## Tags -/

structure IsTag (inside : List Char) : Prop where
  begins : inside.head?.any beginsTag = true
  unbracketed : ∀ c ∈ inside, c ≠ '[' ∧ c ≠ ']'

theorem isTag_iff :
    IsTag inside ↔ (inside.head?.any beginsTag && inside.all fun c => c != '[' && c != ']') = true := by
  rw [Bool.and_eq_true, List.all_eq_true]
  constructor
  · rintro ⟨hbegins, hunbracketed⟩
    exact ⟨hbegins, fun c hc => by simpa using hunbracketed c hc⟩
  · rintro ⟨hbegins, hunbracketed⟩
    exact ⟨hbegins, fun c hc => by simpa using hunbracketed c hc⟩

instance (inside : List Char) : Decidable (IsTag inside) :=
  decidable_of_iff' _ isTag_iff

def bracketed (inside : List Char) : List Char :=
  '[' :: inside ++ [']']

theorem beginsTag_not_bracket {c : Char} (h : beginsTag c = true) : c ≠ '[' ∧ c ≠ ']' := by
  constructor <;> rintro rfl <;> exact absurd h (by decide)

/-- A tag begins a text exactly if the text is a tag with something after it. -/
theorem takeTag?_eq_some_iff :
    takeTag? cs = some (inside, rest) ↔ IsTag inside ∧ cs = bracketed inside ++ rest := by
  constructor
  · intro h
    unfold takeTag? at h
    split at h
    · rename_i c tail
      dsimp only at h
      split at h
      · rename_i after hdrop
        split at h
        · rename_i hbegins
          obtain ⟨rfl, rfl⟩ := Prod.mk.inj (Option.some.inj h)
          refine ⟨⟨hbegins, List.forall_mem_cons.mpr ⟨beginsTag_not_bracket hbegins, fun d hd => ?_⟩⟩, ?_⟩
          · have hall := List.all_eq_true.mp List.all_takeWhile d hd
            simpa using hall
          · have hsplit := List.prefix_iff_eq_append.mp
              (List.takeWhile_prefix (l := tail) fun d => d != '[' && d != ']')
            rw [hdrop] at hsplit
            simp only [bracketed, List.cons_append, List.append_assoc, List.nil_append]
            rw [hsplit]
        · cases h
      · cases h
    · cases h
  · rintro ⟨htag, rfl⟩
    match inside, htag with
    | [], htag => exact absurd htag.begins (by decide)
    | c :: inside, htag =>
      have hinside : (inside ++ ']' :: rest).takeWhile (fun d => d != '[' && d != ']') = inside := by
        rw [List.takeWhile_append_of_pos fun d hd => by
          simpa using htag.unbracketed d (List.mem_cons_of_mem c hd)]
        simp
      have hbegins : beginsTag c = true := htag.begins
      simp only [bracketed, List.cons_append, List.append_assoc, List.nil_append, takeTag?, hinside,
        List.drop_left, hbegins, if_true]

/-- A tag that begins a text begins it with any text after it. -/
theorem takeTag?_append (h : takeTag? cs = some (inside, rest)) (ds : List Char) :
    takeTag? (cs ++ ds) = some (inside, rest ++ ds) := by
  obtain ⟨htag, rfl⟩ := takeTag?_eq_some_iff.mp h
  exact takeTag?_eq_some_iff.mpr ⟨htag, List.append_assoc _ _ _⟩

/-- No tag goes over a bracket that opens another one. -/
theorem takeTag?_append_bracket (hne : cs ≠ []) (h : takeTag? cs = none) (ds : List Char) :
    takeTag? (cs ++ '[' :: ds) = none := by
  match cs, hne with
  | c :: tail, _ =>
    refine Option.eq_none_iff_forall_ne_some.mpr fun ⟨inside, rest⟩ hsome => ?_
    obtain ⟨htag, heq⟩ := takeTag?_eq_some_iff.mp hsome
    simp only [bracketed, List.cons_append, List.append_assoc, List.nil_append, List.cons.injEq] at heq
    obtain ⟨rfl, heq⟩ := heq
    rcases List.append_eq_append_iff.mp heq with ⟨as, hinside, hds⟩ | ⟨bs, htail, hrest⟩
    · -- The tag would hold the bracket.
      match as, hds with
      | [], hds => exact absurd (List.cons.inj hds).1 (by decide)
      | a :: as, hds =>
        obtain ⟨rfl, -⟩ := List.cons.inj hds
        exact (htag.unbracketed '[' (by simp [hinside])).1 rfl
    · match bs, hrest with
      | [], hrest => exact absurd (List.cons.inj hrest).1 (by decide)
      | b :: bs, hrest =>
        obtain ⟨rfl, -⟩ := List.cons.inj hrest
        have hbegin : takeTag? ('[' :: tail) = some (inside, bs) :=
          takeTag?_eq_some_iff.mpr ⟨htag, by simp [bracketed, htail]⟩
        cases h.symm.trans hbegin

/-- A text in which no tag begins. -/
def Untagged (cs : List Char) : Prop :=
  ∀ inside, IsTag inside → ¬bracketed inside <:+: cs

theorem Untagged.takeTag?_eq_none (h : Untagged cs) : takeTag? cs = none := by
  refine Option.eq_none_iff_forall_ne_some.mpr fun ⟨inside, rest⟩ hsome => ?_
  obtain ⟨htag, rfl⟩ := takeTag?_eq_some_iff.mp hsome
  exact h inside htag ⟨[], rest, rfl⟩

theorem Untagged.tail {c : Char} (h : Untagged (c :: cs)) : Untagged cs :=
  fun inside htag hin => h inside htag (List.infix_cons hin)

theorem untagged_cons {c : Char} (hnone : takeTag? (c :: cs) = none) (h : Untagged cs) : Untagged (c :: cs) := by
  intro inside htag hin
  rcases List.infix_cons_iff.mp hin with ⟨rest, hrest⟩ | hin
  · cases hnone.symm.trans (takeTag?_eq_some_iff.mpr ⟨htag, hrest.symm⟩)
  · exact h inside htag hin

/-! ## Pieces -/

theorem piecesFrom_of_takeTag? (h : takeTag? cs = some (inside, rest)) :
    piecesFrom before slashes cs =
      textPiece before.reverse ++ textPiece (slashes.take (slashes.length / 2)) ++
        (if slashes.length % 2 == 1 then .text (bracketed inside) else .tag inside) :: piecesFrom [] [] rest := by
  rw [piecesFrom]
  split
  · rename_i inside' rest' h'
    obtain ⟨rfl, rfl⟩ := Prod.mk.inj (Option.some.inj (h.symm.trans h'))
    rfl
  · rename_i hnone
    cases h.symm.trans hnone

theorem piecesFrom_nil : piecesFrom before slashes [] = textPiece (slashes ++ before).reverse := by
  rw [piecesFrom]
  rfl

theorem piecesFrom_cons {c : Char} (h : takeTag? (c :: cs) = none) :
    piecesFrom before slashes (c :: cs) =
      if c == '\\' then piecesFrom before (c :: slashes) cs else piecesFrom (c :: slashes ++ before) [] cs := by
  rw [piecesFrom]
  split
  · rename_i hsome
    cases h.symm.trans hsome
  · rfl

/-- A text without tags is one piece. -/
theorem piecesFrom_of_untagged (h : Untagged cs) :
    piecesFrom before slashes cs = textPiece ((slashes ++ before).reverse ++ cs) := by
  induction cs generalizing before slashes with
  | nil => rw [piecesFrom_nil, List.append_nil]
  | cons c cs ih =>
    rw [piecesFrom_cons h.takeTag?_eq_none, ih h.tail, ih h.tail]
    split <;> simp

theorem pieces_of_untagged (h : Untagged cs) : pieces cs = textPiece cs :=
  piecesFrom_of_untagged h

/-- The pieces before a tag do not depend on it, unless a backslash stands before it. -/
theorem piecesFrom_append_tag (htag : IsTag inside) (hslash : cs.getLast? ≠ some '\\')
    (hslashes : cs = [] → slashes = []) :
    piecesFrom before slashes (cs ++ (bracketed inside ++ rest)) =
      piecesFrom before slashes cs ++ .tag inside :: pieces rest := by
  induction before, slashes, cs using piecesFrom.induct with
  | case1 before slashes cs inner after htake _ ih =>
    have hafter : after.getLast? ≠ some '\\' := by
      obtain ⟨-, rfl⟩ := takeTag?_eq_some_iff.mp htake
      intro hlast
      rw [List.getLast?_append, hlast] at hslash
      exact hslash rfl
    rw [piecesFrom_of_takeTag? (takeTag?_append htake _), piecesFrom_of_takeTag? htake,
      ih hafter fun _ => rfl]
    simp only [List.append_assoc, List.cons_append]
  | case2 before slashes hnone =>
    obtain rfl := hslashes rfl
    rw [List.nil_append, piecesFrom_of_takeTag? (takeTag?_eq_some_iff.mpr ⟨htag, rfl⟩), piecesFrom_nil]
    simp [textPiece, pieces]
  | case3 before slashes c cs hnone hc ih =>
    have hnext : takeTag? (c :: (cs ++ (bracketed inside ++ rest))) = none :=
      takeTag?_append_bracket (List.cons_ne_nil c cs) hnone _
    rw [List.cons_append, piecesFrom_cons hnext, piecesFrom_cons hnone, if_pos hc, if_pos hc]
    cases cs with
    | nil => exact absurd (by rw [beq_iff_eq.mp hc]; rfl) hslash
    | cons d cs => exact ih (by rwa [List.getLast?_cons_cons] at hslash) fun h => absurd h (List.cons_ne_nil d cs)
  | case4 before slashes c cs hnone hc ih =>
    have hnext : takeTag? (c :: (cs ++ (bracketed inside ++ rest))) = none :=
      takeTag?_append_bracket (List.cons_ne_nil c cs) hnone _
    rw [List.cons_append, piecesFrom_cons hnext, piecesFrom_cons hnone, if_neg hc, if_neg hc]
    refine ih ?_ fun _ => rfl
    cases cs with
    | nil => simp
    | cons d cs => rwa [List.getLast?_cons_cons] at hslash

/-- A text is cut at a tag with no backslash before it. -/
theorem pieces_append_tag (htag : IsTag inside) (hslash : cs.getLast? ≠ some '\\') (rest : List Char) :
    pieces (cs ++ (bracketed inside ++ rest)) = pieces cs ++ .tag inside :: pieces rest :=
  piecesFrom_append_tag htag hslash fun _ => rfl

/-! ## What is shown -/

/-- What is shown of a text between tags. -/
def rendered (cs : List Char) : List Char :=
  (withEmoji (unescape cs)).filter (!isDropped ·)

/-- What is shown of pieces when their tags fit together. -/
def texts (ps : List Piece) : List Char :=
  ps.flatMap fun
    | .text cs => rendered cs
    | .tag _ => []

@[simp] theorem texts_nil : texts [] = [] := rfl

@[simp] theorem texts_text (cs : List Char) (ps : List Piece) : texts (.text cs :: ps) = rendered cs ++ texts ps := rfl

@[simp] theorem texts_tag (inside : List Char) (ps : List Piece) : texts (.tag inside :: ps) = texts ps := rfl

@[simp] theorem texts_append (ps qs : List Piece) : texts (ps ++ qs) = texts ps ++ texts qs :=
  List.flatMap_append

@[simp] theorem texts_textPiece (cs : List Char) : texts (textPiece cs) = rendered cs := by
  cases cs with
  | nil => simp [textPiece, rendered, unescape, withEmoji]
  | cons c cs => simp [textPiece]

theorem rendered_thins (cs : List Char) : Thins (rendered cs) cs :=
  (printed_thins _).trans ((withEmoji_thins _).trans (unescape_thins cs))

theorem shownFrom?_text_append (opened : List String) (cs : List Char) (ps : List Piece) :
    shownFrom? opened (textPiece cs ++ ps) = (shownFrom? opened ps).map (rendered cs ++ ·) := by
  cases cs with
  | nil => simp [textPiece, rendered, unescape, withEmoji]
  | cons c cs => rfl

theorem shownFrom?_tag {opened' : List String} (h : closed? opened inside = some opened') (ps : List Piece) :
    shownFrom? opened (.tag inside :: ps) = shownFrom? opened' ps := by
  rw [shownFrom?, h]
  rfl

theorem not_dropped_of_mem_texts {c : Char} (h : c ∈ texts ps) : isDropped c = false := by
  obtain ⟨p, -, hc⟩ := List.mem_flatMap.mp h
  cases p with
  | text cs => simpa using (List.mem_filter.mp hc).2
  | tag inside => cases hc

/-- What is shown does not depend on the tags that are open. -/
theorem shownFrom?_eq_some (h : shownFrom? opened ps = some s) : s = texts ps := by
  induction ps generalizing opened s with
  | nil => exact (Option.some.inj h).symm
  | cons p ps ih =>
    cases p with
    | text cs =>
      obtain ⟨shown, hshown, rfl⟩ := Option.map_eq_some_iff.mp h
      rw [texts_text, ih hshown]
      rfl
    | tag inside =>
      obtain ⟨opened', -, hshown⟩ := Option.bind_eq_some_iff.mp h
      exact ih hshown

/-! ## Literal text -/

/-- A text that is shown as it is: no tag and no escape is in it, no emoji takes the place of a name, and every
character is printed. -/
structure Literal (cs : List Char) : Prop where
  untagged : Untagged cs
  unescaped : ¬['\\', '['] <:+: cs
  unnamed : withEmoji cs = cs
  printed : ∀ c ∈ cs, isDropped c = false

theorem rendered_eq_self (cs : List Char) :
    rendered cs = cs ↔ ¬['\\', '['] <:+: cs ∧ withEmoji cs = cs ∧ ∀ c ∈ cs, isDropped c = false := by
  constructor
  · intro h
    -- Every step keeps all marks, since they are all there at the end.
    have hfilter := (printed_thins (withEmoji (unescape cs))).le
    have hemoji := (withEmoji_thins (unescape cs)).le
    have hmarks : marks (rendered cs) = marks cs := by rw [h]
    unfold rendered at h hmarks
    have hunescape : unescape cs = cs := (unescape_thins cs).eq_of_marks_le (by omega)
    rw [hunescape] at h hfilter hemoji hmarks
    have hwith : withEmoji cs = cs := (withEmoji_thins cs).eq_of_marks_le (by omega)
    rw [hwith] at h
    refine ⟨unescape_eq_self.mp hunescape, hwith, fun c hc => ?_⟩
    simpa using List.filter_eq_self.mp h c hc
  · rintro ⟨hescape, hemoji, hprinted⟩
    rw [rendered, unescape_eq_self.mpr hescape, hemoji]
    exact List.filter_eq_self.mpr fun c hc => by rw [hprinted c hc]; rfl

theorem Literal.rendered_eq (h : Literal cs) : rendered cs = cs :=
  (rendered_eq_self cs).mpr ⟨h.unescaped, h.unnamed, h.printed⟩

/-- A literal text is shown before all that comes after it. -/
theorem Literal.shownFrom?_append (h : Literal cs) (opened : List String) (ps : List Piece) :
    shownFrom? opened (pieces cs ++ ps) = (shownFrom? opened ps).map (cs ++ ·) := by
  rw [pieces_of_untagged h.untagged, shownFrom?_text_append, h.rendered_eq]

/-- Each tag and each escape takes marks away. -/
theorem marks_texts_piecesFrom (before slashes cs : List Char) :
    Untagged cs ∧ marks (texts (piecesFrom before slashes cs)) ≤ marks before + slashes.length + marks cs ∨
      marks (texts (piecesFrom before slashes cs)) < marks before + slashes.length + marks cs := by
  induction before, slashes, cs using piecesFrom.induct with
  | case1 before slashes cs inside rest htake _ ih =>
    right
    have hrest : marks (texts (piecesFrom [] [] rest)) ≤ marks rest := by
      rcases ih with ⟨-, ih⟩ | ih <;> simp only [marks_nil, List.length_nil] at ih <;> omega
    have hbefore := (rendered_thins before.reverse).le
    have hhalf := (rendered_thins (slashes.take (slashes.length / 2))).le
    have hslashes : marks (slashes.take (slashes.length / 2)) ≤ slashes.length / 2 :=
      Nat.le_trans List.countP_le_length (List.length_take_le _ _)
    have htext := (rendered_thins (bracketed inside)).le
    have hbracketed : 0 < marks (bracketed inside) := by
      rw [bracketed, List.cons_append, marks_cons_of_isMark (by decide)]
      omega
    obtain ⟨-, rfl⟩ := takeTag?_eq_some_iff.mp htake
    rw [marks_reverse] at hbefore
    rw [piecesFrom_of_takeTag? htake]
    split
    · -- The backslash is gone.
      rename_i hodd
      have hpositive : slashes.length % 2 = 1 := beq_iff_eq.mp hodd
      simp only [texts_append, texts_textPiece, texts_text, marks_append]
      omega
    · -- The tag is gone.
      simp only [texts_append, texts_textPiece, texts_tag, marks_append]
      omega
  | case2 before slashes _ =>
    left
    refine ⟨fun inside _ hin => ?_, ?_⟩
    · exact absurd (List.infix_nil.mp hin) (List.cons_ne_nil _ _)
    · have hle := (rendered_thins (slashes ++ before).reverse).le
      have hslashes : marks slashes ≤ slashes.length := List.countP_le_length
      rw [piecesFrom_nil, texts_textPiece, marks_nil]
      rw [marks_reverse, marks_append] at hle
      omega
  | case3 before slashes c cs hnone hc ih =>
    rw [piecesFrom_cons hnone, if_pos hc]
    have hmark : isMark c = true := by rw [beq_iff_eq.mp hc]; decide
    have hmarks := marks_cons_of_isMark hmark cs
    rw [List.length_cons] at ih
    rcases ih with ⟨huntagged, ih⟩ | ih
    · exact .inl ⟨untagged_cons hnone huntagged, by omega⟩
    · exact .inr (by omega)
  | case4 before slashes c cs hnone hc ih =>
    rw [piecesFrom_cons hnone, if_neg hc]
    have hslashes : marks slashes ≤ slashes.length := List.countP_le_length
    have hcount : marks (c :: slashes ++ before) + marks cs = marks before + marks slashes + marks (c :: cs) := by
      rw [List.cons_append, marks_cons, marks_append, marks_cons]
      omega
    rw [List.length_nil] at ih
    rcases ih with ⟨huntagged, ih⟩ | ih
    · exact .inl ⟨untagged_cons hnone huntagged, by omega⟩
    · exact .inr (by omega)

/-- A text that is shown is kept, or has fewer marks. -/
theorem texts_pieces_thins (cs : List Char) : Thins (texts (pieces cs)) cs := by
  rcases marks_texts_piecesFrom [] [] cs with ⟨huntagged, -⟩ | hlt
  · rw [pieces_of_untagged huntagged, texts_textPiece]
    exact rendered_thins cs
  · exact .inr (by simpa [pieces] using hlt)

/-- The literal texts are those that are shown as they are. -/
theorem literal_iff : Literal cs ↔ texts (pieces cs) = cs := by
  constructor
  · intro h
    rw [pieces_of_untagged h.untagged, texts_textPiece, h.rendered_eq]
  · intro h
    have huntagged : Untagged cs := by
      rcases marks_texts_piecesFrom [] [] cs with ⟨huntagged, -⟩ | hlt
      · exact huntagged
      · have hmarks : marks (texts (pieces cs)) = marks cs := by rw [h]
        simp only [marks_nil, List.length_nil] at hlt
        unfold pieces at hmarks
        omega
    rw [pieces_of_untagged huntagged, texts_textPiece] at h
    obtain ⟨hescape, hemoji, hprinted⟩ := (rendered_eq_self cs).mp h
    exact ⟨huntagged, hescape, hemoji, hprinted⟩

/-- A text that keeps its marks is literal. -/
theorem literal_of_marks_le (h : marks cs ≤ marks (texts (pieces cs))) : Literal cs :=
  literal_iff.mpr ((texts_pieces_thins cs).eq_of_marks_le h)

/-- A text without marks is literal. -/
theorem literal_of_unmarked (h : marks cs = 0) : Literal cs :=
  literal_of_marks_le (by rw [h]; exact Nat.zero_le _)

/-! ## Literal text within a line -/

theorem infix_of_infix_cons {c : Char} (h : cs <:+: c :: ds) (hne : cs ≠ []) (hhead : cs.head? ≠ some c) :
    cs <:+: ds := by
  rcases List.infix_cons_iff.mp h with ⟨rest, hrest⟩ | hin
  · cases cs with
    | nil => exact absurd rfl hne
    | cons d cs => exact absurd (congrArg some (List.cons.inj hrest).1) hhead
  · exact hin

theorem infix_of_infix_concat {c : Char} (h : cs <:+: ds ++ [c]) (hne : cs ≠ []) (hlast : cs.getLast? ≠ some c) :
    cs <:+: ds := by
  rcases List.infix_concat_iff.mp h with ⟨front, hfront⟩ | hin
  · have hends := congrArg List.getLast? hfront
    rw [List.getLast?_append, List.getLast?_concat] at hends
    cases hcs : cs.getLast? with
    | none => exact absurd (List.getLast?_eq_none_iff.mp hcs) hne
    | some d =>
      rw [hcs] at hends hlast
      exact absurd hends hlast
  · exact hin

/-- A text after a colon and a blank is as literal as by itself. -/
theorem literal_colon_iff : Literal (':' :: ' ' :: cs) ↔ Literal cs := by
  have hemoji : withEmoji (':' :: ' ' :: cs) = ':' :: ' ' :: withEmoji cs := by
    have hname : takeName? (' ' :: cs) = none := rfl
    rw [withEmoji_colon hname, withEmoji_cons (by decide)]
  constructor
  · intro h
    refine ⟨h.untagged.tail.tail, fun hin => h.unescaped (List.infix_cons (List.infix_cons hin)), ?_, fun c hc => ?_⟩
    · have hunnamed := h.unnamed
      rw [hemoji] at hunnamed
      exact (List.cons.inj (List.cons.inj hunnamed).2).2
    · exact h.printed c (List.mem_cons_of_mem _ (List.mem_cons_of_mem _ hc))
  · intro h
    refine ⟨fun inside htag hin => ?_, fun hin => ?_, by rw [hemoji, h.unnamed], ?_⟩
    · refine h.untagged inside htag ?_
      have htail := infix_of_infix_cons hin (List.cons_ne_nil _ _) (by simp [bracketed])
      exact infix_of_infix_cons htail (List.cons_ne_nil _ _) (by simp [bracketed])
    · exact h.unescaped (infix_of_infix_cons (infix_of_infix_cons hin (by simp) (by simp)) (by simp) (by simp))
    · exact List.forall_mem_cons.mpr ⟨by decide, List.forall_mem_cons.mpr ⟨by decide, h.printed⟩⟩

/-- A text before the end of its line is as literal as by itself. -/
theorem literal_newline_iff : Literal (cs ++ ['\n']) ↔ Literal cs := by
  have hemoji : withEmoji (cs ++ ['\n']) = withEmoji cs ++ ['\n'] := by
    have hend := withEmoji_append_blank (b := '\n') (by decide) cs []
    rwa [show withEmoji [] = [] by rw [withEmoji]] at hend
  constructor
  · intro h
    refine ⟨fun inside htag hin => ?_, fun hin => ?_, ?_, fun c hc => h.printed c (List.mem_append_left _ hc)⟩
    · exact h.untagged inside htag (List.infix_append_of_infix_left hin)
    · exact h.unescaped (List.infix_append_of_infix_left hin)
    · have hunnamed := h.unnamed
      rw [hemoji] at hunnamed
      exact List.append_cancel_right hunnamed
  · intro h
    refine ⟨fun inside htag hin => ?_, fun hin => ?_, by rw [hemoji, h.unnamed], ?_⟩
    · exact h.untagged inside htag (infix_of_infix_concat hin (List.cons_ne_nil _ _) (by
        rw [bracketed, List.getLast?_concat]
        decide))
    · exact h.unescaped (infix_of_infix_concat hin (by simp) (by simp))
    · exact List.forall_mem_append.mpr ⟨h.printed, List.forall_mem_singleton.mpr (by decide)⟩

end KubeManifest.Console.Markup
