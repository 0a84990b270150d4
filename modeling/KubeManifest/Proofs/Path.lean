import KubeManifest.Manifest.Format

/-!
# Written paths

* `Path.Proper` : a path as it is read from a text: no name is empty or a single dot, or holds a slash;
* `Path.ofText_proper`, `Path.join_proper`, `Path.parent_proper` : the operations on paths give such ones;
* `Path.ofText_text` : they are what is read from their texts;
* `Path.extended`, `Format.withExtension_text` : the path of a file that has the text of another path and an extension;
* `Path.extended_inj` : different paths are extended to different ones.
-/

namespace KubeManifest.Path

/-- A name that can stand between the slashes of a path. -/
structure IsPart (s : String) : Prop where
  nonempty : s ≠ ""
  noDot : s ≠ "."
  noSlash : '/' ∉ s.toList

/-- A path as it is read from a text. -/
structure Proper (p : Path) : Prop where
  root : p.root = "" ∨ p.root = "/" ∨ p.root = "//"
  parts : ∀ part ∈ p.parts, IsPart part

/-! ## Operations -/

theorem not_mem_of_mem_splitOn {c : Char} {cs : List Char} : ∀ piece ∈ cs.splitOn c, c ∉ piece := by
  induction cs with
  | nil => simp [List.splitOn_nil]
  | cons d cs ih =>
    rw [List.splitOn_cons_eq_if_modifyHead]
    split
    · exact List.forall_mem_cons.mpr ⟨List.not_mem_nil, ih⟩
    · rename_i hne
      cases hsplit : cs.splitOn c with
      | nil => exact absurd hsplit (List.splitOn_ne_nil c cs)
      | cons first rest =>
        rw [hsplit] at ih
        obtain ⟨hfirst, hrest⟩ := List.forall_mem_cons.mp ih
        refine List.forall_mem_cons.mpr ⟨fun hmem => ?_, hrest⟩
        rcases List.mem_cons.mp hmem with rfl | hmem
        · exact hne (beq_self_eq_true _)
        · exact hfirst hmem

theorem exists_splitOn_append {c : Char} {s : List Char} (hs : c ∉ s) (cs : List Char) :
    ∃ pieces last, (cs ++ s).splitOn c = pieces ++ [last ++ s] := by
  induction cs with
  | nil =>
    refine ⟨[], [], ?_⟩
    have hone : ([c].intercalate [s]).splitOn c = [s] := List.splitOn_intercalate c (by simpa using hs) (by simp)
    simpa [List.intercalate] using hone
  | cons d cs ih =>
    obtain ⟨pieces, last, h⟩ := ih
    rw [List.cons_append, List.splitOn_cons_eq_if_modifyHead, h]
    split
    · exact ⟨[] :: pieces, last, rfl⟩
    · cases pieces with
      | nil => exact ⟨[], d :: last, rfl⟩
      | cons first pieces => exact ⟨(d :: first) :: pieces, last, rfl⟩

theorem ofText_proper (s : String) : (ofText s).Proper where
  root := by
    rw [ofText]
    dsimp only
    split
    · exact .inl rfl
    · split
      · exact .inr (.inr rfl)
      · exact .inr (.inl rfl)
  parts part h := by
    obtain ⟨hmem, hkept⟩ := List.mem_filter.mp h
    obtain ⟨piece, hpiece, rfl⟩ := List.mem_map.mp hmem
    simp only [Bool.and_eq_true, bne_iff_ne] at hkept
    refine ⟨hkept.1, hkept.2, ?_⟩
    rw [String.toList_ofList]
    exact not_mem_of_mem_splitOn piece hpiece

theorem join_proper {p q : Path} (hp : p.Proper) (hq : q.Proper) : (p.join q).Proper := by
  rw [join]
  split
  · exact hq
  · refine ⟨hp.root, fun part h => ?_⟩
    exact (List.mem_append.mp h).elim (hp.parts part) (hq.parts part)

theorem parent_proper {p : Path} (h : p.Proper) : p.parent.Proper :=
  ⟨h.root, fun part hpart => h.parts part (List.dropLast_subset _ hpart)⟩

/-! ## Texts -/

def pieces (cs : List Char) : List String :=
  ((cs.splitOn '/').map String.ofList).filter fun part => part != "" && part != "."

/-- The letters of names with slashes between them. -/
def slashed (parts : List String) : List Char :=
  ['/'].intercalate (parts.map String.toList)

theorem pieces_cons_slash (cs : List Char) : pieces ('/' :: cs) = pieces cs := by
  rw [pieces, List.splitOn_cons_eq_if_modifyHead, if_pos (beq_self_eq_true _), List.map_cons,
    List.filter_cons_of_neg (by decide)]
  rfl

theorem pieces_slashed {parts : List String} (h : ∀ part ∈ parts, IsPart part) : pieces (slashed parts) = parts := by
  cases parts with
  | nil => decide
  | cons part parts =>
    have hsplit : (slashed (part :: parts)).splitOn '/' = (part :: parts).map String.toList := by
      refine List.splitOn_intercalate '/' (fun piece hpiece => ?_) (by simp)
      obtain ⟨s, hs, rfl⟩ := List.mem_map.mp hpiece
      exact (h s hs).noSlash
    have hself : ((part :: parts).map String.toList).map String.ofList = part :: parts := by
      simp [Function.comp_def]
    rw [pieces, hsplit, hself, List.filter_eq_self]
    intro s hs
    simp [(h s hs).nonempty, (h s hs).noDot]

/-- No slash stands before the first name. -/
theorem takeWhile_slashed {parts : List String} (h : ∀ part ∈ parts, IsPart part) :
    (slashed parts).takeWhile (· == '/') = [] := by
  cases parts with
  | nil => rfl
  | cons part parts =>
    have hpart := h part List.mem_cons_self
    cases hs : part.toList with
    | nil => exact absurd (String.toList_eq_nil_iff.mp hs) hpart.nonempty
    | cons c cs =>
      have hc : c ≠ '/' := by
        rintro rfl
        exact hpart.noSlash (hs ▸ List.mem_cons_self)
      cases parts <;> simp [slashed, List.intercalate, hs, hc]

theorem slashed_ne_nil {parts : List String} (h : ∀ part ∈ parts, IsPart part) (hne : parts ≠ []) :
    slashed parts ≠ [] := by
  intro hnil
  have hpieces := pieces_slashed h
  rw [hnil] at hpieces
  exact hne hpieces.symm

/-- The text of a path is its root and its names, and a dot if it has neither. -/
theorem toList_text {p : Path} (h : p.root ≠ "" ∨ slashed p.parts ≠ []) :
    p.text.toList = p.root.toList ++ slashed p.parts := by
  have htext : (p.root ++ "/".intercalate p.parts).toList = p.root.toList ++ slashed p.parts := by
    rw [String.toList_append, String.toList_intercalate]
    simp [slashed]
  rw [text, if_neg, htext]
  rw [beq_iff_eq, ← String.toList_eq_nil_iff, htext, List.append_eq_nil_iff, String.toList_eq_nil_iff]
  rintro ⟨hroot, hparts⟩
  exact h.elim (fun h => h hroot) fun h => h hparts

/-- A path is what is read from its text. -/
theorem ofText_text {p : Path} (h : p.Proper) : ofText p.text = p := by
  have hpieces := pieces_slashed h.parts
  have hslashes := takeWhile_slashed h.parts
  obtain ⟨root, parts⟩ := p
  have hof : ∀ s : String, ofText s = ⟨if (s.toList.takeWhile (· == '/')).length == 0 then "" else
      if (s.toList.takeWhile (· == '/')).length == 2 then "//" else "/", pieces s.toList⟩ := fun _ => rfl
  rcases h.root with hroot | hroot | hroot <;> dsimp only at hroot hpieces hslashes <;> subst hroot
  · by_cases hnil : parts = []
    · subst hnil
      decide
    · rw [hof, toList_text (.inr (slashed_ne_nil h.parts hnil))]
      simp [hslashes, hpieces]
  · rw [hof, toList_text (.inl (by simp))]
    simp [hslashes, hpieces, pieces_cons_slash]
  · rw [hof, toList_text (.inl (by simp))]
    simp [hslashes, hpieces, pieces_cons_slash]

/-- A text that can be a name is read as that name. -/
theorem ofText_of_isPart {s : String} (h : IsPart s) : ofText s = ⟨"", [s]⟩ := by
  have hp : Proper ⟨"", [s]⟩ := ⟨.inl rfl, by simpa using h⟩
  have htext : (Path.mk "" [s]).text = s := by
    rw [← String.toList_inj, toList_text (.inr (slashed_ne_nil hp.parts (by simp)))]
    simp [slashed]
  rw [← htext, ofText_text hp, htext]

/-! ## Extensions -/

/-- What stands last in the text of a path: its name, or the dot for a path that has neither root nor names. -/
def base (p : Path) : String :=
  if p.root = "" ∧ p.parts = [] then "." else p.name

/-- The path beside another one with something after its last name. -/
def extended (p : Path) (suffix : String) : Path :=
  { p.parent with parts := p.parent.parts ++ [p.base ++ suffix] }

variable {p q : Path} {suffix : String}

theorem parts_cases (p : Path) : p.parts = [] ∨ ∃ xs x, p.parts = xs ++ [x] := by
  simpa only [List.concat_eq_append] using p.parts.eq_nil_or_concat

@[simp] theorem parent_extended (p : Path) (suffix : String) : (p.extended suffix).parent = p.parent := by
  simp [extended, parent]

@[simp] theorem name_extended (p : Path) (suffix : String) : (p.extended suffix).name = p.base ++ suffix := by
  simp [extended, name]

theorem base_of_parts {xs : List String} {x : String} (h : p.parts = xs ++ [x]) : p.base = x := by
  simp [base, name, h]

/-- A path without names has no name to stand last. -/
theorem not_isPart_base (h : p.parts = []) : ¬ IsPart p.base := by
  rw [base]
  split
  · exact fun hpart => hpart.noDot rfl
  · rw [name, h]
    exact fun hpart => hpart.nonempty rfl

theorem noSlash_base (h : p.Proper) : '/' ∉ p.base.toList := by
  rcases p.parts_cases with hnil | ⟨xs, x, hparts⟩
  · by_cases hroot : p.root = "" <;> simp [base, name, hnil, hroot]
  · rw [base_of_parts hparts]
    exact (h.parts x (by simp [hparts])).noSlash

/-- What can stand after the last name of a path: more than one letter, and no slash. -/
structure IsSuffix (s : String) : Prop where
  length : 1 < s.toList.length
  noSlash : '/' ∉ s.toList

theorem IsSuffix.append_ne (hs : IsSuffix suffix) (s : String) : s ++ suffix ≠ "" ∧ s ++ suffix ≠ "." := by
  have hlength : 1 < (s ++ suffix).toList.length := by
    rw [String.toList_append, List.length_append]
    have := hs.length
    omega
  constructor <;> intro heq <;> rw [heq] at hlength <;> exact absurd hlength (by decide)

/-- A path that is read from a text with such an end has it at the end of its last name. -/
theorem exists_parts_ofText (hs : IsSuffix suffix) (s : String) :
    ∃ names last, (ofText (s ++ suffix)).parts = names ++ [last ++ suffix] := by
  obtain ⟨before, last, hsplit⟩ := exists_splitOn_append hs.noSlash s.toList
  have hlast : String.ofList (last ++ suffix.toList) = String.ofList last ++ suffix := by
    rw [← String.toList_inj, String.toList_append, String.toList_ofList, String.toList_ofList]
  have hkept : [String.ofList last ++ suffix].filter (fun part => part != "" && part != ".") =
      [String.ofList last ++ suffix] :=
    List.filter_eq_self.mpr (by simpa using hs.append_ne (String.ofList last))
  have hparts : (ofText (s ++ suffix)).parts = pieces (s.toList ++ suffix.toList) := by
    rw [← String.toList_append]
    rfl
  rw [hparts, pieces, hsplit, List.map_append, List.map_singleton, hlast, List.filter_append, hkept]
  exact ⟨_, String.ofList last, rfl⟩

theorem isPart_base (h : p.Proper) (hs : IsSuffix suffix) : IsPart (p.base ++ suffix) := by
  refine ⟨(hs.append_ne p.base).1, (hs.append_ne p.base).2, ?_⟩
  rw [String.toList_append, List.mem_append]
  exact not_or.mpr ⟨noSlash_base h, hs.noSlash⟩

theorem extended_proper (h : p.Proper) (hs : IsSuffix suffix) : (p.extended suffix).Proper where
  root := h.root
  parts part hpart := by
    rcases List.mem_append.mp hpart with hpart | hpart
    · exact (parent_proper h).parts part hpart
    · rw [List.mem_singleton.mp hpart]
      exact isPart_base h hs

theorem slashed_concat (xs : List String) (x s : String) :
    slashed (xs ++ [x ++ s]) = slashed (xs ++ [x]) ++ s.toList := by
  induction xs with
  | nil => simp [slashed]
  | cons y ys ih => cases ys <;> simp_all [slashed, List.intercalate]

theorem text_extended (h : p.Proper) (hs : IsSuffix suffix) : (p.extended suffix).text = p.text ++ suffix := by
  have hparts : (p.extended suffix).parts ≠ [] := by simp [extended]
  have hne := slashed_ne_nil (extended_proper h hs).parts hparts
  rw [← String.toList_inj, toList_text (.inr hne), String.toList_append]
  rcases p.parts_cases with hnil | ⟨xs, x, hxs⟩
  · by_cases hroot : p.root = ""
    · have htext : p.text = "." := by
        rw [text, hroot, hnil]
        decide
      simp [extended, parent, base, slashed, hnil, hroot, htext]
    · rw [toList_text (.inl hroot)]
      simp [extended, parent, base, name, slashed, hnil, hroot]
  · have hslashed : slashed p.parts ≠ [] := slashed_ne_nil h.parts (by simp [hxs])
    have hconcat : (p.extended suffix).parts = xs ++ [x ++ suffix] := by
      simp [extended, parent, base_of_parts hxs, hxs]
    rw [toList_text (.inr hslashed), hconcat, slashed_concat, hxs, List.append_assoc]
    rfl

/-- Different paths are extended to different ones. -/
theorem extended_inj (hp : p.Proper) (hq : q.Proper) (h : p.extended suffix = q.extended suffix) : p = q := by
  have hparent : p.parent = q.parent := by rw [← parent_extended p suffix, h, parent_extended]
  have hbase : p.base = q.base := by
    have hname := congrArg (fun r => r.name.toList) h
    simp only [name_extended, String.toList_append] at hname
    exact String.toList_inj.mp (List.append_cancel_right hname)
  obtain ⟨hroot, hinit⟩ := Path.mk.inj hparent
  have hparts : p.parts = q.parts := by
    rcases p.parts_cases with hpnil | ⟨xs, x, hxs⟩ <;> rcases q.parts_cases with hqnil | ⟨ys, y, hys⟩
    · rw [hpnil, hqnil]
    · have hy : IsPart p.base := by
        rw [hbase, base_of_parts hys]
        exact hq.parts y (by simp [hys])
      exact absurd hy (not_isPart_base hpnil)
    · have hx : IsPart q.base := by
        rw [← hbase, base_of_parts hxs]
        exact hp.parts x (by simp [hxs])
      exact absurd hx (not_isPart_base hqnil)
    · rw [base_of_parts hxs, base_of_parts hys] at hbase
      rw [hxs, hys, List.dropLast_concat, List.dropLast_concat] at hinit
      rw [hxs, hys, hbase, hinit]
  obtain ⟨root, parts⟩ := p
  obtain rfl : root = q.root := hroot
  obtain rfl : parts = q.parts := hparts
  rfl

end KubeManifest.Path

namespace KubeManifest.Format

/-- What stands after the last name in the path of a file. -/
def suffix (format : Format) : String :=
  "." ++ format.extension

theorem isSuffix_suffix (format : Format) : Path.IsSuffix format.suffix := by
  cases format <;> exact ⟨by decide, by decide⟩

/-- The last name of the path of a file has the extension at its end. -/
theorem exists_parts_withExtension (format : Format) (target : String) :
    ∃ names last, (format.withExtension target).parts = names ++ [last ++ format.suffix] := by
  rw [withExtension, String.append_assoc]
  exact Path.exists_parts_ofText format.isSuffix_suffix target

/-- The file with the text of a path and an extension lies beside that path. -/
theorem withExtension_text {p : Path} (h : p.Proper) (format : Format) :
    format.withExtension p.text = p.extended format.suffix := by
  have hs := format.isSuffix_suffix
  rw [withExtension, String.append_assoc]
  change Path.ofText (p.text ++ format.suffix) = _
  rw [← Path.text_extended h hs, Path.ofText_text (Path.extended_proper h hs)]

end KubeManifest.Format
