import KubeManifest.Proofs.Fragment.Renumber

/-!
# Keys of fragments

No mapping that is read has two entries of one name, and enriching a fragment adds none.

* `Fields.Distinct.assign` : an entry that is assigned takes the place of one of its name;
* `Yaml.distinct_of_readOne`, `Json.distinct_of_read` : the entries of a text in YAML or JSON are distinct;
* `Fragment.distinct_enrichFile` : so are those of a fragment in a file.
-/

namespace KubeManifest

/-! ## Keys compared by value -/

/-- Texts that differ by value are different. -/
theorem Value.text?_ne_of_same_eq_false {k l : Value} {s : String} (h : k.same l = false) (hk : k.text? = some s) :
    l.text? ≠ some s := by
  intro hl
  obtain ⟨style, mark, rfl⟩ := text?_eq_some_iff.mp hk
  obtain ⟨style', mark', rfl⟩ := text?_eq_some_iff.mp hl
  rw [same, Scalar.same] at h
  simp [Scalar.whole?] at h

namespace Fields

variable {fs : Fields} {key v : Value}

theorem distinct_iff_pairwise :
    Distinct fs ↔ fs.Pairwise fun e e' => ∀ s, e.1.text? = some s → e'.1.text? ≠ some s := by
  rw [Distinct, List.Nodup, List.pairwise_filterMap]
  refine iff_of_eq (congrArg (List.Pairwise · fs) ?_)
  funext e e'
  exact propext ⟨fun h s hs hs' => h s hs s hs' rfl, fun h s hs s' hs' heq => h s hs (heq ▸ hs')⟩

theorem distinct_nil : Distinct [] :=
  List.nodup_nil

theorem distinct_cons {e : Value × Value} :
    Distinct (e :: fs) ↔ (∀ e' ∈ fs, ∀ s, e.1.text? = some s → e'.1.text? ≠ some s) ∧ Distinct fs := by
  rw [distinct_iff_pairwise, List.pairwise_cons, ← distinct_iff_pairwise]

theorem fst_of_mem_assign {e : Value × Value} (h : e ∈ assign fs key v) : (∃ e' ∈ fs, e'.1 = e.1) ∨ e.1 = key := by
  induction fs with
  | nil => exact .inr (congrArg Prod.fst (List.mem_singleton.mp h))
  | cons e' fs ih =>
    obtain ⟨k, old⟩ := e'
    rw [assign] at h
    split at h <;> rw [List.mem_cons] at h <;> rcases h with rfl | h
    · exact .inl ⟨_, List.mem_cons_self, rfl⟩
    · exact .inl ⟨e, List.mem_cons_of_mem _ h, rfl⟩
    · exact .inl ⟨_, List.mem_cons_self, rfl⟩
    · obtain ⟨e', he', heq⟩ | heq := ih h
      · exact .inl ⟨e', List.mem_cons_of_mem _ he', heq⟩
      · exact .inr heq

theorem Distinct.assign (h : Distinct fs) (key v : Value) : Distinct (assign fs key v) := by
  induction fs with
  | nil => exact distinct_cons.mpr ⟨nofun, h⟩
  | cons e fs ih =>
    obtain ⟨k, old⟩ := e
    obtain ⟨hk, hfs⟩ := distinct_cons.mp h
    rw [Fields.assign]
    split
    · exact distinct_cons.mpr ⟨hk, hfs⟩
    · rename_i hsame
      refine distinct_cons.mpr ⟨fun e he s hs => ?_, ih hfs⟩
      obtain ⟨e', he', heq⟩ | rfl := fst_of_mem_assign he
      · exact heq ▸ hk e' he' s hs
      · exact Value.text?_ne_of_same_eq_false (Bool.eq_false_iff.mpr hsame) hs

theorem Distinct.concat (h : Distinct fs) (hkey : hasKey fs key = false) (v : Value) :
    Distinct (fs ++ [(key, v)]) := by
  rw [distinct_iff_pairwise, List.pairwise_append, ← distinct_iff_pairwise]
  refine ⟨h, List.pairwise_singleton _ _, fun e he e' he' s hs => ?_⟩
  obtain rfl := List.mem_singleton.mp he'
  have hsame := List.any_eq_false.mp hkey e he
  exact Value.text?_ne_of_same_eq_false (Bool.eq_false_iff.mpr hsame) hs

end Fields

/-! ## Reading -/

namespace Yaml

open Fields (Distinct)

theorem distinct_ownEntries (mode : Mode) (distinct : Bool) (depth : Nat) {base : Fields} (h : Distinct base)
    (entries : List EntryReading) : Distinct (ownEntries mode distinct depth base entries).1 :=
  List.foldlRecOn (motive := fun r : Fields × Faults => Distinct r.1) _ _ h fun _ hfs e _ => hfs.assign e.key e.value

theorem distinct_assemble (mode : Mode) (depth : Nat) (entries : List EntryReading) :
    Distinct (assemble mode depth entries).1 := by
  unfold assemble
  dsimp only
  split
  · refine distinct_ownEntries mode _ depth ?_ entries
    exact List.foldlRecOn _ _ Fields.distinct_nil fun _ hfs e _ => hfs.assign e.1 e.2
  · refine List.foldlRecOn _ _ (distinct_ownEntries mode true depth Fields.distinct_nil entries) fun fs hfs e _ => ?_
    split
    · exact hfs
    · rename_i hkey
      exact hfs.concat (Bool.eq_false_iff.mpr hkey) e.2

theorem readScalar_ne_map {mode : Mode} {isKey : Bool} {depth : Nat} {names : Names} {props : Props} {text : String}
    {style : TextStyle} {version : Version} {fs : Fields} {mark : Option Mark} :
    (readScalar mode isKey depth names props text style version).value ≠ .map fs mark := by
  unfold readScalar
  dsimp only
  split
  · nofun
  · split <;> nofun

/-- No document is an alias, so its entries are those of the mapping that it is. -/
theorem distinct_of_readRoot {mode : Mode} {root : Node} {fs : Fields} {mark : Option Mark}
    (h : readRoot mode root = .ok (.map fs mark)) : Distinct fs := by
  unfold readRoot at h
  split at h
  · cases h
  · dsimp only at h
    split at h
    · cases h
    · have hvalue := Except.ok.inj h
      cases root with
      | reference name => cases hvalue
      | scalar props text style version => exact absurd hvalue readScalar_ne_map
      | list props items => cases hvalue
      | map props entries =>
        obtain ⟨rfl, -⟩ := Value.map.inj hvalue
        exact distinct_assemble mode _ _

theorem distinct_of_readOne {mode : Mode} {text : List Char} {fs : Fields} {mark : Option Mark}
    (h : readOne mode text = .ok (.map fs mark)) : Distinct fs := by
  unfold readOne at h
  dsimp only at h
  split at h
  · cases h
  · cases h
  · split at h
    · exact distinct_of_readRoot h
    · cases h

end Yaml

namespace Json

open Fields (Distinct)

variable {c c' : Cursor} {fs gs : Fields} {mark : Option Mark}

theorem readItems_ne_map {fuel : Nat} {acc : List Value} : readItems fuel acc c ≠ .ok (.map fs mark, c') := by
  intro h
  induction fuel generalizing acc c with
  | zero => cases h
  | succ fuel ih =>
    obtain ⟨⟨x, c⟩, -, h⟩ := bind_eq_ok.mp h
    dsimp only at h
    split at h
    · cases h
    · exact ih h
    · cases h

theorem distinct_of_readEntries {fuel : Nat} (hfs : Distinct fs)
    (h : readEntries fuel fs c = .ok (.map gs mark, c')) : Distinct gs := by
  induction fuel generalizing fs c with
  | zero => cases h
  | succ fuel ih =>
    unfold readEntries at h
    split at h
    · cases h
    · obtain ⟨⟨name, c⟩, -, h⟩ := bind_eq_ok.mp h
      dsimp only at h
      split at h
      · cases h
      · obtain ⟨⟨x, c⟩, -, h⟩ := bind_eq_ok.mp h
        dsimp only at h
        split at h
        · cases h
          exact hfs.set name x
        · exact ih (hfs.set name x) h
        · cases h

theorem distinct_of_readValue {fuel : Nat} (h : readValue fuel c = .ok (.map fs mark, c')) : Distinct fs := by
  cases fuel with
  | zero => cases h
  | succ fuel =>
    unfold readValue at h
    split at h
    · obtain ⟨⟨s, c⟩, -, h⟩ := bind_eq_ok.mp h
      cases h
    · dsimp only at h
      split at h
      · cases h
      · exact absurd h readItems_ne_map
    · dsimp only at h
      split at h
      · cases h
        exact Fields.distinct_nil
      · exact distinct_of_readEntries Fields.distinct_nil h
    · cases atom_of_readAtom h

theorem distinct_of_read {cs : List Char} (h : read cs = .ok (.map fs mark)) : Distinct fs := by
  unfold read at h
  split at h
  · cases h
  · obtain ⟨⟨w, c⟩, hw, h⟩ := bind_eq_ok.mp h
    dsimp only at h
    split at h
    · cases h
      exact distinct_of_readValue hw
    · cases h

end Json

/-! ## Enriching -/

namespace Fragment

open Fields (Distinct)

variable {fs gs : Fields}

theorem distinct_of_valueOf {document : Nat} {path extension : String} {text : List Char} {mark : Option Mark}
    (h : valueOf document path extension text = .ok (.map fs mark)) : Distinct fs := by
  unfold valueOf at h
  split at h
  · unfold ofJson at h
    split at h
    · cases h
    · cases hread : Json.read text with
      | ok v =>
        rw [hread] at h
        obtain rfl := Except.ok.inj h
        exact Json.distinct_of_read hread
      | error p =>
        rw [hread] at h
        cases h
  · cases hread : Yaml.readOne (.styled document) text with
    | ok v =>
      rw [hread] at h
      obtain rfl := Except.ok.inj h
      exact Yaml.distinct_of_readOne hread
    | error fault =>
      rw [hread] at h
      cases h

theorem distinct_ofText {document : Nat} {path extension : String} {text : List Char}
    (h : ofText document path extension text = .ok fs) : Distinct fs := by
  rw [ofText_eq] at h
  obtain ⟨v, hv, h⟩ := bind_eq_ok.mp h
  unfold entriesOf at h
  split at h
  · exact Except.ok.inj h ▸ distinct_of_valueOf hv
  · exact Except.ok.inj h ▸ Fields.distinct_nil
  · cases h

theorem distinct_ofFile {files : Files} {document : Nat} {path : Path} {extension : String}
    (h : ofFile files document path extension = .ok fs) : Distinct fs := by
  unfold ofFile at h
  split at h
  · cases h
  · cases h
  · split at h
    · cases h
    · exact distinct_ofText h

theorem distinct_fill (h : Distinct fs) (name : String) (v : Value) : Distinct (fill fs name v) := by
  unfold fill
  dsimp only
  split
  · exact h.set name _
  · exact h

theorem distinct_setMetadata (h : Distinct fs) (metadata : Fields) (mark : Option Mark) :
    Distinct (setMetadata fs metadata mark) := by
  unfold setMetadata
  split
  · rw [Fields.distinct_iff_map_fst, map_fst_replaceEntries, ← Fields.distinct_iff_map_fst]
    exact h
  · exact h.set _ _

theorem distinct_nameMetadata {filename : String} {name : Value} (hfs : Distinct fs)
    (h : nameMetadata filename name fs = .ok gs) : Distinct gs := by
  unfold nameMetadata at h
  split at h
  · exact Except.ok.inj h ▸ hfs.set _ _
  · exact Except.ok.inj h ▸ distinct_setMetadata hfs _ _
  · cases h

theorem distinct_enrich {versions : Versions} {info : Classification} {filename defaultName : String}
    (hfs : Distinct fs) (h : enrich versions info filename defaultName fs = .ok gs) : Distinct gs := by
  rw [enrich_eq] at h
  split at h
  · cases h
  · obtain ⟨version, -, h⟩ := bind_eq_ok.mp h
    exact distinct_nameMetadata (distinct_fill (distinct_fill hfs _ _) _ _) h

/-- The entries of an enriched fragment have different names. -/
theorem distinct_enrichFile {files : Files} {kinds : KindTable} {versions : Versions} {defaultName : String}
    {document : Nat} {path : Path} (h : enrichFile files kinds versions defaultName document path = .ok fs) :
    Distinct fs := by
  obtain ⟨info, -, h⟩ := bind_eq_ok.mp h
  obtain ⟨gs, hgs, h⟩ := bind_eq_ok.mp h
  exact distinct_enrich (distinct_ofFile hgs) h

end Fragment
end KubeManifest
