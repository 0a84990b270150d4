import KubeManifest.Json.Reader
import KubeManifest.Proofs.Results
import KubeManifest.Proofs.Value.Plain
import KubeManifest.Proofs.Value.Relabel

/-!
# Values of JSON have no labels

* `Json.Atom`, `Json.atom_of_readAtom` : the values of words and numbers, which are no lists or mappings;
* `Json.relabel_read` : nothing in the value of a text changes with other labels.
-/

namespace KubeManifest.Json

variable {ρ : Relabeling} {c c' : Cursor} {v : Value}

/-- The values of words and numbers. -/
inductive Atom : Value → Prop
  | null : Atom .null
  | bool (b : Bool) : Atom (.ofBool b)
  | int (n : Int) : Atom (.ofInt n)
  | float (x : Binary64) : Atom (.scalar (.float x none) none)

theorem atom_of_readNumber (h : readNumber c = .ok (v, c')) : Atom v := by
  unfold readNumber at h
  extract_lets negative start whole afterWhole fraction afterFraction exponent n at h
  clear_value n exponent afterFraction fraction afterWhole
  split at h
  · cases h
  · split at h
    · split at h
      · cases h
      · cases h
        exact .int _
    · cases h
      exact .float _

theorem atom_of_readAtom (h : readAtom c = .ok (v, c')) : Atom v := by
  have hwords : ∀ w ∈ words, Atom w.2 := by
    intro w hw
    simp only [words, List.mem_cons, List.not_mem_nil, or_false] at hw
    rcases hw with rfl | rfl | rfl | rfl | rfl | rfl
    · exact .null
    · exact .bool true
    · exact .bool false
    all_goals exact .float _
  unfold readAtom at h
  split at h
  · rename_i hfind
    cases h
    exact hwords _ (List.mem_of_find?_eq_some hfind)
  · exact atom_of_readNumber h

theorem Atom.relabel (h : Atom v) : v.relabel ρ = v := by
  cases h with
  | null => exact Value.relabel_null ρ
  | bool b => exact Value.relabel_ofBool ρ b
  | int n => exact Value.relabel_ofInt ρ n
  | float x => exact Value.relabel_float ρ x

mutual

theorem relabel_readValue : ∀ {fuel : Nat} {c c' : Cursor} {v : Value}, readValue fuel c = .ok (v, c') → v.relabel ρ = v
  | 0, _, _, _, h => by cases h
  | fuel + 1, c, c', v, h => by
    unfold readValue at h
    split at h
    · obtain ⟨⟨s, c⟩, -, h⟩ := bind_eq_ok.mp h
      cases h
      exact Value.relabel_ofString ρ s
    · dsimp only at h
      split at h
      · cases h
        exact Value.relabel_ofList ρ []
      · exact relabel_readItems (by simp) h
    · dsimp only at h
      split at h
      · cases h
        exact Value.relabel_ofFields ρ []
      · exact relabel_readEntries rfl h
    · exact (atom_of_readAtom h).relabel

theorem relabel_readItems : ∀ {fuel : Nat} {acc : List Value} {c c' : Cursor} {v : Value},
    (∀ x ∈ acc, x.relabel ρ = x) → readItems fuel acc c = .ok (v, c') → v.relabel ρ = v
  | 0, _, _, _, _, _, h => by cases h
  | fuel + 1, acc, c, c', v, hacc, h => by
    unfold readItems at h
    obtain ⟨⟨x, c⟩, hx, h⟩ := bind_eq_ok.mp h
    have hitems : ∀ y ∈ x :: acc, y.relabel ρ = y := List.forall_mem_cons.mpr ⟨relabel_readValue hx, hacc⟩
    dsimp only at h
    split at h
    · cases h
      rw [Value.relabel_ofList]
      exact congrArg Value.ofList (map_eq_self fun y hy => hitems y (List.mem_reverse.mp hy))
    · exact relabel_readItems hitems h
    · cases h

theorem relabel_readEntries : ∀ {fuel : Nat} {fs : Fields} {c c' : Cursor} {v : Value}, fs.relabel ρ = fs →
    readEntries fuel fs c = .ok (v, c') → v.relabel ρ = v
  | 0, _, _, _, _, _, h => by cases h
  | fuel + 1, fs, c, c', v, hfs, h => by
    unfold readEntries at h
    split at h
    · cases h
    · obtain ⟨⟨name, c⟩, -, h⟩ := bind_eq_ok.mp h
      dsimp only at h
      split at h
      · cases h
      · obtain ⟨⟨x, c⟩, hx, h⟩ := bind_eq_ok.mp h
        have hset : (Fields.set fs name x).relabel ρ = Fields.set fs name x := by
          rw [← Fields.set_relabel, hfs, relabel_readValue hx]
        dsimp only at h
        split at h
        · cases h
          rw [Value.relabel_ofFields, hset]
        · exact relabel_readEntries hset h
        · cases h

end

/-- Nothing in the value of a text changes with other labels. -/
theorem relabel_read {cs : List Char} (h : read cs = .ok v) : v.relabel ρ = v := by
  unfold read at h
  split at h
  · cases h
  · obtain ⟨⟨w, c⟩, hw, h⟩ := bind_eq_ok.mp h
    dsimp only at h
    split at h
    · cases h
      exact relabel_readValue hw
    · cases h

end KubeManifest.Json
