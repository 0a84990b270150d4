import KubeManifest.Proofs.Fragment.Enrich

/-!
# Mappings that are mentioned twice

A mapping that is mentioned several times is one mapping. What it is given in one place it has in all of them.

* `Value.Outdated` : values in which the mapping of a place has other entries than those that it is to have;
* `Fragment.replaceAt_eq_self_iff` : all others stay as they are, and no others;
* `Fragment.replaceAt_replaceAt` : entries that are replaced again stay as they are.
-/

namespace KubeManifest

/-- Whether a mapping of a place is found in a value with other entries than these. What is found first counts, not what
is inside such a mapping. -/
inductive Value.Outdated (origin : Origin) (new : Fields) : Value → Prop
  | here {fs : Fields} {mark : Mark} (hmark : mark.origin = origin) (hne : fs ≠ new) :
      Outdated origin new (.map fs (some mark))
  | item {x : Value} {items : List Value} {mark : Option Mark} (hx : x ∈ items) (h : Outdated origin new x) :
      Outdated origin new (.list items mark)
  | entry {e : Value × Value} {fs : Fields} {mark : Option Mark} (hmark : mark.any (·.origin == origin) = false)
      (he : e ∈ fs) (h : Outdated origin new e.2) : Outdated origin new (.map fs mark)

namespace Fragment

open Value

variable {origin : Origin} {new : Fields} {v : Value} {s : String}

theorem replaceAt_of_not_outdated (h : ¬ v.Outdated origin new) : replaceAt origin new v = v := by
  induction v using Value.induct with
  | scalar s mark => rfl
  | list items mark ih =>
    have hitems : items.map (replaceAt origin new) = items.map id :=
      List.map_congr_left fun x hx => ih x hx (mt (.item hx) h)
    rw [replaceAt, replaceItems_eq, hitems, List.map_id]
  | map fs mark ih =>
    rw [replaceAt]
    split
    · rename_i hmark
      obtain ⟨m, rfl, ho⟩ := (Option.any_eq_true _ _).mp hmark
      have heq : fs = new := Classical.byContradiction fun hne => h (.here (beq_iff_eq.mp ho) hne)
      rw [heq]
    · rename_i hmark
      rw [Bool.not_eq_true] at hmark
      have hentries : fs.map (fun e => (e.1, replaceAt origin new e.2)) = fs.map id :=
        List.map_congr_left fun e he => Prod.ext rfl (ih e he (mt (.entry hmark he) h))
      rw [replaceEntries_eq, hentries, List.map_id]

theorem replaceAt_ne_of_outdated (h : v.Outdated origin new) : replaceAt origin new v ≠ v := by
  induction h with
  | here hmark hne =>
    rw [replaceAt, if_pos (by simpa using hmark)]
    exact fun heq => hne (Value.map.inj heq).1.symm
  | item hx _ ih =>
    rw [replaceAt, replaceItems_eq]
    intro heq
    have hitems := (Value.list.inj heq).1.trans (List.map_id _).symm
    exact ih (List.map_inj_left.mp hitems _ hx)
  | entry hmark he _ ih =>
    rw [replaceAt, if_neg (by simp [hmark]), replaceEntries_eq]
    intro heq
    have hentries := (Value.map.inj heq).1.trans (List.map_id _).symm
    exact ih (congrArg Prod.snd (List.map_inj_left.mp hentries _ he))

theorem replaceAt_eq_self_iff : replaceAt origin new v = v ↔ ¬ v.Outdated origin new :=
  ⟨fun h hout => replaceAt_ne_of_outdated hout h, replaceAt_of_not_outdated⟩

theorem text?_replaceAt (origin : Origin) (new : Fields) (v : Value) : (replaceAt origin new v).text? = v.text? := by
  cases v with
  | scalar s mark => rfl
  | list items mark => rfl
  | map fs mark =>
    rw [replaceAt]
    split <;> rfl

theorem isVacant_replaceAt (origin : Origin) (new : Fields) (v : Value) :
    isVacant (replaceAt origin new v) = isVacant v := by
  cases v with
  | scalar s mark => rfl
  | list items mark => rfl
  | map fs mark =>
    rw [replaceAt]
    split <;> rfl

theorem replaceAt_of_text? (h : v.text? = some s) : replaceAt origin new v = v := by
  obtain ⟨style, mark, rfl⟩ := text?_eq_some_iff.mp h
  rfl

theorem get_replaceEntries (origin : Origin) (new fs : Fields) (name : String) :
    Fields.get (replaceEntries origin new fs) name = replaceAt origin new (Fields.get fs name) := by
  rw [Fields.get, find?_replaceEntries, Fields.get]
  cases Fields.find? fs name <;> rfl

theorem replaceAt_replaceAt (origin : Origin) (new : Fields) (v : Value) :
    replaceAt origin new (replaceAt origin new v) = replaceAt origin new v := by
  induction v using Value.induct with
  | scalar s mark => rfl
  | list items mark ih =>
    rw [replaceAt, replaceAt, replaceItems_eq, replaceItems_eq, List.map_map]
    exact congrArg (Value.list · mark) (List.map_congr_left ih)
  | map fs mark ih =>
    by_cases hmark : mark.any (·.origin == origin) = true
    · rw [replaceAt, if_pos hmark, replaceAt, if_pos hmark]
    · rw [replaceAt, if_neg hmark, replaceAt, if_neg hmark, replaceEntries_eq, replaceEntries_eq, List.map_map]
      refine congrArg (Value.map · mark) (List.map_congr_left fun f hf => ?_)
      exact Prod.ext rfl (ih f hf)

theorem replaceEntries_replaceEntries (origin : Origin) (new fs : Fields) :
    replaceEntries origin new (replaceEntries origin new fs) = replaceEntries origin new fs := by
  rw [replaceEntries_eq, replaceEntries_eq, List.map_map]
  exact List.map_congr_left fun f _ => Prod.ext rfl (replaceAt_replaceAt origin new f.2)

end Fragment

end KubeManifest
