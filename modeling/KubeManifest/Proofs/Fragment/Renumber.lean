import KubeManifest.Collection.Build
import KubeManifest.Proofs.Fragment.Enrich
import KubeManifest.Proofs.Json.Labels
import KubeManifest.Proofs.Resource.Renumber
import KubeManifest.Proofs.Yaml.Renumber

/-!
# Fragments under other numbers

* `Fragment.enrich_renumber` : enriching gets along with other numbers of documents, if different ones stay
  different and versions name no document;
* `Fragment.ofFile_renumber` : a file is read the same way under every number;
* `Collection.readResource_renumber` : so the resource in a fragment depends on the number in its marks alone.
-/

namespace KubeManifest

open Relabeling (renumber)

variable {f : Nat → Nat}

/-! ## Enriching -/

/-- Versions that name no document. -/
structure Versions.Unnumbered (versions : Versions) : Prop where
  core : versions.core.Unnumbered
  extensions : versions.extensions.Unnumbered
  apps : versions.apps.Unnumbered

theorem Versions.Unnumbered.of_apiVersion {versions : Versions} (h : versions.Unnumbered) {kind v : Value}
    (hv : versions.apiVersion kind = .ok v) : v.Unnumbered := by
  unfold apiVersion at hv
  split at hv
  · cases hv
  · split at hv
    · exact Except.ok.inj hv ▸ h.extensions
    · split at hv
      · exact Except.ok.inj hv ▸ h.apps
      · exact Except.ok.inj hv ▸ h.core

theorem Versions.apiVersion_relabel (versions : Versions) (ρ : Relabeling) (kind : Value) :
    versions.apiVersion (kind.relabel ρ) = versions.apiVersion kind := by
  simp [apiVersion]

namespace Fragment

theorem isVacant_renumber (v : Value) : isVacant (v.relabel (renumber f)) = isVacant v := by
  cases v with
  | scalar s mark => cases s <;> simp [isVacant]
  | list items mark => simp [isVacant]
  | map fs mark => simp [isVacant]

theorem inPlaceOf_renumber (old new : Value) :
    inPlaceOf (old.relabel (renumber f)) (new.relabel (renumber f)) = (inPlaceOf old new).relabel (renumber f) := by
  cases old with
  | scalar s mark =>
    cases s with
    | text t style =>
      cases new with
      | scalar s' mark' =>
        cases s' with
        | text t' style' => cases style' <;> cases mark' <;> rfl
        | _ => simp [inPlaceOf]
      | _ => simp [inPlaceOf]
    | _ => simp [inPlaceOf]
  | _ => simp [inPlaceOf]

theorem fill_renumber (fs : Fields) (name : String) (v : Value) :
    fill (fs.relabel (renumber f)) name (v.relabel (renumber f)) = (fill fs name v).relabel (renumber f) := by
  rw [fill_eq, fill_eq, Fields.get_relabel, isVacant_renumber, inPlaceOf_renumber, Fields.set_relabel]
  split <;> rfl

theorem any_renumber (hf : Function.Injective f) (m : Mark) (mark : Option Mark) :
    ((renumber f).mark mark).any (·.origin == m.origin.renumber f) =
      mark.any (·.origin == m.origin) := by
  cases mark with
  | none => rfl
  | some m' =>
    rw [Relabeling.renumber_mark_some, Option.any_some, Option.any_some, Bool.eq_iff_iff, beq_iff_eq, beq_iff_eq,
      (Origin.renumber_injective hf).eq_iff]

theorem replaceEntries_renumber_of {origin origin' : Origin} {new fs : Fields}
    (h : ∀ e ∈ fs, replaceAt origin' (new.relabel (renumber f)) (e.2.relabel (renumber f)) =
      (replaceAt origin new e.2).relabel (renumber f)) :
    replaceEntries origin' (new.relabel (renumber f)) (fs.relabel (renumber f)) =
      Fields.relabel (renumber f) (replaceEntries origin new fs) := by
  induction fs with
  | nil => rfl
  | cons e fs ih =>
    obtain ⟨k, v⟩ := e
    obtain ⟨hv, hfs⟩ := List.forall_mem_cons.mp h
    rw [Fields.relabel_cons, replaceEntries, replaceEntries, hv, ih hfs, Fields.relabel_cons]

/-- Mappings of one place stay mappings of one place. -/
theorem replaceAt_renumber (hf : Function.Injective f) (m : Mark) (new : Fields) (v : Value) :
    replaceAt (m.origin.renumber f) (new.relabel (renumber f)) (v.relabel (renumber f)) =
      (replaceAt m.origin new v).relabel (renumber f) := by
  induction v using Value.induct with
  | scalar s mark => simp [replaceAt]
  | list items mark ih =>
    rw [Value.relabel_list, replaceAt, replaceAt, replaceItems_eq, replaceItems_eq, Value.relabel_list, List.map_map,
      List.map_map]
    exact congrArg (Value.list · _) (List.map_congr_left ih)
  | map fs mark ih =>
    rw [Value.relabel_map, replaceAt, replaceAt, any_renumber hf, replaceEntries_renumber_of ih]
    split <;> exact (Value.relabel_map _ _ mark).symm

theorem setMetadata_renumber (hf : Function.Injective f) (fs metadata : Fields) (mark : Option Mark) :
    setMetadata (fs.relabel (renumber f)) (metadata.relabel (renumber f)) ((renumber f).mark mark) =
      (setMetadata fs metadata mark).relabel (renumber f) := by
  cases mark with
  | none =>
    rw [Relabeling.mark_none, setMetadata, setMetadata, ← Fields.set_relabel, Value.relabel_map]
    rfl
  | some m => exact replaceEntries_renumber_of fun e _ => replaceAt_renumber hf m metadata e.2

theorem statedKind_renumber (fs : Fields) :
    statedKind (fs.relabel (renumber f)) = (statedKind fs).relabel (renumber f) := by
  unfold statedKind
  rw [Fields.get_relabel]
  dsimp only
  rw [isVacant_renumber]
  split
  · exact (Value.relabel_null _).symm
  · rfl

theorem fill_renumber_of {v : Value} (h : v.Unnumbered) (fs : Fields) (name : String) :
    fill (fs.relabel (renumber f)) name v = (fill fs name v).relabel (renumber f) := by
  rw [← fill_renumber, h f]

theorem unnumbered_impliedKind (info : Classification) : (impliedKind info).Unnumbered := by
  intro f
  unfold impliedKind
  cases info.kind <;> simp

theorem nameMetadata_renumber (hf : Function.Injective f) {name : Value} (h : name.Unnumbered) (filename : String)
    (fs : Fields) :
    nameMetadata filename name (fs.relabel (renumber f)) =
      (nameMetadata filename name fs).map (Fields.relabel (renumber f)) := by
  unfold nameMetadata
  rw [Fields.get_relabel]
  cases Fields.get fs "metadata" with
  | scalar s mark =>
    cases s with
    | null =>
      have hnew : (Value.ofFields (fill [] "name" name)).relabel (renumber f) = .ofFields (fill [] "name" name) := by
        rw [Value.relabel_ofFields, ← fill_renumber_of h, Fields.relabel_nil]
      refine congrArg Except.ok ?_
      rw [← Fields.set_relabel, hnew]
    | _ => simp [Except.map, Value.kindName]
  | list items mark => simp [Except.map, Value.kindName]
  | map metadata mark =>
    rw [Value.relabel_map]
    refine congrArg Except.ok ?_
    rw [fill_renumber_of h, setMetadata_renumber hf]

/-- Enriching gets along with other numbers, if different ones stay different. -/
theorem enrich_renumber (hf : Function.Injective f) {versions : Versions} (hv : versions.Unnumbered)
    (info : Classification) (filename defaultName : String) (fs : Fields) :
    enrich versions info filename defaultName (fs.relabel (renumber f)) =
      (enrich versions info filename defaultName fs).map (Fields.relabel (renumber f)) := by
  have hkind := unnumbered_impliedKind info
  have hdecide : (impliedKind info).orElse ((statedKind fs).relabel (renumber f)) =
      ((impliedKind info).orElse (statedKind fs)).relabel (renumber f) := by
    rw [← Value.orElse_relabel, hkind f]
  rw [enrich_eq, enrich_eq, statedKind_renumber, Value.isNull_relabel, hdecide, Versions.apiVersion_relabel]
  split
  · rfl
  · cases hversion : versions.apiVersion ((impliedKind info).orElse (statedKind fs)) with
    | error e => rfl
    | ok version =>
      have hname := Value.unnumbered_ofString (nameFor info defaultName)
      change nameMetadata filename _ _ = (nameMetadata filename _ _).map _
      rw [fill_renumber_of hkind, fill_renumber_of (hv.of_apiVersion hversion), nameMetadata_renumber hf hname]

/-! ## Reading -/

theorem ofJson_renumber (path : String) (text : List Char) :
    (ofJson path text).map (Value.relabel (renumber f)) = ofJson path text := by
  unfold ofJson
  split
  · exact congrArg Except.ok (Value.relabel_null _)
  · cases h : Json.read text with
    | ok v => exact congrArg Except.ok (Json.relabel_read h)
    | error p => rfl

def valueOf (document : Nat) (path extension : String) (text : List Char) : Except Failure Value :=
  if Text.lower extension == "json" then ofJson path text
  else (Yaml.readOne (.styled document) text).mapError (Yaml.Fault.failure (.unparsable path .badYaml))

def entriesOf (path : String) : Value → Except Failure Fields
  | .map fs _ => .ok fs
  | .scalar .null _ => .ok []
  | v => .error (.unparsable path (.notMapping v.kindName))

theorem ofText_eq (document : Nat) (path extension : String) (text : List Char) :
    ofText document path extension text = valueOf document path extension text >>= entriesOf path := by
  unfold ofText valueOf
  dsimp only
  split <;> rfl

theorem valueOf_renumber (f : Nat → Nat) (document : Nat) (path extension : String) (text : List Char) :
    valueOf (f document) path extension text =
      (valueOf document path extension text).map (Value.relabel (renumber f)) := by
  have hyaml : Yaml.readOne (.styled (f document)) text =
      (Yaml.readOne (.styled document) text).map (Value.relabel (renumber f)) :=
    Yaml.readOne_renumber f (.styled document) text
  unfold valueOf
  split
  · exact (ofJson_renumber path text).symm
  · rw [hyaml, mapError_map]

theorem entriesOf_renumber (path : String) (v : Value) :
    entriesOf path (v.relabel (renumber f)) = (entriesOf path v).map (Fields.relabel (renumber f)) := by
  cases v with
  | scalar s mark => cases s <;> simp [entriesOf, Except.map, Value.kindName]
  | list items mark => simp [entriesOf, Except.map, Value.kindName]
  | map fs mark => simp [entriesOf, Except.map]

theorem ofText_renumber (f : Nat → Nat) (document : Nat) (path extension : String) (text : List Char) :
    ofText (f document) path extension text =
      (ofText document path extension text).map (Fields.relabel (renumber f)) := by
  rw [ofText_eq, ofText_eq, valueOf_renumber]
  exact map_bind_map fun v => entriesOf_renumber path v

theorem ofFile_renumber (f : Nat → Nat) (files : Files) (document : Nat) (path : Path) (extension : String) :
    ofFile files (f document) path extension =
      (ofFile files document path extension).map (Fields.relabel (renumber f)) := by
  unfold ofFile
  cases files.read path with
  | error fault => cases fault <;> rfl
  | ok bytes =>
    dsimp only
    cases Text.decode? bytes with
    | none => rfl
    | some text => exact ofText_renumber f document _ extension _

theorem enrichFile_renumber (hf : Function.Injective f) (files : Files) (kinds : KindTable) {versions : Versions}
    (hv : versions.Unnumbered) (defaultName : String) (document : Nat) (path : Path) :
    enrichFile files kinds versions defaultName (f document) path =
      (enrichFile files kinds versions defaultName document path).map (Fields.relabel (renumber f)) := by
  unfold enrichFile
  cases Classification.ofFilename kinds path.name with
  | error e => rfl
  | ok info =>
    rw [ok_bind, ok_bind, ofFile_renumber]
    exact map_bind_map fun fs => enrich_renumber hf hv info path.name defaultName fs

end Fragment

/-- The resource in a fragment is the same up to the number of its document. -/
theorem Collection.readResource_renumber (hf : Function.Injective f) (files : Files) {context : Fragment.Context}
    (hv : context.versions.Unnumbered) (document : Nat) (path : Path) :
    readResource files context (f document) path =
      (readResource files context document path).map (Resource.renumber f) := by
  unfold readResource
  rw [Fragment.enrichFile_renumber hf files context.kinds hv]
  refine map_bind_map fun fs => ?_
  rw [Resource.ofFields_renumber]
  cases Resource.ofFields fs <;> rfl

end KubeManifest
