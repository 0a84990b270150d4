import KubeManifest.Manifest.Tree
import KubeManifest.Proofs.Model.Renumber

/-!
# Resources of documents with other numbers

* `Resource.renumber` : a resource whose documents have other numbers;
* `Resource.sortKey_renumber` : its kind and name as texts are the same;
* `Resource.ofFields_renumber`, `Resource.toFields?_renumber` : it is read and written the same way.
-/

namespace KubeManifest

open Relabeling (renumber)

theorem Workload.ofKind?_relabel (ρ : Relabeling) (kind : Value) : ofKind? (kind.relabel ρ) = ofKind? kind := by
  simp [ofKind?]

namespace Resource

def renumber (f : Nat → Nat) (r : Resource) : Resource where
  kind := r.kind.relabel (.renumber f)
  apiVersion := r.apiVersion.relabel (.renumber f)
  metadata := r.metadata.renumber f
  body := r.body.relabel (.renumber f)
  podSpec := r.podSpec.map (PodSpec.renumber f)

variable (f : Nat → Nat)

@[simp] theorem sortKey_renumber (r : Resource) : (r.renumber f).sortKey = r.sortKey := by
  have htext : ∀ v : Value,
      ((v.relabel (.renumber f)).orElse (.ofString "")).display = (v.orElse (.ofString "")).display := by
    intro v
    rw [← Value.relabel_ofString (.renumber f) "", Value.orElse_relabel, Value.display_renumber, Value.relabel_ofString]
  exact Prod.ext (htext r.kind) (htext r.metadata.name)

/-! ## Reading -/

theorem takePodSpec_relabel (ρ : Relabeling) (kind : Value) (body : Fields) :
    takePodSpec (kind.relabel ρ) (body.relabel ρ) =
      ((takePodSpec kind body).1.map (Value.relabel ρ), (takePodSpec kind body).2.relabel ρ) := by
  unfold takePodSpec
  rw [Fields.find?_relabel, Value.isText_relabel, Workload.ofKind?_relabel]
  cases Fields.find? body "spec" with
  | none => rfl
  | some spec =>
    cases spec with
    | scalar s mark => simp
    | list items mark => simp
    | map spec mark =>
      simp only [Option.map_some, Value.relabel_map, Fields.find?_relabel]
      split
      · simp [Fields.erase_relabel]
      · split
        · rfl
        · cases Fields.find? spec "template" with
          | none => rfl
          | some template =>
            cases template with
            | scalar s mark => simp
            | list items mark => simp
            | map template mark =>
              simp only [Option.map_some, Value.relabel_map, Fields.find?_relabel]
              cases Fields.find? template "spec" with
              | none => rfl
              | some pods =>
                cases pods with
                | scalar s mark => simp
                | list items mark => simp
                | map pods mark => simp [Fields.erase_relabel, ← Fields.set_relabel]

theorem ofFields_renumber (fs : Fields) : ofFields (fs.relabel (.renumber f)) = (ofFields fs).map (renumber f) := by
  have hmeta : ((Fields.get fs "metadata").relabel (.renumber f)).orElse (.ofFields []) =
      ((Fields.get fs "metadata").orElse (.ofFields [])).relabel (.renumber f) :=
    Value.orElse_relabel (.renumber f) _ (.ofFields [])
  unfold ofFields
  rw [Fields.get_relabel, Fields.get_relabel, Fields.get_relabel, hmeta, ObjectMeta.renumbers.read]
  refine map_bind_map fun metadata => ?_
  rw [Fields.except_relabel, Fields.plainValues_renumber, takePodSpec_relabel]
  have hdefault : (metadata.map (ObjectMeta.renumber f)).getD {} = (metadata.getD {}).renumber f := by
    cases metadata <;> simp [ObjectMeta.renumber]
  rw [hdefault]
  rcases takePodSpec (Fields.get fs "kind") (Fields.plainValues (Fields.except fs headerNames)) with ⟨pods, body⟩
  cases pods with
  | none => rfl
  | some v =>
    dsimp only [Option.map_some]
    rw [PodSpec.renumbers.read]
    exact map_bind_map fun podSpec => rfl

/-! ## Writing -/

theorem putPodSpec_relabel (ρ : Relabeling) (kind : Value) (body : Fields) (pods : Value) :
    putPodSpec (kind.relabel ρ) (body.relabel ρ) (pods.relabel ρ) =
      (putPodSpec kind body pods).map (Fields.relabel ρ) := by
  have hdefault : ∀ (fs : Fields) (name : String), ((Fields.find? fs name).map (Value.relabel ρ)).getD (.ofFields []) =
      ((Fields.find? fs name).getD (.ofFields [])).relabel ρ := by
    intro fs name
    cases Fields.find? fs name <;> simp
  unfold putPodSpec
  rw [Value.isText_relabel, Fields.find?_relabel, hdefault]
  split
  · rw [Fields.set_relabel]
    rfl
  · cases (Fields.find? body "spec").getD (.ofFields []) with
    | scalar s mark => simp [Except.map]
    | list items mark => simp [Except.map]
    | map spec mark =>
      simp only [Value.relabel_map, Fields.find?_relabel, hdefault]
      cases (Fields.find? spec "template").getD (.ofFields []) with
      | scalar s mark => simp [Except.map]
      | list items mark => simp [Except.map]
      | map template mark => simp [Except.map, ← Fields.set_relabel]

theorem withHeader_renumber (apiVersion kind metadata : Value) (body : Fields) :
    withHeader (apiVersion.relabel (.renumber f)) (kind.relabel (.renumber f)) (metadata.relabel (.renumber f))
        (body.relabel (.renumber f)) =
      Fields.relabel (.renumber f) (withHeader apiVersion kind metadata body) := by
  have hvalue : ∀ (name : String) (v : Value),
      (Fields.find? (body.relabel (.renumber f)) name).getD (v.relabel (.renumber f)) =
        ((Fields.find? body name).getD v).relabel (.renumber f) := fun name v => by
    rw [Fields.find?_relabel]
    cases Fields.find? body name <;> rfl
  rw [withHeader, withHeader, Fields.except_relabel]
  simp only [hvalue]
  simp

theorem toFields?_renumber (r : Resource) :
    (r.renumber f).toFields? = r.toFields?.map (Fields.relabel (.renumber f)) := by
  have hheader : ∀ body : Fields, withHeader (r.apiVersion.relabel (.renumber f)) (r.kind.relabel (.renumber f))
      (r.metadata.renumber f).toValue (body.relabel (.renumber f)) =
      Fields.relabel (.renumber f) (withHeader r.apiVersion r.kind r.metadata.toValue body) := fun body => by
    rw [ObjectMeta.renumbers.toValue f r.metadata, withHeader_renumber]
  unfold toFields?
  rw [renumber, Fields.plain_renumber]
  cases r.podSpec with
  | none => exact congrArg Except.ok (hheader _)
  | some pods =>
    dsimp only [Option.map_some]
    rw [PodSpec.renumbers.write]
    refine map_bind_map fun pods => ?_
    rw [putPodSpec_relabel]
    exact map_bind_map fun body => congrArg Except.ok (hheader body)

theorem toValue?_renumber (r : Resource) : (r.renumber f).toValue? = r.toValue?.map (Value.relabel (.renumber f)) := by
  rw [toValue?, toValue?, toFields?_renumber]
  exact map_bind_map fun fs => congrArg Except.ok (Value.relabel_ofFields _ fs).symm

end Resource
end KubeManifest
