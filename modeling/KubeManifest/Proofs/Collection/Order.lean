import KubeManifest.Proofs.Collection.Sorted
import KubeManifest.Proofs.Fragment.Renumber
import KubeManifest.Proofs.Manifest.Renumber
import Mathlib.Logic.Equiv.Basic

/-!
# The order of the fragments

A resource names the number of its fragment in its marks, and nothing else of its place among the fragments.

* `Collection.exists_renumbering` : other numbers make the numbered fragments of one order those of another;
* `Collection.sorted_renumber`, `Collection.toFields?_renumber`, `Exportable.text_renumber` : a collection is sorted,
  exported and written the same way under other numbers;
* `Collection.ofPaths_perm` : fragments in another order make the same resources, and the same manifest if their kinds
  and names differ.
-/

namespace KubeManifest

namespace Collection

/-! ## Other numbers -/

/-- Fragments in another order have other numbers. Those before `k` are out of use. -/
theorem exists_renumbering {α : Type} {xs xs' : List α} (h : xs.Perm xs') (k : Nat) :
    ∃ σ : Equiv.Perm Nat, (∀ n < k, σ n = n) ∧ (xs'.zipIdx k).Perm ((xs.zipIdx k).map fun e => (e.1, σ e.2)) := by
  induction h generalizing k with
  | nil => exact ⟨Equiv.refl Nat, fun _ _ => rfl, .nil⟩
  | cons x _ ih =>
    obtain ⟨σ, hσ, hperm⟩ := ih (k + 1)
    refine ⟨σ, fun n hn => hσ n (Nat.lt_succ_of_lt hn), ?_⟩
    rw [List.zipIdx_cons, List.zipIdx_cons, List.map_cons, hσ k (Nat.lt_succ_self k)]
    exact hperm.cons _
  | swap x y l =>
    have hrest : (l.zipIdx (k + 1 + 1)).map (fun e => (e.1, Equiv.swap k (k + 1) e.2)) = l.zipIdx (k + 1 + 1) := by
      refine map_eq_self fun e he => Prod.ext rfl (Equiv.swap_apply_of_ne_of_ne ?_ ?_)
      all_goals
        have hle := List.le_snd_of_mem_zipIdx he
        omega
    refine ⟨Equiv.swap k (k + 1), fun n hn => Equiv.swap_apply_of_ne_of_ne (by omega) (by omega), ?_⟩
    simp only [List.zipIdx_cons, List.map_cons, Equiv.swap_apply_left, Equiv.swap_apply_right, hrest]
    exact .swap _ _ _
  | trans _ _ ih ih' =>
    obtain ⟨σ, hσ, hperm⟩ := ih k
    obtain ⟨τ, hτ, hperm'⟩ := ih' k
    refine ⟨σ.trans τ, fun n hn => by rw [Equiv.trans_apply, hσ n hn, hτ n hn], ?_⟩
    have hmap := hperm.map fun e => (e.1, τ e.2)
    rw [List.map_map] at hmap
    exact hperm'.trans hmap

def renumber (f : Nat → Nat) (c : Collection) : Collection :=
  ⟨c.items.map (Resource.renumber f)⟩

variable (f : Nat → Nat) (c : Collection)

theorem sorted_renumber : (c.renumber f).sorted = c.sorted.map (Resource.renumber f) := by
  refine (List.map_mergeSort fun a _ b _ => ?_).symm
  rw [Resource.sortKey_renumber, Resource.sortKey_renumber]

theorem toFields?_renumber : (c.renumber f).toFields? = c.toFields?.map (Fields.relabel (.renumber f)) := by
  rw [toFields?, toFields?, sorted_renumber, mapM_map_of_map (Resource.toValue?_renumber f)]
  refine map_bind_map fun items => congrArg Except.ok ?_
  simp

end Collection

namespace Exportable

variable {f : Nat → Nat}

theorem tree_renumber (c : Collection) :
    (collection (c.renumber f)).tree = (collection c).tree.map (Fields.relabel (.renumber f)) := by
  rw [tree, tree, source, source, Collection.toFields?_renumber]
  exact map_bind_map fun fs => congrArg Except.ok (Manifest.arrange_relabel _ fs)

theorem text_renumber (hf : Function.Injective f) (c : Collection) (format : String) :
    (collection (c.renumber f)).text format = (collection c).text format := by
  rw [text, text, tree_renumber]
  cases (collection c).tree with
  | error e => rfl
  | ok fs =>
    change (Format.ofText format >>= fun format => format.write (fs.relabel (.renumber f))) =
      (Format.ofText format >>= fun format => format.write fs)
    simp only [Format.write_renumber hf]

end Exportable

namespace Collection

variable {files : Files} {context : Fragment.Context} {paths paths' : List Path}

theorem ofPaths_eq_ok_iff {c : Collection} :
    ofPaths files context paths = .ok c ↔
      paths.zipIdx.mapM (fun e => readResource files context e.2 e.1) = .ok c.items := by
  rw [ofPaths, bind_eq_ok]
  constructor
  · rintro ⟨rs, hrs, h⟩
    exact Except.ok.inj h ▸ hrs
  · exact fun h => ⟨c.items, h, rfl⟩

/-- Fragments that can be read can be read in another order. -/
theorem exists_ofPaths_of_perm (hv : context.versions.Unnumbered) (h : paths.Perm paths') {c : Collection}
    (hc : ofPaths files context paths = .ok c) :
    ∃ (c' : Collection) (σ : Equiv.Perm Nat), ofPaths files context paths' = .ok c' ∧
      (c.renumber σ).items.Perm c'.items := by
  obtain ⟨σ, -, hperm⟩ := exists_renumbering h 0
  have hread : (paths.zipIdx.map fun e => (e.1, σ e.2)).mapM (fun e => readResource files context e.2 e.1) =
      (paths.zipIdx.mapM fun e => readResource files context e.2 e.1).map (List.map (Resource.renumber σ)) :=
    mapM_map_of_map (fun e => readResource_renumber σ.injective files hv e.2 e.1) paths.zipIdx
  rw [ofPaths_eq_ok_iff.mp hc] at hread
  obtain ⟨rs, hrs, hitems⟩ := mapM_ok_of_perm hperm.symm hread
  exact ⟨⟨rs⟩, σ, ofPaths_eq_ok_iff.mpr hrs, hitems⟩

/-- Where kinds and names differ, the order of the resources does not show. -/
theorem sorted_eq_of_renumber {c c' : Collection} {f : Nat → Nat} (h : (c.renumber f).items.Perm c'.items)
    (hkeys : (c.items.map Resource.sortKey).Nodup) : c'.sorted = (c.renumber f).sorted := by
  refine (sorted_eq_of_perm h ?_).symm
  have hkeys' : (c.renumber f).items.map Resource.sortKey = c.items.map Resource.sortKey := by
    simp [renumber, Function.comp_def]
  exact hkeys' ▸ hkeys

/-- Resources that are the same but for their order and the numbers of their documents make the same manifest but for
these numbers, and the same texts. -/
theorem sameManifest_of_renumber {c c' : Collection} {f : Nat → Nat} (hf : f.Injective)
    (h : (c.renumber f).items.Perm c'.items) (hkeys : (c.items.map Resource.sortKey).Nodup) :
    c'.toFields? = c.toFields?.map (Fields.relabel (.renumber f)) ∧
      (Exportable.collection c').tree = (Exportable.collection c).tree.map (Fields.relabel (.renumber f)) ∧
      ∀ format, (Exportable.collection c').text format = (Exportable.collection c).text format := by
  have hsorted := sorted_eq_of_renumber h hkeys
  have hfields : c'.toFields? = (c.renumber f).toFields? := by rw [toFields?, hsorted, ← toFields?]
  have htree : (Exportable.collection c').tree = (Exportable.collection (c.renumber f)).tree := by
    rw [Exportable.tree, Exportable.tree, Exportable.source, Exportable.source, hfields]
  have htext : ∀ format,
      (Exportable.collection c').text format = (Exportable.collection (c.renumber f)).text format := by
    intro format
    rw [Exportable.text, Exportable.text, htree]
  exact ⟨hfields.trans (toFields?_renumber f c), htree.trans (Exportable.tree_renumber c),
    fun format => (htext format).trans (Exportable.text_renumber hf c format)⟩

/-- **The order in which fragments are read does not matter.** In every order there is a resource that cannot be read,
or the resources are the same, but for their order and the numbers of the documents in their marks. If their kinds and
names differ, the list object and the exported tree are the same but for these numbers, and so is every text. -/
theorem ofPaths_perm (hv : context.versions.Unnumbered) (h : paths.Perm paths') :
    (∃ e e', ofPaths files context paths = .error e ∧ ofPaths files context paths' = .error e') ∨
      ∃ (c c' : Collection) (σ : Equiv.Perm Nat),
        ofPaths files context paths = .ok c ∧ ofPaths files context paths' = .ok c' ∧
        (c.items.map (Resource.renumber σ)).Perm c'.items ∧
        ((c.items.map Resource.sortKey).Nodup →
          c'.toFields? = c.toFields?.map (Fields.relabel (.renumber σ)) ∧
          (Exportable.collection c').tree = (Exportable.collection c).tree.map (Fields.relabel (.renumber σ)) ∧
          ∀ format, (Exportable.collection c').text format = (Exportable.collection c).text format) := by
  cases hc : ofPaths files context paths with
  | error e =>
    cases hc' : ofPaths files context paths' with
    | error e' => exact .inl ⟨e, e', rfl, rfl⟩
    | ok c' =>
      obtain ⟨c, -, hread, -⟩ := exists_ofPaths_of_perm hv h.symm hc'
      rw [hc] at hread
      cases hread
  | ok c =>
    obtain ⟨c', σ, hc', hitems⟩ := exists_ofPaths_of_perm hv h hc
    exact .inr ⟨c, c', σ, rfl, hc', hitems, sameManifest_of_renumber σ.injective hitems⟩

/-- A service before a configuration and after it. Each mentions a text of its own under one name. -/
theorem ofPaths_perm_of_two :
    let files : Files := { contents := [
      (["work", "web-svc.yml"], "a: &t x\nb: *t\n".toUTF8), (["work", "web-cm.yml"], "a: &t y\nb: *t\n".toUTF8)] }
    let context : Fragment.Context := { defaultName := "app" }
    let paths := [Path.ofText "web-svc.yml", Path.ofText "web-cm.yml"]
    context.versions.Unnumbered ∧ paths.Perm paths.reverse ∧
      ∃ (c c' : Collection) (σ : Equiv.Perm Nat),
        ofPaths files context paths = .ok c ∧ ofPaths files context paths.reverse = .ok c' ∧
        c.items.map Resource.sortKey = [("Service", "web"), ("ConfigMap", "web")] ∧
        (c.items.map (Resource.renumber σ)).Perm c'.items ∧
        c'.toFields? = c.toFields?.map (Fields.relabel (.renumber σ)) ∧
        (Exportable.collection c').tree = (Exportable.collection c).tree.map (Fields.relabel (.renumber σ)) ∧
        ∀ format, (Exportable.collection c').text format = (Exportable.collection c).text format := by
  intro files context paths
  have hv : context.versions.Unnumbered :=
    ⟨Value.unnumbered_ofString _, Value.unnumbered_ofString _, Value.unnumbered_ofString _⟩
  have hperm : paths.Perm paths.reverse := paths.reverse_perm.symm
  have hkeys : (ofPaths files context paths).toOption.map (fun c => c.items.map Resource.sortKey) =
      some [("Service", "web"), ("ConfigMap", "web")] := by decide +kernel
  refine ⟨hv, hperm, ?_⟩
  rcases ofPaths_perm hv hperm with ⟨e, e', he, -⟩ | ⟨c, c', σ, hc, hc', hitems, hsame⟩
  · rw [he] at hkeys
    cases hkeys
  · rw [hc] at hkeys
    have hkeys : c.items.map Resource.sortKey = _ := Option.some.inj hkeys
    exact ⟨c, c', σ, hc, hc', hkeys, hitems, hsame (hkeys ▸ by decide)⟩

end Collection
end KubeManifest
