import KubeManifest.Proofs.Fragment.Identity

/-!
# Enriching again

An enriched fragment has all that enriching supplies, so enriching it again changes nothing, whatever the file name, the
versions and the default name are then.

* `Fragment.Settled` : fragments that have all that enriching supplies;
* `Fragment.Settled.enrich` : they stay as they are;
* `Fragment.enrich_enrich` : so does every enriched fragment.
-/

namespace KubeManifest.Fragment

open Value

variable {fs e header : Fields} {kind version : Option String} {name : String}

/-- A fragment that has all that enriching supplies, and the mapping of its metadata wherever it is mentioned. -/
structure Settled (e : Fields) : Prop where
  kind : ∃ s, (Fields.get e "kind").text? = some s ∧ Text.isBlankText s = false
  version : isVacant (Fields.get e "apiVersion") = false
  metadata : ∃ ms mark, Fields.get e "metadata" = .map ms mark ∧ isVacant (Fields.get ms "name") = false ∧
    setMetadata e ms mark = e

/-- Nothing is vacant, so nothing is filled. -/
theorem Settled.enrich (h : Settled e) (versions : Versions) (info : Classification) (filename defaultName : String) :
    Fragment.enrich versions info filename defaultName e = .ok e := by
  obtain ⟨s, hkind, hs⟩ := h.kind
  obtain ⟨ms, mark, hmetadata, hname, hset⟩ := h.metadata
  have hgiven : isVacant (Fields.get e "kind") = false := (isVacant_of_text? hkind).trans hs
  have hscalar : ((impliedKind info).orElse (statedKind e)).isScalar = true := by
    have himplied : (impliedKind info).isScalar = true := by
      unfold impliedKind
      cases info.kind <;> rfl
    have hstated : (statedKind e).isScalar = true := by
      obtain ⟨style, m, hv⟩ := text?_eq_some_iff.mp hkind
      unfold statedKind
      dsimp only
      rw [hgiven, hv]
      rfl
    unfold Value.orElse
    split
    · exact himplied
    · exact hstated
  obtain ⟨version, hversion, -⟩ := versions.exists_apiVersion hscalar
  rw [enrich_eq, if_neg (by rw [hasKind_iff.mp (.inr hgiven)]; decide), hversion, fill_of_not_isVacant hgiven]
  change nameMetadata filename _ (fill e "apiVersion" version) = .ok e
  rw [fill_of_not_isVacant h.version]
  unfold nameMetadata
  rw [hmetadata]
  exact congrArg Except.ok ((fill_of_not_isVacant hname _).symm ▸ hset)

theorem isVacant_name_fill (hname : Text.isBlankText name = false) (ms : Fields) :
    isVacant (Fields.get (fill ms "name" (.ofString name)) "name") = false :=
  (filled_fill (v := .ofString name) fun _ => ⟨name, rfl, hname⟩).given

theorem Titled.exists_kind (h : Titled kind version fs header) :
    ∃ s, (Fields.get header "kind").text? = some s ∧ Text.isBlankText s = false := by
  obtain ⟨s, hs⟩ := h.kindText
  exact ⟨s, hs, (isVacant_of_text? hs).symm.trans h.kind.given⟩

theorem Titled.settled_set (h : Titled kind version fs header) (hname : Text.isBlankText name = false) (ms : Fields) :
    Settled (Fields.set header "metadata" (.ofFields (fill ms "name" (.ofString name)))) where
  kind := by
    rw [Fields.get_set_ne _ _ (by decide)]
    exact h.exists_kind
  version := by
    rw [Fields.get_set_ne _ _ (by decide)]
    exact h.version.given
  metadata := ⟨_, none, Fields.get_set_self _ _ _, isVacant_name_fill hname ms, Fields.set_set _ _ _ _⟩

theorem Titled.settled_replace (h : Titled kind version fs header) (hname : Text.isBlankText name = false) {ms : Fields}
    {mark : Mark} (hms : Fields.get header "metadata" = .map ms (some mark)) :
    Settled (replaceEntries mark.origin (fill ms "name" (.ofString name)) header) where
  kind := by
    obtain ⟨s, hs, hblank⟩ := h.exists_kind
    exact ⟨s, by rw [get_replaceEntries, text?_replaceAt, hs], hblank⟩
  version := by
    rw [get_replaceEntries, isVacant_replaceAt]
    exact h.version.given
  metadata := by
    refine ⟨_, some mark, ?_, isVacant_name_fill hname ms, replaceEntries_replaceEntries _ _ _⟩
    rw [get_replaceEntries, hms, replaceAt, if_pos (by simp)]

theorem Titled.settled {filename : String} (h : Titled kind version fs header) (hname : Text.isBlankText name = false)
    (he : nameMetadata filename (.ofString name) header = .ok e) : Settled e := by
  unfold nameMetadata at he
  split at he
  · obtain rfl := Except.ok.inj he
    exact h.settled_set hname []
  · rename_i ms mark hms
    obtain rfl := Except.ok.inj he
    cases mark with
    | none => exact h.settled_set hname ms
    | some m => exact h.settled_replace hname hms
  · cases he

/-- **Enriching again changes nothing**, whatever is enriched with the second time. -/
theorem enrich_enrich {kinds : KindTable} (hkinds : ∀ m ∈ kinds.mappings, Text.isBlankText m.2 = false)
    {info : Classification} {filename : String} (hinfo : Classification.ofFilename kinds filename = .ok info)
    {versions : Versions} (hversions : versions.Given) {defaultName : String}
    (hdefault : Text.isBlankText defaultName = false) (htext : TextKind fs)
    (h : enrich versions info filename defaultName fs = .ok e) (versions' : Versions) (info' : Classification)
    (filename' defaultName' : String) : enrich versions' info' filename' defaultName' e = .ok e := by
  have hkind : HasKind info fs := by
    refine Classical.byContradiction fun hnot => ?_
    rw [enrich_of_not_hasKind hnot] at h
    cases h
  obtain ⟨version, header, -, htitled, henrich⟩ := enrich_of_hasKind filename defaultName
    (Classification.isBlankText_kind hkinds hinfo) hversions htext hkind
  rw [henrich] at h
  exact (htitled.settled (isBlankText_nameFor info hdefault) h).enrich versions' info' filename' defaultName'

/-- A map that is taken for a service then, without a version. -/
theorem enrich_enrich_service :
    ∃ e, enrich {} ⟨some "a", some "cm", "yml", some "ConfigMap"⟩ "a-cm.yml" "foo"
        [(.ofString "data", .ofFields [])] = .ok e ∧
      enrich ⟨.null, .null, .null⟩ ⟨some "b", some "svc", "yml", some "Service"⟩ "b-svc.yml" "" e = .ok e := by
  have hinfo : Classification.ofFilename .standard "a-cm.yml" =
      .ok ⟨some "a", some "cm", "yml", some "ConfigMap"⟩ := rfl
  have hdefault : Text.isBlankText "foo" = false := rfl
  have htext : TextKind [(.ofString "data", .ofFields [])] := .inl rfl
  exact ⟨_, rfl, enrich_enrich KindTable.isBlankText_standard hinfo Versions.given_default hdefault htext rfl _ _ _ _⟩

end KubeManifest.Fragment
