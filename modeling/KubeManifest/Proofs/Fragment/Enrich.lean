import KubeManifest.Fragment.Enrich
import KubeManifest.Proofs.Value.Paths

/-!
# What enriching supplies

* `Value.Alike` : equal scalars, two lists, or two mappings;
* `Value.Coherent` : a value in which all mappings of one origin have the same entries;
* `Fragment.enrich_eq` : enriching as a kind, a version, and then metadata with a name;
* `Fragment.Supplied` : the places that enriching fills: kind, version, and the metadata with their name;
* `Fragment.Enriched.alike` : at all other places an enriched fragment looks like the fragment;
* `Fragment.Enriched.regular_of_header` : what is not supplied has texts as keys and no gaps if the fragment has.
-/

namespace KubeManifest

namespace Value

/-! ## Alike values -/

/-- Equal scalars, two lists, or two mappings. -/
inductive Alike : Value → Value → Prop
  | scalar (s : Scalar) (mark : Option Mark) : Alike (.scalar s mark) (.scalar s mark)
  | list (xs ys : List Value) (mark mark' : Option Mark) : Alike (.list xs mark) (.list ys mark')
  | map (fs gs : Fields) (mark mark' : Option Mark) : Alike (.map fs mark) (.map gs mark')

/-- Whether two values look alike at a place. -/
def AlikeAt (v w : Value) (path : List Step) : Prop :=
  Option.Rel Alike (v.at? path) (w.at? path)

theorem Alike.refl (v : Value) : Alike v v := by
  cases v with
  | scalar s mark => exact .scalar s mark
  | list xs mark => exact .list xs xs mark mark
  | map fs mark => exact .map fs fs mark mark

variable {v w : Value} {path : List Step}

theorem AlikeAt.of_eq (h : v.at? path = w.at? path) : AlikeAt v w path := by
  rw [AlikeAt, h]
  cases w.at? path with
  | none => exact .none
  | some x => exact .some (Alike.refl x)

theorem AlikeAt.scalar {s : Scalar} {mark : Option Mark} (h : AlikeAt v w path)
    (hv : v.at? path = some (.scalar s mark)) : w.at? path = some (.scalar s mark) := by
  rw [AlikeAt, hv] at h
  generalize w.at? path = y at h
  cases h with
  | some h =>
    cases h
    rfl

theorem AlikeAt.map {fs : Fields} {mark : Option Mark} (h : AlikeAt v w path)
    (hv : v.at? path = some (.map fs mark)) :
    ∃ gs mark', w.at? path = some (.map gs mark') := by
  rw [AlikeAt, hv] at h
  generalize w.at? path = y at h
  cases h with
  | some h =>
    cases h
    exact ⟨_, _, rfl⟩

theorem AlikeAt.of_some {y : Value} (h : AlikeAt v w path) (hw : w.at? path = some y) :
    ∃ x, v.at? path = some x ∧ Alike x y := by
  rw [AlikeAt, hw] at h
  generalize v.at? path = x at h
  cases h with
  | some h => exact ⟨_, rfl, h⟩

/-! ## Origins -/

/-- Whether all mappings of an origin in a value have these entries. -/
def Mentions (origin : Origin) (ms : Fields) (v : Value) : Prop :=
  ∀ path fs mark, v.at? path = some (.map fs (some mark)) → mark.origin = origin → fs = ms

/-- Whether all mappings of one origin in a value have the same entries. -/
def Coherent (v : Value) : Prop :=
  ∀ path fs mark, v.at? path = some (.map fs (some mark)) → Mentions mark.origin fs v

/-- Whether a place is that of the name in a mapping of an origin. -/
def IsNameOf (origin : Origin) (v : Value) (path : List Step) : Prop :=
  ∃ q fs mark, path = q ++ [.key "name"] ∧ v.at? q = some (.map fs (some mark)) ∧ mark.origin = origin

theorem Mentions.part {origin : Origin} {ms : Fields} {step : Step} (h : Mentions origin ms v)
    (hw : v.at? [step] = some w) : Mentions origin ms w := by
  intro path fs mark hpath
  refine h (step :: path) fs mark ?_
  have happend := at?_append v [step] path
  rw [hw] at happend
  exact happend.trans hpath

theorem IsNameOf.of_part {origin : Origin} {step : Step} (hw : v.at? [step] = some w) (h : IsNameOf origin w path) :
    IsNameOf origin v (step :: path) := by
  obtain ⟨q, fs, mark, rfl, hq, ho⟩ := h
  refine ⟨step :: q, fs, mark, rfl, ?_, ho⟩
  have happend := at?_append v [step] q
  rw [hw] at happend
  exact happend.trans hq

/-- What was not read from a document is mentioned once. -/
theorem IsPlain.coherent (h : v.IsPlain) : v.Coherent := by
  intro path fs mark hat
  have hplain := h.textual.at?_plain path
  rw [h.plain_eq, hat, Option.map_some, plain, Option.some.injEq, Value.map.injEq] at hplain
  cases hplain.2

end Value

namespace Fragment

open Value

/-! ## Filling -/

section fill

variable {fs : Fields} {name other : String} {v : Value}

theorem at?_of_isNull {mark : Option Mark} (h : (Fields.get fs name).isNull = true) (step : Step)
    (path : List Step) :
    at? (.map fs mark) (.key name :: step :: path) = none := by
  rw [at?_key]
  rw [Fields.get] at h
  cases hf : Fields.find? fs name with
  | none => rfl
  | some v =>
    rw [hf] at h
    obtain ⟨m, hm⟩ := isNull_iff.mp h
    obtain rfl : v = .scalar .null m := hm
    cases step <;> rfl

theorem fill_eq (fs : Fields) (name : String) (v : Value) : fill fs name v =
    if isVacant (Fields.get fs name) then Fields.set fs name (inPlaceOf (Fields.get fs name) v) else fs := rfl

theorem fill_of_not_isVacant (h : isVacant (Fields.get fs name) = false) (v : Value) : fill fs name v = fs := by
  rw [fill_eq, h]
  rfl

theorem find?_fill_ne (h : name ≠ other) : Fields.find? (fill fs name v) other = Fields.find? fs other := by
  rw [fill_eq]
  split
  · exact Fields.find?_set_ne fs _ h
  · rfl

theorem find?_fill_of_isVacant (h : isVacant (Fields.get fs name) = true) :
    Fields.find? (fill fs name v) name = some (inPlaceOf (Fields.get fs name) v) := by
  rw [fill_eq, if_pos h]
  exact Fields.find?_set_self fs name _

theorem keyed_fill (h : fs.Keyed) (name : String) (v : Value) : (fill fs name v).Keyed := by
  rw [fill_eq]
  split
  · exact h.set name _
  · exact h

theorem exists_scalar_of_isVacant {v : Value} (h : isVacant v = true) : ∃ s mark, v = .scalar s mark := by
  cases v with
  | scalar s mark => exact ⟨s, mark, rfl⟩
  | _ => cases h

theorem exists_inPlaceOf_ofString (old : Value) (s : String) :
    ∃ style, inPlaceOf old (.ofString s) = .scalar (.text s style) none := by
  unfold inPlaceOf
  split
  · rename_i h
    cases h
    exact ⟨_, rfl⟩
  · exact ⟨_, rfl⟩

/-- What a filled mapping holds looks alike, but for the entry that was filled. -/
theorem fill_alike (fs : Fields) (name s : String) (mark mark' : Option Mark) (path : List Step) :
    AlikeAt (.map fs mark) (.map (fill fs name (.ofString s)) mark') path ∨
      path = [.key name] ∧ isVacant (Fields.get fs name) = true := by
  cases path with
  | nil => exact .inl (.some (.map fs _ mark mark'))
  | cons step path =>
    cases step with
    | item i => exact .inl .none
    | key other =>
      by_cases hne : name = other
      · subst hne
        cases hv : isVacant (Fields.get fs name) with
        | false =>
          rw [fill_of_not_isVacant hv]
          exact .inl (.of_eq rfl)
        | true =>
          cases path with
          | nil => exact .inr ⟨rfl, rfl⟩
          | cons step path =>
            -- below a scalar there are no places
            have hbelow : ∀ s mark, at? (.scalar s mark) (step :: path) = none := fun _ _ => by cases step <;> rfl
            refine .inl (.of_eq (Eq.trans (b := none) ?_ ?_))
            · obtain ⟨s, mark, hs⟩ := exists_scalar_of_isVacant hv
              rw [Fields.get] at hs
              rw [at?_key]
              cases hf : Fields.find? fs name with
              | none => rfl
              | some v =>
                obtain rfl : v = _ := by simpa [hf] using hs
                exact hbelow _ _
            · obtain ⟨style, hstyle⟩ := exists_inPlaceOf_ofString (Fields.get fs name) s
              rw [at?_of_find? (find?_fill_of_isVacant hv), hstyle]
              exact (hbelow _ _).symm
      · refine .inl (.of_eq ?_)
        rw [at?_key, at?_key, find?_fill_ne hne]

theorem all_isVacant_of_get {mark : Option Mark} (h : isVacant (Fields.get fs name) = true) :
    (at? (.map fs mark) [.key name]).all isVacant = true := by
  rw [at?_key]
  rw [Fields.get] at h
  cases hf : Fields.find? fs name with
  | none => rfl
  | some x =>
    rw [hf] at h
    simpa [at?] using h

theorem regular_fill {mark : Option Mark} (h : Regular (.map fs mark)) (name s : String) (mark' : Option Mark) :
    Regular (.map (fill fs name (.ofString s)) mark') := by
  rw [fill_eq]
  split
  · obtain ⟨style, hstyle⟩ := exists_inPlaceOf_ofString (Fields.get fs name) s
    rw [hstyle]
    exact h.set name (.scalar _ _) mark'
  · exact .map h.keyed (fun e he => h.of_mem_map he) mark'

end fill

/-! ## Other metadata wherever they are mentioned -/

section replace

variable {origin : Origin} {ms new : Fields}

theorem replaceItems_eq (origin : Origin) (new : Fields) (items : List Value) :
    replaceItems origin new items = items.map (replaceAt origin new) := by
  induction items with
  | nil => rfl
  | cons x xs ih => rw [replaceItems, ih, List.map_cons]

theorem replaceEntries_eq (origin : Origin) (new : Fields) (fs : Fields) :
    replaceEntries origin new fs = fs.map fun e => (e.1, replaceAt origin new e.2) := by
  induction fs with
  | nil => rfl
  | cons e fs ih =>
    obtain ⟨k, v⟩ := e
    rw [replaceEntries, ih, List.map_cons]

theorem map_fst_replaceEntries (origin : Origin) (new fs : Fields) :
    (replaceEntries origin new fs).map Prod.fst = fs.map Prod.fst := by
  rw [replaceEntries_eq, List.map_map]
  rfl

theorem find?_replaceEntries (origin : Origin) (new fs : Fields) (name : String) :
    Fields.find? (replaceEntries origin new fs) name = (Fields.find? fs name).map (replaceAt origin new) := by
  rw [replaceEntries_eq]
  exact Fields.find?_map_value _ fs name

/-- What stands below two places at which parts look alike. -/
theorem alikeAt_bind {x y : Option Value} {path : List Step} {P : Prop}
    (h : Option.Rel (fun v w => AlikeAt v w path ∨ P) x y) :
    Option.Rel Alike (x.bind fun v => v.at? path) (y.bind fun w => w.at? path) ∨ P := by
  cases h with
  | none => exact .inl .none
  | some h => exact h

theorem replaceAt_alike {v : Value} (hv : Mentions origin ms v) (s : String) (path : List Step) :
    AlikeAt v (replaceAt origin (fill ms "name" (.ofString s)) v) path ∨
      IsNameOf origin v path ∧ (v.at? path).all isVacant = true := by
  induction path generalizing v with
  | nil =>
    left
    cases v with
    | scalar s mark => exact .some (.scalar s mark)
    | list items mark => exact .some (.list _ _ _ _)
    | map fs mark =>
      rw [replaceAt]
      split <;> exact .some (.map _ _ _ _)
  | cons step path ih =>
    have hpart : ∀ x, v.at? [step] = some x →
        AlikeAt x (replaceAt origin (fill ms "name" (.ofString s)) x) path ∨
          IsNameOf origin v (step :: path) ∧ (v.at? (step :: path)).all isVacant = true := by
      intro x hx
      refine (ih (hv.part hx)).imp_right fun ⟨hname, hvacant⟩ => ⟨hname.of_part hx, ?_⟩
      have happend := at?_append v [step] path
      rw [hx] at happend
      rw [← hvacant]
      exact congrArg _ happend
    cases v with
    | scalar s mark => exact .inl (.of_eq rfl)
    | list items mark =>
      cases step with
      | key name => exact .inl .none
      | item i =>
        rw [replaceAt, replaceItems_eq, AlikeAt, at?_item, at?_item, List.getElem?_map]
        refine alikeAt_bind ?_
        cases hx : items[i]? with
        | none => exact .none
        | some x =>
          have halike := hpart x (by rw [at?_of_getElem? hx, at?_nil])
          rw [at?_of_getElem? hx] at halike
          exact .some halike
    | map fs mark =>
      rw [replaceAt]
      split
      · rename_i hmark
        obtain ⟨m, rfl, ho⟩ : ∃ m, mark = some m ∧ m.origin = origin := by
          cases mark with
          | none => cases hmark
          | some m => exact ⟨m, rfl, by simpa using hmark⟩
        obtain rfl : fs = ms := hv [] fs m rfl ho
        refine (fill_alike fs "name" s _ _ (step :: path)).imp_right fun ⟨hpath, hvacant⟩ => ?_
        rw [hpath]
        exact ⟨⟨[], fs, m, rfl, rfl, ho⟩, all_isVacant_of_get hvacant⟩
      · cases step with
        | item i => exact .inl .none
        | key name =>
          rw [AlikeAt, at?_key, at?_key, find?_replaceEntries]
          refine alikeAt_bind ?_
          cases hx : Fields.find? fs name with
          | none => exact .none
          | some x =>
            have halike := hpart x (by rw [at?_of_find? hx, at?_nil])
            rw [at?_of_find? hx] at halike
            exact .some halike

theorem isNull_replaceAt (origin : Origin) (new : Fields) (v : Value) :
    (replaceAt origin new v).isNull = v.isNull := by
  cases v with
  | scalar s mark => rfl
  | list items mark => rfl
  | map fs mark =>
    rw [replaceAt]
    split <;> rfl

theorem replaceAt_eq_nil {v : Value} {mark : Option Mark} (h : replaceAt origin new v = .list [] mark) :
    v = .list [] mark := by
  cases v with
  | scalar s mark => exact h
  | list items mark =>
    cases items with
    | nil => exact h
    | cons x xs => cases h
  | map fs mark =>
    rw [replaceAt] at h
    split at h <;> cases h

theorem regular_replaceAt (hnew : Regular (.map new none)) {v : Value} (h : v.Regular) :
    (replaceAt origin new v).Regular := by
  induction v using Value.induct with
  | scalar s mark => exact h
  | list items mark ih =>
    rw [replaceAt, replaceItems_eq]
    have hitems : ∀ y ∈ items.map (replaceAt origin new), y.Regular := by
      intro y hy
      obtain ⟨x, hx, rfl⟩ := List.mem_map.mp hy
      exact ih x hx (h.of_mem_list hx)
    refine ⟨.list fun y hy => (hitems y hy).textual, .list (fun y hy => ?_) fun y hy => (hitems y hy).solid⟩
    obtain ⟨x, hx, rfl⟩ := List.mem_map.mp hy
    rw [isNull_replaceAt]
    cases h.solid with
    | list written hs => exact ⟨(written x hx).1, fun m hm => (written x hx).2 m (replaceAt_eq_nil hm)⟩
  | map fs mark ih =>
    rw [replaceAt]
    split
    · exact .map hnew.keyed (fun e he => hnew.of_mem_map he) mark
    · refine .map (h.keyed.of_map_fst (map_fst_replaceEntries _ _ _)) (fun e he => ?_) mark
      rw [replaceEntries_eq] at he
      obtain ⟨e', he', rfl⟩ := List.mem_map.mp he
      exact ih e' he' (h.of_mem_map he')

end replace

/-! ## Enriching -/

/-- The kind that a file name implies, null if it implies none. -/
def impliedKind (info : Classification) : Value :=
  (info.kind.map Value.ofString).getD .null

def nameMetadata (filename : String) (name : Value) (fs : Fields) : Except Failure Fields :=
  match Fields.get fs "metadata" with
  | .scalar .null _ => .ok (Fields.set fs "metadata" (.ofFields (fill [] "name" name)))
  | .map metadata mark => .ok (setMetadata fs (fill metadata "name" name) mark)
  | v => .error (.badMetadata filename v.kindName)

theorem enrich_eq (versions : Versions) (info : Classification) (filename defaultName : String) (fs : Fields) :
    enrich versions info filename defaultName fs =
      if (impliedKind info).isNull && (statedKind fs).isNull then .error (.noKind filename)
      else (versions.apiVersion ((impliedKind info).orElse (statedKind fs))).mapError .misfit >>= fun version =>
        nameMetadata filename (.ofString (nameFor info defaultName))
          (fill (fill fs "kind" (impliedKind info)) "apiVersion" version) := by
  unfold enrich
  by_cases h : ((impliedKind info).isNull && (statedKind fs).isNull) = true
  · exact (if_pos h).trans (if_pos h).symm
  · exact (if_neg h).trans (if_neg h).symm

/-- Whether a place is that of the name in the metadata, wherever their mapping is mentioned. -/
def NamesMetadata (fs : Fields) (path : List Step) : Prop :=
  path = [.key "metadata", .key "name"] ∨
    ∃ ms mark, Fields.get fs "metadata" = .map ms (some mark) ∧ IsNameOf mark.origin (.ofFields fs) path

/-- The places that enriching fills. -/
inductive Supplied (fs : Fields) : List Step → Prop
  | header {name : String} {path : List Step} (hname : name = "kind" ∨ name = "apiVersion")
      (h : isVacant (Fields.get fs name) = true) : Supplied fs (.key name :: path)
  | metadata (h : (Fields.get fs "metadata").isNull = true) : Supplied fs [.key "metadata"]
  | name {path : List Step} (h : NamesMetadata fs path)
      (hv : (at? (.ofFields fs) path).all isVacant = true) : Supplied fs path

/-- Entries that hold what a fragment holds, but for a kind and version that are vacant there. -/
structure Headed (fs header : Fields) : Prop where
  find? : ∀ name, isVacant (Fields.get fs name) = false ∨ name ≠ "kind" ∧ name ≠ "apiVersion" →
    Fields.find? header name = Fields.find? fs name
  keyed : fs.Keyed → header.Keyed

/-- The entries of an enriched fragment: the metadata are new, or their mapping is another one, there or wherever it
is mentioned. -/
inductive Enriched (fs : Fields) (name : String) (e : Fields) : Prop
  | absent (header : Fields) (hheader : Headed fs header) (hnull : (Fields.get fs "metadata").isNull = true)
      (he : e = Fields.set header "metadata" (.ofFields (fill [] "name" (.ofString name))))
  | unmarked (header ms : Fields) (hheader : Headed fs header) (hmap : Fields.get fs "metadata" = .ofFields ms)
      (he : e = Fields.set header "metadata" (.ofFields (fill ms "name" (.ofString name))))
  | marked (header ms : Fields) (mark : Mark) (hheader : Headed fs header)
      (hmap : Fields.get fs "metadata" = .map ms (some mark))
      (he : e = replaceEntries mark.origin (fill ms "name" (.ofString name)) header)

theorem find?_fill_of {fs : Fields} {name other : String}
    (h : isVacant (Fields.get fs other) = false ∨ name ≠ other) (v : Value) :
    Fields.find? (fill fs name v) other = Fields.find? fs other := by
  by_cases hne : name = other
  · subst hne
    rw [fill_of_not_isVacant (h.resolve_right (absurd rfl)) v]
  · exact find?_fill_ne hne

theorem headed_fill (fs : Fields) (kind version : Value) :
    Headed fs (fill (fill fs "kind" kind) "apiVersion" version) where
  find? name h := by
    have hkind : Fields.find? (fill fs "kind" kind) name = Fields.find? fs name :=
      find?_fill_of (h.imp_right fun h => h.1.symm) kind
    rw [find?_fill_of (by rw [Fields.get, hkind]; exact h.imp_right fun h => h.2.symm), hkind]
  keyed h := keyed_fill (keyed_fill h "kind" kind) "apiVersion" version

theorem enriched_of_enrich {versions : Versions} {info : Classification} {filename defaultName : String}
    {fs e : Fields}
    (h : enrich versions info filename defaultName fs = .ok e) : Enriched fs (nameFor info defaultName) e := by
  unfold enrich at h
  dsimp only at h
  split at h
  · cases h
  · cases hversion : versions.apiVersion (((info.kind.map Value.ofString).getD .null).orElse (statedKind fs)) with
    | error e =>
      rw [hversion] at h
      cases h
    | ok version =>
      have hlift : (liftM (Except.ok version : Except Misfit Value) : Except Failure Value) = .ok version := rfl
      rw [hversion, hlift] at h
      simp only [bind, Except.bind] at h
      have hheader := headed_fill fs ((info.kind.map Value.ofString).getD .null) version
      generalize fill (fill fs "kind" _) "apiVersion" version = header at h hheader
      have hmeta : Fields.get header "metadata" = Fields.get fs "metadata" := by
        rw [Fields.get, Fields.get, hheader.find? "metadata" (.inr (by decide))]
      rw [hmeta] at h
      split at h
      · rename_i hnull
        exact .absent header hheader (by rw [hnull]; rfl) (Except.ok.inj h).symm
      · rename_i ms mark hmap
        cases mark with
        | none => exact .unmarked header ms hheader hmap (Except.ok.inj h).symm
        | some mark => exact .marked header ms mark hheader hmap (Except.ok.inj h).symm
      · cases h

namespace Enriched

variable {fs e : Fields} {name : String}

/-- The metadata of an enriched fragment. -/
theorem metadata (h : Enriched fs name e) : ∃ ms mark, Fields.find? e "metadata" = some (.map ms mark) := by
  cases h with
  | absent header hheader hnull he =>
    rw [he, Fields.find?_set_self]
    exact ⟨_, _, rfl⟩
  | unmarked header ms hheader hmap he =>
    rw [he, Fields.find?_set_self]
    exact ⟨_, _, rfl⟩
  | marked header ms mark hheader hmap he =>
    have hfind : Fields.find? header "metadata" = some (.map ms (some mark)) := by
      rw [hheader.find? "metadata" (.inr (by decide))]
      exact Fields.find?_of_get hmap rfl
    rw [he, find?_replaceEntries, hfind, Option.map_some, replaceAt]
    split <;> exact ⟨_, _, rfl⟩

theorem keyed (h : Enriched fs name e) (hf : fs.Keyed) : e.Keyed := by
  cases h with
  | absent header hheader hnull he => exact he ▸ (hheader.keyed hf).set "metadata" _
  | unmarked header ms hheader hmap he => exact he ▸ (hheader.keyed hf).set "metadata" _
  | marked header ms mark hheader hmap he => exact he ▸ (hheader.keyed hf).of_map_fst (map_fst_replaceEntries _ _ _)

/-- Outside the metadata an entry that is set there does not count. -/
theorem alikeAt_set {header : Fields} (hheader : Headed fs header) {other : String}
    (hother : isVacant (Fields.get fs other) = false ∨ other ≠ "kind" ∧ other ≠ "apiVersion") (hne : other ≠ "metadata")
    (v : Value) (path : List Step) :
    AlikeAt (.ofFields fs) (.ofFields (Fields.set header "metadata" v)) (.key other :: path) := by
  refine .of_eq ?_
  rw [at?_key, at?_key, Fields.find?_set_ne _ _ hne.symm, hheader.find? other hother]

/-- New metadata. -/
theorem alikeAt_absent (header : Fields) (hnull : (Fields.get fs "metadata").isNull = true) (path : List Step) :
    AlikeAt (.ofFields fs) (.ofFields (Fields.set header "metadata" (.ofFields (fill [] "name" (.ofString name)))))
      (.key "metadata" :: path) ∨ Supplied fs (.key "metadata" :: path) := by
  cases path with
  | nil => exact .inr (.metadata hnull)
  | cons step path =>
    have hnone : at? (.ofFields fs) (.key "metadata" :: step :: path) = none := at?_of_isNull hnull step path
    have hempty : at? (.ofFields []) (step :: path) = none := by cases step <;> rfl
    rw [AlikeAt, hnone, ← hempty, at?_of_find? (Fields.find?_set_self _ _ _)]
    refine (fill_alike [] "name" name none none (step :: path)).imp_right ?_
    rintro ⟨hpath, -⟩
    rw [hpath] at hnone ⊢
    exact .name (.inl rfl) (by rw [hnone]; rfl)

/-- Metadata that are mentioned once. -/
theorem alikeAt_unmarked (header : Fields) {ms : Fields} (hmap : Fields.get fs "metadata" = .ofFields ms)
    (path : List Step) :
    AlikeAt (.ofFields fs) (.ofFields (Fields.set header "metadata" (.ofFields (fill ms "name" (.ofString name)))))
      (.key "metadata" :: path) ∨ Supplied fs (.key "metadata" :: path) := by
  have hat := at?_of_find? (Fields.find?_of_get hmap rfl) none
  rw [AlikeAt, hat, at?_of_find? (Fields.find?_set_self _ _ _)]
  refine (fill_alike ms "name" name none none path).imp_right ?_
  rintro ⟨rfl, hvacant⟩
  refine .name (.inl rfl) ?_
  rw [hat]
  exact all_isVacant_of_get hvacant

/-- Metadata that are replaced wherever they are mentioned. -/
theorem alikeAt_marked (hc : Coherent (.ofFields fs)) {header ms : Fields} {mark : Mark} (hheader : Headed fs header)
    (hmap : Fields.get fs "metadata" = .map ms (some mark)) {other : String}
    (hother : isVacant (Fields.get fs other) = false ∨ other ≠ "kind" ∧ other ≠ "apiVersion") (path : List Step) :
    AlikeAt (.ofFields fs)
      (.ofFields (replaceEntries mark.origin (fill ms "name" (.ofString name)) header)) (.key other :: path) ∨
      Supplied fs (.key other :: path) := by
  have hmentions : Mentions mark.origin ms (.ofFields fs) :=
    hc [.key "metadata"] ms mark (by rw [at?_of_find? (Fields.find?_of_get hmap rfl), at?_nil])
  rw [AlikeAt, at?_key, at?_key, find?_replaceEntries, hheader.find? other hother]
  refine alikeAt_bind ?_
  cases hx : Fields.find? fs other with
  | none => exact .none
  | some x =>
    have hpart : at? (.ofFields fs) [.key other] = some x := by rw [at?_of_find? hx, at?_nil]
    refine .some ((replaceAt_alike (hmentions.part hpart) name path).imp_right fun ⟨hname, hvacant⟩ => ?_)
    refine .name (.inr ⟨ms, mark, hmap, hname.of_part hpart⟩) ?_
    rw [at?_of_find? hx]
    exact hvacant

theorem alike_of_header (hc : Coherent (.ofFields fs)) (h : Enriched fs name e) {other : String}
    (hother : isVacant (Fields.get fs other) = false ∨ other ≠ "kind" ∧ other ≠ "apiVersion") (path : List Step) :
    AlikeAt (.ofFields fs) (.ofFields e) (.key other :: path) ∨ Supplied fs (.key other :: path) := by
  cases h with
  | absent header hheader hnull he =>
    subst he
    by_cases hne : other = "metadata"
    · exact hne ▸ alikeAt_absent header hnull path
    · exact .inl (alikeAt_set hheader hother hne _ path)
  | unmarked header ms hheader hmap he =>
    subst he
    by_cases hne : other = "metadata"
    · exact hne ▸ alikeAt_unmarked header hmap path
    · exact .inl (alikeAt_set hheader hother hne _ path)
  | marked header ms mark hheader hmap he => exact he ▸ alikeAt_marked hc hheader hmap hother path

theorem regular_of_header (h : Enriched fs name e) (hf : Regular (.ofFields fs)) {other : String}
    (hother : isVacant (Fields.get fs other) = false ∨ other ≠ "kind" ∧ other ≠ "apiVersion") :
    (Fields.get e other).Regular := by
  have hset : ∀ header v, Headed fs header → v.Regular →
      (Fields.get (Fields.set header "metadata" v) other).Regular := by
    intro header v hheader hv
    by_cases hne : other = "metadata"
    · rw [hne, Fields.get_set_self]
      exact hv
    · rw [Fields.get_set_ne _ _ (Ne.symm hne), Fields.get, hheader.find? other hother]
      exact hf.get other
  cases h with
  | absent header hheader hnull he =>
    have hnil : Regular (.ofFields []) := .map ⟨by simp, by decide⟩ (by simp) none
    exact he ▸ hset header _ hheader (regular_fill hnil "name" name none)
  | unmarked header ms hheader hmap he =>
    have hms : Regular (.ofFields ms) := by
      have hget := hf.get "metadata"
      rwa [hmap] at hget
    exact he ▸ hset header _ hheader (regular_fill hms "name" name none)
  | marked header ms mark hheader hmap he =>
    have hms : Regular (.map ms (some mark)) := hmap ▸ hf.get "metadata"
    rw [he, Fields.get, find?_replaceEntries, hheader.find? other hother]
    have hget := hf.get other
    rw [Fields.get] at hget
    cases hx : Fields.find? fs other with
    | none => exact .scalar _ _
    | some x =>
      rw [hx] at hget
      exact regular_replaceAt (regular_fill hms "name" name none) hget

/-- What stands at a place of an enriched fragment looks like what stands there in the fragment, unless enriching
fills that place. -/
theorem alike (hc : Coherent (.ofFields fs)) (h : Enriched fs name e) (path : List Step) :
    AlikeAt (.ofFields fs) (.ofFields e) path ∨ Supplied fs path := by
  cases path with
  | nil => exact .inl (.some (.map _ _ _ _))
  | cons step path =>
    cases step with
    | item i => exact .inl .none
    | key other =>
      by_cases hother : isVacant (Fields.get fs other) = false ∨ other ≠ "kind" ∧ other ≠ "apiVersion"
      · exact alike_of_header hc h hother path
      · rw [not_or, Bool.not_eq_false] at hother
        refine .inr (.header ?_ hother.1)
        by_cases hkind : other = "kind"
        · exact .inl hkind
        · exact .inr (Decidable.not_not.mp fun hversion => hother.2 ⟨hkind, hversion⟩)

end Enriched

end Fragment

end KubeManifest
