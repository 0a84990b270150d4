import KubeManifest.Proofs.Model.Projection
import KubeManifest.Proofs.Resource.Rewrite

/-!
# Reading and writing is a projection

What is written for a resource can be read again, and the same is written for it: the header comes first, metadata
and pods come out as their layouts say, and the specification of the pods goes back to the place it was taken from.

* `Resource.rewriteBody_rewriteBody` : the entries beside the header;
* `Resource.rewrite_rewrite` : all entries;
* `Resource.read_toValue?` : so it is with every mapping that can be read and written.
-/

namespace KubeManifest

theorem Fields.erase_of_find?_eq_none {fs : Fields} {name : String} (h : find? fs name = none) :
    erase fs name = fs := by
  rw [erase, List.filter_eq_self]
  intro e he
  rw [Bool.not_eq_true']
  exact find?_eq_none_iff.mp h e he

namespace Resource

/-! ## The other entries -/

theorem find?_plain_of_isBody {body : Fields} (hb : IsBody body) {name : String} (hname : name ∈ Value.wellKnown) :
    Fields.find? (Fields.plain body) name = Fields.find? body name := by
  rw [Fields.find?_plain_of_mem hb.distinct hname]
  cases h : Fields.find? body name with
  | none => rfl
  | some v => rw [Option.map_some, (hb.of_find? h).plain_eq]

/-- Where a specification was set without its pods, setting it again makes no difference. -/
theorem LeftOf.set_left {kind : Value} {body rest rest' : Fields} {v : Value} (h : LeftOf kind body rest)
    (h' : LeftOf kind (Fields.set (Fields.plain rest) "spec" v) rest') :
    Fields.set rest' "spec" v = Fields.set (Fields.plain rest) "spec" v := by
  cases hk : kind.isText "Pod" with
  | true =>
    -- the specification of a pod was erased, and comes last both times
    have hnone : Fields.find? (Fields.plain rest) "spec" = none := by
      rw [find?_plain_of_isBody h.toIsBody (by decide), h.pod hk, Fields.find?_erase_self]
    rw [h'.pod hk, Fields.erase_set, Fields.erase_of_find?_eq_none hnone]
  | false =>
    obtain ⟨u, rfl⟩ := h'.controller hk
    rw [Fields.set_set, Fields.set_set]

/-- Entries that were written come out the same. -/
theorem rewriteBody_rewriteBody {kind : Value} {body out : Fields} (hb : IsBody body)
    (h : rewriteBody kind body = some out) : rewriteBody kind out = some out := by
  have hplain := rewriteBody_isPlain hb h
  rcases rewriteBody_cases hb h with ⟨hno, rfl⟩ | ⟨spec, pods, mark, w, rest, -, hpods, hleft, hw, rfl⟩
  · have hspec : Fields.find? (Fields.plain body) "spec" = Fields.find? body "spec" :=
      find?_plain_of_isBody hb (by decide)
    rw [← hspec] at hno
    rw [rewriteBody_of_none hno, hplain.plain_eq]
  · obtain ⟨ps, rfl⟩ := Layout.exists_ofFields hw
    obtain ⟨rest', hleft', heq⟩ := rewriteBody_of_pods ⟨hplain.distinct, hplain.values⟩
      (Fields.find?_set_self _ _ _) (hpods.withPods ps none)
    rw [heq, Layout.write_write (by decide) hw, Option.map_some, (hleft'.isPlain hplain).plain_eq,
      hpods.withPods_withPods, hleft.set_left hleft']

/-! ## All entries -/

theorem bodyOf_manifest {apiVersion kind metadata : Value} {body : Fields} (hb : body.IsPlain)
    (hno : Headless body) :
    bodyOf (manifest apiVersion kind metadata body) = body := by
  rw [bodyOf, except_manifest hno, hb.plainValues_eq]

/-- What was written for a resource comes out the same when it is read and written again. -/
theorem rewrite_rewrite {fs out : Fields} (hd : Fields.Distinct fs) (h : rewrite fs = some out) :
    rewrite out = some out := by
  rw [rewrite, Option.bind_eq_bind, Option.bind_eq_some_iff] at h
  obtain ⟨metadata, hmeta, h⟩ := h
  rw [Option.bind_eq_bind, Option.bind_eq_some_iff] at h
  obtain ⟨body, hbody, h⟩ := h
  obtain rfl : manifest _ _ metadata body = out := Option.some.inj h
  have hb := isBody_bodyOf hd
  have hno := Headless.rewriteBody hb hbody (headless_bodyOf _)
  rw [Value.withFields, Option.bind_eq_some_iff] at hmeta
  obtain ⟨ms, -, hmeta⟩ := hmeta
  obtain ⟨ps, rfl⟩ := Layout.exists_ofFields hmeta
  have hmetadata : metadataOf (manifest (Fields.get fs "apiVersion") (Fields.get fs "kind") (.ofFields ps) body) =
      .ofFields ps := by
    cases ps <;> rfl
  have hagain : (Value.ofFields ps).withFields ObjectMeta.layout.write = some (.ofFields ps) :=
    Layout.write_write (by decide) hmeta
  rw [rewrite, hmetadata, hagain, bodyOf_manifest (rewriteBody_isPlain hb hbody) hno]
  change (rewriteBody (Fields.get fs "kind") body).bind _ = _
  rw [rewriteBody_rewriteBody hb hbody]
  rfl

theorem toOption_read (fs : Fields) (mark : Option Mark) :
    (read (.map fs mark) >>= toValue?).toOption = (rewrite fs).map .ofFields := by
  rw [← toOption_ofFields]
  change (ofFields fs >>= toValue?).toOption = _
  cases ofFields fs with
  | error e => rfl
  | ok r =>
    rw [ok_bind, ok_bind, toValue?]
    cases r.toFields? <;> rfl

/-- **The typed conversion is a projection.** For every mapping that can be read as a resource and written, what was
written can be read and written again, and comes out the same, with its keys in the same order at every level. -/
theorem read_toValue? {fs : Fields} {mark : Option Mark} {y : Value} (hd : Fields.Distinct fs)
    (h : (read (.map fs mark) >>= toValue?) = .ok y) : (read y >>= toValue?) = .ok y := by
  rw [← toOption_eq_some, toOption_read, Option.map_eq_some_iff] at h
  obtain ⟨out, hout, rfl⟩ := h
  rw [← toOption_eq_some, toOption_read, rewrite_rewrite hd hout, Option.map_some]

/-- A pod whose specification stands first is written with it at the end. An empty list of ports, a probe without
entries and labels that are null are not written, and unknown keys follow the known ones. -/
theorem read_toValue?_pod :
    let container : Value := .ofFields [(.ofInt 7, .ofString "x"), (.ofString "name", .ofString "app"),
      (.ofString "ports", .ofList []), (.ofString "livenessProbe", .ofFields [(.ofString "exec", .ofFields [])]),
      (.ofString "image", .null)]
    let fs : Fields := [(.ofString "spec", .ofFields [(.ofString "dnsPolicy", .ofString "None"),
        (.ofString "containers", .ofList [container])]), (.ofString "status", .ofFields [(.ofInt 1, .null)]),
      (.ofString "kind", .ofString "Pod"), (.ofString "metadata", .ofFields [(.ofString "uid", .ofInt 3),
        (.ofString "labels", .null), (.ofString "name", .ofString "a")])]
    let written : Value := .ofFields [(.ofString "apiVersion", .null), (.ofString "kind", .ofString "Pod"),
      (.ofString "metadata", .ofFields [(.ofString "name", .ofString "a"), (.ofString "uid", .ofInt 3)]),
      (.ofString "status", .ofFields [(.ofString "1", .null)]),
      (.ofString "spec", .ofFields [(.ofString "containers", .ofList [.ofFields [(.ofString "name", .ofString "app"),
        (.ofString "7", .ofString "x")]]), (.ofString "dnsPolicy", .ofString "None")])]
    Fields.Distinct fs ∧ (read (.ofFields fs) >>= toValue?) = .ok written ∧
      (read written >>= toValue?) = .ok written := by
  intro container fs written
  have hd : Fields.Distinct fs := by decide
  have h : (read (.ofFields fs) >>= toValue?) = .ok written := by rfl
  exact ⟨hd, h, read_toValue? hd h⟩

end Resource

end KubeManifest
