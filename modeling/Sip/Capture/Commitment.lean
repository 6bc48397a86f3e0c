import Sip.Capture.Package

/-!
# What a capture root commits to

The root hash covers the asset list, and every listed asset is read and compared
with its digest, so two accepted archives with one root agree on all listed members
unless SHA-256 collides on bytes that were hashed. Members that the manifest does
not list are never looked at.
-/

namespace Sip
namespace CapturePackage

set_option autoImplicit false

def members (file : PackageFile) : List ZipEntry := file.entries.getD []

/-- The bytes under a name: `none` without such a member, `some none` when it cannot be read. -/
def content? (file : PackageFile) (name : String) : Option (Option Bytes) :=
  ((members file).find? fun entry => entry.filename = name).map ZipEntry.content

section Reading
variable (py : PyRuntime)

def manifestFields (file : PackageFile) : Dict := ((manifest? py (members file)).bind Json.fields?).getD []

def manifestAssets (file : PackageFile) : List Json :=
  match (manifestFields py file).lookup "assets" with
  | some (.arr assets) => assets
  | _ => []

/-- The members that the manifest lists as assets. -/
def listedPaths (file : PackageFile) : List String :=
  (manifestAssets py file).filterMap fun asset => (assetPath asset).toOption

/-- The same members with the same bytes, the manifest apart. -/
def SameMembers (a b : PackageFile) : Prop := ∀ name, name ≠ "manifest.json" → content? a name = content? b name

/-- Agreement on the members that one of the manifests leaves out. -/
def SameUnlisted (a b : PackageFile) : Prop :=
  ∀ name, name ≠ "manifest.json" → name ∉ listedPaths py a ∨ name ∉ listedPaths py b → content? a name = content? b name

/-- What validation hashes for the root and for the assets. -/
def hashedBytes (file : PackageFile) : List Bytes :=
  canonicalJson (rootBody (manifestFields py file)) ::
    (listedPaths py file).filterMap fun path => (content? file path).join

/-- Two different byte strings, one hashed for each package, with one digest. -/
def ExhibitsCollision (a b : PackageFile) : Prop :=
  ∃ x ∈ hashedBytes py a, ∃ y ∈ hashedBytes py b, Sha256Collision x y

end Reading

section Accepted
variable {py : PyRuntime} {file : PackageFile}

theorem content?_of_readMember {name : String} {data : Bytes} (h : readMember (members file) name = .ok data) :
    content? file name = some (some data) := by
  simp only [readMember, bind_eq_ok, orRaise_eq_ok] at h
  obtain ⟨entry, hfind, hdata⟩ := h
  simp [content?, hfind, hdata]

theorem checkAsset_ok {entries : List ZipEntry} {asset : Json} {check : AssetCheck}
    (h : checkAsset entries asset = .ok check) : ∃ path payload, assetPath asset = .ok path ∧
      readMember entries path = .ok payload ∧ asset.item "sha256" = .ok (.str (sha256Hex payload)) := by
  simp only [checkAsset, bind_eq_ok, raiseIf_eq_ok] at h
  obtain ⟨path, hpath, _, _, payload, hread, valid, hvalid, _, htrue, _⟩ := h
  refine ⟨path, payload, hpath, hread, ?_⟩
  simp only [assetValid, bind_eq_ok] at hvalid
  obtain ⟨declared, hdeclared, hvalid⟩ := hvalid
  by_cases htext : declared.isText (sha256Hex payload) = true
  · rw [hdeclared, Json.isText_iff.mp htext]
  · rw [if_neg htext] at hvalid
    cases hvalid
    exact absurd rfl htrue

/-- What acceptance establishes about the manifest and the listed members. -/
structure Accepted (py : PyRuntime) (file : PackageFile) (report : Report) : Prop where
  distinct : (Json.obj (manifestFields py file)).Distinct
  assets : (manifestFields py file).lookup "assets" = some (.arr (manifestAssets py file))
  rootHash : report.rootHash = .str (canonicalSha256 (rootBody (manifestFields py file)))
  checked : ∀ asset ∈ manifestAssets py file, ∃ path payload, assetPath asset = .ok path ∧
    content? file path = some (some payload) ∧ asset.item "sha256" = .ok (.str (sha256Hex payload))

theorem manifest?_distinct {entries : List ZipEntry} {manifest : Json} (h : manifest? py entries = some manifest) :
    manifest.Distinct := by
  unfold manifest? at h
  split at h
  · exact py.loads_distinct _ _ h
  · cases h

theorem validateManifestShape_ok {manifest : Json} (h : validateManifestShape py manifest = .ok ()) :
    ∃ assets, manifest.item "assets" = .ok (.arr assets) := by
  simp only [validateManifestShape, bind_eq_ok, raiseIf_eq_ok] at h
  obtain ⟨_, _, _, _, _, _, _, _, _, _, assets, hassets, _, _, harr⟩ := h
  cases assets with
  | arr items => exact ⟨items, hassets⟩
  | _ => simp [Json.isArr] at harr

theorem checkHashes_ok {fields : Dict} {manifest : Json} {merkleEntries : List (String × String)}
    (h : checkHashes fields manifest merkleEntries = .ok ()) :
    manifest.item "root_hash" = .ok (.str (canonicalSha256 (rootBody fields))) := by
  simp only [checkHashes, bind_eq_ok, raiseIf_eq_ok, not_not] at h
  obtain ⟨_, _, _, _, _, _, _, _, root, hroot, htext⟩ := h
  rw [hroot, Json.isText_iff.mp htext]

theorem validateManifest_ok {entries : List ZipEntry} {manifest : Json} {report : Report}
    (h : validateManifest py file entries manifest = .ok report) :
    ∃ fields assets, manifest = .obj fields ∧ fields.lookup "assets" = some (.arr assets) ∧
      report.rootHash = .str (canonicalSha256 (rootBody fields)) ∧
      ∀ asset ∈ assets, ∃ check, checkAsset entries asset = .ok check := by
  simp only [validateManifest, bind_eq_ok, orRaise_eq_ok] at h
  obtain ⟨_, hshape, fields, hfields, value, hvalue, assets, hiter, checks, hchecks, _, _, _, hhashes, h⟩ := h
  obtain ⟨_, _, _, _, _, _, _, _, _, _, root, hroot, hreport⟩ := h
  obtain ⟨items, hitems⟩ := validateManifestShape_ok hshape
  obtain ⟨fields', rfl, hlookup⟩ := Json.item_eq_ok.mp hitems
  cases hfields
  rw [hvalue] at hitems
  cases hitems
  cases hiter
  rw [checkHashes_ok hhashes] at hroot
  cases hroot
  cases hreport
  exact ⟨fields, assets, rfl, hlookup, rfl, fun asset hmem => mapM_eq_ok_mem hchecks hmem⟩

theorem accepted_of_validate {report : Report} (h : validate py file = .ok report) : Accepted py file report := by
  simp only [validate, bind_eq_ok, orRaise_eq_ok] at h
  obtain ⟨entries, hentries, _, _, _, _, _, _, _, _, manifest, hmanifest, h⟩ := h
  obtain ⟨fields, assets, rfl, hassets, hroot, hchecked⟩ := validateManifest_ok h
  have hmembers : members file = entries := by simp [members, hentries]
  have hfields : manifestFields py file = fields := by
    simp [manifestFields, hmembers, hmanifest, Json.fields?]
  have hlist : manifestAssets py file = assets := by simp [manifestAssets, hfields, hassets]
  refine ⟨?_, ?_, ?_, ?_⟩
  · rw [hfields]
    exact manifest?_distinct hmanifest
  · rw [hfields, hlist, hassets]
  · rw [hroot, hfields]
  · intro asset hmem
    rw [hlist] at hmem
    obtain ⟨check, hcheck⟩ := hchecked asset hmem
    obtain ⟨path, payload, hpath, hread, hsha⟩ := checkAsset_ok hcheck
    exact ⟨path, payload, hpath, content?_of_readMember (hmembers ▸ hread), hsha⟩

end Accepted

section Commitment
variable {py : PyRuntime} {a b : PackageFile} {ra rb : Report}

theorem item_text_of_same {asset asset' : Json} (hsame : asset.normalize = asset'.normalize) (hd : asset.Distinct)
    (hd' : asset'.Distinct) {key text : String} (h : asset.item key = .ok (.str text)) :
    asset'.item key = .ok (.str text) := by
  obtain ⟨fields, rfl, hlookup⟩ := Json.item_eq_ok.mp h
  cases asset' with
  | obj fields' =>
    have hkey := Json.same_obj_lookup hd.1 hd'.1 hsame key
    rw [hlookup] at hkey
    cases hlookup' : fields'.lookup key with
    | none => simp [hlookup'] at hkey
    | some value =>
      rw [hlookup'] at hkey
      simp only [Option.map_some, Json.normalize_str, Option.some.injEq] at hkey
      exact Json.item_eq_ok.mpr ⟨fields', rfl, hlookup'.trans (by rw [Json.normalize_eq_str.mp hkey.symm])⟩
  | _ => simp [Json.normalize] at hsame

theorem assetPath_of_same {asset asset' : Json} (hsame : asset.normalize = asset'.normalize) (hd : asset.Distinct)
    (hd' : asset'.Distinct) {path : String} (h : assetPath asset = .ok path) : assetPath asset' = .ok path := by
  simp only [assetPath, bind_eq_ok, orRaise_eq_ok] at h ⊢
  obtain ⟨raw, hraw, value, hvalue, hsafe⟩ := h
  have hstr : raw = .str value := Json.isText_iff.mp (by simp [Json.isText, hvalue])
  subst hstr
  exact ⟨_, item_text_of_same hsame hd hd' hraw, value, rfl, hsafe⟩

theorem lookup_without {keys : List String} {key : String} (h : key ∉ keys) (fields : Dict) :
    (without keys fields).lookup key = fields.lookup key := by
  induction fields with
  | nil => rfl
  | cons field fields ih =>
    obtain ⟨k, v⟩ := field
    have ih' : (List.filter (fun field => decide (field.1 ∉ keys)) fields).lookup key = fields.lookup key := ih
    by_cases hk : key = k
    · subst hk
      simp [without, h]
    · have hbeq : (key == k) = false := by simpa using hk
      by_cases hmem : k ∈ keys
      · simpa [without, hmem, List.lookup_cons, hbeq] using ih'
      · simpa [without, hmem, List.lookup_cons, hbeq] using ih'

theorem nodup_without {keys : List String} {fields : Dict} (h : (fields.map Prod.fst).Nodup) :
    ((without keys fields).map Prod.fst).Nodup :=
  h.sublist (List.filter_sublist.map _)

theorem rootBody_mem_hashedBytes (file : PackageFile) :
    canonicalJson (rootBody (manifestFields py file)) ∈ hashedBytes py file := List.mem_cons_self

/-- Equal roots: the asset lists are the same JSON values, or the root documents collide. -/
theorem assets_of_rootHash_eq (ha : Accepted py a ra) (hb : Accepted py b rb) (hroot : ra.rootHash = rb.rootHash) :
    (manifestAssets py a).map Json.normalize = (manifestAssets py b).map Json.normalize ∨
      ExhibitsCollision py a b := by
  rw [ha.rootHash, hb.rootHash, Json.str.injEq] at hroot
  have hdigest := hex_injective hroot
  by_cases hbody : canonicalJson (rootBody (manifestFields py a)) = canonicalJson (rootBody (manifestFields py b))
  · have hassets := canonicalJson_obj_lookup (nodup_without ha.distinct.1) (nodup_without hb.distinct.1) hbody "assets"
    rw [lookup_without (by simp), lookup_without (by simp), ha.assets, hb.assets] at hassets
    simp only [Option.map_some, Option.some.injEq, Json.normalize, Json.arr.injEq, Json.normalizeItems_eq_map] at hassets
    exact .inl hassets
  · exact .inr ⟨_, rootBody_mem_hashedBytes a, _, rootBody_mem_hashedBytes b, hbody, hdigest⟩

theorem distinct_of_mem_assets (h : Accepted py a ra) {asset : Json} (hmem : asset ∈ manifestAssets py a) :
    asset.Distinct := by
  have harr := Json.Distinct.of_lookup h.distinct.2 h.assets
  exact Json.Distinct.of_mem_items harr hmem

theorem mem_listedPaths {name : String} :
    name ∈ listedPaths py a ↔ ∃ asset ∈ manifestAssets py a, assetPath asset = .ok name := by
  simp only [listedPaths, List.mem_filterMap]
  refine exists_congr fun asset => and_congr_right fun _ => ?_
  cases assetPath asset <;> simp [Except.toOption]

theorem payload_mem_hashedBytes {path : String} {payload : Bytes} (hlisted : path ∈ listedPaths py a)
    (hcontent : content? a path = some (some payload)) : payload ∈ hashedBytes py a := by
  apply List.mem_cons_of_mem
  apply List.mem_filterMap.mpr
  exact ⟨path, hlisted, by simp [hcontent]⟩

/-- A listed member has the same bytes in both packages, or its two contents collide. -/
theorem content?_of_listed (ha : Accepted py a ra) (hb : Accepted py b rb)
    (hassets : (manifestAssets py a).map Json.normalize = (manifestAssets py b).map Json.normalize)
    {name : String} (hlisted : name ∈ listedPaths py a) :
    content? a name = content? b name ∨ ExhibitsCollision py a b := by
  obtain ⟨asset, hmem, hpath⟩ := mem_listedPaths.mp hlisted
  -- the asset of the other manifest that stands at the same place
  have hmem' : asset.normalize ∈ (manifestAssets py b).map Json.normalize :=
    hassets ▸ List.mem_map.mpr ⟨asset, hmem, rfl⟩
  obtain ⟨asset', hasset', hsame⟩ := List.mem_map.mp hmem'
  have hd := distinct_of_mem_assets ha hmem
  have hd' := distinct_of_mem_assets hb hasset'
  have hpath' := assetPath_of_same hsame.symm hd hd' hpath
  obtain ⟨path, payload, hp, hcontent, hsha⟩ := ha.checked asset hmem
  obtain ⟨path', payload', hp', hcontent', hsha'⟩ := hb.checked asset' hasset'
  rw [hpath] at hp
  rw [hpath'] at hp'
  cases hp
  cases hp'
  have htext := item_text_of_same hsame.symm hd hd' hsha
  rw [hsha'] at htext
  simp only [Except.ok.injEq, Json.str.injEq] at htext
  by_cases hpayload : payload = payload'
  · exact .inl (by rw [hcontent, hcontent', hpayload])
  · refine .inr ⟨payload, payload_mem_hashedBytes hlisted hcontent, payload', ?_, hpayload, (hex_injective htext).symm⟩
    exact payload_mem_hashedBytes (mem_listedPaths.mpr ⟨asset', hasset', hpath'⟩) hcontent'

/-- Two accepted archives with one root hash have the same members with the same bytes, up to a collision
on bytes that were hashed, exactly when they agree on the members their manifests leave out. -/
theorem validate_root_commits_iff (py : PyRuntime) (a b : PackageFile) (ra rb : Report)
    (ha : validate py a = .ok ra) (hb : validate py b = .ok rb) (hroot : ra.rootHash = rb.rootHash) :
    SameMembers a b ∨ ExhibitsCollision py a b ↔ SameUnlisted py a b ∨ ExhibitsCollision py a b := by
  have haccepted := accepted_of_validate ha
  have hbaccepted := accepted_of_validate hb
  constructor
  · rintro (hsame | hcollision)
    · exact .inl fun name hname _ => hsame name hname
    · exact .inr hcollision
  · rintro (hunlisted | hcollision)
    · rcases assets_of_rootHash_eq haccepted hbaccepted hroot with hassets | hcollision
      · by_cases hcollision : ExhibitsCollision py a b
        · exact .inr hcollision
        · refine .inl fun name hname => ?_
          by_cases hlisted : name ∈ listedPaths py a
          · exact (content?_of_listed haccepted hbaccepted hassets hlisted).resolve_right hcollision
          · exact hunlisted name hname (.inl hlisted)
      · exact .inr hcollision
    · exact .inr hcollision

end Commitment

section Hollow

def semanticFields : Dict := [
  ("assets", .arr []), ("capture_id", .str "c1"), ("capture_source", .str "scanner"), ("frames", .arr []),
  ("schema_version", .str "1.0.0")]

def rootFields : Dict := [
  ("asset_merkle_root", .str (merkleRoot [])),
  ("assets", .arr []), ("capture_id", .str "c1"), ("capture_source", .str "scanner"), ("frames", .arr []),
  ("schema_version", .str "1.0.0"),
  ("semantic_hash", .str (canonicalSha256 (.obj semanticFields)))]

/-- A manifest without assets and frames, as its canonical text lists the keys. -/
def hollowFields : Dict := [
  ("asset_merkle_root", .str (merkleRoot [])),
  ("assets", .arr []), ("capture_id", .str "c1"), ("capture_source", .str "scanner"), ("frames", .arr []),
  ("root_hash", .str (canonicalSha256 (.obj rootFields))),
  ("schema_version", .str "1.0.0"),
  ("semantic_hash", .str (canonicalSha256 (.obj semanticFields)))]

def hollowText : Bytes := canonicalJson (.obj hollowFields)

/-- What the interpreter does with the texts of the hollow package. -/
def hollowRuntime : PyRuntime where
  loads data := if data = hollowText then some (.obj hollowFields) else none
  loads_distinct := by
    intro data value h
    split at h
    · cases h
      simp [Json.Distinct, Json.DistinctFields, Json.DistinctItems, hollowFields]
    · cases h
  str value := value.text?.getD ""
  intOfText text := if text = "1" then some 1 else none
  floatOfText _ := none

def hollowReport (bytes : Bytes) : Report where
  valid := true
  captureId := .str "c1"
  schemaVersion := .str "1.0.0"
  rootHash := .str (canonicalSha256 (.obj rootFields))
  assetCount := 0
  frameCount := 0
  archiveSha256 := sha256Hex bytes
  checks := []

theorem without_root : without ["root_hash"] hollowFields = rootFields := by
  simp [without, hollowFields, rootFields]

theorem without_hashes :
    without ["semantic_hash", "asset_merkle_root", "root_hash"] hollowFields = semanticFields := by
  simp [without, hollowFields, semanticFields]

theorem hollow_item {key : String} {value : Json} (h : hollowFields.lookup key = some value) :
    (Json.obj hollowFields).item key = .ok value := Json.item_eq_ok.mpr ⟨_, rfl, h⟩

theorem checkHashes_hollow : checkHashes hollowFields (.obj hollowFields) [] = .ok () := by
  simp only [checkHashes, bind_eq_ok]
  refine ⟨.str (canonicalSha256 (.obj semanticFields)), hollow_item (by simp [hollowFields, List.lookup_cons]), (),
    raiseIf_eq_ok.mpr ?_, .str (merkleRoot []), hollow_item (by simp [hollowFields]), (),
    raiseIf_eq_ok.mpr ?_, .str (canonicalSha256 (.obj rootFields)),
    hollow_item (by simp [hollowFields, List.lookup_cons]), raiseIf_eq_ok.mpr ?_⟩
  · rw [not_not, Json.isText_iff, without_hashes]
  · rw [not_not, Json.isText_iff]
  · rw [not_not, Json.isText_iff, rootBody, without_root]

theorem validateManifestShape_hollow : validateManifestShape hollowRuntime (.obj hollowFields) = .ok () := by
  have hmissing : missingKeys requiredFields (.obj hollowFields) = .ok [] := by
    simp [missingKeys, requiredFields, hollowFields, List.lookup_cons, sortedSet, distinctBy, sortBy]
  simp only [validateManifestShape, hmissing, bind_eq_ok, raiseIf_eq_ok, orRaise_eq_ok]
  exact ⟨[], rfl, (), by simp, .str "1.0.0", hollow_item (by simp [hollowFields, List.lookup_cons]), 1, rfl,
    (), by simp, .arr [], hollow_item (by simp [hollowFields, List.lookup_cons]), .arr [],
    hollow_item (by simp [hollowFields, List.lookup_cons]), by simp [Json.isArr]⟩

theorem validateManifest_hollow (file : PackageFile) (entries : List ZipEntry) :
    validateManifest hollowRuntime file entries (.obj hollowFields) = .ok (hollowReport file.bytes) := by
  have hempty : validateFrames hollowRuntime [] [] = .ok () := by
    simp [validateFrames, frameTimestamps, bind, Except.bind, raiseIf]
  simp only [validateManifest, bind_eq_ok, orRaise_eq_ok]
  exact ⟨(), validateManifestShape_hollow, hollowFields, rfl, .arr [],
    hollow_item (by simp [hollowFields, List.lookup_cons]), [], rfl, [], rfl, [], rfl, (), checkHashes_hollow,
    .arr [], hollow_item (by simp [hollowFields, List.lookup_cons]), [], rfl, (), hempty,
    _, hollow_item (by simp [hollowFields, List.lookup_cons]),
    _, hollow_item (by simp [hollowFields, List.lookup_cons]),
    _, hollow_item (by simp [hollowFields, List.lookup_cons]), rfl⟩

def manifestEntry : ZipEntry := ⟨"manifest.json", 344, 250, some hollowText⟩

def hiddenEntry : ZipEntry := ⟨"run.sh", 2, 2, some [58, 10]⟩

def hollowPackage : PackageFile := ⟨[80, 75, 5, 6], some [manifestEntry]⟩

def ridingPackage : PackageFile := ⟨[80, 75, 3, 4], some [manifestEntry, hiddenEntry]⟩

theorem manifest?_hollow (rest : List ZipEntry) :
    manifest? hollowRuntime (manifestEntry :: rest) = some (.obj hollowFields) := by
  simp [manifest?, readMember, manifestEntry, orRaise, hollowRuntime, bind, Except.bind]

theorem validate_hollowPackage : validate hollowRuntime hollowPackage = .ok (hollowReport [80, 75, 5, 6]) := by
  simp only [validate, bind_eq_ok, orRaise_eq_ok, raiseIf_eq_ok]
  exact ⟨[manifestEntry], rfl, (), rfl, (), by simp, (), rfl, (), by simp [manifestEntry], .obj hollowFields,
    manifest?_hollow _, validateManifest_hollow hollowPackage _⟩

theorem validate_ridingPackage : validate hollowRuntime ridingPackage = .ok (hollowReport [80, 75, 3, 4]) := by
  simp only [validate, bind_eq_ok, orRaise_eq_ok, raiseIf_eq_ok]
  exact ⟨[manifestEntry, hiddenEntry], rfl, (), rfl, (), by simp [manifestEntry, hiddenEntry], (), rfl, (),
    by simp [manifestEntry], .obj hollowFields, manifest?_hollow _, validateManifest_hollow ridingPackage _⟩

theorem hashedBytes_hollow {file : PackageFile} (rest : List ZipEntry) (h : members file = manifestEntry :: rest) :
    hashedBytes hollowRuntime file = [canonicalJson (.obj rootFields)] := by
  have hfields : manifestFields hollowRuntime file = hollowFields := by
    simp [manifestFields, h, manifest?_hollow, Json.fields?]
  have hassets : manifestAssets hollowRuntime file = [] := by
    simp [manifestAssets, hfields, hollowFields, List.lookup_cons]
  simp [hashedBytes, hfields, listedPaths, hassets, rootBody, without_root]

/-- A file that no manifest entry covers rides along under the root of the package without it. -/
theorem hidden_member_accepted : ∃ ra rb, validate hollowRuntime hollowPackage = .ok ra ∧
    validate hollowRuntime ridingPackage = .ok rb ∧ ra.rootHash = rb.rootHash ∧
    ¬ (SameMembers hollowPackage ridingPackage ∨ ExhibitsCollision hollowRuntime hollowPackage ridingPackage) := by
  refine ⟨_, _, validate_hollowPackage, validate_ridingPackage, rfl, ?_⟩
  rintro (hsame | ⟨x, hx, y, hy, hne, _⟩)
  · have hhidden := hsame "run.sh" (by simp)
    simp [content?, members, hollowPackage, ridingPackage, manifestEntry, hiddenEntry] at hhidden
  · rw [hashedBytes_hollow [] rfl, List.mem_singleton] at hx
    rw [hashedBytes_hollow [hiddenEntry] rfl, List.mem_singleton] at hy
    exact hne (hx.trans hy.symm)

theorem hollow_root_commits :
    validate hollowRuntime hollowPackage = .ok (hollowReport [80, 75, 5, 6]) ∧
    (SameMembers hollowPackage hollowPackage ∨ ExhibitsCollision hollowRuntime hollowPackage hollowPackage ↔
      SameUnlisted hollowRuntime hollowPackage hollowPackage ∨
        ExhibitsCollision hollowRuntime hollowPackage hollowPackage) :=
  ⟨validate_hollowPackage, validate_root_commits_iff hollowRuntime hollowPackage hollowPackage _ _
    validate_hollowPackage validate_hollowPackage rfl⟩

end Hollow

end CapturePackage
end Sip
