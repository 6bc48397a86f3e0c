import Sip.Foundation.PlainDigests
import Sip.Foundation.Runs
import Sip.Spatial.Manifests
import Sip.Spatial.MergeLaws

/-!
# Manifests over a run of registrations

The hash of a manifest is fixed when its row is written and covers the validation
state, which a supersession overwrites. As long as no registration supersedes a
manifest, every row holds the body it was hashed from, and registering a body again
gives the contract of the first time.
-/

namespace Sip
namespace SpatialDataService

set_option autoImplicit false

structure Registration where
  stamp : ManifestStamp
  req : ManifestRequest

def registerStep (svc : AuditService) (py : PyText) (db : ManifestDb) (a : Registration) : ManifestDb :=
  match registerGeometryManifest svc py db a.stamp a.req with
  | .ok (_, db') => db'
  | .error _ => db

/-- A registration that goes through with a new body does not name a manifest to supersede. -/
def NoSupersession (svc : AuditService) (py : PyText) (db : ManifestDb) (a : Registration) : Prop :=
  ∀ contract db' body, registerGeometryManifest svc py db a.stamp a.req = .ok (contract, db') →
    normalizedBody py db a.req = .ok body → existing? db a.req (ManifestBody.hash body) = none →
    given a.req.supersedesManifestId = none

/-- The contract that a row stands for. -/
def contractOf (row : GeometryAssetManifestRow) : GeometryAssetManifestContract :=
  ⟨row.geometryManifestId, row.toManifestBody, row.manifestHash⟩

/-- The rows hold the bodies they were hashed from, and a hash stands once in a project. -/
structure Sound (py : PyText) (db : ManifestDb) : Prop where
  hash : ∀ row ∈ db.manifests.rows, row.manifestHash = ManifestBody.hash row.toManifestBody
  valid : ∀ row ∈ db.manifests.rows, checkContract py row.toManifestBody = .ok ()
  unique : ∀ r ∈ db.manifests.rows, ∀ r' ∈ db.manifests.rows, r.tenantId = r'.tenantId → r.projectId = r'.projectId →
    r.manifestHash = r'.manifestHash → r = r'

/-- Rows have been added, and nothing that a registration reads besides has changed. -/
structure Grown (db db' : ManifestDb) : Prop where
  refs : db'.refs = db.refs
  frames : db'.frames = db.frames
  representations : db'.representations = db.representations
  rows : ∀ row ∈ db.manifests.rows, row ∈ db'.manifests.rows

theorem Sound.of_empty (py : PyText) {db : ManifestDb} (h : db.manifests = .empty) : Sound py db := by
  have hnone : ∀ row, row ∉ db.manifests.rows := by
    rw [h]
    exact fun _ => List.not_mem_nil
  exact ⟨fun row hrow => absurd hrow (hnone row), fun row hrow => absurd hrow (hnone row),
    fun row hrow => absurd hrow (hnone row)⟩

section Spec
variable {svc : AuditService} {py : PyText} {db db' : ManifestDb} {stamp : ManifestStamp} {req : ManifestRequest}
  {body : ManifestBody} {row : GeometryAssetManifestRow} {contract : GeometryAssetManifestContract} {hash : String}

theorem existing?_spec (h : existing? db req hash = some row) : row ∈ db.manifests.rows ∧
    row.tenantId = req.tenantId ∧ row.projectId = req.projectId ∧ row.manifestHash = hash := by
  have hrow := List.find?_some h
  simp only [decide_eq_true_eq] at hrow
  exact ⟨List.mem_of_find?_eq_some h, hrow⟩

theorem normalizedBody_ok (h : normalizedBody py db req = .ok body) :
    body.validationState = req.validationState ∧ checkContract py body = .ok () := by
  simp only [normalizedBody, bind_eq_ok] at h
  obtain ⟨asset, _, _, _, classification, _, _, _, _, hcontract, h⟩ := h
  cases h
  exact ⟨rfl, hcontract⟩

theorem contractFromRow_ok (hvalid : checkContract py row.toManifestBody = .ok ()) :
    contractFromRow py row = .ok (contractOf row) := by
  simp only [contractFromRow, hvalid]
  rfl

/-- What a registration has done. -/
theorem register_ok (h : registerGeometryManifest svc py db stamp req = .ok (contract, db')) :
    ∃ body, normalizedBody py db req = .ok body ∧
      ((∃ row, existing? db req (ManifestBody.hash body) = some row ∧ contractFromRow py row = .ok contract ∧ db' = db) ∨
       (∃ prior, existing? db req (ManifestBody.hash body) = none ∧ priorManifest db req = .ok prior ∧
          contract = contractOf (manifestRow stamp req body) ∧
          (supersedePrior db.manifests stamp.now prior).insert? (manifestRow stamp req body) = some db'.manifests ∧
          db'.refs = db.refs ∧ db'.frames = db.frames ∧ db'.representations = db.representations)) := by
  simp only [registerGeometryManifest, bind_eq_ok] at h
  obtain ⟨body, hbody, h⟩ := h
  refine ⟨body, hbody, ?_⟩
  split at h
  · rename_i row hrow
    obtain ⟨found, hfound, h⟩ := bind_eq_ok.mp h
    cases h
    exact .inl ⟨row, hrow, hfound, rfl⟩
  · rename_i hnone
    obtain ⟨prior, hprior, h⟩ := bind_eq_ok.mp h
    obtain ⟨written, hwritten, h⟩ := bind_eq_ok.mp h
    cases h
    simp only [writeManifest, bind_eq_ok, orRaise_eq_ok] at hwritten
    obtain ⟨manifests, hinsert, _, _, _, _, hwritten⟩ := hwritten
    cases hwritten
    exact .inr ⟨prior, hnone, hprior, rfl, hinsert, rfl, rfl, rfl⟩

/-- The normalised body depends on the asset, the frame and the representation only. -/
theorem normalizedBody_congr (hrefs : db'.refs = db.refs) (hframes : db'.frames = db.frames)
    (hreps : db'.representations = db.representations) (req : ManifestRequest) :
    normalizedBody py db' req = normalizedBody py db req := by
  simp only [normalizedBody, scopedAsset, scopedFrame, checkRepresentation, hrefs, hframes, hreps]

theorem Grown.normalizedBody_eq (h : Grown db db') (req : ManifestRequest) :
    normalizedBody py db' req = normalizedBody py db req := normalizedBody_congr h.refs h.frames h.representations req

theorem Grown.refl (db : ManifestDb) : Grown db db := ⟨rfl, rfl, rfl, fun _ h => h⟩

theorem Grown.trans {db'' : ManifestDb} (h : Grown db db') (h' : Grown db' db'') : Grown db db'' :=
  ⟨h'.refs.trans h.refs, h'.frames.trans h.frames, h'.representations.trans h.representations,
    fun row hrow => h'.rows row (h.rows row hrow)⟩

/-- A body whose hash is in the table is answered from its row. -/
theorem register_again (hsound : Sound py db) (hbody : normalizedBody py db req = .ok body)
    (hrow : row ∈ db.manifests.rows) (htenant : row.tenantId = req.tenantId) (hproject : row.projectId = req.projectId)
    (hhash : row.manifestHash = ManifestBody.hash body) :
    registerGeometryManifest svc py db stamp req = .ok (contractOf row, db) := by
  have hfound : existing? db req (ManifestBody.hash body) = some row := by
    cases hfind : existing? db req (ManifestBody.hash body) with
    | none =>
      have hnone := List.find?_eq_none.mp hfind row hrow
      simp [htenant, hproject, hhash] at hnone
    | some other =>
      obtain ⟨hother, htenant', hproject', hhash'⟩ := existing?_spec hfind
      rw [hsound.unique other hother row hrow (htenant'.trans htenant.symm) (hproject'.trans hproject.symm)
        (hhash'.trans hhash.symm)]
  simp only [registerGeometryManifest, hbody, hfound, contractFromRow_ok (hsound.valid row hrow), bind, Except.bind, pure,
    Except.pure]

/-- The identifiers and the state fit their columns. -/
theorem validatePayload_manifest {value : Json} (hid : row.geometryManifestId.toList.length ≤ 64)
    (hasset : row.assetId.toList.length ≤ 64) (hrepresentation : row.representationId = none)
    (hhash : row.manifestHash = canonicalSha256 value) (hstate : row.validationState.toList.length ≤ 64) :
    validatePayload (manifestPayload row) = .ok () := by
  have hkeys : (manifestPayload row).map Prod.fst =
      ["geometry_manifest_id", "asset_id", "representation_id", "manifest_hash", "validation_state"] := rfl
  apply validatePayload_brief hkeys rfl (by decide)
  intro p hp
  simp only [manifestPayload, hrepresentation, List.mem_cons, List.not_mem_nil, or_false] at hp
  rcases hp with rfl | rfl | rfl | rfl | rfl
  · exact brief_str hid
  · exact brief_str hasset
  · exact brief_null
  · rw [hhash]
    exact brief_sha256 value
  · exact brief_str hstate

/-- A new body is written when its payload and its audit entry are accepted. -/
theorem register_new {prior : Option GeometryAssetManifestRow} {log : AuditLog}
    (hbody : normalizedBody py db req = .ok body) (hexisting : existing? db req (ManifestBody.hash body) = none)
    (hprior : priorManifest db req = .ok prior)
    (hfresh : (supersedePrior db.manifests stamp.now prior).get? stamp.manifestId = none)
    (hpayload : validatePayload (manifestPayload (manifestRow stamp req body)) = .ok ())
    (hlog : svc.append db.audit stamp.now stamp.auditId (manifestAudit (manifestRow stamp req body)) = .ok log) :
    ∃ db', registerGeometryManifest svc py db stamp req = .ok (contractOf (manifestRow stamp req body), db') ∧
      db'.manifests.rows = (supersedePrior db.manifests stamp.now prior).rows ++ [manifestRow stamp req body] ∧
      db'.audit = log ∧ db'.refs = db.refs ∧ db'.frames = db.frames ∧ db'.representations = db.representations := by
  obtain ⟨manifests, hinsert⟩ : ∃ t, (supersedePrior db.manifests stamp.now prior).insert? (manifestRow stamp req body) =
      some t := Table.insert?_isSome hfresh
  obtain ⟨event, hevent⟩ := db.emit_total stamp.toStamp (r := manifestEvent (manifestRow stamp req body)) rfl rfl rfl hpayload
  have hrecord := Store.record_of_append (s := { db.toStore with outbox := db.outbox ++ [event] }) hlog
  have hwrite : writeManifest svc db stamp prior (manifestRow stamp req body) =
      .ok { db with outbox := db.outbox ++ [event], audit := log, manifests } := by
    simp only [writeManifest, bind_eq_ok, orRaise_eq_ok]
    exact ⟨manifests, hinsert, _, hevent, _, hrecord, rfl⟩
  refine ⟨{ db with outbox := db.outbox ++ [event], audit := log, manifests }, ?_, (Table.insert?_eq_some hinsert).2, rfl, rfl,
    rfl, rfl⟩
  simp only [registerGeometryManifest, hbody, hexisting, hprior, hwrite, bind, Except.bind, pure, Except.pure]
  rfl

end Spec

section Step
variable {svc : AuditService} {py : PyText} {db db' : ManifestDb} {a : Registration}
  {contract : GeometryAssetManifestContract}

theorem registerStep_of_ok (h : registerGeometryManifest svc py db a.stamp a.req = .ok (contract, db')) :
    registerStep svc py db a = db' := by
  simp only [registerStep, h]

/-- A registration that supersedes nothing adds at most one sound row, and its contract is that of a row. -/
theorem register_grown (hsound : Sound py db) (hnone : NoSupersession svc py db a)
    (h : registerGeometryManifest svc py db a.stamp a.req = .ok (contract, db')) :
    Sound py db' ∧ Grown db db' ∧ ∃ row ∈ db'.manifests.rows, ∃ body, normalizedBody py db a.req = .ok body ∧
      contract = contractOf row ∧ row.tenantId = a.req.tenantId ∧ row.projectId = a.req.projectId ∧
      row.manifestHash = ManifestBody.hash body := by
  obtain ⟨body, hbody, ⟨row, hrow, hcontract, rfl⟩ | ⟨prior, hexisting, hprior, rfl, hinsert, hrefs, hframes, hreps⟩⟩ :=
    register_ok h
  · obtain ⟨hmem, htenant, hproject, hhash⟩ := existing?_spec hrow
    rw [contractFromRow_ok (hsound.valid row hmem), Except.ok.injEq] at hcontract
    exact ⟨hsound, .refl _, row, hmem, body, hbody, hcontract.symm, htenant, hproject, hhash⟩
  · have hgiven := hnone _ db' body h hbody hexisting
    simp only [priorManifest, hgiven, Except.ok.injEq] at hprior
    subst hprior
    obtain ⟨_, hrows⟩ := Table.insert?_eq_some hinsert
    have hmem : ∀ r, r ∈ db'.manifests.rows ↔ r ∈ db.manifests.rows ∨ r = manifestRow a.stamp a.req body := by
      intro r
      rw [hrows, List.mem_append, List.mem_singleton]
      rfl
    have hfresh : ∀ r ∈ db.manifests.rows, r.tenantId = a.req.tenantId → r.projectId = a.req.projectId →
        r.manifestHash ≠ ManifestBody.hash body := by
      intro r hr htenant hproject hhash
      have hmiss := List.find?_eq_none.mp hexisting r hr
      simp [htenant, hproject, hhash] at hmiss
    refine ⟨⟨?_, ?_, ?_⟩, ⟨hrefs, hframes, hreps, fun r hr => (hmem r).mpr (.inl hr)⟩, manifestRow a.stamp a.req body,
      (hmem _).mpr (.inr rfl), body, hbody, rfl, rfl, rfl, rfl⟩
    · intro r hr
      rcases (hmem r).mp hr with hr | rfl
      · exact hsound.hash r hr
      · rfl
    · intro r hr
      rcases (hmem r).mp hr with hr | rfl
      · exact hsound.valid r hr
      · exact (normalizedBody_ok hbody).2
    · intro r hr r' hr' htenant hproject hhash
      rcases (hmem r).mp hr with hr | rfl
      · rcases (hmem r').mp hr' with hr' | rfl
        · exact hsound.unique r hr r' hr' htenant hproject hhash
        · exact absurd hhash (hfresh r hr htenant hproject)
      · rcases (hmem r').mp hr' with hr' | rfl
        · exact absurd hhash.symm (hfresh r' hr' htenant.symm hproject.symm)
        · rfl

theorem step_sound (hnone : NoSupersession svc py db a) (hsound : Sound py db) :
    Sound py (registerStep svc py db a) ∧ Grown db (registerStep svc py db a) := by
  unfold registerStep
  split
  · rename_i contract db' hregister
    obtain ⟨hsound', hgrown, _⟩ := register_grown hsound hnone hregister
    exact ⟨hsound', hgrown⟩
  · exact ⟨hsound, .refl _⟩

theorem run_sound {acts : List Registration} (hsound : Sound py db)
    (hnone : Along (registerStep svc py) (NoSupersession svc py) db acts) :
    Sound py (run (registerStep svc py) db acts) ∧ Grown db (run (registerStep svc py) db acts) := by
  induction acts generalizing db with
  | nil => exact ⟨hsound, .refl _⟩
  | cons a acts ih =>
    obtain ⟨hstep, hgrown⟩ := step_sound hnone.1 hsound
    obtain ⟨hrun, hgrown'⟩ := ih hstep hnone.2
    exact ⟨hrun, hgrown.trans hgrown'⟩

end Step

/-- Bodies with one hash have one validation state, or their documents are a collision. -/
theorem validationState_of_hash_eq {a b : ManifestBody} (h : ManifestBody.hash a = ManifestBody.hash b) :
    a.validationState = b.validationState ∨
      Sha256Collision (canonicalJson (.obj (ManifestBody.document a))) (canonicalJson (.obj (ManifestBody.document b))) := by
  by_cases hbytes : canonicalJson (.obj (ManifestBody.document a)) = canonicalJson (.obj (ManifestBody.document b))
  · left
    have hkeys : ∀ body : ManifestBody, ((ManifestBody.document body).map Prod.fst).Nodup := by
      intro body
      simp [ManifestBody.document]
    have hlookup := canonicalJson_obj_lookup (hkeys a) (hkeys b) hbytes "validation_state"
    simpa [ManifestBody.document, List.lookup_cons] using hlookup
  · unfold ManifestBody.hash canonicalSha256 at h
    exact .inr ⟨hbytes, hex_injective h⟩

/-- Registrations one after another, none of which supersedes a manifest: in every state reached each row's hash
is that of the body in its columns, and registering a body of the run again returns the contract of the first
time, with the validation state that was registered. -/
theorem manifests_sound_along (svc : AuditService) (py : PyText) (db : ManifestDb) (hstart : db.manifests = .empty)
    (acts : List Registration) (hnone : Along (registerStep svc py) (NoSupersession svc py) db acts)
    (past : List Registration) (hpast : past <+: acts) :
    (∀ row ∈ (run (registerStep svc py) db past).manifests.rows,
      row.manifestHash = ManifestBody.hash row.toManifestBody) ∧
    ∀ before a after contract db', past = before ++ a :: after →
      registerGeometryManifest svc py (run (registerStep svc py) db before) a.stamp a.req = .ok (contract, db') →
      (∀ stamp, registerGeometryManifest svc py (run (registerStep svc py) db past) stamp a.req =
        .ok (contract, run (registerStep svc py) db past)) ∧
      ∃ body, normalizedBody py (run (registerStep svc py) db before) a.req = .ok body ∧
        (contract.body.validationState = a.req.validationState ∨
          Sha256Collision (canonicalJson (.obj (ManifestBody.document contract.body)))
            (canonicalJson (.obj (ManifestBody.document body)))) := by
  have hempty := Sound.of_empty py hstart
  have hpastNone := hnone.of_prefix hpast
  obtain ⟨hsound, _⟩ := run_sound hempty hpastNone
  refine ⟨hsound.hash, ?_⟩
  rintro before a after contract db' rfl hregister
  have hbeforeNone : Along (registerStep svc py) (NoSupersession svc py) db before :=
    hpastNone.of_prefix (List.prefix_append _ _)
  obtain ⟨hbefore, _⟩ := run_sound hempty hbeforeNone
  obtain ⟨hhere, hafterNone⟩ := hpastNone.of_append
  have hstep := registerStep_of_ok hregister
  rw [hstep] at hafterNone
  obtain ⟨hsound', hgrown, row, hrow, body, hbody, hcontract, htenant, hproject, hhash⟩ :=
    register_grown hbefore hhere hregister
  obtain ⟨hlast, hgrown'⟩ := run_sound hsound' hafterNone
  have hrun : run (registerStep svc py) db (before ++ a :: after) = run (registerStep svc py) db' after := by
    rw [run_append, run_cons, hstep]
  have hagain : normalizedBody py (run (registerStep svc py) db' after) a.req = .ok body := by
    rw [hgrown'.normalizedBody_eq, hgrown.normalizedBody_eq, hbody]
  have hsame : ManifestBody.hash row.toManifestBody = ManifestBody.hash body := by
    rw [← hhash, hsound'.hash row hrow]
  have hstate := validationState_of_hash_eq hsame
  rw [(normalizedBody_ok hbody).1] at hstate
  have hbodyOf : contract.body = row.toManifestBody := by rw [hcontract, contractOf]
  refine ⟨fun stamp => ?_, body, hbody, ?_⟩
  · rw [hrun, hcontract]
    exact register_again hlast hagain (hgrown'.rows row hrow) htenant hproject hhash
  · rw [hbodyOf]
    exact hstate

section Sample

def meshAsset : AssetRefRow where
  assetId := "a1"
  tenantId := "t1"
  projectId := "p1"
  sha256 := genesisHash
  originalName := "mesh"
  classification := "internal"
  retentionClass := "project"
  sourceClass := "observed"
  authorityClass := "evidence"
  provenanceJson := []
  createdBy := "ana"

def meshDb : ManifestDb where
  toStore := .empty
  refs := ⟨[meshAsset], by decide⟩
  frames := .single ⟨"f1", "t1", "p1", none⟩
  representations := .empty
  manifests := .empty

/-- A mesh of one triangle, in the place of another manifest if one is named. -/
def meshOf (validationState : String) (supersedes : Option String) : ManifestRequest where
  tenantId := "t1"
  projectId := "p1"
  actorId := "ana"
  assetId := "a1"
  mediaType := "m"
  format := "ply"
  profile := "p"
  formatVersion := "1"
  coordinateFrameId := "f1"
  units := "meter"
  bounds := [("min", [.zero, .zero, .zero]), ("max", [.one, .one, .one])]
  classification := "internal"
  counts := [("faces", 1)]
  compression := [("codec", .str "none")]
  sourceRunId := "r"
  quality := [("q", .int 1)]
  validationState := validationState
  supersedesManifestId := supersedes

def meshBody (validationState : String) (supersedes : Option String) : ManifestBody :=
  candidateBody (meshOf validationState supersedes) meshAsset .internal

def firstMesh : Registration := ⟨⟨⟨0, "e1"⟩, "m1"⟩, meshOf "valid" none⟩

def secondMesh : Registration := ⟨⟨⟨0, "e2"⟩, "m2"⟩, meshOf "pending" (some "m1")⟩

def firstRow : GeometryAssetManifestRow := manifestRow firstMesh.stamp firstMesh.req (meshBody "valid" none)

def secondRow : GeometryAssetManifestRow := manifestRow secondMesh.stamp secondMesh.req (meshBody "pending" (some "m1"))

theorem normalizedBody_first : normalizedBody plainText meshDb firstMesh.req = .ok (meshBody "valid" none) := rfl

theorem normalizedBody_second :
    normalizedBody plainText meshDb secondMesh.req = .ok (meshBody "pending" (some "m1")) := rfl

def firstHash : String := "249ab4b258e6244aebfc3bbba10b861c494a07fa6667dfe1b161adc124c23cae"

def secondHash : String := "660903c2482a1b6e1d4e01f0c68da0ad52585bbaa5d67393b10c4295f666e79a"

def firstEventHash : String := "1488d9b046c75af95c88af17529d6e8d38a01137051494d3a8ac1680ae4a328a"

def secondEventHash : String := "6020aeebc2c18e0ebd1edc15de5f59acceb2d30b0592f9e517414864074d024f"

def deprecatedHash : String := "8242bb42fdbfb61bc85c2b48b3dbfb83334b103db77c55592f575498fdee8bd6"

/-- The documents that are hashed below: three manifests and two audit events. -/
def meshDocuments : List (Json × String) := [
  (.obj (ManifestBody.document (meshBody "valid" none)), firstHash),
  (.obj (ManifestBody.document (meshBody "pending" (some "m1"))), secondHash),
  (.obj (ManifestBody.document (GeometryAssetManifestRow.deprecated firstRow 0).toManifestBody), deprecatedHash),
  (AuditService.zeroBody 0 "e1" (manifestAudit { firstRow with manifestHash := firstHash }) genesisHash, firstEventHash),
  (AuditService.zeroBody 0 "e2" (manifestAudit { secondRow with manifestHash := secondHash }) firstEventHash, secondEventHash)]

set_option maxRecDepth 10000 in
theorem hashTo_meshDocuments : hashTo meshDocuments = true := by decide +kernel

theorem hash_first : ManifestBody.hash (meshBody "valid" none) = firstHash :=
  canonicalSha256_of_hashTo hashTo_meshDocuments 0 rfl

theorem hash_second : ManifestBody.hash (meshBody "pending" (some "m1")) = secondHash :=
  canonicalSha256_of_hashTo hashTo_meshDocuments 1 rfl

theorem firstRow_eq : firstRow = { firstRow with manifestHash := firstHash } := by
  rw [← hash_first]
  rfl

theorem secondRow_eq : secondRow = { secondRow with manifestHash := secondHash } := by
  rw [← hash_second]
  rfl

theorem eventHash_first :
    (AuditService.zeroKey.entry .empty 0 "e1" (manifestAudit firstRow)).eventHash = firstEventHash := by
  rw [firstRow_eq, AuditService.entry_eventHash]
  exact canonicalSha256_of_hashTo hashTo_meshDocuments 3 rfl

theorem eventHash_second :
    canonicalSha256 ((AuditService.zeroKey.entry .empty 0 "e2" (manifestAudit secondRow)).body firstEventHash) ≠
      firstEventHash := by
  have hsecond : canonicalSha256 (AuditService.zeroBody 0 "e2" (manifestAudit { secondRow with manifestHash := secondHash })
      firstEventHash) = secondEventHash := canonicalSha256_of_hashTo hashTo_meshDocuments 4 rfl
  rw [AuditService.zeroBody] at hsecond
  rw [secondRow_eq, hsecond]
  decide

theorem register_first : ∃ db,
    registerGeometryManifest .zeroKey plainText meshDb firstMesh.stamp firstMesh.req = .ok (contractOf firstRow, db) ∧
    db.manifests.rows = [firstRow] ∧ Grown meshDb db ∧
    AuditService.zeroKey.append .empty 0 "e1" (manifestAudit firstRow) = .ok db.audit := by
  have hpayload := @validatePayload_manifest firstRow (.obj (ManifestBody.document (meshBody "valid" none)))
    (by decide) (by decide) rfl rfl (by decide)
  obtain ⟨log, hlog⟩ := AuditService.append_empty .zeroKey 0 "e1" (manifestAudit firstRow)
  obtain ⟨db, hregister, hrows, haudit, hrefs, hframes, hreps⟩ :=
    register_new normalizedBody_first rfl rfl rfl hpayload hlog
  refine ⟨db, hregister, hrows, ⟨hrefs, hframes, hreps, fun _ hrow => absurd hrow List.not_mem_nil⟩, ?_⟩
  rw [haudit]
  exact hlog

/-- Registering one mesh, which supersedes nothing. -/
theorem manifests_sound_along_first :
    (∃ contract db', registerGeometryManifest .zeroKey plainText meshDb firstMesh.stamp firstMesh.req = .ok (contract, db')) ∧
    ∀ row ∈ (run (registerStep .zeroKey plainText) meshDb [firstMesh]).manifests.rows,
      row.manifestHash = ManifestBody.hash row.toManifestBody := by
  obtain ⟨db, hregister, _⟩ := register_first
  have hnone : Along (registerStep .zeroKey plainText) (NoSupersession .zeroKey plainText) meshDb [firstMesh] :=
    ⟨fun _ _ _ _ _ _ => rfl, trivial⟩
  exact ⟨⟨_, db, hregister⟩, (manifests_sound_along .zeroKey plainText meshDb rfl [firstMesh] hnone [firstMesh]
    List.prefix_rfl).1⟩

/-- The second manifest marks the first one as deprecated. -/
theorem register_second {db : ManifestDb} (hrows : db.manifests.rows = [firstRow]) (hgrown : Grown meshDb db)
    (hlog : AuditService.zeroKey.append .empty 0 "e1" (manifestAudit firstRow) = .ok db.audit) : ∃ db',
    registerGeometryManifest .zeroKey plainText db secondMesh.stamp secondMesh.req = .ok (contractOf secondRow, db') ∧
    db'.manifests.rows = [GeometryAssetManifestRow.deprecated firstRow 0, secondRow] ∧
    db'.refs = db.refs ∧ db'.frames = db.frames ∧ db'.representations = db.representations := by
  have hbody : normalizedBody plainText db secondMesh.req = .ok (meshBody "pending" (some "m1")) := by
    rw [hgrown.normalizedBody_eq, normalizedBody_second]
  have hexisting : existing? db secondMesh.req (ManifestBody.hash (meshBody "pending" (some "m1"))) = none := by
    rw [existing?, hrows, hash_second, firstRow_eq]
    decide
  have hfirst : db.manifests.get? "m1" = some firstRow := by
    rw [Table.get?, hrows]
    rfl
  have hprior : priorManifest db secondMesh.req = .ok (some firstRow) := by
    have hgiven : given secondMesh.req.supersedesManifestId = some "m1" := rfl
    simp only [priorManifest, hgiven, hfirst, orRaise, bind, Except.bind]
    rfl
  have hsuperseded : (supersedePrior db.manifests 0 (some firstRow)).rows =
      [GeometryAssetManifestRow.deprecated firstRow 0] := by
    simp only [supersedePrior, Table.modify, hrows]
    rfl
  have hfresh : (supersedePrior db.manifests 0 (some firstRow)).get? "m2" = none := by
    rw [Table.get?, hsuperseded]
    rfl
  have hpayload := @validatePayload_manifest secondRow (.obj (ManifestBody.document (meshBody "pending" (some "m1"))))
    (by decide) (by decide) rfl rfl (by decide)
  have htenant : (manifestAudit secondRow).tenantId = (manifestAudit firstRow).tenantId := rfl
  obtain ⟨log, hsecond⟩ := AuditService.append_second hlog (by decide : "e2" ≠ "e1") htenant eventHash_first
    eventHash_second
  obtain ⟨db', hregister, hrows', _, hrefs, hframes, hreps⟩ :=
    register_new hbody hexisting hprior hfresh hpayload hsecond
  exact ⟨db', hregister, hrows'.trans (congrArg (· ++ [secondRow]) hsuperseded), hrefs, hframes, hreps⟩

theorem hash_deprecated : ManifestBody.hash (GeometryAssetManifestRow.deprecated firstRow 0).toManifestBody ≠ firstHash := by
  have hdeprecated : ManifestBody.hash (GeometryAssetManifestRow.deprecated firstRow 0).toManifestBody = deprecatedHash :=
    canonicalSha256_of_hashTo hashTo_meshDocuments 2 rfl
  rw [hdeprecated]
  decide

theorem run_meshes : ∃ db, run (registerStep .zeroKey plainText) meshDb [firstMesh, secondMesh] = db ∧
    db.manifests.rows = [GeometryAssetManifestRow.deprecated firstRow 0, secondRow] ∧
    normalizedBody plainText db firstMesh.req = .ok (meshBody "valid" none) := by
  obtain ⟨db, hfirst, hrows, hgrown, hlog⟩ := register_first
  obtain ⟨db', hsecond, hrows', hrefs, hframes, hreps⟩ := register_second hrows hgrown hlog
  refine ⟨db', ?_, hrows', ?_⟩
  · rw [run_cons, registerStep_of_ok hfirst, run_cons, registerStep_of_ok hsecond, run_nil]
  · rw [normalizedBody_congr hrefs hframes hreps, hgrown.normalizedBody_eq, normalizedBody_first]

/-- A manifest that has been superseded keeps its hash and loses the validation state it was hashed with; registering
its body again returns the new state. -/
theorem superseded_manifest_keeps_hash :
    let db := run (registerStep .zeroKey plainText) meshDb [firstMesh, secondMesh]
    (∃ row ∈ db.manifests.rows, row.manifestHash ≠ ManifestBody.hash row.toManifestBody) ∧
    ∀ stamp, ∃ contract, registerGeometryManifest .zeroKey plainText db stamp firstMesh.req = .ok (contract, db) ∧
      contract.body.validationState ≠ firstMesh.req.validationState := by
  obtain ⟨db, hrun, hrows, hbody⟩ := run_meshes
  rw [hrun]
  refine ⟨⟨GeometryAssetManifestRow.deprecated firstRow 0, ?_, ?_⟩, fun stamp => ?_⟩
  · rw [hrows]
    exact List.mem_cons_self
  · have hkept : (GeometryAssetManifestRow.deprecated firstRow 0).manifestHash = firstHash := hash_first
    rw [hkept]
    exact hash_deprecated.symm
  · have hfound : existing? db firstMesh.req (ManifestBody.hash (meshBody "valid" none)) =
        some (GeometryAssetManifestRow.deprecated firstRow 0) := by
      rw [existing?, hrows, List.find?_cons_of_pos]
      exact decide_eq_true ⟨rfl, rfl, rfl⟩
    have hvalid : checkContract plainText (GeometryAssetManifestRow.deprecated firstRow 0).toManifestBody = .ok () := rfl
    refine ⟨contractOf (GeometryAssetManifestRow.deprecated firstRow 0), ?_, by decide⟩
    simp only [registerGeometryManifest, hbody, hfound, contractFromRow_ok hvalid, bind, Except.bind, pure, Except.pure]

end Sample

end SpatialDataService
end Sip
