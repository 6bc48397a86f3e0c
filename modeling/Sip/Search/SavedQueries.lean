import Sip.Foundation.Interleaving
import Sip.PyEquality
import Sip.Search.Filters
import Sip.Transaction

/-!
# Saved queries

Saving a query takes three transactions: the query that it supersedes is read, the row is inserted with its event and
its audit entry, and the row is read back under the permissions that have just been stored. Nothing in between keeps
other calls out.
-/

namespace Sip

set_option autoImplicit false

structure SavedPermissions where
  audience : Audience
  allowedSubjectIds : List Json
  allowedRoles : List Json

structure SavedQueryRow where
  savedQueryId : String
  tenantId : String
  projectId : String
  name : String
  schemaVersion : String
  version : Int
  authorId : String
  queryJson : Json
  permissionsJson : SavedPermissions
  parametersJson : Dict
  expectedResultContractJson : Dict
  queryHash : String
  supersedesSavedQueryId : Option String
  createdAt : Nat

structure SavedQueryDb extends Store where
  savedQueries : Table SavedQueryRow (fun row => row.savedQueryId)

/-- `dump` is `spec.model_dump(mode="json", by_alias=True)`. -/
structure SavedQueryService (K : Type) [Field K] [LinearOrder K] extends SearchService K where
  dump : SearchQuerySpec K → Json

namespace SavedQueryService
variable {K : Type} [Field K] [LinearOrder K]

section Permissions

def audienceNamed : String → Option Audience
  | "private" => some .private
  | "family" => some .family
  | "project" => some .project
  | "owner" => some .owner
  | "public" => some .public
  | _ => none

/-- `sorted(set(value))`; a set of one element needs no order. -/
def sortedUnique (value : Json) : Except Raised (List Json) := do
  match ← value.asSet with
  | [] => return []
  | first :: rest => if rest.all (Json.pyEq first) then return [first] else sortedRegions (first :: rest)

def permissionKeys : List String := ["audience", "allowed_subject_ids", "allowed_roles"]

/-- `_normalize_saved_permissions` -/
def normalizeSavedPermissions (permissions : Dict) : Except Raised SavedPermissions := do
  let unknown := sortedSet id ((permissions.map Prod.fst).filter fun key => key ∉ permissionKeys)
  raiseIf (unknown ≠ []) (validationError "SAVED_QUERY_PERMISSION_FIELD_UNKNOWN"
    "saved query permission contains unknown fields" [("fields", .arr (unknown.map .str))])
  let audience ← orRaise ((((permissions.lookup "audience").getD (.str "private")).text?).bind audienceNamed)
    (validationError "SAVED_QUERY_AUDIENCE_INVALID" "saved query audience is invalid")
  let allowedSubjectIds ← sortedUnique ((permissions.lookup "allowed_subject_ids").getD (.arr []))
  let allowedRoles ← sortedUnique ((permissions.lookup "allowed_roles").getD (.arr []))
  return ⟨audience, allowedSubjectIds, allowedRoles⟩

/-- `_saved_query_authorized` -/
def savedQueryAuthorized (permissions : SavedPermissions) (principal : SignedPrincipal) : Bool :=
  SearchService.isTenantAdmin principal ||
    ((permissions.allowedSubjectIds = [] || permissions.allowedSubjectIds.any (Json.isText principal.subjectId)) &&
      (permissions.allowedRoles = [] || principal.roles.any fun role => permissions.allowedRoles.any (Json.isText role)) &&
      permissions.audience ∈ SearchService.audienceAccess principal.audience)

end Permissions

section Transactions

structure SaveRequest (K : Type) [Field K] [LinearOrder K] where
  principal : SignedPrincipal
  name : String
  spec : SearchQuerySpec K
  permissions : Dict
  parameters : Dict := []
  expectedResultContract : Dict := []
  supersedesSavedQueryId : Option String := none

/-- The principal is of the tenant and reaches the project. -/
def InScope (principal : SignedPrincipal) (tenantId projectId : String) : Prop :=
  tenantId = principal.tenantId ∧ (projectId ∈ principal.projectIds ∨ SearchService.isTenantAdmin principal = true)

instance (principal : SignedPrincipal) (tenantId projectId : String) : Decidable (InScope principal tenantId projectId) :=
  inferInstanceAs (Decidable (_ ∧ _))

def getSavedQuery (db : SavedQueryDb) (principal : SignedPrincipal) (savedQueryId : String) : Except Raised SavedQueryRow := do
  let row ← orRaise (db.savedQueries.get? savedQueryId) (notFoundError "saved_query" savedQueryId)
  raiseIf (¬ InScope principal row.tenantId row.projectId) (notFoundError "saved_query" savedQueryId)
  raiseIf (savedQueryAuthorized row.permissionsJson principal = false) (notFoundError "saved_query" savedQueryId)
  return row

/-- What has been found out before the row is written. -/
structure Prepared where
  permissions : SavedPermissions
  version : Int

variable (svc : SavedQueryService K) (audit : AuditService)

/-- The checks at the head of `save_query`, and the version after that of the query that is superseded. -/
def prepare (db : SavedQueryDb) (req : SaveRequest K) : Except Raised Prepared := do
  raiseIf (¬ InScope req.principal req.spec.tenantId req.spec.projectId)
    (authorizationError "SAVED_QUERY_SCOPE_DENIED" "saved query scope is outside authenticated access")
  svc.compileQuery req.spec
  let permissions ← normalizeSavedPermissions req.permissions
  match given req.supersedesSavedQueryId with
  | none => return ⟨permissions, 1⟩
  | some superseded => do
    let prior ← getSavedQuery db req.principal superseded
    return ⟨permissions, prior.version + 1⟩

def savedQueryRow (req : SaveRequest K) (prepared : Prepared) (now : Nat) (newId : String) : SavedQueryRow where
  savedQueryId := newId
  tenantId := req.spec.tenantId
  projectId := req.spec.projectId
  name := req.name
  schemaVersion := "sip.spatial-query/v1"
  version := prepared.version
  authorId := req.principal.subjectId
  queryJson := svc.dump req.spec
  permissionsJson := prepared.permissions
  parametersJson := req.parameters
  expectedResultContractJson := req.expectedResultContract
  queryHash := canonicalSha256 (svc.dump req.spec)
  supersedesSavedQueryId := req.supersedesSavedQueryId
  createdAt := now

def savedEvent (row : SavedQueryRow) : EventRequest where
  eventType := "saved_query.created"
  schemaVersion := "1.0.0"
  tenantId := row.tenantId
  projectId := row.projectId
  aggregateType := "saved_query"
  aggregateId := row.savedQueryId
  payload := [("saved_query_id", .str row.savedQueryId), ("query_hash", .str row.queryHash), ("version", .int row.version),
    ("supersedes_saved_query_id", .ofOption row.supersedesSavedQueryId)]
  producer := "search-service"
  actorId := some row.authorId
  workloadIdentity := none
  correlationId := row.savedQueryId
  causationId := row.supersedesSavedQueryId

def savedAudit (row : SavedQueryRow) : AuditRequest where
  tenantId := row.tenantId
  projectId := some row.projectId
  actorId := row.authorId
  action := "saved_query:create"
  resourceType := "saved_query"
  resourceId := row.savedQueryId
  outcome := "allowed"
  details := some [("query_hash", .str row.queryHash), ("version", .int row.version)]

/-- What the insert draws: the clock reading, and the identifiers of the audit entry and of the row. -/
structure SaveStamp extends Stamp where
  newId : String

/-- The transaction that writes the row, its event and its audit entry. -/
def insertSavedQuery (db : SavedQueryDb) (stamp : SaveStamp) (row : SavedQueryRow) : Except Raised SavedQueryDb := do
  let savedQueries ← orRaise (db.savedQueries.insert? row) (.integrityError "saved_queries.saved_query_id")
  let store ← db.toStore.emit stamp.toStamp (savedEvent row)
  let store ← store.record audit stamp.toStamp (savedAudit row)
  return { db with toStore := store, savedQueries }

end Transactions

section Calls

/-- How far a call has come; a call that has raised remembers the row that it had stored by then. -/
inductive SaveCall (K : Type) [Field K] [LinearOrder K] where
  | waiting (req : SaveRequest K)
  | prepared (req : SaveRequest K) (prepared : Prepared)
  | stored (req : SaveRequest K) (savedQueryId : String)
  | returned (row : SavedQueryRow)
  | raised (error : Raised) (stored : Option String)

variable (svc : SavedQueryService K) (audit : AuditService)

def next (_ : Nat) (stamp : SaveStamp) (db : SavedQueryDb) : SaveCall K → Option (SavedQueryDb × SaveCall K)
  | .waiting req => some <| match svc.prepare db req with
    | .ok prepared => (db, .prepared req prepared)
    | .error error => (db, .raised error none)
  | .prepared req prepared =>
    some <| match insertSavedQuery audit db stamp (svc.savedQueryRow req prepared stamp.now stamp.newId) with
    | .ok db' => (db', .stored req stamp.newId)
    | .error error => (db, .raised error none)
  | .stored req savedQueryId => some <| match getSavedQuery db req.principal savedQueryId with
    | .ok row => (db, .returned row)
    | .error error => (db, .raised error (some savedQueryId))
  | .returned _ => none
  | .raised _ _ => none

/-- Versions along every chain are consecutive, and no two saved queries supersede the same one. -/
structure Chained (db : SavedQueryDb) : Prop where
  consecutive : ∀ row ∈ db.savedQueries.rows, ∀ superseded, given row.supersedesSavedQueryId = some superseded →
    ∃ prior ∈ db.savedQueries.rows, prior.savedQueryId = superseded ∧ row.version = prior.version + 1
  single : ∀ a ∈ db.savedQueries.rows, ∀ b ∈ db.savedQueries.rows, ∀ superseded,
    given a.supersedesSavedQueryId = some superseded → given b.supersedesSavedQueryId = some superseded → a = b

/-- The saved queries are chained, and a call that has raised has stored nothing. -/
def Sound (p : Pool SavedQueryDb (SaveCall K)) : Prop :=
  Chained p.shared ∧ ∀ i error stored, p.call i = .raised error stored → stored = none

/-- What is stored admits its author, and supersedes nothing that is superseded already. -/
def Admissible (p : Pool SavedQueryDb (SaveCall K)) (m : Move SaveStamp) : Prop :=
  ∀ req prepared, p.call m.who = .prepared req prepared →
    savedQueryAuthorized prepared.permissions req.principal = true ∧
    ∀ superseded, given req.supersedesSavedQueryId = some superseded →
      ∀ row ∈ p.shared.savedQueries.rows, given row.supersedesSavedQueryId ≠ some superseded

def arrived (db : SavedQueryDb) (request : Nat → SaveRequest K) : Pool SavedQueryDb (SaveCall K) := ⟨db, fun i => .waiting (request i)⟩

end Calls

section Soundness
variable {svc : SavedQueryService K} {audit : AuditService}

/-- What a call may rely on. -/
def Relies (_ : Nat) (db : SavedQueryDb) : SaveCall K → Prop
  | .waiting _ => True
  | .prepared req prepared => InScope req.principal req.spec.tenantId req.spec.projectId ∧
    ∀ superseded, given req.supersedesSavedQueryId = some superseded →
      ∃ prior ∈ db.savedQueries.rows, prior.savedQueryId = superseded ∧ prepared.version = prior.version + 1
  | .stored req savedQueryId => ∃ row ∈ db.savedQueries.rows, row.savedQueryId = savedQueryId ∧
    InScope req.principal row.tenantId row.projectId ∧ savedQueryAuthorized row.permissionsJson req.principal = true
  | .returned _ => True
  | .raised _ stored => stored = none

/-- Rows are only added, so what a call relies on stays. -/
theorem relies_mono {db db' : SavedQueryDb} (h : db.savedQueries.rows ⊆ db'.savedQueries.rows) {i : Nat} {call : SaveCall K}
    (hcall : Relies i db call) : Relies i db' call := by
  cases call with
  | waiting req => trivial
  | prepared req prepared =>
    refine ⟨hcall.1, ?_⟩
    intro superseded hsuperseded
    obtain ⟨prior, hprior, hid⟩ := hcall.2 superseded hsuperseded
    exact ⟨prior, h hprior, hid⟩
  | stored req savedQueryId =>
    obtain ⟨row, hrow, hid⟩ := hcall
    exact ⟨row, h hrow, hid⟩
  | returned row => trivial
  | raised error stored => exact hcall

theorem getSavedQuery_eq_ok_iff {db : SavedQueryDb} {principal : SignedPrincipal} {savedQueryId : String} {row : SavedQueryRow} :
    getSavedQuery db principal savedQueryId = .ok row ↔ db.savedQueries.get? savedQueryId = some row ∧
      InScope principal row.tenantId row.projectId ∧ savedQueryAuthorized row.permissionsJson principal = true := by
  simp only [getSavedQuery, bind_eq_ok, orRaise_eq_ok, raiseIf_eq_ok]
  constructor
  · rintro ⟨found, hfound, _, hscope, _, hauthorized, h⟩
    cases h
    exact ⟨hfound, not_not.mp hscope, by simpa using hauthorized⟩
  · rintro ⟨hfound, hscope, hauthorized⟩
    exact ⟨row, hfound, (), not_not.mpr hscope, (), by simp [hauthorized], rfl⟩

theorem prepare_ok {db : SavedQueryDb} {req : SaveRequest K} {prepared : Prepared} (h : svc.prepare db req = .ok prepared) :
    InScope req.principal req.spec.tenantId req.spec.projectId ∧
    ∀ superseded, given req.supersedesSavedQueryId = some superseded →
      ∃ prior ∈ db.savedQueries.rows, prior.savedQueryId = superseded ∧ prepared.version = prior.version + 1 := by
  simp only [prepare, bind_eq_ok, raiseIf_eq_ok] at h
  obtain ⟨_, hscope, _, _, permissions, _, h⟩ := h
  refine ⟨not_not.mp hscope, ?_⟩
  intro superseded hsuperseded
  rw [hsuperseded] at h
  simp only [bind_eq_ok] at h
  obtain ⟨prior, hprior, h⟩ := h
  cases h
  obtain ⟨hmem, hid⟩ := (db.savedQueries.get?_eq_some_iff superseded prior).mp (getSavedQuery_eq_ok_iff.mp hprior).1
  exact ⟨prior, hmem, hid, rfl⟩

theorem insertSavedQuery_ok {db db' : SavedQueryDb} {stamp : SaveStamp} {row : SavedQueryRow}
    (h : insertSavedQuery audit db stamp row = .ok db') : db'.savedQueries.rows = db.savedQueries.rows ++ [row] := by
  simp only [insertSavedQuery, bind_eq_ok, orRaise_eq_ok] at h
  obtain ⟨savedQueries, hinsert, _, _, _, _, h⟩ := h
  cases h
  exact (Table.insert?_eq_some hinsert).2

/-- Steps only add rows. -/
theorem next_rows {i : Nat} {stamp : SaveStamp} {db db' : SavedQueryDb} {call call' : SaveCall K}
    (h : svc.next audit i stamp db call = some (db', call')) : db.savedQueries.rows ⊆ db'.savedQueries.rows := by
  unfold next at h
  split at h
  · split at h <;> cases h <;> exact fun _ => id
  · split at h
    next hinsert =>
      cases h
      rw [insertSavedQuery_ok hinsert]
      exact List.subset_append_left _ _
    next =>
      cases h
      exact fun _ => id
  · split at h <;> cases h <;> exact fun _ => id
  · cases h
  · cases h

theorem chained_append {db db' : SavedQueryDb} {row : SavedQueryRow} (hdb : Chained db)
    (hrows : db'.savedQueries.rows = db.savedQueries.rows ++ [row])
    (hprior : ∀ superseded, given row.supersedesSavedQueryId = some superseded →
      ∃ prior ∈ db.savedQueries.rows, prior.savedQueryId = superseded ∧ row.version = prior.version + 1)
    (hfirst : ∀ superseded, given row.supersedesSavedQueryId = some superseded →
      ∀ other ∈ db.savedQueries.rows, given other.supersedesSavedQueryId ≠ some superseded) : Chained db' := by
  constructor
  · intro a ha superseded hsuperseded
    rw [hrows] at ha ⊢
    have hfound : ∃ prior ∈ db.savedQueries.rows, prior.savedQueryId = superseded ∧ a.version = prior.version + 1 := by
      rcases List.mem_append.mp ha with ha | ha
      · exact hdb.consecutive a ha superseded hsuperseded
      · obtain rfl := List.mem_singleton.mp ha
        exact hprior superseded hsuperseded
    obtain ⟨prior, hmem, hid⟩ := hfound
    exact ⟨prior, List.mem_append_left _ hmem, hid⟩
  · intro a ha b hb superseded hasup hbsup
    rw [hrows] at ha hb
    rcases List.mem_append.mp ha with haold | hanew <;> rcases List.mem_append.mp hb with hbold | hbnew
    · exact hdb.single a haold b hbold superseded hasup hbsup
    · obtain rfl := List.mem_singleton.mp hbnew
      exact absurd hasup (hfirst superseded hbsup a haold)
    · obtain rfl := List.mem_singleton.mp hanew
      exact absurd hbsup (hfirst superseded hasup b hbold)
    · exact (List.mem_singleton.mp hanew).trans (List.mem_singleton.mp hbnew).symm

/-- Every step of an admissible run keeps the saved queries chained and what the moving call relies on. -/
theorem next_holds {p : Pool SavedQueryDb (SaveCall K)} {m : Move SaveStamp} {db : SavedQueryDb} {call : SaveCall K}
    (hadmissible : Admissible p m) (hp : Pool.Holds Chained Relies p)
    (h : svc.next audit m.who m.input p.shared (p.call m.who) = some (db, call)) : Chained db ∧ Relies m.who db call := by
  obtain ⟨hchained, hrelies⟩ := hp
  have hcall := hrelies m.who
  cases hlocal : p.call m.who with
  | waiting req =>
    rw [hlocal] at h
    simp only [next, Option.some.injEq] at h
    split at h
    next prepared hprepared =>
      cases h
      exact ⟨hchained, prepare_ok hprepared⟩
    next =>
      cases h
      exact ⟨hchained, rfl⟩
  | prepared req prepared =>
    rw [hlocal] at h hcall
    simp only [next, Option.some.injEq] at h
    obtain ⟨hauthorized, hfirst⟩ := hadmissible req prepared hlocal
    split at h
    next db' hinsert =>
      cases h
      have hrows := insertSavedQuery_ok hinsert
      refine ⟨chained_append hchained hrows hcall.2 hfirst, svc.savedQueryRow req prepared m.input.now m.input.newId, ?_, rfl,
        hcall.1, hauthorized⟩
      rw [hrows]
      exact List.mem_append_right _ (List.mem_singleton_self _)
    next =>
      cases h
      exact ⟨hchained, rfl⟩
  | stored req savedQueryId =>
    rw [hlocal] at h hcall
    obtain ⟨row, hrow, rfl, hscope, hauthorized⟩ := hcall
    have hread : getSavedQuery p.shared req.principal row.savedQueryId = .ok row :=
      getSavedQuery_eq_ok_iff.mpr ⟨(p.shared.savedQueries.get?_eq_some_iff _ _).mpr ⟨hrow, rfl⟩, hscope, hauthorized⟩
    simp only [next, hread, Option.some.injEq] at h
    cases h
    exact ⟨hchained, trivial⟩
  | returned row =>
    rw [hlocal] at h
    cases h
  | raised error stored =>
    rw [hlocal] at h
    cases h

end Soundness

section Sample

/-- Specifications without numbers, written out. -/
def plainSaved : SavedQueryService ℚ where
  toSearchService := SearchService.plainSearch
  dump spec :=
    let texts (values : List String) : Json := .arr (values.map .str)
    .obj [
      ("schema_version", .str "sip.spatial-query/v1"), ("full_text", .ofOption spec.fullText), ("embedding", .null),
      ("embedding_model_manifest_id", .ofOption spec.embeddingModelManifestId), ("entity_types", texts spec.entityTypes),
      ("floor_ids", texts spec.floorIds), ("room_ids", texts spec.roomIds), ("spatial", .arr []), ("temporal_interval", .null),
      ("changed_between", .null), ("graph", .null), ("source_classes", texts (spec.sourceClasses.map SourceClass.value)),
      ("authority_classes", texts (spec.authorityClasses.map AuthorityClass.value)), ("minimum_confidence", .null),
      ("tags", texts spec.tags), ("workflow_statuses", texts spec.workflowStatuses), ("evidence_ids", texts spec.evidenceIds),
      ("scene_commit_id", .ofOption spec.sceneCommitId), ("purpose", .ofOption spec.purpose),
      ("critical_workflow", .bool spec.criticalWorkflow), ("include_snippets", .bool true), ("limit", .int spec.limit),
      ("timeout_ms", .int spec.timeoutMs), ("tenant_id", .str spec.tenantId), ("project_id", .str spec.projectId)]

def noSavedQueries : SavedQueryDb := { Store.empty with savedQueries := .empty }

/-- Ana saves the query for the whole project under the given permissions. -/
def anaSaves (permissions : Dict) : SaveRequest ℚ where
  principal := SearchService.viewer
  name := "everything"
  spec := { tenantId := "t1", projectId := "p1" }
  permissions := permissions

def saveMove : Move SaveStamp := ⟨0, ⟨⟨1, "a1"⟩, "q1"⟩⟩

theorem chained_noSavedQueries : Chained noSavedQueries :=
  ⟨fun _ h => absurd h List.not_mem_nil, fun _ h => absurd h List.not_mem_nil⟩

theorem prepare_anaSaves {permissions : Dict} {normalized : SavedPermissions}
    (h : normalizeSavedPermissions permissions = .ok normalized) :
    plainSaved.prepare noSavedQueries (anaSaves permissions) = .ok ⟨normalized, 1⟩ := by
  have hcompile : plainSaved.compileQuery (anaSaves permissions).spec = .ok () := by
    have hcomplexity : plainSaved.complexity (anaSaves permissions).spec = 1 := rfl
    have hvolume : ¬ ((10000000 : ℚ) < ((anaSaves permissions).spec.spatial.map plainSaved.predicateVolume).sum) := by
      simp [anaSaves]
    simp only [SearchService.compileQuery, bind_eq_ok, raiseIf_eq_ok, hcomplexity]
    exact ⟨(), by simp [anaSaves], (), by simp [anaSaves], (), by decide, hvolume⟩
  simp only [prepare, bind_eq_ok, raiseIf_eq_ok]
  exact ⟨(), not_not.mpr ⟨rfl, Or.inl (List.mem_singleton_self _)⟩, (), hcompile, normalized, h, rfl⟩

def anaRow (permissions : Dict) (normalized : SavedPermissions) : SavedQueryRow :=
  plainSaved.savedQueryRow (anaSaves permissions) ⟨normalized, 1⟩ 1 "q1"

theorem insertSavedQuery_anaRow (permissions : Dict) (normalized : SavedPermissions) :
    ∃ db, insertSavedQuery .zeroKey noSavedQueries saveMove.input (anaRow permissions normalized) = .ok db := by
  have hpayload : validatePayload (savedEvent (anaRow permissions normalized)).payload = .ok () := by
    have hkeys : (savedEvent (anaRow permissions normalized)).payload.map Prod.fst =
        ["saved_query_id", "query_hash", "version", "supersedes_saved_query_id"] := rfl
    apply validatePayload_brief hkeys rfl (by decide)
    intro field hfield
    simp only [savedEvent, List.mem_cons, List.not_mem_nil, or_false] at hfield
    rcases hfield with rfl | rfl | rfl | rfl
    · exact @brief_str "q1" (by decide)
    · exact brief_sha256 _
    · exact @brief_int 1 (by decide)
    · exact brief_null
  obtain ⟨event, hevent⟩ := Store.emit_total noSavedQueries.toStore saveMove.input.toStamp
    (r := savedEvent (anaRow permissions normalized)) rfl rfl rfl hpayload
  obtain ⟨log, hlog⟩ := @Store.record_of_empty .zeroKey { noSavedQueries.toStore with outbox := [] ++ [event] }
    saveMove.input.toStamp (savedAudit (anaRow permissions normalized)) rfl
  obtain ⟨savedQueries, hinsert⟩ := @Table.insert?_isSome _ _ noSavedQueries.savedQueries (anaRow permissions normalized) rfl
  simp only [insertSavedQuery, bind_eq_ok, orRaise_eq_ok]
  exact ⟨_, savedQueries, hinsert, _, hevent, _, hlog, rfl⟩

variable {permissions : Dict} {normalized : SavedPermissions}

/-- The only call that moves, and how far it has come. -/
def anaAt (db : SavedQueryDb) (permissions : Dict) (call : SaveCall ℚ) : Pool SavedQueryDb (SaveCall ℚ) :=
  ⟨db, Function.update (fun _ => .waiting (anaSaves permissions)) 0 call⟩

theorem call_anaAt {db : SavedQueryDb} {call : SaveCall ℚ} : (anaAt db permissions call).call 0 = call := by
  simp [anaAt]

theorem step_anaAt {db db' : SavedQueryDb} {call call' : SaveCall ℚ}
    (h : plainSaved.next .zeroKey 0 saveMove.input db call = some (db', call')) :
    Pool.step (plainSaved.next .zeroKey) (anaAt db permissions call) saveMove = anaAt db' permissions call' := by
  have hnext : plainSaved.next .zeroKey saveMove.who saveMove.input (anaAt db permissions call).shared
      ((anaAt db permissions call).call saveMove.who) = some (db', call') := by
    have hlocal : (anaAt db permissions call).call saveMove.who = call := call_anaAt
    rw [hlocal]
    exact h
  have hwho : saveMove.who = 0 := rfl
  rw [Pool.step_of_some hnext, hwho]
  simp [anaAt]

theorem arrived_eq_anaAt : arrived noSavedQueries (fun _ => anaSaves permissions) =
    anaAt noSavedQueries permissions (.waiting (anaSaves permissions)) := by
  rw [arrived, anaAt, Function.update_eq_self]

/-- The call prepares its row. -/
theorem step_waiting (h : normalizeSavedPermissions permissions = .ok normalized) :
    Pool.step (plainSaved.next .zeroKey) (anaAt noSavedQueries permissions (.waiting (anaSaves permissions))) saveMove =
      anaAt noSavedQueries permissions (.prepared (anaSaves permissions) ⟨normalized, 1⟩) := by
  refine step_anaAt ?_
  simp only [next, prepare_anaSaves h]

/-- The call stores its row. -/
theorem step_prepared {db : SavedQueryDb}
    (h : insertSavedQuery .zeroKey noSavedQueries saveMove.input (anaRow permissions normalized) = .ok db) :
    Pool.step (plainSaved.next .zeroKey)
      (anaAt noSavedQueries permissions (.prepared (anaSaves permissions) ⟨normalized, 1⟩)) saveMove =
        anaAt db permissions (.stored (anaSaves permissions) "q1") := by
  have hrow : plainSaved.savedQueryRow (anaSaves permissions) ⟨normalized, 1⟩ saveMove.input.now saveMove.input.newId =
      anaRow permissions normalized := rfl
  refine step_anaAt ?_
  simp only [next, hrow, h]
  rfl

/-- The call fails to read its row back. -/
theorem step_stored {db : SavedQueryDb} {error : Raised} (h : getSavedQuery db SearchService.viewer "q1" = .error error) :
    Pool.step (plainSaved.next .zeroKey) (anaAt db permissions (.stored (anaSaves permissions) "q1")) saveMove =
      anaAt db permissions (.raised error (some "q1")) := by
  have hprincipal : (anaSaves permissions).principal = SearchService.viewer := rfl
  refine step_anaAt ?_
  simp only [next, hprincipal, h]

/-- Only Bob may read the query back that Ana saves. -/
def forBob : Dict := [("allowed_subject_ids", .arr [.str "bob"])]

end Sample

end SavedQueryService

end Sip
