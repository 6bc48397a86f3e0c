import Mathlib.Algebra.Group.Action.Defs
import Mathlib.Algebra.Order.BigOperators.Group.List
import Mathlib.Data.List.Infix
import Sip.Database
import Sip.Foundation.HashEvaluation

/-!
# Outbox events

The factory looks an event up in the catalog, checks its producer and aggregate,
bounds the payload, and builds the row. The envelope contract that is checked last
holds by construction: the payload hash is computed from the payload and both times
are the same reading, so only the checks below can refuse an event.
-/

namespace Sip

set_option autoImplicit false

structure EventCatalogEntry where
  type : String
  version : String
  aggregate : String
  owner : String

/-- The catalog entries of the events that the modelled services publish. -/
def eventCatalog : List EventCatalogEntry := [
  ⟨"operation.cancel_requested", "1.0.0", "operation", "workflow-service"⟩,
  ⟨"operation.checkpoint_resume_authorized", "1.0.0", "operation", "operations-intelligence"⟩,
  ⟨"operation.checkpointed", "1.0.0", "operation", "workflow-service"⟩,
  ⟨"operation.created", "1.0.0", "operation", "workflow-service"⟩,
  ⟨"operation.failed", "1.0.0", "operation", "workflow-service"⟩,
  ⟨"operation.lease_released", "1.0.0", "operation", "workflow-service"⟩,
  ⟨"operation.lease_renewed", "1.0.0", "operation", "workflow-service"⟩,
  ⟨"operation.leased", "1.0.0", "operation", "workflow-service"⟩,
  ⟨"operation.quarantined", "1.0.0", "operation", "workflow-service"⟩,
  ⟨"operation.succeeded", "1.0.0", "operation", "workflow-service"⟩,
  ⟨"scene.committed", "1.0.0", "scene_commit", "scene-service"⟩,
  ⟨"coordinate_frame.registered", "1.0.0", "coordinate_frame", "scene-service"⟩,
  ⟨"spatial_transform.registered", "1.0.0", "spatial_transform", "scene-service"⟩,
  ⟨"geometry_manifest.registered", "1.0.0", "geometry_manifest", "evidence-service"⟩,
  ⟨"measurement.recorded", "1.0.0", "measurement", "scene-service"⟩,
  ⟨"representation.candidate_created", "1.0.0", "representation", "representation-api"⟩,
  ⟨"representation.dependency_invalidated", "1.0.0", "representation", "representation-api"⟩,
  ⟨"representation.published", "1.0.0", "representation_binding", "representation-publisher"⟩,
  ⟨"provider.promotion_changed", "1.0.0", "provider_promotion", "provider-registry"⟩,
  ⟨"representation.operation.requested", "1.0.0", "spatial_conversion", "representation-api"⟩,
  ⟨"representation.operation.admitted", "1.0.0", "spatial_conversion", "representation-api"⟩,
  ⟨"representation.operation.rejected", "1.0.0", "spatial_conversion", "representation-api"⟩,
  ⟨"representation.operation.failed", "1.0.0", "spatial_conversion", "representation-api"⟩,
  ⟨"representation.cleanup.completed", "1.0.0", "spatial_conversion", "representation-api"⟩,
  ⟨"representation.cleanup.failed", "1.0.0", "spatial_conversion", "representation-api"⟩,
  ⟨"representation.worker_lease.renewed", "1.0.0", "spatial_conversion", "representation-api"⟩,
  ⟨"representation.provider.progressed", "1.0.0", "spatial_conversion", "representation-api"⟩,
  ⟨"representation.output.quarantined", "1.0.0", "representation", "representation-api"⟩,
  ⟨"representation.validation.completed", "1.0.0", "representation", "representation-api"⟩,
  ⟨"representation.manual_exported", "1.0.0", "manual_provider_transfer", "representation-api"⟩,
  ⟨"representation.manual_returned", "1.0.0", "manual_provider_transfer", "representation-api"⟩,
  ⟨"hybrid_scene_view.issued", "1.0.0", "hybrid_scene_view", "representation-api"⟩,
  ⟨"deletion.purge_completed", "1.0.0", "purge_run", "recovery-control"⟩,
  ⟨"recovery.action_denied", "1.0.0", "recovery_denial", "recovery-control"⟩,
  ⟨"recovery.backup_expired", "1.0.0", "backup_expiry", "recovery-control"⟩,
  ⟨"recovery.point_created", "1.0.0", "recovery_point", "recovery-control"⟩,
  ⟨"recovery.point_verified", "1.0.0", "recovery_point", "recovery-control"⟩,
  ⟨"recovery.restore_completed", "1.0.0", "restore_run", "recovery-control"⟩,
  ⟨"recovery.restore_failed", "1.0.0", "restore_run", "recovery-control"⟩,
  ⟨"retention.inventory_evaluated", "1.0.0", "retention_inventory", "recovery-control"⟩,
  ⟨"change_candidate.reviewed", "1.0.0", "change_review", "scene-service"⟩,
  ⟨"scene.change.accepted", "1.0.0", "semantic_change_event", "scene-service"⟩,
  ⟨"scene.change.applied", "1.0.0", "temporal_comparison", "scene-service"⟩,
  ⟨"liveforever.consent.granted", "1.0.0", "consent_grant", "liveforever"⟩,
  ⟨"liveforever.consent.revoked", "1.0.0", "consent_grant", "liveforever"⟩,
  ⟨"liveforever.memory.recorded", "1.0.0", "memory_record", "liveforever"⟩,
  ⟨"liveforever.memory.reviewed", "1.0.0", "liveforever_record_review", "liveforever"⟩,
  ⟨"budget.admission_denied", "1.0.0", "cost_estimate", "operations-intelligence"⟩,
  ⟨"budget.policy_registered", "1.0.0", "budget_policy", "operations-intelligence"⟩,
  ⟨"budget.reservation_admitted", "1.0.0", "budget_reservation", "operations-intelligence"⟩,
  ⟨"budget.reservation_released", "1.0.0", "budget_reservation", "operations-intelligence"⟩,
  ⟨"support.bundle_created", "1.0.0", "support_bundle", "operations-intelligence"⟩,
  ⟨"workload_identity.issued", "1.0.0", "workload_identity_grant", "security-ops"⟩,
  ⟨"workload_identity.revoked", "1.0.0", "workload_identity_grant", "security-ops"⟩,
  ⟨"deployment.edge.enrolled", "1.0.0", "edge_node", "deployment-control"⟩,
  ⟨"deployment.edge.health_reported", "1.0.0", "edge_node", "deployment-control"⟩,
  ⟨"deployment.edge.revoked", "1.0.0", "edge_node", "deployment-control"⟩,
  ⟨"deployment.update.applied", "1.0.0", "edge_node", "deployment-control"⟩,
  ⟨"deployment.update.rolled_back", "1.0.0", "edge_node", "deployment-control"⟩,
  ⟨"deployment.admission.decided", "1.0.0", "deployment_admission", "deployment-control"⟩,
  ⟨"construction.issue.created", "1.0.0", "construction_issue", "construction"⟩,
  ⟨"construction.issue.transitioned", "1.0.0", "construction_issue", "construction"⟩,
  ⟨"construction.handoff.created", "1.0.0", "construction_handoff", "construction"⟩,
  ⟨"construction.restricted_export.approved", "1.0.0", "construction_restricted_export_approval", "construction"⟩,
  ⟨"liveforever.derivative.registered", "1.0.0", "liveforever_derivative", "liveforever"⟩,
  ⟨"liveforever.preservation.created", "1.0.0", "liveforever_preservation", "liveforever"⟩,
  ⟨"liveforever.edition.created", "1.0.0", "liveforever_edition", "liveforever"⟩,
  ⟨"privacy_rights.completed", "1.0.0", "privacy_rights_request", "security-ops"⟩,
  ⟨"queue.snapshot_recorded", "1.0.0", "queue_snapshot", "operations-intelligence"⟩,
  ⟨"saved_query.created", "1.0.0", "saved_query", "search-service"⟩]

def getEvent (eventType version : String) : Except Raised EventCatalogEntry :=
  orRaise (eventCatalog.find? fun entry => entry.type = eventType ∧ entry.version = version)
    (validationError "EVENT_SCHEMA_UNREGISTERED" "event type and version are not registered"
      [("event_type", .str eventType), ("schema_version", .str version)])

section Payload

def forbiddenPayloadFragments : List String := [
  "raw_geometry", "mesh_vertices", "gaussians", "media_bytes", "image_bytes", "audio_bytes",
  "transcript_text", "precise_coordinates", "secret", "password", "access_token"]

/-- `str.lower()` as far as it can spell a fragment: besides the capitals only the
Kelvin sign becomes a letter of one. -/
def lowerChar (c : Char) : Char :=
  if c.toNat = 0x212A then 'k' else if 'A' ≤ c ∧ c ≤ 'Z' then Char.ofNat (c.toNat + 32) else c

def forbidden (key : String) : Bool :=
  forbiddenPayloadFragments.any fun fragment => fragment.toList <:+: key.toList.map lowerChar

def childPath (path key : String) : String := if path = "" then key else path ++ "." ++ key

def reportedPath (path key : String) : String :=
  String.ofList ((path ++ "." ++ key).toList.dropWhile (· = '.'))

mutual
def walk (path : String) : Json → Except Raised Unit
  | .obj fields => walkFields path fields
  | .arr items => do
    raiseIf (256 < items.length) (validationError "EVENT_PAYLOAD_UNBOUNDED"
      "event payload list exceeds the bounded item limit" [("path", .str path)])
    walkItems path 0 items
  | _ => .ok ()
def walkFields (path : String) : List (String × Json) → Except Raised Unit
  | [] => .ok ()
  | (key, child) :: fields => do
    raiseIf (forbidden key = true) (validationError "EVENT_PAYLOAD_SENSITIVE"
      "event payload contains a forbidden raw or sensitive field" [("path", .str (reportedPath path key))])
    walk (childPath path key) child
    walkFields path fields
def walkItems (path : String) (index : Nat) : List Json → Except Raised Unit
  | [] => .ok ()
  | child :: items => do
    walk (path ++ "[" ++ String.ofList (Nat.toDigits 10 index) ++ "]") child
    walkItems path (index + 1) items
end

def validatePayload (payload : Dict) : Except Raised Unit := do
  raiseIf (65536 < (canonicalJson (.obj payload)).length)
    (validationError "EVENT_PAYLOAD_TOO_LARGE" "event payload exceeds the bounded summary limit")
  walk "" (.obj payload)

end Payload

section Flat

theorem walk_scalar {v : Json} (h : v.Scalar) (path : String) : walk path v = .ok () := by
  cases v with
  | arr | obj => exact h.elim
  | null | bool | num | str => simp [walk]

theorem walkItems_texts (path : String) (index : Nat) (texts : List String) :
    walkItems path index (texts.map .str) = .ok () := by
  induction texts generalizing index with
  | nil => rfl
  | cons text texts ih =>
    have htext : (Json.str text).Scalar := trivial
    rw [List.map_cons, walkItems, walk_scalar htext]
    exact ih (index + 1)

theorem walk_texts (path : String) {texts : List String} (h : texts.length ≤ 256) :
    walk path (.arr (texts.map .str)) = .ok () := by
  simp only [walk, bind_eq_ok, raiseIf_eq_ok, List.length_map]
  exact ⟨(), not_lt.mpr h, walkItems_texts path 0 texts⟩

theorem walkFields_of_permitted {path : String} {fields : Dict}
    (h : ∀ p ∈ fields, forbidden p.1 = false ∧ ∀ path, walk path p.2 = .ok ()) : walkFields path fields = .ok () := by
  induction fields with
  | nil => rfl
  | cons p fields ih =>
    obtain ⟨hkey, hvalue⟩ := h p (by simp)
    have hrest := ih fun q hq => h q (by simp [hq])
    simp only [walkFields, bind_eq_ok, raiseIf_eq_ok, hkey, exists_const]
    exact ⟨nofun, (), hvalue _, hrest⟩

/-- A payload with permitted keys and values passes as long as its text is short. -/
theorem validatePayload_of_permitted {payload : Dict}
    (h : ∀ p ∈ payload, forbidden p.1 = false ∧ p.2.normalize = p.2 ∧ ∀ path, walk path p.2 = .ok ())
    (hsize : (payload.map fieldSize).sum ≤ 16382) : validatePayload payload = .ok () := by
  have hlen : (canonicalJson (.obj payload)).length ≤ 65536 := by
    have htext := length_encode_obj fun p hp => (h p hp).2.1
    have hbytes := length_utf8_le (Json.obj payload).normalize.encode
    rw [canonicalJson]
    omega
  refine bind_eq_ok.mpr ⟨(), raiseIf_eq_ok.mpr (not_lt.mpr hlen), ?_⟩
  rw [walk]
  exact walkFields_of_permitted fun p hp => ⟨(h p hp).1, (h p hp).2.2⟩

theorem permitted_scalar {v : Json} (h : v.Scalar) : v.normalize = v ∧ ∀ path, walk path v = .ok () :=
  ⟨h.normalize_eq, walk_scalar h⟩

theorem validatePayload_flat {payload : Dict} (h : ∀ p ∈ payload, forbidden p.1 = false ∧ p.2.Scalar)
    (hsize : (payload.map fieldSize).sum ≤ 16382) : validatePayload payload = .ok () := by
  apply validatePayload_of_permitted _ hsize
  intro p hp
  obtain ⟨hkey, hvalue⟩ := h p hp
  exact ⟨hkey, permitted_scalar hvalue⟩

/-- A value that no check of a payload refuses, with a text of at most 800 characters. -/
def Brief (v : Json) : Prop := v.normalize = v ∧ (∀ path, walk path v = .ok ()) ∧ v.encode.length ≤ 800

theorem brief_str {text : String} (h : text.toList.length ≤ 64) : Brief (.str text) := by
  have hlen := length_stringText_le text
  obtain ⟨hnormal, hwalk⟩ := @permitted_scalar (.str text) trivial
  refine ⟨hnormal, hwalk, ?_⟩
  rw [Json.encode]
  omega

theorem brief_sha256 (v : Json) : Brief (.str (canonicalSha256 v)) := brief_str (length_canonicalSha256 v).le

theorem brief_null : Brief .null := ⟨by rw [Json.normalize], walk_scalar trivial, by rw [Json.encode]; decide⟩

theorem brief_ofOption {text : Option String} (h : ∀ s ∈ text, s.toList.length ≤ 64) : Brief (.ofOption text) := by
  cases text with
  | none => exact brief_null
  | some s => exact brief_str (h s rfl)

theorem brief_int {n : Int} (h : n.natAbs < 2 ^ 63) : Brief (.int n) := by
  have hlen := length_intText_le (by decide) (lt_of_lt_of_le h (by decide : 2 ^ 63 ≤ 10 ^ 19))
  obtain ⟨hnormal, hwalk⟩ := @permitted_scalar (.int n) trivial
  refine ⟨hnormal, hwalk, ?_⟩
  rw [Json.encode, Number.text]
  omega

theorem brief_bool (b : Bool) : Brief (.bool b) := by
  obtain ⟨hnormal, hwalk⟩ := @permitted_scalar (.bool b) trivial
  refine ⟨hnormal, hwalk, ?_⟩
  cases b <;> simp [Json.encode]

/-- A short key without a forbidden fragment, for evaluation. -/
def shortKey (key : String) : Bool :=
  (textChars key).length ≤ 32 &&
    forbiddenPayloadFragments.all fun fragment => ¬ textChars fragment <:+: (textChars key).map lowerChar

theorem shortKey_eq_true {key : String} (h : shortKey key = true) : forbidden key = false ∧ key.toList.length ≤ 32 := by
  simp only [shortKey, textChars_eq, Bool.and_eq_true, decide_eq_true_eq] at h
  refine ⟨?_, h.1⟩
  rw [forbidden, List.any_eq_false]
  intro fragment hfragment
  simpa using List.all_eq_true.mp h.2 fragment hfragment

/-- A payload with a few short keys and brief values. -/
theorem validatePayload_brief {payload : Dict} {keys : List String} (hkeys : payload.map Prod.fst = keys)
    (hall : keys.all shortKey = true) (hcount : keys.length ≤ 16) (h : ∀ p ∈ payload, Brief p.2) :
    validatePayload payload = .ok () := by
  have hkey : ∀ p ∈ payload, forbidden p.1 = false ∧ p.1.toList.length ≤ 32 := by
    intro p hp
    have hmem : p.1 ∈ keys := hkeys ▸ List.mem_map_of_mem hp
    exact shortKey_eq_true (List.all_eq_true.mp hall p.1 hmem)
  apply validatePayload_of_permitted
  · intro p hp
    exact ⟨(hkey p hp).1, (h p hp).1, (h p hp).2.1⟩
  · have hfield : ∀ n ∈ payload.map fieldSize, n ≤ 996 := by
      intro n hn
      obtain ⟨p, hp, rfl⟩ := List.mem_map.mp hn
      have hname := length_stringText_le p.1
      have hvalue := (h p hp).2.2
      have hshort := (hkey p hp).2
      simp only [fieldSize]
      omega
    have hsum := List.sum_le_card_nsmul _ _ hfield
    have hlength : payload.length ≤ 16 := by rwa [← hkeys, List.length_map] at hcount
    rw [List.length_map, smul_eq_mul] at hsum
    omega

end Flat

section Trace

/-- The characters `str.strip()` removes. -/
def isSpace (c : Char) : Bool :=
  let n := c.toNat
  (9 ≤ n ∧ n ≤ 13) ∨ (28 ≤ n ∧ n ≤ 32) ∨ n = 0x85 ∨ n = 0xA0 ∨ n = 0x1680 ∨ (0x2000 ≤ n ∧ n ≤ 0x200A) ∨
    n = 0x2028 ∨ n = 0x2029 ∨ n = 0x202F ∨ n = 0x205F ∨ n = 0x3000

def strip (cs : List Char) : List Char := ((cs.dropWhile isSpace).reverse.dropWhile isSpace).reverse

/-- `^00-([a-f0-9]{32})-([a-f0-9]{16})-([a-f0-9]{2})$`, with neither identifier all zero. -/
def isTraceContext (cs : List Char) : Bool :=
  cs.length = 55 ∧ cs.take 3 = "00-".toList ∧ isHexText ((cs.drop 3).take 32) ∧ cs[35]? = some '-' ∧
    isHexText ((cs.drop 36).take 16) ∧ cs[52]? = some '-' ∧ isHexText (cs.drop 53) ∧
    (cs.drop 3).take 32 ≠ List.replicate 32 '0' ∧ (cs.drop 36).take 16 ≠ List.replicate 16 '0'

def normalizeTraceparent (value : Option String) : Except Raised (Option String) :=
  match value with
  | none => .ok none
  | some text =>
    let stripped := strip text.toList
    if stripped = [] then .ok none
    else do
      let candidate := stripped.map lowerChar
      raiseIf (isTraceContext candidate = false)
        (.valueError "traceparent must be a valid W3C version-00 trace context")
      return some (String.ofList candidate)

def traceId (traceparent : Option String) : Option String :=
  match traceparent with
  | none => none
  | some text =>
    match text.toList.splitOn '-' with
    | [_, trace, _, _] => some (String.ofList trace)
    | _ => none

end Trace

structure EventRequest where
  eventType : String
  schemaVersion : String
  tenantId : String
  projectId : String
  aggregateType : String
  aggregateId : String
  payload : Dict
  producer : String
  actorId : Option String
  workloadIdentity : Option String
  traceparent : Option String := none
  correlationId : String := ""
  causationId : Option String := none

/-- `OutboxEventFactory.create`. -/
def createEvent (s : Store) (now : Nat) (r : EventRequest) : Except Raised OutboxEventRow := do
  let entry ← getEvent r.eventType r.schemaVersion
  raiseIf (r.producer ≠ entry.owner) (authorizationError "EVENT_PRODUCER_DENIED"
    "event producer does not own this event contract"
    [("event_type", .str r.eventType), ("expected", .str entry.owner), ("actual", .str r.producer)])
  raiseIf (entry.aggregate ≠ r.aggregateType) (validationError "EVENT_AGGREGATE_MISMATCH"
    "event aggregate does not match the catalog"
    [("event_type", .str r.eventType), ("expected", .str entry.aggregate), ("actual", .str r.aggregateType)])
  validatePayload r.payload
  let project := if r.projectId = "" then none else s.projects.get? r.projectId
  return {
    eventType := r.eventType, schemaVersion := r.schemaVersion, tenantId := r.tenantId, projectId := r.projectId,
    aggregateType := r.aggregateType, aggregateId := r.aggregateId, producer := r.producer,
    classification := (project.map ProjectRow.classification).getD "internal",
    actorId := r.actorId, workloadIdentity := r.workloadIdentity, traceId := traceId r.traceparent,
    correlationId := if r.correlationId = "" then r.aggregateId else r.correlationId,
    causationId := r.causationId,
    payloadJson := r.payload, payloadHash := canonicalSha256 (.obj r.payload), occurredAt := now }

section Refusals

def eventCodes : List String := [
  "EVENT_SCHEMA_UNREGISTERED", "EVENT_PRODUCER_DENIED", "EVENT_AGGREGATE_MISMATCH",
  "EVENT_PAYLOAD_TOO_LARGE", "EVENT_PAYLOAD_SENSITIVE", "EVENT_PAYLOAD_UNBOUNDED"]

/-- An error of the event factory. -/
def EventRefusal (e : Raised) : Prop := ∃ code ∈ eventCodes, e.code? = some code

theorem raiseIf_refusal {c : Prop} [Decidable c] {error e : Raised} (herror : EventRefusal error)
    (h : raiseIf c error = .error e) : EventRefusal e := (raiseIf_eq_error.mp h).2 ▸ herror

mutual
theorem walk_refusal (path : String) (v : Json) {e : Raised} (h : walk path v = .error e) : EventRefusal e := by
  cases v with
  | obj fields =>
    rw [walk] at h
    exact walkFields_refusal path fields h
  | arr items =>
    rw [walk, bind_eq_error] at h
    rcases h with h | ⟨_, _, h⟩
    · exact raiseIf_refusal ⟨"EVENT_PAYLOAD_UNBOUNDED", by decide, rfl⟩ h
    · exact walkItems_refusal path 0 items h
  | null | bool | num | str => simp [walk] at h
theorem walkFields_refusal (path : String) (fields : List (String × Json)) {e : Raised}
    (h : walkFields path fields = .error e) : EventRefusal e := by
  match fields with
  | [] => cases h
  | (key, child) :: rest =>
    rw [walkFields, bind_eq_error] at h
    rcases h with h | ⟨_, _, h⟩
    · exact raiseIf_refusal ⟨"EVENT_PAYLOAD_SENSITIVE", by decide, rfl⟩ h
    · rcases bind_eq_error.mp h with h | ⟨_, _, h⟩
      · exact walk_refusal _ child h
      · exact walkFields_refusal path rest h
theorem walkItems_refusal (path : String) (index : Nat) (items : List Json) {e : Raised}
    (h : walkItems path index items = .error e) : EventRefusal e := by
  match items with
  | [] => cases h
  | child :: rest =>
    rw [walkItems, bind_eq_error] at h
    rcases h with h | ⟨_, _, h⟩
    · exact walk_refusal _ child h
    · exact walkItems_refusal path (index + 1) rest h
end

theorem createEvent_refusal {s : Store} {now : Nat} {r : EventRequest} {e : Raised}
    (h : createEvent s now r = .error e) : EventRefusal e := by
  simp only [createEvent, bind_eq_error] at h
  rcases h with h | ⟨_, _, h | ⟨_, _, h | ⟨_, _, h | ⟨_, _, h⟩⟩⟩⟩
  · obtain ⟨_, rfl⟩ := orRaise_eq_error.mp h
    exact ⟨"EVENT_SCHEMA_UNREGISTERED", by decide, rfl⟩
  · exact raiseIf_refusal ⟨"EVENT_PRODUCER_DENIED", by decide, rfl⟩ h
  · exact raiseIf_refusal ⟨"EVENT_AGGREGATE_MISMATCH", by decide, rfl⟩ h
  · rw [validatePayload, bind_eq_error] at h
    rcases h with h | ⟨_, _, h⟩
    · exact raiseIf_refusal ⟨"EVENT_PAYLOAD_TOO_LARGE", by decide, rfl⟩ h
    · exact walk_refusal _ _ h
  · cases h

end Refusals

end Sip
