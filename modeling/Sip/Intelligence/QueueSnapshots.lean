import Sip.Foundation.SortBy
import Sip.Intelligence.Budget

/-!
# Queue snapshots

A snapshot is recognised by the hash of its values, which contains no time: values that are known already get no
second row, and their row keeps the time it was inserted at. The dashboard of a project looks at its 500 latest rows
and shows the latest of each queue class; rows of one instant come in any order.
-/

namespace Sip

set_option autoImplicit false

structure QueueValues where
  tenantId : Option String
  projectId : Option String
  queueClass : String
  depth : Int
  inFlight : Int
  retries : Int
  oldestAgeSeconds : PyFloat
  capacity : Int
  deriving DecidableEq

def QueueValues.body (values : QueueValues) : Dict := [
  ("tenant_id", .ofOption values.tenantId), ("project_id", .ofOption values.projectId),
  ("queue_class", .str values.queueClass), ("depth", .int values.depth), ("in_flight", .int values.inFlight),
  ("retries", .int values.retries), ("oldest_age_seconds", .float values.oldestAgeSeconds), ("capacity", .int values.capacity)]

def QueueValues.digest (values : QueueValues) : String := canonicalSha256 (.obj values.body)

structure QueueSnapshotRow extends QueueValues where
  snapshotId : String
  sampledAt : Nat
  snapshotHash : String
  deriving DecidableEq

structure QueueDb extends BudgetDb where
  snapshots : Table QueueSnapshotRow (fun row => row.snapshotId)

namespace OperationsIntelligenceService

section Recording

structure SnapshotRequest where
  values : QueueValues
  actorId : String

/-- The checks at the head of `record_queue_snapshot`, and the values with the class normalized. -/
def normalizedQueue (values : QueueValues) : Except Raised QueueValues := do
  raiseIf (min (min (min values.depth values.inFlight) values.retries) values.capacity < 0 ∨
      values.oldestAgeSeconds.value < 0 ∨ values.capacity < values.inFlight)
    (validationError "QUEUE_SNAPSHOT_INVALID" "queue snapshot contains invalid values")
  let queueClass ← requireIdentifier values.queueClass "QUEUE_CLASS_INVALID" "queue_class" resourceMarks 255
  return { values with queueClass }

/-- `if tenant_id and project_id: self._require_project(..)` -/
def requireQueueScope (db : BudgetDb) (tenantId projectId : Option String) : Except Raised Unit :=
  match given tenantId, given projectId with
  | some tenantId, some projectId => do
    let _ ← requireProject db tenantId projectId
    return ()
  | _, _ => .ok ()

def snapshotRow (values : QueueValues) (now : Nat) (newId : String) : QueueSnapshotRow :=
  { values with snapshotId := newId, sampledAt := now, snapshotHash := values.digest }

def snapshotPayload (row : QueueSnapshotRow) : Dict := [
  ("queue_class", .str row.queueClass), ("depth", .int row.depth), ("in_flight", .int row.inFlight),
  ("retries", .int row.retries), ("capacity", .int row.capacity), ("snapshot_hash", .str row.snapshotHash)]

def snapshotEvent (row : QueueSnapshotRow) (actorId : String) : EventRequest where
  eventType := "queue.snapshot_recorded"
  schemaVersion := "1.0.0"
  tenantId := (given row.tenantId).getD "platform"
  projectId := row.projectId.getD ""
  aggregateType := "queue_snapshot"
  aggregateId := row.snapshotId
  payload := snapshotPayload row
  producer := "operations-intelligence"
  actorId := some actorId
  workloadIdentity := none
  correlationId := row.snapshotId

def insertSnapshot (db : QueueDb) (row : QueueSnapshotRow) : Except Raised QueueDb := do
  raiseIf (db.snapshots.rows.any fun other => other.snapshotHash = row.snapshotHash)
    (.integrityError "queue_snapshots.snapshot_hash")
  let snapshots ← orRaise (db.snapshots.insert? row) (.integrityError "queue_snapshots.snapshot_id")
  return { db with snapshots }

/-- `_queue_result` -/
structure QueueResult where
  snapshot : QueueSnapshotRow
  idempotentReplay : Bool

/-- Values that no row has the hash of. The time of the new row is its column default, which the flush sets; only the
lookup of the project for the event flushes before `_queue_result` reads it. -/
def insertNewSnapshot (db : QueueDb) (now : Nat) (newId : String) (values : QueueValues) (actorId : String) :
    Except Raised (QueueResult × QueueDb) := do
  let row := snapshotRow values now newId
  let event ← createEvent db.toStore now (snapshotEvent row actorId)
  raiseIf (given values.projectId = none) (.attributeError "'NoneType' object has no attribute 'isoformat'")
  let db ← insertSnapshot db row
  return (⟨row, false⟩, { db with outbox := db.outbox ++ [event] })

/-- The row with the hash of the values. -/
def knownSnapshot (db : QueueDb) (values : QueueValues) : Option QueueSnapshotRow :=
  db.snapshots.rows.find? fun row => row.snapshotHash = values.digest

def recordQueueSnapshot (db : QueueDb) (now : Nat) (newId : String) (req : SnapshotRequest) :
    Except Raised (QueueResult × QueueDb) := do
  let values ← normalizedQueue req.values
  requireQueueScope db.toBudgetDb values.tenantId values.projectId
  match knownSnapshot db values with
  | some existing => return (⟨existing, true⟩, db)
  | none => insertNewSnapshot db now newId values req.actorId

end Recording

section Dashboard

def snapshotsOf (db : QueueDb) (tenantId projectId : String) : List QueueSnapshotRow :=
  db.snapshots.rows.filter fun row => row.tenantId = some tenantId ∧ row.projectId = some projectId

/-- What `ORDER BY sampled_at DESC LIMIT 500` may return. -/
def Selected (db : QueueDb) (tenantId projectId : String) (rows : List QueueSnapshotRow) : Prop :=
  ∃ order, Descending (fun row => row.sampledAt) (snapshotsOf db tenantId projectId) order ∧ rows = order.take 500

/-- `latest.setdefault(row.queue_class, row)` over the selected rows, in the order of the classes. -/
def queueDashboard (db : QueueDb) (tenantId projectId : String) (rows : List QueueSnapshotRow) :
    Except Raised (List QueueResult) := do
  let _ ← requireProject db.toBudgetDb tenantId projectId
  return (sortedSet (fun row => row.queueClass) rows).map fun row => ⟨row, false⟩

/-- What a dashboard reports for a queue class. -/
def reportedFor (queues : List QueueResult) (queueClass : String) : Option QueueValues :=
  (queues.find? fun queue => queue.snapshot.queueClass = queueClass).map fun queue => queue.snapshot.toQueueValues

/-- Every dashboard of the project that the values are recorded for reports exactly them for their class. -/
def Reported (db : QueueDb) (values : QueueValues) : Prop :=
  ∀ tenantId projectId, values.tenantId = some tenantId → values.projectId = some projectId →
    ∀ rows, Selected db tenantId projectId rows →
      ∃ queues, queueDashboard db tenantId projectId rows = .ok queues ∧ reportedFor queues values.queueClass = some values

end Dashboard

section Calls

structure Sampling where
  req : SnapshotRequest
  now : Nat
  newId : String

def sample (db : QueueDb) (call : Sampling) : QueueDb :=
  match recordQueueSnapshot db call.now call.newId call.req with
  | .ok (_, db') => db'
  | .error _ => db

/-- If the call returns, the values it has recorded are reported. -/
def ReportedAfter (db : QueueDb) (call : Sampling) : Prop :=
  ∀ result db' values, recordQueueSnapshot db call.now call.newId call.req = .ok (result, db') →
    normalizedQueue call.req.values = .ok values → Reported db' values

/-- The time of the row that has the values after the call: the values may be known since long ago. -/
def sampleTime (db : QueueDb) (now : Nat) (values : QueueValues) : Nat :=
  match knownSnapshot db values with
  | some known => known.sampledAt
  | none => now

/-- Other rows of the class are older, and fewer than 500 rows with other values are not. -/
def Foremost (rows : List QueueSnapshotRow) (values : QueueValues) (time : Nat) : Prop :=
  (∀ row ∈ rows, row.queueClass = values.queueClass → row.toQueueValues ≠ values → row.sampledAt < time) ∧
    (rows.filter fun row => row.toQueueValues ≠ values ∧ time ≤ row.sampledAt).length < 500

/-- The scope of the values is a project of the tenant, a row with their hash has these values, and the row is the
foremost of its class. -/
def StandsLatest (db : QueueDb) (now : Nat) (values : QueueValues) : Prop :=
  ∀ tenantId projectId, values.tenantId = some tenantId → values.projectId = some projectId →
    (∃ project, requireProject db.toBudgetDb tenantId projectId = .ok project) ∧
    (∀ known, knownSnapshot db values = some known → known.toQueueValues = values) ∧
    Foremost (snapshotsOf db tenantId projectId) values (sampleTime db now values)

/-- If the call returns, its values stand latest. -/
def LatestBefore (db : QueueDb) (call : Sampling) : Prop :=
  ∀ values, normalizedQueue call.req.values = .ok values →
    (∃ result, recordQueueSnapshot db call.now call.newId call.req = .ok result) → StandsLatest db call.now values

/-- Rows have the hash of their values and are told apart by it. -/
structure Hashed (db : QueueDb) : Prop where
  hash : ∀ row ∈ db.snapshots.rows, row.snapshotHash = row.digest
  distinct : (db.snapshots.rows.map fun row => row.snapshotHash).Nodup

end Calls

section Reports
variable {db db' : QueueDb} {values : QueueValues} {tenantId projectId : String}

theorem mem_snapshotsOf_iff {row : QueueSnapshotRow} : row ∈ snapshotsOf db tenantId projectId ↔
    row ∈ db.snapshots.rows ∧ row.tenantId = some tenantId ∧ row.projectId = some projectId := by
  rw [snapshotsOf, List.mem_filter, decide_eq_true_iff]

theorem Hashed.eq_of_values (hdb : Hashed db) {a b : QueueSnapshotRow} (ha : a ∈ db.snapshots.rows)
    (hb : b ∈ db.snapshots.rows) (h : a.toQueueValues = b.toQueueValues) : a = b := by
  have hhash : a.snapshotHash = b.snapshotHash := by rw [hdb.hash a ha, hdb.hash b hb, h]
  exact List.inj_on_of_nodup_map hdb.distinct ha hb hhash

/-- A dashboard reports for a class the first selected row of the class. -/
theorem reportedFor_queueDashboard {rows : List QueueSnapshotRow} {queues : List QueueResult} {queueClass : String}
    (h : queueDashboard db tenantId projectId rows = .ok queues) : reportedFor queues queueClass =
      (rows.find? fun row => row.queueClass = queueClass).map fun row => row.toQueueValues := by
  simp only [queueDashboard, bind_eq_ok] at h
  obtain ⟨project, _, h⟩ := h
  cases h
  rw [reportedFor, List.find?_map, Option.map_map, ← find?_sortedSet (fun row : QueueSnapshotRow => row.queueClass) rows]
  rfl

theorem queueDashboard_ok_iff {rows : List QueueSnapshotRow} : (∃ queues, queueDashboard db tenantId projectId rows = .ok queues) ↔
    ∃ project, requireProject db.toBudgetDb tenantId projectId = .ok project := by
  constructor
  · rintro ⟨queues, h⟩
    simp only [queueDashboard, bind_eq_ok] at h
    obtain ⟨project, hproject, _⟩ := h
    exact ⟨project, hproject⟩
  · rintro ⟨project, hproject⟩
    refine ⟨(sortedSet (fun row => row.queueClass) rows).map fun row => ⟨row, false⟩, ?_⟩
    simp only [queueDashboard, bind_eq_ok]
    exact ⟨project, hproject, rfl⟩

theorem selected_descend (db : QueueDb) (tenantId projectId : String) : Selected db tenantId projectId
    ((descend (fun row => row.sampledAt) (snapshotsOf db tenantId projectId)).take 500) :=
  ⟨_, descending_descend _ _, rfl⟩

/-- The row of the values comes first in every selection if and only if it is the foremost. -/
theorem find?_selected_iff (hdb : Hashed db) {row : QueueSnapshotRow} (hrow : row ∈ snapshotsOf db tenantId projectId) :
    (∀ rows, Selected db tenantId projectId rows → (rows.find? fun other => other.queueClass = row.queueClass) = some row) ↔
      Foremost (snapshotsOf db tenantId projectId) row.toQueueValues row.sampledAt := by
  have hnodup : (snapshotsOf db tenantId projectId).Nodup := (List.Nodup.of_map _ db.snapshots.nodup).filter _
  have hne : ∀ other ∈ snapshotsOf db tenantId projectId, other ≠ row ↔ other.toQueueValues ≠ row.toQueueValues := by
    intro other hother
    refine not_congr ⟨fun h => h ▸ rfl, ?_⟩
    exact hdb.eq_of_values (mem_snapshotsOf_iff.mp hother).1 (mem_snapshotsOf_iff.mp hrow).1
  have hcount : ((snapshotsOf db tenantId projectId).filter fun other => other ≠ row ∧ row.sampledAt ≤ other.sampledAt) =
      (snapshotsOf db tenantId projectId).filter fun other =>
        other.toQueueValues ≠ row.toQueueValues ∧ row.sampledAt ≤ other.sampledAt := by
    apply List.filter_congr
    intro other hother
    exact decide_eq_decide.mpr (and_congr_left fun _ => hne other hother)
  have hfirst := @find?_take_descending_iff _ _ _ (fun other : QueueSnapshotRow => other.sampledAt) _ _ hnodup
    (fun other => other.queueClass = row.queueClass) _ hrow (decide_eq_true rfl) 500
  rw [hcount] at hfirst
  constructor
  · intro h
    obtain ⟨hlatest, hfew⟩ := hfirst.mp fun order horder => h _ ⟨order, horder, rfl⟩
    refine ⟨?_, hfew⟩
    intro other hother hclass hvalues
    exact hlatest other hother (decide_eq_true hclass) ((hne other hother).mpr hvalues)
  · rintro ⟨hlatest, hfew⟩ rows ⟨order, horder, rfl⟩
    refine hfirst.mpr ⟨?_, hfew⟩ order horder
    intro other hother hclass hother'
    exact hlatest other hother (of_decide_eq_true hclass) ((hne other hother).mp hother')

theorem reported_iff (hdb : Hashed db) {row : QueueSnapshotRow} (hrow : row ∈ db.snapshots.rows) :
    Reported db row.toQueueValues ↔ ∀ tenantId projectId, row.tenantId = some tenantId → row.projectId = some projectId →
      (∃ project, requireProject db.toBudgetDb tenantId projectId = .ok project) ∧
        Foremost (snapshotsOf db tenantId projectId) row.toQueueValues row.sampledAt := by
  refine forall_congr' fun tenantId => forall_congr' fun projectId => forall_congr' fun htenant => forall_congr' fun hproject => ?_
  have hmem : row ∈ snapshotsOf db tenantId projectId := mem_snapshotsOf_iff.mpr ⟨hrow, htenant, hproject⟩
  rw [← find?_selected_iff hdb hmem]
  constructor
  · intro h
    refine ⟨?_, ?_⟩
    · obtain ⟨queues, hqueues, _⟩ := h _ (selected_descend db tenantId projectId)
      exact queueDashboard_ok_iff.mp ⟨queues, hqueues⟩
    · intro rows hrows
      obtain ⟨queues, hqueues, hreport⟩ := h rows hrows
      rw [reportedFor_queueDashboard hqueues, Option.map_eq_some_iff] at hreport
      obtain ⟨found, hfound, hvalues⟩ := hreport
      obtain ⟨order, horder, rfl⟩ := hrows
      have hin := horder.1.mem_iff.mp (List.mem_of_mem_take (List.mem_of_find?_eq_some hfound))
      rw [hfound, hdb.eq_of_values (mem_snapshotsOf_iff.mp hin).1 hrow hvalues]
  · rintro ⟨hexists, hfirst⟩ rows hrows
    obtain ⟨queues, hqueues⟩ := queueDashboard_ok_iff.mpr hexists
    refine ⟨queues, hqueues, ?_⟩
    rw [reportedFor_queueDashboard hqueues, hfirst rows hrows]
    rfl

end Reports

section Steps
variable {db db' : QueueDb}

theorem insertNewSnapshot_ok {now : Nat} {newId actorId : String} {values : QueueValues} {result : QueueResult}
    (h : insertNewSnapshot db now newId values actorId = .ok (result, db')) :
    db'.snapshots.rows = db.snapshots.rows ++ [snapshotRow values now newId] ∧ db'.projects = db.projects := by
  simp only [insertNewSnapshot, insertSnapshot, bind_eq_ok, orRaise_eq_ok] at h
  obtain ⟨event, _, _, _, inserted, ⟨_, _, snapshots, hsnapshots, hinserted⟩, h⟩ := h
  cases hinserted
  cases h
  exact ⟨(Table.insert?_eq_some hsnapshots).2, rfl⟩

/-- A call that returns has found the row with the hash of its values, or has inserted it. -/
theorem recordQueueSnapshot_ok {now : Nat} {newId : String} {req : SnapshotRequest} {result : QueueResult} {values : QueueValues}
    (hvalues : normalizedQueue req.values = .ok values) (h : recordQueueSnapshot db now newId req = .ok (result, db')) :
    ((∃ known, knownSnapshot db values = some known) ∧ db' = db) ∨
      (knownSnapshot db values = none ∧ insertNewSnapshot db now newId values req.actorId = .ok (result, db')) := by
  simp only [recordQueueSnapshot, bind_eq_ok, hvalues, Except.ok.injEq] at h
  obtain ⟨_, rfl, _, _, h⟩ := h
  split at h
  next known hknown =>
    cases h
    exact .inl ⟨⟨known, hknown⟩, rfl⟩
  next hnone => exact .inr ⟨hnone, h⟩

theorem requireProject_congr {db db' : BudgetDb} (h : db'.projects = db.projects) (tenantId projectId : String) :
    requireProject db' tenantId projectId = requireProject db tenantId projectId := by
  rw [requireProject, requireProject, h]

theorem knownSnapshot_eq_some {values : QueueValues} {known : QueueSnapshotRow} (h : knownSnapshot db values = some known) :
    known ∈ db.snapshots.rows ∧ known.snapshotHash = values.digest :=
  ⟨List.mem_of_find?_eq_some h, by simpa using List.find?_some h⟩

theorem hashed_insertNewSnapshot (hdb : Hashed db) {now : Nat} {newId actorId : String} {values : QueueValues}
    {result : QueueResult} (hnone : knownSnapshot db values = none)
    (h : insertNewSnapshot db now newId values actorId = .ok (result, db')) : Hashed db' := by
  obtain ⟨hrows, _⟩ := insertNewSnapshot_ok h
  constructor
  · intro row hrow
    rw [hrows, List.mem_append, List.mem_singleton] at hrow
    rcases hrow with hrow | rfl
    · exact hdb.hash row hrow
    · rfl
  · rw [hrows, List.map_append, List.map_singleton, List.nodup_append]
    refine ⟨hdb.distinct, List.nodup_singleton _, ?_⟩
    intro hash hmem new hnew heq
    obtain ⟨row, hrow, rfl⟩ := List.mem_map.mp hmem
    have hdigest : row.snapshotHash = values.digest := heq.trans (List.mem_singleton.mp hnew)
    exact List.find?_eq_none.mp hnone row hrow (decide_eq_true hdigest)

theorem hashed_sample (db : QueueDb) (call : Sampling) (hdb : Hashed db) : Hashed (sample db call) := by
  unfold sample
  split
  next result db' h =>
    have hnormal : ∃ values, normalizedQueue call.req.values = .ok values := by
      simp only [recordQueueSnapshot, bind_eq_ok] at h
      obtain ⟨values, hvalues, _⟩ := h
      exact ⟨values, hvalues⟩
    obtain ⟨values, hvalues⟩ := hnormal
    rcases recordQueueSnapshot_ok hvalues h with ⟨_, rfl⟩ | ⟨hnone, hinsert⟩
    · exact hdb
    · exact hashed_insertNewSnapshot hdb hnone hinsert
  next => exact hdb

/-- A further row with the values changes nothing about what stands before them. -/
theorem foremost_append {rows : List QueueSnapshotRow} {row : QueueSnapshotRow} {time : Nat} :
    Foremost (rows ++ [row]) row.toQueueValues time ↔ Foremost rows row.toQueueValues time := by
  have hnone : [row].filter (fun other => other.toQueueValues ≠ row.toQueueValues ∧ time ≤ other.sampledAt) = [] := by simp
  rw [Foremost, Foremost, List.filter_append, hnone, List.append_nil]
  refine and_congr_left fun _ => ⟨fun h other hother => h other (List.mem_append_left _ hother), ?_⟩
  intro h other hother hclass hne
  rcases List.mem_append.mp hother with hother | hother
  · exact h other hother hclass hne
  · exact absurd (congrArg QueueSnapshotRow.toQueueValues (List.mem_singleton.mp hother)) hne

/-- What a returning call has recorded is reported if and only if its values stand latest before the call. -/
theorem reported_record_iff (hdb : Hashed db) {now : Nat} {newId : String} {req : SnapshotRequest} {result : QueueResult}
    {values : QueueValues} (hvalues : normalizedQueue req.values = .ok values)
    (h : recordQueueSnapshot db now newId req = .ok (result, db')) : Reported db' values ↔ StandsLatest db now values := by
  rcases recordQueueSnapshot_ok hvalues h with ⟨⟨known, hknown⟩, rfl⟩ | ⟨hnone, hinsert⟩
  · obtain ⟨hmem, hhash⟩ := knownSnapshot_eq_some hknown
    have htime : sampleTime db' now values = known.sampledAt := by simp only [sampleTime, hknown]
    by_cases hsame : known.toQueueValues = values
    · subst hsame
      rw [reported_iff hdb hmem]
      simp only [StandsLatest, htime, hknown, Option.some.injEq, forall_eq', true_and]
    · constructor
      · intro hreport tenantId projectId htenant hproject
        obtain ⟨queues, hqueues, hfound⟩ := hreport tenantId projectId htenant hproject _ (selected_descend db' tenantId projectId)
        rw [reportedFor_queueDashboard hqueues, Option.map_eq_some_iff] at hfound
        obtain ⟨found, hfound, rfl⟩ := hfound
        have hin := mem_snapshotsOf_iff.mp ((descending_descend _ _).1.mem_iff.mp
          (List.mem_of_mem_take (List.mem_of_find?_eq_some hfound)))
        have heq : found = known := List.inj_on_of_nodup_map hdb.distinct hin.1 hmem ((hdb.hash found hin.1).trans hhash.symm)
        exact absurd (congrArg QueueSnapshotRow.toQueueValues heq.symm) hsame
      · intro hlatest tenantId projectId htenant hproject
        exact absurd ((hlatest tenantId projectId htenant hproject).2.1 known hknown) hsame
  · obtain ⟨hrows, hprojects⟩ := insertNewSnapshot_ok hinsert
    have hmem : snapshotRow values now newId ∈ db'.snapshots.rows := by
      rw [hrows]
      exact List.mem_append_right _ (List.mem_singleton_self _)
    have htime : sampleTime db now values = now := by simp only [sampleTime, hnone]
    have hreported := reported_iff (hashed_insertNewSnapshot hdb hnone hinsert) hmem
    refine hreported.trans ?_
    refine forall_congr' fun tenantId => forall_congr' fun projectId => forall_congr' fun htenant => forall_congr' fun hproject => ?_
    have hof : snapshotsOf db' tenantId projectId = snapshotsOf db tenantId projectId ++ [snapshotRow values now newId] := by
      rw [snapshotsOf, hrows, List.filter_append, snapshotsOf]
      refine congrArg _ (List.filter_eq_self.mpr ?_)
      intro row hrow
      rw [List.mem_singleton.mp hrow]
      exact decide_eq_true ⟨htenant, hproject⟩
    rw [hof, foremost_append, requireProject_congr hprojects, htime]
    refine and_congr_right fun _ => (and_iff_right ?_).symm
    intro known hknown
    rw [hnone] at hknown
    cases hknown

theorem reportedAfter_iff (hdb : Hashed db) (call : Sampling) : ReportedAfter db call ↔ LatestBefore db call := by
  constructor
  · rintro h values hvalues ⟨⟨result, db'⟩, hrecord⟩
    exact (reported_record_iff hdb hvalues hrecord).mp (h result db' values hrecord hvalues)
  · intro h result db' values hrecord hvalues
    exact (reported_record_iff hdb hvalues hrecord).mpr (h values hvalues ⟨_, hrecord⟩)

/-- Along every sequence of calls: after each call that returns the dashboards report what it has recorded, if and only if
the values of each such call stand latest when it is made. -/
theorem queue_dashboard_reports_iff (hdb : Hashed db) (calls : List Sampling) :
    Along sample ReportedAfter db calls ↔ Along sample LatestBefore db calls :=
  Along.congr_of_invariant hashed_sample (fun _ call hdb => reportedAfter_iff hdb call) hdb

end Steps

section Sample

variable {db : QueueDb}

/-- Values that no row has the hash of get a row. -/
theorem recordQueueSnapshot_of_new {values : QueueValues} {now : Nat} {newId actorId : String}
    (hnormal : normalizedQueue values = .ok values)
    (hscope : requireQueueScope db.toBudgetDb values.tenantId values.projectId = .ok ())
    (hproject : given values.projectId ≠ none)
    (hpayload : validatePayload (snapshotPayload (snapshotRow values now newId)) = .ok ())
    (hnew : knownSnapshot db values = none) (hid : db.snapshots.get? newId = none) :
    ∃ result db', recordQueueSnapshot db now newId ⟨values, actorId⟩ = .ok (result, db') ∧
      db'.snapshots.rows = db.snapshots.rows ++ [snapshotRow values now newId] ∧ db'.projects = db.projects := by
  have hhash : ¬ (db.snapshots.rows.any fun other => other.snapshotHash = (snapshotRow values now newId).snapshotHash) = true := by
    rw [knownSnapshot, List.find?_eq_none] at hnew
    rw [List.any_eq_true]
    rintro ⟨other, hother, hsame⟩
    exact hnew other hother hsame
  obtain ⟨snapshots, hinsert⟩ := @Table.insert?_isSome _ _ db.snapshots (snapshotRow values now newId) hid
  have hcreated : ∃ event, createEvent db.toStore now (snapshotEvent (snapshotRow values now newId) actorId) = .ok event := by
    simp only [createEvent, bind_eq_ok, raiseIf_eq_ok]
    exact ⟨_, ⟨"queue.snapshot_recorded", "1.0.0", "queue_snapshot", "operations-intelligence"⟩, rfl, (), not_not.mpr rfl, (),
      not_not.mpr rfl, (), hpayload, rfl⟩
  obtain ⟨event, hevent⟩ := hcreated
  have hrecorded : insertNewSnapshot db now newId values actorId =
      .ok (⟨snapshotRow values now newId, false⟩, { db with snapshots, outbox := db.outbox ++ [event] }) := by
    simp only [insertNewSnapshot, insertSnapshot, bind_eq_ok, orRaise_eq_ok, raiseIf_eq_ok]
    exact ⟨event, hevent, (), hproject, { db with snapshots }, ⟨(), hhash, snapshots, hinsert, rfl⟩, rfl⟩
  have hcall : recordQueueSnapshot db now newId ⟨values, actorId⟩ = insertNewSnapshot db now newId values actorId := by
    simp only [recordQueueSnapshot, hnormal, hscope, hnew, bind, Except.bind]
  exact ⟨_, _, hcall.trans hrecorded, insertNewSnapshot_ok hrecorded⟩

/-- Values that are known already get the row that is there. -/
theorem recordQueueSnapshot_of_known {values : QueueValues} {known : QueueSnapshotRow} (now : Nat) (newId actorId : String)
    (hnormal : normalizedQueue values = .ok values)
    (hscope : requireQueueScope db.toBudgetDb values.tenantId values.projectId = .ok ())
    (hknown : knownSnapshot db values = some known) :
    recordQueueSnapshot db now newId ⟨values, actorId⟩ = .ok (⟨known, true⟩, db) := by
  simp only [recordQueueSnapshot, hnormal, hscope, hknown, bind, Except.bind, pure, Except.pure]

theorem sample_of_ok {db' : QueueDb} {call : Sampling} {result : QueueResult}
    (h : recordQueueSnapshot db call.now call.newId call.req = .ok (result, db')) : sample db call = db' := by
  simp only [sample, h]

/-- A database with one project and no snapshot. -/
def oneProject : QueueDb where
  toBudgetDb := { BudgetDb.empty with projects := .single ⟨"p1", "t1", "internal", "active"⟩ }
  snapshots := .empty

def ingestQueue (depth : Int) : QueueValues where
  tenantId := some "t1"
  projectId := some "p1"
  queueClass := "ingest"
  depth := depth
  inFlight := 0
  retries := 0
  oldestAgeSeconds := .zero
  capacity := 4

def sampling (depth : Int) (now : Nat) (newId : String) : Sampling := ⟨⟨ingestQueue depth, "ana"⟩, now, newId⟩

def shallowHash : String := "31ba6f1f0fa27bf5d1706e80699bdcc00f3ef8250acb4808a9ec09266175f75d"

def deepHash : String := "4466af0bc35d8c5773f57a57e9fc776e24fe5a2b3c2a53ae5707b30ed47495d6"

def queueDocuments : List (Json × String) := [
  (.obj (ingestQueue 1).body, shallowHash), (.obj (ingestQueue 2).body, deepHash)]

set_option maxRecDepth 10000 in
theorem hashTo_queueDocuments : hashTo queueDocuments = true := by decide +kernel

theorem digest_shallow : (ingestQueue 1).digest = shallowHash := canonicalSha256_of_hashTo hashTo_queueDocuments 0 rfl

theorem digest_deep : (ingestQueue 2).digest = deepHash := canonicalSha256_of_hashTo hashTo_queueDocuments 1 rfl

theorem validatePayload_ingestQueue {depth : Int} (hdepth : depth.natAbs < 2 ^ 63) (now : Nat) (newId : String) :
    validatePayload (snapshotPayload (snapshotRow (ingestQueue depth) now newId)) = .ok () := by
  have hkeys : (snapshotPayload (snapshotRow (ingestQueue depth) now newId)).map Prod.fst =
      ["queue_class", "depth", "in_flight", "retries", "capacity", "snapshot_hash"] := rfl
  apply validatePayload_brief hkeys rfl (by decide)
  intro p hp
  simp only [snapshotPayload, List.mem_cons, List.not_mem_nil, or_false] at hp
  rcases hp with rfl | rfl | rfl | rfl | rfl | rfl
  · exact @brief_str "ingest" (by decide)
  · exact brief_int hdepth
  · exact @brief_int 0 (by decide)
  · exact @brief_int 0 (by decide)
  · exact @brief_int 4 (by decide)
  · exact brief_sha256 _

theorem hashed_oneProject : Hashed oneProject := ⟨fun _ h => absurd h List.not_mem_nil, List.nodup_nil⟩

/-- The queue has one element, then two, and then one again: the third call returns the row of the first one, and the
dashboards go on to report two elements. -/
theorem returned_values_not_reported : ¬ ∀ calls : List Sampling, (calls.map fun call => call.now).Pairwise (· ≤ ·) →
    Along sample ReportedAfter oneProject calls := by
  intro h
  obtain ⟨first, db, hfirst, hrows, hprojects⟩ := @recordQueueSnapshot_of_new oneProject (ingestQueue 1) 1 "s1" "ana" rfl rfl
    (by decide) (validatePayload_ingestQueue (by decide) 1 "s1") rfl rfl
  obtain ⟨second, db', hsecond, hrows', hprojects'⟩ := @recordQueueSnapshot_of_new db (ingestQueue 2) 2 "s2" "ana" rfl
    (by simp only [requireQueueScope, requireProject, hprojects]; rfl) (by decide)
    (validatePayload_ingestQueue (by decide) 2 "s2")
    (by rw [knownSnapshot, hrows, digest_deep]; simp only [snapshotRow, digest_shallow]; rfl)
    (by rw [Table.get?, hrows]; rfl)
  rw [hrows] at hrows'
  have hknown : knownSnapshot db' (ingestQueue 1) = some (snapshotRow (ingestQueue 1) 1 "s1") := by
    rw [knownSnapshot, hrows']
    exact List.find?_cons_of_pos (decide_eq_true rfl)
  have hscope : requireQueueScope db'.toBudgetDb (some "t1") (some "p1") = .ok () := by
    simp only [requireQueueScope, requireProject, hprojects', hprojects]
    rfl
  have hnormal : normalizedQueue (ingestQueue 1) = .ok (ingestQueue 1) := rfl
  have hthird := recordQueueSnapshot_of_known 3 "s3" "ana" hnormal hscope hknown
  have hone : sample oneProject (sampling 1 1 "s1") = db := @sample_of_ok oneProject db (sampling 1 1 "s1") first hfirst
  have htwo : sample db (sampling 2 2 "s2") = db' := @sample_of_ok db db' (sampling 2 2 "s2") second hsecond
  have hhashed : Hashed db' := by
    rw [← htwo, ← hone]
    exact hashed_sample _ _ (hashed_sample _ _ hashed_oneProject)
  have hreported := h [sampling 1 1 "s1", sampling 2 2 "s2", sampling 1 3 "s3"] (by decide)
  rw [Along, Along, Along, hone, htwo] at hreported
  have hafter : ReportedAfter db' (sampling 1 3 "s3") := hreported.2.2.1
  have hreport : Reported db' (ingestQueue 1) :=
    hafter ⟨snapshotRow (ingestQueue 1) 1 "s1", true⟩ db' (ingestQueue 1) hthird hnormal
  have hlatest : StandsLatest db' 3 (ingestQueue 1) :=
    (@reported_record_iff db' db' hhashed 3 "s3" ⟨ingestQueue 1, "ana"⟩ _ _ hnormal hthird).mp hreport
  have hforemost := (hlatest "t1" "p1" rfl rfl).2.2.1
  have hdeep : snapshotRow (ingestQueue 2) 2 "s2" ∈ snapshotsOf db' "t1" "p1" := by
    rw [mem_snapshotsOf_iff, hrows']
    exact ⟨List.mem_append_right _ (List.mem_singleton_self _), rfl, rfl⟩
  have hdepth : ingestQueue 2 ≠ ingestQueue 1 := by decide
  have hlt : 2 < sampleTime db' 3 (ingestQueue 1) := hforemost _ hdeep rfl hdepth
  rw [sampleTime, hknown] at hlt
  exact absurd hlt (by decide : ¬ 2 < 1)

/-- The first snapshot of a queue is reported. -/
theorem queue_dashboard_reports_iff_first : Along sample ReportedAfter oneProject [sampling 1 1 "s1"] := by
  refine (queue_dashboard_reports_iff hashed_oneProject [sampling 1 1 "s1"]).mpr ⟨?_, trivial⟩
  intro values hvalues _ tenantId projectId htenant hproject
  have hnormal : normalizedQueue (ingestQueue 1) = .ok (ingestQueue 1) := rfl
  cases hnormal.symm.trans hvalues
  cases htenant
  cases hproject
  refine ⟨⟨_, rfl⟩, ?_, ?_, Nat.zero_lt_succ 499⟩
  · intro known hknown
    cases hknown
  · intro row hrow
    cases hrow

end Sample

end OperationsIntelligenceService

end Sip
