import Sip.Construction.Issues

/-!
# One story about a deficiency

The record of a deficiency should be closed exactly when its issue is verified closed.
Each call that closes one of the two leaves the other as it is, so the two agree for as
long as neither is closed.
-/

namespace Sip

set_option autoImplicit false

/-- The record of a deficiency and its issue tell one story, and the reporter has not closed either. -/
structure Agrees (record : FacilityRecordRow) (issue : ConstructionIssueRow) : Prop where
  closed_iff : record.state = "closed" ↔ issue.status = .verifiedClosed
  reporter : record.createdBy = issue.reporterId
  closer : record.state = "closed" → record.dataJson.get "closed_by" ≠ .str record.createdBy
  verifier : issue.status = .verifiedClosed → issue.verificationJson.get "verifier_id" ≠ .str issue.reporterId

/-- The record names the issue that was opened for it. -/
def NamesIssue (record : FacilityRecordRow) (issueId : String) : Prop := record.dataJson.get "issue_id" = .str issueId

def OneStory (db : ConstructionDb) : Prop :=
  ∀ record ∈ db.records.rows, record.recordType = "deficiency" →
    ∃ issue ∈ db.issues.rows, NamesIssue record issue.issueId ∧ Agrees record issue

inductive DeficiencyCall where
  | create (stamp : ConstructionService.DeficiencyStamp) (req : ConstructionService.DeficiencyRequest)
  | retest (now : Nat) (req : ConstructionService.RetestRequest)
  | transition (stamp : Stamp) (req : ConstructionService.TransitionRequest)

namespace ConstructionService

section Calls
variable (svc : ConstructionService)

def deficiencyStep (db : ConstructionDb) : DeficiencyCall → ConstructionDb
  | .create stamp req => (svc.createDeficiency db stamp req).1
  | .retest now req => match correctAndRetest db now req with
    | .ok (db', _) => db'
    | .error _ => db
  | .transition stamp req => match svc.transitionIssue db stamp req with
    | .ok (db', _) => db'
    | .error _ => db

/-- The key of a new issue comes from a fresh identifier. -/
def FreshKey (db : ConstructionDb) : DeficiencyCall → Prop
  | .create stamp _ => ∀ issue ∈ db.issues.rows, issue.idempotencyKey ≠ legacyKey stamp
  | _ => True

/-- A passing retest that the checks let through. -/
def ClosesRecord (db : ConstructionDb) (req : RetestRequest) : Prop :=
  req.testResult = "pass" ∧ ∃ found, readRetest db req = .ok found

/-- The verified closure of a deficiency's issue, by an independent verifier, that the checks let through. -/
def ClosesIssue (db : ConstructionDb) (stamp : Stamp) (req : TransitionRequest) : Prop :=
  req.targetState = "verified_closed" ∧
    (∃ row store, svc.readIssue db .verifiedClosed req = .ok row ∧ checkTransition row .verifiedClosed req = .ok () ∧
      svc.recordAction db.toStore stamp (transitionAction .verifiedClosed req) = .ok store) ∧
    ∃ record ∈ db.records.rows, record.recordType = "deficiency" ∧ NamesIssue record req.issueId

/-- No call closes a deficiency, on either side. -/
def LeavesOpen (db : ConstructionDb) : DeficiencyCall → Prop
  | .create _ _ => True
  | .retest _ req => ¬ ClosesRecord db req
  | .transition stamp req => ¬ svc.ClosesIssue db stamp req

end Calls

section Outcomes
variable {svc : ConstructionService} {db db' : ConstructionDb}

theorem scopedIssue_eq_ok {tenantId projectId issueId : String} {row : ConstructionIssueRow}
    (h : scopedIssue db tenantId projectId issueId = .ok row) : db.issues.get? issueId = some row := by
  simp only [scopedIssue, bind_eq_ok, orRaise_eq_ok, raiseIf_eq_ok] at h
  obtain ⟨found, hfound, _, _, hrow⟩ := h
  cases hrow
  exact hfound

theorem scopedRecord_eq_ok {tenantId projectId recordId label : String} {row : FacilityRecordRow}
    (h : scopedRecord db tenantId projectId recordId label = .ok row) : db.records.get? recordId = some row := by
  simp only [scopedRecord, bind_eq_ok, orRaise_eq_ok, raiseIf_eq_ok] at h
  obtain ⟨found, hfound, _, _, hrow⟩ := h
  cases hrow
  exact hfound

theorem idempotentIssue_eq_some {tenantId projectId key requestHash : String} {prior : ConstructionIssueRow}
    (h : idempotentIssue db tenantId projectId key requestHash = .ok (some prior)) :
    prior ∈ db.issues.rows ∧ prior.idempotencyKey = key := by
  unfold idempotentIssue at h
  split at h
  · cases h
  · next row hfind =>
    simp only [bind_eq_ok] at h
    obtain ⟨_, _, hprior⟩ := h
    cases hprior
    have hspec := List.find?_some hfind
    simp only [decide_eq_true_eq] at hspec
    exact ⟨List.mem_of_find?_eq_some hfind, hspec.2.2⟩

theorem checkIssue_eq_ok {req : IssueRequest} {severity : IssueSeverity} {prior : Option ConstructionIssueRow}
    (h : svc.checkIssue db req = .ok (severity, prior)) :
    idempotentIssue db req.tenantId req.projectId req.idempotencyKey req.digest = .ok prior := by
  simp only [checkIssue, bind_eq_ok] at h
  obtain ⟨_, _, _, _, _, _, _, hprior, h⟩ := h
  cases h
  exact hprior

/-- A new issue under a fresh key. -/
theorem createIssue_fresh {stamp : IssueStamp} {req : IssueRequest} {result : IssueResult}
    (hfresh : ∀ issue ∈ db.issues.rows, issue.idempotencyKey ≠ req.idempotencyKey)
    (h : svc.createIssue db stamp req = .ok (db', result)) :
    ∃ severity issues store, db.issues.insert? (newIssue stamp req severity) = some issues ∧
      db' = { db with toStore := store, issues } ∧ result.issueId = stamp.issueId := by
  simp only [createIssue, bind_eq_ok] at h
  obtain ⟨⟨severity, prior⟩, hcheck, h⟩ := h
  cases prior with
  | some prior =>
    obtain ⟨hmem, hkey⟩ := idempotentIssue_eq_some (checkIssue_eq_ok hcheck)
    exact absurd hkey (hfresh prior hmem)
  | none =>
    simp only [bind_eq_ok, orRaise_eq_ok] at h
    obtain ⟨_, _, issues, hinsert, store, _, h⟩ := h
    cases h
    exact ⟨severity, issues, store, hinsert, rfl, rfl⟩

/-- An issue whose checks succeed is created as soon as its row and the audit entry are accepted. -/
theorem createIssue_of {stamp : IssueStamp} {req : IssueRequest} {severity : IssueSeverity} {log : AuditLog}
    {issues : Table ConstructionIssueRow (fun row => row.issueId)} (hcheck : svc.checkIssue db req = .ok (severity, none))
    (hcommit : requireCommit db req.tenantId req.projectId req.observedCommitId = .ok ())
    (hinsert : db.issues.insert? (newIssue stamp req severity) = some issues)
    (haudit : db.toStore.record svc.audit stamp.toStamp (creationAction stamp req).entry = .ok { db.toStore with audit := log })
    (hpayload : validatePayload (creationAction stamp req).payload = .ok ()) :
    ∃ outbox, svc.createIssue db stamp req = .ok
      ({ db with toStore := { db.toStore with audit := log, outbox }, issues }, issueResult (newIssue stamp req severity) false) := by
  obtain ⟨outbox, hstore⟩ := recordAction_of haudit rfl rfl rfl hpayload
  refine ⟨outbox, ?_⟩
  rw [createIssue, hcheck]
  refine bind_eq_ok.mpr ⟨(severity, none), rfl, ?_⟩
  simp only [bind_eq_ok, orRaise_eq_ok]
  exact ⟨(), hcommit, issues, hinsert, _, hstore, rfl⟩

/-- What a transition does: nothing, or one step of the issue's life cycle. -/
theorem transitionIssue_eq_ok {stamp : Stamp} {req : TransitionRequest} {result : IssueResult}
    (h : svc.transitionIssue db stamp req = .ok (db', result)) :
    db' = db ∨ ∃ target row store, req.targetState = target.value ∧ svc.readIssue db target req = .ok row ∧
      checkTransition row target req = .ok () ∧
      svc.recordAction db.toStore stamp (transitionAction target req) = .ok store ∧
      db' = { db with toStore := store, issues := db.issues.set (transitioned row target stamp.now req) } := by
  simp only [transitionIssue, bind_eq_ok, orRaise_eq_ok] at h
  obtain ⟨target, htarget, row, hrow, h⟩ := h
  split at h
  · cases h
    exact .inl rfl
  · simp only [bind_eq_ok] at h
    obtain ⟨_, hcheck, store, hstore, h⟩ := h
    cases h
    have htext : req.targetState = target.value := by
      have hspec := List.find?_some htarget
      exact (of_decide_eq_true hspec).symm
    exact .inr ⟨target, row, store, htext, hrow, hcheck, hstore, rfl⟩

/-- The closure of an open issue goes through when its checks do. -/
theorem transitionIssue_closes {stamp : Stamp} {req : TransitionRequest} {row : ConstructionIssueRow} {store : Store}
    (htarget : req.targetState = "verified_closed") (hrow : svc.readIssue db .verifiedClosed req = .ok row)
    (hcheck : checkTransition row .verifiedClosed req = .ok ())
    (hstore : svc.recordAction db.toStore stamp (transitionAction .verifiedClosed req) = .ok store) :
    ∃ result, svc.transitionIssue db stamp req = .ok
      ({ db with toStore := store, issues := db.issues.set (transitioned row .verifiedClosed stamp.now req) }, result) := by
  have hstate : IssueState.ofText? req.targetState = some .verifiedClosed := by
    rw [htarget]
    decide
  have hnew : IssueState.verifiedClosed ≠ row.status := by
    intro hsame
    simp only [checkTransition, bind_eq_ok, raiseIf_eq_ok, ← hsame] at hcheck
    obtain ⟨_, hnext, _⟩ := hcheck
    exact hnext (List.not_mem_nil)
  refine ⟨issueResult (transitioned row .verifiedClosed stamp.now req) false, ?_⟩
  simp only [transitionIssue, bind_eq_ok, orRaise_eq_ok]
  refine ⟨.verifiedClosed, hstate, row, hrow, ?_⟩
  rw [if_neg hnew]
  simp only [bind_eq_ok]
  exact ⟨(), hcheck, store, hstore, rfl⟩

theorem readIssue_get {target : IssueState} {req : TransitionRequest} {row : ConstructionIssueRow}
    (h : svc.readIssue db target req = .ok row) : db.issues.get? req.issueId = some row := by
  simp only [readIssue, bind_eq_ok] at h
  obtain ⟨_, _, found, hfound, _, _, h⟩ := h
  cases h
  exact scopedIssue_eq_ok hfound

theorem checkTransition_eq_ok {row : ConstructionIssueRow} {target : IssueState} {req : TransitionRequest}
    (h : checkTransition row target req = .ok ()) :
    target ∈ row.status.next ∧ (target = .verifiedClosed → req.actorId ≠ row.reporterId) := by
  simp only [checkTransition, bind_eq_ok, raiseIf_eq_ok, not_not, not_and] at h
  obtain ⟨_, hnext, _, _, hverifier⟩ := h
  exact ⟨hnext, hverifier⟩

theorem readRetest_eq_ok {req : RetestRequest} {row : FacilityRecordRow} {history : List Json}
    (h : readRetest db req = .ok (row, history)) :
    db.records.get? req.deficiencyId = some row ∧ row.recordType = "deficiency" ∧ row.state ≠ "closed" := by
  simp only [readRetest, bind_eq_ok, raiseIf_eq_ok, not_not] at h
  obtain ⟨_, _, found, hfound, _, _, _, htype, _, hstate, _, _, h⟩ := h
  cases h
  exact ⟨scopedRecord_eq_ok hfound, htype, hstate⟩

/-- A record still names its issue after a retest. -/
theorem namesIssue_retested {row : FacilityRecordRow} {history : List Json} {now : Nat} {req : RetestRequest} {issueId : String} :
    NamesIssue (retested row history now req) issueId ↔ NamesIssue row issueId := by
  have hkept : (retested row history now req).dataJson.lookup "issue_id" = row.dataJson.lookup "issue_id" :=
    Dict.lookup_merge_of_not_mem _ (by simp)
  rw [NamesIssue, NamesIssue, Dict.get, Dict.get, hkept]

end Outcomes

section Steps
variable {svc : ConstructionService} {db : ConstructionDb}

theorem NamesIssue.unique {record : FacilityRecordRow} {first second : ConstructionIssueRow} (hfirst : first ∈ db.issues.rows)
    (hsecond : second ∈ db.issues.rows) (h : NamesIssue record first.issueId) (h' : NamesIssue record second.issueId) :
    first = second := by
  apply List.inj_on_of_nodup_map db.issues.nodup hfirst hsecond
  have htext : Json.str first.issueId = Json.str second.issueId := h.symm.trans h'
  exact Json.str.inj htext

/-- An open record and an issue that is not closed agree, if they have one reporter. -/
theorem agrees_open {record : FacilityRecordRow} {issue : ConstructionIssueRow} (hrecord : record.state ≠ "closed")
    (hissue : issue.status ≠ .verifiedClosed) (hreporter : record.createdBy = issue.reporterId) : Agrees record issue where
  closed_iff := iff_of_false hrecord hissue
  reporter := hreporter
  closer := fun h => absurd h hrecord
  verifier := fun h => absurd h hissue

theorem oneStory_create (h : OneStory db) {stamp : DeficiencyStamp} {req : DeficiencyRequest}
    (hfresh : FreshKey db (.create stamp req)) : OneStory (svc.deficiencyStep db (.create stamp req)) := by
  rw [deficiencyStep, createDeficiency]
  split
  · exact h
  · next db' result hissue =>
    have hkey : ∀ issue ∈ db.issues.rows, issue.idempotencyKey ≠ (deficiencyIssue stamp req).idempotencyKey := hfresh
    obtain ⟨severity, issues, store, hinsert, rfl, hid⟩ := createIssue_fresh hkey hissue
    have hissues := (Table.insert?_eq_some hinsert).2
    have hold : ∀ record ∈ db.records.rows, record.recordType = "deficiency" →
        ∃ issue ∈ issues.rows, NamesIssue record issue.issueId ∧ Agrees record issue := by
      intro record hrecord htype
      obtain ⟨issue, hmem, hnames, hagrees⟩ := h record hrecord htype
      refine ⟨issue, ?_, hnames, hagrees⟩
      rw [hissues]
      exact List.mem_append_left _ hmem
    split
    · exact hold
    · next records hrecords =>
      intro record hrecord htype
      dsimp only at hrecord
      rw [(Table.insert?_eq_some hrecords).2, List.mem_append, List.mem_singleton] at hrecord
      rcases hrecord with hrecord | rfl
      · exact hold record hrecord htype
      · refine ⟨newIssue stamp.issue (deficiencyIssue stamp req) severity, ?_, ?_, ?_⟩
        · dsimp only
          rw [hissues]
          exact List.mem_append_right _ (List.mem_singleton_self _)
        · rw [hid]
          rfl
        · apply agrees_open
          · exact of_decide_eq_true rfl
          · exact nofun
          · rfl

/-- What the step of a retest does. -/
theorem deficiencyStep_retest {now : Nat} {req : RetestRequest} {row : FacilityRecordRow} {history : List Json}
    (h : readRetest db req = .ok (row, history)) : svc.deficiencyStep db (.retest now req) =
      { db with records := db.records.set (retested row history now req) } := by
  have hcall : correctAndRetest db now req = .ok ({ db with records := db.records.set (retested row history now req) },
      ⟨req.deficiencyId, (retested row history now req).state, req.testResult, history.length + 2⟩) := by
    rw [correctAndRetest, h]
    rfl
  simp only [deficiencyStep, hcall]

theorem oneStory_retest_iff (h : OneStory db) {now : Nat} {req : RetestRequest} :
    OneStory (svc.deficiencyStep db (.retest now req)) ↔ ¬ ClosesRecord db req := by
  cases hread : readRetest db req with
  | error e =>
    have hsame : svc.deficiencyStep db (.retest now req) = db := by
      simp only [deficiencyStep, correctAndRetest, hread, bind, Except.bind]
    rw [hsame]
    apply iff_of_true h
    rintro ⟨_, found, hfound⟩
    cases hread.symm.trans hfound
  | ok found =>
    obtain ⟨row, history⟩ := found
    obtain ⟨hget, htype, hstate⟩ := readRetest_eq_ok hread
    obtain ⟨hmem, hid⟩ := (Table.get?_eq_some_iff _ _ _).mp hget
    obtain ⟨issue, hissue, hnames, hagrees⟩ := h row hmem htype
    have hopen : issue.status ≠ .verifiedClosed := fun hclosed => hstate (hagrees.closed_iff.mpr hclosed)
    have hnames' : NamesIssue (retested row history now req) issue.issueId := namesIssue_retested.mpr hnames
    rw [deficiencyStep_retest hread]
    by_cases hpass : req.testResult = "pass"
    · apply iff_of_false
      · intro hstory
        have hwritten : retested row history now req ∈ (db.records.set (retested row history now req)).rows := by
          refine List.mem_map.mpr ⟨row, hmem, ?_⟩
          exact if_pos rfl
        obtain ⟨other, hother, hothernames, hotheragrees⟩ := hstory _ hwritten htype
        have hone : other = issue := NamesIssue.unique hother hissue hothernames hnames'
        subst hone
        exact hopen (hotheragrees.closed_iff.mp (if_pos hpass))
      · exact not_not.mpr ⟨hpass, (row, history), hread⟩
    · apply iff_of_true
      · intro record hrecord hdeficiency
        obtain ⟨old, hold, hrow⟩ := List.mem_map.mp hrecord
        split at hrow
        · subst hrow
          refine ⟨issue, hissue, hnames', ?_⟩
          apply agrees_open
          · have hleft : (retested row history now req).state = "open" := if_neg hpass
            rw [hleft]
            decide
          · exact hopen
          · exact hagrees.reporter
        · subst hrow
          exact h old hold hdeficiency
      · intro hcloses
        exact hpass hcloses.1

/-- A written issue keeps its identifier and its reporter. -/
theorem transitioned_kept (row : ConstructionIssueRow) (target : IssueState) (now : Nat) (req : TransitionRequest) :
    (transitioned row target now req).issueId = row.issueId ∧ (transitioned row target now req).reporterId = row.reporterId ∧
      (transitioned row target now req).status = target :=
  ⟨rfl, rfl, rfl⟩

/-- A state that has a next one is not a verified closure. -/
theorem ne_verifiedClosed {state target : IssueState} (h : target ∈ state.next) : state ≠ .verifiedClosed := by
  rintro rfl
  exact absurd h List.not_mem_nil

/-- An issue moves on to a state that is not a verified closure, or no deficiency names it. -/
theorem oneStory_transition (h : OneStory db) {row : ConstructionIssueRow} (hrow : db.issues.get? row.issueId = some row)
    {target : IssueState} (hnext : target ∈ row.status.next) (now : Nat) (req : TransitionRequest)
    (hopen : target = .verifiedClosed → ∀ record ∈ db.records.rows, record.recordType = "deficiency" →
      ¬ NamesIssue record row.issueId) (store : Store) :
    OneStory { db with toStore := store, issues := db.issues.set (transitioned row target now req) } := by
  intro record hrecord htype
  obtain ⟨hmem, _⟩ := (Table.get?_eq_some_iff _ _ _).mp hrow
  obtain ⟨issue, hissue, hnames, hagrees⟩ := h record hrecord htype
  by_cases hid : issue.issueId = row.issueId
  · have hone : issue = row := List.inj_on_of_nodup_map db.issues.nodup hissue hmem hid
    subst hone
    have hstate : record.state ≠ "closed" := fun hclosed => ne_verifiedClosed hnext (hagrees.closed_iff.mp hclosed)
    refine ⟨transitioned issue target now req, ?_, hnames, ?_⟩
    · refine List.mem_map.mpr ⟨issue, hissue, ?_⟩
      exact if_pos rfl
    · apply agrees_open hstate
      · intro hclosed
        exact hopen hclosed record hrecord htype hnames
      · exact hagrees.reporter
  · refine ⟨issue, ?_, hnames, hagrees⟩
    refine List.mem_map.mpr ⟨issue, hissue, ?_⟩
    exact if_neg hid

theorem oneStory_transition_iff (h : OneStory db) {stamp : Stamp} {req : TransitionRequest} :
    OneStory (svc.deficiencyStep db (.transition stamp req)) ↔ ¬ svc.ClosesIssue db stamp req := by
  constructor
  · rintro hstory ⟨htarget, ⟨row, store, hread, hcheck, hstore⟩, record, hrecord, htype, hnames⟩
    obtain ⟨result, hcall⟩ := transitionIssue_closes htarget hread hcheck hstore
    obtain ⟨hmem, hid⟩ := (Table.get?_eq_some_iff _ _ _).mp (readIssue_get hread)
    have hstep : svc.deficiencyStep db (.transition stamp req) =
        { db with toStore := store, issues := db.issues.set (transitioned row .verifiedClosed stamp.now req) } := by
      simp only [deficiencyStep, hcall]
    rw [hstep] at hstory
    rw [← hid] at hnames
    obtain ⟨issue, hissue, hissuenames, hagrees⟩ := h record hrecord htype
    have hone : issue = row := NamesIssue.unique hissue hmem hissuenames hnames
    subst hone
    have hopen := ne_verifiedClosed (checkTransition_eq_ok hcheck).1
    have hwritten : transitioned issue .verifiedClosed stamp.now req ∈
        (db.issues.set (transitioned issue .verifiedClosed stamp.now req)).rows := by
      refine List.mem_map.mpr ⟨issue, hissue, ?_⟩
      exact if_pos rfl
    obtain ⟨other, hother, hothernames, hotheragrees⟩ := hstory record hrecord htype
    have hsame : other = transitioned issue .verifiedClosed stamp.now req := by
      apply List.inj_on_of_nodup_map (db.issues.set (transitioned issue .verifiedClosed stamp.now req)).nodup hother hwritten
      have htext : Json.str other.issueId = Json.str issue.issueId := hothernames.symm.trans hnames
      exact Json.str.inj htext
    subst hsame
    have hclosed := hotheragrees.closed_iff.mpr rfl
    exact hopen (hagrees.closed_iff.mp hclosed)
  · intro hleaves
    cases hcall : svc.transitionIssue db stamp req with
    | error e =>
      have hsame : svc.deficiencyStep db (.transition stamp req) = db := by simp only [deficiencyStep, hcall]
      rw [hsame]
      exact h
    | ok outcome =>
      obtain ⟨db', result⟩ := outcome
      have hstep : svc.deficiencyStep db (.transition stamp req) = db' := by simp only [deficiencyStep, hcall]
      rw [hstep]
      obtain hsame | ⟨target, row, store, htarget, hread, hcheck, hstore, rfl⟩ := transitionIssue_eq_ok hcall
      · rw [hsame]
        exact h
      · have hget := readIssue_get hread
        have hid := ((Table.get?_eq_some_iff _ _ _).mp hget).2
        rw [← hid] at hget
        apply oneStory_transition h hget (checkTransition_eq_ok hcheck).1
        rintro rfl record hrecord htype hnames
        rw [hid] at hnames
        exact hleaves ⟨htarget, ⟨row, store, hread, hcheck, hstore⟩, record, hrecord, htype, hnames⟩

theorem oneStory_step_iff (h : OneStory db) {call : DeficiencyCall} (hfresh : FreshKey db call) :
    OneStory (svc.deficiencyStep db call) ↔ svc.LeavesOpen db call := by
  cases call with
  | create stamp req => exact iff_of_true (oneStory_create h hfresh) trivial
  | retest now req => exact oneStory_retest_iff h
  | transition stamp req => exact oneStory_transition_iff h

end Steps

/-- Over every run of calls from a database without deficiencies, the records and the issues tell one story in every state
exactly when no call closes a deficiency on one of the two sides. -/
theorem one_story_iff (svc : ConstructionService) {db : ConstructionDb}
    (hstart : ∀ record ∈ db.records.rows, record.recordType ≠ "deficiency") {calls : List DeficiencyCall}
    (hfresh : Along svc.deficiencyStep FreshKey db calls) :
    (∀ before, before <+: calls → OneStory (run svc.deficiencyStep db before)) ↔
      Along svc.deficiencyStep svc.LeavesOpen db calls := by
  have hstory : OneStory db := fun record hrecord htype => absurd htype (hstart record hrecord)
  apply prefix_invariant_iff _ hstory hfresh
  intro db call hfresh h
  exact oneStory_step_iff h hfresh

section Sample

def panelPhoto : AssetRefRow where
  assetId := "photo"
  tenantId := "t1"
  projectId := "p1"
  sha256 := genesisHash
  originalName := "panel.jpg"
  classification := "internal"
  retentionClass := "standard"
  sourceClass := "observed"
  authorityClass := "evidence"
  provenanceJson := []
  createdBy := "ines"

/-- A project with a photo of a panel. -/
def panelDb : ConstructionDb := { Store.empty with
  refs := ⟨[panelPhoto], List.nodup_singleton _⟩
  objects := ⟨[⟨genesisHash, 1, "image/jpeg", "k", ⟨"", "", "", "", "", ""⟩, 0⟩], List.nodup_singleton _⟩
  commits := .empty
  records := .empty
  issues := .empty }

/-- Ines reports that a label is missing. -/
def missingLabel : DeficiencyRequest := ⟨"t1", "p1", "panel", "Missing circuit label", "medium", ["photo"], "ines"⟩

def labelStamp : DeficiencyStamp := ⟨⟨⟨1, "a1"⟩, "i1"⟩, "k1", "d1", 2⟩

/-- Ines finds that the label is there now. -/
def labelRetest : RetestRequest := ⟨"d1", "t1", "p1", "Installed the label", ["photo"], "pass", ["photo"], "ines"⟩

theorem panelDb_start : ∀ record ∈ panelDb.records.rows, record.recordType ≠ "deficiency" :=
  fun _ h => absurd h List.not_mem_nil

def labelCalls : List DeficiencyCall := [.create labelStamp missingLabel, .retest 3 labelRetest]

theorem freshKey_labelCalls : Along zeroConstruction.deficiencyStep FreshKey panelDb labelCalls :=
  ⟨fun _ h => absurd h List.not_mem_nil, trivial, trivial⟩

theorem one_story_iff_missingLabel :
    (∀ before, before <+: labelCalls → OneStory (run zeroConstruction.deficiencyStep panelDb before)) ↔
      Along zeroConstruction.deficiencyStep zeroConstruction.LeavesOpen panelDb labelCalls :=
  one_story_iff zeroConstruction panelDb_start freshKey_labelCalls

theorem checkIssue_missingLabel :
    zeroConstruction.checkIssue panelDb (deficiencyIssue labelStamp missingLabel) = .ok (.medium, none) := rfl

/-- The deficiency is recorded, together with its issue. -/
theorem createDeficiency_missingLabel : ∃ db, zeroConstruction.deficiencyStep panelDb (.create labelStamp missingLabel) = db ∧
    db.refs = panelDb.refs ∧ db.objects = panelDb.objects ∧
      db.records.rows = [deficiencyRecord labelStamp missingLabel "i1"] := by
  obtain ⟨issues, hinsert⟩ := @Table.insert?_isSome _ _ panelDb.issues
    (newIssue labelStamp.issue (deficiencyIssue labelStamp missingLabel) .medium) rfl
  obtain ⟨log, haudit⟩ := @Store.record_of_empty .zeroKey panelDb.toStore labelStamp.issue.toStamp
    (creationAction labelStamp.issue (deficiencyIssue labelStamp missingLabel)).entry rfl
  have hpayload : validatePayload (creationAction labelStamp.issue (deficiencyIssue labelStamp missingLabel)).payload = .ok () := by
    apply eq_ok_of_isOk
    decide
  obtain ⟨outbox, hissue⟩ := createIssue_of checkIssue_missingLabel rfl hinsert haudit hpayload
  refine ⟨_, rfl, ?_⟩
  simp only [deficiencyStep, createDeficiency, hissue]
  exact ⟨rfl, rfl, rfl⟩

theorem readRetest_labelRetest {db : ConstructionDb} (hrefs : db.refs = panelDb.refs) (hobjects : db.objects = panelDb.objects)
    (hrecords : db.records.rows = [deficiencyRecord labelStamp missingLabel "i1"]) :
    ∃ found, readRetest db labelRetest = .ok found := by
  obtain ⟨store, refs, objects, commits, ⟨rows, nodup⟩, issues⟩ := db
  dsimp only at hrefs hobjects hrecords
  subst hrefs hobjects hrecords
  exact ⟨_, rfl⟩

/-- Ines closes the deficiency that she has reported, and its issue stays open. -/
theorem reporter_closes_deficiency : (∀ record ∈ panelDb.records.rows, record.recordType ≠ "deficiency") ∧
    Along zeroConstruction.deficiencyStep FreshKey panelDb labelCalls ∧
      ¬ OneStory (run zeroConstruction.deficiencyStep panelDb labelCalls) := by
  refine ⟨panelDb_start, freshKey_labelCalls, ?_⟩
  obtain ⟨db, hdb, hrefs, hobjects, hrecords⟩ := createDeficiency_missingLabel
  have hempty : OneStory panelDb := fun record hrecord htype => absurd htype (panelDb_start record hrecord)
  have hstory : OneStory db := by
    rw [← hdb]
    exact oneStory_create hempty fun _ h => absurd h List.not_mem_nil
  have hcloses : ClosesRecord db labelRetest := by
    exact ⟨rfl, readRetest_labelRetest hrefs hobjects hrecords⟩
  rw [labelCalls, run_cons, hdb]
  intro h
  have hopen := (@oneStory_retest_iff zeroConstruction db hstory 3 labelRetest).mp h
  exact hopen hcloses

end Sample

end ConstructionService

end Sip
