import Sip.Deployment.EdgeNodes

/-!
# Undoing updates

Updates are applied on top of each other, and rolling one back is meant to put the node
back to the release and the manifest hash from before. The release is kept with the
application, and the hash in the health document of the node, which health reports
replace and the next update writes over.
-/

namespace Sip

set_option autoImplicit false

/-- The release of a node and the hash of its software manifest. -/
structure Software where
  release : String
  manifestHash : String
  deriving DecidableEq

def EdgeNodeRow.software (node : EdgeNodeRow) : Software := ⟨node.softwareRelease, node.softwareManifestHash⟩

def OfflineUpdatePackageRow.software (update : OfflineUpdatePackageRow) : Software := ⟨update.toRelease, update.manifestHash⟩

/-- An update that is in force, with the software before and after it. -/
structure AppliedUpdate where
  updateId : String
  before : Software
  after : Software

/-- What an update must not do. -/
inductive UpdateFault where
  | mismatchedBase (updateId : String)
  | notOnTop (updateId : String)
  | notRestored (updateId : String)

/-- The database, the updates of the node that are in force, the latest first, and what has gone wrong. -/
structure UpdateLedger where
  db : EdgeDb
  stack : List AppliedUpdate
  faults : List UpdateFault

namespace DeploymentControl

section History
variable (dep : DeploymentControl) (nodeId : String)

/-- An update is applied to the node. -/
def recordApply (ledger : UpdateLedger) (args : UpdateArguments) : UpdateLedger :=
  match ledger.db.nodes.get? nodeId, ledger.db.updates.get? args.updateId with
  | some node, some update => { ledger with
      stack := ⟨args.updateId, node.software, update.software⟩ :: ledger.stack
      faults := if node.softwareRelease = update.fromRelease then ledger.faults
        else .mismatchedBase args.updateId :: ledger.faults }
  | _, _ => ledger

/-- An update of the node is rolled back; `db'` is the database afterwards. -/
def recordRollback (ledger : UpdateLedger) (db' : EdgeDb) (args : RollbackArguments) : UpdateLedger :=
  match ledger.stack with
  | [] => { ledger with faults := .notOnTop args.updateId :: ledger.faults }
  | top :: rest =>
    if top.updateId = args.updateId then { ledger with
      stack := rest
      faults := if (db'.nodes.get? nodeId).map EdgeNodeRow.software = some top.before then ledger.faults
        else .notRestored args.updateId :: ledger.faults }
    else { ledger with faults := .notOnTop args.updateId :: ledger.faults }

def historyStep (ledger : UpdateLedger) (call : EdgeCall) : UpdateLedger :=
  let db' := edgeStep dep ledger.db call
  match call with
  | .apply applicationId stamp args =>
    match dep.applyOfflineUpdate ledger.db applicationId stamp args with
    | .ok _ => if args.edgeNodeId = nodeId ∧ (application? ledger.db nodeId args.updateId).isNone then
        { recordApply nodeId ledger args with db := db' } else { ledger with db := db' }
    | .error _ => { ledger with db := db' }
  | .rollback rolledBackAt stamp args =>
    match dep.rollbackOfflineUpdate ledger.db rolledBackAt stamp args with
    | .ok _ => if args.edgeNodeId = nodeId ∧
          (application? ledger.db nodeId args.updateId).any (fun row => row.state = .applied) then
        { recordRollback nodeId ledger db' args with db := db' } else { ledger with db := db' }
    | .error _ => { ledger with db := db' }
  | _ => { ledger with db := db' }

/-- An update is applied from the release that is recorded, and what is rolled back is the latest update in force, whose
node still has in its health document the manifest hash from before it. -/
def Undisturbed (ledger : UpdateLedger) : EdgeCall → Prop
  | .apply _ _ args => args.edgeNodeId = nodeId → ∀ node update, ledger.db.nodes.get? nodeId = some node →
      ledger.db.updates.get? args.updateId = some update → application? ledger.db nodeId args.updateId = none →
      dep.checkUpdate node update args.currentRelease = .ok () → node.softwareRelease = args.currentRelease
  | .rollback _ _ args => args.edgeNodeId = nodeId → ∀ node update application,
      readRollback ledger.db args = .ok (node, update, application) → application.state = .applied →
      dep.verifySignature update.rollbackBundleHash update.rollbackSignature = true →
        ∃ top rest, ledger.stack = top :: rest ∧ top.updateId = args.updateId ∧
          dep.previousManifestHash node = top.before.manifestHash
  | _ => True

end History

section Chain

/-- The software of the node that has these updates in force. -/
def current (base : Software) : List AppliedUpdate → Software
  | [] => base
  | top :: _ => top.after

/-- Each update was applied to what the ones below it had left. -/
def Chained (base : Software) : List AppliedUpdate → Prop
  | [] => True
  | top :: rest => top.before = current base rest ∧ Chained base rest

end Chain

section Frames
variable {dep : DeploymentControl} {db : EdgeDb}

theorem applications_enroll {stamp : EnrollmentStamp} {req : EnrollmentRequest} :
    (dep.enrollEdgeNode db stamp req).1.applications = db.applications := by
  have hstored : ∀ {db₀ stored workload result}, dep.storeNode db₀ stamp req workload = .ok (stored, result) →
      stored.applications = db₀.applications := by
    intro db₀ stored workload result hok
    rw [storeNode] at hok
    split at hok
    · cases hok
      rfl
    · simp only [bind_eq_ok] at hok
      obtain ⟨nodes, _, store, _, hok⟩ := hok
      cases hok
      rfl
  rw [enrollEdgeNode]
  split
  · rfl
  · rfl
  · split
    · rfl
    · split
      · rfl
      · dsimp only
        split
        · rfl
        · next hok =>
          have hkept := hstored hok
          exact hkept

theorem applications_revoke {stamp : RevocationStamp} {tenantId edgeNodeId reason actorId : String} :
    (dep.revokeEdgeNode db stamp tenantId edgeNodeId reason actorId).1.applications = db.applications := by
  have hnode : ∀ {stored result grantId}, dep.revokeNode db stamp tenantId edgeNodeId reason actorId =
      .ok (stored, result, grantId) → stored.applications = db.applications := by
    intro stored result grantId h
    simp only [revokeNode, bind_eq_ok] at h
    obtain ⟨_, _, row, _, h⟩ := h
    split at h
    · cases h
      rfl
    · simp only [bind_eq_ok] at h
      obtain ⟨store, _, h⟩ := h
      cases h
      rfl
  rw [revokeEdgeNode]
  split
  · rfl
  · next h => exact hnode h
  · next h =>
    have hstored := hnode h
    split
    · exact hstored
    · split
      · exact hstored
      · exact hstored

end Frames

section Steps
variable {dep : DeploymentControl} {nodeId : String} {base : Software} {ledger : UpdateLedger}

structure History (nodeId : String) (base : Software) (ledger : UpdateLedger) : Prop where
  faults : ledger.faults = []
  node : ∃ node, ledger.db.nodes.get? nodeId = some node ∧ node.software = current base ledger.stack
  chained : Chained base ledger.stack
  entries : ∀ e ∈ ledger.stack, ∃ a ∈ ledger.db.applications.rows, a.edgeNodeId = nodeId ∧ a.updateId = e.updateId ∧
    a.previousRelease = e.before.release
  unique : ∀ a ∈ ledger.db.applications.rows, ∀ b ∈ ledger.db.applications.rows, a.edgeNodeId = nodeId →
    b.edgeNodeId = nodeId → a.updateId = b.updateId → a = b

theorem historyStep_report {seenAt : Nat} {stamp : Stamp} {tenantId edgeNodeId actorId : String} {health : Dict} {db' : EdgeDb}
    {result : Dict} (h : dep.reportEdgeHealth ledger.db seenAt stamp tenantId edgeNodeId health actorId = .ok (db', result)) :
    historyStep dep nodeId ledger (.report seenAt stamp tenantId edgeNodeId health actorId) = { ledger with db := db' } := by
  have hstep : edgeStep dep ledger.db (.report seenAt stamp tenantId edgeNodeId health actorId) = db' := by
    rw [edgeStep, h]
    rfl
  rw [← hstep]
  rfl

theorem historyStep_apply {applicationId : String} {stamp : Stamp} {args : UpdateArguments} {db' : EdgeDb} {result : Dict}
    (h : dep.applyOfflineUpdate ledger.db applicationId stamp args = .ok (db', result)) :
    historyStep dep nodeId ledger (.apply applicationId stamp args) =
      if args.edgeNodeId = nodeId ∧ (application? ledger.db nodeId args.updateId).isNone then
        { recordApply nodeId ledger args with db := db' } else { ledger with db := db' } := by
  rw [historyStep, edgeStep, h]
  rfl

theorem historyStep_rollback {rolledBackAt : Nat} {stamp : Stamp} {args : RollbackArguments} {db' : EdgeDb} {result : Dict}
    (h : dep.rollbackOfflineUpdate ledger.db rolledBackAt stamp args = .ok (db', result)) :
    historyStep dep nodeId ledger (.rollback rolledBackAt stamp args) =
      if args.edgeNodeId = nodeId ∧ (application? ledger.db nodeId args.updateId).any (fun row => row.state = .applied) then
        { recordRollback nodeId ledger db' args with db := db' } else { ledger with db := db' } := by
  rw [historyStep, edgeStep, h]
  rfl

/-- The update on top is rolled back. -/
theorem recordRollback_cons {db' : EdgeDb} {args : RollbackArguments} {top : AppliedUpdate} {rest : List AppliedUpdate}
    (hstack : ledger.stack = top :: rest) (htop : top.updateId = args.updateId) :
    recordRollback nodeId ledger db' args = { ledger with
      stack := rest
      faults := if (db'.nodes.get? nodeId).map EdgeNodeRow.software = some top.before then ledger.faults
        else .notRestored args.updateId :: ledger.faults } := by
  rw [recordRollback, hstack]
  simp only [htop, if_true]

/-- A write that leaves the software of the node and its applications. -/
theorem History.frame (h : History nodeId base ledger) {db' : EdgeDb}
    (hnode : ∀ node, ledger.db.nodes.get? nodeId = some node →
      ∃ node', db'.nodes.get? nodeId = some node' ∧ node'.software = node.software)
    (happlications : ∀ a, a.edgeNodeId = nodeId → (a ∈ db'.applications.rows ↔ a ∈ ledger.db.applications.rows)) :
    History nodeId base { ledger with db := db' } where
  faults := h.faults
  node := by
    obtain ⟨node, hfound, hsoftware⟩ := h.node
    obtain ⟨node', hfound', hsame⟩ := hnode node hfound
    exact ⟨node', hfound', hsame.trans hsoftware⟩
  chained := h.chained
  entries := by
    intro e he
    obtain ⟨a, ha, hown, hrest⟩ := h.entries e he
    exact ⟨a, (happlications a hown).mpr ha, hown, hrest⟩
  unique := by
    intro a ha b hb hown hother
    exact h.unique a ((happlications a hown).mp ha) b ((happlications b hother).mp hb) hown hother

theorem history_enroll (h : History nodeId base ledger) (stamp : EnrollmentStamp) (req : EnrollmentRequest) :
    History nodeId base (historyStep dep nodeId ledger (.enroll stamp req)) := by
  apply h.frame
  · intro node hnode
    exact ⟨node, get?_enroll hnode, rfl⟩
  · intro a _
    rw [edgeStep, applications_enroll]

/-- A written row of one node is found under its identifier, and the other nodes stay. -/
theorem get?_set_software {db : EdgeDb} {written old node : EdgeNodeRow}
    (hold : db.nodes.get? written.edgeNodeId = some old) (hsoftware : written.software = old.software)
    (hnode : db.nodes.get? nodeId = some node) :
    ∃ node', (db.nodes.set written).get? nodeId = some node' ∧ node'.software = node.software := by
  by_cases hid : nodeId = written.edgeNodeId
  · subst hid
    have hsame : old = node := Option.some.inj (hold.symm.trans hnode)
    subst hsame
    refine ⟨written, ?_, hsoftware⟩
    rw [Table.get?_set _ hold, if_pos rfl]
  · refine ⟨node, ?_, rfl⟩
    rw [Table.get?_set_of_ne _ hid]
    exact hnode

theorem history_report (h : History nodeId base ledger) (seenAt : Nat) (stamp : Stamp) (tenantId edgeNodeId : String)
    (health : Dict) (actorId : String) :
    History nodeId base (historyStep dep nodeId ledger (.report seenAt stamp tenantId edgeNodeId health actorId)) := by
  cases hcall : dep.reportEdgeHealth ledger.db seenAt stamp tenantId edgeNodeId health actorId with
  | error e =>
    have hsame : historyStep dep nodeId ledger (.report seenAt stamp tenantId edgeNodeId health actorId) = ledger := by
      have hstep : edgeStep dep ledger.db (.report seenAt stamp tenantId edgeNodeId health actorId) = ledger.db := by
        rw [edgeStep, hcall]
        rfl
      exact congrArg (fun db => { ledger with db }) hstep
    rw [hsame]
    exact h
  | ok outcome =>
    obtain ⟨db', result⟩ := outcome
    obtain ⟨row, state, store, hrow, _, _, hdb⟩ := reportEdgeHealth_ok hcall
    have hid := edgeNodeId_eq hrow
    have hkey : (EdgeNodeRow.reported row health state seenAt).edgeNodeId = edgeNodeId := hid
    have hold : ledger.db.nodes.get? (EdgeNodeRow.reported row health state seenAt).edgeNodeId = some row := by
      rw [hkey]
      exact hrow
    rw [historyStep_report hcall, hdb]
    apply h.frame
    · intro node hnode
      exact get?_set_software hold rfl hnode
    · intro a _
      rfl

theorem history_revoke (h : History nodeId base ledger) (stamp : RevocationStamp) (tenantId edgeNodeId reason actorId : String) :
    History nodeId base (historyStep dep nodeId ledger (.revoke stamp tenantId edgeNodeId reason actorId)) := by
  apply h.frame
  · intro node hnode
    rw [edgeStep]
    rcases @nodes_revoke dep ledger.db stamp tenantId edgeNodeId reason actorId with hsame | ⟨row, hrow, hset⟩
    · rw [hsame]
      exact ⟨node, hnode, rfl⟩
    · have hid := edgeNodeId_eq hrow
      have hkey : (EdgeNodeRow.revoke row reason actorId stamp.revokedAt).edgeNodeId = edgeNodeId := hid
      have hold : ledger.db.nodes.get? (EdgeNodeRow.revoke row reason actorId stamp.revokedAt).edgeNodeId = some row := by
        rw [hkey]
        exact hrow
      rw [hset]
      exact get?_set_software hold rfl hnode
  · intro a _
    rw [edgeStep, applications_revoke]

theorem rows_insertApplication {applications applications' : Table EdgeUpdateApplicationRow (fun row => row.applicationId)}
    {row : EdgeUpdateApplicationRow} (h : insertApplication applications row = .ok applications') :
    applications'.rows = applications.rows ++ [row] := by
  simp only [insertApplication, bind_eq_ok, raiseIf_eq_ok, orRaise_eq_ok] at h
  obtain ⟨_, _, hinsert⟩ := h
  exact (Table.insert?_eq_some hinsert).2

theorem application?_eq_none {db : EdgeDb} {updateId : String} (h : application? db nodeId updateId = none)
    {a : EdgeUpdateApplicationRow} (ha : a ∈ db.applications.rows) (hown : a.edgeNodeId = nodeId) : a.updateId ≠ updateId := by
  intro hsame
  have hnone := List.find?_eq_none.mp h a ha
  simp only [decide_eq_true_eq, not_and] at hnone
  exact hnone hown hsame

theorem application?_spec {db : EdgeDb} {updateId : String} {a : EdgeUpdateApplicationRow}
    (h : application? db nodeId updateId = some a) :
    a ∈ db.applications.rows ∧ a.edgeNodeId = nodeId ∧ a.updateId = updateId := by
  have hspec := List.find?_some h
  simp only [decide_eq_true_eq] at hspec
  exact ⟨List.mem_of_find?_eq_some h, hspec⟩

/-- A new update of the node goes on top. -/
theorem History.push (h : History nodeId base ledger) {args : UpdateArguments} {applicationId : String} {node : EdgeNodeRow}
    {update : OfflineUpdatePackageRow} {db' : EdgeDb} (hnode : ledger.db.nodes.get? nodeId = some node)
    (hupdate : ledger.db.updates.get? args.updateId = some update)
    (hnone : application? ledger.db nodeId args.updateId = none) (hrelease : node.softwareRelease = args.currentRelease)
    (hfrom : update.fromRelease = args.currentRelease)
    (hnodes : db'.nodes.get? nodeId = some (EdgeNodeRow.update node update))
    (hrows : db'.applications.rows = ledger.db.applications.rows ++
      [newApplication applicationId nodeId args.currentRelease args.actorId update]) :
    History nodeId base { recordApply nodeId ledger args with db := db' } := by
  have hid : update.updateId = args.updateId := ((Table.get?_eq_some_iff _ _ _).mp hupdate).2
  have hbefore : node.software = current base ledger.stack := by
    obtain ⟨found, hfound, hsoftware⟩ := h.node
    rw [← Option.some.inj (hfound.symm.trans hnode)]
    exact hsoftware
  rw [recordApply, hnode, hupdate]
  simp only [hrelease.trans hfrom.symm, if_true]
  refine ⟨h.faults, ⟨_, hnodes, rfl⟩, ⟨hbefore, h.chained⟩, ?_, ?_⟩
  · intro e he
    rw [hrows]
    rcases List.mem_cons.mp he with rfl | hold
    · refine ⟨_, List.mem_append_right _ (List.mem_singleton_self _), rfl, hid, ?_⟩
      exact hrelease.symm
    · obtain ⟨a, ha, hrest⟩ := h.entries e hold
      exact ⟨a, List.mem_append_left _ ha, hrest⟩
  · intro a ha b hb hown hother hsame
    rw [hrows, List.mem_append, List.mem_singleton] at ha hb
    rcases ha with ha | rfl
    · rcases hb with hb | rfl
      · exact h.unique a ha b hb hown hother hsame
      · exact absurd (hsame.trans hid) (application?_eq_none hnone ha hown)
    · rcases hb with hb | rfl
      · exact absurd (hsame.symm.trans hid) (application?_eq_none hnone hb hother)
      · rfl

theorem history_apply (h : History nodeId base ledger) {applicationId : String} {stamp : Stamp} {args : UpdateArguments}
    (hmeets : Undisturbed dep nodeId ledger (.apply applicationId stamp args)) :
    History nodeId base (historyStep dep nodeId ledger (.apply applicationId stamp args)) := by
  cases hcall : dep.applyOfflineUpdate ledger.db applicationId stamp args with
  | error e =>
    have hsame : edgeStep dep ledger.db (.apply applicationId stamp args) = ledger.db := by
      rw [edgeStep, hcall]
      rfl
    rw [historyStep, hsame]
    simp only [hcall]
    exact h
  | ok outcome =>
    obtain ⟨db', result⟩ := outcome
    rw [historyStep_apply hcall]
    obtain ⟨node, update, hnode, hupdate, hcheck, ⟨⟨existing, hexisting⟩, hdb⟩ | ⟨hnone, applications, store, hinsert, hdb⟩⟩ :=
      applyOfflineUpdate_ok hcall
    · rw [hdb, if_neg]
      · exact h
      · rintro ⟨rfl, hnone⟩
        rw [hexisting] at hnone
        cases hnone
    · have hid := edgeNodeId_eq hnode
      have hkey : (EdgeNodeRow.update node update).edgeNodeId = args.edgeNodeId := hid
      have hrows := rows_insertApplication hinsert
      by_cases hown : args.edgeNodeId = nodeId
      · subst hown
        have hisNone : (application? ledger.db args.edgeNodeId args.updateId).isNone = true := by
          rw [hnone]
          rfl
        rw [if_pos ⟨rfl, hisNone⟩]
        have hrelease := hmeets rfl node update hnode hupdate hnone hcheck
        apply h.push hnode hupdate hnone hrelease (checkUpdate_ok hcheck).2
        · rw [hdb, Table.get?_set _ (hkey ▸ hnode), if_pos hkey.symm]
        · rw [hdb]
          exact hrows
      · rw [if_neg fun hboth => hown hboth.1, hdb]
        apply h.frame
        · intro found hfound
          refine ⟨found, ?_, rfl⟩
          have hne : nodeId ≠ (EdgeNodeRow.update node update).edgeNodeId := fun heq => hown (hkey.symm.trans heq.symm)
          rw [Table.get?_set_of_ne _ hne]
          exact hfound
        · intro a ha
          rw [hrows, List.mem_append, List.mem_singleton, or_iff_left]
          rintro rfl
          exact hown ha

/-- The applications after a rollback: the one is marked, and none of them is for another update than before. -/
structure Marked (rows rows' : List EdgeUpdateApplicationRow) (f : EdgeUpdateApplicationRow → EdgeUpdateApplicationRow) : Prop where
  rows_eq : rows' = rows.map f
  same : ∀ a ∈ rows, (f a).edgeNodeId = a.edgeNodeId ∧ (f a).updateId = a.updateId ∧
    (f a).previousRelease = a.previousRelease

theorem marked_set {applications : Table EdgeUpdateApplicationRow (fun row => row.applicationId)}
    {application : EdgeUpdateApplicationRow} (happlication : application ∈ applications.rows) (reason : String) (now : Nat) :
    ∃ f, Marked applications.rows (applications.set (EdgeUpdateApplicationRow.rollback application reason now)).rows f := by
  refine ⟨_, rfl, ?_⟩
  intro a ha
  by_cases hid : a.applicationId = (EdgeUpdateApplicationRow.rollback application reason now).applicationId
  · have hsame : a = application := List.inj_on_of_nodup_map applications.nodup ha happlication hid
    rw [if_pos hid, hsame]
    exact ⟨rfl, rfl, rfl⟩
  · rw [if_neg hid]
    exact ⟨rfl, rfl, rfl⟩

theorem History.mark (h : History nodeId base ledger) {db' : EdgeDb} {stack : List AppliedUpdate}
    {f : EdgeUpdateApplicationRow → EdgeUpdateApplicationRow}
    (hmarked : Marked ledger.db.applications.rows db'.applications.rows f) (hsub : stack ⊆ ledger.stack)
    (hchained : Chained base stack)
    (hnode : ∃ node, db'.nodes.get? nodeId = some node ∧ node.software = current base stack) :
    History nodeId base { ledger with db := db', stack } where
  faults := h.faults
  node := hnode
  chained := hchained
  entries := by
    intro e he
    obtain ⟨a, ha, hown, hupdate, hrelease⟩ := h.entries e (hsub he)
    obtain ⟨hnodeId, hupdateId, hprevious⟩ := hmarked.same a ha
    refine ⟨f a, ?_, hnodeId.trans hown, hupdateId.trans hupdate, hprevious.trans hrelease⟩
    rw [hmarked.rows_eq]
    exact List.mem_map_of_mem ha
  unique := by
    intro a' ha' b' hb' hown hother hsame
    simp only [hmarked.rows_eq, List.mem_map] at ha' hb'
    obtain ⟨a, ha, rfl⟩ := ha'
    obtain ⟨b, hb, rfl⟩ := hb'
    obtain ⟨hnodeA, hupdateA, _⟩ := hmarked.same a ha
    obtain ⟨hnodeB, hupdateB, _⟩ := hmarked.same b hb
    have heq : a = b := h.unique a ha b hb (hnodeA.symm.trans hown) (hnodeB.symm.trans hother)
      (hupdateA.symm.trans (hsame.trans hupdateB))
    rw [heq]

theorem history_rollback (h : History nodeId base ledger) {rolledBackAt : Nat} {stamp : Stamp} {args : RollbackArguments}
    (hmeets : Undisturbed dep nodeId ledger (.rollback rolledBackAt stamp args)) :
    History nodeId base (historyStep dep nodeId ledger (.rollback rolledBackAt stamp args)) := by
  cases hcall : dep.rollbackOfflineUpdate ledger.db rolledBackAt stamp args with
  | error e =>
    have hsame : edgeStep dep ledger.db (.rollback rolledBackAt stamp args) = ledger.db := by
      rw [edgeStep, hcall]
      rfl
    rw [historyStep, hsame]
    simp only [hcall]
    exact h
  | ok outcome =>
    obtain ⟨db', result⟩ := outcome
    rw [historyStep_rollback hcall]
    obtain ⟨node, update, application, hread, ⟨hdone, hdb⟩ | ⟨happlied, hsigned, store, hdb⟩⟩ := rollbackOfflineUpdate_ok hcall
    · obtain ⟨_, _, _, hfound⟩ := readRollback_eq_ok.mp hread
      rw [hdb, if_neg]
      · exact h
      · rintro ⟨rfl, hany⟩
        rw [hfound, Option.any_some, hdone] at hany
        cases hany
    · obtain ⟨_, ⟨hnode, _⟩, _, hfound⟩ := readRollback_eq_ok.mp hread
      obtain ⟨hmem, hnodeId, hupdateId⟩ := application?_spec hfound
      have hid := edgeNodeId_eq hnode
      have hkey : (EdgeNodeRow.rollback dep node application args.reason).edgeNodeId = args.edgeNodeId := hid
      obtain ⟨f, hmarked⟩ := marked_set hmem args.reason rolledBackAt
      by_cases hown : args.edgeNodeId = nodeId
      · subst hown
        have hany : (application? ledger.db args.edgeNodeId args.updateId).any (fun row => row.state = .applied) = true := by
          rw [hfound, Option.any_some, happlied]
          rfl
        rw [if_pos ⟨rfl, hany⟩]
        obtain ⟨top, rest, hstack, htop, hhash⟩ := hmeets rfl node update application hread happlied hsigned
        have hrelease : application.previousRelease = top.before.release := by
          obtain ⟨a, ha, hownA, hupdateA, hreleaseA⟩ := h.entries top (hstack ▸ List.mem_cons_self)
          have heq : a = application := h.unique a ha application hmem hownA hnodeId (hupdateA.trans (htop.trans hupdateId.symm))
          rw [← heq]
          exact hreleaseA
        have hwritten : db'.nodes.get? args.edgeNodeId = some (EdgeNodeRow.rollback dep node application args.reason) := by
          rw [hdb, Table.get?_set _ (hkey ▸ hnode), if_pos hkey.symm]
        have hsoftware : (EdgeNodeRow.rollback dep node application args.reason).software = top.before := by
          have hpair : (EdgeNodeRow.rollback dep node application args.reason).software =
              ⟨application.previousRelease, dep.previousManifestHash node⟩ := rfl
          rw [hpair, hrelease, hhash]
        have hchained := h.chained
        rw [hstack] at hchained
        have hrestored : (db'.nodes.get? args.edgeNodeId).map EdgeNodeRow.software = some top.before := by
          rw [hwritten, Option.map_some, hsoftware]
        have hrecord : recordRollback args.edgeNodeId ledger db' args = { ledger with stack := rest } := by
          rw [recordRollback_cons hstack htop, if_pos hrestored]
        rw [hrecord]
        have happlications : Marked ledger.db.applications.rows db'.applications.rows f := by
          rw [hdb]
          exact hmarked
        refine h.mark happlications ?_ hchained.2 ⟨_, hwritten, hsoftware.trans hchained.1⟩
        rw [hstack]
        exact List.subset_cons_self top rest
      · rw [if_neg fun hboth => hown hboth.1, hdb]
        refine h.mark hmarked (List.Subset.refl _) h.chained ?_
        obtain ⟨found, hstored, hsoftware⟩ := h.node
        refine ⟨found, ?_, hsoftware⟩
        have hne : nodeId ≠ (EdgeNodeRow.rollback dep node application args.reason).edgeNodeId :=
          fun heq => hown (hkey.symm.trans heq.symm)
        rw [Table.get?_set_of_ne _ hne]
        exact hstored

theorem history_step (ledger : UpdateLedger) (call : EdgeCall) (hmeets : Undisturbed dep nodeId ledger call)
    (h : History nodeId base ledger) : History nodeId base (historyStep dep nodeId ledger call) := by
  cases call with
  | enroll stamp req => exact history_enroll h stamp req
  | report seenAt stamp tenantId edgeNodeId health actorId =>
    exact history_report h seenAt stamp tenantId edgeNodeId health actorId
  | apply applicationId stamp args => exact history_apply h hmeets
  | rollback rolledBackAt stamp args => exact history_rollback h hmeets
  | revoke stamp tenantId edgeNodeId reason actorId => exact history_revoke h stamp tenantId edgeNodeId reason actorId

/-- Right after an update, its hash from before is in the health document. -/
theorem previousManifestHash_update (node : EdgeNodeRow) (update : OfflineUpdatePackageRow) :
    dep.previousManifestHash (EdgeNodeRow.update node update) = node.softwareManifestHash := by
  have hlookup : (EdgeNodeRow.update node update).healthJson.lookup "previous_software_manifest_hash" =
      some (.str node.softwareManifestHash) := by
    apply Dict.lookup_merge_of_mem
    · exact (by decide : ["release", "previous_software_manifest_hash", "rollback_bundle_hash"].Nodup)
    · simp
  rw [previousManifestHash, textOr, Dict.get?, hlookup, Option.getD_some, dep.py.str_text]

/-- When every update is applied from the recorded release and rolled back undisturbed, updates only go on top of the
release they are for, rollbacks bring back what was there before, and the node's release and hash are those it started
with or those of the latest update in force. -/
theorem updates_undo (dep : DeploymentControl) {db : EdgeDb} {nodeId : String} {node : EdgeNodeRow}
    (hnode : db.nodes.get? nodeId = some node) (hfresh : ∀ a ∈ db.applications.rows, a.edgeNodeId ≠ nodeId)
    {calls : List EdgeCall} (hmeets : Along (historyStep dep nodeId) (Undisturbed dep nodeId) ⟨db, [], []⟩ calls) :
    (run (historyStep dep nodeId) ⟨db, [], []⟩ calls).faults = [] ∧
    ∃ node', (run (historyStep dep nodeId) ⟨db, [], []⟩ calls).db.nodes.get? nodeId = some node' ∧
      node'.software = current node.software (run (historyStep dep nodeId) ⟨db, [], []⟩ calls).stack := by
  have hstart : History nodeId node.software ⟨db, [], []⟩ := by
    refine ⟨rfl, ⟨node, hnode, rfl⟩, trivial, fun _ he => absurd he List.not_mem_nil, ?_⟩
    intro a ha _ _ hown
    exact absurd hown (hfresh a ha)
  have hfinal := run_invariant_along history_step hstart hmeets
  exact ⟨hfinal.faults, hfinal.node⟩

end Steps

section Totals
variable {dep : DeploymentControl} {db : EdgeDb} {store : Store}

theorem applyOfflineUpdate_of {applicationId : String} {stamp : Stamp} {args : UpdateArguments} {node : EdgeNodeRow}
    {update : OfflineUpdatePackageRow} {applications : Table EdgeUpdateApplicationRow (fun row => row.applicationId)}
    (hread : nodeAndUpdate db args.tenantId args.edgeNodeId args.updateId = .ok (node, update))
    (hcheck : dep.checkUpdate node update args.currentRelease = .ok ())
    (hnone : application? db args.edgeNodeId args.updateId = none)
    (hinsert : insertApplication db.applications
      (newApplication applicationId args.edgeNodeId args.currentRelease args.actorId update) = .ok applications)
    (hstore : db.toStore.emit stamp (nodeEvent node args.tenantId "deployment.update.applied" args.actorId
      [("update_id", .str args.updateId), ("from_release", .str update.fromRelease), ("to_release", .str update.toRelease),
        ("rollback_available", .bool true)]) = .ok store) :
    dep.applyOfflineUpdate db applicationId stamp args =
      .ok ({ db with toStore := store, nodes := db.nodes.set (EdgeNodeRow.update node update), applications },
        applyResult args.edgeNodeId update update.toRelease .applied false) := by
  refine bind_eq_ok.mpr ⟨(node, update), hread, bind_eq_ok.mpr ⟨(), hcheck, ?_⟩⟩
  rw [hnone]
  simp only [bind_eq_ok]
  exact ⟨applications, hinsert, store, hstore, rfl⟩

theorem reportEdgeHealth_of {seenAt : Nat} {stamp : Stamp} {tenantId edgeNodeId actorId : String} {health : Dict}
    {row : EdgeNodeRow} {state : EdgeState} (hrow : tenantNode db tenantId edgeNodeId = .ok row) (hactive : row.state ≠ .revoked)
    (hhash : dep.py.str (Dict.get health "software_manifest_hash") = row.softwareManifestHash)
    (hstate : healthState? (dep.textOr health "status" "") = some state)
    (hstore : db.toStore.emit stamp (nodeEvent row tenantId "deployment.edge.health_reported" actorId
      [("status", .str state.value), ("software_manifest_hash", .str row.softwareManifestHash)]) = .ok store) :
    dep.reportEdgeHealth db seenAt stamp tenantId edgeNodeId health actorId =
      .ok ({ db with toStore := store, nodes := db.nodes.set (EdgeNodeRow.reported row health state seenAt) },
        edge (EdgeNodeRow.reported row health state seenAt) false) := by
  simp only [reportEdgeHealth, bind_eq_ok, raiseIf_eq_ok, orRaise_eq_ok]
  exact ⟨row, hrow, (), hactive, (), not_not.mpr hhash, state, hstate, store, hstore, rfl⟩

end Totals

section Sample

def updateArguments : UpdateArguments := ⟨"t1", "n1", "u1", "1.0", "ana"⟩

def applyCall : EdgeCall := .apply "p1" ⟨1, "a1"⟩ updateArguments

/-- A report of the node on its new release. -/
def healthy : Dict := [("status", .str "healthy"), ("software_manifest_hash", .str updateHash)]

def reportCall : EdgeCall := .report 2 ⟨2, "a2"⟩ "t1" "n1" healthy "n1"

def enrolledDb : EdgeDb := edgeDb [firstNode] (List.nodup_singleton _) .empty

def updatedNode : EdgeNodeRow := EdgeNodeRow.update firstNode secondRelease

def firstApplication : EdgeUpdateApplicationRow := newApplication "p1" "n1" "1.0" "ana" secondRelease

def oneApplication : Table EdgeUpdateApplicationRow (fun row => row.applicationId) :=
  ⟨[firstApplication], List.nodup_singleton _⟩

theorem validatePayload_applied : validatePayload [("update_id", .str "u1"), ("from_release", .str "1.0"),
    ("to_release", .str "2.0"), ("rollback_available", .bool true)] = .ok () := by
  have hkeys : ([("update_id", .str "u1"), ("from_release", .str "1.0"), ("to_release", .str "2.0"),
    ("rollback_available", .bool true)] : Dict).map Prod.fst =
      ["update_id", "from_release", "to_release", "rollback_available"] := rfl
  apply validatePayload_brief hkeys rfl (by decide)
  intro field hfield
  simp only [List.mem_cons, List.not_mem_nil, or_false] at hfield
  rcases hfield with rfl | rfl | rfl | rfl
  · exact brief_str (by decide)
  · exact brief_str (by decide)
  · exact brief_str (by decide)
  · exact brief_bool true

theorem validatePayload_reported : validatePayload
    [("status", .str "healthy"), ("software_manifest_hash", .str updateHash)] = .ok () := by
  have hkeys : ([("status", .str "healthy"), ("software_manifest_hash", .str updateHash)] : Dict).map Prod.fst =
      ["status", "software_manifest_hash"] := rfl
  apply validatePayload_brief hkeys rfl (by decide)
  intro field hfield
  simp only [List.mem_cons, List.not_mem_nil, or_false] at hfield
  rcases hfield with rfl | rfl
  · exact brief_str (by decide)
  · exact brief_str (by decide)

/-- The database after the update. -/
def appliedDb (outbox : List OutboxEventRow) : EdgeDb :=
  { enrolledDb with outbox, nodes := enrolledDb.nodes.set updatedNode, applications := oneApplication }

theorem apply_enrolled : ∃ outbox, plainDeployment.applyOfflineUpdate enrolledDb "p1" ⟨1, "a1"⟩ updateArguments =
    .ok (appliedDb outbox, applyResult "n1" secondRelease "2.0" .applied false) := by
  obtain ⟨event, hevent⟩ := enrolledDb.toStore.emit_total ⟨1, "a1"⟩
    (r := nodeEvent firstNode "t1" "deployment.update.applied" "ana" [("update_id", .str "u1"), ("from_release", .str "1.0"),
      ("to_release", .str "2.0"), ("rollback_available", .bool true)]) rfl rfl rfl validatePayload_applied
  have hcheck : plainDeployment.checkUpdate firstNode secondRelease "1.0" = .ok () := by
    simp only [checkUpdate, bind_eq_ok, raiseIf_eq_ok]
    refine ⟨(), by decide, (), by decide, ?_⟩
    have hsigned : plainDeployment.verifySignature secondRelease.manifestHash secondRelease.signature = true :=
      plainDeployment.verifySignature_sign updateHash
    rw [hsigned]
    decide
  have hread : nodeAndUpdate enrolledDb "t1" "n1" "u1" = .ok (firstNode, secondRelease) :=
    nodeAndUpdate_eq_ok.mpr ⟨⟨rfl, rfl⟩, rfl⟩
  exact ⟨_, @applyOfflineUpdate_of plainDeployment enrolledDb _ "p1" ⟨1, "a1"⟩ updateArguments firstNode secondRelease
    oneApplication hread hcheck rfl rfl hevent⟩

/-- The update on top of the first release. -/
def firstUpdate : AppliedUpdate := ⟨"u1", firstNode.software, secondRelease.software⟩

theorem history_applyCall : ∃ outbox,
    historyStep plainDeployment "n1" ⟨enrolledDb, [], []⟩ applyCall = ⟨appliedDb outbox, [firstUpdate], []⟩ := by
  obtain ⟨outbox, hcall⟩ := apply_enrolled
  refine ⟨outbox, ?_⟩
  rw [applyCall, @historyStep_apply plainDeployment "n1" ⟨enrolledDb, [], []⟩ _ _ _ _ _ hcall]
  rfl

def reportedNode : EdgeNodeRow := EdgeNodeRow.reported updatedNode healthy .healthy 2

/-- The database after the update and the report. -/
def reportedDb (outbox : List OutboxEventRow) : EdgeDb :=
  { appliedDb outbox with nodes := (appliedDb outbox).nodes.set reportedNode }

theorem history_reportCall (outbox : List OutboxEventRow) : ∃ later,
    historyStep plainDeployment "n1" ⟨appliedDb outbox, [firstUpdate], []⟩ reportCall = ⟨reportedDb later, [firstUpdate], []⟩ := by
  obtain ⟨event, hevent⟩ := (appliedDb outbox).toStore.emit_total ⟨2, "a2"⟩
    (r := nodeEvent updatedNode "t1" "deployment.edge.health_reported" "n1"
      [("status", .str "healthy"), ("software_manifest_hash", .str updateHash)]) rfl rfl rfl validatePayload_reported
  have hcall := @reportEdgeHealth_of plainDeployment (appliedDb outbox) _ 2 ⟨2, "a2"⟩ "t1" "n1" "n1" healthy updatedNode .healthy
    (tenantNode_eq_ok.mpr ⟨rfl, rfl⟩) (by decide) rfl rfl hevent
  refine ⟨outbox ++ [event], ?_⟩
  rw [reportCall, @historyStep_report plainDeployment "n1" ⟨appliedDb outbox, [firstUpdate], []⟩ _ _ _ _ _ _ _ _ hcall]
  rfl

/-- Rolling the update back on a node with the one application. -/
theorem rollback_updated {db : EdgeDb} {node : EdgeNodeRow} (hnode : db.nodes.get? "n1" = some node)
    (htenant : node.tenantId = "t1") (hupdates : db.updates = enrolledDb.updates)
    (happlications : db.applications = oneApplication) (haudit : db.audit = .empty) : ∃ db' result,
    plainDeployment.rollbackOfflineUpdate db 3 ⟨3, "a3"⟩ rollbackArguments = .ok (db', result) ∧
      db'.nodes.get? "n1" = some (EdgeNodeRow.rollback plainDeployment node firstApplication "regression") := by
  have hstart : Succession "t1" 0 [] [] db.audit := haudit ▸ Succession.start "t1" 0
  obtain ⟨store, hstore, -⟩ := @publishNode_next plainDeployment db.toStore "t1" "deployment.update.rollback" "ben"
    "deployment.update.rolled_back" _ 0 [] [] [("update_id", .str "u1"), ("release", .str "1.0"),
      ("reason_code", .str "OPERATOR_ROLLBACK")] [("update_id", .str "u1"), ("target_release", .str "1.0")] node _
    ⟨3, "a3"⟩ rfl rfl rfl validatePayload_undo hstart (by decide) (by decide) rfl List.not_mem_nil
  have hfound : application? db "n1" "u1" = some firstApplication := by
    rw [application?, happlications]
    rfl
  have hread : readRollback db rollbackArguments = .ok (node, secondRelease, firstApplication) := by
    apply readRollback_eq_ok.mpr
    refine ⟨by decide, ⟨hnode, htenant⟩, ?_, hfound⟩
    rw [hupdates]
    rfl
  have hid := edgeNodeId_eq hnode
  have hkey : (EdgeNodeRow.rollback plainDeployment node firstApplication "regression").edgeNodeId = "n1" := hid
  refine ⟨_, _, rollbackOfflineUpdate_of hread rfl (plainDeployment.verifySignature_sign rollbackHash) hstore, ?_⟩
  dsimp only
  rw [Table.get?_set _ (hkey ▸ hnode)]
  exact if_pos hkey.symm

/-- An update that is rolled back at once. -/
theorem undisturbed_undo : Along (historyStep plainDeployment "n1") (Undisturbed plainDeployment "n1") ⟨enrolledDb, [], []⟩
    [applyCall, undo] := by
  obtain ⟨outbox, happly⟩ := history_applyCall
  refine ⟨?_, ?_, trivial⟩
  · intro _ node update hnode _ _ _
    have hfirst : node = firstNode := (Option.some.inj hnode).symm
    rw [hfirst]
    rfl
  · rw [happly]
    intro _ node update application hread _ _
    obtain ⟨_, ⟨hnode, _⟩, _⟩ := readRollback_eq_ok.mp hread
    have hupdated : node = updatedNode := (Option.some.inj hnode).symm
    refine ⟨firstUpdate, [], rfl, rfl, ?_⟩
    rw [hupdated]
    exact previousManifestHash_update firstNode secondRelease

theorem updates_undo_first :
    (run (historyStep plainDeployment "n1") ⟨enrolledDb, [], []⟩ [applyCall, undo]).faults = [] ∧
    ∃ node', (run (historyStep plainDeployment "n1") ⟨enrolledDb, [], []⟩ [applyCall, undo]).db.nodes.get? "n1" = some node' ∧
      node'.software = current firstNode.software
        (run (historyStep plainDeployment "n1") ⟨enrolledDb, [], []⟩ [applyCall, undo]).stack :=
  @updates_undo plainDeployment enrolledDb "n1" firstNode rfl (fun _ ha => absurd ha List.not_mem_nil) [applyCall, undo]
    undisturbed_undo

/-- A health report between an update and its rollback, which then keeps the hash of the update. -/
theorem report_loses_manifest_hash :
    (run (historyStep plainDeployment "n1") ⟨enrolledDb, [], []⟩ [applyCall, reportCall, undo]).faults = [.notRestored "u1"] ∧
    ∃ node', (run (historyStep plainDeployment "n1") ⟨enrolledDb, [], []⟩ [applyCall, reportCall, undo]).db.nodes.get? "n1" =
      some node' ∧ node'.software = ⟨"1.0", updateHash⟩ := by
  obtain ⟨outbox, happly⟩ := history_applyCall
  obtain ⟨later, hreport⟩ := history_reportCall outbox
  obtain ⟨db', result, hcall, hnode⟩ := @rollback_updated (reportedDb later) reportedNode rfl rfl rfl rfl rfl
  have hundo : historyStep plainDeployment "n1" ⟨reportedDb later, [firstUpdate], []⟩ undo = ⟨db', [], [.notRestored "u1"]⟩ := by
    rw [undo, @historyStep_rollback plainDeployment "n1" ⟨reportedDb later, [firstUpdate], []⟩ _ _ _ _ _ hcall, if_pos]
    · have hsoftware : (db'.nodes.get? "n1").map EdgeNodeRow.software ≠ some firstUpdate.before := by
        rw [hnode]
        decide
      rw [recordRollback_cons rfl rfl, if_neg hsoftware]
      rfl
    · exact ⟨rfl, rfl⟩
  rw [run_cons, happly, run_cons, hreport, run_cons, run_nil, hundo]
  exact ⟨rfl, _, hnode, rfl⟩

end Sample

end DeploymentControl

end Sip
