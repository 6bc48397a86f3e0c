import Sip.Construction.OwnerHandoff
import Sip.Foundation.JsonSize

/-!
# Approval of restricted packages

A package with the restricted annex should be handed out only against an approval of the
request that the call names, that has not expired and that another person has given. The
approval is checked when a package is built, and not when a retained one is returned.
-/

namespace Sip

set_option autoImplicit false
open ArchiveSafety

namespace ConstructionService

section Law
variable (svc : ConstructionService) (rt : HandoffRuntime)

/-- The file is a package whose validation says that the restricted annex is included. -/
def ContainsAnnex (file : HandoffFile) : Prop :=
  ∃ members member validation, file.entries = some members ∧ member ∈ members ∧
    member.filename = "data/handoff-validation.json" ∧ member.content = some (canonicalJson (.obj validation)) ∧
    (validation.map Prod.fst).Nodup ∧ validation.lookup "restricted_annex_included" = some (.bool true)

/-- The approval was given for this request. -/
structure ForRequest (approval : ConstructionRestrictedExportApprovalRow) (req : OwnerHandoffRequest) : Prop where
  tenant : approval.tenantId = req.tenantId
  project : approval.projectId = req.projectId
  request : approval.requestHash = req.digest
  scope : canonicalSha256 (.obj approval.scopeJson) = canonicalSha256 (.obj req.scopeJson)
  classification : approval.classification = req.classification
  audience : approval.audience = req.audience
  purpose : approval.purpose = req.purpose

/-- The call names an approval of its request that has not expired and is not its caller's. -/
def Approved (db : HandoffDb) (now : Nat) (req : OwnerHandoffRequest) : Prop :=
  ∃ approvalId approval, given req.restrictedExportApprovalId = some approvalId ∧
    db.approvals.get? approvalId = some approval ∧ ForRequest approval req ∧ now < approval.expiresAt ∧
    approval.approverId ≠ req.actorId

inductive HandoffCall where
  | approve (approvalId : String) (stamp : Stamp) (req : ApprovalRequest)
  | handoff (handoffId : String) (stamp : Stamp) (req : OwnerHandoffRequest)

def handoffStep (db : HandoffDb) : HandoffCall → HandoffDb
  | .approve approvalId stamp req => match svc.approveRestrictedExport db approvalId stamp req with
    | .ok (db', _) => db'
    | .error _ => db
  | .handoff handoffId stamp req => (svc.createOwnerHandoff rt db handoffId stamp req).1

/-- A package with the restricted annex is handed out to an approved call only. -/
def HandsOutApproved (db : HandoffDb) : HandoffCall → Prop
  | .approve _ _ _ => True
  | .handoff handoffId stamp req => ∀ db' result path file,
      svc.createOwnerHandoff rt db handoffId stamp req = (db', .ok result) → result.packagePath = some path →
      db'.files.lookup path = some file → ContainsAnnex file → Approved db stamp.now req

/-- A call that finds a retained package with the restricted annex would pass the checks of the approval. -/
def RetainedApproved (db : HandoffDb) : HandoffCall → Prop
  | .approve _ _ _ => True
  | .handoff _ stamp req => ∀ prior path file, findHandoff rt db req = .ok (some prior) → prior.status = .verified →
      prior.packagePath = some path → db.files.lookup path = some file → ContainsAnnex file →
      checkApproval db stamp.now req = .ok ()

end Law

section Checks
variable {db : HandoffDb} {now : Nat} {req : OwnerHandoffRequest}

theorem checkApproval_iff : checkApproval db now req = .ok () ↔ Approved db now req := by
  simp only [checkApproval, bind_eq_ok, orRaise_eq_ok, raiseIf_eq_ok, not_or, not_not, not_le]
  constructor
  · rintro ⟨approvalId, hgiven, approval, hget, _, ⟨htenant, hproject⟩, _, ⟨hrequest, hscope, hclass, haudience, hpurpose⟩, _,
      hexpires, hactor⟩
    exact ⟨approvalId, approval, hgiven, hget, ⟨htenant, hproject, hrequest, hscope, hclass, haudience, hpurpose⟩, hexpires,
      hactor⟩
  · rintro ⟨approvalId, approval, hgiven, hget, hfor, hexpires, hactor⟩
    exact ⟨approvalId, hgiven, approval, hget, (), ⟨hfor.tenant, hfor.project⟩, (),
      ⟨hfor.request, hfor.scope, hfor.classification, hfor.audience, hfor.purpose⟩, (), hexpires, hactor⟩

end Checks

section Packages
variable {rt : HandoffRuntime} {s : HandoffSnapshot}

def fileNames : List String := [
  "manifest.json", "reports/technical.json", "reports/owner.json", "data/inventory.json", "data/documents.json",
  "data/issues.json", "data/commissioning.json", "data/interchange.json", "data/handoff-validation.json",
  "viewer/index.html", "README.txt"]

theorem names_files (s : HandoffSnapshot) : ((sortBy Prod.fst s.files).map Prod.fst).Perm fileNames :=
  (perm_sortBy Prod.fst s.files).map Prod.fst

theorem names_members (s : HandoffSnapshot) : (s.members.map Prod.fst).Perm (fileNames ++ ["checksums.json"]) := by
  rw [HandoffSnapshot.members, List.map_append]
  exact (names_files s).append_right _

theorem nodup_members (s : HandoffSnapshot) : (s.members.map Prod.fst).Nodup := by
  apply (names_members s).nodup_iff.mpr
  decide

theorem mem_members_validation (s : HandoffSnapshot) :
    ("data/handoff-validation.json", canonicalJson (.obj s.validation)) ∈ s.members := by
  rw [HandoffSnapshot.members]
  apply List.mem_append_left
  apply mem_sortBy.mpr
  simp [HandoffSnapshot.files]

/-- A written package contains the annex only if its request asks for it. -/
theorem includesRestricted_of_containsAnnex (h : ContainsAnnex (packMembers rt s.members)) :
    s.request.includesRestricted = true := by
  obtain ⟨members, member, validation, hentries, hmember, hname, hcontent, hnodup, hannex⟩ := h
  rw [packMembers, Option.some.injEq] at hentries
  rw [← hentries] at hmember
  obtain ⟨entry, hentry, rfl⟩ := List.mem_map.mp hmember
  have hsame : entry = ("data/handoff-validation.json", canonicalJson (.obj s.validation)) :=
    List.inj_on_of_nodup_map (nodup_members s) hentry (mem_members_validation s) hname
  subst hsame
  have hbytes := Option.some.inj hcontent
  have hkeys : (s.validation.map Prod.fst).Nodup := by
    have hlist : s.validation.map Prod.fst =
      ["status", "required_field_findings", "excluded_documents", "redactions", "restricted_annex_included"] := rfl
    rw [hlist]
    decide
  have hlookup := canonicalJson_obj_lookup hkeys hnodup hbytes "restricted_annex_included"
  have hown : s.validation.lookup "restricted_annex_included" = some (.bool s.request.includesRestricted) := by
    simp [HandoffSnapshot.validation, List.lookup_cons]
  rw [hannex, hown, Option.map_some, Option.map_some, Option.some.injEq, Json.normalize, Json.normalize] at hlookup
  exact Json.bool.inj hlookup

theorem declares_checksums (s : HandoffSnapshot) : Declares [
    ("algorithm", .str "sha256"), ("files", .obj (s.checksums.map fun entry => (entry.1, .str entry.2))),
    ("root_hash", .str (merkleRoot s.checksums))] (sortBy Prod.fst s.files) s.checksums where
  algorithm := rfl
  fileMap := rfl
  root := rfl
  perm := List.Perm.refl _

/-- What verification says of a package whose members are valid. -/
theorem verifyOwnerHandoff_of_report {members : List (String × Bytes)} {names : List String} {report : ChecksumReport}
    (hvalidate : validateZipMembers "HANDOFF" {} (written rt.deflatedSize members) = .ok names)
    (hverify : verifyChecksumManifest rt.strictLoads ⟨ownerHandoffMembers, ownerHandoffMembers⟩
      (written rt.deflatedSize members) names = report) :
    ∃ validation, verifyOwnerHandoff rt (some (packMembers rt members)) = .ok validation ∧
      validation.valid = report.valid ∧ validation.rootHash = report.rootHash ∧
      validation.zipSha256 = sha256Hex (rt.archive members) := by
  subst hverify
  simp only [verifyOwnerHandoff, packMembers, bind_eq_ok, orRaise_eq_ok]
  exact ⟨_, ⟨_, rfl, _, rfl, _, hvalidate, rfl⟩, rfl, rfl, rfl⟩

/-- A written package is verified, where its sizes pass and its checksums are read back. -/
theorem verifyOwnerHandoff_written (hread : rt.strictLoads (canonicalJson s.checksumsBody) = some s.checksumsBody)
    (hfits : ∀ member ∈ s.members, FitsLimits {} rt.deflatedSize member.2)
    (htotal : totalBytes s.members ≤ 10 * 1024 * 1024 * 1024) :
    ∃ validation, verifyOwnerHandoff rt (some (packMembers rt s.members)) = .ok validation ∧ validation.valid = true ∧
      validation.rootHash = merkleRoot s.checksums ∧ validation.zipSha256 = sha256Hex (rt.archive s.members) := by
  have hnames : ∀ member ∈ s.members, unsafeName member.1 = false := by
    have hall : ∀ name ∈ fileNames ++ ["checksums.json"], unsafeName name = false := by decide
    exact fun member hmember => hall member.1 ((names_members s).mem_iff.mp (List.mem_map_of_mem hmember))
  have hcount : s.members.length ≤ 10000 := by
    have hlength := (names_members s).length_eq
    rw [List.length_map] at hlength
    rw [hlength]
    decide
  have hvalidate : validateZipMembers "HANDOFF" {} (written rt.deflatedSize s.members) = .ok (s.members.map Prod.fst) :=
    validateZipMembers_written hcount hnames (nodup_members s) hfits htotal
  have hfile : ∀ {name : String}, name ∈ (sortBy Prod.fst s.files).map Prod.fst ↔ name ∈ fileNames := (names_files s).mem_iff
  have hverify : verifyChecksumManifest rt.strictLoads ⟨ownerHandoffMembers, ownerHandoffMembers⟩
      (written rt.deflatedSize s.members) (s.members.map Prod.fst) =
      ⟨[], merkleRoot s.checksums, (sortBy Prod.fst s.files).length, (sortBy Prod.fst s.files).length + 1⟩ := by
    apply verifyChecksumManifest_written (declares_checksums s) _ _ _ _ hread
    · intro name hname
      have hall : ∀ name ∈ ownerHandoffMembers, name ∈ fileNames ∨ name = "checksums.json" := by decide
      exact (hall name hname).imp_left hfile.mpr
    · intro file hmem
      have hall : ∀ name ∈ fileNames, name ∈ ownerHandoffMembers := by decide
      exact hall file.1 (hfile.mp (List.mem_map_of_mem hmem))
    · decide
    · intro hnil
      have hlength := length_sortBy Prod.fst s.files
      rw [hnil] at hlength
      cases hlength
    · apply (names_files s).nodup_iff.mpr
      decide
    · intro file hmem
      have hall : ∀ name ∈ fileNames, name ≠ "" := by decide
      exact hall file.1 (hfile.mp (List.mem_map_of_mem hmem))
    · rw [hfile]
      decide
  exact verifyOwnerHandoff_of_report hvalidate hverify

end Packages

section Calls
variable {svc : ConstructionService} {rt : HandoffRuntime} {db db' : HandoffDb} {handoffId : String} {stamp : Stamp}
  {req : OwnerHandoffRequest} {result : HandoffResult}

theorem handoffSnapshot_request {rows : ProjectRows} {now : Nat} {request : HandoffRequest} {s : HandoffSnapshot}
    (h : svc.handoffSnapshot rows now request = .ok s) : s.request = request := by
  simp only [handoffSnapshot, bind_eq_ok] at h
  obtain ⟨_, _, _, _, _, _, _, _, h⟩ := h
  cases h
  rfl

theorem prepareHandoff_eq_ok {prior : Option ConstructionHandoffRow} {now : Nat}
    {handoffs : Table ConstructionHandoffRow (fun row => row.handoffId)} {row : ConstructionHandoffRow} {s : HandoffSnapshot}
    (h : svc.prepareHandoff db handoffId now req prior = .ok (handoffs, row, s)) :
    s.request = req.toHandoffRequest ∧ (req.includesRestricted = true → checkApproval db now req = .ok ()) := by
  simp only [prepareHandoff, bind_eq_ok] at h
  obtain ⟨_, _, _, happroval, snapshot, hsnapshot, h⟩ := h
  cases h
  refine ⟨handoffSnapshot_request hsnapshot, ?_⟩
  intro hannex
  rwa [requireApproval, if_pos hannex] at happroval

/-- The end of a handoff returns the path of the package and leaves the files. -/
theorem finishHandoff_eq_ok {handoffs : Table ConstructionHandoffRow (fun row => row.handoffId)} {row : ConstructionHandoffRow}
    {s : HandoffSnapshot} (h : svc.finishHandoff rt db stamp req handoffs row s = .ok (db', result)) :
    db'.files = db.files ∧ result.packagePath = some req.destination := by
  simp only [finishHandoff, bind_eq_ok] at h
  obtain ⟨validation, _, store, _, h⟩ := h
  cases h
  exact ⟨rfl, rfl⟩

/-- What a handoff that returns has done: it has returned a retained package, or written one. -/
theorem createOwnerHandoff_eq_ok (h : svc.createOwnerHandoff rt db handoffId stamp req = (db', .ok result)) :
    (∃ prior, findHandoff rt db req = .ok (some prior) ∧ prior.status = .verified ∧ db' = db ∧
      result = handoffResult prior true) ∨
    ∃ s : HandoffSnapshot, s.request = req.toHandoffRequest ∧ (req.includesRestricted = true → checkApproval db stamp.now req = .ok ()) ∧
      result.packagePath = some req.destination ∧
      db'.files.lookup req.destination = some (packMembers rt s.members) := by
  rw [createOwnerHandoff] at h
  split at h
  · cases h
  · next prior hfind =>
    split at h
    · next row hrow =>
      cases h
      obtain ⟨hprior, hstatus⟩ := Option.filter_eq_some_iff.mp hrow
      rw [hprior] at hfind
      exact .inl ⟨row, hfind, of_decide_eq_true hstatus, rfl, rfl⟩
    · split at h
      · cases h
      · next handoffs row s hprepare =>
        obtain ⟨hrequest, happroval⟩ := prepareHandoff_eq_ok hprepare
        dsimp only at h
        split at h
        · cases h
        · next hfinish =>
          cases h
          obtain ⟨hfiles, hpath⟩ := finishHandoff_eq_ok hfinish
          refine .inr ⟨s, hrequest, happroval, hpath, ?_⟩
          rw [hfiles, writeFile, List.lookup_cons_self]

/-- A retained package is returned to every caller. -/
theorem createOwnerHandoff_replay {prior : ConstructionHandoffRow} (hfind : findHandoff rt db req = .ok (some prior))
    (hstatus : prior.status = .verified) :
    svc.createOwnerHandoff rt db handoffId stamp req = (db, .ok (handoffResult prior true)) := by
  have hrow : (some prior).filter (fun row => row.status = .verified) = some prior :=
    Option.filter_eq_some_iff.mpr ⟨rfl, decide_eq_true hstatus⟩
  rw [createOwnerHandoff, hfind]
  simp only [hrow]

/-- A package that is not there yet is written, and what is verified is what has been written. -/
theorem createOwnerHandoff_of {handoffs : Table ConstructionHandoffRow (fun row => row.handoffId)} {row : ConstructionHandoffRow}
    {s : HandoffSnapshot} (hfind : findHandoff rt db req = .ok none)
    (hprepare : svc.prepareHandoff db handoffId stamp.now req none = .ok (handoffs, row, s))
    (hfinish : svc.finishHandoff rt (writeFile db req.destination (packMembers rt s.members)) stamp req handoffs row s =
      .ok (db', result)) : svc.createOwnerHandoff rt db handoffId stamp req = (db', .ok result) := by
  rw [createOwnerHandoff, hfind]
  simp only [Option.filter_none, hprepare, hfinish]

theorem finishHandoff_of {handoffs : Table ConstructionHandoffRow (fun row => row.handoffId)} {row : ConstructionHandoffRow}
    {s : HandoffSnapshot} {validation : PackageValidation} {store : Store}
    (hverify : verifyOwnerHandoff rt (db.files.lookup req.destination) = .ok validation)
    (hrecord : svc.recordAction db.toStore stamp (handoffAction (builtHandoff row s req.destination validation) req) = .ok store) :
    svc.finishHandoff rt db stamp req handoffs row s =
      .ok ({ db with toStore := store, handoffs := handoffs.set (builtHandoff row s req.destination validation) },
        handoffResult (builtHandoff row s req.destination validation) false) := by
  simp only [finishHandoff, bind_eq_ok]
  exact ⟨validation, hverify, store, hrecord, rfl⟩

theorem handsOutApproved_iff (call : HandoffCall) : svc.HandsOutApproved rt db call ↔ RetainedApproved rt db call := by
  cases call with
  | approve approvalId stamp req => exact Iff.rfl
  | handoff handoffId stamp req =>
    constructor
    · intro h prior path file hfind hstatus hpath hfile hannex
      apply checkApproval_iff.mpr
      exact h db (handoffResult prior true) path file (createOwnerHandoff_replay hfind hstatus) hpath hfile hannex
    · intro h db' result path file hcall hpath hfile hannex
      apply checkApproval_iff.mp
      rcases createOwnerHandoff_eq_ok hcall with ⟨prior, hfind, hstatus, rfl, rfl⟩ | ⟨s, hrequest, happroval, hown, hwritten⟩
      · exact h prior path file hfind hstatus hpath hfile hannex
      · have hdestination : req.destination = path := Option.some.inj (hown.symm.trans hpath)
        subst hdestination
        have hpackage : packMembers rt s.members = file := Option.some.inj (hwritten.symm.trans hfile)
        rw [← hpackage] at hannex
        apply happroval
        have hincluded := includesRestricted_of_containsAnnex hannex
        rwa [hrequest] at hincluded

end Calls

section Sample

def annexRequest : HandoffRequest :=
  ⟨"t1", "p1", [("include_restricted_annex", .bool true)], none, [], [], [], []⟩

/-- Amy approves the annex until the time 100. -/
def amysApproval : ApprovalRequest :=
  { annexRequest with
    destinationName := "annex.zip", classification := "internal", audience := "owner", purpose := "owner_handoff"
    approverId := "amy", expiresAt := 100 }

/-- Ben asks for the package against the approval. -/
def bensRequest : OwnerHandoffRequest :=
  { annexRequest with
    destination := "annex.zip", actorId := "ben", idempotencyKey := "k1", restrictedExportApprovalId := some "ap1" }

/-- Cal asks for the same package and names no approval. -/
def calsRequest : OwnerHandoffRequest := { bensRequest with actorId := "cal", restrictedExportApprovalId := none }

/-- A project without rows, with the approval in place. -/
def approvedDb : HandoffDb := { Store.empty with
  refs := .empty
  objects := .empty
  commits := .empty
  records := .empty
  issues := .empty
  documents := .empty
  commissioning := .empty
  interchanges := .empty
  measurements := .empty
  handoffs := .empty
  approvals := ⟨[newApproval "ap1" amysApproval], List.nodup_singleton _⟩
  files := [] }

def emptyReport (request : ReportRequest) : TechnicalReport := ⟨request, 1, none, [], [], [], [], 0, []⟩

def emptyOwnerBody : Dict := ownerBody (emptyReport { tenantId := "t1", projectId := "p1", audience := "owner" })

def annexSnapshot : HandoffSnapshot where
  request := annexRequest
  inventory := {}
  documents := []
  excludedDocuments := []
  issues := []
  commissioning := []
  interchange := []
  technical := emptyReport (handoffReport annexRequest)
  owner := emptyOwnerBody ++ [("report_hash", .str (canonicalSha256 (.obj emptyOwnerBody)))]
  verifiedAttributes := []

/-- A reader of one document. -/
def readerOf (body : Json) (data : Bytes) : Option Json := if data = canonicalJson body then some body else none

theorem readerOf_self (body : Json) : readerOf body (canonicalJson body) = some body := if_pos rfl

/-- Nothing is deflated, and the one document there is can be read. -/
def annexRuntime : HandoffRuntime where
  deflatedSize := List.length
  archive := fun members => members.flatMap Prod.snd
  strictLoads := readerOf annexSnapshot.checksumsBody

theorem handoffSnapshot_annex :
    zeroConstruction.handoffSnapshot (approvedDb.project "t1" "p1") 1 annexRequest = .ok annexSnapshot := rfl

theorem weight_withHash_le {fields : Dict} {digest : String} (h : isDigest digest = true) :
    (Json.obj (fields ++ [("report_hash", .str digest)])).weight ≤ Json.weightFields fields + 2000 := by
  have happend := Json.weightFields_append fields [("report_hash", .str digest)]
  have hkey : "report_hash".utf8ByteSize = 11 := by decide
  have hdigest := weight_digest_le h
  rw [Json.weightFields, Json.weightFields, hkey] at happend
  rw [Json.weight]
  omega

theorem weight_technical_le : (Json.obj annexSnapshot.technical.document).weight ≤ 30000 := by
  have hbody : Json.weightFields (annexSnapshot.technical.stable ++ [("generated_at", .str (isoformat 1))]) ≤ 28000 := by
    decide +kernel
  have hdocument : annexSnapshot.technical.document = (annexSnapshot.technical.stable ++
      [("generated_at", .str (isoformat 1))]) ++ [("report_hash", .str annexSnapshot.technical.reportHash)] := by
    rw [List.append_assoc]
    rfl
  have hhash := @weight_withHash_le (annexSnapshot.technical.stable ++ [("generated_at", .str (isoformat 1))]) _
    (isDigest_canonicalSha256 (.obj annexSnapshot.technical.stable))
  rw [hdocument, TechnicalReport.reportHash]
  omega

theorem weight_owner_le : (Json.obj annexSnapshot.owner).weight ≤ 30000 := by
  have hbody : Json.weightFields emptyOwnerBody.dropLast ≤ 20000 := by decide +kernel
  have hkey : "technical_report_hash".utf8ByteSize = 21 := by decide
  have hlast : emptyOwnerBody = emptyOwnerBody.dropLast ++ [("technical_report_hash", .str (canonicalSha256
      (.obj (emptyReport { tenantId := "t1", projectId := "p1", audience := "owner" }).stable)))] := rfl
  have hdigest := weight_digest_le (isDigest_canonicalSha256
    (.obj (emptyReport { tenantId := "t1", projectId := "p1", audience := "owner" }).stable))
  have happend := Json.weightFields_append emptyOwnerBody.dropLast [("technical_report_hash", .str (canonicalSha256
    (.obj (emptyReport { tenantId := "t1", projectId := "p1", audience := "owner" }).stable)))]
  have hhash := @weight_withHash_le emptyOwnerBody _ (isDigest_canonicalSha256 (.obj emptyOwnerBody))
  rw [← hlast, Json.weightFields, Json.weightFields, hkey] at happend
  rw [annexSnapshot]
  dsimp only
  omega

theorem length_escape_le (text : String) : (HandoffSnapshot.escape text).length ≤ 6 * text.utf8ByteSize := by
  have hchar : ∀ c : Char, (if c = '&' then "&amp;".toList else if c = '<' then "&lt;".toList
      else if c = '>' then "&gt;".toList else if c = '"' then "&quot;".toList else if c = '\'' then "&#x27;".toList
      else [c]).length ≤ 6 := by
    intro c
    split_ifs
    · decide
    · decide
    · decide
    · decide
    · decide
    · exact Nat.le_add_left 1 5
  have hbytes := length_toList_le text
  have hsum := List.sum_le_card_nsmul (text.toList.map fun c => (if c = '&' then "&amp;".toList
    else if c = '<' then "&lt;".toList else if c = '>' then "&gt;".toList else if c = '"' then "&quot;".toList
    else if c = '\'' then "&#x27;".toList else [c]).length) 6 (by
      intro n hn
      obtain ⟨c, _, rfl⟩ := List.mem_map.mp hn
      exact hchar c)
  rw [List.length_map, smul_eq_mul] at hsum
  rw [HandoffSnapshot.escape, List.length_flatMap]
  omega

theorem length_viewer_le : annexSnapshot.offlineOwnerViewer.length ≤ 6000 := by
  have hshape : ∀ (a b c d e f g p : String) (m n k l : List Char),
      (a.toList ++ HandoffSnapshot.escape phoneWarning ++ b.toList ++ HandoffSnapshot.escape p ++ c.toList ++ m ++ d.toList ++ n ++
        e.toList ++ k ++ f.toList ++ l ++ g.toList).length ≤
      a.utf8ByteSize + b.utf8ByteSize + c.utf8ByteSize + d.utf8ByteSize + e.utf8ByteSize + f.utf8ByteSize + g.utf8ByteSize +
        6 * phoneWarning.utf8ByteSize + 6 * p.utf8ByteSize + m.length + n.length + k.length + l.length := by
    intro a b c d e f g p m n k l
    have hwarning := length_escape_le phoneWarning
    have hproject := length_escape_le p
    simp only [List.length_append]
    have ha := length_toList_le a
    have hb := length_toList_le b
    have hc := length_toList_le c
    have hd := length_toList_le d
    have he := length_toList_le e
    have hf := length_toList_le f
    have hg := length_toList_le g
    omega
  refine (hshape _ _ _ _ _ _ _ _ _ _ _ _).trans ?_
  decide +kernel

theorem length_files_le {file : String × Bytes} (h : file ∈ annexSnapshot.files) : file.2.length ≤ 120000 := by
  have hcanonical : ∀ {v : Json}, v.weight ≤ 30000 → (canonicalJson v).length ≤ 120000 := by
    intro v hv
    have := length_canonicalJson_le v
    omega
  simp only [HandoffSnapshot.files, List.mem_cons, List.not_mem_nil, or_false] at h
  rcases h with rfl | rfl | rfl | rfl | rfl | rfl | rfl | rfl | rfl | rfl | rfl
  · exact hcanonical (by decide +kernel)
  · exact hcanonical weight_technical_le
  · exact hcanonical weight_owner_le
  · exact hcanonical (by decide)
  · exact hcanonical (by decide)
  · exact hcanonical (by decide)
  · exact hcanonical (by decide)
  · exact hcanonical (by decide)
  · exact hcanonical (by decide)
  · have hchars := length_utf8_le annexSnapshot.offlineOwnerViewer
    have hviewer := length_viewer_le
    dsimp only
    omega
  · have hchars := length_utf8_toList HandoffSnapshot.readme
    have hreadme : HandoffSnapshot.readme.utf8ByteSize ≤ 5000 := by decide +kernel
    dsimp only
    omega

theorem weight_checksums_le (s : HandoffSnapshot) : s.checksumsBody.weight ≤ 30000 := by
  have hfiles : Json.weightFields (s.checksums.map fun entry => (entry.1, .str entry.2)) ≤
      1 + (s.checksums.map fun entry => (entry.1, Json.str entry.2)).length * 2000 := by
    apply Json.weightFields_le
    intro p hp
    obtain ⟨entry, hentry, rfl⟩ := List.mem_map.mp hp
    obtain ⟨file, hfile, rfl⟩ := List.mem_map.mp hentry
    have hnames : ∀ name ∈ fileNames, name.utf8ByteSize ≤ 50 := by decide
    have hname := hnames file.1 ((names_files s).mem_iff.mp (List.mem_map_of_mem hfile))
    have hdigest := weight_digest_le (isDigest_sha256Hex file.2)
    dsimp only
    omega
  have hcount : (s.checksums.map fun entry => (entry.1, Json.str entry.2)).length = 11 := by
    rw [List.length_map, HandoffSnapshot.checksums, List.length_map, length_sortBy]
    rfl
  have hroot := weight_digest_le (isDigest_merkleRoot s.checksums)
  have hkeys : "algorithm".utf8ByteSize + "sha256".utf8ByteSize + "files".utf8ByteSize + "root_hash".utf8ByteSize ≤ 50 := by
    decide
  have halgorithm : (Json.str "sha256").weight = 6 * "sha256".utf8ByteSize + 2 := by rw [Json.weight]
  rw [hcount] at hfiles
  simp only [HandoffSnapshot.checksumsBody, Json.weight, Json.weightFields] at hroot halgorithm ⊢
  omega

theorem fits_annex {member : String × Bytes} (h : member ∈ annexSnapshot.members) : member.2.length ≤ 120000 := by
  rw [HandoffSnapshot.members] at h
  rcases List.mem_append.mp h with h | h
  · exact length_files_le (mem_sortBy.mp h)
  · rw [List.mem_singleton.mp h]
    have hweight := weight_checksums_le annexSnapshot
    have hlength := length_canonicalJson_le annexSnapshot.checksumsBody
    dsimp only
    omega

/-- The package of the sample is verified. -/
theorem verifyOwnerHandoff_annex : ∃ validation,
    verifyOwnerHandoff annexRuntime (some (packMembers annexRuntime annexSnapshot.members)) = .ok validation ∧
      validation.valid = true ∧ validation.rootHash = merkleRoot annexSnapshot.checksums ∧
      validation.zipSha256 = sha256Hex (annexRuntime.archive annexSnapshot.members) := by
  apply verifyOwnerHandoff_written
  · have hreader : annexRuntime.strictLoads = readerOf annexSnapshot.checksumsBody := rfl
    rw [hreader]
    exact readerOf_self _
  · intro member hmember
    have hlength := fits_annex hmember
    refine ⟨hlength.trans (by decide), ?_, ?_⟩
    · intro hne hzero
      exact hne (List.length_eq_zero_iff.mp hzero)
    · exact Nat.le_mul_of_pos_left _ (by decide)
  · have hsum := List.sum_le_card_nsmul (annexSnapshot.members.map fun member => member.2.length) 120000 (by
      intro n hn
      obtain ⟨member, hmember, rfl⟩ := List.mem_map.mp hn
      exact fits_annex hmember)
    have hcount : annexSnapshot.members.length = 12 := by
      have hlength := (names_members annexSnapshot).length_eq
      rwa [List.length_map] at hlength
    rw [List.length_map, hcount, smul_eq_mul] at hsum
    rw [totalBytes]
    omega

def annexStamp : Stamp := ⟨1, "e1"⟩

theorem approved_bensRequest : checkApproval approvedDb 1 bensRequest = .ok () := by
  apply checkApproval_iff.mpr
  exact ⟨"ap1", newApproval "ap1" amysApproval, rfl, rfl, ⟨rfl, rfl, rfl, rfl, rfl, rfl, rfl⟩, by decide, by decide⟩

theorem prepareHandoff_bensRequest : ∃ handoffs, approvedDb.handoffs.insert? (newHandoff "h1" bensRequest) = some handoffs ∧
    zeroConstruction.prepareHandoff approvedDb "h1" annexStamp.now bensRequest none =
      .ok (handoffs, newHandoff "h1" bensRequest, annexSnapshot) := by
  obtain ⟨handoffs, hinsert⟩ := @Table.insert?_isSome _ _ approvedDb.handoffs (newHandoff "h1" bensRequest) rfl
  refine ⟨handoffs, hinsert, ?_⟩
  simp only [prepareHandoff, handoffRow, bind_eq_ok, orRaise_eq_ok]
  exact ⟨_, ⟨(), rfl, handoffs, hinsert, rfl⟩, (), approved_bensRequest, annexSnapshot, handoffSnapshot_annex, rfl⟩

theorem validatePayload_handoff {row : ConstructionHandoffRow} (hid : row.handoffId = "h1") (hroot : isDigest row.rootHash = true)
    (hstatus : row.status = .verified) : validatePayload (handoffAction row bensRequest).payload = .ok () := by
  have hkeys : (handoffAction row bensRequest).payload.map Prod.fst = ["resource_id", "root_hash", "status"] := rfl
  apply validatePayload_brief hkeys rfl (by decide)
  have hlength : row.rootHash.toList.length ≤ 64 := by
    simp only [isDigest, decide_eq_true_eq] at hroot
    exact hroot.1.le
  intro p hp
  have hpayload : (handoffAction row bensRequest).payload =
      [("resource_id", .str row.handoffId), ("root_hash", .str row.rootHash), ("status", .str row.status.value)] := rfl
  rw [hpayload, hid, hstatus] at hp
  simp only [List.mem_cons, List.not_mem_nil, or_false] at hp
  rcases hp with rfl | rfl | rfl
  · exact brief_str (by decide)
  · exact brief_str hlength
  · exact brief_str (by decide)

/-- The row of Ben's handoff. -/
def bensRow (validation : PackageValidation) : ConstructionHandoffRow :=
  builtHandoff (newHandoff "h1" bensRequest) annexSnapshot "annex.zip" validation

/-- Ben gets his package. -/
theorem createOwnerHandoff_ben : ∃ (handoffs : Table ConstructionHandoffRow (fun row => row.handoffId)) (store : Store)
    (validation : PackageValidation),
    zeroConstruction.createOwnerHandoff annexRuntime approvedDb "h1" annexStamp bensRequest =
      ({ writeFile approvedDb "annex.zip" (packMembers annexRuntime annexSnapshot.members) with
          toStore := store, handoffs := handoffs.set (bensRow validation) }, .ok (handoffResult (bensRow validation) false)) ∧
      handoffs.rows = [newHandoff "h1" bensRequest] ∧
      verifyOwnerHandoff annexRuntime (some (packMembers annexRuntime annexSnapshot.members)) = .ok validation ∧
      validation.valid = true ∧ validation.zipSha256 ≠ "" := by
  obtain ⟨validation, hverify, hvalid, hroot, hzip⟩ := verifyOwnerHandoff_annex
  obtain ⟨handoffs, hinsert, hprepare⟩ := prepareHandoff_bensRequest
  have hfind : findHandoff annexRuntime approvedDb bensRequest = .ok none := rfl
  have hstatus : (bensRow validation).status = .verified := by
    rw [bensRow, builtHandoff]
    exact if_pos hvalid
  have hdigest : isDigest (bensRow validation).rootHash = true := by
    have hrow : (bensRow validation).rootHash = validation.rootHash := rfl
    rw [hrow, hroot]
    exact isDigest_merkleRoot _
  obtain ⟨log, haudit⟩ := @Store.record_of_empty .zeroKey approvedDb.toStore annexStamp
    (handoffAction (bensRow validation) bensRequest).entry rfl
  obtain ⟨outbox, hrecord⟩ := @recordAction_of zeroConstruction _ _ _ _ _ haudit rfl rfl rfl
    (validatePayload_handoff rfl hdigest hstatus)
  have hwritten : (writeFile approvedDb bensRequest.destination (packMembers annexRuntime annexSnapshot.members)).files.lookup
      bensRequest.destination = some (packMembers annexRuntime annexSnapshot.members) := List.lookup_cons_self
  have hverify' := hverify
  rw [← hwritten] at hverify'
  refine ⟨handoffs, _, validation, createOwnerHandoff_of hfind hprepare (finishHandoff_of hverify' hrecord), ?_, hverify,
    hvalid, ?_⟩
  · rw [(Table.insert?_eq_some hinsert).2]
    exact List.nil_append _
  · intro hempty
    have hlength := length_sha256Hex (annexRuntime.archive annexSnapshot.members)
    rw [← hzip, hempty] at hlength
    cases hlength

/-- A retained and verified package is found by whoever asks for it with its key. -/
theorem findHandoff_cals {db : HandoffDb} {validation : PackageValidation} (hrows : db.handoffs.rows = [bensRow validation])
    (hfile : db.files.lookup "annex.zip" = some (packMembers annexRuntime annexSnapshot.members))
    (hverify : verifyOwnerHandoff annexRuntime (some (packMembers annexRuntime annexSnapshot.members)) = .ok validation)
    (hvalid : validation.valid = true) (hzip : validation.zipSha256 ≠ "") :
    findHandoff annexRuntime db calsRequest = .ok (some (bensRow validation)) := by
  have hstatus : (bensRow validation).status = .verified := by
    rw [bensRow, builtHandoff]
    exact if_pos hvalid
  have hdigest : (bensRow validation).requestHash = calsRequest.digest := rfl
  have hidempotent : idempotentHandoff db calsRequest = .ok (some (bensRow validation)) := by
    have hfound : [bensRow validation].find? (fun row => row.tenantId = calsRequest.tenantId ∧
        row.projectId = calsRequest.projectId ∧ row.idempotencyKey = calsRequest.idempotencyKey) =
        some (bensRow validation) := List.find?_cons_of_pos (decide_eq_true ⟨rfl, rfl, rfl⟩)
    rw [idempotentHandoff, hrows, hfound]
    simp only [bind_eq_ok, raiseIf_eq_ok]
    exact ⟨(), not_not.mpr hdigest, rfl⟩
  have hretained : checkRetained annexRuntime db (bensRow validation) = .ok () := by
    simp only [checkRetained, bind_eq_ok, orRaise_eq_ok, raiseIf_eq_ok]
    refine ⟨_, hfile, validation, hverify, ?_⟩
    rintro (hinvalid | hroot | hnone | hchanged)
    · rw [hvalid] at hinvalid
      cases hinvalid
    · exact hroot rfl
    · exact hzip hnone
    · exact hchanged rfl
  simp only [findHandoff, bind_eq_ok, raiseIf_eq_ok]
  refine ⟨(), by decide, some (bensRow validation), hidempotent, ?_⟩
  rw [Option.any_some, if_pos (decide_eq_true hstatus), bind_eq_ok]
  exact ⟨(), hretained, rfl⟩

theorem containsAnnex_sample : ContainsAnnex (packMembers annexRuntime annexSnapshot.members) := by
  refine ⟨_, zipWrite annexRuntime.deflatedSize ("data/handoff-validation.json", canonicalJson (.obj annexSnapshot.validation)),
    annexSnapshot.validation, rfl, ?_, rfl, rfl, ?_, rfl⟩
  · exact List.mem_map_of_mem (mem_members_validation annexSnapshot)
  · have hkeys : annexSnapshot.validation.map Prod.fst =
      ["status", "required_field_findings", "excluded_documents", "redactions", "restricted_annex_included"] := rfl
    rw [hkeys]
    decide

end Sample

end ConstructionService

end Sip
