import Sip.Construction.OwnerPackage

/-!
# What an ordinary handoff discloses

Two states of a project that differ only in restricted items. Without the restricted annex
their packages should have the same members. They do exactly when the restricted items
agree in what the rules of selection and the counts of the reports let through.
-/

namespace Sip

set_option autoImplicit false

section Canonical

theorem canonicalJson_congr {a b : Json} (h : a.Same b) : canonicalJson a = canonicalJson b := by
  rw [canonicalJson, canonicalJson, h]

theorem canonicalSha256_congr {a b : Json} (h : a.Same b) : canonicalSha256 a = canonicalSha256 b := by
  rw [canonicalSha256, canonicalSha256, canonicalJson_congr h]

/-- Objects with the same keys in one order and the same values at them. -/
theorem same_obj_of_map {fs gs : Dict} (h : (fs.map fun p => (p.1, p.2.normalize)) = gs.map fun p => (p.1, p.2.normalize)) :
    (Json.obj fs).Same (.obj gs) := by
  rw [Json.Same, Json.normalize, Json.normalize, Json.normalizeFields_eq_map, Json.normalizeFields_eq_map, h]

theorem same_arr_iff {xs ys : List Json} : (Json.arr xs).Same (.arr ys) ↔ xs.map Json.normalize = ys.map Json.normalize := by
  rw [Json.Same, Json.normalize, Json.normalize, Json.normalizeItems_eq_map, Json.normalizeItems_eq_map, Json.arr.injEq]

theorem length_of_same_arr {xs ys : List Json} (h : (Json.arr xs).Same (.arr ys)) : xs.length = ys.length := by
  have hlength := congrArg List.length (same_arr_iff.mp h)
  rwa [List.length_map, List.length_map] at hlength

end Canonical

section Counts

theorem lookup_graph {β : Type} (l : List String) (f : String → β) (k : String) :
    (l.map fun v => (v, f v)).lookup k = if k ∈ l then some (f k) else none := by
  induction l with
  | nil => rfl
  | cons v l ih =>
    rw [List.map_cons, List.lookup_cons]
    by_cases hk : k = v
    · subst hk
      simp
    · have hne : (k == v) = false := beq_false_of_ne hk
      simp only [hne, ih, List.mem_cons, hk, false_or]

theorem counts_perm {xs ys : List String} (h : xs.Perm ys) : ConstructionService.counts xs = ConstructionService.counts ys := by
  have hkeys : sortedSet id xs = sortedSet id ys := sortedSet_id_congr fun _ => h.mem_iff
  have hcount : (fun v => (v, xs.count v)) = fun v => (v, ys.count v) := by
    funext v
    rw [h.count_eq v]
  rw [ConstructionService.counts, ConstructionService.counts, hkeys, hcount]

/-- The counts of a report determine how often each value occurs. -/
theorem perm_of_counts {xs ys : List String}
    (h : (ConstructionService.countsJson (ConstructionService.counts xs)).Same
      (ConstructionService.countsJson (ConstructionService.counts ys))) : xs.Perm ys := by
  have hfields : ∀ zs : List String, ConstructionService.countsJson (ConstructionService.counts zs) =
      .obj ((sortedSet id zs).map fun v => (v, .int (zs.count v))) := by
    intro zs
    rw [ConstructionService.countsJson, ConstructionService.counts, List.map_map]
    rfl
  have hnodup : ∀ zs : List String, (((sortedSet id zs).map fun v => (v, Json.int (zs.count v))).map Prod.fst).Nodup := by
    intro zs
    have hlt := pairwise_lt_sortedSet id zs
    rw [List.map_id] at hlt
    rw [List.map_map]
    have hkeys : (sortedSet id zs).Nodup := hlt.imp fun hlt => hlt.ne
    simpa [Function.comp_def] using hkeys
  rw [hfields, hfields] at h
  apply List.perm_iff_count.mpr
  intro k
  have hlookup := Json.same_obj_lookup (hnodup xs) (hnodup ys) h k
  rw [lookup_graph, lookup_graph] at hlookup
  simp only [mem_sortedSet_id] at hlookup
  by_cases hx : k ∈ xs
  · by_cases hy : k ∈ ys
    · rw [if_pos hx, if_pos hy, Option.map_some, Option.map_some, Option.some.injEq, Json.normalize, Json.normalize,
        Json.num.injEq, Number.int.injEq] at hlookup
      exact Int.ofNat_inj.mp hlookup
    · rw [if_pos hx, if_neg hy] at hlookup
      cases hlookup
  · by_cases hy : k ∈ ys
    · rw [if_neg hx, if_pos hy] at hlookup
      cases hlookup
    · rw [List.count_eq_zero_of_not_mem hx, List.count_eq_zero_of_not_mem hy]

end Counts

namespace ConstructionService

/-- The states differ in restricted items only. -/
structure DifferInRestricted (svc : ConstructionService) (rows rows' : ProjectRows) : Prop where
  records : (rows.records.filter fun row => !svc.recordIsRestricted row.recordType row.dataJson) =
    rows'.records.filter fun row => !svc.recordIsRestricted row.recordType row.dataJson
  documents : (rows.documents.filter fun row => !svc.documentIsRestricted row) =
    rows'.documents.filter fun row => !svc.documentIsRestricted row
  issues : (rows.issues.filter fun row => !svc.issueIsRestricted row) =
    rows'.issues.filter fun row => !svc.issueIsRestricted row
  runs : rows.runs = rows'.runs
  interchanges : rows.interchanges = rows'.interchanges
  measurements : rows.measurements = rows'.measurements

section Discount

def Redaction.isWithheld : Redaction → Bool
  | .withheld => true
  | .fields _ _ => false

/-- An inventory without the entries about withheld records. -/
def Inventory.uncounted (inventory : Inventory) : Inventory :=
  { inventory with redactions := inventory.redactions.filter fun entry => !entry.isWithheld }

/-- A snapshot without its generation time and the number of withheld records. -/
def HandoffSnapshot.discounted (s : HandoffSnapshot) : HandoffSnapshot :=
  { s with inventory := s.inventory.uncounted, technical := { s.technical with generatedAt := 0 } }

/-- The packages have the same members with the same bytes, apart from the generation time and the number of withheld
records. -/
def SamePackage (s t : HandoffSnapshot) : Prop := s.discounted.members = t.discounted.members

end Discount

/-- The restricted items of the two states agree in what an ordinary handoff shows of them. -/
structure DisclosesSame (svc : ConstructionService) (rows rows' : ProjectRows) : Prop where
  /-- As many records of each type and in each state, and as many issues in each state. -/
  recordTypes : (rows.records.map FacilityRecordRow.recordType).Perm (rows'.records.map FacilityRecordRow.recordType)
  recordStates : (rows.records.map FacilityRecordRow.state).Perm (rows'.records.map FacilityRecordRow.state)
  issueStates : (rows.issues.map fun row => row.status.value).Perm (rows'.issues.map fun row => row.status.value)
  documentCount : rows.documents.length = rows'.documents.length
  latest : latestTime rows = latestTime rows'
  /-- The documents that the rule of exclusion lets through, and the names of the ones it excludes. -/
  documents : (Json.arr ((rows.documents.filter fun row => !excludes false row).map documentEntry)).Same
    (.arr ((rows'.documents.filter fun row => !excludes false row).map documentEntry))
  excluded : (Json.arr ((rows.documents.filter (excludes false)).map excludedEntry)).Same
    (.arr ((rows'.documents.filter (excludes false)).map excludedEntry))
  /-- The issues and the truth labels that are not about a restricted record. -/
  issues : (Json.arr ((rows.issues.filter (showsIssue (svc.restrictedRecordIds false rows.records))).map issueEntry)).Same
    (.arr ((rows'.issues.filter (showsIssue (svc.restrictedRecordIds false rows'.records))).map issueEntry))
  labels : (Json.arr (rows.interchanges.map (interchangeEntry (svc.restrictedRecordIds false rows.records)))).Same
    (.arr (rows'.interchanges.map (interchangeEntry (svc.restrictedRecordIds false rows'.records))))

section Inventory
variable {svc : ConstructionService}

theorem withholds_false (record : FacilityRecordRow) :
    svc.withholds false record = svc.recordIsRestricted record.recordType record.dataJson := by
  rw [withholds, Bool.not_false, Bool.and_true]

theorem uncounted_exportRecord {record : FacilityRecordRow} {inventory : Inventory}
    (h : exportRecord false record = .ok inventory) : inventory.uncounted = inventory := by
  simp only [exportRecord, bind_eq_ok] at h
  obtain ⟨_, _, h⟩ := h
  cases h
  rw [Inventory.uncounted]
  dsimp only
  split
  · rfl
  · rfl

/-- The inventory, its withheld entries apart, is that of the records that are not restricted. -/
theorem inventory_visible {records : List FacilityRecordRow} {inventory : Inventory}
    (h : svc.inventory false records = .ok inventory) :
    svc.inventory false (records.filter fun row => !svc.recordIsRestricted row.recordType row.dataJson) =
      .ok inventory.uncounted := by
  induction records generalizing inventory with
  | nil =>
    cases h
    rfl
  | cons record records ih =>
    simp only [ConstructionService.inventory, bind_eq_ok] at h
    obtain ⟨first, hfirst, rest, hrest, h⟩ := h
    cases h
    have htail := ih hrest
    by_cases hrestricted : svc.recordIsRestricted record.recordType record.dataJson = true
    · rw [inventoryOf, withholds_false, if_pos hrestricted] at hfirst
      cases hfirst
      rw [List.filter_cons_of_neg (by simpa using hrestricted), htail]
      rfl
    · have hown := hfirst
      rw [inventoryOf, withholds_false, if_neg hrestricted] at hown
      rw [List.filter_cons_of_pos (by simpa using hrestricted)]
      simp only [ConstructionService.inventory, bind_eq_ok]
      refine ⟨first, hfirst, rest.uncounted, htail, ?_⟩
      have hself := congrArg Inventory.redactions (uncounted_exportRecord hown)
      simp only [Inventory.uncounted] at hself
      simp only [Inventory.uncounted, List.filter_append, hself]
      rfl

end Inventory

section Snapshots
variable {svc : ConstructionService} {rows rows' : ProjectRows} {now now' : Nat} {req : HandoffRequest}

theorem technicalReport_eq_ok {request : ReportRequest} {report : TechnicalReport} (hasOf : request.asOf = none)
    (h : technicalReport rows now request = .ok report) :
    ∃ measurements, (sortBy MeasurementRow.measurementId rows.measurements).mapM reportedMeasurement = .ok measurements ∧
      report = {
        request, generatedAt := now, dataCutoff := latestTime rows, measurements
        recordCounts := counts (rows.records.map FacilityRecordRow.recordType)
        stateCounts := counts (rows.records.map FacilityRecordRow.state)
        issueCounts := counts (rows.issues.map fun issue => issue.status.value)
        commissioningCounts := counts (rows.runs.map ConstructionCommissioningRow.state)
        documentRevisions := rows.documents.length } := by
  rw [technicalReport, hasOf] at h
  obtain ⟨measurements, hmeasurements, h⟩ := bind_eq_ok.mp h
  cases h
  exact ⟨measurements, hmeasurements, rfl⟩

/-- The parts of a snapshot without the restricted annex. -/
structure Parts (svc : ConstructionService) (rows : ProjectRows) (now : Nat) (req : HandoffRequest) (s : HandoffSnapshot) :
    Prop where
  request : s.request = req
  inventory : svc.inventory false rows.records = .ok s.inventory
  documents : s.documents = (rows.documents.filter fun row => !excludes false row).map documentEntry
  excluded : s.excludedDocuments = (rows.documents.filter (excludes false)).map excludedEntry
  issues : s.issues = (rows.issues.filter (showsIssue (svc.restrictedRecordIds false rows.records))).map issueEntry
  commissioning : s.commissioning = rows.runs.map runEntry
  interchange : s.interchange = rows.interchanges.map (interchangeEntry (svc.restrictedRecordIds false rows.records))
  technical : technicalReport rows now (handoffReport req) = .ok s.technical
  owner : ownerReport rows now req.tenantId req.projectId = .ok s.owner

theorem handoffSnapshot_parts (hreq : req.includesRestricted = false) {s : HandoffSnapshot}
    (h : svc.handoffSnapshot rows now req = .ok s) : Parts svc rows now req s := by
  simp only [handoffSnapshot, hreq, bind_eq_ok] at h
  obtain ⟨inventory, hinventory, technical, htechnical, owner, howner, attributes, _, h⟩ := h
  cases h
  exact ⟨rfl, hinventory, rfl, rfl, rfl, rfl, rfl, htechnical, howner⟩

/-- The technical reports of states that disclose the same differ in their generation time only. -/
theorem technicalReport_same (hdiffer : DifferInRestricted svc rows rows') (hsame : DisclosesSame svc rows rows')
    {request : ReportRequest} (hasOf : request.asOf = none) {report report' : TechnicalReport}
    (h : technicalReport rows now request = .ok report) (h' : technicalReport rows' now' request = .ok report') :
    { report with generatedAt := 0 } = { report' with generatedAt := 0 } := by
  obtain ⟨measurements, hmeasurements, rfl⟩ := technicalReport_eq_ok hasOf h
  obtain ⟨measurements', hmeasurements', rfl⟩ := technicalReport_eq_ok hasOf h'
  rw [hdiffer.measurements, hmeasurements'] at hmeasurements
  cases hmeasurements
  simp only [hsame.latest, counts_perm hsame.recordTypes, counts_perm hsame.recordStates, counts_perm hsame.issueStates,
    hdiffer.runs, hsame.documentCount]

/-- The owner report does not say when its technical report was generated. -/
theorem ownerBody_generatedAt (report : TechnicalReport) (now : Nat) :
    ownerBody { report with generatedAt := now } = ownerBody report := rfl

theorem ownerReport_same (hdiffer : DifferInRestricted svc rows rows') (hsame : DisclosesSame svc rows rows')
    {tenantId projectId : String} {owner owner' : Dict} (h : ownerReport rows now tenantId projectId = .ok owner)
    (h' : ownerReport rows' now' tenantId projectId = .ok owner') : owner = owner' := by
  obtain ⟨technical, htechnical, h⟩ := bind_eq_ok.mp h
  obtain ⟨technical', htechnical', h'⟩ := bind_eq_ok.mp h'
  cases h
  cases h'
  have hbody : ownerBody technical = ownerBody technical' := by
    rw [← ownerBody_generatedAt technical 0, ← ownerBody_generatedAt technical' 0,
      technicalReport_same hdiffer hsame rfl htechnical htechnical']
  rw [hbody]

/-- What makes the members of two packages the same. -/
structure Alike (s t : HandoffSnapshot) : Prop where
  request : s.request = t.request
  inventory : s.inventory = t.inventory
  documents : (Json.arr s.documents).Same (.arr t.documents)
  excluded : (Json.arr s.excludedDocuments).Same (.arr t.excludedDocuments)
  issues : (Json.arr s.issues).Same (.arr t.issues)
  commissioning : s.commissioning = t.commissioning
  interchange : (Json.arr s.interchange).Same (.arr t.interchange)
  technical : s.technical = t.technical
  owner : s.owner = t.owner

theorem Alike.validation {s t : HandoffSnapshot} (h : Alike s t) : (Json.obj s.validation).Same (.obj t.validation) := by
  apply same_obj_of_map
  have hexcluded : (Json.arr s.excludedDocuments).normalize = (Json.arr t.excludedDocuments).normalize := h.excluded
  simp only [HandoffSnapshot.validation, List.map_cons, List.map_nil, h.inventory, h.request, hexcluded]

theorem Alike.manifest {s t : HandoffSnapshot} (h : Alike s t) : (Json.obj s.manifest).Same (.obj t.manifest) := by
  apply same_obj_of_map
  have hvalidation : (Json.obj s.validation).normalize = (Json.obj t.validation).normalize := h.validation
  simp only [HandoffSnapshot.manifest, List.map_cons, List.map_nil, h.inventory, h.request, h.commissioning, hvalidation,
    length_of_same_arr h.documents, length_of_same_arr h.issues, length_of_same_arr h.interchange]

theorem Alike.offlineOwnerViewer {s t : HandoffSnapshot} (h : Alike s t) : s.offlineOwnerViewer = t.offlineOwnerViewer := by
  rw [HandoffSnapshot.offlineOwnerViewer, HandoffSnapshot.offlineOwnerViewer, h.inventory, h.request, h.commissioning,
    length_of_same_arr h.documents, length_of_same_arr h.issues]

theorem Alike.files {s t : HandoffSnapshot} (h : Alike s t) : s.files = t.files := by
  simp only [HandoffSnapshot.files, canonicalJson_congr h.manifest, canonicalJson_congr h.validation,
    canonicalJson_congr h.documents, canonicalJson_congr h.issues, canonicalJson_congr h.interchange, h.offlineOwnerViewer,
    h.technical, h.owner, h.inventory, h.commissioning]

theorem members_eq_of_files {s t : HandoffSnapshot} (h : s.files = t.files) : s.members = t.members := by
  simp only [HandoffSnapshot.members, HandoffSnapshot.checksumsBody, HandoffSnapshot.checksums, h]

theorem nodup_files (s : HandoffSnapshot) : (s.files.map Prod.fst).Nodup := by
  have hkeys : s.files.map Prod.fst = [
    "manifest.json", "reports/technical.json", "reports/owner.json", "data/inventory.json", "data/documents.json",
    "data/issues.json", "data/commissioning.json", "data/interchange.json", "data/handoff-validation.json",
    "viewer/index.html", "README.txt"] := rfl
  rw [hkeys]
  decide

/-- Packages with the same members have the same bytes under every name. -/
theorem lookup_files_of_members {s t : HandoffSnapshot} (h : s.members = t.members) (name : String) :
    s.files.lookup name = t.files.lookup name := by
  rw [HandoffSnapshot.members, HandoffSnapshot.members] at h
  have hsorted : sortBy Prod.fst s.files = sortBy Prod.fst t.files := by
    apply List.append_inj_left' h
    rw [List.length_singleton, List.length_singleton]
  have hperm : s.files.Perm t.files := by
    have hleft := (perm_sortBy Prod.fst s.files).symm
    rw [hsorted] at hleft
    exact hleft.trans (perm_sortBy Prod.fst t.files)
  exact lookup_eq_of_perm (nodup_files s) hperm name

/-- The members that show what is selected from restricted items, and the reports. -/
theorem lookup_files (s : HandoffSnapshot) :
    s.files.lookup "reports/technical.json" = some (canonicalJson (.obj s.technical.document)) ∧
    s.files.lookup "data/documents.json" = some (canonicalJson (.arr s.documents)) ∧
    s.files.lookup "data/issues.json" = some (canonicalJson (.arr s.issues)) ∧
    s.files.lookup "data/interchange.json" = some (canonicalJson (.arr s.interchange)) ∧
    s.files.lookup "data/handoff-validation.json" = some (canonicalJson (.obj s.validation)) := by
  simp [HandoffSnapshot.files, List.lookup_cons]

theorem nodup_document (report : TechnicalReport) : (report.document.map Prod.fst).Nodup := by
  have hkeys : report.document.map Prod.fst = [
    "report_type", "tenant_id", "project_id", "scope", "visit_id", "scene_commit_id", "design_revision_ids", "author_id",
    "template_version", "audience", "query_filters", "as_of", "data_cutoff", "representations_used", "excluded_areas",
    "record_counts", "state_counts", "issue_counts", "commissioning_counts", "document_revisions", "measurements",
    "measurement_authority", "limitations", "warnings", "generated_at", "report_hash"] := rfl
  rw [hkeys]
  decide

/-- What a technical report says about the rows it counts. -/
theorem lookup_document (report : TechnicalReport) :
    report.document.lookup "record_counts" = some (countsJson report.recordCounts) ∧
    report.document.lookup "state_counts" = some (countsJson report.stateCounts) ∧
    report.document.lookup "issue_counts" = some (countsJson report.issueCounts) ∧
    report.document.lookup "document_revisions" = some (.int report.documentRevisions) ∧
    report.document.lookup "data_cutoff" = some (.ofOption (report.dataCutoff.map isoformat)) := by
  simp [TechnicalReport.document, TechnicalReport.stable, List.lookup_cons]

theorem lookup_validation (s : HandoffSnapshot) :
    s.validation.lookup "excluded_documents" = some (.arr s.excludedDocuments) := by
  simp [HandoffSnapshot.validation, List.lookup_cons]

theorem nodup_validation (s : HandoffSnapshot) : (s.validation.map Prod.fst).Nodup := by
  have hkeys : s.validation.map Prod.fst =
    ["status", "required_field_findings", "excluded_documents", "redactions", "restricted_annex_included"] := rfl
  rw [hkeys]
  decide

/-- Members with one canonical text are the same as JSON. -/
theorem same_of_members {s t : HandoffSnapshot} (h : s.members = t.members) {name : String} {a b : Json}
    (ha : s.files.lookup name = some (canonicalJson a)) (hb : t.files.lookup name = some (canonicalJson b)) : a.Same b := by
  have hbytes := lookup_files_of_members h name
  rw [ha, hb] at hbytes
  exact same_of_canonicalJson_eq (Option.some.inj hbytes)

/-- Objects that are the same have the same values at a key. -/
theorem same_of_lookup {fs gs : Dict} (hf : (fs.map Prod.fst).Nodup) (hg : (gs.map Prod.fst).Nodup)
    (h : (Json.obj fs).Same (.obj gs)) {key : String} {a b : Json} (ha : fs.lookup key = some a) (hb : gs.lookup key = some b) :
    a.Same b := by
  have hvalue := Json.same_obj_lookup hf hg h key
  rw [ha, hb, Option.map_some, Option.map_some] at hvalue
  exact Option.some.inj hvalue

/-- What is disclosed can be read off the package. -/
theorem disclosesSame_of_samePackage {s t : HandoffSnapshot} (hs : Parts svc rows now req s) (ht : Parts svc rows' now' req t)
    (h : SamePackage s t) : DisclosesSame svc rows rows' := by
  obtain ⟨measurements, _, hreport⟩ := technicalReport_eq_ok rfl hs.technical
  obtain ⟨measurements', _, hreport'⟩ := technicalReport_eq_ok rfl ht.technical
  obtain ⟨htechnical, hdocuments, hissues, hinterchange, hvalidation⟩ := lookup_files s.discounted
  obtain ⟨htechnical', hdocuments', hissues', hinterchange', hvalidation'⟩ := lookup_files t.discounted
  obtain ⟨hrecords, hstates, hstatuses, hcount, hcutoff⟩ := lookup_document s.discounted.technical
  obtain ⟨hrecords', hstates', hstatuses', hcount', hcutoff'⟩ := lookup_document t.discounted.technical
  have hdocument := same_of_members h htechnical htechnical'
  have hat : ∀ {key : String} {a b : Json}, s.discounted.technical.document.lookup key = some a →
      t.discounted.technical.document.lookup key = some b → a.Same b :=
    fun ha hb => same_of_lookup (nodup_document _) (nodup_document _) hdocument ha hb
  refine ⟨?_, ?_, ?_, ?_, ?_, ?_, ?_, ?_, ?_⟩
  · have hsame := hat hrecords hrecords'
    simp only [HandoffSnapshot.discounted, hreport, hreport'] at hsame
    exact perm_of_counts hsame
  · have hsame := hat hstates hstates'
    simp only [HandoffSnapshot.discounted, hreport, hreport'] at hsame
    exact perm_of_counts hsame
  · have hsame := hat hstatuses hstatuses'
    simp only [HandoffSnapshot.discounted, hreport, hreport'] at hsame
    exact perm_of_counts hsame
  · have hsame := hat hcount hcount'
    simp only [HandoffSnapshot.discounted, hreport, hreport', Json.Same, Json.normalize, Json.num.injEq,
      Number.int.injEq] at hsame
    exact Int.ofNat_inj.mp hsame
  · have hsame := hat hcutoff hcutoff'
    simp only [HandoffSnapshot.discounted, hreport, hreport', Json.Same, Json.normalize_ofOption] at hsame
    exact Option.map_injective (fun _ _ => isoformat_injective) (Json.ofOption_injective hsame)
  · have hsame := same_of_members h hdocuments hdocuments'
    rw [← hs.documents, ← ht.documents]
    exact hsame
  · have hobject := same_of_members h hvalidation hvalidation'
    have hsame := same_of_lookup (nodup_validation _) (nodup_validation _) hobject (lookup_validation _) (lookup_validation _)
    rw [← hs.excluded, ← ht.excluded]
    exact hsame
  · have hsame := same_of_members h hissues hissues'
    rw [← hs.issues, ← ht.issues]
    exact hsame
  · have hsame := same_of_members h hinterchange hinterchange'
    rw [← hs.interchange, ← ht.interchange]
    exact hsame

theorem alike_of_disclosesSame (hdiffer : DifferInRestricted svc rows rows') {s t : HandoffSnapshot}
    (hs : Parts svc rows now req s) (ht : Parts svc rows' now' req t) (h : DisclosesSame svc rows rows') :
    Alike s.discounted t.discounted where
  request := hs.request.trans ht.request.symm
  inventory := by
    have hleft := inventory_visible hs.inventory
    rw [hdiffer.records, inventory_visible ht.inventory] at hleft
    exact (Except.ok.inj hleft).symm
  documents := by
    have hsame := h.documents
    rw [← hs.documents, ← ht.documents] at hsame
    exact hsame
  excluded := by
    have hsame := h.excluded
    rw [← hs.excluded, ← ht.excluded] at hsame
    exact hsame
  issues := by
    have hsame := h.issues
    rw [← hs.issues, ← ht.issues] at hsame
    exact hsame
  commissioning := by
    have hsame : s.commissioning = t.commissioning := by rw [hs.commissioning, ht.commissioning, hdiffer.runs]
    exact hsame
  interchange := by
    have hsame := h.labels
    rw [← hs.interchange, ← ht.interchange] at hsame
    exact hsame
  technical := technicalReport_same hdiffer h rfl hs.technical ht.technical
  owner := ownerReport_same hdiffer h hs.owner ht.owner

end Snapshots

/-- The packages of two states that differ in restricted items are the same exactly when these items agree in what an
ordinary handoff shows of them. -/
theorem samePackage_iff (svc : ConstructionService) {rows rows' : ProjectRows} (hdiffer : DifferInRestricted svc rows rows')
    {req : HandoffRequest} (hreq : req.includesRestricted = false) {now now' : Nat} {s t : HandoffSnapshot}
    (hs : svc.handoffSnapshot rows now req = .ok s) (ht : svc.handoffSnapshot rows' now' req = .ok t) :
    SamePackage s t ↔ DisclosesSame svc rows rows' := by
  have hparts := handoffSnapshot_parts hreq hs
  have hparts' := handoffSnapshot_parts hreq ht
  constructor
  · exact disclosesSame_of_samePackage hparts hparts'
  · intro h
    apply members_eq_of_files
    exact (alike_of_disclosesSame hdiffer hparts hparts' h).files

section Sample

/-- An issue that is marked as restricted. -/
def vaultIssue : ConstructionIssueRow where
  issueId := "i9"
  tenantId := "t1"
  projectId := "p1"
  idempotencyKey := "k9"
  requestHash := genesisHash
  issueType := "security"
  description := "The vault door does not lock"
  entityId := none
  placeId := none
  observedCommitId := none
  observedAt := 5
  evidenceJson := []
  reporterId := "ines"
  severity := .high
  responsibleParty := none
  dueAt := none
  status := .open
  permissionsJson := [("restricted", .bool true)]
  historyJson := []
  residualLimitationsJson := []
  verificationJson := []
  createdAt := 5
  updatedAt := 5

def emptyRows : ProjectRows := ⟨[], [], [], [], [], []⟩

def vaultRows : ProjectRows := { emptyRows with issues := [vaultIssue] }

def ordinaryHandoff : HandoffRequest := ⟨"t1", "p1", [], none, [], [], [], []⟩

theorem vaultRows_differ : DifferInRestricted zeroConstruction emptyRows vaultRows where
  records := rfl
  documents := rfl
  issues := by
    have hrestricted : zeroConstruction.issueIsRestricted vaultIssue = true := by decide
    simp [emptyRows, vaultRows, hrestricted]
  runs := rfl
  interchanges := rfl
  measurements := rfl

theorem snapshot_emptyRows : ∃ s, zeroConstruction.handoffSnapshot emptyRows 7 ordinaryHandoff = .ok s := ⟨_, rfl⟩

theorem snapshot_vaultRows : ∃ s, zeroConstruction.handoffSnapshot vaultRows 7 ordinaryHandoff = .ok s := ⟨_, rfl⟩

theorem samePackage_iff_vaultRows : ∃ s t, zeroConstruction.handoffSnapshot emptyRows 7 ordinaryHandoff = .ok s ∧
    zeroConstruction.handoffSnapshot vaultRows 7 ordinaryHandoff = .ok t ∧
      (SamePackage s t ↔ DisclosesSame zeroConstruction emptyRows vaultRows) := by
  obtain ⟨s, hs⟩ := snapshot_emptyRows
  obtain ⟨t, ht⟩ := snapshot_vaultRows
  exact ⟨s, t, hs, ht, samePackage_iff zeroConstruction vaultRows_differ rfl hs ht⟩

/-- The restricted issue stands in the ordinary package. -/
theorem package_shows_restricted_issue : DifferInRestricted zeroConstruction emptyRows vaultRows ∧
    ordinaryHandoff.includesRestricted = false ∧
    ∃ s t, zeroConstruction.handoffSnapshot emptyRows 7 ordinaryHandoff = .ok s ∧
      zeroConstruction.handoffSnapshot vaultRows 7 ordinaryHandoff = .ok t ∧ ¬ SamePackage s t := by
  obtain ⟨s, hs⟩ := snapshot_emptyRows
  obtain ⟨t, ht⟩ := snapshot_vaultRows
  refine ⟨vaultRows_differ, rfl, s, t, hs, ht, ?_⟩
  intro h
  have hsame := disclosesSame_of_samePackage (handoffSnapshot_parts rfl hs) (handoffSnapshot_parts rfl ht) h
  have hstates := hsame.issueStates.length_eq
  cases hstates

end Sample

end ConstructionService

end Sip
