import Sip.Audit.Chain
import Sip.Spatial.Assertions
import Sip.Spatial.MergeLaws

/-!
# What hidden assertions let a caller see

Two databases that differ in assertions the caller may not see. The limit is applied
before the rows are tested, so a hidden row takes the place of a visible one. The
listings are equal exactly when no hidden row is among the selected ones, or when
every visible row is among them and no selected row makes the test fail.
-/

namespace Sip

set_option autoImplicit false

section Cut
variable {α : Type} {p : α → Bool} {xs : List α}

/-- Cutting a list and then filtering it gives a part of the filtered list. -/
theorem take_filter_isPrefix (p : α → Bool) (xs : List α) (n : Nat) : (xs.take n).filter p <+: xs.filter p := by
  conv_rhs => rw [← List.take_append_drop n xs, List.filter_append]
  exact List.prefix_append _ _

/-- It gives the first ones of the filtered list exactly when the filter drops nothing before the cut, or
keeps nothing after it. -/
theorem filter_take_eq_iff (n : Nat) :
    (xs.take n).filter p = (xs.filter p).take n ↔ (∀ x ∈ xs.take n, p x = true) ∨ ∀ x ∈ xs.drop n, p x = false := by
  have hsplit : xs.filter p = (xs.take n).filter p ++ (xs.drop n).filter p := by
    rw [← List.filter_append, List.take_append_drop]
  have hkept : ((xs.take n).filter p).length ≤ n := (List.length_filter_le _ _).trans (List.length_take_le n xs)
  constructor
  · intro h
    by_cases hrest : (xs.drop n).filter p = []
    · exact .inr fun x hx => by simpa using List.filter_eq_nil_iff.mp hrest x hx
    · left
      -- something visible is left after the cut, so all places before it must be taken
      have hlength : n ≤ ((xs.take n).filter p).length := by
        have hpos := List.length_pos_iff.mpr hrest
        have hlen := congrArg List.length h
        have htotal := congrArg List.length hsplit
        rw [List.length_take] at hlen
        rw [List.length_append] at htotal
        omega
      have hfull : ((xs.take n).filter p).length = (xs.take n).length :=
        le_antisymm (List.length_filter_le _ _) ((List.length_take_le n xs).trans hlength)
      exact List.length_filter_eq_length_iff.mp hfull
  · rintro (hall | hnone)
    · have hsame : (xs.take n).filter p = xs.take n := List.filter_eq_self.mpr hall
      rw [hsplit, hsame]
      by_cases hn : n ≤ xs.length
      · rw [List.take_append_of_le_length (by rw [List.length_take]; omega), List.take_take, min_self]
      · have hdrop : xs.drop n = [] := List.drop_eq_nil_of_le (by omega)
        rw [hdrop, List.filter_nil, List.append_nil, List.take_take, min_self]
    · have hrest : (xs.drop n).filter p = [] := List.filter_eq_nil_iff.mpr fun x hx => by simp [hnone x hx]
      rw [hsplit, hrest, List.append_nil, List.take_of_length_le hkept]

end Cut

namespace SpatialDataService

section Visibility
variable (py : Conversions) (db : AssertionDb) (now : Nat) (principal : SignedPrincipal) (req : AssertionListRequest)

/-- The caller may see the assertion: it is in the project, and all of its evidence is open to the caller. -/
def visible (row : AssertionRow) : Bool :=
  decide (row.tenantId = req.tenantId ∧ row.projectId = req.projectId) &&
    match authorizedAssertionEvidence py db now row principal req.purpose with
    | .ok (some _) => true
    | _ => false

/-- The test of the row does not raise. -/
def Testable (row : AssertionRow) : Prop :=
  ∃ evidence, authorizedAssertionEvidence py db now row principal req.purpose = .ok evidence

/-- The listing as the code gets to it: access to the collection and well-formed filters. -/
def Admitted : Prop :=
  PolicyService.denial principal (collectionRequest req) = .ok none ∧ 1 ≤ req.limit ∧ req.limit ≤ 500 ∧
    ∀ state ∈ normalizedStates req, state ∈ allowedStates

/-- No visible row has lost its place to a hidden one, and no selected row makes the listing fail. -/
def Undisturbed : Prop :=
  (∀ row ∈ (matchingRows db req).take req.limit.toNat, visible py db now principal req row = true) ∨
    (∀ row ∈ (matchingRows db req).take req.limit.toNat, Testable py db now principal req row) ∧
    ∀ row ∈ (matchingRows db req).drop req.limit.toNat, visible py db now principal req row = false

end Visibility

/-- The databases differ in assertions only, and only in those that the caller may not see. -/
structure DifferHidden (py : Conversions) (db db' : AssertionDb) (now : Nat) (principal : SignedPrincipal)
    (req : AssertionListRequest) : Prop where
  audit : db'.audit = db.audit
  evidence : db'.evidence = db.evidence
  refs : db'.refs = db.refs
  grants : db'.grants = db.grants
  assertions : ∀ row, visible py db now principal req row = true → (row ∈ db'.assertions.rows ↔ row ∈ db.assertions.rows)

section Listing
variable {svc : AuditService} {py : Conversions} {db db' : AssertionDb} {stamp : Stamp} {now : Nat}
  {principal : SignedPrincipal} {req : AssertionListRequest} {row : AssertionRow} {rows : List AssertionRow}

/-- What the listing shows of a visible row. -/
def itemOf (py : Conversions) (db : AssertionDb) (now : Nat) (principal : SignedPrincipal) (req : AssertionListRequest)
    (row : AssertionRow) : AssertionItem :=
  { row with authorizedCount := match authorizedAssertionEvidence py db now row principal req.purpose with
      | .ok (some evidence) => evidence.length
      | _ => 0 }

theorem Matches.scope (h : Matches req row) : row.tenantId = req.tenantId ∧ row.projectId = req.projectId := ⟨h.1, h.2.1⟩

/-- The loop returns the visible rows of those it is given. -/
theorem collectItems_ok (hscope : ∀ row ∈ rows, Matches req row)
    (htestable : ∀ row ∈ rows, Testable py db now principal req row) :
    ∃ withheld, collectItems py db now principal req.purpose rows =
      .ok ((rows.filter (visible py db now principal req)).map (itemOf py db now principal req), withheld) := by
  induction rows with
  | nil => exact ⟨0, rfl⟩
  | cons row rows ih =>
    obtain ⟨withheld, hrest⟩ := ih (fun r hr => hscope r (List.mem_cons_of_mem _ hr))
      (fun r hr => htestable r (List.mem_cons_of_mem _ hr))
    obtain ⟨evidence, hevidence⟩ := htestable row List.mem_cons_self
    have hmatches := (hscope row List.mem_cons_self).scope
    cases evidence with
    | none =>
      refine ⟨withheld + 1, ?_⟩
      have hhidden : visible py db now principal req row = false := by simp [visible, hevidence]
      rw [List.filter_cons_of_neg (by simp [hhidden])]
      simp only [collectItems, hevidence, hrest]
      rfl
    | some evidence =>
      refine ⟨withheld, ?_⟩
      have hvisible : visible py db now principal req row = true := by simp [visible, hevidence, hmatches]
      have hitem : itemOf py db now principal req row = { row with authorizedCount := evidence.length } := by
        simp only [itemOf, hevidence]
      rw [List.filter_cons_of_pos hvisible, List.map_cons, hitem]
      simp only [collectItems, hevidence, hrest]
      rfl

/-- It fails if the test of one of them does. -/
theorem testable_of_collectItems {result : List AssertionItem × Nat}
    (h : collectItems py db now principal req.purpose rows = .ok result) :
    ∀ row ∈ rows, Testable py db now principal req row := by
  induction rows generalizing result with
  | nil => nofun
  | cons row rows ih =>
    simp only [collectItems, bind_eq_ok] at h
    obtain ⟨evidence, hevidence, rest, hrest, _⟩ := h
    intro r hr
    rcases List.mem_cons.mp hr with rfl | hr
    · exact ⟨evidence, hevidence⟩
    · exact ih hrest r hr

theorem matches_of_mem (h : row ∈ matchingRows db req) : Matches req row :=
  of_decide_eq_true (List.mem_filter.mp (mem_sortBy.mp h)).2

/-- The test of a row does not read other assertions. -/
theorem authorizedEvidence_congr (hevidence : db'.evidence = db.evidence) (hrefs : db'.refs = db.refs)
    (hgrants : db'.grants = db.grants) (purpose : Option String) (evidenceIds : List String) :
    authorizedEvidence py db' now row principal purpose evidenceIds =
      authorizedEvidence py db now row principal purpose evidenceIds := by
  have hdecision : ∀ evidence asset, evidenceAccessDecision py db' now evidence asset principal purpose =
      evidenceAccessDecision py db now evidence asset principal purpose := by
    intro evidence asset
    unfold evidenceAccessDecision grantsDenial grantDenial
    rw [hgrants]
  induction evidenceIds with
  | nil => rfl
  | cons evidenceId evidenceIds ih => simp only [authorizedEvidence, hevidence, hrefs, hdecision, ih]

section Differ
variable (h : DifferHidden py db db' now principal req)
include h

theorem DifferHidden.authorized_eq (row : AssertionRow) :
    authorizedAssertionEvidence py db' now row principal req.purpose =
      authorizedAssertionEvidence py db now row principal req.purpose :=
  authorizedEvidence_congr h.evidence h.refs h.grants req.purpose _

theorem DifferHidden.visible_eq : visible py db' now principal req = visible py db now principal req := by
  funext row
  rw [visible, visible, h.authorized_eq]

theorem DifferHidden.itemOf_eq : itemOf py db' now principal req = itemOf py db now principal req := by
  funext row
  simp only [itemOf, h.authorized_eq]

/-- Both databases have the same visible rows, in the same order. -/
theorem DifferHidden.matchingRows_eq : (matchingRows db' req).filter (visible py db now principal req) =
    (matchingRows db req).filter (visible py db now principal req) := by
  have hkeys : ∀ db : AssertionDb, ((db.assertions.rows.filter (Matches req)).map listingKey).Nodup := by
    intro db
    apply List.Nodup.of_map (fun key : (Nat ×ₗ String)ᵒᵈ => (ofLex (OrderDual.ofDual key)).2)
    rw [List.map_map]
    exact db.assertions.nodup.sublist (List.filter_sublist.map _)
  apply filter_sortBy_eq (hkeys db) (hkeys db')
  intro row hvisible
  rw [List.mem_filter, List.mem_filter]
  exact and_congr_left fun _ => h.assertions row hvisible

end Differ

/-- The audit log takes the entry of the listing, whatever its counts are. -/
def LogAccepts (svc : AuditService) (db : AssertionDb) (stamp : Stamp) (principal : SignedPrincipal)
    (req : AssertionListRequest) : Prop :=
  ∀ returned withheld, ∃ log, svc.append db.audit stamp.now stamp.auditId
    (listingAudit principal req returned withheld) = .ok log

theorem listAssertions_of_admitted (hadmitted : Admitted principal req) :
    (listAssertions svc py db stamp principal req).2 = (listSelected svc py db stamp principal req).map Prod.snd := by
  have haccess : requireAssertionCollectionAccess svc db.audit stamp principal req = (db.audit, .ok ()) := by
    simp only [requireAssertionCollectionAccess, hadmitted.1]
  simp only [listAssertions, haccess]
  cases listSelected svc py db stamp principal req with
  | error e => rfl
  | ok result => rfl

/-- What an ordinary caller gets if no selected row raises: the visible ones of them. -/
theorem listing_ok (huser : ∀ role ∈ principal.roles, role ∉ privilegedPolicyRoles) (hadmitted : Admitted principal req)
    (haccepts : LogAccepts svc db stamp principal req)
    (htestable : ∀ row ∈ (matchingRows db req).take req.limit.toNat, Testable py db stamp.now principal req row) :
    (listAssertions svc py db stamp principal req).2 =
      .ok ⟨(((matchingRows db req).take req.limit.toNat).filter (visible py db stamp.now principal req)).map
        (itemOf py db stamp.now principal req), none, req.limit⟩ := by
  obtain ⟨withheld, hitems⟩ := collectItems_ok (fun row hrow => matches_of_mem (List.mem_of_mem_take hrow)) htestable
  generalize (((matchingRows db req).take req.limit.toNat).filter (visible py db stamp.now principal req)).map
    (itemOf py db stamp.now principal req) = items at hitems ⊢
  obtain ⟨log, hlog⟩ := haccepts items.length withheld
  have hroles : principal.roles.any (· ∈ privilegedPolicyRoles) = false := by simpa using huser
  have hselected : listSelected svc py db stamp principal req = .ok (log, ⟨items, none, req.limit⟩) := by
    obtain ⟨_, hpositive, hbounded, hstates⟩ := hadmitted
    simp only [listSelected, bind_eq_ok, raiseIf_eq_ok]
    refine ⟨(), by omega, (), by simpa using hstates, _, hitems, log, hlog, ?_⟩
    rw [hroles]
    rfl
  rw [listAssertions_of_admitted hadmitted, hselected]
  rfl

/-- A request that is refused before any row is read is refused alike in both databases. -/
theorem listing_of_not_admitted (hrefused : ¬ Admitted principal req) (haudit : db'.audit = db.audit) :
    (listAssertions svc py db stamp principal req).2 = (listAssertions svc py db' stamp principal req).2 := by
  simp only [listAssertions, haudit]
  cases haccess : requireAssertionCollectionAccess svc db.audit stamp principal req with
  | mk log access =>
    cases access with
    | error e => rfl
    | ok =>
      have hallowed : PolicyService.denial principal (collectionRequest req) = .ok none := by
        simp only [requireAssertionCollectionAccess] at haccess
        split at haccess
        · cases haccess
        · assumption
        · split at haccess <;> cases haccess
      have herror : ∃ e, ∀ db : AssertionDb, listSelected svc py db stamp principal req = .error e := by
        by_cases hlimit : req.limit < 1 ∨ 500 < req.limit
        · exact ⟨_, fun db => bind_eq_error.mpr (.inl (raiseIf_eq_error.mpr ⟨hlimit, rfl⟩))⟩
        · have hstates : ∃ state ∈ normalizedStates req, state ∉ allowedStates := by
            by_contra hstates
            push Not at hstates
            exact hrefused ⟨hallowed, by omega, by omega, hstates⟩
          exact ⟨_, fun db => bind_eq_error.mpr (.inr ⟨(), raiseIf_eq_ok.mpr hlimit,
            bind_eq_error.mpr (.inl (raiseIf_eq_error.mpr ⟨hstates, rfl⟩))⟩)⟩
      obtain ⟨e, herror⟩ := herror
      rw [herror db, herror db']

/-- A listing that is returned has tested all selected rows. -/
theorem testable_of_listing (hadmitted : Admitted principal req) {listing : AssertionListing}
    (h : (listAssertions svc py db stamp principal req).2 = .ok listing) :
    ∀ row ∈ (matchingRows db req).take req.limit.toNat, Testable py db stamp.now principal req row := by
  rw [listAssertions_of_admitted hadmitted] at h
  cases hselected : listSelected svc py db stamp principal req with
  | error e =>
    rw [hselected] at h
    cases h
  | ok result =>
    simp only [listSelected, bind_eq_ok] at hselected
    obtain ⟨_, _, _, _, collected, hcollected, _⟩ := hselected
    exact testable_of_collectItems hcollected

theorem testable_of_visible (h : visible py db now principal req row = true) : Testable py db now principal req row := by
  rw [visible, Bool.and_eq_true] at h
  cases hevidence : authorizedAssertionEvidence py db now row principal req.purpose with
  | error e =>
    rw [hevidence] at h
    cases h.2
  | ok evidence => exact ⟨evidence, hevidence⟩

theorem Undisturbed.testable (h : Undisturbed py db now principal req) :
    ∀ row ∈ (matchingRows db req).take req.limit.toNat, Testable py db now principal req row := by
  rcases h with hall | ⟨htestable, _⟩
  · exact fun row hrow => testable_of_visible (hall row hrow)
  · exact htestable

/-- If no row raises, the listing is undisturbed when it shows the first of all visible rows. -/
theorem undisturbed_iff (htestable : ∀ row ∈ (matchingRows db req).take req.limit.toNat,
    Testable py db now principal req row) : Undisturbed py db now principal req ↔
    ((matchingRows db req).take req.limit.toNat).filter (visible py db now principal req) =
      ((matchingRows db req).filter (visible py db now principal req)).take req.limit.toNat := by
  rw [filter_take_eq_iff, Undisturbed]
  exact or_congr_right ⟨fun h => h.2, fun h => ⟨htestable, h⟩⟩

/-- A caller without a privileged role, two databases that differ only in assertions the caller may not see,
and the same request: if the listing of one of them is undisturbed, the other database gives the same response
exactly when the listing is undisturbed there too (or the request is refused before any row is read). -/
theorem listing_same_iff (svc : AuditService) (py : Conversions) (db db' : AssertionDb) (stamp : Stamp)
    (principal : SignedPrincipal) (req : AssertionListRequest)
    (huser : ∀ role ∈ principal.roles, role ∉ privilegedPolicyRoles)
    (hdiffer : DifferHidden py db db' stamp.now principal req) (haccepts : LogAccepts svc db stamp principal req)
    (hother : Admitted principal req → Undisturbed py db' stamp.now principal req) :
    (listAssertions svc py db stamp principal req).2 = (listAssertions svc py db' stamp principal req).2 ↔
      (Admitted principal req → Undisturbed py db stamp.now principal req) := by
  by_cases hadmitted : Admitted principal req
  · have hother := hother hadmitted
    have haccepts' : LogAccepts svc db' stamp principal req := by
      rw [LogAccepts, hdiffer.audit]
      exact haccepts
    have hrows := hdiffer.matchingRows_eq
    have hshown := (undisturbed_iff hother.testable).mp hother
    rw [listing_ok huser hadmitted haccepts' hother.testable, hshown, hdiffer.visible_eq, hdiffer.itemOf_eq, hrows]
    constructor
    · intro hsame _
      have htestable := testable_of_listing hadmitted hsame
      rw [listing_ok huser hadmitted haccepts htestable, Except.ok.injEq, AssertionListing.mk.injEq] at hsame
      have hlength := congrArg List.length hsame.1
      rw [List.length_map, List.length_map] at hlength
      rw [undisturbed_iff htestable]
      -- both are first parts of the visible rows, and they have the same length
      exact (List.prefix_of_prefix_length_le (take_filter_isPrefix _ _ _) (List.take_prefix _ _) hlength.le).eq_of_length
        hlength
    · intro hundisturbed
      have htestable := (hundisturbed hadmitted).testable
      rw [listing_ok huser hadmitted haccepts htestable, (undisturbed_iff htestable).mp (hundisturbed hadmitted)]
  · exact ⟨fun _ h => absurd h hadmitted, fun _ => listing_of_not_admitted hadmitted hdiffer.audit⟩

end Listing

section Sample

/-- No document of the sample holds an expiry. -/
def plainConversions : Conversions := { plainText with fromisoformat := fun _ => none }

def viewer : SignedPrincipal where
  subjectId := "vic"
  tenantId := "t1"
  projectIds := ["p1"]
  roles := ["viewer"]

def photo : AssetRefRow where
  assetId := "a1"
  tenantId := "t1"
  projectId := "p1"
  sha256 := ""
  originalName := "photo"
  classification := "internal"
  retentionClass := "project"
  sourceClass := "observed"
  authorityClass := "evidence"
  provenanceJson := []
  createdBy := "ana"

def evidenceOf (evidenceId : String) (accessPolicy : Dict) : EvidenceAccessRow where
  evidenceId := evidenceId
  tenantId := "t1"
  projectId := "p1"
  assetId := "a1"
  relevantRegionJson := []
  consentScopeJson := []
  accessPolicyJson := accessPolicy

def assertionOf (assertionId evidenceId : String) (assertedAt : Nat) : AssertionRow where
  assertionId := assertionId
  subjectId := "room-a"
  predicate := "wall_finish"
  objectJson := .str "plaster"
  sourceClass := "observed"
  authorityClass := "evidence"
  confidence := .one
  evidenceIdsJson := [evidenceId]
  assertedAt := assertedAt
  createdBy := "ana"
  createdAt := assertedAt
  tenantId := "t1"
  projectId := "p1"

/-- One assertion with open evidence, and those given besides. -/
def roomDb (assertions : Table AssertionRow (fun row => row.assertionId)) : AssertionDb where
  audit := .empty
  assertions := assertions
  evidence := ⟨[evidenceOf "x1" [], evidenceOf "x2" [("deny_all", .bool true)]], by decide⟩
  refs := ⟨[photo], by decide⟩
  grants := .empty

def openRoom : AssertionDb := roomDb ⟨[assertionOf "s1" "x1" 1], by decide⟩

/-- A newer assertion rests on evidence that nobody may read. -/
def guardedRoom : AssertionDb := roomDb ⟨[assertionOf "s1" "x1" 1, assertionOf "s2" "x2" 2], by decide⟩

def newestOnly : AssertionListRequest := { tenantId := "t1", projectId := "p1", limit := 1 }

theorem viewer_ordinary : ∀ role ∈ viewer.roles, role ∉ privilegedPolicyRoles := by decide

theorem admitted_viewer : Admitted viewer newestOnly := ⟨rfl, by decide, by decide, by decide⟩

theorem logAccepts_room (assertions : Table AssertionRow (fun row => row.assertionId)) (stamp : Stamp) :
    LogAccepts .zeroKey (roomDb assertions) stamp viewer newestOnly :=
  fun _ _ => AuditService.append_empty .zeroKey stamp.now stamp.auditId _

theorem differHidden_room : DifferHidden plainConversions guardedRoom openRoom 0 viewer newestOnly where
  audit := rfl
  evidence := rfl
  refs := rfl
  grants := rfl
  assertions := by
    intro row hvisible
    simp only [openRoom, guardedRoom, roomDb, List.mem_cons, List.not_mem_nil, or_false]
    constructor
    · exact .inl
    · rintro (rfl | rfl)
      · rfl
      · cases hvisible

theorem undisturbed_openRoom : Undisturbed plainConversions openRoom 0 viewer newestOnly := by
  left
  intro row hrow
  rw [List.mem_singleton.mp hrow]
  rfl

theorem listing_same_room :
    (∀ role ∈ viewer.roles, role ∉ privilegedPolicyRoles) ∧
    DifferHidden plainConversions guardedRoom openRoom 0 viewer newestOnly ∧
    ((listAssertions .zeroKey plainConversions guardedRoom ⟨0, "a1"⟩ viewer newestOnly).2 =
        (listAssertions .zeroKey plainConversions openRoom ⟨0, "a1"⟩ viewer newestOnly).2 ↔
      (Admitted viewer newestOnly → Undisturbed plainConversions guardedRoom 0 viewer newestOnly)) :=
  ⟨viewer_ordinary, differHidden_room, listing_same_iff .zeroKey plainConversions guardedRoom openRoom ⟨0, "a1"⟩ viewer
    newestOnly viewer_ordinary differHidden_room (logAccepts_room _ _) fun _ => undisturbed_openRoom⟩

/-- The hidden assertion takes the only place, and the caller sees an empty listing instead of the older one. -/
theorem hidden_assertion_shows :
    (∀ role ∈ viewer.roles, role ∉ privilegedPolicyRoles) ∧
    DifferHidden plainConversions guardedRoom openRoom 0 viewer newestOnly ∧
    (listAssertions .zeroKey plainConversions guardedRoom ⟨0, "a1"⟩ viewer newestOnly).2 ≠
      (listAssertions .zeroKey plainConversions openRoom ⟨0, "a1"⟩ viewer newestOnly).2 := by
  refine ⟨viewer_ordinary, differHidden_room, ?_⟩
  have hguarded : ∀ row ∈ (matchingRows guardedRoom newestOnly).take newestOnly.limit.toNat,
      Testable plainConversions guardedRoom 0 viewer newestOnly row := by
    intro row hrow
    rw [List.mem_singleton.mp hrow]
    exact ⟨none, rfl⟩
  have hempty := @listing_ok .zeroKey plainConversions guardedRoom ⟨0, "a1"⟩ viewer newestOnly viewer_ordinary
    admitted_viewer (logAccepts_room _ _) hguarded
  have hshown := @listing_ok .zeroKey plainConversions openRoom ⟨0, "a1"⟩ viewer newestOnly viewer_ordinary
    admitted_viewer (logAccepts_room _ _) undisturbed_openRoom.testable
  rw [hempty, hshown]
  intro hsame
  have hlength := congrArg (fun listing : Except Raised AssertionListing =>
    listing.toOption.map fun listing => listing.items.length) hsame
  exact absurd hlength (by decide)

end Sample

end SpatialDataService
end Sip
