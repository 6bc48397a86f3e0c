import Sip.Audit.Successive
import Sip.Foundation.PlainDigests
import Sip.Foundation.Runs
import Sip.Representation.Inheritance
import Sip.Representation.Invalidation
import Sip.Representation.Publisher

/-!
# Bindings over whole runs

Six operations change representations and bindings. A history of the accepted reviews
is kept beside the database, so that it can be said which uses have been approved and
not failed since. Bindings, states and reviews stay consistent as long as candidates
bring no review of their own, nothing that is approved is failed, and no proxy is
replaced while a binding shows it.
-/

namespace Sip

set_option autoImplicit false

/-- The database, and the reviews that were accepted in turn. -/
structure ReviewedDb where
  db : RepresentationDb
  reviews : List (String × RepresentationService.ReviewRequest) := []

inductive RepresentationAct where
  | create (stamp : RepresentationStamp) (req : CandidateRequest)
  | attach (stamp : Stamp) (req : RepresentationService.ReceiptRequest)
  | review (stamp : Stamp) (representationId : String) (req : RepresentationService.ReviewRequest)
  | publish (stamp : RepresentationStamp) (req : PublishRequest)
  | invalidate (now : Nat) (stamps : Nat → Stamp) (req : RepresentationService.InvalidationRequest)
  | replace (oldId newId : String)

namespace RepresentationService
open RepresentationPublisher

section Step
variable (svc : AuditService) (registry : ProviderRegistry) (py : PyConversions)

/-- The database after a call; a call that raises leaves it as it was. -/
def dbAfter (db : RepresentationDb) : RepresentationAct → Except Raised RepresentationDb
  | .create stamp req => Prod.snd <$> createCandidate svc py.toPyText db stamp req
  | .attach stamp req => attachWorkerReceipt svc db stamp req
  | .review stamp representationId req => Prod.snd <$> reviewQuality svc py db stamp representationId req
  | .publish stamp req => Prod.snd <$> RepresentationPublisher.publish svc registry py db stamp req
  | .invalidate now stamps req => .ok (invalidateDependencies svc py.toPyText db now stamps req).1
  | .replace oldId newId => Prod.snd <$> replaceProxy db oldId newId

/-- What an accepted call adds to the history of reviews. -/
def reviewsOf : RepresentationAct → List (String × ReviewRequest)
  | .review _ representationId req => [(representationId, req)]
  | _ => []

def representationStep (s : ReviewedDb) (act : RepresentationAct) : ReviewedDb :=
  match dbAfter svc registry py s.db act with
  | .ok db => ⟨db, s.reviews ++ reviewsOf act⟩
  | .error _ => s

end Step

section Consistency

/-- A review of the representation approved the use and no later one failed. -/
def Standing (reviews : List (String × ReviewRequest)) (representationId use : String) : Prop :=
  ∃ before req after, reviews = before ++ (representationId, req) :: after ∧ isWorker req.reviewerId = false ∧
    req.passed = true ∧ use ∈ req.approvedUses ∧ ∀ later ∈ after, later.1 = representationId → later.2.passed = true

/-- Two bindings for one role of one scene. -/
def SameSlot (a b : RepresentationBindingRow) : Prop :=
  a.tenantId = b.tenantId ∧ a.projectId = b.projectId ∧ a.sceneId = b.sceneId ∧ a.role = b.role

structure Consistent (s : ReviewedDb) : Prop where
  single : ∀ a ∈ s.db.bindings.rows, ∀ b ∈ s.db.bindings.rows, a.supersededAt = none → b.supersededAt = none →
    SameSlot a b → a.bindingId = b.bindingId
  served : ∀ b ∈ s.db.bindings.rows, b.supersededAt = none →
    ∃ rep, s.db.representations.get? b.representationId = some rep ∧ rep.state = "published" ∧ rep.deprecatedAt = none
  approved : ∀ b ∈ s.db.bindings.rows, b.supersededAt = none → ∀ use ∈ b.intendedUsesJson,
    Standing s.reviews b.representationId use

/-- The calls that do not reach around a review or a binding. -/
def Careful (s : ReviewedDb) : RepresentationAct → Prop
  | .create _ req => req.quality.lookup "review" = none
  | .review _ representationId req => req.passed = false →
      ∀ rep, s.db.representations.get? representationId = some rep → rep.state ≠ "approved"
  | .replace oldId _ => ∀ b ∈ s.db.bindings.rows, b.supersededAt = none → b.representationId ≠ oldId
  | _ => True

end Consistency

section Standing
variable {reviews : List (String × ReviewRequest)} {representationId use : String}

theorem Standing.snoc (h : Standing reviews representationId use) {entry : String × ReviewRequest}
    (hentry : entry.1 = representationId → entry.2.passed = true) :
    Standing (reviews ++ [entry]) representationId use := by
  obtain ⟨before, req, after, rfl, hworker, hpassed, huse, hlater⟩ := h
  refine ⟨before, req, after ++ [entry], by simp, hworker, hpassed, huse, ?_⟩
  intro later hmem
  rcases List.mem_append.mp hmem with hmem | hmem
  · exact hlater later hmem
  · rw [List.mem_singleton.mp hmem]
    exact hentry

theorem standing_new (reviews : List (String × ReviewRequest)) {req : ReviewRequest} (hworker : isWorker req.reviewerId = false)
    (hpassed : req.passed = true) (huse : use ∈ req.approvedUses) :
    Standing (reviews ++ [(representationId, req)]) representationId use :=
  ⟨reviews, req, [], rfl, hworker, hpassed, huse, fun _ h => absurd h List.not_mem_nil⟩

end Standing

section Writes
variable {svc : AuditService} {py : PyConversions} {db db' : RepresentationDb}

theorem createCandidate_writes {stamp : RepresentationStamp} {req : CandidateRequest} {id : String}
    (h : createCandidate svc py.toPyText db stamp req = .ok (id, db')) : db'.bindings = db.bindings ∧
      (db'.representations = db.representations ∨
        ∃ policy, db.representations.insert? (candidateRow stamp req policy) = some db'.representations) := by
  simp only [createCandidate, bind_eq_ok] at h
  obtain ⟨-, -, -, -, ⟨policy, refs⟩, -, -, -, -, -, h⟩ := h
  split at h
  · obtain ⟨-, -, heq⟩ := bind_eq_ok.mp h
    cases heq
    exact ⟨rfl, .inl rfl⟩
  · obtain ⟨after, hinsert, heq⟩ := bind_eq_ok.mp h
    cases heq
    simp only [insertCandidate, bind_eq_ok, orRaise_eq_ok] at hinsert
    obtain ⟨representations, hrepresentations, s, -, s', -, hdb⟩ := hinsert
    cases hdb
    exact ⟨rfl, .inr ⟨policy, hrepresentations⟩⟩

theorem attachWorkerReceipt_writes {stamp : Stamp} {req : ReceiptRequest}
    (h : attachWorkerReceipt svc db stamp req = .ok db') : db'.bindings = db.bindings ∧
      ∃ row provenanceJson, db.representations.get? row.representationId = some row ∧
        db'.representations = db.representations.set { row with provenanceJson } := by
  simp only [attachWorkerReceipt, bind_eq_ok, orRaise_eq_ok] at h
  obtain ⟨row, hrow, -, -, provenanceJson, -, s, -, hdb⟩ := h
  cases hdb
  exact ⟨rfl, row, provenanceJson, (Table.mem_rows_iff _ _).mp (List.mem_of_find?_eq_some hrow), rfl⟩

/-- Everything that an accepted review has read and written. -/
structure Reviewed (py : PyConversions) (db db' : RepresentationDb) (now : Nat) (representationId : String)
    (req : ReviewRequest) (row : RepresentationAssetRow) (quality : Dict) (merged : List String) : Prop where
  found : db.representations.get? representationId = some row
  checked : checkReview row req = .ok ()
  computed : reviewedQuality py now row.qualityJson req = .ok (quality, merged)
  written : db'.representations = db.representations.set (reviewedRow row quality merged)
  bindings : db'.bindings = db.bindings

theorem reviewQuality_writes {stamp : Stamp} {representationId : String} {req : ReviewRequest} {outcome : ReviewOutcome}
    (h : reviewQuality svc py db stamp representationId req = .ok (outcome, db')) :
    ∃ row quality merged, Reviewed py db db' stamp.now representationId req row quality merged := by
  simp only [reviewQuality, bind_eq_ok, orRaise_eq_ok] at h
  obtain ⟨row, hrow, ⟨⟩, hcheck, ⟨quality, merged⟩, hquality, s, -, hdb⟩ := h
  cases hdb
  exact ⟨row, quality, merged, hrow, hcheck, hquality, rfl, rfl⟩

theorem replaceProxy_writes {oldId newId : String} {split : ProxyReplacement}
    (h : replaceProxy db oldId newId = .ok (split, db')) : db'.bindings = db.bindings ∧
      ∃ new supportMapJson, db.representations.get? newId = some new ∧
        db'.representations = (db.representations.set { new with supportMapJson }).modify oldId
          (fun row => { row with state := "superseded" }) fun _ => rfl := by
  simp only [replaceProxy, bind_eq_ok, orRaise_eq_ok] at h
  obtain ⟨old, -, new, hnew, -, -, -, -, anchors, -, supported, -, split', -, hdb⟩ := h
  cases hdb
  exact ⟨rfl, new, _, hnew, rfl⟩

theorem invalidateDependencies_writes {now : Nat} {stamps : Nat → Stamp} {req : InvalidationRequest}
    (h : (invalidateDependencies svc py.toPyText db now stamps req).1 = db') :
    db' = db ∨ ∃ sweep, sweepProject svc py.toPyText db now stamps req = .ok sweep ∧ db' = sweep.db := by
  cases hsweep : sweepProject svc py.toPyText db now stamps req with
  | error e =>
    simp only [invalidateDependencies, hsweep] at h
    exact .inl h.symm
  | ok sweep => exact .inr ⟨sweep, rfl, h.symm.trans (invalidateDependencies_of_ok hsweep)⟩

end Writes

section Quality
variable {py : PyConversions}

/-- The uses that the quality document counts as approved. -/
def ApprovedIn (quality : Dict) (uses : List String) : Prop :=
  (quality.lookup "review" = none ∧ uses = []) ∨
    ∃ fields, quality.lookup "review" = some (.obj fields) ∧ fields.lookup "approved_uses" = some (.texts uses)

theorem reviewedQuality_approved {now : Nat} {quality quality' : Dict} {req : ReviewRequest} {uses merged : List String}
    (huses : ApprovedIn quality uses) (h : reviewedQuality py now quality req = .ok (quality', merged)) :
    ApprovedIn quality' merged ∧ ∀ use, use ∈ merged ↔ use ∈ uses ∨ use ∈ newlyApproved req := by
  simp only [reviewedQuality, mergedApproved, bind_eq_ok] at h
  obtain ⟨prior, hprior, _, ⟨earlier, hearlier, hmerged⟩, validations, -, validations', -, heq⟩ := h
  cases hmerged
  cases heq
  have hsame : earlier = uses := by
    rcases huses with ⟨hnone, rfl⟩ | ⟨fields, hfields, hentry⟩
    · rw [priorReview, Dict.get?, hnone] at hprior
      cases hprior
      cases hearlier
      rfl
    · rw [priorReview, Dict.get?, hfields] at hprior
      cases hprior
      rw [textsAt_texts hentry] at hearlier
      cases hearlier
      rfl
  refine ⟨.inr ⟨_, by rw [Dict.lookup_set, if_pos rfl], rfl⟩, ?_⟩
  intro use
  rw [mem_sortedSet_id, List.mem_append, hsame]

/-- The uses of a binding have been approved in the quality document. -/
theorem reviewedUses_of_approved {rep : RepresentationAssetRow} {uses : List String} {reviewed : List Json}
    (huses : ApprovedIn rep.qualityJson uses) (h : reviewedUses rep = .ok reviewed) {use : String}
    (huse : reviewed.any (Json.isText use) = true) : use ∈ uses := by
  rw [Json.any_isText_iff] at huse
  simp only [reviewedUses, reviewOf, bind_eq_ok, orRaise_eq_ok] at h
  obtain ⟨review, hreview, hset⟩ := h
  rcases huses with ⟨hnone, -⟩ | ⟨fields, hfields, hentry⟩
  · rw [Dict.get?, hnone] at hreview
    cases hreview
    cases hset
    exact absurd huse List.not_mem_nil
  · rw [Dict.get?, hfields] at hreview
    cases hreview
    have htexts : Dict.setAt review "approved_uses" = .ok (uses.map .str) := by
      rw [Dict.setAt, Dict.get?, hentry]
      apply Json.asSet_arr_of_hashable
      intro value hvalue
      obtain ⟨text, -, rfl⟩ := List.mem_map.mp hvalue
      rfl
    rw [htexts] at hset
    cases hset
    obtain ⟨text, htext, heq⟩ := List.mem_map.mp huse
    cases heq
    exact htext

variable {registry : ProviderRegistry} {db : RepresentationDb} {now : Nat} {req : PublishRequest}
  {rep : RepresentationAssetRow} {commit : SceneCommitRow} {boundUses : List String} {review : Dict}

theorem authorizeReviewed_uses (h : authorizeReviewed req rep = .ok (boundUses, review)) :
    ∃ reviewed, reviewedUses rep = .ok reviewed ∧ ∀ use ∈ boundUses, reviewed.any (Json.isText use) = true := by
  simp only [authorizeReviewed, bind_eq_ok, raiseIf_eq_ok] at h
  obtain ⟨reviewed, hreviewed, -, -, -, hall, fields, -, heq⟩ := h
  cases heq
  refine ⟨reviewed, hreviewed, ?_⟩
  intro use huse
  by_contra hmiss
  exact hall (List.ne_nil_of_mem (List.mem_filter.mpr ⟨huse, decide_eq_true hmiss⟩))

theorem checkUses_uses {conversion : SpatialConversionRow} {promotion : ProviderPromotionRow}
    {rows : List IntendedUseValidationRow} (h : checkUses db req rep conversion promotion = .ok (boundUses, rows)) :
    ∃ reviewed, reviewedUses rep = .ok reviewed ∧ ∀ use ∈ boundUses, reviewed.any (Json.isText use) = true := by
  simp only [checkUses, bind_eq_ok, raiseIf_eq_ok] at h
  obtain ⟨-, -, -, -, -, -, -, -, -, -, reviewed, hreviewed, -, hall, heq⟩ := h
  cases heq
  refine ⟨reviewed, hreviewed, ?_⟩
  intro use huse
  by_contra hmiss
  exact hall ⟨use, huse, hmiss⟩

/-- With or without a governed conversion, a binding is for reviewed uses only. -/
theorem authorizeUses_uses (h : authorizeUses registry py db now req rep commit = .ok (boundUses, review)) :
    ∃ reviewed, reviewedUses rep = .ok reviewed ∧ ∀ use ∈ boundUses, reviewed.any (Json.isText use) = true := by
  rw [authorizeUses] at h
  split at h
  · rename_i conversion _
    simp only [authorizeGovernedPublication, bind_eq_ok] at h
    obtain ⟨⟨uses, decision⟩, ⟨-, -, admitted, -, promotion, -, ⟨uses', rows⟩, huses, heq⟩, heq'⟩ := h
    cases heq
    cases heq'
    exact checkUses_uses huses
  · exact authorizeReviewed_uses h

end Quality

section Invariant

/-- A representation that can still be reviewed is in service, and its approved uses stand. -/
def Reviewable (reviews : List (String × ReviewRequest)) (rep : RepresentationAssetRow) : Prop :=
  rep.deprecatedAt = none ∧ ∃ uses, ApprovedIn rep.qualityJson uses ∧ (rep.state ≠ "approved" → uses = []) ∧
    ∀ use ∈ uses, Standing reviews rep.representationId use

structure Sound (s : ReviewedDb) : Prop extends Consistent s where
  inScope : ∀ b ∈ s.db.bindings.rows, b.supersededAt = none → ∀ rep,
    s.db.representations.get? b.representationId = some rep → rep.tenantId = b.tenantId ∧ rep.projectId = b.projectId
  reviewable : ∀ id rep, s.db.representations.get? id = some rep → rep.state ∈ reviewableStates → Reviewable s.reviews rep

/-- The columns that the invariant reads are the same. -/
structure Kept (rep rep' : RepresentationAssetRow) : Prop where
  id : rep'.representationId = rep.representationId
  state : rep'.state = rep.state
  deprecated : rep'.deprecatedAt = rep.deprecatedAt
  quality : rep'.qualityJson = rep.qualityJson
  tenant : rep'.tenantId = rep.tenantId
  project : rep'.projectId = rep.projectId

theorem Kept.refl (rep : RepresentationAssetRow) : Kept rep rep := ⟨rfl, rfl, rfl, rfl, rfl, rfl⟩

theorem Reviewable.of_kept {reviews : List (String × ReviewRequest)} {rep rep' : RepresentationAssetRow} (h : Kept rep rep')
    (hrep : Reviewable reviews rep) : Reviewable reviews rep' := by
  obtain ⟨hlive, uses, huses, hstate, hstanding⟩ := hrep
  refine ⟨h.deprecated.trans hlive, uses, h.quality ▸ huses, h.state ▸ hstate, ?_⟩
  rw [h.id]
  exact hstanding

variable {s : ReviewedDb} {db' : RepresentationDb}

/-- What happens to one binding and its representation carries the invariant over. -/
theorem Sound.of_bindings (hs : Sound s)
    (hbindings : ∀ b ∈ db'.bindings.rows, b.supersededAt = none → b ∈ s.db.bindings.rows)
    (hreps : ∀ b ∈ db'.bindings.rows, b.supersededAt = none → ∀ rep,
      s.db.representations.get? b.representationId = some rep →
      ∃ rep', db'.representations.get? b.representationId = some rep' ∧ Kept rep rep')
    (hreviewable : ∀ id rep', db'.representations.get? id = some rep' → rep'.state ∈ reviewableStates →
      Reviewable s.reviews rep') : Sound ⟨db', s.reviews⟩ := by
  refine ⟨⟨?_, ?_, ?_⟩, ?_, ?_⟩
  · intro a ha b hb halive hblive hslot
    exact hs.single a (hbindings a ha halive) b (hbindings b hb hblive) halive hblive hslot
  · intro b hb hlive
    obtain ⟨rep, hrep, hstate, hdep⟩ := hs.served b (hbindings b hb hlive) hlive
    obtain ⟨rep', hrep', hkept⟩ := hreps b hb hlive rep hrep
    exact ⟨rep', hrep', hkept.state.trans hstate, hkept.deprecated.trans hdep⟩
  · intro b hb hlive use huse
    exact hs.approved b (hbindings b hb hlive) hlive use huse
  · intro b hb hlive rep' hrep'
    obtain ⟨rep, hrep, -⟩ := hs.served b (hbindings b hb hlive) hlive
    obtain ⟨after, hafter, hkept⟩ := hreps b hb hlive rep hrep
    cases hrep'.symm.trans hafter
    obtain ⟨htenant, hproject⟩ := hs.inScope b (hbindings b hb hlive) hlive rep hrep
    exact ⟨hkept.tenant.trans htenant, hkept.project.trans hproject⟩
  · exact hreviewable

/-- Rows that keep the columns of the invariant keep the invariant. -/
theorem Sound.of_kept (hs : Sound s) (hbindings : db'.bindings = s.db.bindings)
    (hback : ∀ id rep', db'.representations.get? id = some rep' →
      ∃ rep, s.db.representations.get? id = some rep ∧ Kept rep rep')
    (hforth : ∀ id rep, s.db.representations.get? id = some rep →
      ∃ rep', db'.representations.get? id = some rep' ∧ Kept rep rep') : Sound ⟨db', s.reviews⟩ := by
  apply hs.of_bindings
  · intro b hb _
    rw [hbindings] at hb
    exact hb
  · intro b _ _ rep hrep
    exact hforth _ rep hrep
  · intro id rep' hrep' hstate
    obtain ⟨rep, hrep, hkept⟩ := hback id rep' hrep'
    rw [hkept.state] at hstate
    exact (hs.reviewable id rep hrep hstate).of_kept hkept

end Invariant

section Preserved
variable {svc : AuditService} {registry : ProviderRegistry} {py : PyConversions} {s : ReviewedDb} {db' : RepresentationDb}

theorem sound_create (hs : Sound s) {stamp : RepresentationStamp} {req : CandidateRequest} {id : String}
    (hreview : req.quality.lookup "review" = none)
    (h : createCandidate svc py.toPyText s.db stamp req = .ok (id, db')) : Sound ⟨db', s.reviews⟩ := by
  obtain ⟨hbindings, hreps⟩ := createCandidate_writes h
  rcases hreps with hsame | ⟨policy, hinsert⟩
  · apply hs.of_kept hbindings
    · intro k rep hrep
      exact ⟨rep, hsame ▸ hrep, .refl rep⟩
    · intro k rep hrep
      exact ⟨rep, hsame.symm ▸ hrep, .refl rep⟩
  · obtain ⟨hfresh, -⟩ := Table.insert?_eq_some hinsert
    apply hs.of_bindings
    · intro b hb _
      exact hbindings ▸ hb
    · intro b _ _ rep hrep
      refine ⟨rep, ?_, .refl rep⟩
      rw [Table.get?_insert hinsert, if_neg]
      · exact hrep
      · intro heq
        rw [heq, hfresh] at hrep
        cases hrep
    · intro k rep hrep hstate
      rw [Table.get?_insert hinsert] at hrep
      split at hrep
      · cases hrep
        exact ⟨rfl, [], .inl ⟨hreview, rfl⟩, fun _ => rfl, fun _ h => absurd h List.not_mem_nil⟩
      · exact hs.reviewable k rep hrep hstate

theorem sound_attach (hs : Sound s) {stamp : Stamp} {req : ReceiptRequest}
    (h : attachWorkerReceipt svc s.db stamp req = .ok db') : Sound ⟨db', s.reviews⟩ := by
  obtain ⟨hbindings, row, provenanceJson, hrow, hset⟩ := attachWorkerReceipt_writes h
  have hget := @Table.get?_set _ _ s.db.representations { row with provenanceJson } row hrow
  have hkept : Kept row { row with provenanceJson } := ⟨rfl, rfl, rfl, rfl, rfl, rfl⟩
  apply hs.of_kept hbindings
  · intro k rep hrep
    rw [hset, hget] at hrep
    split at hrep
    · cases hrep
      exact ⟨row, ‹k = _› ▸ hrow, hkept⟩
    · exact ⟨rep, hrep, .refl rep⟩
  · intro k rep hrep
    rw [hset, hget]
    split
    · cases (‹k = _› ▸ hrep).symm.trans hrow
      exact ⟨_, rfl, hkept⟩
    · exact ⟨rep, hrep, .refl rep⟩

/-- A review that passes adds its uses; one that fails finds none. -/
theorem reviewable_reviewed (hs : Sound s) {now : Nat} {representationId : String} {req : ReviewRequest}
    {row : RepresentationAssetRow} {quality : Dict} {merged : List String}
    (hcareful : req.passed = false → row.state ≠ "approved")
    (h : Reviewed py s.db db' now representationId req row quality merged) :
    Reviewable (s.reviews ++ [(representationId, req)]) (reviewedRow row quality merged) := by
  have hid : row.representationId = representationId := ((Table.get?_eq_some_iff _ _ _).mp h.found).2
  have hcheck := h.checked
  simp only [checkReview, bind_eq_ok, raiseIf_eq_ok] at hcheck
  obtain ⟨-, hworker, -, hstate, -⟩ := hcheck
  obtain ⟨hlive, uses, huses, hnone, hstanding⟩ := hs.reviewable _ row h.found (not_not.mp hstate)
  obtain ⟨happroved, hmem⟩ := reviewedQuality_approved huses h.computed
  refine ⟨hlive, merged, happroved, ?_, ?_⟩
  · intro hother
    by_contra hne
    exact hother (if_neg hne)
  · intro use huse
    change Standing _ row.representationId use
    rw [hid] at hstanding ⊢
    rcases (hmem use).mp huse with hearlier | hnew
    · apply (hstanding use hearlier).snoc
      intro _
      by_contra hfailed
      rw [hnone (hcareful (Bool.not_eq_true _ ▸ hfailed))] at hearlier
      cases hearlier
    · rw [newlyApproved] at hnew
      split at hnew
      · exact standing_new _ (Bool.not_eq_true _ ▸ hworker) ‹_› hnew
      · cases hnew

theorem sound_review (hs : Sound s) {stamp : Stamp} {representationId : String} {req : ReviewRequest}
    {outcome : ReviewOutcome} (hcareful : Careful s (.review stamp representationId req))
    (h : reviewQuality svc py s.db stamp representationId req = .ok (outcome, db')) :
    Sound ⟨db', s.reviews ++ [(representationId, req)]⟩ := by
  obtain ⟨row, quality, merged, hreviewed⟩ := reviewQuality_writes h
  have hid : row.representationId = representationId := ((Table.get?_eq_some_iff _ _ _).mp hreviewed.found).2
  have hstate : row.state ∈ reviewableStates := by
    have hcheck := hreviewed.checked
    simp only [checkReview, bind_eq_ok, raiseIf_eq_ok] at hcheck
    exact not_not.mp hcheck.choose_spec.2.choose_spec.1
  -- what is published is not reviewed, so no live binding shows the representation
  have hother : ∀ b ∈ s.db.bindings.rows, b.supersededAt = none → b.representationId ≠ representationId := by
    rintro b hb hlive rfl
    obtain ⟨rep, hrep, hpublished, -⟩ := hs.served b hb hlive
    cases hrep.symm.trans hreviewed.found
    rw [hpublished] at hstate
    exact absurd hstate (by decide)
  have hfound : s.db.representations.get? row.representationId = some row := hid.symm ▸ hreviewed.found
  have hget := @Table.get?_set _ _ s.db.representations (reviewedRow row quality merged) row hfound
  have hsame : ∀ b ∈ db'.bindings.rows, b.supersededAt = none →
      db'.representations.get? b.representationId = s.db.representations.get? b.representationId := by
    intro b hb hlive
    rw [hreviewed.written, hget, if_neg]
    exact fun heq => hother b (hreviewed.bindings ▸ hb) hlive (heq.trans hid)
  refine ⟨⟨?_, ?_, ?_⟩, ?_, ?_⟩
  · change ∀ a ∈ db'.bindings.rows, ∀ b ∈ db'.bindings.rows, _
    rw [hreviewed.bindings]
    exact hs.single
  · intro b hb hlive
    rw [hsame b hb hlive]
    exact hs.served b (hreviewed.bindings ▸ hb) hlive
  · intro b hb hlive use huse
    have hb' : b ∈ s.db.bindings.rows := hreviewed.bindings ▸ hb
    apply (hs.approved b hb' hlive use huse).snoc
    exact fun heq => absurd heq.symm (hother b hb' hlive)
  · intro b hb hlive rep hrep
    rw [hsame b hb hlive] at hrep
    exact hs.inScope b (hreviewed.bindings ▸ hb) hlive rep hrep
  · intro k rep hrep hreviewable
    rw [hreviewed.written, hget] at hrep
    split at hrep
    · cases hrep
      exact reviewable_reviewed hs (fun hfailed => hcareful hfailed row hreviewed.found) hreviewed
    · obtain ⟨hlive, uses, huses, hnone, hstanding⟩ := hs.reviewable k rep hrep hreviewable
      refine ⟨hlive, uses, huses, hnone, fun use huse => (hstanding use huse).snoc fun heq => ?_⟩
      have hk : rep.representationId = k := ((Table.get?_eq_some_iff _ _ _).mp hrep).2
      exact absurd (hk.symm.trans (heq.symm.trans hid.symm)) ‹¬ k = _›

theorem mem_supersede_live {bindings : Table RepresentationBindingRow (fun row => row.bindingId)} {now : Nat}
    {ids : List String} {b : RepresentationBindingRow} (hb : b ∈ (supersede bindings now ids).rows)
    (hlive : b.supersededAt = none) : b ∈ bindings.rows ∧ b.bindingId ∉ ids := by
  rw [Table.mem_rows_iff, get?_supersede, Option.map_eq_some_iff] at hb
  obtain ⟨old, hold, heq⟩ := hb
  split at heq
  · rw [← heq] at hlive
    cases hlive
  · subst heq
    exact ⟨(Table.mem_rows_iff _ _).mpr hold, ‹_›⟩

/-- A live binding after a publication is the new one, or an earlier one for another role. -/
theorem live_after_publish {stamp : RepresentationStamp} {rep : RepresentationAssetRow} {binding b : RepresentationBindingRow}
    (hscope : binding.tenantId = rep.tenantId ∧ binding.projectId = rep.projectId ∧ binding.sceneId = rep.sceneId)
    (h : writeBinding svc s.db stamp rep binding = .ok db') (hb : b ∈ db'.bindings.rows) (hlive : b.supersededAt = none) :
    b = binding ∨ b ∈ s.db.bindings.rows ∧ ¬ SameSlot b binding := by
  obtain ⟨hinsert, -⟩ := writeBinding_writes h
  rw [(Table.insert?_eq_some hinsert).2, List.mem_append, List.mem_singleton] at hb
  rcases hb with hb | rfl
  · obtain ⟨hmem, hids⟩ := mem_supersede_live hb hlive
    refine .inr ⟨hmem, fun ⟨htenant, hproject, hscene, hrole⟩ => hids ?_⟩
    apply List.mem_map_of_mem
    simp only [liveBindingsOfRole, List.mem_filter, decide_eq_true_eq]
    exact ⟨hmem, htenant.trans hscope.1, hproject.trans hscope.2.1, hscene.trans hscope.2.2, hrole, hlive⟩
  · exact .inl rfl

theorem sound_publish (hs : Sound s) {stamp : RepresentationStamp} {req : PublishRequest} {bindingId : String}
    (h : publish svc registry py s.db stamp req = .ok (bindingId, db')) : Sound ⟨db', s.reviews⟩ := by
  obtain ⟨-, rep, binding, hpub, hwrite⟩ := publish_writes h
  obtain ⟨transform, review, hrow⟩ := hpub.row
  have hid : rep.representationId = req.representationId := ((Table.get?_eq_some_iff _ _ _).mp hpub.found).2
  have hbid : binding.representationId = rep.representationId := by rw [hrow, hid]; rfl
  have hscope : binding.tenantId = rep.tenantId ∧ binding.projectId = rep.projectId ∧ binding.sceneId = rep.sceneId := by
    rw [hrow]
    exact ⟨rfl, rfl, rfl⟩
  have hcases : ∀ b ∈ db'.bindings.rows, b.supersededAt = none → b = binding ∨ b ∈ s.db.bindings.rows ∧ ¬ SameSlot b binding :=
    fun b hb hlive => live_after_publish hscope hwrite hb hlive
  have happroved : rep.state ∈ reviewableStates := by simp [hpub.approved, reviewableStates]
  obtain ⟨hindate, uses, huses, -, hstanding⟩ := hs.reviewable _ rep hpub.found happroved
  obtain ⟨-, s', bindings, hdb⟩ := writeBinding_writes hwrite
  have hfound : s.db.representations.get? rep.representationId = some rep := hid.symm ▸ hpub.found
  have hget : ∀ k, db'.representations.get? k =
      if k = rep.representationId then some { rep with state := "published" } else s.db.representations.get? k := by
    rw [hdb]
    exact @Table.get?_set _ _ s.db.representations { rep with state := "published" } rep hfound
  -- what is approved is not published yet, so no earlier binding shows it
  have hother : ∀ b ∈ s.db.bindings.rows, b.supersededAt = none → b.representationId ≠ rep.representationId := by
    intro b hb hlive heq
    obtain ⟨shown, hshown, hpublished, -⟩ := hs.served b hb hlive
    rw [heq, hfound] at hshown
    cases hshown
    exact absurd (hpub.approved.symm.trans hpublished) (by decide)
  refine ⟨⟨?_, ?_, ?_⟩, ?_, ?_⟩
  · intro a ha b hb halive hblive hslot
    rcases hcases a ha halive with rfl | ⟨ha', hane⟩ <;> rcases hcases b hb hblive with rfl | ⟨hb', hbne⟩
    · rfl
    · exact absurd ⟨hslot.1.symm, hslot.2.1.symm, hslot.2.2.1.symm, hslot.2.2.2.symm⟩ hbne
    · exact absurd hslot hane
    · exact hs.single a ha' b hb' halive hblive hslot
  · intro b hb hlive
    rw [hget]
    rcases hcases b hb hlive with rfl | ⟨hb', -⟩
    · exact ⟨_, if_pos hbid, rfl, hindate⟩
    · rw [if_neg (hother b hb' hlive)]
      exact hs.served b hb' hlive
  · intro b hb hlive use huse
    rcases hcases b hb hlive with rfl | ⟨hb', -⟩
    · obtain ⟨commit, decision, hauthorized⟩ := hpub.authorized
      obtain ⟨reviewed, hreviewed, hall⟩ := authorizeUses_uses hauthorized
      rw [hbid]
      exact hstanding use (reviewedUses_of_approved huses hreviewed (hall use huse))
    · exact hs.approved b hb' hlive use huse
  · intro b hb hlive shown hshown
    rw [hget] at hshown
    rcases hcases b hb hlive with rfl | ⟨hb', -⟩
    · rw [if_pos hbid] at hshown
      cases hshown
      exact ⟨hscope.1.symm, hscope.2.1.symm⟩
    · rw [if_neg (hother b hb' hlive)] at hshown
      exact hs.inScope b hb' hlive shown hshown
  · intro k shown hshown hstate
    rw [hget] at hshown
    split at hshown
    · cases hshown
      exact absurd hstate (by decide : "published" ∉ reviewableStates)
    · exact hs.reviewable k shown hshown hstate

theorem sound_invalidate (hs : Sound s) {now : Nat} {stamps : Nat → Stamp} {req : InvalidationRequest} {sweep : Sweep}
    (h : sweepProject svc py.toPyText s.db now stamps req = .ok sweep) : Sound ⟨sweep.db, s.reviews⟩ := by
  have hpass := passed_project h
  have hback : ∀ b ∈ sweep.db.bindings.rows, b.supersededAt = none → b ∈ s.db.bindings.rows ∧
      ¬ Hit req (liveRepresentations s.db req.tenantId req.projectId) b := by
    intro b hb hlive
    have hb' := (Table.mem_rows_iff _ _).mp hb
    cases hold : s.db.bindings.get? b.bindingId with
    | none => cases (hpass.unbound _ hold).symm.trans hb'
    | some old =>
      obtain ⟨after, hafter, hcase⟩ := hpass.bound _ old hold
      cases hb'.symm.trans hafter
      rcases hcase with ⟨-, rfl⟩ | ⟨hmiss, rfl⟩
      · cases hlive
      · exact ⟨(Table.mem_rows_iff _ _).mpr hold, hmiss⟩
  apply hs.of_bindings
  · intro b hb hlive
    exact (hback b hb hlive).1
  · intro b hb hlive rep hrep
    obtain ⟨hb', hmiss⟩ := hback b hb hlive
    have hid : rep.representationId = b.representationId := ((Table.get?_eq_some_iff _ _ _).mp hrep).2
    by_cases hmem : rep ∈ liveRepresentations s.db req.tenantId req.projectId
    · obtain ⟨after, hafter, hcase⟩ := hpass.swept rep hmem
      rw [hid] at hafter
      obtain ⟨-, htenant, hproject, -⟩ := mem_liveRepresentations.mp hmem
      obtain ⟨hbtenant, hbproject⟩ := hs.inScope b hb' hlive rep hrep
      rcases hcase with ⟨hrefers, -⟩ | ⟨-, rfl⟩
      · -- the binding is in the scope of the pass with its representation, so it would have been superseded
        exact absurd ⟨hbtenant.symm.trans htenant, hbproject.symm.trans hproject, hlive, rep, hmem, hrefers, hid⟩ hmiss
      · exact ⟨after, hafter, .refl after⟩
    · refine ⟨rep, ?_, .refl rep⟩
      rw [hpass.kept]
      · exact hrep
      · intro hkeys
        obtain ⟨row, hrow, heq⟩ := List.mem_map.mp hkeys
        have hrow' := (mem_liveRepresentations.mp hrow).1
        rw [heq, hrep] at hrow'
        cases hrow'
        exact hmem hrow
  · intro k rep' hrep' hstate
    by_cases hk : k ∈ (liveRepresentations s.db req.tenantId req.projectId).map RepresentationAssetRow.representationId
    · obtain ⟨row, hrow, rfl⟩ := List.mem_map.mp hk
      obtain ⟨after, hafter, hcase⟩ := hpass.swept row hrow
      cases hrep'.symm.trans hafter
      rcases hcase with ⟨-, plan, rfl⟩ | ⟨-, rfl⟩
      · exact absurd hstate (by decide : "invalidated" ∉ reviewableStates)
      · exact hs.reviewable _ _ (mem_liveRepresentations.mp hrow).1 hstate
    · rw [hpass.kept k hk] at hrep'
      exact hs.reviewable k rep' hrep' hstate

theorem sound_replace (hs : Sound s) {oldId newId : String} {split : ProxyReplacement}
    (hunbound : ∀ b ∈ s.db.bindings.rows, b.supersededAt = none → b.representationId ≠ oldId)
    (h : replaceProxy s.db oldId newId = .ok (split, db')) : Sound ⟨db', s.reviews⟩ := by
  obtain ⟨hbindings, new, supportMapJson, hnew, hwritten⟩ := replaceProxy_writes h
  have hid : new.representationId = newId := ((Table.get?_eq_some_iff _ _ _).mp hnew).2
  have hfound : s.db.representations.get? new.representationId = some new := hid.symm ▸ hnew
  have hset := @Table.get?_set _ _ s.db.representations { new with supportMapJson } new hfound
  have hkept : Kept new { new with supportMapJson } := ⟨rfl, rfl, rfl, rfl, rfl, rfl⟩
  have hget : ∀ k, db'.representations.get? k =
      ((s.db.representations.set { new with supportMapJson }).get? k).map fun row =>
        if row.representationId = oldId then { row with state := "superseded" } else row := by
    intro k
    rw [hwritten]
    exact Table.get?_modify (s.db.representations.set { new with supportMapJson }) oldId _ _ k
  apply hs.of_bindings
  · intro b hb _
    exact hbindings ▸ hb
  · intro b hb hlive rep hrep
    have hbid : rep.representationId = b.representationId := ((Table.get?_eq_some_iff _ _ _).mp hrep).2
    have hne : b.representationId ≠ oldId := hunbound b (hbindings ▸ hb) hlive
    rw [hget, hset]
    split
    · rename_i heq
      rw [heq, hfound] at hrep
      cases hrep
      exact ⟨_, by rw [Option.map_some, if_neg (hbid ▸ hne)], hkept⟩
    · rw [hrep, Option.map_some, if_neg (hbid ▸ hne)]
      exact ⟨rep, rfl, .refl rep⟩
  · intro k rep' hrep' hstate
    rw [hget, hset, Option.map_eq_some_iff] at hrep'
    obtain ⟨row, hrow, heq⟩ := hrep'
    split at heq
    · subst heq
      exact absurd hstate (by decide : "superseded" ∉ reviewableStates)
    · subst heq
      split at hrow
      · cases hrow
        exact (hs.reviewable _ new hfound hstate).of_kept hkept
      · exact hs.reviewable k row hrow hstate

end Preserved

section Runs
variable (svc : AuditService) (registry : ProviderRegistry) (py : PyConversions)

theorem sound_step {s : ReviewedDb} (act : RepresentationAct) (hcareful : Careful s act) (hs : Sound s) :
    Sound (representationStep svc registry py s act) := by
  unfold representationStep
  cases hafter : dbAfter svc registry py s.db act with
  | error e => exact hs
  | ok db' =>
    cases act with
    | create stamp req =>
      obtain ⟨⟨id, db⟩, hcreate, rfl⟩ := map_eq_ok.mp hafter
      rw [show reviewsOf _ = [] from rfl, List.append_nil]
      exact sound_create hs hcareful hcreate
    | attach stamp req =>
      rw [show reviewsOf _ = [] from rfl, List.append_nil]
      exact sound_attach hs hafter
    | review stamp representationId req =>
      obtain ⟨⟨outcome, db⟩, hreview, rfl⟩ := map_eq_ok.mp hafter
      exact sound_review hs hcareful hreview
    | publish stamp req =>
      obtain ⟨⟨id, db⟩, hpublish, rfl⟩ := map_eq_ok.mp hafter
      rw [show reviewsOf _ = [] from rfl, List.append_nil]
      exact sound_publish hs hpublish
    | invalidate now stamps req =>
      rw [show reviewsOf _ = [] from rfl, List.append_nil]
      cases hafter
      rcases invalidateDependencies_writes rfl with heq | ⟨sweep, hsweep, heq⟩
      · rw [heq]
        exact hs
      · rw [heq]
        exact sound_invalidate hs hsweep
    | replace oldId newId =>
      obtain ⟨⟨split, db⟩, hreplace, rfl⟩ := map_eq_ok.mp hafter
      rw [show reviewsOf _ = [] from rfl, List.append_nil]
      exact sound_replace hs hcareful hreplace

theorem sound_start {db : RepresentationDb} (hreps : db.representations = .empty) (hbindings : db.bindings = .empty) :
    Sound ⟨db, []⟩ := by
  have hnone : ∀ b, b ∉ db.bindings.rows := fun b hb => absurd (hbindings ▸ hb) List.not_mem_nil
  refine ⟨⟨?_, ?_, ?_⟩, ?_, ?_⟩
  · exact fun a ha => absurd ha (hnone a)
  · exact fun b hb => absurd hb (hnone b)
  · exact fun b hb => absurd hb (hnone b)
  · exact fun b hb => absurd hb (hnone b)
  · intro k rep hrep
    rw [show db.representations.get? k = none by rw [hreps]; rfl] at hrep
    cases hrep

/-- In a run whose calls do not reach around a review or a binding, every state is consistent. -/
theorem consistent_along_careful_run (db : RepresentationDb) (hreps : db.representations = .empty)
    (hbindings : db.bindings = .empty) (acts : List RepresentationAct)
    (hcareful : Along (representationStep svc registry py) Careful ⟨db, []⟩ acts) :
    ∀ before, before <+: acts → Consistent (run (representationStep svc registry py) ⟨db, []⟩ before) := by
  intro before hstart
  have hsound := run_invariant_along (fun s act hact hs => sound_step svc registry py act hact hs)
    (sound_start hreps hbindings) (hcareful.of_prefix hstart)
  exact hsound.toConsistent

end Runs

section Sample
open SceneService (plainPython)

def proxyAsset : AssetRefRow where
  assetId := "mesh"
  tenantId := "t1"
  projectId := "p1"
  sha256 := ""
  originalName := "mesh"
  classification := "internal"
  retentionClass := "project"
  sourceClass := "observed"
  authorityClass := "evidence"
  provenanceJson := []
  createdBy := "ana"

def proxyCommit : SceneCommitRow where
  commitId := "c1"
  tenantId := "t1"
  projectId := "p1"
  sceneId := "s1"
  branch := "main"
  parentIdsJson := []
  message := ""
  semanticSnapshotJson := []
  snapshotHash := ""
  rootManifestHash := ""
  recordedAt := 0
  createdBy := "ana"

def localProvider : ProviderManifestRow where
  providerId := "local"
  version := "1"
  sourceRevision := "1"
  approvalState := "approved"
  manifestHash := ""

/-- A scene with an asset and an approved provider, before anything has been derived. -/
def proxyStart : RepresentationDb := { RepresentationDb.empty with
  refs := ⟨[proxyAsset], by decide⟩
  frames := ⟨[⟨"world", "t1", "p1", none⟩], by decide⟩
  commits := ⟨[proxyCommit], by decide⟩
  providers := ⟨[localProvider], by decide⟩ }

def proxy (representationId : String) (fallback : Option String) : CandidateRequest where
  tenantId := "t1"
  projectId := "p1"
  sceneId := "s1"
  assetId := "mesh"
  kind := .interaction
  providerId := "local"
  coordinateFrameId := "world"
  sourceClass := .observed
  authorityClass := .derivedNonAuthoritative
  lossy := false
  intendedUses := ["walk", "grab"]
  prohibitedUses := []
  quality := []
  provenance := []
  supportMap := []
  actorId := "ana"
  representationId := some representationId
  fallbackRepresentationId := fallback

def approval (use : String) : ReviewRequest where
  reviewerId := "ben"
  approvedUses := [use]
  metrics := [("gaps", .int 0)]
  passed := true

def publication (representationId use : String) (clientProfile : Option Dict) : PublishRequest where
  representationId := representationId
  commitId := "c1"
  role := use
  publisherId := "cid"
  clientProfile := clientProfile

/-- The scene once some calls have written their rows and their audit events. -/
abbrev proxyScene (s : Store) (representations : Table RepresentationAssetRow (fun row => row.representationId))
    (bindings : Table RepresentationBindingRow (fun row => row.bindingId)) : RepresentationDb :=
  { proxyStart with toStore := s, representations, bindings }

theorem validatePayload_candidate {row : RepresentationAssetRow} (hid : row.representationId.toList.length ≤ 64)
    (hoperation : ∀ id ∈ row.operationId, id.toList.length ≤ 64) (hasset : row.assetId.toList.length ≤ 64)
    (hprovider : row.providerId.toList.length ≤ 64) {manifest : Json} (hhash : row.manifestHash = canonicalSha256 manifest) :
    validatePayload (candidatePayload row) = .ok () := by
  have hkeys : (candidatePayload row).map Prod.fst = ["candidate_id", "representation_id", "operation_id", "asset_id",
      "kind", "provider_id", "state", "manifest_hash", "authority_ceiling"] := rfl
  apply validatePayload_brief hkeys rfl (by decide)
  intro p hp
  simp only [candidatePayload, List.mem_cons, List.not_mem_nil, or_false] at hp
  rcases hp with rfl | rfl | rfl | rfl | rfl | rfl | rfl | rfl | rfl
  · exact brief_str hid
  · exact brief_str hid
  · exact brief_ofOption hoperation
  · exact brief_str hasset
  · exact brief_str (by cases row.kind <;> decide)
  · exact brief_str hprovider
  · exact brief_str (by decide)
  · rw [hhash]
    exact brief_sha256 manifest
  · exact brief_str (by cases row.authorityCeiling <;> decide)

variable {s : Store} {representations representations' : Table RepresentationAssetRow (fun row => row.representationId)}
  {bindings : Table RepresentationBindingRow (fun row => row.bindingId)} {before : Nat} {ids hashes : List String}
  {hash : String} {policy : Dict}

def proxyFields : Dict :=
  inheritedFields ⟨"t1", "p1", "mesh", [], []⟩ [] [] "internal" [] false [] (unionKeys.map fun key => (key, .texts [])) []

/-- The policy of a proxy without sources. -/
def proxyPolicy : Dict := proxyFields.set "inheritance_hash"
  (.str (canonicalSha256 (.obj (proxyFields.filter fun field => field.1 ≠ "inheritance_hash"))))

theorem proxy_policy (s : Store) (bindings : Table RepresentationBindingRow (fun row => row.bindingId))
    (hnone : representationSources (proxyScene s representations bindings) "t1" "p1" [] = []) :
    effectivePrivacyInheritance plainPython.toPyText (proxyScene s representations bindings)
        ⟨"t1", "p1", "mesh", [], []⟩ = .ok (proxyPolicy, proxyStart.refs) := by
  have hassets : assetSources (proxyScene s representations bindings) "t1" "p1" [] = [] := rfl
  have hhold : holdOutput (proxyScene s representations bindings) "t1" "p1" "mesh" "internal" false =
      .ok ([], proxyStart.refs) := rfl
  simp only [effectivePrivacyInheritance, bind_eq_ok]
  refine ⟨[], rfl, ?_⟩
  simp only [hassets, hnone]
  exact ⟨[], rfl, [], rfl, _, rfl, _, hhold, rfl⟩

theorem checkCandidate_proxy (stamp : RepresentationStamp) {id : String} {fallback : Option String}
    (hfallback : fallback ≠ some (candidateId stamp (proxy id fallback))) :
    checkCandidate plainPython.toPyText stamp (proxy id fallback) = .ok () := by
  have hsplat : ¬ declaresSplat plainPython.toPyText [] := by decide
  simp only [checkCandidate, bind_eq_ok, raiseIf_eq_ok]
  exact ⟨(), rfl, (), fun h => hsplat h.1, (), hfallback, (), (by decide : ¬ blank "s1"), (), (by decide : ¬ blank "mesh"),
    (by decide : ¬ blank "world")⟩

theorem createCandidate_proxy (stamp : RepresentationStamp) (id : String) (fallback : Option String)
    (hid : (candidateId stamp (proxy id fallback)).toList.length ≤ 64)
    (hself : fallback ≠ some (candidateId stamp (proxy id fallback)))
    (hpolicy : effectivePrivacyInheritance plainPython.toPyText (proxyScene s representations bindings)
      ⟨"t1", "p1", "mesh", [], []⟩ = .ok (policy, proxyStart.refs))
    (hfallback : checkFallback (proxyScene s representations bindings) (proxy id fallback) = .ok ())
    (hinsert : representations.insert? (candidateRow stamp (proxy id fallback) policy) = some representations')
    (haudit : Succession "t1" before ids hashes s.audit) (hnow : before ≤ stamp.now) (hfresh : stamp.auditId ∉ ids)
    (hhash : canonicalSha256 ((AuditService.zeroKey.entry .empty stamp.now stamp.auditId
      (candidateAudit (candidateRow stamp (proxy id fallback) policy) "ana")).body (hashes.getLast?.getD genesisHash)) = hash)
    (hnew : hash ∉ hashes) :
    ∃ s', Prod.snd <$> createCandidate .zeroKey plainPython.toPyText (proxyScene s representations bindings) stamp
          (proxy id fallback) = .ok (proxyScene s' representations' bindings) ∧
      Succession "t1" (stamp.now + 1) (ids ++ [stamp.auditId]) (hashes ++ [hash]) s'.audit := by
  obtain ⟨event, hevent⟩ := s.emit_total stamp.toStamp
    (r := candidateEvent (candidateRow stamp (proxy id fallback) policy) "ana") rfl rfl rfl
    (validatePayload_candidate hid (fun _ h => nomatch h) (by decide : "mesh".toList.length ≤ 64)
      (by decide : "local".toList.length ≤ 64) rfl)
  obtain ⟨log, hlog, hnext⟩ := @Store.record_next .zeroKey { s with outbox := s.outbox ++ [event] } _ _ _ _ _ stamp.toStamp
    (candidateAudit (candidateRow stamp (proxy id fallback) policy) "ana") haudit hnow rfl hfresh hhash hnew
  refine ⟨{ s with outbox := s.outbox ++ [event], audit := log },
    map_eq_ok.mpr ⟨(candidateId stamp (proxy id fallback), _), ?_, rfl⟩, hnext⟩
  simp only [createCandidate, bind_eq_ok]
  refine ⟨(), checkCandidate_proxy stamp hself, (), rfl, ⟨policy, proxyStart.refs⟩, hpolicy, (), hfallback, (), rfl, ?_⟩
  have hinserted : insertCandidate .zeroKey (proxyScene s representations bindings) stamp
      (candidateRow stamp (proxy id fallback) policy) "ana" =
        .ok (proxyScene { s with outbox := s.outbox ++ [event], audit := log } representations' bindings) := by
    simp only [insertCandidate, bind_eq_ok, orRaise_eq_ok]
    exact ⟨representations', hinsert, _, hevent, _, hlog, rfl⟩
  exact bind_eq_ok.mpr ⟨_, hinserted, rfl⟩

/-- A review document that approves one use. -/
def Approves (quality review : Dict) (use : String) : Prop :=
  quality.lookup "review" = some (.obj review) ∧ review.lookup "approved_uses" = some (.texts [use])

theorem reviewedQuality_approval (now : Nat) (use : String) :
    ∃ quality review, reviewedQuality plainPython now [] (approval use) = .ok (quality, [use]) ∧ Approves quality review use :=
  ⟨_, _, rfl, rfl, rfl⟩

theorem reviewQuality_proxy (stamp : Stamp) (id use : String) {row : RepresentationAssetRow}
    (hfound : representations.get? id = some row) (hcheck : checkReview row (approval use) = .ok ())
    (hempty : row.qualityJson = []) (htenant : row.tenantId = "t1")
    (haudit : Succession "t1" before ids hashes s.audit) (hnow : before ≤ stamp.now) (hfresh : stamp.auditId ∉ ids)
    (hhash : canonicalSha256 ((AuditService.zeroKey.entry .empty stamp.now stamp.auditId
      (reviewAudit row (approval use))).body (hashes.getLast?.getD genesisHash)) = hash)
    (hnew : hash ∉ hashes) :
    ∃ s' quality review, Prod.snd <$> reviewQuality .zeroKey plainPython (proxyScene s representations bindings) stamp id
          (approval use) = .ok (proxyScene s' (representations.set (reviewedRow row quality [use])) bindings) ∧
      Succession "t1" (stamp.now + 1) (ids ++ [stamp.auditId]) (hashes ++ [hash]) s'.audit ∧ Approves quality review use := by
  obtain ⟨log, hlog, hnext⟩ := @Store.record_next .zeroKey s _ _ _ _ _ stamp (reviewAudit row (approval use)) haudit hnow
    htenant hfresh hhash hnew
  obtain ⟨quality, review, hquality, happroved⟩ := reviewedQuality_approval stamp.now use
  rw [← hempty] at hquality
  obtain ⟨outcome, hreview⟩ : ∃ outcome, reviewQuality .zeroKey plainPython (proxyScene s representations bindings) stamp id
      (approval use) = .ok (outcome, proxyScene { s with audit := log }
        (representations.set (reviewedRow row quality [use])) bindings) := by
    simp only [reviewQuality, bind_eq_ok, orRaise_eq_ok]
    exact ⟨_, row, hfound, (), hcheck, _, hquality, _, hlog, rfl⟩
  exact ⟨{ s with audit := log }, quality, review, map_eq_ok.mpr ⟨_, hreview, rfl⟩, hnext, happroved⟩

theorem brief_text {text : String} (h : text.toList.length ≤ 64) : Brief (.texts [text]) := by
  have hlen := length_stringText_le text
  refine ⟨by simp [Json.texts, Json.normalize, Json.normalizeItems], fun path => walk_texts path (by simp), ?_⟩
  simp only [Json.texts, List.map_cons, List.map_nil, Json.encode, Json.encodeItems,
    Json.encodeItemsTail, List.length_cons, List.length_append, List.length_nil]
  omega

theorem validatePayload_publication {binding : RepresentationBindingRow} {use : String}
    (huses : binding.intendedUsesJson = [use]) (huse : use.toList.length ≤ 64)
    (hid : binding.bindingId.toList.length ≤ 64) (hrep : binding.representationId.toList.length ≤ 64)
    (hcommit : binding.commitId.toList.length ≤ 64) (hrole : binding.role.toList.length ≤ 64)
    (hframe : binding.coordinateFrameId.toList.length ≤ 64) (hceiling : binding.authorityCeiling.toList.length ≤ 64) :
    validatePayload (publicationPayload binding) = .ok () := by
  have hkeys : (publicationPayload binding).map Prod.fst = ["binding_id", "representation_id", "commit_id", "role",
      "coordinate_frame_id", "authority_ceiling", "intended_uses"] := rfl
  apply validatePayload_brief hkeys rfl (by decide)
  intro p hp
  simp only [publicationPayload, List.mem_cons, List.not_mem_nil, or_false] at hp
  rcases hp with rfl | rfl | rfl | rfl | rfl | rfl | rfl
  · exact brief_str hid
  · exact brief_str hrep
  · exact brief_str hcommit
  · exact brief_str hrole
  · exact brief_str hframe
  · exact brief_str hceiling
  · rw [huses]
    exact brief_text huse

/-- The binding of a proxy for one use. -/
def proxyBinding (stamp : RepresentationStamp) (id use : String) (clientProfile : Option Dict) (rep : RepresentationAssetRow)
    (review : Dict) : RepresentationBindingRow :=
  bindingRow stamp (publication id use clientProfile) rep identityTransform [use] review
    (proxyPolicy.set "purpose" (.str use))

theorem sortedSet_singleton (text : String) : sortedSet id [text] = [text] := rfl

theorem authorizeReviewed_proxy {rep : RepresentationAssetRow} {review : Dict} {id use : String} {clientProfile : Option Dict}
    (h : Approves rep.qualityJson review use) :
    authorizeReviewed (publication id use clientProfile) rep = .ok ([use], review) := by
  have hof : reviewOf rep = .ok review := by
    simp only [reviewOf, Dict.get?, h.1]
    rfl
  have hreviewed : reviewedUses rep = .ok [.str use] := by
    refine bind_eq_ok.mpr ⟨review, hof, ?_⟩
    rw [Dict.setAt, Dict.get?, h.2]
    rfl
  have hany : [Json.str use].any (Json.isText use) = true := Json.any_isText_iff.mpr List.mem_cons_self
  simp only [authorizeReviewed, hof, hreviewed, bind_eq_ok, raiseIf_eq_ok]
  refine ⟨_, rfl, (), not_not.mpr hany, (), ?_, review, rfl, rfl⟩
  have htext : Json.isText use (.str use) = true := by simpa using hany
  simp [publication, sortedSet_singleton, htext]

theorem publish_proxy (registry : ProviderRegistry) (stamp : RepresentationStamp) (id use : String)
    (clientProfile : Option Dict) {rep : RepresentationAssetRow} {review : Dict}
    {bindings' : Table RepresentationBindingRow (fun row => row.bindingId)}
    (hfound : representations.get? id = some rep) (happroves : Approves rep.qualityJson review use)
    (hscope : checkScope (proxyScene s representations bindings) (publication id use clientProfile) rep = .ok proxyCommit)
    (hprovider : checkProvider (proxyScene s representations bindings) stamp.now rep = .ok ())
    (hprohibited : rep.prohibitedUsesJson = []) (hoperation : rep.operationId = none)
    (hpolicy : rep.privacyInheritanceJson = proxyPolicy)
    (hpayload : validatePayload (publicationPayload (proxyBinding stamp id use clientProfile rep review)) = .ok ())
    (hinsert : (supersede bindings stamp.now ((liveBindingsOfRole (proxyScene s representations bindings) rep use).map
      RepresentationBindingRow.bindingId)).insert? (proxyBinding stamp id use clientProfile rep review) = some bindings')
    (haudit : Succession "t1" before ids hashes s.audit) (hnow : before ≤ stamp.now) (hfresh : stamp.auditId ∉ ids)
    (htenant : rep.tenantId = "t1")
    (hhash : canonicalSha256 ((AuditService.zeroKey.entry .empty stamp.now stamp.auditId
      (publicationAudit (proxyBinding stamp id use clientProfile rep review))).body (hashes.getLast?.getD genesisHash)) = hash)
    (hnew : hash ∉ hashes) :
    ∃ s', Prod.snd <$> publish .zeroKey registry plainPython (proxyScene s representations bindings) stamp
          (publication id use clientProfile) =
        .ok (proxyScene s' (representations.set { rep with state := "published" }) bindings') ∧
      Succession "t1" (stamp.now + 1) (ids ++ [stamp.auditId]) (hashes ++ [hash]) s'.audit := by
  obtain ⟨event, hevent⟩ := s.emit_total stamp.toStamp
    (r := publicationEvent (proxyBinding stamp id use clientProfile rep review)) rfl rfl rfl hpayload
  obtain ⟨log, hlog, hnext⟩ := @Store.record_next .zeroKey { s with outbox := s.outbox ++ [event] } _ _ _ _ _ stamp.toStamp
    (publicationAudit (proxyBinding stamp id use clientProfile rep review)) haudit hnow htenant hfresh hhash hnew
  have hauthorized : authorizeUses registry plainPython (proxyScene s representations bindings) stamp.now
      (publication id use clientProfile) rep proxyCommit = .ok ([use], review) := by
    simp only [authorizeUses, conversionOf?, hoperation]
    exact authorizeReviewed_proxy happroves
  have hlimits : bindingPolicy plainPython (proxyScene s representations bindings) stamp.now
      (publication id use clientProfile) rep = .ok (proxyPolicy.set "purpose" (.str use)) := by
    simp only [bindingPolicy, hpolicy]
    rfl
  refine ⟨{ s with outbox := s.outbox ++ [event], audit := log }, map_eq_ok.mpr ⟨⟨stamp.newId, _⟩, ?_, rfl⟩, hnext⟩
  simp only [publish, bind_eq_ok, orRaise_eq_ok]
  refine ⟨(), raiseIf_eq_ok.mpr (by decide : ¬ isWorker "cid"), identityTransform, rfl, rep, hfound, proxyCommit, hscope, (), hprovider, (), ?_, ([use], review),
    hauthorized, _, hlimits, _, ?_, rfl⟩
  · rw [hprohibited]
    rfl
  · simp only [writeBinding, bind_eq_ok, orRaise_eq_ok]
    exact ⟨_, hinsert, _, hevent, _, hlog, rfl⟩

def firstStamp : RepresentationStamp := ⟨⟨0, "e1"⟩, ""⟩

def secondStamp : RepresentationStamp := ⟨⟨1, "e2"⟩, ""⟩

def fourthStamp : RepresentationStamp := ⟨⟨3, "e4"⟩, "b1"⟩

def oldProxy : RepresentationAssetRow := candidateRow firstStamp (proxy "old" none) proxyPolicy

def newProxy : RepresentationAssetRow := candidateRow secondStamp (proxy "new" (some "old")) proxyPolicy

def oneProxy : Table RepresentationAssetRow (fun row => row.representationId) := ⟨[oldProxy], List.nodup_singleton _⟩

def twoProxies : Table RepresentationAssetRow (fun row => row.representationId) :=
  ⟨[oldProxy, newProxy], (by decide : ["old", "new"].Nodup)⟩

/-- The hashes of the audit events, in turn. -/
def proxyHashes : List String := ["32375f186c83a45cd589674ca7ecd6e7f919b1cafb85f7a2d4fc38eb35a8e40b",
  "6a0be58067449328b9025444e0784c0f101e62aa909ee5126d0c6ac1c436c3b4",
  "19dbfda4ec5d4afddd4ce22d71e7302629c387c8a56cf3e3327fc71a511778ee",
  "f14d096be5f03b9c7bd2f736c57cf054c84d7cf8508b12351038c0006d9c19df"]

def proxyHash (n : Nat) : String := proxyHashes.getD n ""

def gapsHash : String := "94ed3e9022fbad810778affb92ac489afde3f13197978a38d45864ad0f01e0be"

/-- The audit event of an approval, with the hash of its metrics given. -/
def approvalAudit (row : RepresentationAssetRow) (use : String) : AuditRequest := { reviewAudit row (approval use) with
  details := some [("passed", .bool true), ("approved_uses", .texts [use]), ("metrics_hash", .str gapsHash)] }

/-- The documents that are hashed below: the metrics of an approval and four audit events. -/
def proxyDocuments : List (Json × String) := [
  (.obj [("gaps", .int 0)], gapsHash),
  (AuditService.zeroBody 0 "e1" (candidateAudit oldProxy "ana") genesisHash, proxyHash 0),
  (AuditService.zeroBody 1 "e2" (candidateAudit newProxy "ana") (proxyHash 0), proxyHash 1),
  (AuditService.zeroBody 2 "e3" (approvalAudit oldProxy "walk") (proxyHash 1), proxyHash 2),
  (AuditService.zeroBody 3 "e4" (publicationAudit (proxyBinding fourthStamp "old" "walk" none oldProxy [])) (proxyHash 2), proxyHash 3)]

set_option maxRecDepth 10000 in
theorem hashTo_proxyDocuments : hashTo proxyDocuments = true := by decide +kernel

theorem oldProxy_hash : canonicalSha256 ((AuditService.zeroKey.entry .empty 0 "e1" (candidateAudit oldProxy "ana")).body
    genesisHash) = proxyHash 0 := canonicalSha256_of_hashTo hashTo_proxyDocuments 1 rfl

theorem newProxy_hash : canonicalSha256 ((AuditService.zeroKey.entry .empty 1 "e2" (candidateAudit newProxy "ana")).body
    (proxyHash 0)) = proxyHash 1 := canonicalSha256_of_hashTo hashTo_proxyDocuments 2 rfl

theorem reviewAudit_approval (row : RepresentationAssetRow) (use : String) :
    reviewAudit row (approval use) = approvalAudit row use := by
  have hgaps : canonicalSha256 (.obj [("gaps", .int 0)]) = gapsHash := canonicalSha256_of_hashTo hashTo_proxyDocuments 0 rfl
  rw [approvalAudit, ← hgaps]
  rfl

theorem oldReview_hash : canonicalSha256 ((AuditService.zeroKey.entry .empty 2 "e3" (reviewAudit oldProxy (approval "walk"))).body
    (proxyHash 1)) = proxyHash 2 := by
  rw [reviewAudit_approval]
  exact canonicalSha256_of_hashTo hashTo_proxyDocuments 3 rfl

theorem oldBinding_hash (quality review : Dict) : canonicalSha256 ((AuditService.zeroKey.entry .empty 3 "e4"
    (publicationAudit (proxyBinding fourthStamp "old" "walk" none (reviewedRow oldProxy quality ["walk"]) review))).body
    (proxyHash 2)) = proxyHash 3 := by
  have haudit : publicationAudit (proxyBinding fourthStamp "old" "walk" none (reviewedRow oldProxy quality ["walk"]) review) =
      publicationAudit (proxyBinding fourthStamp "old" "walk" none oldProxy []) := rfl
  rw [haudit]
  exact canonicalSha256_of_hashTo hashTo_proxyDocuments 4 rfl

/-- The old proxy is published for walking, and the new one falls back to it. -/
def proxyCalls : List RepresentationAct := [.create firstStamp (proxy "old" none),
  .create secondStamp (proxy "new" (some "old")), .review ⟨2, "e3"⟩ "old" (approval "walk"),
  .publish fourthStamp (publication "old" "walk" none)]

theorem representationStep_of_ok {svc : AuditService} {registry : ProviderRegistry} {py : PyConversions} (s : ReviewedDb)
    (act : RepresentationAct) (db : RepresentationDb) (h : dbAfter svc registry py s.db act = .ok db) :
    representationStep svc registry py s act = ⟨db, s.reviews ++ reviewsOf act⟩ := by
  simp only [representationStep, h]

def zeroRegistry : ProviderRegistry := ⟨.zeroKey, List.replicate 32 0, AuditService.zeroKey.long⟩

/-- The proxies once the old one is published, and its binding. -/
def oldPublished (quality : Dict) : Table RepresentationAssetRow (fun row => row.representationId) :=
  (twoProxies.set (reviewedRow oldProxy quality ["walk"])).set
    { reviewedRow oldProxy quality ["walk"] with state := "published" }

def oldBinding (quality review : Dict) : RepresentationBindingRow :=
  proxyBinding fourthStamp "old" "walk" none (reviewedRow oldProxy quality ["walk"]) review

def oldBound (quality review : Dict) : Table RepresentationBindingRow (fun row => row.bindingId) :=
  ⟨[oldBinding quality review], List.nodup_singleton _⟩

theorem run_proxyCalls : ∃ s quality review,
    run (representationStep .zeroKey zeroRegistry plainPython) ⟨proxyStart, []⟩ proxyCalls =
      ⟨proxyScene s (oldPublished quality) (oldBound quality review), [("old", approval "walk")]⟩ ∧
      Succession "t1" 4 ["e1", "e2", "e3", "e4"] proxyHashes s.audit := by
  have hinsertOld : Table.empty.insert? oldProxy = some oneProxy := rfl
  have hinsertNew : oneProxy.insert? newProxy = some twoProxies := rfl
  obtain ⟨s₁, hold, h₁⟩ := @createCandidate_proxy Store.empty .empty oneProxy .empty 0 [] [] (proxyHash 0) proxyPolicy firstStamp
    "old" none (by decide) nofun (proxy_policy _ _ rfl) rfl hinsertOld (.start "t1" 0) le_rfl List.not_mem_nil oldProxy_hash
    List.not_mem_nil
  obtain ⟨s₂, hnew, h₂⟩ := @createCandidate_proxy s₁ oneProxy twoProxies .empty 1 ["e1"] [proxyHash 0] (proxyHash 1) proxyPolicy
    secondStamp "new" (some "old") (by decide) (by decide) (proxy_policy _ _ rfl) rfl hinsertNew h₁ le_rfl (by decide)
    newProxy_hash (by decide)
  obtain ⟨s₃, quality, review, hreview, h₃, happroves⟩ := @reviewQuality_proxy s₂ twoProxies .empty 2 ["e1", "e2"]
    [proxyHash 0, proxyHash 1] (proxyHash 2) ⟨2, "e3"⟩ "old" "walk" oldProxy rfl rfl rfl rfl h₂ le_rfl (by decide)
    oldReview_hash (by decide)
  have hpayload : validatePayload (publicationPayload (proxyBinding fourthStamp "old" "walk" none
      (reviewedRow oldProxy quality ["walk"]) review)) = .ok () :=
    validatePayload_publication rfl (by decide) (by decide : "b1".toList.length ≤ 64) (by decide : "old".toList.length ≤ 64)
      (by decide : "c1".toList.length ≤ 64) (by decide : "walk".toList.length ≤ 64) (by decide : "world".toList.length ≤ 64)
      (by decide : AuthorityClass.derivedNonAuthoritative.value.toList.length ≤ 64)
  obtain ⟨s₄, hpublish, h₄⟩ := @publish_proxy s₃ (twoProxies.set (reviewedRow oldProxy quality ["walk"])) .empty 3
    ["e1", "e2", "e3"] [proxyHash 0, proxyHash 1, proxyHash 2] (proxyHash 3) zeroRegistry fourthStamp "old" "walk" none
    (reviewedRow oldProxy quality ["walk"]) review _ rfl happroves rfl rfl rfl rfl rfl hpayload rfl h₃ le_rfl (by decide) rfl
    (oldBinding_hash quality review) (by decide)
  refine ⟨s₄, quality, review, ?_, h₄⟩
  have hfirst : representationStep .zeroKey zeroRegistry plainPython ⟨proxyStart, []⟩ (.create firstStamp (proxy "old" none)) =
      ⟨proxyScene s₁ oneProxy .empty, []⟩ := representationStep_of_ok _ _ _ hold
  have hsecond : representationStep .zeroKey zeroRegistry plainPython ⟨proxyScene s₁ oneProxy .empty, []⟩
      (.create secondStamp (proxy "new" (some "old"))) = ⟨proxyScene s₂ twoProxies .empty, []⟩ :=
    representationStep_of_ok _ _ _ hnew
  have hthird : representationStep .zeroKey zeroRegistry plainPython ⟨proxyScene s₂ twoProxies .empty, []⟩
      (.review ⟨2, "e3"⟩ "old" (approval "walk")) =
        ⟨proxyScene s₃ (twoProxies.set (reviewedRow oldProxy quality ["walk"])) .empty, [("old", approval "walk")]⟩ :=
    representationStep_of_ok _ _ _ hreview
  rw [proxyCalls, run_cons, hfirst, run_cons, hsecond, run_cons, hthird]
  exact representationStep_of_ok _ _ _ hpublish

theorem consistent_along_proxyCalls :
    Consistent (run (representationStep .zeroKey zeroRegistry plainPython) ⟨proxyStart, []⟩ proxyCalls) := by
  refine consistent_along_careful_run .zeroKey zeroRegistry plainPython proxyStart rfl rfl proxyCalls ?_ proxyCalls
    List.prefix_rfl
  exact ⟨rfl, rfl, nofun, trivial, trivial⟩

/-- The proxy that the binding shows is replaced, and the binding stays. -/
theorem binding_shows_replaced_proxy :
    ¬ Consistent (run (representationStep .zeroKey zeroRegistry plainPython) ⟨proxyStart, []⟩
      (proxyCalls ++ [.replace "old" "new"])) := by
  obtain ⟨s, quality, review, hrun, -⟩ := run_proxyCalls
  rw [run_append, hrun]
  intro hconsistent
  obtain ⟨rep, hrep, hstate, -⟩ := hconsistent.served (oldBinding quality review) List.mem_cons_self rfl
  cases hrep
  exact absurd hstate (by decide : "superseded" ≠ "published")

end Sample

end RepresentationService

end Sip
