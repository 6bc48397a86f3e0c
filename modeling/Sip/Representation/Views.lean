import Sip.Representation.Publication

/-!
# What a view shows

The selection checks the use and the audience of a binding and reports the authority
of the binding. For the bound representation that is its own, in every state that the
operations reach. A representation that stands in for it is looked up afterwards, and
nothing is checked of it but that it is in service.
-/

namespace Sip

set_option autoImplicit false

namespace RepresentationService

section Properties
variable (py : PyText) (db : RepresentationDb)

/-- A binding of the representation, live or not, was for the use. -/
def PublishedFor (representationId use : String) : Prop :=
  ∃ binding ∈ db.bindings.rows, binding.representationId = representationId ∧ use ∈ binding.intendedUsesJson

/-- The inherited policy names no audiences, or this one too. -/
def MayBeShownTo (rep : RepresentationAssetRow) (audience : String) : Prop :=
  Declares rep.privacyInheritanceJson "allowed_audiences" → Lists py rep.privacyInheritanceJson "allowed_audiences" audience

/-- The layer shows a representation that was published for the use, to an audience it admits, with its own authority. -/
def Proper (req : ViewRequest) (shown : SelectedLayer) : Prop :=
  ∃ rep, db.representations.get? shown.representationId = some rep ∧ PublishedFor db rep.representationId req.intendedUse ∧
    MayBeShownTo py rep req.audience ∧ shown.authorityClass = rep.authorityClass.value ∧
    shown.authorityCeiling = rep.authorityCeiling.value

/-- The binding passes the checks of the selection, and its representation is in service. -/
structure Admits (req : ViewRequest) (binding : RepresentationBindingRow) (bound : RepresentationAssetRow) : Prop where
  role : offRole req binding = false
  use : req.intendedUse ∈ binding.intendedUsesJson
  audience : ∃ audiences, bindingAudiences req binding = .ok audiences ∧ audiences.any (Json.isText req.audience) = true
  found : db.representations.get? binding.representationId = some bound
  served : inService bound

/-- The client lacks a capability that the binding requires. -/
def Incapable (req : ViewRequest) (binding : RepresentationBindingRow) : Prop :=
  ∃ required capabilities, binding.clientProfileJson.setAt "required_capabilities" = .ok required ∧
    req.clientProfile.setAt "capabilities" = .ok capabilities ∧ subset required capabilities = false

/-- The fallback was published for the use too, admits the audience, and has the authority of what it stands in for. -/
def StandsIn (req : ViewRequest) (bound fallback : RepresentationAssetRow) : Prop :=
  PublishedFor db fallback.representationId req.intendedUse ∧ MayBeShownTo py fallback req.audience ∧
    fallback.authorityClass = bound.authorityClass ∧ fallback.authorityCeiling = bound.authorityCeiling

/-- Every fallback that the selection takes stands in for its representation. -/
def FallbacksStandIn (req : ViewRequest) : Prop :=
  ∀ binding ∈ sceneBindings db req, ∀ bound fallback, Admits db req binding bound → Incapable req binding →
    servedRepresentation? db bound.fallbackRepresentationId = some fallback → StandsIn py db req bound fallback

end Properties

section Filed
variable {py : PyText}

/-- A binding repeats the authority of its representation and stays within its policy. -/
def FiledUnder (py : PyText) (db : RepresentationDb) (binding : RepresentationBindingRow) : Prop :=
  ∃ rep, db.representations.get? binding.representationId = some rep ∧ binding.authorityClass = rep.authorityClass.value ∧
    binding.authorityCeiling = rep.authorityCeiling.value ∧
    Within py binding.audiencePolicyJson rep.privacyInheritanceJson "allowed_audiences"

def Filed (py : PyText) (db : RepresentationDb) : Prop := ∀ binding ∈ db.bindings.rows, FiledUnder py db binding

/-- What the operations change of a representation once it is there. -/
def Amended (rep rep' : RepresentationAssetRow) : Prop :=
  ∃ state deprecatedAt qualityJson provenanceJson supportMapJson metadataJson,
    rep' = { rep with state, deprecatedAt, qualityJson, provenanceJson, supportMapJson, metadataJson }

theorem Amended.refl (rep : RepresentationAssetRow) : Amended rep rep := ⟨_, _, _, _, _, _, rfl⟩

/-- No representation is lost, and each keeps its terms. -/
def Amends (db db' : RepresentationDb) : Prop :=
  ∀ k rep, db.representations.get? k = some rep → ∃ rep', db'.representations.get? k = some rep' ∧ Amended rep rep'

/-- No binding is added, and each keeps its terms. -/
def Rebinds (db db' : RepresentationDb) : Prop :=
  ∀ b' ∈ db'.bindings.rows, ∃ b ∈ db.bindings.rows, ∃ supersededAt, b' = { b with supersededAt }

variable {db db' : RepresentationDb}

theorem amends_of_set {old row : RepresentationAssetRow} (hold : db.representations.get? old.representationId = some old)
    (hrow : Amended old row) (h : db'.representations = db.representations.set row) : Amends db db' := by
  have hkey : row.representationId = old.representationId := by
    obtain ⟨_, _, _, _, _, _, rfl⟩ := hrow
    rfl
  intro k rep hrep
  rw [h, @Table.get?_set _ _ db.representations row old (hkey.symm ▸ hold)]
  split
  · rename_i hk
    rw [hk, hkey, hold] at hrep
    cases hrep
    exact ⟨row, rfl, hrow⟩
  · exact ⟨rep, hrep, .refl rep⟩

theorem rebinds_of_eq (h : db'.bindings = db.bindings) : Rebinds db db' :=
  fun b hb => ⟨b, h ▸ hb, b.supersededAt, rfl⟩

theorem FiledUnder.of_amends {binding binding' : RepresentationBindingRow} {supersededAt : Option Nat}
    (h : FiledUnder py db binding) (hreps : Amends db db') (hbinding : binding' = { binding with supersededAt }) :
    FiledUnder py db' binding' := by
  obtain ⟨rep, hrep, hclass, hceiling, hwithin⟩ := h
  obtain ⟨rep', hrep', _, _, _, _, _, _, rfl⟩ := hreps _ rep hrep
  subst hbinding
  exact ⟨_, hrep', hclass, hceiling, hwithin⟩

theorem Filed.of_amends (h : Filed py db) (hreps : Amends db db') (hbindings : Rebinds db db') : Filed py db' := by
  intro b' hb'
  obtain ⟨b, hb, supersededAt, heq⟩ := hbindings b' hb'
  exact (h b hb).of_amends hreps heq

end Filed

section Preserved
open RepresentationPublisher
variable {svc : AuditService} {registry : ProviderRegistry} {py : PyConversions} {db db' : RepresentationDb}

theorem amends_create {stamp : RepresentationStamp} {req : CandidateRequest} {id : String}
    (h : createCandidate svc py.toPyText db stamp req = .ok (id, db')) : Amends db db' ∧ Rebinds db db' := by
  obtain ⟨hbindings, hreps⟩ := createCandidate_writes h
  refine ⟨?_, rebinds_of_eq hbindings⟩
  intro k rep hrep
  refine ⟨rep, ?_, .refl rep⟩
  rcases hreps with hsame | ⟨policy, hinsert⟩
  · rw [hsame]
    exact hrep
  · rw [Table.get?_insert hinsert, if_neg]
    · exact hrep
    · intro hk
      rw [hk, (Table.insert?_eq_some hinsert).1] at hrep
      cases hrep

theorem amends_replace {oldId newId : String} {split : ProxyReplacement}
    (h : replaceProxy db oldId newId = .ok (split, db')) : Amends db db' ∧ Rebinds db db' := by
  obtain ⟨hbindings, new, supportMapJson, hnew, hwritten⟩ := replaceProxy_writes h
  have hid : new.representationId = newId := ((Table.get?_eq_some_iff _ _ _).mp hnew).2
  have hset : Amends db { db with representations := db.representations.set { new with supportMapJson } } :=
    amends_of_set (hid.symm ▸ hnew) ⟨_, _, _, _, supportMapJson, _, rfl⟩ rfl
  refine ⟨?_, rebinds_of_eq hbindings⟩
  intro k rep hrep
  obtain ⟨rep', hrep', hamended⟩ := hset k rep hrep
  have hget := Table.get?_modify (db.representations.set { new with supportMapJson }) oldId
    (fun row => { row with state := "superseded" }) (fun _ => rfl) k
  rw [show (db.representations.set { new with supportMapJson }).get? k = some rep' from hrep', Option.map_some] at hget
  rw [hwritten]
  refine ⟨_, hget, ?_⟩
  obtain ⟨_, _, _, _, _, _, rfl⟩ := hamended
  split
  · exact ⟨_, _, _, _, _, _, rfl⟩
  · exact ⟨_, _, _, _, _, _, rfl⟩

theorem amends_invalidate {now : Nat} {stamps : Nat → Stamp} {req : InvalidationRequest} {sweep : Sweep}
    (h : sweepProject svc py.toPyText db now stamps req = .ok sweep) : Amends db sweep.db ∧ Rebinds db sweep.db := by
  have hpass := passed_project h
  constructor
  · intro k rep hrep
    by_cases hk : k ∈ (liveRepresentations db req.tenantId req.projectId).map RepresentationAssetRow.representationId
    · obtain ⟨row, hrow, rfl⟩ := List.mem_map.mp hk
      obtain ⟨after, hafter, hcase⟩ := hpass.swept row hrow
      cases hrep.symm.trans (mem_liveRepresentations.mp hrow).1
      refine ⟨after, hafter, ?_⟩
      rcases hcase with ⟨-, plan, rfl⟩ | ⟨-, rfl⟩
      · exact ⟨_, _, _, _, _, _, rfl⟩
      · exact .refl _
    · exact ⟨rep, (hpass.kept k hk).trans hrep, .refl rep⟩
  · intro b' hb'
    have hget := (Table.mem_rows_iff _ _).mp hb'
    cases hold : db.bindings.get? b'.bindingId with
    | none => cases (hpass.unbound _ hold).symm.trans hget
    | some b =>
      obtain ⟨after, hafter, hcase⟩ := hpass.bound _ b hold
      cases hget.symm.trans hafter
      refine ⟨b, ((Table.get?_eq_some_iff _ _ _).mp hold).1, ?_⟩
      rcases hcase with ⟨-, rfl⟩ | ⟨-, rfl⟩
      · exact ⟨some now, rfl⟩
      · exact ⟨_, rfl⟩

/-- A publication adds a binding under the terms of its representation. -/
theorem filed_publish {stamp : RepresentationStamp} {req : PublishRequest} {bindingId : String} (hfiled : Filed py.toPyText db)
    (h : publish svc registry py db stamp req = .ok (bindingId, db')) : Filed py.toPyText db' := by
  obtain ⟨-, rep, binding, hpub, hwrite⟩ := publish_writes h
  obtain ⟨hinsert, s, bindings, hdb⟩ := writeBinding_writes hwrite
  obtain ⟨transform, review, hrow⟩ := hpub.row
  have hid : rep.representationId = req.representationId := ((Table.get?_eq_some_iff _ _ _).mp hpub.found).2
  have hfound : db.representations.get? rep.representationId = some rep := hid.symm ▸ hpub.found
  have hreps : Amends db db' := by
    have hpublished : Amended rep { rep with state := "published" } := ⟨_, _, _, _, _, _, rfl⟩
    apply amends_of_set hfound hpublished
    rw [hdb]
  intro b' hb'
  rw [(Table.insert?_eq_some hinsert).2, List.mem_append, List.mem_singleton] at hb'
  rcases hb' with hold | rfl
  · rw [Table.mem_rows_iff, get?_supersede, Option.map_eq_some_iff] at hold
    obtain ⟨b, hb, heq⟩ := hold
    have hb := ((Table.get?_eq_some_iff _ _ _).mp hb).1
    split at heq
    · exact (hfiled b hb).of_amends hreps heq.symm
    · exact @FiledUnder.of_amends _ _ _ _ _ b.supersededAt (hfiled b hb) hreps heq.symm
  · obtain ⟨-, hwithin⟩ := bindingPolicy_within hpub.policy
    have hbid : b'.representationId = rep.representationId := by rw [hrow, hid]; rfl
    have hclass : b'.authorityClass = rep.authorityClass.value := by rw [hrow]; rfl
    have hceiling : b'.authorityCeiling = rep.authorityCeiling.value := by rw [hrow]; rfl
    have hfiled : FiledUnder py.toPyText db b' := ⟨rep, hbid.symm ▸ hfound, hclass, hceiling, hwithin⟩
    exact @FiledUnder.of_amends _ _ _ _ _ b'.supersededAt hfiled hreps rfl

theorem filed_step {s : ReviewedDb} (act : RepresentationAct) (hs : Filed py.toPyText s.db) :
    Filed py.toPyText (representationStep svc registry py s act).db := by
  unfold representationStep
  cases hafter : dbAfter svc registry py s.db act with
  | error e => exact hs
  | ok db' =>
    cases act with
    | create stamp req =>
      obtain ⟨⟨id, db⟩, hcreate, rfl⟩ := map_eq_ok.mp hafter
      obtain ⟨hreps, hbindings⟩ := amends_create hcreate
      exact hs.of_amends hreps hbindings
    | attach stamp req =>
      obtain ⟨hbindings, row, provenanceJson, hrow, hset⟩ := attachWorkerReceipt_writes hafter
      exact hs.of_amends (amends_of_set hrow ⟨_, _, _, _, _, _, rfl⟩ hset) (rebinds_of_eq hbindings)
    | review stamp representationId req =>
      obtain ⟨⟨outcome, db⟩, hreview, rfl⟩ := map_eq_ok.mp hafter
      obtain ⟨row, quality, merged, hreviewed⟩ := reviewQuality_writes hreview
      have hid : row.representationId = representationId := ((Table.get?_eq_some_iff _ _ _).mp hreviewed.found).2
      apply hs.of_amends _ (rebinds_of_eq hreviewed.bindings)
      exact amends_of_set (hid.symm ▸ hreviewed.found) ⟨_, _, _, _, _, _, rfl⟩ hreviewed.written
    | publish stamp req =>
      obtain ⟨⟨id, db⟩, hpublish, rfl⟩ := map_eq_ok.mp hafter
      exact filed_publish hs hpublish
    | invalidate now stamps req =>
      cases hafter
      rcases invalidateDependencies_writes rfl with heq | ⟨sweep, hsweep, heq⟩
      · rw [heq]
        exact hs
      · rw [heq]
        obtain ⟨hreps, hbindings⟩ := amends_invalidate hsweep
        exact hs.of_amends hreps hbindings
    | replace oldId newId =>
      obtain ⟨⟨split, db⟩, hreplace, rfl⟩ := map_eq_ok.mp hafter
      obtain ⟨hreps, hbindings⟩ := amends_replace hreplace
      exact hs.of_amends hreps hbindings

end Preserved

section Selection
variable {db : RepresentationDb} {req : ViewRequest} {capabilities : List Json} {binding : RepresentationBindingRow}
  {view : ViewSelection} {shown : SelectedLayer}

/-- A layer comes from a binding that passes every check: its own representation, or the fallback of that. -/
theorem considerBinding_layer (hcapable : req.clientProfile.setAt "capabilities" = .ok capabilities) :
    considerBinding db req capabilities binding = .ok (some (.inr shown)) →
    ∃ bound, Admits db req binding bound ∧ (shown = layer binding bound false ∨ Incapable req binding ∧
      ∃ fallback, servedRepresentation? db bound.fallbackRepresentationId = some fallback ∧
        shown = layer binding fallback true) := by
  intro h
  unfold considerBinding at h
  split at h
  · cases h
  · rename_i hrole
    split at h
    · cases h
    · rename_i huse
      obtain ⟨audiences, haudiences, h⟩ := bind_eq_ok.mp h
      split at h
      · cases h
      · rename_i haudience
        split at h
        · cases h
        · rename_i bound hbound
          obtain ⟨hfound, hserved⟩ := Option.filter_eq_some_iff.mp hbound
          have hadmits : Admits db req binding bound :=
            ⟨by simpa using hrole, not_not.mp huse, ⟨audiences, haudiences, by simpa using haudience⟩, hfound,
              of_decide_eq_true hserved⟩
          obtain ⟨required, hrequired, h⟩ := bind_eq_ok.mp h
          refine ⟨bound, hadmits, ?_⟩
          split at h
          · cases h
            exact .inl rfl
          · rename_i hsubset
            split at h
            · cases h
            · rename_i fallback hfallback
              cases h
              exact .inr ⟨⟨required, capabilities, hrequired, hcapable, by simpa using hsubset⟩, fallback, hfallback, rfl⟩

/-- A client without a required capability is shown the fallback. -/
theorem considerBinding_fallback (hcapable : req.clientProfile.setAt "capabilities" = .ok capabilities)
    {bound fallback : RepresentationAssetRow} (hadmits : Admits db req binding bound) (hincapable : Incapable req binding)
    (hfallback : servedRepresentation? db bound.fallbackRepresentationId = some fallback) :
    considerBinding db req capabilities binding = .ok (some (.inr (layer binding fallback true))) := by
  obtain ⟨audiences, haudiences, haudience⟩ := hadmits.audience
  obtain ⟨required, _, hrequired, hcapable', hsubset⟩ := hincapable
  cases hcapable.symm.trans hcapable'
  have hbound : (db.representations.get? binding.representationId).filter (fun row => inService row) = some bound :=
    Option.filter_eq_some_iff.mpr ⟨hadmits.found, decide_eq_true hadmits.served⟩
  simp only [considerBinding, hadmits.role, Bool.false_eq_true, if_false, not_not.mpr hadmits.use, haudiences, hbound,
    haudience, hrequired, hsubset, hfallback, bind, Except.bind, pure, Except.pure, Bool.not_true]

/-- The selected layers are those of the bindings, by induction on the bindings that are still to come. -/
theorem mem_selected_fold {bindings : List RepresentationBindingRow} {view' : ViewSelection}
    (h : bindings.foldlM (noteBinding db req capabilities) view = .ok view') :
    shown ∈ view'.selected ↔ shown ∈ view.selected ∨
      ∃ binding ∈ bindings, considerBinding db req capabilities binding = .ok (some (.inr shown)) := by
  induction bindings generalizing view with
  | nil =>
    cases h
    simp
  | cons binding bindings ih =>
    rw [List.foldlM_cons, bind_eq_ok] at h
    obtain ⟨mid, hmid, hrest⟩ := h
    rw [ih hrest]
    obtain ⟨outcome, houtcome, hmid⟩ := bind_eq_ok.mp hmid
    cases outcome with
    | none =>
      cases hmid
      simp [houtcome]
    | some outcome =>
      cases outcome with
      | inl reason =>
        cases hmid
        simp [houtcome]
      | inr other =>
        cases hmid
        simp [houtcome, or_assoc, eq_comm]

theorem mem_selected (h : selectForView db req = .ok view) :
    ∃ capabilities, req.clientProfile.setAt "capabilities" = .ok capabilities ∧
      ∀ shown, shown ∈ view.selected ↔
        ∃ binding ∈ sceneBindings db req, considerBinding db req capabilities binding = .ok (some (.inr shown)) := by
  obtain ⟨capabilities, hcapable, hfold⟩ := bind_eq_ok.mp h
  refine ⟨capabilities, hcapable, fun shown => ?_⟩
  rw [mem_selected_fold hfold]
  simp

end Selection

section Theorem
variable {py : PyText} {db : RepresentationDb} {req : ViewRequest}

theorem AuthorityClass.value_injective {a b : AuthorityClass} (h : a.value = b.value) : a = b := by
  cases a <;> cases b <;> first | rfl | exact absurd h (by decide)

/-- The representation of a binding may be shown where the binding may be. -/
theorem proper_bound {binding : RepresentationBindingRow} {bound : RepresentationAssetRow} (hfiled : FiledUnder py db binding)
    (hmem : binding ∈ db.bindings.rows) (hadmits : Admits db req binding bound) : Proper py db req (layer binding bound false) := by
  obtain ⟨rep, hrep, hclass, hceiling, hwithin⟩ := hfiled
  cases hrep.symm.trans hadmits.found
  have hid : bound.representationId = binding.representationId := ((Table.get?_eq_some_iff _ _ _).mp hrep).2
  have hstored : db.representations.get? bound.representationId = some bound := hid.symm ▸ hrep
  refine ⟨bound, hstored, ⟨binding, hmem, hid.symm, hadmits.use⟩, ?_, hclass, hceiling⟩
  intro hdeclares
  obtain ⟨hnamed, hbound⟩ := hwithin hdeclares
  apply hbound
  obtain ⟨audiences, haudiences, haudience⟩ := hadmits.audience
  simp only [bindingAudiences, Json.asSet, bind_eq_ok] at haudiences
  obtain ⟨items, hitems, -, -, heq⟩ := haudiences
  cases heq
  have hlisted : ∃ value, binding.audiencePolicyJson.lookup "allowed_audiences" = some value := by
    cases hlookup : binding.audiencePolicyJson.lookup "allowed_audiences" with
    | none =>
      rw [Declares, Dict.get, hlookup] at hnamed
      cases hnamed
    | some value => exact ⟨value, rfl⟩
  obtain ⟨value, hvalue⟩ := hlisted
  rw [Dict.get?, hvalue, Option.getD_some] at hitems
  refine ⟨audiences.map py.str, ?_, ?_⟩
  · simp only [Dict.textsAt, Dict.get?, hvalue, Option.getD_some, hitems, bind_eq_ok]
    exact ⟨audiences, rfl, rfl⟩
  · rw [Json.any_isText_iff] at haudience
    exact List.mem_map.mpr ⟨_, haudience, py.str_text _⟩

/-- Of the layers that a selection returns, those of the bindings are proper; those of fallbacks are, if the fallback
stands in for what is bound. -/
theorem proper_iff_standIn (hfiled : Filed py db) {view : ViewSelection} (h : selectForView db req = .ok view) :
    (∀ shown ∈ view.selected, Proper py db req shown) ↔ FallbacksStandIn py db req := by
  obtain ⟨capabilities, hcapable, hselected⟩ := mem_selected h
  have hrows : ∀ binding ∈ sceneBindings db req, binding ∈ db.bindings.rows := by
    intro binding hbinding
    exact List.mem_of_mem_filter (mem_sortBy.mp hbinding)
  have hown : ∀ binding ∈ sceneBindings db req, ∀ bound, Admits db req binding bound →
      binding.authorityClass = bound.authorityClass.value ∧ binding.authorityCeiling = bound.authorityCeiling.value := by
    intro binding hbinding bound hadmits
    obtain ⟨rep, hrep, hclass, hceiling, -⟩ := hfiled binding (hrows binding hbinding)
    cases hrep.symm.trans hadmits.found
    exact ⟨hclass, hceiling⟩
  constructor
  · intro hproper binding hbinding bound fallback hadmits hincapable hfallback
    have hmem : layer binding fallback true ∈ view.selected :=
      (hselected _).mpr ⟨binding, hbinding, considerBinding_fallback hcapable hadmits hincapable hfallback⟩
    obtain ⟨rep, hrep, hpublished, haudience, hclass, hceiling⟩ := hproper _ hmem
    have hstored : db.representations.get? fallback.representationId = some fallback := by
      obtain ⟨hget, -⟩ := Option.filter_eq_some_iff.mp hfallback
      obtain ⟨id, -, hget⟩ := Option.bind_eq_some_iff.mp hget
      exact (Table.mem_rows_iff _ _).mp ((Table.get?_eq_some_iff _ _ _).mp hget).1
    cases hstored.symm.trans hrep
    obtain ⟨hboundClass, hboundCeiling⟩ := hown binding hbinding bound hadmits
    exact ⟨hpublished, haudience, AuthorityClass.value_injective (hclass.symm.trans hboundClass),
      AuthorityClass.value_injective (hceiling.symm.trans hboundCeiling)⟩
  · intro hstand shown hshown
    obtain ⟨binding, hbinding, hconsider⟩ := (hselected shown).mp hshown
    obtain ⟨bound, hadmits, rfl | ⟨hincapable, fallback, hfallback, rfl⟩⟩ := considerBinding_layer hcapable hconsider
    · exact proper_bound (hfiled binding (hrows binding hbinding)) (hrows binding hbinding) hadmits
    · obtain ⟨hpublished, haudience, hclass, hceiling⟩ := hstand binding hbinding bound fallback hadmits hincapable hfallback
      obtain ⟨hget, -⟩ := Option.filter_eq_some_iff.mp hfallback
      obtain ⟨id, -, hget⟩ := Option.bind_eq_some_iff.mp hget
      have hstored := (Table.mem_rows_iff _ _).mp ((Table.get?_eq_some_iff _ _ _).mp hget).1
      obtain ⟨hboundClass, hboundCeiling⟩ := hown binding hbinding bound hadmits
      refine ⟨fallback, hstored, hpublished, haudience, ?_, ?_⟩
      · rw [hclass]
        exact hboundClass
      · rw [hceiling]
        exact hboundCeiling

end Theorem

/-- In every state that the operations reach, every layer of a selection shows what was published for the use, to an
audience it admits and with its own authority, if and only if every fallback that is taken stands in for its
representation. -/
theorem selected_proper_iff (svc : AuditService) (registry : ProviderRegistry) (py : PyConversions) (start : RepresentationDb)
    (hbindings : start.bindings = .empty) (acts : List RepresentationAct) (req : ViewRequest) (view : ViewSelection)
    (h : selectForView (run (representationStep svc registry py) ⟨start, []⟩ acts).db req = .ok view) :
    (∀ shown ∈ view.selected,
        Proper py.toPyText (run (representationStep svc registry py) ⟨start, []⟩ acts).db req shown) ↔
      FallbacksStandIn py.toPyText (run (representationStep svc registry py) ⟨start, []⟩ acts).db req := by
  have hstart : Filed py.toPyText start := fun binding hbinding => absurd (hbindings ▸ hbinding) List.not_mem_nil
  have hfiled := @run_invariant _ _ (representationStep svc registry py) (fun s => Filed py.toPyText s.db)
    (fun s act hs => filed_step act hs) ⟨start, []⟩ hstart acts
  exact proper_iff_standIn hfiled h

section Sample
open RepresentationPublisher
open SceneService (plainPython)

def sixthStamp : RepresentationStamp := ⟨⟨5, "e6"⟩, "b2"⟩

/-- Grabbing needs a client with physics. -/
def physics : Option Dict := some [("required_capabilities", .arr [.str "physics"])]

/-- The new proxy, which falls back to the old one, is published for grabbing. -/
def grabCalls : List RepresentationAct := proxyCalls ++ [.review ⟨4, "e5"⟩ "new" (approval "grab"),
  .publish sixthStamp (publication "new" "grab" physics)]

def newReviewHash : String := "1915b93722609e57e33b2d65ffd86d5d22d9ba6a1869dd422ba0ffeba271a86c"

def newBindingHash : String := "693c3e37bfcf5aa890a0fdfa99a04fe558ee8b21b0d33bd5d3f6478ba1f98a40"

/-- The documents that are hashed below: two more audit events. -/
def grabDocuments : List (Json × String) := [
  (AuditService.zeroBody 4 "e5" (approvalAudit newProxy "grab") (proxyHash 3), newReviewHash),
  (AuditService.zeroBody 5 "e6" (publicationAudit (proxyBinding sixthStamp "new" "grab" physics newProxy [])) newReviewHash, newBindingHash)]

set_option maxRecDepth 10000 in
theorem hashTo_grabDocuments : hashTo grabDocuments = true := by decide +kernel

theorem newReview_hash : canonicalSha256 ((AuditService.zeroKey.entry .empty 4 "e5" (reviewAudit newProxy (approval "grab"))).body
    (proxyHash 3)) = newReviewHash := by
  rw [reviewAudit_approval]
  exact canonicalSha256_of_hashTo hashTo_grabDocuments 0 rfl

theorem newBinding_hash (quality review : Dict) : canonicalSha256 ((AuditService.zeroKey.entry .empty 5 "e6"
    (publicationAudit (proxyBinding sixthStamp "new" "grab" physics (reviewedRow newProxy quality ["grab"]) review))).body
    newReviewHash) = newBindingHash := by
  have haudit : publicationAudit (proxyBinding sixthStamp "new" "grab" physics (reviewedRow newProxy quality ["grab"]) review) =
      publicationAudit (proxyBinding sixthStamp "new" "grab" physics newProxy []) := rfl
  rw [haudit]
  exact canonicalSha256_of_hashTo hashTo_grabDocuments 1 rfl

/-- A viewer without physics. -/
def grabView : ViewRequest where
  tenantId := "t1"
  projectId := "p1"
  sceneId := "s1"
  intendedUse := "grab"
  audience := "crew"

/-- The proxies once the new one is published too, and its binding. -/
def bothPublished (quality quality' : Dict) : Table RepresentationAssetRow (fun row => row.representationId) :=
  ((oldPublished quality).set (reviewedRow newProxy quality' ["grab"])).set
    { reviewedRow newProxy quality' ["grab"] with state := "published" }

def newBinding (quality review : Dict) : RepresentationBindingRow :=
  proxyBinding sixthStamp "new" "grab" physics (reviewedRow newProxy quality ["grab"]) review

def bothBound (quality review quality' review' : Dict) : Table RepresentationBindingRow (fun row => row.bindingId) :=
  ⟨[oldBinding quality review, newBinding quality' review'], (by decide : ["b1", "b2"].Nodup)⟩

theorem run_grabCalls : ∃ s quality review quality' review',
    run (representationStep .zeroKey zeroRegistry plainPython) ⟨proxyStart, []⟩ grabCalls =
      ⟨proxyScene s (bothPublished quality quality') (bothBound quality review quality' review'),
        [("old", approval "walk"), ("new", approval "grab")]⟩ := by
  obtain ⟨s, quality, review, hrun, haudit⟩ := run_proxyCalls
  obtain ⟨s₅, quality', review', hreview, h₅, happroves⟩ := @reviewQuality_proxy s (oldPublished quality)
    (oldBound quality review) 4 ["e1", "e2", "e3", "e4"] proxyHashes newReviewHash ⟨4, "e5"⟩ "new" "grab" newProxy rfl rfl rfl
    rfl haudit le_rfl (by decide) newReview_hash (by decide)
  have hpayload : validatePayload (publicationPayload (newBinding quality' review')) = .ok () :=
    validatePayload_publication rfl (by decide) (by decide : "b2".toList.length ≤ 64) (by decide : "new".toList.length ≤ 64)
      (by decide : "c1".toList.length ≤ 64) (by decide : "grab".toList.length ≤ 64) (by decide : "world".toList.length ≤ 64)
      (by decide : AuthorityClass.derivedNonAuthoritative.value.toList.length ≤ 64)
  have hinsert : (supersede (oldBound quality review) 5 []).insert? (newBinding quality' review') =
      some (bothBound quality review quality' review') := rfl
  obtain ⟨s₆, hpublish, -⟩ := @publish_proxy s₅ ((oldPublished quality).set (reviewedRow newProxy quality' ["grab"]))
    (oldBound quality review) 5 (["e1", "e2", "e3", "e4"] ++ ["e5"]) (proxyHashes ++ [newReviewHash]) newBindingHash zeroRegistry
    sixthStamp "new" "grab" physics (reviewedRow newProxy quality' ["grab"]) review' _ rfl happroves rfl rfl rfl rfl rfl hpayload
    hinsert h₅ le_rfl (by decide) rfl (newBinding_hash quality' review') (by decide)
  refine ⟨s₆, quality, review, quality', review', ?_⟩
  have hfifth : representationStep .zeroKey zeroRegistry plainPython
      ⟨proxyScene s (oldPublished quality) (oldBound quality review), [("old", approval "walk")]⟩
      (.review ⟨4, "e5"⟩ "new" (approval "grab")) =
        ⟨proxyScene s₅ ((oldPublished quality).set (reviewedRow newProxy quality' ["grab"])) (oldBound quality review),
          [("old", approval "walk"), ("new", approval "grab")]⟩ := representationStep_of_ok _ _ _ hreview
  rw [grabCalls, run_append, hrun, run_cons, hfifth]
  exact representationStep_of_ok _ _ _ hpublish

/-- The view of a client without physics shows the old proxy, through the binding of the new one. -/
theorem selectForView_grab (s : Store) (quality review quality' review' : Dict) :
    selectForView (proxyScene s (bothPublished quality quality') (bothBound quality review quality' review')) grabView =
      .ok ⟨[layer (newBinding quality' review')
        { reviewedRow oldProxy quality ["walk"] with state := "published" } true], [("b1", "intended_use_not_bound")]⟩ :=
  rfl

theorem selected_proper_iff_grab :
    ∃ view, selectForView (run (representationStep .zeroKey zeroRegistry plainPython) ⟨proxyStart, []⟩ grabCalls).db grabView =
        .ok view ∧
      ((∀ shown ∈ view.selected, Proper plainPython.toPyText
          (run (representationStep .zeroKey zeroRegistry plainPython) ⟨proxyStart, []⟩ grabCalls).db grabView shown) ↔
        FallbacksStandIn plainPython.toPyText
          (run (representationStep .zeroKey zeroRegistry plainPython) ⟨proxyStart, []⟩ grabCalls).db grabView) := by
  obtain ⟨s, quality, review, quality', review', hrun⟩ := run_grabCalls
  obtain ⟨view, hview⟩ : ∃ view, selectForView
      (run (representationStep .zeroKey zeroRegistry plainPython) ⟨proxyStart, []⟩ grabCalls).db grabView = .ok view := by
    rw [hrun]
    exact ⟨_, selectForView_grab s quality review quality' review'⟩
  exact ⟨view, hview, selected_proper_iff .zeroKey zeroRegistry plainPython proxyStart rfl grabCalls grabView view hview⟩

/-- What stands in was published for walking only. -/
theorem fallback_shown_for_another_use :
    ∃ view, selectForView (run (representationStep .zeroKey zeroRegistry plainPython) ⟨proxyStart, []⟩ grabCalls).db grabView =
        .ok view ∧
      ¬ ∀ shown ∈ view.selected, Proper plainPython.toPyText
        (run (representationStep .zeroKey zeroRegistry plainPython) ⟨proxyStart, []⟩ grabCalls).db grabView shown := by
  obtain ⟨s, quality, review, quality', review', hrun⟩ := run_grabCalls
  rw [hrun]
  refine ⟨_, selectForView_grab s quality review quality' review', ?_⟩
  intro hproper
  obtain ⟨rep, hrep, ⟨binding, hbinding, hid, huse⟩, -⟩ := hproper _ List.mem_cons_self
  cases hrep
  simp only [bothBound, List.mem_cons, List.not_mem_nil, or_false] at hbinding
  rcases hbinding with rfl | rfl
  · exact absurd huse (by decide : "grab" ∉ ["walk"])
  · exact absurd hid (by decide : "new" ≠ "old")

end Sample

end RepresentationService

end Sip
