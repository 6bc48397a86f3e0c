import Sip.Archive.Safety
import Sip.Preservation.Unpacking

/-!
# Where validated members are extracted

Validated members stay below the root of the extraction, and their names differ as texts.
They should differ as places too: a path drops empty components and dots, so a name that
has one may say where another member already is.
-/

namespace Sip
namespace ArchiveSafety

set_option autoImplicit false
open CapturePackage (pathParts)
open Preservation (walk_plain)

section Law

/-- Extraction leads below the root, along the components of the name. -/
structure StaysInside (name : String) : Prop where
  relative : name.toList.head? ≠ some '/'
  no_backslash : '\\' ∉ name.toList
  no_drive : ∀ part, (pathParts name).head? = some part → ':' ∉ part.toList
  below : Preservation.walk [] (pathParts name) = some (pathParts name)
  not_root : pathParts name ≠ []

/-- Members stay inside, and no two of them are extracted to one place. -/
structure ExtractsApart (names : List String) : Prop where
  inside : ∀ name ∈ names, StaysInside name
  apart : (names.map pathParts).Nodup

/-- The name has a component that its path drops. -/
def HasDroppedPart (name : String) : Prop := ∃ part ∈ name.toList.splitOn '/', part = [] ∨ part = ['.']

/-- No name with a dropped component says where another member is. -/
def DroppedPartsApart (names : List String) : Prop :=
  names.Pairwise fun a b => HasDroppedPart a ∨ HasDroppedPart b → pathParts a ≠ pathParts b

end Law

section Spelling
variable {a b : String}

theorem pathParts_of_not_dropped (h : ¬ HasDroppedPart a) : pathParts a = (a.toList.splitOn '/').map String.ofList := by
  rw [pathParts, List.filter_eq_self]
  intro part hpart
  obtain ⟨cs, hcs, rfl⟩ := List.mem_map.mp hpart
  have hne : cs ≠ [] := fun hnil => h ⟨cs, hcs, .inl hnil⟩
  have hdot : cs ≠ ['.'] := fun hdot => h ⟨cs, hcs, .inr hdot⟩
  have hdots : String.ofList cs ≠ "." := by
    intro heq
    apply hdot
    rw [← String.toList_ofList (l := cs), heq]
    rfl
  simp [hne, hdots]

/-- A path without dropped components is spelled in one way. -/
theorem eq_of_pathParts_eq (ha : ¬ HasDroppedPart a) (hb : ¬ HasDroppedPart b) (h : pathParts a = pathParts b) : a = b := by
  rw [pathParts_of_not_dropped ha, pathParts_of_not_dropped hb] at h
  have hsplit : a.toList.splitOn '/' = b.toList.splitOn '/' :=
    List.map_injective_iff.mpr (fun _ _ => String.ofList_injective) h
  have hjoin := congrArg (['/'].intercalate ·) hsplit
  rw [List.intercalate_splitOn, List.intercalate_splitOn] at hjoin
  exact String.toList_inj.mp hjoin

theorem staysInside_of_safe (h : unsafeName a = false) : StaysInside a := by
  simp only [unsafeName, decide_eq_false_iff_not, not_or] at h
  obtain ⟨hbackslash, hnil, hroot, hparent, hdrive, _⟩ := h
  refine ⟨hroot, hbackslash, ?_, ?_, hnil⟩
  · intro part hpart hcolon
    apply hdrive
    rw [hpart, Option.any_some]
    exact decide_eq_true hcolon
  · rw [walk_plain [] hparent, List.reverse_nil, List.nil_append]

end Spelling

section Validated
variable {codePrefix : String} {limits : Limits} {members : List ZipMember} {names : List String}

theorem checkMember_ok {seen : List String} {total : Nat} {member : ZipMember}
    (h : checkMember codePrefix limits seen total member = .ok ()) :
    unsafeName member.filename = false ∧ member.filename ∉ seen := by
  simp only [checkMember, bind_eq_ok, raiseIf_eq_ok, Bool.not_eq_true] at h
  obtain ⟨_, hsafe, _, hseen, _⟩ := h
  exact ⟨hsafe, hseen⟩

theorem checkMembers_ok {seen : List String} {total : Nat} (h : checkMembers codePrefix limits seen total members = .ok ()) :
    (∀ name ∈ memberNames members, unsafeName name = false ∧ name ∉ seen) ∧ (memberNames members).Nodup := by
  induction members generalizing seen total with
  | nil => exact ⟨fun name hname => (List.not_mem_nil hname).elim, List.nodup_nil⟩
  | cons member members ih =>
    rw [checkMembers, bind_eq_ok] at h
    obtain ⟨_, hmember, hrest⟩ := h
    obtain ⟨hnames, hnodup⟩ := ih hrest
    constructor
    · intro name hname
      rcases List.mem_cons.mp hname with rfl | hname
      · exact checkMember_ok hmember
      · obtain ⟨hsafe, hseen⟩ := hnames name hname
        exact ⟨hsafe, fun hmem => hseen (List.mem_cons_of_mem _ hmem)⟩
    · rw [memberNames, List.map_cons]
      apply List.nodup_cons.mpr
      exact ⟨fun hmem => (hnames _ hmem).2 List.mem_cons_self, hnodup⟩

/-- What validation says of the names it returns. -/
theorem validateZipMembers_ok (h : validateZipMembers codePrefix limits members = .ok names) :
    names = memberNames members ∧ names.Nodup ∧ ∀ name ∈ names, unsafeName name = false := by
  simp only [validateZipMembers, bind_eq_ok, raiseIf_eq_ok] at h
  obtain ⟨_, _, _, hmembers, h⟩ := h
  cases h
  obtain ⟨hnames, hnodup⟩ := checkMembers_ok hmembers
  exact ⟨rfl, hnodup, fun name hname => (hnames name hname).1⟩

theorem nodup_pathParts_iff (hnodup : names.Nodup) : (names.map pathParts).Nodup ↔ DroppedPartsApart names := by
  rw [List.Nodup, List.pairwise_map]
  constructor
  · intro h
    apply h.imp
    intro a b hne _
    exact hne
  · intro h
    apply (hnodup.and h).imp
    intro a b ⟨hne, hdropped⟩ heq
    by_cases ha : HasDroppedPart a
    · exact hdropped (.inl ha) heq
    · by_cases hb : HasDroppedPart b
      · exact hdropped (.inr hb) heq
      · exact hne (eq_of_pathParts_eq ha hb heq)

end Validated

/-- Validated members are extracted to places of their own, below the root, exactly when no name with an empty component or a
dot says where another member is. -/
theorem validated_members_apart_iff (codePrefix : String) (limits : Limits) (members : List ZipMember) (names : List String)
    (h : validateZipMembers codePrefix limits members = .ok names) : ExtractsApart names ↔ DroppedPartsApart names := by
  obtain ⟨_, hnodup, hsafe⟩ := validateZipMembers_ok h
  constructor
  · intro hapart
    exact (nodup_pathParts_iff hnodup).mp hapart.apart
  · intro hdropped
    exact ⟨fun name hname => staysInside_of_safe (hsafe name hname), (nodup_pathParts_iff hnodup).mpr hdropped⟩

section Slashes

def plainMember (name : String) : ZipMember := ⟨⟨name, 0, 0, some []⟩, 0o100644 * 2 ^ 16⟩

def tidyNames : List String := ["data/a.json", "data/b.json"]

def slashedNames : List String := ["data/a.json", "data//a.json"]

theorem validate_plain {names : List String} (hcount : names.length ≤ 10000)
    (h : checkMembers "HANDOFF" {} [] 0 (names.map plainMember) = .ok ()) :
    validateZipMembers "HANDOFF" {} (names.map plainMember) = .ok names := by
  have hnames : memberNames (names.map plainMember) = names := by
    rw [memberNames, List.map_map]
    exact List.map_id names
  have hlength : ¬ 10000 < (names.map plainMember).length := by
    rw [List.length_map]
    omega
  simp only [validateZipMembers, bind_eq_ok, raiseIf_eq_ok]
  exact ⟨(), hlength, (), h, congrArg Except.ok hnames⟩

theorem validate_tidyNames : validateZipMembers "HANDOFF" {} (tidyNames.map plainMember) = .ok tidyNames :=
  validate_plain (by decide) (eq_ok_of_isOk (by decide))

theorem tidy_members_apart : ExtractsApart tidyNames := by
  apply (validated_members_apart_iff _ _ _ _ validate_tidyNames).mpr
  apply List.pairwise_pair.mpr
  intro _
  decide

/-- A second slash makes a second name for one place. -/
theorem slashed_members_collide :
    ∃ names, validateZipMembers "HANDOFF" {} (slashedNames.map plainMember) = .ok names ∧ ¬ ExtractsApart names := by
  refine ⟨slashedNames, validate_plain (by decide) (eq_ok_of_isOk (by decide)), ?_⟩
  intro h
  apply absurd h.apart
  decide

end Slashes

end ArchiveSafety
end Sip
