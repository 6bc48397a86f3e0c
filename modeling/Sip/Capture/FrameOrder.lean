import Sip.Capture.Package
import Sip.PyEquality

/-!
# Frames do not depend on the order of keys

A frame passes validation whatever order its dictionaries list their keys in. A matrix
may even be a dictionary: then its rows are its keys, of which only the lengths count.
-/

namespace Sip

set_option autoImplicit false

namespace Json

theorem sortedFields_eq (fields : Dict) : ∃ sorted, (obj fields).normalize = .obj sorted ∧
    sorted.Perm (fields.map fun p => (p.1, p.2.normalize)) := by
  refine ⟨_, by rw [normalize], ?_⟩
  rw [normalizeFields_eq_map]
  exact List.perm_insertionSort _ _

theorem normalize_of_hashable {v : Json} (h : v.hashable = true) : v.normalize = v := by
  cases v with
  | arr | obj => cases h
  | null | bool | num | str => simp [normalize]

theorem hashable_normalize (v : Json) : v.normalize.hashable = v.hashable := by
  cases v <;> simp [normalize, hashable]

theorem rat?_normalize (v : Json) : v.normalize.rat? = v.rat? := by
  cases v with
  | num n => cases n <;> simp [normalize]
  | _ => simp [normalize, rat?]

theorem isText_normalize (text : String) (v : Json) : v.normalize.isText text = v.isText text := by
  cases v <;> simp [normalize, isText, text?]

theorem truthy_normalize (v : Json) : v.normalize.truthy = v.truthy := by
  cases v with
  | arr items =>
    rw [normalize, normalizeItems_eq_map, truthy, truthy, List.isEmpty_map]
  | obj fields =>
    obtain ⟨sorted, hsorted, hperm⟩ := sortedFields_eq fields
    rw [hsorted, truthy, truthy, hperm.isEmpty_eq, List.isEmpty_map]
  | num n => cases n <;> simp [normalize]
  | _ => simp [normalize, truthy]

theorem len_normalize (v : Json) : v.normalize.len = v.len := by
  cases v with
  | arr items =>
    rw [normalize, normalizeItems_eq_map, len, len, List.length_map]
  | obj fields =>
    obtain ⟨sorted, hsorted, hperm⟩ := sortedFields_eq fields
    rw [hsorted, len, len, hperm.length_eq, List.length_map]
  | num n => cases n <;> simp [normalize]
  | _ => simp [normalize, len]

/-- The elements are the same up to the order of keys, in any order where they are keys. -/
theorem iterate_normalize {v : Json} {items : List Json} (h : v.iterate = .ok items) :
    ∃ sorted, v.normalize.iterate = .ok sorted ∧ sorted.Perm (items.map normalize) := by
  cases v with
  | arr elements =>
    cases h
    exact ⟨_, by rw [normalize, normalizeItems_eq_map, iterate], List.Perm.refl _⟩
  | str s =>
    cases h
    refine ⟨_, by rw [normalize_str, iterate], ?_⟩
    rw [List.map_map]
    apply List.Perm.of_eq
    apply List.map_congr_left
    intro c _
    rw [Function.comp_apply, normalize_str]
  | obj fields =>
    cases h
    obtain ⟨sorted, hsorted, hperm⟩ := sortedFields_eq fields
    refine ⟨_, by rw [hsorted, iterate], ?_⟩
    have hkeys := hperm.map fun field : String × Json => Json.str field.1
    rw [List.map_map] at hkeys ⊢
    apply hkeys.trans
    apply List.Perm.of_eq
    apply List.map_congr_left
    intro field _
    rw [Function.comp_apply, Function.comp_apply, normalize_str]
  | null | bool b => cases h
  | num n => cases n <;> cases h

theorem item_normalize {v value : Json} (hv : v.Distinct) {key : String} (h : v.item key = .ok value) :
    v.normalize.item key = .ok value.normalize := by
  obtain ⟨fields, rfl, hlookup⟩ := item_eq_ok.mp h
  refine item_eq_ok.mpr ⟨_, by rw [normalize], ?_⟩
  rw [lookup_normalize hv.keys, hlookup]
  rfl

end Json

namespace CapturePackage

section Frames
variable {py : PyRuntime} {assetPaths : List String}

theorem missingKeys_normalize {required missing : List String} {v : Json} (hv : v.Distinct)
    (h : missingKeys required v = .ok missing) : missingKeys required v.normalize = .ok missing := by
  cases v with
  | obj fields =>
    rw [Json.normalize]
    simp only [missingKeys, Json.lookup_normalize hv.keys, Option.isNone_map]
    exact h
  | _ => cases h

theorem checkFrameReference_normalize {fields : Dict} {frame : Json} (hframe : frame = .obj fields) (hd : frame.Distinct)
    {sorted : Dict} (hsorted : frame.normalize = .obj sorted) {key : String}
    (h : checkFrameReference assetPaths frame fields key = .ok ()) :
    checkFrameReference assetPaths frame.normalize sorted key = .ok () := by
  have hvalue : sorted.get key = (fields.get key).normalize := by
    subst hframe
    rw [Json.normalize, Json.obj.injEq] at hsorted
    rw [Dict.get, Dict.get, ← hsorted, Json.lookup_normalize hd.keys]
    cases fields.lookup key <;> simp [Json.normalize]
  have htext : (fun path => (sorted.get key).isText path) = fun path => (fields.get key).isText path := by
    funext path
    rw [hvalue, Json.isText_normalize]
  simp only [checkFrameReference, hvalue, Json.truthy_normalize, Json.hashable_normalize] at h ⊢
  split
  · rename_i htruthy
    rw [if_pos htruthy] at h
    simp only [bind_eq_ok, raiseIf_eq_ok, Json.isText_normalize] at h ⊢
    obtain ⟨_, hhash, frameId, hid, hlisted⟩ := h
    exact ⟨(), hhash, _, Json.item_normalize hd hid, hlisted⟩
  · rfl

theorem mapM_len_normalize {items sorted : List Json} (hperm : sorted.Perm (items.map Json.normalize)) {lengths : List Nat}
    (h : items.mapM Json.len = .ok lengths) : ∃ lengths', sorted.mapM Json.len = .ok lengths' ∧ lengths'.Perm lengths := by
  obtain ⟨hall, rfl⟩ := mapM_eq_ok_iff.mp h
  refine ⟨_, mapM_eq_ok_iff.mpr ⟨?_, rfl⟩, ?_⟩
  · intro x hx
    obtain ⟨y, hy, rfl⟩ := List.mem_map.mp (hperm.mem_iff.mp hx)
    rw [Json.len_normalize]
    exact hall y hy
  · apply (hperm.map _).trans
    rw [List.map_map]
    apply List.Perm.of_eq
    apply List.map_congr_left
    intro x _
    rw [Function.comp_apply, Json.len_normalize]

theorem notSquare_normalize {matrix : Json} {size : Nat} {b : Bool} (h : notSquare matrix size = .ok b) :
    notSquare matrix.normalize size = .ok b := by
  simp only [notSquare, bind_eq_ok, Json.len_normalize] at h ⊢
  obtain ⟨n, hn, h⟩ := h
  refine ⟨n, hn, ?_⟩
  split
  · rename_i hne
    rwa [if_pos hne] at h
  · rename_i hne
    rw [if_neg hne] at h
    simp only [bind_eq_ok] at h ⊢
    obtain ⟨items, hitems, lengths, hlengths, hany⟩ := h
    obtain ⟨sorted, hsorted, hperm⟩ := Json.iterate_normalize hitems
    obtain ⟨lengths', hlengths', hperm'⟩ := mapM_len_normalize hperm hlengths
    refine ⟨sorted, hsorted, lengths', hlengths', ?_⟩
    rw [hperm'.any_eq]
    exact hany

theorem notHomogeneous_normalize {transform : Json} {b : Bool} (h : notHomogeneous transform = .ok b) :
    notHomogeneous transform.normalize = .ok b := by
  cases transform with
  | arr rows =>
    have hrow : (rows.map Json.normalize).getD 3 .null = (rows.getD 3 .null).normalize := by
      rw [List.getD_eq_getElem?_getD, List.getD_eq_getElem?_getD, List.getElem?_map]
      cases rows[3]? <;> simp [Json.normalize]
    rw [Json.normalize, Json.normalizeItems_eq_map]
    simp only [notHomogeneous, hrow] at h ⊢
    cases hvalue : rows.getD 3 .null with
    | arr row =>
      rw [hvalue] at h
      rw [Json.normalize, Json.normalizeItems_eq_map]
      dsimp only at h ⊢
      have hrat : Json.rat? ∘ Json.normalize = Json.rat? := funext Json.rat?_normalize
      rw [List.map_map, hrat]
      exact h
    | obj fields =>
      rw [hvalue] at h
      rw [Json.normalize]
      exact h
    | _ =>
      rw [hvalue] at h
      simpa [Json.normalize] using h
  | _ => cases h

theorem pyFloatFinite_normalize (v : Json) : pyFloatFinite py v.normalize = pyFloatFinite py v := by
  cases v with
  | arr items => rw [Json.normalize]; rfl
  | obj fields => rw [Json.normalize]; rfl
  | num n => cases n <;> simp [Json.normalize]
  | _ => simp [Json.normalize]

/-- All entries of all rows are finite numbers. -/
def FiniteRows (py : PyRuntime) (transform : Json) : Prop :=
  ∃ rows, transform.iterate = .ok rows ∧ ∀ row ∈ rows, ∃ items, row.iterate = .ok items ∧
    ∀ item ∈ items, pyFloatFinite py item = .ok true

theorem finiteRows_iff {transform : Json} : FiniteRows py transform ↔ ∃ rows entries finite,
    transform.iterate = .ok rows ∧ rows.mapM Json.iterate = .ok entries ∧
      entries.flatten.mapM (pyFloatFinite py) = .ok finite ∧ finite.all id = true := by
  constructor
  · rintro ⟨rows, hrows, hall⟩
    refine ⟨rows, _, _, hrows, mapM_eq_ok_iff.mpr ⟨fun row hrow => ?_, rfl⟩, mapM_eq_ok_iff.mpr ⟨?_, rfl⟩, ?_⟩
    · obtain ⟨items, hitems, _⟩ := hall row hrow
      exact ⟨items, hitems⟩
    all_goals
      have hentry : ∀ item ∈ (rows.map fun row => row.iterate.toOption.getD default).flatten,
          pyFloatFinite py item = .ok true := by
        intro item hitem
        obtain ⟨items, hin, hitem⟩ := List.mem_flatten.mp hitem
        obtain ⟨row, hrow, rfl⟩ := List.mem_map.mp hin
        obtain ⟨items, hitems, hfinite⟩ := hall row hrow
        rw [hitems] at hitem
        exact hfinite item hitem
    · exact fun item hitem => ⟨true, hentry item hitem⟩
    · rw [List.all_map, List.all_eq_true]
      intro item hitem
      rw [Function.comp_apply, hentry item hitem]
      rfl
  · rintro ⟨rows, entries, finite, hrows, hentries, hfinite, hall⟩
    obtain ⟨hiterate, rfl⟩ := mapM_eq_ok_iff.mp hentries
    obtain ⟨heach, rfl⟩ := mapM_eq_ok_iff.mp hfinite
    refine ⟨rows, hrows, ?_⟩
    intro row hrow
    obtain ⟨items, hitems⟩ := hiterate row hrow
    refine ⟨items, hitems, ?_⟩
    intro item hitem
    have hin : item ∈ (rows.map fun row => row.iterate.toOption.getD default).flatten := by
      apply List.mem_flatten.mpr
      refine ⟨_, List.mem_map.mpr ⟨row, hrow, rfl⟩, ?_⟩
      rw [hitems]
      exact hitem
    obtain ⟨b, hb⟩ := heach item hin
    rw [List.all_map, List.all_eq_true] at hall
    have htrue := hall item hin
    rw [Function.comp_apply, hb] at htrue
    rw [hb]
    exact congrArg Except.ok htrue

theorem finiteRows_normalize {transform : Json} (h : FiniteRows py transform) : FiniteRows py transform.normalize := by
  obtain ⟨rows, hrows, hall⟩ := h
  obtain ⟨sorted, hsorted, hperm⟩ := Json.iterate_normalize hrows
  refine ⟨sorted, hsorted, ?_⟩
  intro row hrow
  obtain ⟨original, horiginal, rfl⟩ := List.mem_map.mp (hperm.mem_iff.mp hrow)
  obtain ⟨items, hitems, hfinite⟩ := hall original horiginal
  obtain ⟨items', hitems', hperm'⟩ := Json.iterate_normalize hitems
  refine ⟨items', hitems', ?_⟩
  intro item hitem
  obtain ⟨entry, hentry, rfl⟩ := List.mem_map.mp (hperm'.mem_iff.mp hitem)
  rw [pyFloatFinite_normalize]
  exact hfinite entry hentry

theorem pyInt_normalize (v : Json) : pyInt py v.normalize = pyInt py v := by
  cases v with
  | arr items => rw [Json.normalize]; rfl
  | obj fields => rw [Json.normalize]; rfl
  | num n => cases n <;> simp [Json.normalize]
  | _ => simp [Json.normalize]

theorem validateFrame_normalize {frameIds : List Json} {frame : Json} (hd : frame.Distinct) {result : Json × Int}
    (h : validateFrame py assetPaths frameIds frame = .ok result) :
    validateFrame py assetPaths frameIds frame.normalize = .ok result := by
  simp only [validateFrame, bind_eq_ok, orRaise_eq_ok, raiseIf_eq_ok, not_not] at h ⊢
  obtain ⟨missing, hmissing, fields, hfields, _, hnone, frameId, hid, _, hhash, _, hnew, stamp, hstamp, timestamp,
    htimestamp, _, hreferences, intrinsics, hintrinsics, square, hsquare, _, hthree, transform, htransform, four, hfour,
    h⟩ := h
  -- a pose that is not four by four is refused
  cases four with
  | true =>
    simp only [if_true, pure_bind, bind_eq_ok, raiseIf_eq_ok, not_true_eq_false, false_and, exists_false] at h
  | false =>
  simp only [Bool.false_eq_true, if_false, bind_eq_ok, raiseIf_eq_ok, not_not] at h
  obtain ⟨invalid, hinvalid, _, hpose, rows, hrows, entries, hentries, finite, hfinite, _, hall, hresult⟩ := h
  cases frame with
  | obj own =>
    cases hfields
    obtain ⟨sorted, hsorted, _⟩ := Json.sortedFields_eq fields
    have hfinite' := finiteRows_normalize (finiteRows_iff.mpr ⟨rows, entries, finite, hrows, hentries, hfinite, hall⟩)
    obtain ⟨rows', entries', finite', hrows', hentries', hfinite', hall'⟩ := finiteRows_iff.mp hfinite'
    refine ⟨missing, missingKeys_normalize hd hmissing, sorted, by rw [hsorted]; rfl, (), hnone, frameId, ?_, (), hhash, (),
      hnew, stamp.normalize, Json.item_normalize hd hstamp, timestamp, ?_, (), ?_, intrinsics.normalize,
      Json.item_normalize hd hintrinsics, square, notSquare_normalize hsquare, (), hthree, transform.normalize,
      Json.item_normalize hd htransform, false, notSquare_normalize hfour, ?_⟩
    · have hsame := Json.item_normalize hd hid
      rwa [Json.normalize_of_hashable hhash] at hsame
    · rw [pyInt_normalize]
      exact htimestamp
    · rw [forM_eq_ok] at hreferences ⊢
      exact fun key hkey => checkFrameReference_normalize rfl hd hsorted (hreferences key hkey)
    · simp only [Bool.false_eq_true, if_false, bind_eq_ok, raiseIf_eq_ok, not_not]
      exact ⟨invalid, notHomogeneous_normalize hinvalid, (), hpose, rows', hrows', entries', hentries', finite', hfinite', (),
        hall', hresult⟩
  | _ => cases hfields

theorem frameTimestamps_normalize {frameIds frames : List Json} (hd : ∀ frame ∈ frames, frame.Distinct)
    {timestamps : List Int} (h : frameTimestamps py assetPaths frameIds frames = .ok timestamps) :
    frameTimestamps py assetPaths frameIds (frames.map Json.normalize) = .ok timestamps := by
  induction frames generalizing frameIds timestamps with
  | nil => exact h
  | cons frame frames ih =>
    simp only [frameTimestamps, List.map_cons, bind_eq_ok] at h ⊢
    obtain ⟨⟨frameId, timestamp⟩, hframe, rest, hrest, h⟩ := h
    have hframe' := validateFrame_normalize (hd frame List.mem_cons_self) hframe
    have hrest' := ih (fun f hf => hd f (List.mem_cons_of_mem _ hf)) hrest
    exact ⟨(frameId, timestamp), hframe', rest, hrest', h⟩

/-- Sorting the keys of valid frames leaves them valid. -/
theorem validateFrames_normalize {frames : List Json} (hd : ∀ frame ∈ frames, frame.Distinct)
    (h : validateFrames py frames assetPaths = .ok ()) :
    validateFrames py (frames.map Json.normalize) assetPaths = .ok () := by
  simp only [validateFrames, bind_eq_ok] at h ⊢
  obtain ⟨timestamps, htimestamps, hincreasing⟩ := h
  exact ⟨timestamps, frameTimestamps_normalize hd htimestamps, hincreasing⟩

end Frames

end CapturePackage
end Sip
