import Sip.Capture.Package

/-!
# What a Merkle root determines

The root determines the paths with their digests, unless two different texts that were
hashed have one digest: a leaf has a zero character in it and an inner node has not, so
neither can be taken for the other. An odd level is closed with its last node again, so
the root does not determine how often a path is listed.
-/

namespace Sip

set_option autoImplicit false

def leafBytes (entry : String × String) : Bytes := utf8 (entry.1.toList ++ '\x00' :: entry.2.toList)

/-- What is hashed for one level above the given one. -/
def innerBytes : List String → List Bytes
  | [] => []
  | [a] => [utf8 (a ++ a).toList]
  | a :: b :: rest => utf8 (a ++ b).toList :: innerBytes rest

theorem merkleLevel_eq (nodes : List String) : merkleLevel nodes = (innerBytes nodes).map sha256Hex := by
  fun_induction merkleLevel nodes with
  | case1 => rfl
  | case2 a => rfl
  | case3 a b rest ih => rw [innerBytes, List.map_cons, ih]

/-- What is hashed for all levels above the given one. -/
def treeBytes : List String → List Bytes
  | [] => []
  | [_] => []
  | a :: b :: rest => innerBytes (a :: b :: rest) ++ treeBytes (merkleLevel (a :: b :: rest))
termination_by nodes => nodes.length
decreasing_by
  have := length_merkleLevel_le rest
  simp only [merkleLevel, List.length_cons]
  omega

/-- What is hashed for the root. -/
def merkleBytes (entries : List (String × String)) : List Bytes :=
  if entries = [] then [[]]
  else (sortBy toLex entries).map leafBytes ++ treeBytes ((sortBy toLex entries).map fun entry => sha256Hex (leafBytes entry))

theorem merkleRoot_eq (entries : List (String × String)) :
    merkleRoot entries = merkleFold (((sortBy toLex entries).map leafBytes).map sha256Hex) := by
  rw [merkleRoot, List.map_map]
  rfl

theorem exists_of_mem_innerBytes {nodes : List String} {u : Bytes} (h : u ∈ innerBytes nodes) :
    ∃ a ∈ nodes, ∃ b ∈ nodes, u = utf8 (a ++ b).toList := by
  fun_induction innerBytes nodes with
  | case1 => cases h
  | case2 a =>
    have ha : a ∈ [a] := List.mem_cons_self
    exact ⟨a, ha, a, ha, List.mem_singleton.mp h⟩
  | case3 a b rest ih =>
    rcases List.mem_cons.mp h with rfl | h
    · exact ⟨a, List.mem_cons_self, b, List.mem_cons_of_mem _ List.mem_cons_self, rfl⟩
    · obtain ⟨c, hc, d, hd, hu⟩ := ih h
      exact ⟨c, by simp [hc], d, by simp [hd], hu⟩

/-- Every node is one half of what is hashed for its parent. -/
theorem exists_innerBytes_of_mem {nodes : List String} {d : String} (h : d ∈ nodes) :
    ∃ e ∈ nodes, utf8 (d ++ e).toList ∈ innerBytes nodes ∨ utf8 (e ++ d).toList ∈ innerBytes nodes := by
  fun_induction innerBytes nodes with
  | case1 => cases h
  | case2 a =>
    cases List.mem_singleton.mp h
    exact ⟨d, h, .inl List.mem_cons_self⟩
  | case3 a b rest ih =>
    rcases List.mem_cons.mp h with rfl | h
    · exact ⟨b, by simp, .inl List.mem_cons_self⟩
    rcases List.mem_cons.mp h with rfl | h
    · exact ⟨a, by simp, .inr List.mem_cons_self⟩
    · obtain ⟨e, he, hmem⟩ := ih h
      exact ⟨e, by simp [he], hmem.imp (List.mem_cons_of_mem _) (List.mem_cons_of_mem _)⟩

/-- The two halves of what is hashed for an inner node are nodes themselves. -/
theorem exists_of_mem_treeBytes {nodes : List String} {u : Bytes} (h : u ∈ treeBytes nodes) :
    ∃ a b, u = utf8 (a ++ b).toList ∧ (a ∈ nodes ∨ ∃ v ∈ treeBytes nodes, sha256Hex v = a) ∧
      (b ∈ nodes ∨ ∃ v ∈ treeBytes nodes, sha256Hex v = b) := by
  fun_induction treeBytes nodes with
  | case1 => cases h
  | case2 a => cases h
  | case3 a b rest ih =>
    rcases List.mem_append.mp h with h | h
    · obtain ⟨c, hc, d, hd, hu⟩ := exists_of_mem_innerBytes h
      exact ⟨c, d, hu, .inl hc, .inl hd⟩
    · obtain ⟨c, d, hu, hc, hd⟩ := ih h
      have hlift : ∀ e, (e ∈ merkleLevel (a :: b :: rest) ∨ ∃ v ∈ treeBytes (merkleLevel (a :: b :: rest)), sha256Hex v = e) →
          ∃ v ∈ innerBytes (a :: b :: rest) ++ treeBytes (merkleLevel (a :: b :: rest)), sha256Hex v = e := by
        rintro e (he | ⟨v, hv, hve⟩)
        · rw [merkleLevel_eq] at he
          obtain ⟨v, hv, hve⟩ := List.mem_map.mp he
          exact ⟨v, List.mem_append_left _ hv, hve⟩
        · exact ⟨v, List.mem_append_right _ hv, hve⟩
      exact ⟨c, d, hu, .inr (hlift c hc), .inr (hlift d hd)⟩

theorem halves_eq {a b c d : String} (ha : isDigest a = true) (hc : isDigest c = true)
    (h : utf8 (a ++ b).toList = utf8 (c ++ d).toList) : a = c ∧ b = d := by
  simp only [isDigest, decide_eq_true_eq] at ha hc
  have hchars := utf8_injective h
  rw [String.toList_append, String.toList_append] at hchars
  obtain ⟨hac, hbd⟩ := List.append_inj hchars (by rw [ha.1, hc.1])
  exact ⟨String.toList_inj.mp hac, String.toList_inj.mp hbd⟩

theorem zero_not_mem_digest {a : String} (ha : isDigest a = true) : '\x00' ∉ a.toList := by
  simp only [isDigest, decide_eq_true_eq] at ha
  intro hzero
  have h := List.all_eq_true.mp ha.2 _ hzero
  revert h
  decide

theorem leafBytes_ne_inner {entry : String × String} {a b : String} (ha : isDigest a = true) (hb : isDigest b = true) :
    leafBytes entry ≠ utf8 (a ++ b).toList := by
  intro h
  have hchars := utf8_injective h
  have hzero : '\x00' ∈ (a ++ b).toList := by
    rw [← hchars]
    simp
  rw [String.toList_append, List.mem_append] at hzero
  rcases hzero with hzero | hzero
  · exact zero_not_mem_digest ha hzero
  · exact zero_not_mem_digest hb hzero

/-- A set of texts with the two halves of every inner node it holds. -/
def ClosedUnderHalves (S : Bytes → Prop) : Prop :=
  ∀ a b, isDigest a = true → isDigest b = true → S (utf8 (a ++ b).toList) →
    (∃ v, S v ∧ sha256Hex v = a) ∧ ∃ w, S w ∧ sha256Hex w = b

/-- From the root down: where nothing collides, a closed set with the root in it has all leaves in it. -/
theorem mem_of_merkleFold {S : Bytes → Prop} (hclosed : ClosedUnderHalves S) {nodes : List String} {leaves : List Bytes}
    (hnodes : nodes = leaves.map sha256Hex)
    (hapart : ∀ u ∈ leaves ++ treeBytes nodes, ∀ v, S v → sha256Hex u = sha256Hex v → u = v)
    {root : Bytes} (hroot : S root) (hfold : sha256Hex root = merkleFold nodes) : ∀ u ∈ leaves, S u := by
  fun_induction merkleFold nodes generalizing leaves with
  | case1 =>
    intro u hu
    cases leaves with
    | nil => cases hu
    | cons v leaves => cases hnodes
  | case2 node =>
    intro u hu
    have hu' : sha256Hex u = node := by
      have hmem : sha256Hex u ∈ [node] := by
        rw [hnodes]
        exact List.mem_map_of_mem hu
      exact List.mem_singleton.mp hmem
    rw [hapart u (List.mem_append_left _ hu) root hroot (by rw [hu', hfold])]
    exact hroot
  | case3 a b rest ih =>
    intro u hu
    rw [treeBytes] at hapart
    have hinner : ∀ u ∈ innerBytes (a :: b :: rest), S u := by
      apply ih (merkleLevel_eq _) _ hfold
      intro u hu
      exact hapart u (List.mem_append_right _ hu)
    have hmem : sha256Hex u ∈ a :: b :: rest := by
      rw [hnodes]
      exact List.mem_map_of_mem hu
    have hdigest : ∀ d ∈ a :: b :: rest, isDigest d = true := by
      intro d hd
      rw [hnodes] at hd
      obtain ⟨w, _, rfl⟩ := List.mem_map.mp hd
      exact isDigest_sha256Hex w
    obtain ⟨e, he, hpair⟩ := exists_innerBytes_of_mem hmem
    obtain ⟨v, hv, heq⟩ : ∃ v, S v ∧ sha256Hex v = sha256Hex u := by
      rcases hpair with hpair | hpair
      · exact (hclosed _ _ (hdigest _ hmem) (hdigest _ he) (hinner _ hpair)).1
      · exact (hclosed _ _ (hdigest _ he) (hdigest _ hmem) (hinner _ hpair)).2
    rw [hapart u (List.mem_append_left _ hu) v hv heq.symm]
    exact hv

theorem isDigest_of_mem_leaves {entries : List (String × String)} {d : String}
    (h : d ∈ entries.map fun entry => sha256Hex (leafBytes entry)) : isDigest d = true := by
  obtain ⟨entry, _, rfl⟩ := List.mem_map.mp h
  exact isDigest_sha256Hex _

/-- What is hashed for an inner node: two digests, each of something hashed. -/
theorem exists_halves_of_mem {entries : List (String × String)} {u : Bytes} (hne : entries ≠ [])
    (h : u ∈ treeBytes ((sortBy toLex entries).map fun entry => sha256Hex (leafBytes entry))) :
    ∃ v ∈ merkleBytes entries, ∃ w ∈ merkleBytes entries, u = utf8 (sha256Hex v ++ sha256Hex w).toList := by
  obtain ⟨a, b, rfl, ha, hb⟩ := exists_of_mem_treeBytes h
  have hlift : ∀ e, (e ∈ (sortBy toLex entries).map (fun entry => sha256Hex (leafBytes entry)) ∨
      ∃ v ∈ treeBytes ((sortBy toLex entries).map fun entry => sha256Hex (leafBytes entry)), sha256Hex v = e) →
      ∃ v ∈ merkleBytes entries, sha256Hex v = e := by
    rw [merkleBytes, if_neg hne]
    rintro e (he | ⟨v, hv, hve⟩)
    · obtain ⟨entry, hentry, rfl⟩ := List.mem_map.mp he
      exact ⟨leafBytes entry, List.mem_append_left _ (List.mem_map_of_mem hentry), rfl⟩
    · exact ⟨v, List.mem_append_right _ hv, hve⟩
  obtain ⟨v, hv, rfl⟩ := hlift a ha
  obtain ⟨w, hw, rfl⟩ := hlift b hb
  exact ⟨v, hv, w, hw, rfl⟩

theorem closed_merkleBytes (entries : List (String × String)) : ClosedUnderHalves (· ∈ merkleBytes entries) := by
  intro a b ha hb hmem
  by_cases hne : entries = []
  · simp only [merkleBytes, if_pos hne, List.mem_singleton] at hmem
    have hchars := utf8_injective (hmem.trans (show ([] : Bytes) = utf8 [] from rfl))
    simp only [isDigest, decide_eq_true_eq] at ha
    have hlength := congrArg List.length hchars
    rw [String.toList_append, List.length_append, ha.1] at hlength
    simp at hlength
  · have hsplit := hmem
    simp only [merkleBytes, if_neg hne, List.mem_append] at hsplit
    rcases hsplit with hleaf | hinner
    · obtain ⟨entry, _, heq⟩ := List.mem_map.mp hleaf
      exact absurd heq (leafBytes_ne_inner ha hb)
    · obtain ⟨v, hv, w, hw, heq⟩ := exists_halves_of_mem hne hinner
      obtain ⟨rfl, rfl⟩ := halves_eq ha (isDigest_sha256Hex v) heq
      exact ⟨⟨v, hv, rfl⟩, w, hw, rfl⟩

/-- The root is the digest of something hashed. -/
theorem exists_merkleFold {nodes : List String} {leaves : List Bytes} (hnodes : nodes = leaves.map sha256Hex)
    (hne : leaves ≠ []) {root : String} (hroot : root = merkleFold nodes) :
    ∃ v ∈ leaves ++ treeBytes nodes, sha256Hex v = root := by
  fun_induction merkleFold nodes generalizing leaves with
  | case1 => exact absurd (List.map_eq_nil_iff.mp hnodes.symm) hne
  | case2 node =>
    obtain ⟨u, hu⟩ := List.exists_mem_of_ne_nil leaves hne
    have hmem : sha256Hex u ∈ [node] := by
      rw [hnodes]
      exact List.mem_map_of_mem hu
    exact ⟨u, List.mem_append_left _ hu, (List.mem_singleton.mp hmem).trans hroot.symm⟩
  | case3 a b rest ih =>
    obtain ⟨v, hv, heq⟩ := ih (merkleLevel_eq _) (by simp [innerBytes]) hroot
    rw [treeBytes]
    exact ⟨v, List.mem_append_right _ hv, heq⟩

theorem merkleRoot_nil : merkleRoot [] = sha256Hex [] := by
  unfold merkleRoot merkleFold
  exact Eq.refl _

theorem exists_merkleRoot (entries : List (String × String)) : ∃ v ∈ merkleBytes entries, sha256Hex v = merkleRoot entries := by
  by_cases hne : entries = []
  · subst hne
    refine ⟨[], ?_, merkleRoot_nil.symm⟩
    rw [merkleBytes, if_pos rfl]
    exact List.mem_singleton_self _
  · have hsorted : (sortBy toLex entries).map leafBytes ≠ [] := by
      rw [Ne, List.map_eq_nil_iff, ← List.length_eq_zero_iff, length_sortBy, List.length_eq_zero_iff]
      exact hne
    obtain ⟨v, hv, heq⟩ := exists_merkleFold rfl hsorted (merkleRoot_eq entries)
    refine ⟨v, ?_, heq⟩
    rw [merkleBytes, if_neg hne]
    rw [List.map_map] at hv
    exact hv

/-- Two lists of entries with one root have the same leaves, or something hashed for them collides. -/
theorem leaf_of_merkleRoot_eq {xs ys : List (String × String)} (hroot : merkleRoot xs = merkleRoot ys)
    (hapart : ∀ u ∈ merkleBytes xs, ∀ v ∈ merkleBytes ys, sha256Hex u = sha256Hex v → u = v) {entry : String × String}
    (hentry : entry ∈ xs) : ∃ other ∈ ys, leafBytes entry = leafBytes other := by
  have hne : xs ≠ [] := List.ne_nil_of_mem hentry
  obtain ⟨root, hrootmem, hrooteq⟩ := exists_merkleRoot ys
  have hleaves : ∀ u ∈ (sortBy toLex xs).map leafBytes, u ∈ merkleBytes ys := by
    apply mem_of_merkleFold (closed_merkleBytes ys) rfl _ hrootmem
    · rw [hrooteq, ← hroot, merkleRoot_eq]
    · intro u hu v hv heq
      apply hapart u _ v hv heq
      rw [merkleBytes, if_neg hne]
      rw [List.map_map] at hu
      exact hu
  have hmem := hleaves (leafBytes entry) (List.mem_map_of_mem (mem_sortBy.mpr hentry))
  by_cases hys : ys = []
  · simp only [merkleBytes, if_pos hys, List.mem_singleton] at hmem
    have hchars := utf8_injective (hmem.trans (show ([] : Bytes) = utf8 [] from rfl))
    simp at hchars
  · have hsplit := hmem
    simp only [merkleBytes, if_neg hys, List.mem_append] at hsplit
    rcases hsplit with hleaf | hinner
    · obtain ⟨other, hother, heq⟩ := List.mem_map.mp hleaf
      exact ⟨other, mem_sortBy.mp hother, heq.symm⟩
    · obtain ⟨v, _, w, _, heq⟩ := exists_halves_of_mem hys hinner
      exact absurd heq (leafBytes_ne_inner (isDigest_sha256Hex v) (isDigest_sha256Hex w))

theorem leafBytes_injective {p q d e : String} (hd : '\x00' ∉ d.toList) (he : '\x00' ∉ e.toList)
    (h : leafBytes (p, d) = leafBytes (q, e)) : p = q ∧ d = e := by
  have hchars : p.toList ++ '\x00' :: d.toList = q.toList ++ '\x00' :: e.toList := utf8_injective h
  -- the zero before the digest is the last one
  have hsplit : ∀ {p q d e : List Char}, '\x00' ∉ d → p ++ '\x00' :: d = q ++ '\x00' :: e → q.length ≤ p.length := by
    intro p q d e hd h
    by_contra hlt
    rw [not_le] at hlt
    have hlonger : p ++ ['\x00'] <+: q ++ '\x00' :: e := by
      rw [← h]
      exact ⟨d, by simp⟩
    have hstart : p ++ ['\x00'] <+: q := by
      apply List.prefix_of_prefix_length_le hlonger (List.prefix_append q _)
      rw [List.length_append, List.length_singleton]
      exact hlt
    obtain ⟨rest, rfl⟩ := hstart
    rw [List.append_assoc, List.append_assoc, List.append_cancel_left_eq] at h
    apply hd
    rw [List.cons.inj h |>.2]
    simp
  have hlength : p.toList.length = q.toList.length :=
    le_antisymm (hsplit he hchars.symm) (hsplit hd hchars)
  obtain ⟨hp, hrest⟩ := List.append_inj hchars hlength
  exact ⟨String.toList_inj.mp hp, String.toList_inj.mp (List.cons.inj hrest).2⟩

/-- A SHA-256 digest in hexadecimal digits, in small or capital letters. -/
def IsHexDigest (text : String) : Prop :=
  text.toList.length = 64 ∧ ∀ c ∈ text.toList, ('0' ≤ c ∧ c ≤ '9') ∨ ('a' ≤ c ∧ c ≤ 'f') ∨ ('A' ≤ c ∧ c ≤ 'F')

theorem IsHexDigest.zero_not_mem {text : String} (h : IsHexDigest text) : '\x00' ∉ text.toList := by
  intro hzero
  rcases h.2 _ hzero with hdigit | hsmall | hcapital
  · exact absurd hdigit.1 (by decide)
  · exact absurd hsmall.1 (by decide)
  · exact absurd hcapital.1 (by decide)

theorem mem_of_merkleRoot_eq {xs ys : List (String × String)} (hx : ∀ entry ∈ xs, IsHexDigest entry.2)
    (hy : ∀ entry ∈ ys, IsHexDigest entry.2) (hroot : merkleRoot xs = merkleRoot ys)
    (hapart : ∀ u ∈ merkleBytes xs, ∀ v ∈ merkleBytes ys, sha256Hex u = sha256Hex v → u = v) {entry : String × String}
    (hentry : entry ∈ xs) : entry ∈ ys := by
  obtain ⟨other, hother, hleaf⟩ := leaf_of_merkleRoot_eq hroot hapart hentry
  obtain ⟨hpath, hdigest⟩ := leafBytes_injective (hx entry hentry).zero_not_mem (hy other hother).zero_not_mem hleaf
  have hsame : entry = other := Prod.ext hpath hdigest
  rwa [hsame]

/-- Entries with distinct paths have a root of their own, or two of the texts that are hashed for the roots collide. -/
theorem merkleRoot_determines_entries (xs ys : List (String × String)) (hx : (xs.map Prod.fst).Nodup)
    (hy : (ys.map Prod.fst).Nodup) (hdx : ∀ entry ∈ xs, IsHexDigest entry.2) (hdy : ∀ entry ∈ ys, IsHexDigest entry.2)
    (hroot : merkleRoot xs = merkleRoot ys) :
    xs.Perm ys ∨ ∃ u ∈ merkleBytes xs, ∃ v ∈ merkleBytes ys, Sha256Collision u v := by
  by_cases hcollision : ∃ u ∈ merkleBytes xs, ∃ v ∈ merkleBytes ys, Sha256Collision u v
  · exact .inr hcollision
  · left
    have hapart : ∀ u ∈ merkleBytes xs, ∀ v ∈ merkleBytes ys, sha256Hex u = sha256Hex v → u = v := by
      intro u hu v hv hsame
      by_contra hne
      exact hcollision ⟨u, hu, v, hv, hne, hex_injective hsame⟩
    apply (List.perm_ext_iff_of_nodup hx.of_map hy.of_map).mpr
    intro entry
    constructor
    · exact mem_of_merkleRoot_eq hdx hdy hroot hapart
    · exact mem_of_merkleRoot_eq hdy hdx hroot.symm fun u hu v hv hsame => (hapart v hv u hu hsame.symm).symm

/-- Of one entry and itself. -/
theorem merkleRoot_determines_entries_single :
    let digest := String.ofList (List.replicate 64 'a')
    [("a.txt", digest)].Perm [("a.txt", digest)] ∨
      ∃ u ∈ merkleBytes [("a.txt", digest)], ∃ v ∈ merkleBytes [("a.txt", digest)], Sha256Collision u v := by
  intro digest
  have hdigest : IsHexDigest digest := by
    simp only [digest, IsHexDigest, String.toList_ofList, List.length_replicate, List.mem_replicate, true_and]
    rintro c ⟨_, rfl⟩
    decide
  have hall : ∀ entry ∈ [("a.txt", digest)], IsHexDigest entry.2 := by
    intro entry hentry
    rw [List.mem_singleton.mp hentry]
    exact hdigest
  exact merkleRoot_determines_entries _ _ (List.nodup_singleton _) (List.nodup_singleton _) hall hall rfl

end Sip
