import Mathlib.Data.List.Infix
import Sip.Preservation.Archive

/-!
# Unpacking an ordinary archive

The files of a directory whose paths have no dots, blanks or separators in their parts,
packed one after another. Such an archive passes the checks of `_safe_extract_zip`
exactly when its sizes do, and unpacking it gives the files back.
-/

namespace Sip
namespace Preservation

set_option autoImplicit false
open CapturePackage (pathParts)

section Paths

/-- A part of a path that names one file or directory. -/
structure PlainPart (part : String) : Prop where
  ne_empty : part ≠ ""
  ne_dot : part ≠ "."
  ne_parent : part ≠ ".."
  no_slash : '/' ∉ part.toList
  no_zero : '\x00' ∉ part.toList

structure PlainPath (parts : List String) : Prop where
  ne_nil : parts ≠ []
  plain : ∀ part ∈ parts, PlainPart part

/-- `str(path)`. -/
def joinPath (parts : List String) : String := String.ofList (['/'].intercalate (parts.map String.toList))

variable {parts : List String}

theorem PlainPath.parent_not_mem (h : PlainPath parts) : ".." ∉ parts :=
  fun hmem => (h.plain ".." hmem).ne_parent rfl

theorem pathParts_joinPath (h : PlainPath parts) : pathParts (joinPath parts) = parts := by
  have hsplit : (['/'].intercalate (parts.map String.toList)).splitOn '/' = parts.map String.toList := by
    apply List.splitOn_intercalate
    · intro l hl
      obtain ⟨part, hpart, rfl⟩ := List.mem_map.mp hl
      exact (h.plain part hpart).no_slash
    · simpa using h.ne_nil
  rw [pathParts, joinPath, String.toList_ofList, hsplit, List.map_map]
  have hid : parts.map (String.ofList ∘ String.toList) = parts := by simp
  rw [hid, List.filter_eq_self]
  intro part hpart
  have hplain := h.plain part hpart
  simp [hplain.ne_empty, hplain.ne_dot]

theorem mem_intercalate {c : Char} {ls : List (List Char)} (h : c ∈ ['/'].intercalate ls) : c = '/' ∨ ∃ l ∈ ls, c ∈ l := by
  induction ls with
  | nil => simp at h
  | cons l ls ih =>
    cases ls with
    | nil =>
      rw [List.intercalate_singleton] at h
      exact .inr ⟨l, List.mem_cons_self, h⟩
    | cons m ls =>
      rw [List.intercalate_cons_cons] at h
      simp only [List.mem_append, List.mem_singleton] at h
      rcases h with (h | h) | h
      · exact .inr ⟨l, List.mem_cons_self, h⟩
      · exact .inl h
      · rcases ih h with h | ⟨k, hk, hc⟩
        · exact .inl h
        · exact .inr ⟨k, List.mem_cons_of_mem _ hk, hc⟩

theorem zero_not_mem_joinPath (h : PlainPath parts) : '\x00' ∉ (joinPath parts).toList := by
  rw [joinPath, String.toList_ofList]
  intro hmem
  rcases mem_intercalate hmem with heq | ⟨l, hl, hc⟩
  · exact absurd heq (by decide)
  · obtain ⟨part, hpart, rfl⟩ := List.mem_map.mp hl
    exact (h.plain part hpart).no_zero hc

theorem walk_plain (stack : List String) (h : ".." ∉ parts) : walk stack parts = some (stack.reverse ++ parts) := by
  induction parts generalizing stack with
  | nil => rw [walk, List.append_nil]
  | cons part parts ih =>
    have hpart : part ≠ ".." := fun heq => h (heq ▸ List.mem_cons_self)
    have hstep : walk stack (part :: parts) = walk (part :: stack) parts := by
      cases stack <;> rw [walk, if_neg hpart]
    rw [hstep, ih _ fun hmem => h (List.mem_cons_of_mem _ hmem), List.reverse_cons, List.append_assoc]
    rfl

/-- On the way to a plain path lie its proper prefixes. -/
theorem prefix_of_mem_passed {stack dir : List String} (h : ".." ∉ parts) (hdir : dir ∈ passed stack parts) :
    dir <+: stack.reverse ++ parts ∧ dir ≠ stack.reverse ++ parts := by
  induction parts generalizing stack with
  | nil => cases hdir
  | cons part parts ih =>
    have hpart : part ≠ ".." := fun heq => h (heq ▸ List.mem_cons_self)
    rw [passed, if_neg hpart] at hdir
    rcases List.mem_cons.mp hdir with rfl | hdir
    · refine ⟨List.prefix_append _ _, ?_⟩
      intro heq
      have hlength := congrArg List.length heq
      rw [List.length_append, List.length_cons] at hlength
      omega
    · have hrest := ih (fun hmem => h (List.mem_cons_of_mem _ hmem)) hdir
      rwa [List.reverse_cons, List.append_assoc] at hrest

theorem head?_joinPath (h : PlainPath parts) : (joinPath parts).toList.head? ≠ some '/' := by
  obtain ⟨part, rest, rfl⟩ := List.exists_cons_of_ne_nil h.ne_nil
  have hplain := h.plain part List.mem_cons_self
  have hne : part.toList ≠ [] := by
    intro heq
    exact hplain.ne_empty (String.toList_eq_nil_iff.mp heq)
  rw [joinPath, String.toList_ofList, List.map_cons]
  have hhead : (['/'].intercalate (part.toList :: rest.map String.toList)).head? = part.toList.head? := by
    cases rest with
    | nil => rw [List.map_nil, List.intercalate_singleton]
    | cons next rest =>
      rw [List.map_cons, List.intercalate_cons_cons, List.append_assoc, List.head?_append_of_ne_nil _ hne]
  rw [hhead]
  intro heq
  exact hplain.no_slash (List.mem_of_mem_head? heq)

theorem getLast?_joinPath (h : PlainPath parts) : (joinPath parts).toList.getLast? ≠ some '/' := by
  obtain ⟨front, part, rfl⟩ := List.eq_nil_or_concat' parts |>.resolve_left h.ne_nil
  have hplain := h.plain part (by simp)
  have hne : part.toList ≠ [] := by
    intro heq
    exact hplain.ne_empty (String.toList_eq_nil_iff.mp heq)
  have hlast : ∀ ls : List (List Char), (['/'].intercalate (ls ++ [part.toList])).getLast? = part.toList.getLast? := by
    intro ls
    induction ls with
    | nil => rw [List.nil_append, List.intercalate_singleton]
    | cons l ls ih =>
      obtain ⟨m, ms, hms⟩ := List.exists_cons_of_ne_nil (l := ls ++ [part.toList]) (by simp)
      have htail : ['/'].intercalate (ls ++ [part.toList]) ≠ [] := by
        intro hnil
        rw [hnil] at ih
        exact hne (List.getLast?_eq_none_iff.mp ih.symm)
      rw [List.cons_append, hms, List.intercalate_cons_cons, ← hms, List.getLast?_append_of_ne_nil _ htail, ih]
  rw [joinPath, String.toList_ofList, List.map_append, List.map_singleton, hlast]
  intro heq
  exact hplain.no_slash (List.mem_of_getLast? heq)

theorem joinPath_injective {others : List String} (h : PlainPath parts) (h' : PlainPath others)
    (heq : joinPath parts = joinPath others) : parts = others := by
  rw [← pathParts_joinPath h, heq, pathParts_joinPath h']

end Paths

section Sizes

/-- An archive of plain files, each with the size that packing leaves of it. -/
def zipEntry (compressSize : Bytes → Nat) (file : List String × Bytes) : ZipEntry where
  filename := joinPath file.1
  fileSize := file.2.length
  compressSize := compressSize file.2
  content := some file.2

/-- What `_safe_extract_zip` asks of one file. -/
def SafeSize (compressSize : Bytes → Nat) (data : Bytes) : Prop :=
  data.length ≤ maxEntryBytes ∧ (compressSize data = 0 ∨ data.length ≤ maxRatio * compressSize data)

def totalBytes (files : List (List String × Bytes)) : Nat := (files.map fun file => file.2.length).sum

variable {compressSize : Bytes → Nat} {files : List (List String × Bytes)}

theorem escapes_joinPath {parts : List String} (h : PlainPath parts) : escapes (joinPath parts) = false := by
  simp [escapes, head?_joinPath h, pathParts_joinPath h, walk_plain [] h.parent_not_mem]

/-- The checks pass exactly when all sizes do. -/
theorem checkEntries_iff (compressSize : Bytes → Nat) {total : Nat} (htotal : total ≤ maxTotalBytes)
    (hplain : ∀ file ∈ files, PlainPath file.1) :
    checkEntries total (files.map (zipEntry compressSize)) = .ok () ↔
      (∀ file ∈ files, SafeSize compressSize file.2) ∧ total + totalBytes files ≤ maxTotalBytes := by
  induction files generalizing total with
  | nil => simpa [checkEntries, totalBytes] using htotal
  | cons file files ih =>
    have hescapes := escapes_joinPath (hplain file List.mem_cons_self)
    have hrest := fun (t : Nat) (ht : t ≤ maxTotalBytes) => ih ht fun f hf => hplain f (List.mem_cons_of_mem _ hf)
    have hsum : totalBytes (file :: files) = file.2.length + totalBytes files := by
      rw [totalBytes, List.map_cons, List.sum_cons, totalBytes]
    simp only [List.map_cons, checkEntries, zipEntry, bind_eq_ok, raiseIf_eq_ok, hescapes, List.forall_mem_cons, hsum]
    constructor
    · rintro ⟨_, _, _, hentry, _, hwhole, _, hratio, h⟩
      have hsizes := (hrest _ (by omega)).mp h
      refine ⟨⟨⟨by omega, ?_⟩, hsizes.1⟩, by omega⟩
      by_cases hzero : compressSize file.2 = 0
      · exact .inl hzero
      · exact .inr (by omega)
    · rintro ⟨⟨⟨hentry, hratio⟩, hsizes⟩, hwhole⟩
      refine ⟨(), by simp, (), by omega, (), by omega, (), ?_, (hrest _ (by omega)).mpr ⟨hsizes, by omega⟩⟩
      rintro ⟨hne, hlt⟩
      rcases hratio with hratio | hratio
      · exact hne hratio
      · omega

end Sizes

section Extraction

/-- Files with paths of their own, none of them a directory of another. -/
structure Layout (files : List (List String × Bytes)) : Prop where
  plain : ∀ file ∈ files, PlainPath file.1
  nodup : (files.map Prod.fst).Nodup
  flat : ∀ file ∈ files, ∀ other ∈ files, file.1 <+: other.1 → file.1 = other.1

/-- The tree holds these files and the directories above them. -/
structure Holds (files : List (List String × Bytes)) (t : Tree) : Prop where
  files_eq : ∀ path, t.file? path = files.lookup path
  dirs_iff : ∀ dir, dir ∈ t.dirs ↔ dir ≠ [] ∧ ∃ file ∈ files, dir <+: file.1 ∧ dir ≠ file.1

variable {compressSize : Bytes → Nat} {files : List (List String × Bytes)}

theorem getInfo_of_mem (h : Layout files) {file : List String × Bytes} (hfile : file ∈ files) :
    getInfo (files.map (zipEntry compressSize)) (joinPath file.1) = some (zipEntry compressSize file) := by
  have hmem : zipEntry compressSize file ∈ (files.map (zipEntry compressSize)).reverse :=
    List.mem_reverse.mpr (List.mem_map_of_mem hfile)
  cases hfind : getInfo (files.map (zipEntry compressSize)) (joinPath file.1) with
  | none =>
    have hnone := List.find?_eq_none.mp hfind _ hmem
    simp [zipEntry] at hnone
  | some entry =>
    have hname : entry.filename = joinPath file.1 := by simpa using List.find?_some hfind
    obtain ⟨other, hother, rfl⟩ := List.mem_map.mp (List.mem_reverse.mp (List.mem_of_find?_eq_some hfind))
    have hpath := joinPath_injective (h.plain other hother) (h.plain file hfile) hname
    rw [List.inj_on_of_nodup_map h.nodup hother hfile hpath]

theorem mem_inits_dropLast {path dir : List String} (hpath : path ≠ []) :
    dir ∈ path.dropLast.inits.filter (fun p => p ≠ []) ↔ dir ≠ [] ∧ dir <+: path ∧ dir ≠ path := by
  rw [List.mem_filter, List.mem_inits]
  constructor
  · rintro ⟨hstart, hne⟩
    refine ⟨by simpa using hne, hstart.trans (List.dropLast_prefix path), ?_⟩
    rintro rfl
    have hlength := hstart.length_le
    rw [List.length_dropLast] at hlength
    have := List.length_pos_iff.mpr hpath
    omega
  · rintro ⟨hne, hstart, hproper⟩
    refine ⟨?_, by simpa using hne⟩
    apply List.prefix_of_prefix_length_le hstart (List.dropLast_prefix path)
    have hlength := hstart.length_le
    have hshort : dir.length ≠ path.length := fun heq => hproper (hstart.eq_of_length heq)
    rw [List.length_dropLast]
    omega

theorem lookup_append_of_not_mem {done : List (List String × Bytes)} {file : List String × Bytes} (path : List String)
    (h : file.1 ∉ done.map Prod.fst) :
    (done ++ [file]).lookup path = if path = file.1 then some file.2 else done.lookup path := by
  induction done with
  | nil =>
    rw [List.nil_append, List.lookup_cons]
    by_cases heq : path = file.1
    · simp [heq]
    · have hne : (path == file.1) = false := by simpa using heq
      simp [hne, heq]
  | cons other done ih =>
    obtain ⟨q, d⟩ := other
    rw [List.map_cons, List.mem_cons, not_or] at h
    rw [List.cons_append, List.lookup_cons, List.lookup_cons, ih h.2]
    cases hq : path == q with
    | false => rfl
    | true =>
      have hne : path ≠ file.1 := by
        rintro rfl
        exact h.1 (by simpa using hq)
      simp [hne]

theorem lookup_of_mem {files : List (List String × Bytes)} (h : (files.map Prod.fst).Nodup) {file : List String × Bytes}
    (hfile : file ∈ files) : files.lookup file.1 = some file.2 := by
  induction files with
  | nil => cases hfile
  | cons other files ih =>
    obtain ⟨q, d⟩ := other
    rw [List.map_cons, List.nodup_cons] at h
    rw [List.lookup_cons]
    rcases List.mem_cons.mp hfile with rfl | hfile
    · simp
    · have hne : (file.1 == q) = false := by
        rw [beq_eq_false_iff_ne]
        intro heq
        apply h.1
        rw [← heq]
        exact List.mem_map.mpr ⟨file, hfile, rfl⟩
      simp only [hne]
      exact ih h.2 hfile

/-- One more file. -/
theorem extractMember_of_holds (h : Layout files) {done : List (List String × Bytes)} {t : Tree} (ht : Holds done t)
    (file : List String × Bytes) (hdone : ∀ f ∈ done ++ [file], f ∈ files) (hnew : file.1 ∉ done.map Prod.fst) :
    ∃ t', extractMember (files.map (zipEntry compressSize)) t (joinPath file.1) = .ok t' ∧ Holds (done ++ [file]) t' := by
  have hfile : file ∈ files := hdone file (by simp)
  have hplain := h.plain file hfile
  have hparts : (pathParts (joinPath file.1)).filter (fun part => part ≠ "..") = file.1 := by
    rw [pathParts_joinPath hplain, List.filter_eq_self]
    intro part hpart
    simpa using (hplain.plain part hpart).ne_parent
  have hfree : ¬ (file.1.dropLast.inits.filter fun p => p ≠ []).any (fun p => (t.file? p).isSome) = true := by
    intro hany
    obtain ⟨dir, hdir, hsome⟩ := List.any_eq_true.mp hany
    rw [ht.files_eq] at hsome
    obtain ⟨data, hdata⟩ := Option.isSome_iff_exists.mp hsome
    obtain ⟨_, hstart, hne⟩ := (mem_inits_dropLast hplain.ne_nil).mp hdir
    obtain ⟨l, r, hsplit, _⟩ := List.lookup_eq_some_iff.mp hdata
    have hmem : (dir, data) ∈ done := by
      rw [hsplit]
      simp
    exact hne (h.flat _ (hdone _ (List.mem_append_left _ hmem)) _ hfile hstart)
  have hnodir : ¬ ({ t with dirs := file.1.dropLast.inits.filter (fun p => p ≠ []) ++ t.dirs } : Tree).isDir file.1 = true := by
    simp only [Tree.isDir, decide_eq_true_eq, List.mem_append, not_or]
    refine ⟨hplain.ne_nil, ?_, ?_⟩
    · intro hmem
      exact ((mem_inits_dropLast hplain.ne_nil).mp hmem).2.2 rfl
    · intro hmem
      obtain ⟨_, other, hother, hstart, hne⟩ := (ht.dirs_iff file.1).mp hmem
      exact hne (h.flat _ hfile _ (hdone other (List.mem_append_left _ hother)) hstart)
  refine ⟨{ files := (file.1, file.2) :: t.files,
            dirs := file.1.dropLast.inits.filter (fun p => p ≠ []) ++ t.dirs }, ?_, ?_, ?_⟩
  · rw [extractMember, if_neg (getLast?_joinPath hplain)]
    simp only [bind_eq_ok, raiseIf_eq_ok, orRaise_eq_ok, hparts, getInfo_of_mem h hfile, Option.bind_some, zipEntry]
    refine ⟨(), hplain.ne_nil, file.2, rfl, ?_⟩
    simp only [Tree.write, Tree.makeDirs, bind_eq_ok, raiseIf_eq_ok]
    exact ⟨_, ⟨(), hfree, rfl⟩, (), hnodir, rfl⟩
  · intro path
    rw [lookup_append_of_not_mem path hnew, ← ht.files_eq path, Tree.file?, List.lookup_cons, Tree.file?]
    by_cases heq : path = file.1
    · simp [heq]
    · have hne : (path == file.1) = false := by simpa using heq
      simp [hne, heq]
  · intro dir
    rw [List.mem_append, mem_inits_dropLast hplain.ne_nil, ht.dirs_iff]
    constructor
    · rintro (⟨hne, hstart, hproper⟩ | ⟨hne, other, hother, hstart⟩)
      · exact ⟨hne, file, by simp, hstart, hproper⟩
      · exact ⟨hne, other, List.mem_append_left _ hother, hstart⟩
    · rintro ⟨hne, other, hother, hstart, hproper⟩
      rcases List.mem_append.mp hother with hother | hother
      · exact .inr ⟨hne, other, hother, hstart, hproper⟩
      · cases List.mem_singleton.mp hother
        exact .inl ⟨hne, hstart, hproper⟩

theorem foldlM_extractMember (compressSize : Bytes → Nat) (h : Layout files) {done rest : List (List String × Bytes)} (hsplit : done ++ rest = files)
    {t : Tree} (ht : Holds done t) :
    ∃ t', (rest.map fun file => joinPath file.1).foldlM (extractMember (files.map (zipEntry compressSize))) t = .ok t' ∧
      Holds files t' := by
  induction rest generalizing done t with
  | nil =>
    rw [List.append_nil] at hsplit
    subst hsplit
    exact ⟨t, rfl, ht⟩
  | cons file rest ih =>
    have hall : done ++ [file] ++ rest = files := by
      rw [← hsplit, List.append_assoc]
      rfl
    have hnew : file.1 ∉ done.map Prod.fst := by
      have hnodup := h.nodup
      rw [← hsplit, List.map_append, List.nodup_append] at hnodup
      intro hmem
      exact hnodup.2.2 _ hmem _ (by simp) rfl
    obtain ⟨t', hstep, ht'⟩ := extractMember_of_holds h ht file
      (by intro f hf; rw [← hall]; exact List.mem_append_left _ hf) hnew
    obtain ⟨t'', hrest, ht''⟩ := ih hall ht'
    refine ⟨t'', ?_, ht''⟩
    rw [List.map_cons, List.foldlM_cons, hstep]
    exact hrest

/-- Unpacking gives the files back, or refuses the archive for its sizes. -/
theorem safeExtractZip_iff (h : Layout files) :
    (∃ t, safeExtractZip (files.map (zipEntry compressSize)) = .ok t ∧ Holds files t) ↔
      (∀ file ∈ files, SafeSize compressSize file.2) ∧ totalBytes files ≤ maxTotalBytes := by
  have hcheck := checkEntries_iff compressSize (Nat.zero_le maxTotalBytes) h.plain
  rw [Nat.zero_add] at hcheck
  rw [← hcheck]
  constructor
  · rintro ⟨t, ht, _⟩
    obtain ⟨_, hsizes, _⟩ := bind_eq_ok.mp ht
    exact hsizes
  · intro hsizes
    have hempty : Holds [] {} := ⟨fun _ => rfl, fun dir => by simp⟩
    obtain ⟨t, ht, hholds⟩ := foldlM_extractMember compressSize h (List.nil_append files) hempty
    refine ⟨t, ?_, hholds⟩
    rw [safeExtractZip, List.map_map]
    exact bind_eq_ok.mpr ⟨(), hsizes, ht⟩

/-- An unpacked file is found under its path. -/
theorem read_of_holds (h : Layout files) {t : Tree} (ht : Holds files t) (host : String → Option Bytes)
    {file : List String × Bytes} (hfile : file ∈ files) : t.read host (joinPath file.1) = some file.2 := by
  have hplain := h.plain file hfile
  have hpassed : (passed [] file.1).all t.isDir = true := by
    rw [List.all_eq_true]
    intro dir hdir
    obtain ⟨hstart, hne⟩ := prefix_of_mem_passed hplain.parent_not_mem hdir
    rw [Tree.isDir, decide_eq_true_eq]
    by_cases hnil : dir = []
    · exact .inl hnil
    · exact .inr ((ht.dirs_iff dir).mpr ⟨hnil, file, hfile, hstart, hne⟩)
  rw [Tree.read, if_neg (zero_not_mem_joinPath hplain), if_neg (head?_joinPath hplain), pathParts_joinPath hplain,
    walk_plain [] hplain.parent_not_mem]
  dsimp only [List.reverse_nil, List.nil_append]
  rw [if_pos hpassed, ht.files_eq]
  exact lookup_of_mem h.nodup hfile

/-- What is not there is not found. -/
theorem read_eq_none_of_holds {t : Tree} (ht : Holds files t) (host : String → Option Bytes) {parts : List String}
    (hplain : PlainPath parts) (h : parts ∉ files.map Prod.fst) : t.read host (joinPath parts) = none := by
  have hlookup : t.file? parts = none := by
    rw [ht.files_eq, List.lookup_eq_none_iff]
    intro file hfile
    rw [bne_iff_ne]
    intro heq
    apply h
    rw [heq]
    exact List.mem_map_of_mem hfile
  rw [Tree.read, if_neg (zero_not_mem_joinPath hplain), if_neg (head?_joinPath hplain), pathParts_joinPath hplain,
    walk_plain [] hplain.parent_not_mem]
  dsimp only [List.reverse_nil, List.nil_append]
  split
  · exact hlookup
  · rfl

end Extraction

section Objects

theorem plainPart_of_isDigest {digest : String} (h : isDigest digest = true) : PlainPart digest := by
  simp only [isDigest, decide_eq_true_eq] at h
  have hne : ∀ text : String, text.toList.length ≠ 64 → digest ≠ text := by
    rintro text hlength rfl
    exact hlength h.1
  have hchar : ∀ c, hexAlphabet.contains c = false → c ∉ digest.toList := by
    intro c hc hmem
    have hall := List.all_eq_true.mp h.2 c hmem
    rw [hc] at hall
    cases hall
  exact ⟨hne "" (by decide), hne "." (by decide), hne ".." (by decide), hchar '/' (by decide), hchar '\x00' (by decide)⟩

theorem plainPart_of_decide {part : String} (h : decide (part ≠ "" ∧ part ≠ "." ∧ part ≠ ".." ∧ '/' ∉ part.toList ∧
    '\x00' ∉ part.toList) = true) : PlainPart part := by
  obtain ⟨h1, h2, h3, h4, h5⟩ := of_decide_eq_true h
  exact ⟨h1, h2, h3, h4, h5⟩

theorem plainPath_object {digest : String} (h : isDigest digest = true) : PlainPath ["objects", digest] where
  ne_nil := List.cons_ne_nil _ _
  plain part hpart := by
    rcases List.mem_cons.mp hpart with rfl | hpart
    · exact plainPart_of_decide (by decide)
    · rw [List.mem_singleton.mp hpart]
      exact plainPart_of_isDigest h

theorem joinPath_object (digest : String) : joinPath ["objects", digest] = "objects/" ++ digest := by
  rw [← String.toList_inj, joinPath, String.toList_ofList, String.toList_append]
  simp

/-- An import takes what lies under `objects/` with the digest as its name. -/
theorem importedObject_of_holds {files : List (List String × Bytes)} {t : Tree} (ht : Holds files t)
    (host : String → Option Bytes) {digest : String} {data : Bytes} (h : importedObject host t digest = some data) :
    isDigest digest = true ∧ ["objects", digest] ∈ files.map Prod.fst := by
  rw [importedObject, Option.filter_eq_some_iff] at h
  have hsha : sha256Hex data = digest := by simpa using h.2
  have hdigest : isDigest digest = true := by
    rw [← hsha]
    exact isDigest_sha256Hex data
  refine ⟨hdigest, ?_⟩
  by_contra hmem
  have hnone := read_eq_none_of_holds ht host (plainPath_object hdigest) hmem
  rw [joinPath_object, h.1] at hnone
  cases hnone

end Objects

end Preservation
end Sip
