import JLinkMcp.CodecDelimited
import JLinkMcp.HostText
import Mathlib.Data.List.Lex
import Mathlib.Data.List.Sort
import Mathlib.Order.Fin.Basic

namespace JLinkMcp.Sources

open Host Codec

/-- The parts of a path below the root. -/
abbrev RelativePath := List PyStr

/-- A name that a directory can hold. -/
structure IsName (name : PyStr) : Prop where
  nonempty : name ≠ []
  slash : (47 : CodePoint) ∉ name
  nul : (0 : CodePoint) ∉ name
  here : name ≠ PyStr.ofString "."
  parent : name ≠ PyStr.ofString ".."

def IsPath (path : RelativePath) : Prop := path ≠ [] ∧ ∀ part ∈ path, IsName part

/-- Both paths can be those of files: neither stands below the other. -/
def Apart (path other : RelativePath) : Prop := ¬path <+: other ∧ ¬other <+: path

/-- The files below a root, in the order in which `rglob` finds them. -/
structure SourceTree where
  files : List (RelativePath × Bytes)
  named : ∀ file ∈ files, IsPath file.1
  apart : files.Pairwise fun file other => Apart file.1 other.1

/-- `relative.as_posix()` -/
def asPosix (path : RelativePath) : PyStr := [(47 : CodePoint)].intercalate path

/-- The files that a digest reads, in the order of `sorted(root.rglob("*"))`. -/
def includedFiles (included : RelativePath → Bool) (tree : SourceTree) : List (RelativePath × Bytes) :=
  (tree.files.insertionSort fun file other => file.1 ≤ other.1).filter fun file => included file.1

/-- What `digest.update` takes of a file. -/
def fileInput (file : RelativePath × Bytes) : Except PyError Bytes := do
  let relative ← encodeUtf8 (asPosix file.1)
  return relative ++ [0] ++ file.2 ++ [0]

/-- The bytes that are fed to a digest. -/
def digestInput (included : RelativePath → Bool) (tree : SourceTree) : Except PyError Bytes := do
  let inputs ← (includedFiles included tree).mapM fileInput
  return inputs.flatten

/-- The files that `_protocol_bridge_source_sha256` reads. -/
def bridgeIncludes (path : RelativePath) : Bool :=
  !path.contains (PyStr.ofString "release") &&
    path.getLast? != some (PyStr.ofString "BridgeBuildIdentity.generated.h")

/-- What `_protocol_bridge_source_sha256` hashes. -/
def protocolBridgeSource (tree : SourceTree) : Except PyError Bytes := digestInput bridgeIncludes tree

def excludedParts : List PyStr :=
  [".git", ".venv", "state", "__pycache__", ".pytest_cache"].map PyStr.ofString

/-- The files that `_source_tree_identity` reads; the parts of the root count as well. -/
def treeIncludes (root : List PyStr) (path : RelativePath) : Bool :=
  !(root ++ path).any excludedParts.contains &&
    path.getLast?.all fun name => name != PyStr.ofString ".token" && name != PyStr.ofString ".env" &&
      !(PyStr.ofString ".env.").isPrefixOf name

/-- What `_source_tree_identity` hashes. -/
def sourceTreeInput (root : List PyStr) (tree : SourceTree) : Except PyError Bytes :=
  digestInput (treeIncludes root) tree

section paths

variable {path other : RelativePath}

/-- UTF-8 has bytes for the path. -/
def Encodable (path : RelativePath) : Prop := (asPosix path).all isScalar = true

/-- The bytes of a path. -/
def pathBytes (path : RelativePath) : Bytes := utf8 (asPosix path)

theorem zero_notMem_utf8CodePoint {c : CodePoint} (scalar : isScalar c = true) (hc : c ≠ 0) :
    (0 : UInt8) ∉ utf8CodePoint c := by
  have hvalid := isValidChar_of_isScalar scalar
  have hval : (Char.ofNat c.val).val.toNat = c.val := by
    rw [Char.ofNat, dif_pos hvalid]
    rfl
  have hpos : c.val ≠ 0 := fun h => hc (Fin.ext h)
  have hlt := c.isLt
  have hbyte : ∀ n : Nat, n % 256 ≠ 0 → (0 : UInt8) ≠ UInt8.ofNat n := by
    intro n hn h
    apply hn
    have := congrArg UInt8.toNat h
    rw [UInt8.toNat_ofNat'] at this
    exact this.symm
  rw [utf8CodePoint, String.utf8EncodeChar]
  simp only [hval]
  split
  · simp only [List.mem_singleton]
    exact hbyte _ (by omega)
  · split
    · simp only [List.mem_cons, List.not_mem_nil, or_false, not_or]
      exact ⟨hbyte _ (by omega), hbyte _ (by omega)⟩
    · split
      · simp only [List.mem_cons, List.not_mem_nil, or_false, not_or]
        exact ⟨hbyte _ (by omega), hbyte _ (by omega), hbyte _ (by omega)⟩
      · simp only [List.mem_cons, List.not_mem_nil, or_false, not_or]
        exact ⟨hbyte _ (by omega), hbyte _ (by omega), hbyte _ (by omega), hbyte _ (by omega)⟩

theorem nul_notMem_asPosix {parts : List PyStr} (free : ∀ part ∈ parts, (0 : CodePoint) ∉ part) :
    (0 : CodePoint) ∉ asPosix parts := by
  induction parts with
  | nil => exact List.not_mem_nil
  | cons part parts ih =>
    have hpart := free part List.mem_cons_self
    have hparts := ih fun part hmem => free part (List.mem_cons_of_mem _ hmem)
    cases parts with
    | nil => rwa [asPosix, List.intercalate_singleton]
    | cons next parts =>
      rw [asPosix, List.intercalate_cons_cons]
      simp only [List.mem_append, not_or]
      exact ⟨⟨hpart, by decide⟩, hparts⟩

theorem zero_notMem_pathBytes (named : IsPath path) (encodable : Encodable path) :
    (0 : UInt8) ∉ pathBytes path := by
  intro h
  obtain ⟨c, hc, hzero⟩ := List.mem_flatMap.mp h
  refine zero_notMem_utf8CodePoint (List.all_eq_true.mp encodable c hc) ?_ hzero
  rintro rfl
  exact nul_notMem_asPosix (fun part hpart => (named.2 part hpart).nul) hc

/-- Two paths of files have different bytes. -/
theorem pathBytes_inj (named : IsPath path) (named' : IsPath other) (encodable : Encodable path)
    (encodable' : Encodable other) (h : pathBytes path = pathBytes other) : path = other := by
  have htext : asPosix path = asPosix other := by
    have hdecoded := decodeUtf8_utf8 encodable
    rw [show utf8 (asPosix path) = utf8 (asPosix other) from h, decodeUtf8_utf8 encodable'] at hdecoded
    exact (Except.ok.inj hdecoded).symm
  have hsplit := List.splitOn_intercalate (47 : CodePoint) (fun part hpart => (named.2 part hpart).slash)
      named.1
  have hsplit' := List.splitOn_intercalate (47 : CodePoint)
      (fun part hpart => (named'.2 part hpart).slash) named'.1
  rw [asPosix, asPosix] at htext
  rw [htext, hsplit'] at hsplit
  exact hsplit.symm

end paths

section trees

variable {included : RelativePath → Bool} {tree other : SourceTree} {file : RelativePath × Bytes}

/-- The trees have the same included files. -/
def SourceTree.Same (included : RelativePath → Bool) (tree other : SourceTree) : Prop :=
  ∀ file : RelativePath × Bytes, included file.1 = true → (file ∈ tree.files ↔ file ∈ other.files)

theorem mem_includedFiles : file ∈ includedFiles included tree ↔ file ∈ tree.files ∧
    included file.1 = true := by
  rw [includedFiles, List.mem_filter, List.mem_insertionSort]

theorem Apart.symm {path other : RelativePath} (apart : Apart path other) : Apart other path :=
    ⟨apart.2, apart.1⟩

theorem perm_sorted : (tree.files.insertionSort fun file other => file.1 ≤ other.1).Perm tree.files :=
  List.perm_insertionSort _ _

/-- The files come in the order of their paths. -/
theorem sorted_includedFiles : (includedFiles included tree).Pairwise fun file other => file.1 < other.1 := by
  have hle : (tree.files.insertionSort fun file other => file.1 ≤ other.1).Pairwise
      fun file other => file.1 ≤ other.1 := List.pairwise_insertionSort _ _
  have hapart : (tree.files.insertionSort fun file other => file.1 ≤ other.1).Pairwise
      fun file other => Apart file.1 other.1 :=
    (perm_sorted.pairwise_iff fun h => Apart.symm h).mpr tree.apart
  refine ((hle.and hapart).imp ?_).filter _
  rintro file other ⟨hle, happart⟩
  refine lt_of_le_of_ne hle fun heq => ?_
  exact happart.1 (heq ▸ List.prefix_refl _)

theorem apart_includedFiles : (includedFiles included tree).Pairwise fun file other => Apart file.1 other.1 :=
  ((perm_sorted.pairwise_iff fun h => Apart.symm h).mpr tree.apart).filter _

theorem nodup_includedFiles : (includedFiles included tree).Nodup := by
  refine sorted_includedFiles.imp fun hlt heq => ?_
  rw [heq] at hlt
  exact lt_irrefl _ hlt

theorem includedFiles_eq_iff :
    includedFiles included tree = includedFiles included other ↔ tree.Same included other := by
  constructor
  · intro h file hincluded
    have hmem : file ∈ includedFiles included tree ↔ file ∈ includedFiles included other := by rw [h]
    simpa [mem_includedFiles, hincluded] using hmem
  · intro same
    have hperm : (includedFiles included tree).Perm (includedFiles included other) := by
      rw [List.perm_ext_iff_of_nodup nodup_includedFiles nodup_includedFiles]
      intro file
      rw [mem_includedFiles, mem_includedFiles]
      exact and_congr_left fun hincluded => same file hincluded
    have hasymm : ∀ file other : RelativePath × Bytes, file ∈ includedFiles included tree →
        other ∈ includedFiles included tree → file.1 < other.1 → other.1 < file.1 → file = other := by
      intro file other _ _ hlt hgt
      exact absurd hlt (lt_asymm hgt)
    exact hperm.eq_of_pairwise
      (fun file other hfile hother => hasymm file other hfile (hperm.mem_iff.mpr hother))
      sorted_includedFiles sorted_includedFiles

/-- The chunks that a file gives. -/
def chunksOf (file : RelativePath × Bytes) : List Bytes := [pathBytes file.1, file.2]

theorem fileInput_ok {bytes : Bytes} :
    fileInput file = .ok bytes ↔ Encodable file.1 ∧ bytes = terminated 0 (chunksOf file) := by
  rw [fileInput, encodeUtf8, Encodable]
  split
  next hscalar =>
    simp only [hscalar, true_and]
    change Except.ok _ = Except.ok _ ↔ _
    simp [chunksOf, pathBytes, eq_comm]
  next hscalar =>
    simp only [hscalar, Bool.false_eq_true, false_and, iff_false]
    exact nofun

theorem digestInput_ok {bytes : Bytes} : digestInput included tree = .ok bytes ↔
    (∀ file ∈ includedFiles included tree, Encodable file.1) ∧
      bytes = terminated 0 ((includedFiles included tree).flatMap chunksOf) := by
  have hfiles : ∀ (files : List (RelativePath × Bytes)) (inputs : List Bytes),
      files.mapM fileInput = .ok inputs ↔
      (∀ file ∈ files, Encodable file.1) ∧ inputs = files.map fun file => terminated 0 (chunksOf file) := by
    intro files
    induction files with
    | nil => simp [eq_comm, pure, Except.pure]
    | cons file files ih =>
      intro inputs
      rw [List.mapM_cons, List.forall_mem_cons]
      constructor
      · intro h
        obtain ⟨bytes, hbytes, h⟩ := Except.then_ok h
        obtain ⟨rest, hrest, h⟩ := Except.then_ok h
        obtain ⟨hfile, rfl⟩ := fileInput_ok.mp hbytes
        obtain ⟨hothers, rfl⟩ := (ih rest).mp hrest
        exact ⟨⟨hfile, hothers⟩, (Except.ok.inj h).symm⟩
      · rintro ⟨⟨hfile, hrest⟩, rfl⟩
        rw [fileInput_ok.mpr ⟨hfile, rfl⟩, (ih _).mpr ⟨hrest, rfl⟩]
        rfl
  constructor
  · intro h
    obtain ⟨inputs, hinputs, h⟩ := Except.then_ok h
    obtain ⟨hencodable, rfl⟩ := (hfiles _ inputs).mp hinputs
    refine ⟨hencodable, (Except.ok.inj h).symm.trans ?_⟩
    rw [terminated, List.flatMap_assoc, List.flatMap_def]
    rfl
  · rintro ⟨hencodable, rfl⟩
    rw [digestInput, (hfiles _ _).mpr ⟨hencodable, rfl⟩, terminated, List.flatMap_assoc, List.flatMap_def]
    rfl

theorem flatMap_chunksOf_cons {files : List (RelativePath × Bytes)} :
    (file :: files).flatMap chunksOf = pathBytes file.1 :: file.2 :: files.flatMap chunksOf := rfl

/-- Files in their order are read in it. -/
theorem includedFiles_of_sorted (sorted : tree.files.Pairwise fun file other => file.1 ≤ other.1)
    (all : ∀ file ∈ tree.files, included file.1 = true) : includedFiles included tree = tree.files := by
  rw [includedFiles, sorted.insertionSort_eq]
  exact List.filter_eq_self.mpr all

/-- A tree of one file. -/
def singleTree (file : RelativePath × Bytes) (named : IsPath file.1) : SourceTree where
  files := [file]
  named := by simpa using named
  apart := List.pairwise_singleton _ _

theorem includedFiles_singleTree {named : IsPath file.1} (h : included file.1 = true) :
    includedFiles included (singleTree file named) = [file] :=
  includedFiles_of_sorted (List.pairwise_singleton _ _) (by simpa [singleTree] using h)

/-- A tree of two files in their order. -/
def pairTree (file next : RelativePath × Bytes) (named : IsPath file.1) (named' : IsPath next.1)
    (apart : Apart file.1 next.1) : SourceTree where
  files := [file, next]
  named := by simp [named, named']
  apart := by simpa using apart

theorem includedFiles_pairTree {next : RelativePath × Bytes} {named : IsPath file.1} {named' : IsPath next.1}
    {apart : Apart file.1 next.1} (hlt : file.1 < next.1) (h : included file.1 = true)
    (h' : included next.1 = true) : includedFiles included (pairTree file next named named' apart) =
      [file, next] :=
  includedFiles_of_sorted (by simpa [pairTree] using hlt.le) (by simp [pairTree, h, h'])

/-- Every tree of the same bytes has the same included files. -/
def Unshared (hashed : SourceTree → Except PyError Bytes) (included : RelativePath → Bool)
    (tree : SourceTree) : Prop :=
  ∀ (other : SourceTree) (bytes : Bytes), hashed tree = .ok bytes → hashed other = .ok bytes →
    tree.Same included other

/-- Behind a NUL the content has the path of a file that would be read next, and another NUL. -/
def HoldsFile (included : RelativePath → Bool) (path : RelativePath) (content : Bytes) : Prop :=
  ∃ (front back : Bytes) (next : RelativePath), content = front ++ 0 :: (pathBytes next ++ 0 :: back) ∧
    IsPath next ∧ Encodable next ∧ included next = true ∧ path < next ∧ Apart path next

/-- What follows the first path of two files is the content of one. -/
theorem holdsFile_of_terminated {next : RelativePath × Bytes} {files : List (RelativePath × Bytes)}
    {content : Bytes}
    (h : includedFiles included tree = file :: next :: files) (encodable : Encodable next.1)
    (hbytes : terminated 0 [content] = terminated 0 (file.2 :: (next :: files).flatMap chunksOf)) :
    HoldsFile included file.1 content := by
  have hnonempty : next.2 :: files.flatMap chunksOf ≠ [] := List.cons_ne_nil _ _
  obtain ⟨back, hback⟩ := exists_terminated_single 0 hnonempty
  have hnext : next ∈ includedFiles included tree := by simp [h]
  obtain ⟨hmem, hincluded⟩ := mem_includedFiles.mp hnext
  have hsorted := @sorted_includedFiles included tree
  have hapart := @apart_includedFiles included tree
  rw [h] at hsorted hapart
  refine ⟨file.2, back, next.1, ?_, tree.named next hmem, encodable, hincluded, ?_, ?_⟩
  · rw [flatMap_chunksOf_cons, terminated_cons, terminated_cons, terminated_cons, ← hback,
    terminated_cons] at hbytes
    simp only [terminated_nil] at hbytes
    have hbytes : content ++ [0] = (file.2 ++ 0 :: (pathBytes next.1 ++ 0 :: back)) ++ [0] := by simpa using hbytes
    exact List.append_cancel_right hbytes
  · exact (List.pairwise_cons.mp hsorted).1 next List.mem_cons_self
  · exact (List.pairwise_cons.mp hapart).1 next List.mem_cons_self

/-- A file has the stream of the files behind it as its content: the tree of this one file is hashed
like all of them. -/
theorem exists_merged {next : RelativePath × Bytes} {files : List (RelativePath × Bytes)}
    (h : includedFiles included tree = file :: next :: files) (encodable : Encodable file.1) :
    ∃ other : SourceTree, ¬tree.Same included other ∧
      digestInput included other = .ok (terminated 0 ((includedFiles included tree).flatMap chunksOf)) := by
  have hnonempty : file.2 :: (next :: files).flatMap chunksOf ≠ [] := List.cons_ne_nil _ _
  obtain ⟨merged, hmerged⟩ := exists_terminated_single 0 hnonempty
  have hfile : file ∈ includedFiles included tree := by simp [h]
  have hnext : next ∈ includedFiles included tree := by simp [h]
  obtain ⟨hmem, hincluded⟩ := mem_includedFiles.mp hfile
  obtain ⟨hmem', hincluded'⟩ := mem_includedFiles.mp hnext
  have hsorted := @sorted_includedFiles included tree
  rw [h] at hsorted
  have hlt := (List.pairwise_cons.mp hsorted).1 next List.mem_cons_self
  have hread : includedFiles included (singleTree (file.1, merged) (tree.named file hmem)) =
      [(file.1, merged)] :=
    includedFiles_singleTree hincluded
  refine ⟨singleTree (file.1, merged) (tree.named file hmem), fun same => ?_, ?_⟩
  · obtain rfl := List.mem_singleton.mp ((same next hincluded').mp hmem')
    exact lt_irrefl _ hlt
  · rw [digestInput_ok, hread, h]
    refine ⟨by simpa using encodable, ?_⟩
    rw [flatMap_chunksOf_cons, terminated_cons, ← hmerged]
    simp [chunksOf]

/-- A content that holds a file is that of two files. -/
theorem exists_split (h : includedFiles included tree = [file]) (encodable : Encodable file.1)
    (holds : HoldsFile included file.1 file.2) :
    ∃ other : SourceTree, ¬tree.Same included other ∧
      digestInput included other = .ok (terminated 0 ((includedFiles included tree).flatMap chunksOf)) := by
  obtain ⟨front, back, next, hcontent, hnamed, hencodable, hnext, hlt, hapart⟩ := holds
  have hfile : file ∈ includedFiles included tree := by simp [h]
  obtain ⟨hmem, hincluded⟩ := mem_includedFiles.mp hfile
  have hread : includedFiles included
      (pairTree (file.1, front) (next, back) (tree.named file hmem) hnamed hapart) =
      [(file.1, front), (next, back)] := includedFiles_pairTree hlt hincluded hnext
  refine ⟨pairTree (file.1, front) (next, back) (tree.named file hmem) hnamed hapart, fun same => ?_, ?_⟩
  · have hother := (same file hincluded).mp hmem
    rcases List.mem_pair.mp hother with heq | heq
    · have hlength := congrArg (fun file => file.2.length) heq
      simp only [hcontent, List.length_append, List.length_cons] at hlength
      omega
    · rw [heq] at hlt
      exact lt_irrefl _ hlt
  · rw [digestInput_ok, hread, h]
    refine ⟨by simp [encodable, hencodable], ?_⟩
    simp [chunksOf, hcontent]

/-- What makes the bytes of a tree those of no other: a path has no bytes, no file is read, or one
whose content holds no other file. -/
def Unambiguous (included : RelativePath → Bool) (tree : SourceTree) : Prop :=
  (∃ file ∈ includedFiles included tree, ¬Encodable file.1) ∨ includedFiles included tree = [] ∨
    ∃ file, includedFiles included tree = [file] ∧ ¬HoldsFile included file.1 file.2

theorem unshared_of_unambiguous (h : Unambiguous included tree) :
    Unshared (digestInput included) included tree := by
  intro other bytes hbytes hother
  obtain ⟨hencodable, rfl⟩ := digestInput_ok.mp hbytes
  obtain ⟨hencodable', hsame⟩ := digestInput_ok.mp hother
  rw [← includedFiles_eq_iff]
  rcases h with ⟨file, hfile, hunencodable⟩ | hnone | ⟨file, hsingle, hholds⟩
  · exact absurd (hencodable file hfile) hunencodable
  · rw [hnone] at hsame ⊢
    cases hfiles : includedFiles included other with
    | nil => rfl
    | cons file files =>
      rw [hfiles, flatMap_chunksOf_cons, terminated_cons] at hsame
      simp at hsame
  · have hfile : file ∈ includedFiles included tree := by simp [hsingle]
    have hnamed := tree.named file (mem_includedFiles.mp hfile).1
    rw [hsingle] at hsame hencodable ⊢
    have hencoded := hencodable file List.mem_cons_self
    rcases hfiles : includedFiles included other with _ | ⟨file', files⟩
    · rw [hfiles, flatMap_chunksOf_cons, terminated_cons] at hsame
      simp at hsame
    · have hfile' : file' ∈ includedFiles included other := by simp [hfiles]
      have hnamed' := other.named file' (mem_includedFiles.mp hfile').1
      rw [hfiles] at hsame hencodable'
      have hencoded' := hencodable' file' List.mem_cons_self
      obtain ⟨hpath, hrest⟩ := (terminated_cons_inj (zero_notMem_pathBytes hnamed hencoded)
        (zero_notMem_pathBytes hnamed' hencoded')).mp hsame
      have hpath := pathBytes_inj hnamed hnamed' hencoded hencoded' hpath
      cases files with
      | nil =>
        have hcontent : file.2 = file'.2 := by simpa using hrest
        rw [Prod.ext hpath hcontent]
      | cons next files =>
        refine absurd ?_ hholds
        rw [hpath]
        exact holdsFile_of_terminated hfiles (hencodable' next (by simp)) hrest

theorem unshared_iff : Unshared (digestInput included) included tree ↔ Unambiguous included tree := by
  refine ⟨fun unshared => ?_, unshared_of_unambiguous⟩
  by_cases hencodable : ∀ file ∈ includedFiles included tree, Encodable file.1
  · have hbytes := digestInput_ok.mpr ⟨hencodable, rfl⟩
    right
    rcases hfiles : includedFiles included tree with _ | ⟨file, _ | ⟨next, files⟩⟩
    · exact Or.inl rfl
    · have hfile := hencodable file (by simp [hfiles])
      refine Or.inr ⟨file, rfl, fun holds => ?_⟩
      obtain ⟨other, hdiffer, hother⟩ := exists_split hfiles hfile holds
      exact hdiffer (unshared other _ hbytes hother)
    · have hfile := hencodable file (by simp [hfiles])
      obtain ⟨other, hdiffer, hother⟩ := exists_merged hfiles hfile
      exact absurd (unshared other _ hbytes hother) hdiffer
  · simp only [not_forall] at hencodable
    obtain ⟨file, hfile, hunencodable⟩ := hencodable
    exact Or.inl ⟨file, hfile, hunencodable⟩

/-- The bytes that identify a tree are its own exactly where the tree is unambiguous. -/
theorem digests_unshared_iff (root : List PyStr) (tree : SourceTree) :
    (Unshared protocolBridgeSource bridgeIncludes tree ↔ Unambiguous bridgeIncludes tree) ∧
      (Unshared (sourceTreeInput root) (treeIncludes root) tree ↔ Unambiguous (treeIncludes root) tree) :=
  ⟨unshared_iff, unshared_iff⟩

end trees

section collision

theorem isName_of_plain {name : PyStr} (h : name ≠ [] ∧ ¬(47 : CodePoint) ∈ name ∧ ¬(0 : CodePoint) ∈ name ∧
    name ≠ PyStr.ofString "." ∧ name ≠ PyStr.ofString "..") : IsName name :=
  ⟨h.1, h.2.1, h.2.2.1, h.2.2.2.1, h.2.2.2.2⟩

theorem isPath_header : IsPath [PyStr.ofString "a.h"] :=
  ⟨by decide, by simpa using isName_of_plain (by decide)⟩

theorem isPath_sketch : IsPath [PyStr.ofString "b.ino"] :=
  ⟨by decide, by simpa using isName_of_plain (by decide)⟩

/-- Two empty files. -/
def twoFiles : SourceTree :=
  pairTree ([PyStr.ofString "a.h"], []) ([PyStr.ofString "b.ino"], []) isPath_header isPath_sketch (by
    rw [Apart]
    decide)

/-- One file, with the name of the other in its content. -/
def oneFile : SourceTree := singleTree ([PyStr.ofString "a.h"], [0, 98, 46, 105, 110, 111, 0]) isPath_header

theorem digests_shared :
    ¬(∀ (tree other : SourceTree) (bytes : Bytes), protocolBridgeSource tree = .ok bytes →
        protocolBridgeSource other = .ok bytes → tree.Same bridgeIncludes other) ∧
      ¬(∀ (root : List PyStr) (tree other : SourceTree) (bytes : Bytes),
        sourceTreeInput root tree = .ok bytes →
        sourceTreeInput root other = .ok bytes → tree.Same (treeIncludes root) other) := by
  have hsketch : ([PyStr.ofString "b.ino"], []) ∉ oneFile.files := by
    rw [oneFile, singleTree, List.mem_singleton]
    decide
  have hmem : ([PyStr.ofString "b.ino"], []) ∈ twoFiles.files := by simp [twoFiles, pairTree]
  constructor
  · intro h
    have hsame := h twoFiles oneFile [97, 46, 104, 0, 0, 98, 46, 105, 110, 111, 0, 0] rfl rfl
    exact hsketch ((hsame _ (by decide)).mp hmem)
  · intro h
    have hsame := h [PyStr.ofString "/", PyStr.ofString "repository"] twoFiles oneFile
      [97, 46, 104, 0, 0, 98, 46, 105, 110, 111, 0, 0] rfl rfl
    exact hsketch ((hsame _ (by decide)).mp hmem)

end collision

end JLinkMcp.Sources
