import JLinkMcp.BytePatch
import JLinkMcp.HostFrame

namespace JLinkMcp.Artifacts

open Codec Host BytePatch

inductive ArtifactError where
  | elfError (message : String)
  | valueError (message : String)
  | structError
  deriving DecidableEq, Repr

structure Section where
  offset : Nat
  address : Nat
  size : Nat
  flags : Nat
  deriving DecidableEq

structure Segment where
  type : String
  offset : Nat
  physicalAddress : Nat
  fileSize : Nat
  deriving DecidableEq

/-- A symbol; its section is a number, or one of the reserved names. -/
structure Symbol where
  name : String
  value : Nat
  size : Nat
  sectionIndex : Option Nat
  deriving DecidableEq

/-- What the functions of this module see of an `ELFFile`. The tables are the parts of the file that it is read from:
the header, the program and section headers, the symbol and string tables. -/
structure ElfFile where
  sections : List Section
  getSection : Nat → Except ArtifactError Section
  segments : List Segment
  symbolTable : Option (List Symbol)
  tables : List (Nat × Nat)

/-- The offset is in one of the tables. -/
def ElfFile.InTables (elf : ElfFile) (i : Nat) : Prop := ∃ table ∈ elf.tables, table.1 ≤ i ∧ i < table.1 + table.2

instance (elf : ElfFile) (i : Nat) : Decidable (elf.InTables i) :=
  inferInstanceAs (Decidable (∃ table ∈ elf.tables, table.1 ≤ i ∧ i < table.1 + table.2))

/-- `ELFFile`, which reads a file at its tables and nowhere else. -/
structure ElfReader where
  parse : Bytes → Except ArtifactError ElfFile
  parse_congr : ∀ {blob blob' : Bytes} {elf : ElfFile}, parse blob = .ok elf → blob'.length = blob.length →
    (∀ i, elf.InTables i → blob'[i]? = blob[i]?) → parse blob' = .ok elf

def manifestSizeOffset : Nat := 136
def manifestCrcOffset : Nat := 140
def manifestFlashStartOffset : Nat := 144
def manifestFlashSizeOffset : Nat := 148
def manifestRamStartOffset : Nat := 152
def manifestRamSizeOffset : Nat := 156

/-- Where `struct` finds four bytes in a buffer. -/
def bufferPlace (length : Nat) (offset : Int) : Except ArtifactError Nat :=
  if offset < 0 then
    if 0 < offset + 4 then .error .structError
    else if offset + length < 0 then .error .structError
    else .ok (offset + length).toNat
  else if offset + 4 ≤ length then .ok offset.toNat
  else .error .structError

/-- `struct.pack_into("<I", blob, offset, value)` -/
def packInto (blob : Bytes) (offset : Int) (value : Nat) : Except ArtifactError Bytes := do
  let place ← bufferPlace blob.length offset
  if value < 2 ^ 32 then .ok (splice blob place (leBytes 4 value)) else .error .structError

/-- `struct.unpack_from("<I", blob, offset)[0]` -/
def unpackFrom (blob : Bytes) (offset : Int) : Except ArtifactError Nat := do
  let place ← bufferPlace blob.length offset
  .ok (leNat (slice blob place 4))

/-- `f"0x{n:08X}"` -/
def hexText (n : Nat) : String :=
  let digits := (Nat.toDigits 16 n).map Char.toUpper
  "0x" ++ String.ofList (List.replicate (8 - digits.length) '0' ++ digits)

/-- `_manifest_location` -/
def manifestLocation (reader : ElfReader) (blob : Bytes) : Except ArtifactError (Int × Nat × Nat) := do
  let elf ← reader.parse blob
  match elf.symbolTable with
  | none => .error (.valueError "ELF has no symbol table")
  | some table =>
    match table.find? fun item => item.name = "jlink_mcp_manifest" with
    | none => .error (.valueError "ELF has no concrete jlink_mcp_manifest symbol")
    | some symbol =>
      match symbol.sectionIndex with
      | none => .error (.valueError "ELF has no concrete jlink_mcp_manifest symbol")
      | some index => do
        let owner ← elf.getSection index
        .ok (owner.offset + symbol.value - owner.address, symbol.value, symbol.size)

/-- `segment.data()` -/
def Segment.data (segment : Segment) (blob : Bytes) : Bytes := slice blob segment.offset segment.fileSize

/-- The segments of the flash load image. -/
def ElfFile.flashSegments (elf : ElfFile) : List Segment :=
  elf.segments.filter fun segment =>
    segment.type = "PT_LOAD" ∧ segment.fileSize ≠ 0 ∧ 0x08000000 ≤ segment.physicalAddress ∧
      segment.physicalAddress < 0x10000000

/-- The first and the last address of the load image. -/
def flashStart (segments : List (Nat × Bytes)) : Nat := (segments.map fun segment => segment.1).min?.getD 0

def flashEnd (segments : List (Nat × Bytes)) : Nat :=
  (segments.map fun segment => segment.1 + segment.2.length).max?.getD 0

def flashImage (segments : List (Nat × Bytes)) : Bytes :=
  paint (List.replicate (flashEnd segments - flashStart segments) 0xFF)
    (segments.map fun segment => (segment.1 - flashStart segments, segment.2))

/-- The sections in RAM, of the bank that owns the test buffer where there is one. -/
def ElfFile.ramSections (elf : ElfFile) : List Section :=
  let testBuffer := elf.symbolTable.bind fun table => table.find? fun item => item.name = "jlink_mcp_test_buffer"
  let ramSections := elf.sections.filter fun one =>
    one.size ≠ 0 ∧ one.flags &&& 0x2 ≠ 0 ∧ one.flags &&& 0x1 ≠ 0 ∧ 0x10000000 ≤ one.address ∧
      one.address < 0x70000000
  match testBuffer with
  | none => ramSections
  | some symbol => ramSections.filter fun one => one.address >>> 24 = symbol.value >>> 24

/-- The byte of the file at this offset is loaded with the segment. -/
def Segment.Loads (segment : Segment) (i : Nat) : Prop :=
  segment.offset ≤ i ∧ i < segment.offset + segment.fileSize

instance (segment : Segment) (i : Nat) : Decidable (segment.Loads i) :=
  inferInstanceAs (Decidable (segment.offset ≤ i ∧ i < segment.offset + segment.fileSize))

/-- Two segments share no address. -/
def Segment.Apart (segment other : Segment) : Prop :=
  segment.physicalAddress + segment.fileSize ≤ other.physicalAddress ∨
    other.physicalAddress + other.fileSize ≤ segment.physicalAddress

instance (segment other : Segment) : Decidable (segment.Apart other) :=
  inferInstanceAs (Decidable (segment.physicalAddress + segment.fileSize ≤ other.physicalAddress ∨
    other.physicalAddress + other.fileSize ≤ segment.physicalAddress))

structure Layout where
  flashStart : Nat
  flashImage : Bytes
  ramStart : Nat
  ramSize : Nat
  deriving DecidableEq

/-- `_layout_from_blob` on a parsed file -/
def ElfFile.layout (elf : ElfFile) (blob : Bytes) : Except ArtifactError Layout :=
  let segments := elf.flashSegments.map fun segment => (segment.physicalAddress, segment.data blob)
  if segments = [] then .error (.valueError "ELF has no loadable STM32 flash segments")
  else
    let ramStart := (elf.ramSections.map Section.address).min?.getD 0
    let ramEnd := (elf.ramSections.map fun one => one.address + one.size).max?.getD 0
    .ok ⟨Artifacts.flashStart segments, Artifacts.flashImage segments, ramStart, ramEnd - ramStart⟩

def layoutFromBlob (reader : ElfReader) (blob : Bytes) : Except ArtifactError Layout := do
  let elf ← reader.parse blob
  elf.layout blob

structure Finalized where
  manifestAddress : String
  imageSize : Nat
  imageCrc32 : String
  crcDefinition : String
  flashStart : String
  flashSize : Nat
  ramStart : String
  ramSize : Nat
  deriving DecidableEq

/-- The row of fields that `finalize_fixture_elf` patches. -/
def packFields (blob : Bytes) (manifestFileOffset : Int) (fields : List (Nat × Nat)) : Except ArtifactError Bytes :=
  fields.foldlM (fun blob field => packInto blob (manifestFileOffset + field.1) field.2) blob

/-- `finalize_fixture_elf`, from what the file holds to what is written to it and returned -/
def finalizeFixtureElf (reader : ElfReader) (blob : Bytes) : Except ArtifactError (Bytes × Finalized) := do
  let (manifestFileOffset, manifestAddress, symbolSize) ← manifestLocation reader blob
  if symbolSize < manifestRamSizeOffset + 4 then
    .error (.valueError "fixture manifest is older than the supported layout")
  else
    let layout ← layoutFromBlob reader blob
    let imageSize := layout.flashImage.length
    let blob ← packFields blob manifestFileOffset
      [(manifestSizeOffset, imageSize), (manifestCrcOffset, 0), (manifestFlashStartOffset, layout.flashStart),
        (manifestFlashSizeOffset, imageSize), (manifestRamStartOffset, layout.ramStart),
        (manifestRamSizeOffset, layout.ramSize)]
    let patched ← layoutFromBlob reader blob
    let crc := crc32 patched.flashImage
    let blob ← packInto blob (manifestFileOffset + manifestCrcOffset) crc
    .ok (blob, ⟨hexText manifestAddress, imageSize, hexText crc,
      "IEEE CRC-32 over flash image with CRC field zeroed", hexText layout.flashStart, imageSize,
      hexText layout.ramStart, layout.ramSize⟩)

structure Verified where
  ok : Bool
  manifestAddress : String
  flashStart : String
  expectedSize : Nat
  actualSize : Nat
  expectedCrc32 : String
  actualCrc32 : String
  deriving DecidableEq

/-- `verify_fixture_elf` -/
def verifyFixtureElf (reader : ElfReader) (blob : Bytes) : Except ArtifactError Verified := do
  let (manifestFileOffset, manifestAddress, _) ← manifestLocation reader blob
  let expectedSize ← unpackFrom blob (manifestFileOffset + manifestSizeOffset)
  let expectedCrc ← unpackFrom blob (manifestFileOffset + manifestCrcOffset)
  let blob ← packInto blob (manifestFileOffset + manifestCrcOffset) 0
  let layout ← layoutFromBlob reader blob
  let actualCrc := crc32 layout.flashImage
  .ok ⟨expectedSize = layout.flashImage.length ∧ expectedCrc = actualCrc, hexText manifestAddress,
    hexText layout.flashStart, expectedSize, layout.flashImage.length, hexText expectedCrc, hexText actualCrc⟩

section layout

variable {elf : ElfFile} {blob blob' : Bytes} {layout : Layout} {segments : List (Nat × Bytes)}

/-- The pieces of the image lie in it. -/
theorem fit_flashImage : Fit (flashEnd segments - flashStart segments)
    (segments.map fun segment => (segment.1 - flashStart segments, segment.2)) := by
  intro piece hpiece
  obtain ⟨segment, hsegment, rfl⟩ := List.mem_map.mp hpiece
  have hstart : flashStart segments ≤ segment.1 := List.min?_getD_le_of_mem (List.mem_map_of_mem hsegment)
  have hend : segment.1 + segment.2.length ≤ flashEnd segments :=
    List.le_max?_getD_of_mem (List.mem_map_of_mem (f := fun segment => segment.1 + segment.2.length) hsegment)
  dsimp only
  omega

theorem length_flashImage : (flashImage segments).length = flashEnd segments - flashStart segments := by
  have hfit : Fit (List.replicate (flashEnd segments - flashStart segments) (0xFF : UInt8)).length
      (segments.map fun segment => (segment.1 - flashStart segments, segment.2)) := by
    rw [List.length_replicate]
    exact fit_flashImage
  rw [flashImage, length_paint hfit, List.length_replicate]

theorem length_data (segment : Segment) (same : blob'.length = blob.length) :
    (segment.data blob').length = (segment.data blob).length := by
  rw [Segment.data, Segment.data, length_slice, length_slice, same]

/-- The layout of a file of the same length differs in the image only. -/
theorem layout_of_length (h : elf.layout blob = .ok layout) (same : blob'.length = blob.length) :
    ∃ image, elf.layout blob' = .ok { layout with flashImage := image } ∧
      image.length = layout.flashImage.length := by
  rw [ElfFile.layout] at h
  dsimp only at h
  split at h
  next => cases h
  next hsome =>
    cases Except.ok.inj h
    have hstart : flashStart (elf.flashSegments.map fun segment => (segment.physicalAddress, segment.data blob')) =
        flashStart (elf.flashSegments.map fun segment => (segment.physicalAddress, segment.data blob)) := by
      rw [flashStart, flashStart, List.map_map, List.map_map]
      rfl
    have hend : flashEnd (elf.flashSegments.map fun segment => (segment.physicalAddress, segment.data blob')) =
        flashEnd (elf.flashSegments.map fun segment => (segment.physicalAddress, segment.data blob)) := by
      rw [flashEnd, flashEnd, List.map_map, List.map_map]
      refine congrArg (fun ends : List Nat => ends.max?.getD 0) (List.map_congr_left fun segment _ => ?_)
      exact congrArg (segment.physicalAddress + ·) (length_data segment same)
    refine ⟨flashImage (elf.flashSegments.map fun segment => (segment.physicalAddress, segment.data blob')), ?_, ?_⟩
    · rw [ElfFile.layout]
      dsimp only
      rw [if_neg (fun hnone => hsome (List.map_eq_nil_iff.mpr (List.map_eq_nil_iff.mp hnone))), hstart]
    · dsimp only
      rw [length_flashImage, length_flashImage, hstart, hend]

theorem data_set_of_not_loads {segment : Segment} {i : Nat} {b : UInt8} (h : ¬segment.Loads i) :
    segment.data (blob.set i b) = segment.data blob := by
  rw [Segment.Loads] at h
  exact slice_set_of_outside (by omega)

/-- The one segment that loads a byte. -/
theorem split_of_countP {segments : List Segment} {i : Nat} (once : segments.countP (fun one => one.Loads i) = 1) :
    ∃ front segment back, segments = front ++ segment :: back ∧ segment.Loads i ∧
      (∀ one ∈ front, ¬one.Loads i) ∧ ∀ one ∈ back, ¬one.Loads i := by
  rw [List.countP_eq_length_filter] at once
  obtain ⟨segment, hfilter⟩ := List.length_eq_one_iff.mp once
  obtain ⟨front, back, hsegments, hfront, hloads, hback⟩ := List.filter_eq_cons_iff.mp hfilter
  refine ⟨front, segment, back, hsegments, of_decide_eq_true hloads, fun one hone hother => ?_,
    fun one hone hother => ?_⟩
  · exact hfront one hone (decide_eq_true hother)
  · exact List.filter_eq_nil_iff.mp hback one hone (decide_eq_true hother)

theorem layout_same {layout' : Layout} (h : elf.layout blob = .ok layout) (h' : elf.layout blob' = .ok layout')
    (same : blob'.length = blob.length) :
    layout' = { layout with flashImage := layout'.flashImage } ∧
      layout'.flashImage.length = layout.flashImage.length := by
  obtain ⟨image, hlayout, hlength⟩ := layout_of_length h same
  rw [h'] at hlayout
  cases Except.ok.inj hlayout
  exact ⟨rfl, hlength⟩

/-- Another byte in one segment, where no later one covers it. -/
theorem flashImage_set {front back : List (Nat × Bytes)} {address i : Nat} {data : Bytes} (b : UInt8)
    (hi : i < data.length)
    (outside : ∀ piece ∈ back, address + i < piece.1 ∨ piece.1 + piece.2.length ≤ address + i) :
    flashStart (front ++ (address, data.set i b) :: back) = flashStart (front ++ (address, data) :: back) ∧
      ∃ place, (flashImage (front ++ (address, data) :: back))[place]? = data[i]? ∧
        flashImage (front ++ (address, data.set i b) :: back) =
          (flashImage (front ++ (address, data) :: back)).set place b := by
  have hstart : flashStart (front ++ (address, data.set i b) :: back) =
      flashStart (front ++ (address, data) :: back) := by
    rw [flashStart, flashStart, List.map_append, List.map_append, List.map_cons, List.map_cons]
  have hend : flashEnd (front ++ (address, data.set i b) :: back) = flashEnd
      (front ++ (address, data) :: back) := by
    rw [flashEnd, flashEnd, List.map_append, List.map_append, List.map_cons, List.map_cons, List.length_set]
  have hfit := @fit_flashImage (front ++ (address, data) :: back)
  have hmin (piece : Nat × Bytes) (hpiece : piece ∈ front ++ (address, data) :: back) :
      flashStart (front ++ (address, data) :: back) ≤ piece.1 :=
    List.min?_getD_le_of_mem (List.mem_map_of_mem hpiece)
  have haddress := hmin (address, data) (List.mem_append_right _ (List.mem_cons_self ..))
  refine ⟨hstart, address - flashStart (front ++ (address, data) :: back) + i, ?_⟩
  rw [flashImage, flashImage, hstart, hend]
  rw [List.map_append, List.map_cons] at hfit
  rw [List.map_append, List.map_cons, List.map_append, List.map_cons]
  generalize flashStart (front ++ (address, data) :: back) = start at *
  generalize flashEnd (front ++ (address, data) :: back) = stop at *
  have hsize : (List.replicate (stop - start) (0xFF : UInt8)).length = stop - start := List.length_replicate
  rw [← hsize] at hfit
  have hbehind : ∀ piece ∈ back.map fun segment => (segment.1 - start, segment.2),
      address - start + i < piece.1 ∨ piece.1 + piece.2.length ≤ address - start + i := by
    intro piece hpiece
    obtain ⟨other, hother, rfl⟩ := List.mem_map.mp hpiece
    have hle := hmin other (List.mem_append_right _ (List.mem_cons_of_mem _ hother))
    have hout := outside other hother
    dsimp only at haddress ⊢
    omega
  exact ⟨getElem?_paint_piece hfit hi hbehind, paint_piece_set hfit hi hbehind⟩

/-- Another byte of the load image is another byte in one place of it. -/
theorem layout_set {i : Nat} (b : UInt8) (h : elf.layout blob = .ok layout)
    (apart : elf.flashSegments.Pairwise Segment.Apart) (hi : i < blob.length)
    (once : elf.flashSegments.countP (fun one => one.Loads i) = 1) :
    ∃ place, layout.flashImage[place]? = blob[i]? ∧
      elf.layout (blob.set i b) = .ok { layout with flashImage := layout.flashImage.set place b } := by
  obtain ⟨front, segment, back, hsegments, hloads, hfront, hback⟩ := split_of_countP once
  obtain ⟨offset, rfl⟩ := Nat.exists_eq_add_of_le hloads.1
  have hoffset : offset < segment.fileSize := by
    have hlt := hloads.2
    omega
  have hdata : offset < (segment.data blob).length := by
    rw [Segment.data, length_slice]
    omega
  have hbehind := (List.pairwise_cons.mp (List.pairwise_append.mp (hsegments ▸ apart)).2.1).1
  have houtside : ∀ piece ∈ back.map fun one => (one.physicalAddress, one.data blob),
      segment.physicalAddress + offset < piece.1 ∨ piece.1 + piece.2.length ≤ segment.physicalAddress + offset := by
    intro piece hpiece
    obtain ⟨other, hother, rfl⟩ := List.mem_map.mp hpiece
    have hshort : (other.data blob).length ≤ other.fileSize := by
      rw [Segment.data, length_slice]
      omega
    have hapart := hbehind other hother
    rw [Segment.Apart] at hapart
    dsimp only
    omega
  have hsame (others : List Segment) (hothers : ∀ one ∈ others, ¬one.Loads (segment.offset + offset)) :
      (others.map fun one => (one.physicalAddress, one.data (blob.set (segment.offset + offset) b))) =
        others.map fun one => (one.physicalAddress, one.data blob) :=
    List.map_congr_left fun one hone => by rw [data_set_of_not_loads (hothers one hone)]
  have hset : segment.data (blob.set (segment.offset + offset) b) = (segment.data blob).set offset b :=
    slice_set_of_inside hoffset
  have hread : (segment.data blob)[offset]? = blob[segment.offset + offset]? := by
    rw [Segment.data, getElem?_slice, if_pos hoffset]
  rw [ElfFile.layout, hsegments] at h
  rw [List.map_append, List.map_cons] at h
  dsimp only at h
  rw [if_neg (List.append_ne_nil_of_right_ne_nil _ (List.cons_ne_nil _ _))] at h
  cases Except.ok.inj h
  obtain ⟨hstart, place, hplace, himage⟩ :=
      @flashImage_set (front.map fun one => (one.physicalAddress, one.data blob))
    (back.map fun one => (one.physicalAddress, one.data blob)) segment.physicalAddress offset (segment.data blob) b
    hdata houtside
  refine ⟨place, hplace.trans hread, ?_⟩
  rw [ElfFile.layout, hsegments]
  rw [List.map_append, List.map_cons, hsame front hfront, hsame back hback, hset]
  dsimp only
  rw [if_neg (List.append_ne_nil_of_right_ne_nil _ (List.cons_ne_nil _ _)), hstart, himage]

end layout

section stamp

variable {blob blob' : Bytes} {place value crc : Nat} {layout : Layout}

/-- The six fields in their row, as `finalize_fixture_elf` leaves them. -/
def Layout.fields (layout : Layout) (crc : Nat) : List Nat :=
  [layout.flashImage.length, crc, layout.flashStart, layout.flashImage.length, layout.ramStart, layout.ramSize]

def fieldBytes (values : List Nat) : Bytes := values.flatMap (leBytes 4)

/-- The file with the fields in its manifest. -/
def stamp (blob : Bytes) (place : Nat) (layout : Layout) (crc : Nat) : Bytes :=
  splice blob (place + manifestSizeOffset) (fieldBytes (layout.fields crc))

theorem length_fieldBytes (layout : Layout) (crc : Nat) : (fieldBytes (layout.fields crc)).length = 24 := rfl

theorem length_stamp (inside : place + 160 ≤ blob.length) : (stamp blob place layout crc).length = blob.length :=
  length_splice (by rw [length_fieldBytes, manifestSizeOffset]; omega)

theorem bufferPlace_inside {length : Nat} (inside : place + 4 ≤ length) : bufferPlace length place = .ok place := by
  rw [bufferPlace, if_neg (by omega), if_pos (by omega)]
  rfl

theorem packInto_inside (inside : place + 4 ≤ blob.length) :
    packInto blob place value =
      if value < 2 ^ 32 then .ok (splice blob place (leBytes 4 value)) else .error .structError := by
  rw [packInto, bufferPlace_inside inside]
  rfl

theorem unpackFrom_inside (inside : place + 4 ≤ blob.length) :
    unpackFrom blob place = .ok (leNat (slice blob place 4)) := by
  rw [unpackFrom, bufferPlace_inside inside]
  rfl

/-- Fields that stand one behind the other. -/
def fieldsFrom (offset : Nat) : List Nat → List (Nat × Nat)
  | [] => []
  | value :: values => (offset, value) :: fieldsFrom (offset + 4) values

/-- A row of fields is patched at once, where each of them fits into its four bytes. -/
theorem packFields_fieldsFrom {offset : Nat} {values : List Nat}
    (inside : place + offset + 4 * values.length ≤ blob.length) :
    packFields blob place (fieldsFrom offset values) =
      if ∀ value ∈ values, value < 2 ^ 32 then .ok (splice blob (place + offset) (fieldBytes values))
      else .error .structError := by
  induction values generalizing blob offset with
  | nil =>
    have hnone : splice blob (place + offset) [] = blob := splice_slice (by simpa using inside) rfl
    rw [if_pos nofun]
    exact congrArg Except.ok hnone.symm
  | cons value values ih =>
    rw [List.length_cons] at inside
    have hcast : (place : Int) + (offset : Nat) = ((place + offset : Nat) : Int) := by omega
    have hfirst : packInto blob ((place : Int) + (offset : Nat)) value =
        if value < 2 ^ 32 then .ok (splice blob (place + offset) (leBytes 4 value)) else .error .structError := by
      rw [hcast]
      exact packInto_inside (by omega)
    have hcons : packFields blob place (fieldsFrom offset (value :: values)) =
        packInto blob ((place : Int) + (offset : Nat)) value >>= fun blob =>
          packFields blob place (fieldsFrom (offset + 4) values) := List.foldlM_cons ..
    rw [hcons, hfirst]
    by_cases hvalue : value < 2 ^ 32
    · have hlength : (splice blob (place + offset) (leBytes 4 value)).length = blob.length :=
        length_splice (by rw [leBytes_length]; omega)
      have hrest : packFields (splice blob (place + offset) (leBytes 4 value)) place
          (fieldsFrom (offset + 4) values) =
          _ := ih (by omega)
      rw [if_pos hvalue]
      refine hrest.trans ?_
      by_cases hvalues : ∀ value ∈ values, value < 2 ^ 32
      · have hall : ∀ other ∈ value :: values, other < 2 ^ 32 := List.forall_mem_cons.mpr ⟨hvalue, hvalues⟩
        rw [if_pos hvalues, if_pos hall]
        have hbytes : (fieldBytes values).length = 4 * values.length := by
          rw [fieldBytes, List.length_flatMap]
          simp [leBytes_length, Nat.mul_comm]
        have happend := @splice_append _ blob (leBytes 4 value) (place + offset) (fieldBytes values)
          (by rw [List.length_append, leBytes_length, hbytes]; omega)
        rw [leBytes_length, Nat.add_assoc] at happend
        exact congrArg Except.ok happend
      · rw [if_neg hvalues, if_neg fun hall => hvalues (List.forall_mem_cons.mp hall).2]
    · have hnot : ¬∀ other ∈ value :: values, other < 2 ^ 32 := fun hall => hvalue (List.forall_mem_cons.mp hall).1
      rw [if_neg hvalue, if_neg hnot]
      rfl

/-- The file with another checksum in its manifest. -/
theorem splice_stamp {crc' : Nat} (inside : place + 160 ≤ blob.length) :
    splice (stamp blob place layout crc) (place + manifestCrcOffset) (leBytes 4 crc') =
      stamp blob place layout crc' := by
  have hfits : place + manifestSizeOffset + (fieldBytes (layout.fields crc)).length ≤ blob.length := by
    rw [length_fieldBytes, manifestSizeOffset]
    omega
  have hsplice := @splice_splice_of_inside _ blob (fieldBytes (layout.fields crc)) (place + manifestSizeOffset) 4
    (leBytes 4 crc') hfits (by rw [leBytes_length, length_fieldBytes]; omega)
  have hfield : splice (fieldBytes (layout.fields crc)) 4 (leBytes 4 crc') = fieldBytes (layout.fields crc') := rfl
  rw [hfield] at hsplice
  exact hsplice

theorem packInto_stamp {crc' : Nat} (inside : place + 160 ≤ blob.length) (hcrc : crc' < 2 ^ 32) :
    packInto (stamp blob place layout crc) ((place + manifestCrcOffset : Nat) : Int) crc' =
      .ok (stamp blob place layout crc') := by
  have hlength : (stamp blob place layout crc).length = blob.length := length_stamp inside
  rw [packInto_inside (by rw [hlength, manifestCrcOffset]; omega), if_pos hcrc, splice_stamp inside]

/-- A field that is read back. -/
theorem slice_stamp {i : Nat} (inside : place + 160 ≤ blob.length) (hi : i + 4 ≤ 24)
    (hfield : slice (fieldBytes (layout.fields crc)) i 4 = leBytes 4 value) :
    slice (stamp blob place layout crc) (place + (manifestSizeOffset + i)) 4 = leBytes 4 value := by
  have hfits : place + manifestSizeOffset + (fieldBytes (layout.fields crc)).length ≤ blob.length := by
    rw [length_fieldBytes, manifestSizeOffset]
    omega
  rw [stamp, ← Nat.add_assoc, slice_splice_of_inside hfits (by rw [length_fieldBytes]; omega)]
  exact hfield

theorem unpackFrom_stamp {i : Nat} (inside : place + 160 ≤ blob.length) (hi : i + 4 ≤ 24) (hvalue : value < 2 ^ 32)
    (hfield : slice (fieldBytes (layout.fields crc)) i 4 = leBytes 4 value) :
    unpackFrom (stamp blob place layout crc) ((place + (manifestSizeOffset + i) : Nat) : Int) = .ok value := by
  have hlength : (stamp blob place layout crc).length = blob.length := length_stamp inside
  rw [unpackFrom_inside (by rw [hlength, manifestSizeOffset]; omega), slice_stamp inside hi hfield,
    leNat_leBytes_of_lt hvalue]

theorem stamp_stamp {layout' : Layout} {crc' : Nat} (inside : place + 160 ≤ blob.length) :
    stamp (stamp blob place layout crc) place layout' crc' = stamp blob place layout' crc' :=
  splice_splice (by rw [length_fieldBytes, manifestSizeOffset]; omega) rfl

theorem getElem?_stamp {i : Nat} (inside : place + 160 ≤ blob.length)
    (outside : i < place + manifestSizeOffset ∨ place + 160 ≤ i) :
    (stamp blob place layout crc)[i]? = blob[i]? := by
  have hfits : place + manifestSizeOffset + (fieldBytes (layout.fields crc)).length ≤ blob.length := by
    rw [length_fieldBytes, manifestSizeOffset]
    omega
  exact getElem?_splice_of_outside hfits (by rw [length_fieldBytes]; rw [manifestSizeOffset] at *; omega)

end stamp

/-- A fixture ELF whose manifest lies inside the file and apart from its tables, and whose flash segments share
no address. -/
structure FixtureElf (reader : ElfReader) where
  blob : Bytes
  elf : ElfFile
  place : Nat
  address : Nat
  size : Nat
  parsed : reader.parse blob = .ok elf
  located : manifestLocation reader blob = .ok (place, address, size)
  inside : place + 160 ≤ blob.length
  clear : ∀ i, place ≤ i → i < place + 160 → ¬elf.InTables i
  apart : elf.flashSegments.Pairwise Segment.Apart

section fixture

variable {reader : ElfReader} (fixture : FixtureElf reader) {layout : Layout}

theorem manifestLocation_congr {blob blob' : Bytes} (h : reader.parse blob' = reader.parse blob) :
    manifestLocation reader blob' = manifestLocation reader blob := by
  rw [manifestLocation, manifestLocation, h]

/-- The file with other bytes outside of its tables. -/
def FixtureElf.patched (blob : Bytes) (same : blob.length = fixture.blob.length)
    (tables : ∀ i, fixture.elf.InTables i → blob[i]? = fixture.blob[i]?) : FixtureElf reader :=
  let parsed := reader.parse_congr fixture.parsed same tables
  { fixture with
    blob, parsed
    located := (manifestLocation_congr (parsed.trans fixture.parsed.symm)).trans fixture.located
    inside := same ▸ fixture.inside }

theorem FixtureElf.layoutFromBlob_eq : layoutFromBlob reader fixture.blob = fixture.elf.layout fixture.blob := by
  rw [layoutFromBlob, fixture.parsed]
  rfl

/-- The file with its fields patched. -/
def FixtureElf.stamped (layout : Layout) (crc : Nat) : FixtureElf reader :=
  fixture.patched (stamp fixture.blob fixture.place layout crc) (length_stamp fixture.inside) fun i htable => by
    refine getElem?_stamp fixture.inside ?_
    by_cases hbefore : i < fixture.place + manifestSizeOffset
    · exact Or.inl hbefore
    · right
      rw [manifestSizeOffset] at hbefore
      rw [← Nat.not_lt]
      intro hlt
      exact fixture.clear i (by omega) hlt htable

/-- What `finalize_fixture_elf` returns. -/
def FixtureElf.report (layout : Layout) (crc : Nat) : Finalized :=
  ⟨hexText fixture.address, layout.flashImage.length, hexText crc,
    "IEEE CRC-32 over flash image with CRC field zeroed", hexText layout.flashStart, layout.flashImage.length,
    hexText layout.ramStart, layout.ramSize⟩

theorem crc32_lt_two_pow (data : Bytes) : crc32 data < 2 ^ 32 := crc32_lt data

/-- The fields of a layout fit into the manifest. -/
def Layout.Packs (layout : Layout) : Prop := ∀ value ∈ layout.fields 0, value < 2 ^ 32

instance (layout : Layout) : Decidable layout.Packs :=
  inferInstanceAs (Decidable (∀ value ∈ layout.fields 0, value < 2 ^ 32))

/-- What `finalize_fixture_elf` does with a fixture. -/
theorem finalizeFixtureElf_eq {patched : Layout} (hsize : 160 ≤ fixture.size)
    (hlayout : fixture.elf.layout fixture.blob = .ok layout)
    (hpatched : fixture.elf.layout (stamp fixture.blob fixture.place layout 0) = .ok patched) :
    finalizeFixtureElf reader fixture.blob =
      if layout.Packs then .ok (stamp fixture.blob fixture.place layout (crc32 patched.flashImage),
        fixture.report layout (crc32 patched.flashImage))
      else .error .structError := by
  have hinside := fixture.inside
  have hfields : packFields fixture.blob fixture.place (fieldsFrom manifestSizeOffset (layout.fields 0)) =
      if layout.Packs then .ok (stamp fixture.blob fixture.place layout 0) else .error .structError := by
    refine packFields_fieldsFrom ?_
    have hcount : (layout.fields 0).length = 6 := rfl
    rw [hcount, manifestSizeOffset]
    omega
  have hagain : layoutFromBlob reader (stamp fixture.blob fixture.place layout 0) = .ok patched :=
    (fixture.stamped layout 0).layoutFromBlob_eq.trans hpatched
  have hcrc := @packInto_stamp _ fixture.place 0 layout _ hinside (crc32_lt_two_pow patched.flashImage)
  rw [finalizeFixtureElf, fixture.located]
  dsimp only [bind, Except.bind]
  rw [if_neg (by rw [manifestRamSizeOffset]; omega), fixture.layoutFromBlob_eq, hlayout]
  dsimp only
  have hrow : [(manifestSizeOffset, layout.flashImage.length), (manifestCrcOffset, 0),
      (manifestFlashStartOffset, layout.flashStart), (manifestFlashSizeOffset, layout.flashImage.length),
      (manifestRamStartOffset, layout.ramStart), (manifestRamSizeOffset, layout.ramSize)] =
      fieldsFrom manifestSizeOffset (layout.fields 0) := rfl
  rw [hrow, hfields]
  by_cases hpacks : layout.Packs
  · have hcast : (fixture.place : Int) + (manifestCrcOffset : Nat) =
    ((fixture.place + manifestCrcOffset : Nat) : Int) :=
      (Int.natCast_add _ _).symm
    rw [if_pos hpacks, if_pos hpacks]
    dsimp only
    rw [hagain]
    dsimp only
    rw [hcast, hcrc]
    rfl
  · rw [if_neg hpacks, if_neg hpacks]

/-- What a finalization that succeeds has done. -/
theorem FixtureElf.finalized {blob : Bytes} {report : Finalized}
    (h : finalizeFixtureElf reader fixture.blob = .ok (blob, report)) :
    ∃ layout patched, 160 ≤ fixture.size ∧ layout.Packs ∧ fixture.elf.layout fixture.blob = .ok layout ∧
      fixture.elf.layout (stamp fixture.blob fixture.place layout 0) = .ok patched ∧
      blob = stamp fixture.blob fixture.place layout (crc32 patched.flashImage) ∧
      report = fixture.report layout (crc32 patched.flashImage) := by
  have hall := h
  rw [finalizeFixtureElf, fixture.located] at h
  dsimp only [bind, Except.bind] at h
  split at h
  next => cases h
  next hsize =>
    rw [fixture.layoutFromBlob_eq] at h
    cases hlayout : fixture.elf.layout fixture.blob with
    | error e =>
      rw [hlayout] at h
      cases h
    | ok layout =>
      obtain ⟨image, hpatched, -⟩ :=
          layout_of_length hlayout (@length_stamp _ fixture.place 0 layout fixture.inside)
      have hsize' : 160 ≤ fixture.size := by
        rw [manifestRamSizeOffset] at hsize
        omega
      rw [finalizeFixtureElf_eq fixture hsize' hlayout hpatched] at hall
      split at hall
      next hpacks =>
        obtain ⟨rfl, rfl⟩ := Prod.mk.inj (Except.ok.inj hall)
        exact ⟨layout, _, hsize', hpacks, rfl, hpatched, rfl, rfl⟩
      next => cases hall

/-- What `verify_fixture_elf` compares. -/
theorem FixtureElf.verified
    (hlayout : fixture.elf.layout (splice fixture.blob (fixture.place + manifestCrcOffset) (leBytes 4 0)) =
      .ok layout) :
    ∃ verified, verifyFixtureElf reader fixture.blob = .ok verified ∧
      verified.ok = decide
        (leNat (slice fixture.blob (fixture.place + manifestSizeOffset) 4) = layout.flashImage.length ∧
          leNat (slice fixture.blob (fixture.place + manifestCrcOffset) 4) = crc32 layout.flashImage) := by
  have hinside := fixture.inside
  have hsize : fixture.place + manifestSizeOffset + 4 ≤ fixture.blob.length := by
    rw [manifestSizeOffset]
    omega
  have hplace : fixture.place + manifestCrcOffset + 4 ≤ fixture.blob.length := by
    rw [manifestCrcOffset]
    omega
  have hpack : packInto fixture.blob ((fixture.place + manifestCrcOffset : Nat) : Int) 0 =
      .ok (splice fixture.blob (fixture.place + manifestCrcOffset) (leBytes 4 0)) := by
    rw [packInto_inside hplace, if_pos (by decide)]
  have hfits : fixture.place + manifestCrcOffset + (leBytes 4 0).length ≤ fixture.blob.length := hplace
  have htables (i : Nat) (htable : fixture.elf.InTables i) :
      (splice fixture.blob (fixture.place + manifestCrcOffset) (leBytes 4 0))[i]? = fixture.blob[i]? := by
    refine getElem?_splice_of_outside hfits ?_
    have hclear := fixture.clear i
    rw [leBytes_length, manifestCrcOffset]
    by_cases hbefore : i < fixture.place + 140
    · exact Or.inl hbefore
    · right
      rw [← Nat.not_lt]
      intro hlt
      exact hclear (by omega) (by omega) htable
  have hzeroed : layoutFromBlob reader (splice fixture.blob (fixture.place + manifestCrcOffset) (leBytes 4 0)) =
      .ok layout :=
    (fixture.patched _ (length_splice hfits) htables).layoutFromBlob_eq.trans hlayout
  have hcast (offset : Nat) : (fixture.place : Int) + (offset : Nat) = ((fixture.place + offset : Nat) : Int) :=
    (Int.natCast_add _ _).symm
  rw [verifyFixtureElf, fixture.located]
  dsimp only [bind, Except.bind]
  rw [hcast, hcast, unpackFrom_inside hsize, unpackFrom_inside hplace, hpack]
  dsimp only
  rw [hzeroed]
  exact ⟨_, rfl, rfl⟩

section finalized

variable {patched : Layout}

/-- The checksum of the finalized file is the one that is found again. -/
theorem FixtureElf.verified_stamped (hpacks : layout.Packs)
    (hlayout : fixture.elf.layout fixture.blob = .ok layout)
    (hpatched : fixture.elf.layout (stamp fixture.blob fixture.place layout 0) = .ok patched) :
    ∃ verified, verifyFixtureElf reader (stamp fixture.blob fixture.place layout (crc32 patched.flashImage)) =
      .ok verified ∧ verified.ok = true := by
  have hinside := fixture.inside
  have hlength : patched.flashImage.length = layout.flashImage.length :=
    (layout_same hlayout hpatched (length_stamp hinside)).2
  have hsplice : splice (stamp fixture.blob fixture.place layout (crc32 patched.flashImage))
      (fixture.place + manifestCrcOffset) (leBytes 4 0) = stamp fixture.blob fixture.place layout 0 :=
    splice_stamp hinside
  have hzeroed : fixture.elf.layout (splice (stamp fixture.blob fixture.place layout (crc32 patched.flashImage))
      (fixture.place + manifestCrcOffset) (leBytes 4 0)) = .ok patched := hsplice ▸ hpatched
  obtain ⟨verified, hverified, hok⟩ := (fixture.stamped layout (crc32 patched.flashImage)).verified hzeroed
  have hsize : slice (stamp fixture.blob fixture.place layout (crc32 patched.flashImage))
      (fixture.place + manifestSizeOffset) 4 = leBytes 4 layout.flashImage.length :=
    @slice_stamp _ _ _ _ layout 0 hinside (by decide) rfl
  have hcrc : slice (stamp fixture.blob fixture.place layout (crc32 patched.flashImage))
      (fixture.place + manifestCrcOffset) 4 = leBytes 4 (crc32 patched.flashImage) :=
    @slice_stamp _ _ _ _ layout 4 hinside (by decide) rfl
  refine ⟨verified, hverified, hok.trans (decide_eq_true ⟨?_, ?_⟩)⟩
  · have hbound := hpacks layout.flashImage.length (List.mem_cons_self ..)
    exact (congrArg leNat hsize).trans ((leNat_leBytes_of_lt hbound).trans hlength.symm)
  · exact (congrArg leNat hcrc).trans (leNat_leBytes_of_lt (crc32_lt_two_pow _))

theorem leNat_set_ne {bytes : Bytes} {i : Nat} {b : UInt8} (changed : bytes.set i b ≠ bytes) :
    leNat (bytes.set i b) ≠ leNat bytes := by
  intro h
  have hset := leBytes_leNat (bytes.set i b)
  rw [h, List.length_set, leBytes_leNat] at hset
  exact changed hset.symm

theorem crc32_set_ne {bytes : Bytes} {i : Nat} {b : UInt8} (changed : bytes.set i b ≠ bytes) :
    crc32 (bytes.set i b) ≠ crc32 bytes := by
  intro h
  exact crcFrom_set_ne (by decide) changed (UInt32.toNat_inj.mp h)

/-- A field with another byte in it holds another number. -/
theorem leNat_slice_set_ne {bytes : Bytes} {place value i : Nat} {b : UInt8} (hi : i < 4) (hvalue : value < 2 ^ 32)
    (hfield : slice bytes place 4 = leBytes 4 value) (other : bytes[place + i]? ≠ some b) :
    leNat (slice (bytes.set (place + i) b) place 4) ≠ value := by
  have hlength : (slice bytes place 4).length = 4 := by rw [hfield, leBytes_length]
  have hread : (slice bytes place 4)[i]? = bytes[place + i]? := by rw [getElem?_slice, if_pos hi]
  have hchanged : (slice bytes place 4).set i b ≠ slice bytes place 4 :=
    set_ne_self (by omega) (hread ▸ other)
  have hne := leNat_set_ne hchanged
  rw [slice_set_of_inside hi]
  intro hsame
  rw [hsame, hfield, leNat_leBytes_of_lt hvalue] at hne
  exact hne rfl

/-- A file with a byte changed behind its tables, and what is compared there. -/
theorem FixtureElf.verified_set {k : Nat} {b : UInt8} (free : ¬fixture.elf.InTables k)
    (hlayout : fixture.elf.layout
      (splice (fixture.blob.set k b) (fixture.place + manifestCrcOffset) (leBytes 4 0)) =
      .ok layout)
    (differs : leNat (slice (fixture.blob.set k b) (fixture.place + manifestSizeOffset) 4)
      ≠ layout.flashImage.length ∨
      leNat (slice (fixture.blob.set k b) (fixture.place + manifestCrcOffset) 4) ≠ crc32 layout.flashImage) :
    ∃ verified, verifyFixtureElf reader (fixture.blob.set k b) = .ok verified ∧ verified.ok = false := by
  have htables (i : Nat) (htable : fixture.elf.InTables i) : (fixture.blob.set k b)[i]? = fixture.blob[i]? := by
    refine List.getElem?_set_ne ?_
    rintro rfl
    exact free htable
  let changed : FixtureElf reader := fixture.patched (fixture.blob.set k b) List.length_set htables
  have hchanged : changed.elf.layout (splice changed.blob (changed.place + manifestCrcOffset) (leBytes 4 0)) =
      .ok layout := hlayout
  obtain ⟨verified, hverified, hok⟩ := changed.verified hchanged
  refine ⟨verified, hverified, hok.trans (decide_eq_false fun hboth => ?_)⟩
  rcases differs with hsize | hcrc
  · exact hsize hboth.1
  · exact hcrc hboth.2

/-- Another byte of the image, the size or the checksum is found. -/
theorem FixtureElf.tampered (hpacks : layout.Packs) (hlayout : fixture.elf.layout fixture.blob = .ok layout)
    (hpatched : fixture.elf.layout (stamp fixture.blob fixture.place layout 0) = .ok patched) {k : Nat} {b : UInt8}
    (hk : k < fixture.blob.length)
    (other : (stamp fixture.blob fixture.place layout (crc32 patched.flashImage))[k]? ≠ some b)
    (free : ¬fixture.elf.InTables k)
    (hit : fixture.elf.flashSegments.countP (fun one => one.Loads k) = 1 ∨
      (fixture.place + manifestSizeOffset ≤ k ∧ k < fixture.place + manifestCrcOffset + 4)) :
    ∃ verified, verifyFixtureElf reader
      ((stamp fixture.blob fixture.place layout (crc32 patched.flashImage)).set k b) = .ok verified ∧
      verified.ok = false := by
  have hinside := fixture.inside
  have hlength : patched.flashImage.length = layout.flashImage.length :=
    (layout_same hlayout hpatched (length_stamp hinside)).2
  have hbound := hpacks layout.flashImage.length (List.mem_cons_self ..)
  have hsame : (stamp fixture.blob fixture.place layout (crc32 patched.flashImage)).length = fixture.blob.length :=
    length_stamp hinside
  have hzero : (stamp fixture.blob fixture.place layout 0).length = fixture.blob.length := length_stamp hinside
  have hsize : slice (stamp fixture.blob fixture.place layout (crc32 patched.flashImage))
      (fixture.place + manifestSizeOffset) 4 = leBytes 4 layout.flashImage.length :=
    @slice_stamp _ _ _ _ layout 0 hinside (by decide) rfl
  have hcrc : slice (stamp fixture.blob fixture.place layout (crc32 patched.flashImage))
      (fixture.place + manifestCrcOffset) 4 = leBytes 4 (crc32 patched.flashImage) :=
    @slice_stamp _ _ _ _ layout 4 hinside (by decide) rfl
  have hsplice : splice (stamp fixture.blob fixture.place layout (crc32 patched.flashImage))
      (fixture.place + manifestCrcOffset) (leBytes 4 0) = stamp fixture.blob fixture.place layout 0 :=
    splice_stamp hinside
  have hset := set_ne_self (hsame ▸ hk) other
  have hfits : fixture.place + manifestCrcOffset + (leBytes 4 0).length ≤
      (stamp fixture.blob fixture.place layout (crc32 patched.flashImage)).length := by
    rw [hsame, leBytes_length, manifestCrcOffset]
    omega
  by_cases hin : fixture.place + manifestCrcOffset ≤ k ∧ k < fixture.place + manifestCrcOffset + 4
  · -- the checksum itself: what it is compared with is the same
    obtain ⟨i, rfl⟩ := Nat.exists_eq_add_of_le hin.1
    have hzeroed := splice_set_of_inside (b := b) hfits hin
    rw [hsplice] at hzeroed
    refine (fixture.stamped layout (crc32 patched.flashImage)).verified_set free
      ((congrArg fixture.elf.layout hzeroed).trans hpatched) (Or.inr ?_)
    exact leNat_slice_set_ne (by omega) (crc32_lt_two_pow _) hcrc other
  · have hout : k < fixture.place + manifestCrcOffset ∨ fixture.place + manifestCrcOffset + 4 ≤ k := by omega
    have hzeroed := splice_set_of_outside (b := b) hfits hout
    rw [hsplice] at hzeroed
    have hkept : (stamp fixture.blob fixture.place layout 0)[k]? =
        (stamp fixture.blob fixture.place layout (crc32 patched.flashImage))[k]? := by
      rw [← hsplice]
      exact getElem?_splice_of_outside hfits hout
    by_cases hsizeIn : fixture.place + manifestSizeOffset ≤ k ∧ k < fixture.place + manifestSizeOffset + 4
    · -- the size: the image is as long as before
      obtain ⟨i, rfl⟩ := Nat.exists_eq_add_of_le hsizeIn.1
      obtain ⟨image, himage, hsame'⟩ := @layout_of_length _ _
        ((stamp fixture.blob fixture.place layout 0).set (fixture.place + manifestSizeOffset + i) b) _ hpatched
        List.length_set
      refine (fixture.stamped layout (crc32 patched.flashImage)).verified_set free
        ((congrArg fixture.elf.layout hzeroed).trans himage) (Or.inl ?_)
      dsimp only
      rw [hsame', hlength]
      exact leNat_slice_set_ne (by omega) hbound hsize other
    · -- a byte of the image: the checksum is another one
      have honce : fixture.elf.flashSegments.countP (fun one => one.Loads k) = 1 := by
        refine hit.resolve_right fun hfield => ?_
        rw [manifestSizeOffset, manifestCrcOffset] at *
        omega
      obtain ⟨place, hplace, himage⟩ := layout_set b hpatched fixture.apart (hzero ▸ hk) honce
      refine (fixture.stamped layout (crc32 patched.flashImage)).verified_set free
        ((congrArg fixture.elf.layout hzeroed).trans himage) (Or.inr ?_)
      have hunchanged : slice ((stamp fixture.blob fixture.place layout (crc32 patched.flashImage)).set k b)
          (fixture.place + manifestCrcOffset) 4 = leBytes 4 (crc32 patched.flashImage) :=
        (slice_set_of_outside hout).trans hcrc
      have hother : patched.flashImage[place]? ≠ some b := by
        rw [hplace, hkept]
        exact other
      have hlt : place < patched.flashImage.length := by
        rw [← Nat.not_le]
        intro hle
        rw [List.getElem?_eq_none hle] at hplace
        have hnone := List.getElem?_eq_none_iff.mp hplace.symm
        omega
      have hne := crc32_set_ne (set_ne_self hlt hother)
      intro hsame'
      refine hne ?_
      rw [← hsame']
      exact (congrArg leNat hunchanged).trans (leNat_leBytes_of_lt (crc32_lt_two_pow _))

end finalized

/-- A fixture that was finalized is verified, and stays as it is where it is finalized again; its manifest describes
its layout, and another byte of the flash load image, of the size or of the checksum is found, outside of the tables
that the file is read from. -/
theorem verify_of_finalized {blob : Bytes} {report : Finalized}
    (h : finalizeFixtureElf reader fixture.blob = .ok (blob, report)) :
    (∃ verified, verifyFixtureElf reader blob = .ok verified ∧ verified.ok = true) ∧
      finalizeFixtureElf reader blob = .ok (blob, report) ∧
      (∃ layout, layoutFromBlob reader blob = .ok layout ∧
        unpackFrom blob ((fixture.place + manifestSizeOffset : Nat) : Int) = .ok layout.flashImage.length ∧
        unpackFrom blob ((fixture.place + manifestFlashStartOffset : Nat) : Int) = .ok layout.flashStart ∧
        unpackFrom blob ((fixture.place + manifestFlashSizeOffset : Nat) : Int) = .ok layout.flashImage.length ∧
        unpackFrom blob ((fixture.place + manifestRamStartOffset : Nat) : Int) = .ok layout.ramStart ∧
        unpackFrom blob ((fixture.place + manifestRamSizeOffset : Nat) : Int) = .ok layout.ramSize) ∧
      ∀ k b, k < blob.length → blob[k]? ≠ some b → ¬fixture.elf.InTables k →
        (fixture.elf.flashSegments.countP (fun one => one.Loads k) = 1 ∨
          (fixture.place + manifestSizeOffset ≤ k ∧ k < fixture.place + manifestCrcOffset + 4)) →
        ∃ verified, verifyFixtureElf reader (blob.set k b) = .ok verified ∧ verified.ok = false := by
  obtain ⟨layout, patched, hsize, hpacks, hlayout, hpatched, rfl, rfl⟩ := fixture.finalized h
  have hinside := fixture.inside
  have hlength : (stamp fixture.blob fixture.place layout (crc32 patched.flashImage)).length =
      fixture.blob.length :=
    length_stamp hinside
  obtain ⟨image, hfinal, hsame⟩ := layout_of_length hlayout hlength
  have hbound {value : Nat} (hvalue : value ∈ layout.fields 0) : value < 2 ^ 32 := hpacks value hvalue
  refine ⟨fixture.verified_stamped hpacks hlayout hpatched, ?_, ⟨{ layout with flashImage := image }, ?_, ?_⟩, ?_⟩
  · -- the fields are those that stand there already
    have hfields (crc : Nat) : ({ layout with flashImage := image } : Layout).fields crc = layout.fields crc := by
      rw [Layout.fields, Layout.fields, hsame]
    have hstamp (crc : Nat) : stamp (stamp fixture.blob fixture.place layout (crc32 patched.flashImage))
        fixture.place
        { layout with flashImage := image } crc = stamp fixture.blob fixture.place layout crc := by
      rw [stamp_stamp hinside, stamp, stamp, hfields]
    have hpatched' : fixture.elf.layout (stamp (stamp fixture.blob fixture.place layout (crc32 patched.flashImage))
        fixture.place { layout with flashImage := image } 0) = .ok patched := by
      rw [hstamp]
      exact hpatched
    have hpacks' : ({ layout with flashImage := image } : Layout).Packs := by
      rw [Layout.Packs, hfields]
      exact hpacks
    have hagain := finalizeFixtureElf_eq (fixture.stamped layout (crc32 patched.flashImage)) hsize hfinal hpatched'
    rw [if_pos hpacks'] at hagain
    refine hagain.trans (congrArg Except.ok (Prod.ext (hstamp _) ?_))
    have hreport : fixture.report { layout with flashImage := image } (crc32 patched.flashImage) =
        fixture.report layout (crc32 patched.flashImage) := by
      rw [FixtureElf.report, FixtureElf.report, hsame]
    exact hreport
  · exact (fixture.stamped layout (crc32 patched.flashImage)).layoutFromBlob_eq.trans hfinal
  · dsimp only
    rw [hsame]
    refine ⟨?_, ?_, ?_, ?_, ?_⟩
    · exact @unpackFrom_stamp _ _ _ _ layout 0 hinside (by decide) (hbound (by simp [Layout.fields])) rfl
    · exact @unpackFrom_stamp _ _ _ _ layout 8 hinside (by decide) (hbound (by simp [Layout.fields])) rfl
    · exact @unpackFrom_stamp _ _ _ _ layout 12 hinside (by decide) (hbound (by simp [Layout.fields])) rfl
    · exact @unpackFrom_stamp _ _ _ _ layout 16 hinside (by decide) (hbound (by simp [Layout.fields])) rfl
    · exact @unpackFrom_stamp _ _ _ _ layout 20 hinside (by decide) (hbound (by simp [Layout.fields])) rfl
  · intro k b hk other free hit
    exact fixture.tampered hpacks hlayout hpatched (hlength ▸ hk) other free hit

end fixture

section sample

/-- The headers of a small ELF with two flash segments, the first of which holds them and the manifest. -/
def sampleHeaders (dataOffset : Nat) : Bytes :=
  [0x7F, 0x45, 0x4C, 0x46, 1, 1, 1, 0, 0, 0, 0, 0, 0, 0, 0, 0] ++ leBytes 2 2 ++ leBytes 2 40 ++
    fieldBytes [1, 0x08000000, 52, 364, 0] ++ [52, 0, 32, 0, 2, 0, 40, 0, 4, 0, 3, 0] ++
    fieldBytes [1, 0, 0x08000000, 0x08000000, 276, 276, 5, 4] ++
    fieldBytes [1, dataOffset, 0x08000114, 0x08000114, 4, 4, 5, 4]

/-- Its symbols, their names, and its section headers. -/
def sampleTail : Bytes :=
  fieldBytes [0, 0, 0, 0, 1, 0x08000074, 160, 0x00010011] ++
    ("\x00jlink_mcp_manifest\x00.manifest\x00.symtab\x00.strtab\x00\x00\x00".toList.map fun c =>
      UInt8.ofNat c.toNat) ++
    fieldBytes [0, 0, 0, 0, 0, 0, 0, 0, 0, 0] ++ fieldBytes [20, 1, 2, 0x08000074, 116, 160, 0, 0, 4, 0] ++
    fieldBytes [30, 2, 0, 0, 284, 32, 3, 1, 4, 16] ++ fieldBytes [38, 3, 0, 0, 316, 46, 0, 0, 1, 0]

def sampleSections : List Section :=
  [⟨0, 0, 0, 0⟩, ⟨116, 0x08000074, 160, 2⟩, ⟨284, 0, 32, 0⟩, ⟨316, 0, 46, 0⟩]

def sampleElf (dataOffset : Nat) : ElfFile where
  sections := sampleSections
  getSection index :=
    match sampleSections[index]? with
    | some found => .ok found
    | none => .error (.elfError "expected 40, found 0")
  segments := [⟨"PT_LOAD", 0, 0x08000000, 276⟩, ⟨"PT_LOAD", dataOffset, 0x08000114, 4⟩]
  symbolTable := some [⟨"", 0, 0, none⟩, ⟨"jlink_mcp_manifest", 0x08000074, 160, some 1⟩]
  tables := [(0, 116), (284, 240)]

/-- A reader of such files. -/
def sampleParse (blob : Bytes) : Except ArtifactError ElfFile :=
  let dataOffset := leNat (slice blob 88 4)
  if blob.length = 524 ∧ slice blob 0 116 = sampleHeaders dataOffset ∧ slice blob 284 240 = sampleTail then
    .ok (sampleElf dataOffset)
  else .error (.elfError "Magic number does not match")

def sampleReader : ElfReader where
  parse := sampleParse
  parse_congr {blob blob' elf} h same tables := by
    rw [sampleParse] at h ⊢
    split at h
    next hcheck =>
      cases Except.ok.inj h
      have hfront (i : Nat) (hi : i < 116) : blob'[i]? = blob[i]? :=
        tables i ⟨(0, 116), List.mem_cons_self .., Nat.zero_le i, by omega⟩
      have htail (i : Nat) (hle : 284 ≤ i) (hi : i < 524) : blob'[i]? = blob[i]? :=
        tables i ⟨(284, 240), List.mem_cons_of_mem _ (List.mem_cons_self ..), hle, by omega⟩
      have hoffset : slice blob' 88 4 = slice blob 88 4 := slice_congr fun i _ hi => hfront i (by omega)
      have hheaders : slice blob' 0 116 = slice blob 0 116 := slice_congr fun i _ hi => hfront i (by omega)
      have htables : slice blob' 284 240 = slice blob 284 240 := slice_congr fun i hle hi => htail i hle (by omega)
      rw [hoffset, hheaders, htables, same, if_pos hcheck]
    next => cases h

theorem parse_sampleReader : sampleReader.parse = sampleParse := rfl

theorem sampleParse_eq {blob : Bytes} {dataOffset : Nat} (length : blob.length = 524)
    (offset : leNat (slice blob 88 4) = dataOffset) (headers : slice blob 0 116 = sampleHeaders dataOffset)
    (tail : slice blob 284 240 = sampleTail) : sampleParse blob = .ok (sampleElf dataOffset) := by
  rw [sampleParse, offset]
  exact if_pos ⟨length, headers, tail⟩

/-- The manifest, the four bytes of the second segment, and four that the other data offset would load. -/
def sampleBlob : Bytes :=
  sampleHeaders 276 ++ List.replicate 160 0xFF ++ [1, 2, 3, 4] ++ [0x2E, 0xE7, 0x8E, 0x3A] ++ sampleTail

theorem parse_sampleBlob : sampleReader.parse sampleBlob = .ok (sampleElf 276) := by
  rw [parse_sampleReader]
  exact sampleParse_eq (by decide +kernel) (by decide +kernel) (by decide +kernel) (by decide +kernel)

theorem manifestLocation_sampleBlob :
    manifestLocation sampleReader sampleBlob = .ok (((116 : Nat) : Int), 0x08000074, 160) := by
  rw [manifestLocation, parse_sampleBlob]
  decide

theorem inside_sampleBlob : 116 + 160 ≤ sampleBlob.length := by decide +kernel

def sampleFixture : FixtureElf sampleReader where
  blob := sampleBlob
  elf := sampleElf 276
  place := 116
  address := 0x08000074
  size := 160
  parsed := parse_sampleBlob
  located := manifestLocation_sampleBlob
  inside := inside_sampleBlob
  clear i hle hlt := by
    rintro ⟨table, htable, hfrom, hto⟩
    have hcases : table = (0, 116) ∨ table = (284, 240) := by
      simpa [sampleElf] using htable
    rcases hcases with rfl | rfl
    · omega
    · omega
  apart := by decide

/-- A finalization of the sample that passes a check. -/
theorem finalized_of_check {check : Bytes → Bool}
    (h : (finalizeFixtureElf sampleReader sampleBlob).toOption.any (fun result => check result.1) = true) :
    ∃ blob report, finalizeFixtureElf sampleReader sampleFixture.blob = .ok (blob, report) ∧ check blob = true := by
  have hblob : sampleFixture.blob = sampleBlob := rfl
  rw [hblob]
  cases hresult : finalizeFixtureElf sampleReader sampleBlob with
  | error e =>
    rw [hresult] at h
    exact absurd h Bool.false_ne_true
  | ok result =>
    rw [hresult] at h
    exact ⟨result.1, result.2, rfl, h⟩

set_option maxRecDepth 100000 in
/-- The offset of the second flash segment is in the load image, and the file can be verified behind another one. -/
theorem verify_of_tamperedHeader :
    ∃ blob report, finalizeFixtureElf sampleReader sampleFixture.blob = .ok (blob, report) ∧
      88 < blob.length ∧ blob[88]? ≠ some 0x18 ∧
      sampleFixture.elf.flashSegments.countP (fun one => one.Loads 88) = 1 ∧
      ∃ verified, verifyFixtureElf sampleReader (blob.set 88 0x18) = .ok verified ∧ verified.ok = true := by
  let check (blob : Bytes) : Bool :=
    88 < blob.length && blob[88]? ≠ some 0x18 &&
      (verifyFixtureElf sampleReader (blob.set 88 0x18)).toOption.any Verified.ok
  have hfinalized :
      (finalizeFixtureElf sampleReader sampleBlob).toOption.any (fun result => check result.1) = true := by
    decide +kernel
  have honce : sampleFixture.elf.flashSegments.countP (fun one => one.Loads 88) = 1 := by decide
  obtain ⟨blob, report, h, hcheck⟩ := finalized_of_check hfinalized
  obtain ⟨hbyte, hverified⟩ := Bool.and_eq_true_iff.mp hcheck
  obtain ⟨hlength, hother⟩ := Bool.and_eq_true_iff.mp hbyte
  cases hresult : verifyFixtureElf sampleReader (blob.set 88 0x18) with
  | error e =>
    rw [hresult] at hverified
    exact absurd hverified Bool.false_ne_true
  | ok verified =>
    rw [hresult] at hverified
    exact ⟨blob, report, h, of_decide_eq_true hlength, of_decide_eq_true hother, honce, verified, hresult,
      hverified⟩

set_option maxRecDepth 100000 in
theorem verify_of_finalized_sample :
    ∃ blob report, finalizeFixtureElf sampleReader blob = .ok (blob, report) ∧
      (∃ verified, verifyFixtureElf sampleReader blob = .ok verified ∧ verified.ok = true) ∧
      ∃ verified, verifyFixtureElf sampleReader (blob.set 276 0x55) = .ok verified ∧ verified.ok = false := by
  have hfinalized : (finalizeFixtureElf sampleReader sampleBlob).toOption.any (fun result =>
      decide (276 < result.1.length ∧ result.1[276]? ≠ some 0x55)) = true := by decide +kernel
  have honce : sampleFixture.elf.flashSegments.countP (fun one => one.Loads 276) = 1 := by decide
  have hfree : ¬sampleFixture.elf.InTables 276 := by decide
  obtain ⟨blob, report, h, hcheck⟩ :=
    @finalized_of_check (fun blob => decide (276 < blob.length ∧ blob[276]? ≠ some 0x55)) hfinalized
  obtain ⟨hlength, hother⟩ := of_decide_eq_true hcheck
  obtain ⟨hverified, hagain, -, htampered⟩ := verify_of_finalized sampleFixture h
  exact ⟨blob, report, hagain, hverified, htampered 276 0x55 hlength hother hfree (Or.inl honce)⟩

end sample

end JLinkMcp.Artifacts
