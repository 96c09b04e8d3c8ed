/-
# The fields a reader consumes

Every operation of `messagereader` takes bytes that are there or throws: `read_u8`,
`read_u32` and `read_u64` one, four and eight of them, and `read_bytes` four and
then as many as these say.  The rest of the reader is made of these four, so
every operation is self-delimiting, and the operations that read arguments are
described by the widths of their fields.
-/

import Webfuse.Basis.Delimited
import Webfuse.Message.Codec

namespace Webfuse

open Basis

variable {ω : Type}

/-! ### The four reads -/

theorem readU8_eq : (readU8 : ReadM ω UInt8) = fixed 1 (fun l => l.headD 0) outOfBounds := by
  refine eq_fixed_of_reads ?_ ?_
  · intro l hl
    match l, hl with
    | [b], _ => exact reads_readU8 b
  · intro data pos m hlen
    exact dif_neg (by omega)

theorem readU32_eq :
    (readU32 : ReadM ω UInt32) = fixed 4 (fun l => UInt32.ofNat (ofBigEndian l)) outOfBounds := by
  refine eq_fixed_of_reads ?_ ?_
  · intro l hl
    match l, hl with
    | [a, b, c, d], _ => exact reads_readU32_bytes a b c d
  · intro data pos m hlen
    exact dif_neg (by omega)

theorem readU64_eq :
    (readU64 : ReadM ω UInt64) =
      fixed 8 (fun l => low32 (UInt64.ofNat (ofBigEndian l))) outOfBounds := by
  refine eq_fixed_of_reads ?_ ?_
  · intro l hl
    match l, hl with
    | [a, b, c, d, e, f, g, h], _ => exact reads_readU64_bytes a b c d e f g h
  · intro data pos m hlen
    exact dif_neg (by omega)

theorem readBytes_eq : (readBytes : ReadM ω Bytes) = readU32 >>= fun size =>
    fixed size.toNat id outOfBounds := rfl

theorem readMode_eq : (readMode : ReadM ω UInt32) =
    fixed 4 (fun l => (FileMode.mk (UInt32.ofNat (ofBigEndian l))).toMode) outOfBounds := by
  rw [readMode, readU32_eq]
  exact fixed_map ..

theorem readResult_eq : (readResult : ReadM ω Int32) =
    fixed 4 (fun l => (UInt32.ofNat (ofBigEndian l)).toInt32) outOfBounds := by
  have h : (readResult : ReadM ω Int32) = readU32 >>= fun value => pure value.toInt32 := by
    simp only [readResult, readI32, bind_assoc, pure_bind, Status.toFusestatus_eq]
  rw [h, readU32_eq]
  exact fixed_map ..

/-- The word that stands at a place of a message. -/
def wordAt (l : Bytes) (o : ℕ) : UInt32 := UInt32.ofNat (ofBigEndian ((l.drop o).take 4))

/-- What is read of the double word at a place of a message. -/
def doubleAt (l : Bytes) (o : ℕ) : UInt64 :=
  low32 (UInt64.ofNat (ofBigEndian ((l.drop o).take 8)))

theorem wordAt_drop (l : Bytes) (pos o : ℕ) : wordAt (l.drop pos) o = wordAt l (pos + o) := by
  rw [wordAt, wordAt, List.drop_drop]

/-- A byte string that is there is read. -/
theorem readBytes_ok {data : Bytes} {pos : ℕ} {m : ω}
    (h : pos + 4 + (wordAt data pos).toNat ≤ data.length) :
    readBytes ⟨⟨data, pos⟩, m⟩ =
      .ok ((data.drop (pos + 4)).take (wordAt data pos).toNat)
        ⟨⟨data, pos + 4 + (wordAt data pos).toNat⟩, m⟩ := by
  have hword : pos + 4 ≤ data.length := by omega
  rw [readBytes_eq, readU32_eq, bind_of_ok (fixed_ok hword)]
  exact fixed_ok h

/-- A byte string that is not there throws. -/
theorem readBytes_error {data : Bytes} {pos : ℕ} {m : ω}
    (h : ¬ pos + 4 + (wordAt data pos).toNat ≤ data.length) :
    ∃ pos', readBytes ⟨⟨data, pos⟩, m⟩ = .error outOfBounds ⟨⟨data, pos'⟩, m⟩ := by
  rw [readBytes_eq, readU32_eq]
  by_cases hword : pos + 4 ≤ data.length
  · rw [bind_of_ok (fixed_ok hword)]
    exact ⟨_, fixed_error h⟩
  · exact ⟨_, bind_of_error (fixed_error hword) _⟩

/-! ### Reading leaves the memory -/

@[simp] theorem onCursor_readU8 : (onCursor readU8 : ReadM ω UInt8) = readU8 := by
  rw [readU8_eq, readU8_eq, onCursor_fixed]

@[simp] theorem onCursor_readU32 : (onCursor readU32 : ReadM ω UInt32) = readU32 := by
  rw [readU32_eq, readU32_eq, onCursor_fixed]

@[simp] theorem onCursor_readU64 : (onCursor readU64 : ReadM ω UInt64) = readU64 := by
  rw [readU64_eq, readU64_eq, onCursor_fixed]

@[simp] theorem onCursor_readI32 : (onCursor readI32 : ReadM ω Int32) = readI32 := by
  simp only [readI32, onCursor_bind, onCursor_readU32, onCursor_pure]

@[simp] theorem onCursor_readBool : (onCursor readBool : ReadM ω Bool) = readBool := by
  simp only [readBool, onCursor_bind, onCursor_readU8, onCursor_pure]

@[simp] theorem onCursor_readBytes : (onCursor readBytes : ReadM ω Bytes) = readBytes := by
  simp only [readBytes_eq, onCursor_bind, onCursor_readU32, onCursor_fixed]

@[simp] theorem onCursor_readStr : (onCursor readStr : ReadM ω Bytes) = readStr :=
  onCursor_readBytes

@[simp] theorem onCursor_readAccessMode :
    (onCursor readAccessMode : ReadM ω Int32) = readAccessMode := by
  simp only [readAccessMode, onCursor_bind, onCursor_readU8, onCursor_pure]

@[simp] theorem onCursor_readMode : (onCursor readMode : ReadM ω UInt32) = readMode := by
  simp only [readMode, onCursor_bind, onCursor_readU32, onCursor_pure]

@[simp] theorem onCursor_readOpenflags :
    (onCursor readOpenflags : ReadM ω Int32) = readOpenflags := by
  simp only [readOpenflags, onCursor_bind, onCursor_readI32, onCursor_pure]

@[simp] theorem onCursor_readTime : (onCursor readTime : ReadM ω Timespec) = readTime := by
  simp only [readTime, onCursor_bind, onCursor_readU64, onCursor_readU32, onCursor_pure]

/-! ### Every operation ends where its fields end -/

theorem selfDelimiting_readU8 : SelfDelimiting (readU8 : ReadM ω UInt8) :=
  readU8_eq ▸ .fixed ..

theorem selfDelimiting_readU32 : SelfDelimiting (readU32 : ReadM ω UInt32) :=
  readU32_eq ▸ .fixed ..

theorem selfDelimiting_readU64 : SelfDelimiting (readU64 : ReadM ω UInt64) :=
  readU64_eq ▸ .fixed ..

theorem selfDelimiting_readI32 : SelfDelimiting (readI32 : ReadM ω Int32) :=
  selfDelimiting_readU32.bind fun _ => .pure _

theorem selfDelimiting_readBool : SelfDelimiting (readBool : ReadM ω Bool) :=
  selfDelimiting_readU8.bind fun _ => .pure _

theorem selfDelimiting_readBytes : SelfDelimiting (readBytes : ReadM ω Bytes) :=
  selfDelimiting_readU32.bind fun size => .fixed size.toNat id outOfBounds

theorem selfDelimiting_readStr : SelfDelimiting (readStr : ReadM ω Bytes) :=
  selfDelimiting_readBytes

theorem selfDelimiting_readResult : SelfDelimiting (readResult : ReadM ω Int32) :=
  selfDelimiting_readI32.bind fun _ => .pure _

theorem selfDelimiting_readAccessMode : SelfDelimiting (readAccessMode : ReadM ω Int32) :=
  selfDelimiting_readU8.bind fun _ => .pure _

theorem selfDelimiting_readMode : SelfDelimiting (readMode : ReadM ω UInt32) :=
  selfDelimiting_readU32.bind fun _ => .pure _

theorem selfDelimiting_readOpenflags : SelfDelimiting (readOpenflags : ReadM ω Int32) :=
  selfDelimiting_readI32.bind fun _ => .pure _

theorem selfDelimiting_readTime : SelfDelimiting (readTime : ReadM ω Timespec) :=
  selfDelimiting_readU64.bind fun _ => selfDelimiting_readU32.bind fun _ => .pure _

theorem selfDelimiting_readHeader : SelfDelimiting (readHeader : ReadM ω (UInt32 × UInt8)) :=
  selfDelimiting_readU32.bind fun _ => selfDelimiting_readU8.bind fun _ => .pure _

theorem selfDelimiting_readStringsLoop (n : ℕ) : SelfDelimiting (readStringsLoop n) := by
  induction n with
  | zero => exact .pure _
  | succ n ih =>
      exact selfDelimiting_readStr.bind fun _ => (SelfDelimiting.assign _).bind fun _ => ih

theorem selfDelimiting_readStrings : SelfDelimiting readStrings :=
  selfDelimiting_readU32.bind fun count => selfDelimiting_readStringsLoop count.toNat

theorem selfDelimiting_readAttr : SelfDelimiting readAttr :=
  .assigned selfDelimiting_readU64 <| .assigned selfDelimiting_readU64 <|
    .assigned selfDelimiting_readMode <| .assigned selfDelimiting_readU32 <|
    .assigned selfDelimiting_readU32 <| .assigned selfDelimiting_readU64 <|
    .assigned selfDelimiting_readU64 <| .assigned selfDelimiting_readU64 <|
    .assigned selfDelimiting_readU64 <| .assigned selfDelimiting_readU32 <|
    .assigned selfDelimiting_readU64 <| .assigned selfDelimiting_readU32 <|
    .assigned selfDelimiting_readU64 <|
    selfDelimiting_readU32.bind fun _ => .assign _

theorem selfDelimiting_readStatistics : SelfDelimiting readStatistics :=
  .assigned selfDelimiting_readU64 <| .assigned selfDelimiting_readU64 <|
    .assigned selfDelimiting_readU64 <| .assigned selfDelimiting_readU64 <|
    .assigned selfDelimiting_readU64 <| .assigned selfDelimiting_readU64 <|
    .assigned selfDelimiting_readU64 <|
    selfDelimiting_readU64.bind fun _ => .assign _

/-! ### The widths of fields -/

/-- The widths of the fields of a message: a byte, a word, a double word, and a
string behind a word that gives its length. -/
def Field.byte : Bytes → ℕ := fun _ => 1
def Field.word : Bytes → ℕ := fun _ => 4
def Field.double : Bytes → ℕ := fun _ => 8
def Field.string : Bytes → ℕ := fun l => 4 + ofBigEndian (l.take 4)

theorem scans_readU8 : Scans (readU8 : ReadM ω UInt8) [Field.byte] := readU8_eq ▸ .fixed 1 _ _

theorem scans_readU32 : Scans (readU32 : ReadM ω UInt32) [Field.word] := readU32_eq ▸ .fixed 4 _ _

theorem scans_readU64 : Scans (readU64 : ReadM ω UInt64) [Field.double] :=
  readU64_eq ▸ .fixed 8 _ _

/-- The numeral of four bytes is a word, and so is that of fewer. -/
theorem wordAt_toNat (data : Bytes) (pos : ℕ) :
    (wordAt data pos).toNat = ofBigEndian ((data.drop pos).take 4) := by
  have hle : ((data.drop pos).take 4).length ≤ 4 := List.length_take_le ..
  have hlt : ofBigEndian ((data.drop pos).take 4) < 2 ^ 32 :=
    (ofBigEndian_lt _).trans_le (Nat.pow_le_pow_right (by decide) (by omega))
  rw [wordAt, UInt32.toNat_ofNat']
  exact Nat.mod_eq_of_lt hlt

/-- A string takes its length field and as many bytes as that says. -/
theorem Field.string_drop (data : Bytes) (pos : ℕ) :
    Field.string (data.drop pos) = 4 + (wordAt data pos).toNat := by
  rw [wordAt_toNat]
  rfl

theorem scans_readStr : Scans (readStr : ReadM ω Bytes) [Field.string] := by
  intro data pos m hpos
  have hlen : (data.drop pos).length = data.length - pos := List.length_drop ..
  have hwidth := Field.string_drop data pos
  rw [extent]
  by_cases hall : pos + 4 + (wordAt data pos).toNat ≤ data.length
  · rw [if_pos (by omega), hwidth]
    have hread : readStr _ = _ := readBytes_ok (m := m) hall
    rw [hread, Nat.add_assoc]
    exact ⟨_, rfl⟩
  · have hout : ¬ Field.string (data.drop pos) ≤ (data.drop pos).length := by omega
    obtain ⟨pos', herr⟩ := readBytes_error (m := m) hall
    rw [if_neg hout]
    exact ⟨_, _, herr⟩

/-- A string that was read has the length its length field says. -/
theorem readStr_ok {data l : Bytes} {pos : ℕ} {m : ω} {st : Scan UInt8 ω}
    (h : readStr ⟨⟨data, pos⟩, m⟩ = .ok l st) :
    pos + 4 ≤ data.length ∧ l.length = ofBigEndian ((data.drop pos).take 4) := by
  change readBytes ⟨⟨data, pos⟩, m⟩ = _ at h
  by_cases hall : pos + 4 + (wordAt data pos).toNat ≤ data.length
  · have hword : pos + 4 ≤ data.length := by omega
    rw [readBytes_ok hall] at h
    injection h with hl
    refine ⟨hword, ?_⟩
    rw [← hl, ← wordAt_toNat, List.length_take, List.length_drop]
    omega
  · obtain ⟨pos', herr⟩ := readBytes_error (m := m) hall
    rw [herr] at h
    cases h

theorem scans_readI32 : Scans (readI32 : ReadM ω Int32) [Field.word] :=
  scans_readU32.bind fun _ => .pure _

theorem scans_readBool : Scans (readBool : ReadM ω Bool) [Field.byte] :=
  scans_readU8.bind fun _ => .pure _

theorem scans_readAccessMode : Scans (readAccessMode : ReadM ω Int32) [Field.byte] :=
  scans_readU8.bind fun _ => .pure _

theorem scans_readMode : Scans (readMode : ReadM ω UInt32) [Field.word] :=
  scans_readU32.bind fun _ => .pure _

theorem scans_readOpenflags : Scans (readOpenflags : ReadM ω Int32) [Field.word] :=
  scans_readI32.bind fun _ => .pure _

/-! ### The header -/

/-- The id of a message. -/
def messageId (message : Bytes) : UInt32 := UInt32.ofNat (ofBigEndian (message.take 4))

/-- The type byte of a message. -/
def typeByte (message : Bytes) : UInt8 := message.getD 4 0

theorem messageId_header (id : UInt32) (rest : Bytes) :
    messageId (bytesOfU32 id ++ rest) = id := by
  have hlt : id.toNat < 256 ^ 4 := id.toNat_lt.trans_eq (by decide)
  rw [messageId, List.take_append_of_le_length (by simp), List.take_of_length_le (by simp),
    bytesOfU32_eq, ofBigEndian_bigEndian, Nat.mod_eq_of_lt hlt, UInt32.ofNat_toNat]

theorem scans_readHeader :
    Scans (readHeader : ReadM ω (UInt32 × UInt8)) [Field.word, Field.byte] :=
  scans_readU32.bind fun _ => scans_readU8.bind fun _ => .pure _

/-- A message of less than five bytes throws. -/
theorem readHeader_error {message : Bytes} {m : ω} (h : message.length < 5) :
    Throws ((readHeader : ReadM ω (UInt32 × UInt8)) ⟨⟨message, 0⟩, m⟩) := by
  have hextent : extent [Field.word, Field.byte] message = none := by
    simp only [extent, Field.word, Field.byte, List.length_drop]
    split_ifs
    · omega
    · rfl
    · rfl
  have hread := scans_readHeader message 0 m (Nat.zero_le _)
  rw [List.drop_zero, hextent] at hread
  exact hread

/-- **A message of at least five bytes has a header.** -/
theorem readHeader_of_length {message : Bytes} (h : 5 ≤ message.length) (m : ω) :
    readHeader ⟨⟨message, 0⟩, m⟩ =
      .ok (messageId message, typeByte message) ⟨⟨message, 5⟩, m⟩ := by
  have hextent : extent [Field.word, Field.byte] message = some 5 := by
    simp only [extent, Field.word, Field.byte, List.length_drop]
    rw [if_pos (by omega), if_pos (by omega)]
    rfl
  have hread := scans_readHeader message 0 m (Nat.zero_le _)
  rw [List.drop_zero, hextent] at hread
  obtain ⟨⟨id, byte⟩, hread⟩ := hread
  obtain ⟨-, rest, hmessage⟩ := readHeader_ok hread
  have hid : messageId message = id := by
    rw [hmessage]
    exact messageId_header id _
  have hbyte : typeByte message = byte := by
    rw [hmessage]
    rfl
  rw [hread, hid, hbyte]

end Webfuse
