/-
# `messagewriter`

`src/webfuse/ws/messagewriter.cpp`.  A writer holds the message built so far:
four bytes of id, the type byte and the fields appended after them.  The source
keeps `LWS_PRE` bytes in front of the message as head room for libwebsockets;
no function reads them, so `data` starts behind them and `get_data` is `data`.

Every field is appended, and what is appended depends on the field alone:
`bytesOfU32`, `bytesOfData` and their siblings are these bytes, and the
equations `writeU32_data` etc. are what the codec is verified with.
-/

import Mathlib.Data.Nat.Bitwise
import Webfuse.Basis.BigEndian
import Webfuse.Filesystem.Flags
import Webfuse.Filesystem.Interface

namespace Webfuse

open Basis

/-- `class messagewriter`.  Both constructors write the header, so every writer
holds at least its five bytes. -/
structure MessageWriter where
  id : UInt32
  data : Bytes
  header : 5 ≤ data.length
deriving DecidableEq

/-- The four bytes `write_u32` and `set_id` store. -/
def bytesOfU32 (value : UInt32) : Bytes :=
  [((value >>> 24) &&& 0xff).toUInt8, ((value >>> 16) &&& 0xff).toUInt8,
    ((value >>> 8) &&& 0xff).toUInt8, (value &&& 0xff).toUInt8]

/-- The eight bytes `write_u64` stores. -/
def bytesOfU64 (value : UInt64) : Bytes :=
  [((value >>> 56) &&& 0xff).toUInt8, ((value >>> 48) &&& 0xff).toUInt8,
    ((value >>> 40) &&& 0xff).toUInt8, ((value >>> 32) &&& 0xff).toUInt8,
    ((value >>> 24) &&& 0xff).toUInt8, ((value >>> 16) &&& 0xff).toUInt8,
    ((value >>> 8) &&& 0xff).toUInt8, (value &&& 0xff).toUInt8]

/-- **`write_u32` writes the big-endian numeral of its value.** -/
theorem bytesOfU32_eq (value : UInt32) : bytesOfU32 value = bigEndian 4 value.toNat := by
  have h := value.toNat_lt
  simp only [bytesOfU32, bigEndian, List.nil_append, List.cons_append, List.cons.injEq, and_true]
  refine ⟨?_, ?_, ?_, ?_⟩ <;> refine UInt8.toNat_inj.1 ?_ <;>
    simp [Nat.shiftRight_eq_div_pow, and_byte] <;> omega

/-- **`write_u64` writes the big-endian numeral of its value.** -/
theorem bytesOfU64_eq (value : UInt64) : bytesOfU64 value = bigEndian 8 value.toNat := by
  have h := value.toNat_lt
  simp only [bytesOfU64, bigEndian, List.nil_append, List.cons_append, List.cons.injEq, and_true]
  refine ⟨?_, ?_, ?_, ?_, ?_, ?_, ?_, ?_⟩ <;> refine UInt8.toNat_inj.1 ?_ <;>
    simp [Nat.shiftRight_eq_div_pow, and_byte] <;> omega

@[simp] theorem bytesOfU32_length (value : UInt32) : (bytesOfU32 value).length = 4 := rfl

@[simp] theorem bytesOfU64_length (value : UInt64) : (bytesOfU64 value).length = 8 := rfl

namespace MessageWriter

/-- The constructors: an id of zero and the type byte. -/
def withType (type : UInt8) : MessageWriter :=
  ⟨0, bytesOfU32 0 ++ [type], by simp⟩

/-- `messagewriter(request_type)`. -/
def ofRequest (reqType : RequestType) : MessageWriter := withType reqType.toByte

/-- `messagewriter(response_type)`. -/
def ofResponse (resType : ResponseType) : MessageWriter := withType resType.toByte

/-- `set_id` overwrites the first four bytes. -/
def setId (w : MessageWriter) (value : UInt32) : MessageWriter :=
  ⟨value,
    (((w.data.set 0 ((value >>> 24) &&& 0xff).toUInt8).set
      1 ((value >>> 16) &&& 0xff).toUInt8).set
      2 ((value >>> 8) &&& 0xff).toUInt8).set
      3 (value &&& 0xff).toUInt8,
    by simpa using w.header⟩

/-- `data.push_back` and `data.resize`: bytes behind those already there. -/
def append (w : MessageWriter) (l : Bytes) : MessageWriter :=
  ⟨w.id, w.data ++ l, by have := w.header; simp; omega⟩

def writeBool (w : MessageWriter) (value : Bool) : MessageWriter :=
  w.append [if value then 0x01 else 0x00]

def writeU8 (w : MessageWriter) (value : UInt8) : MessageWriter := w.append [value]

def writeI8 (w : MessageWriter) (value : Int8) : MessageWriter := w.append [value.toUInt8]

def writeU32 (w : MessageWriter) (value : UInt32) : MessageWriter := w.append (bytesOfU32 value)

def writeI32 (w : MessageWriter) (value : Int32) : MessageWriter := w.writeU32 value.toUInt32

def writeU64 (w : MessageWriter) (value : UInt64) : MessageWriter := w.append (bytesOfU64 value)

/-- `write_data`: the low 32 bits of the size, and as many bytes of the buffer. -/
def writeData (w : MessageWriter) (buffer : Bytes) (size : ℕ) : MessageWriter :=
  let effectiveSize := UInt32.ofNat (size &&& 0xffffffff)
  let w := w.writeU32 effectiveSize
  if 0 < size then w.append (buffer.take effectiveSize.toNat) else w

def writeStr (w : MessageWriter) (value : Bytes) : MessageWriter := w.writeData value value.length

/-- `write_strings`: the low 32 bits of the count, and every string. -/
def writeStrings (w : MessageWriter) (list : List Bytes) : MessageWriter :=
  let count := UInt32.ofNat (list.length &&& 0xffffffff)
  list.foldl writeStr (w.writeU32 count)

def writeAccessMode (w : MessageWriter) (value : Int32) : MessageWriter :=
  w.writeI8 (AccessMode.fromInt value).value

/-- `RENAME_NOREPLACE` and `RENAME_EXCHANGE`, of the system and of the wire. -/
def RENAME_NOREPLACE : UInt32 := 1
def RENAME_EXCHANGE : UInt32 := 2
def rename_noreplace : UInt8 := 0x01
def rename_exchange : UInt8 := 0x02

/-- The byte `write_rename_flags` writes. -/
def renameFlagsByte (value : UInt32) : UInt8 :=
  let flags : UInt8 := 0
  let flags := if RENAME_NOREPLACE = value &&& RENAME_NOREPLACE then flags ||| rename_noreplace
    else flags
  let flags := if RENAME_EXCHANGE = value &&& RENAME_EXCHANGE then flags ||| rename_exchange
    else flags
  flags

def writeRenameFlags (w : MessageWriter) (value : UInt32) : MessageWriter :=
  w.writeU8 (renameFlagsByte value)

def writeMode (w : MessageWriter) (value : UInt32) : MessageWriter :=
  w.writeU32 (FileMode.fromMode value).value

def writeUid (w : MessageWriter) (value : UInt32) : MessageWriter := w.writeU32 value

def writeGid (w : MessageWriter) (value : UInt32) : MessageWriter := w.writeU32 value

def writeOpenflags (w : MessageWriter) (value : Int32) : MessageWriter :=
  w.writeI32 (OpenFlags.fromInt value).value

/-- `write_time`: all of the seconds, the low 32 bits of the nanoseconds. -/
def writeTime (w : MessageWriter) (value : Timespec) : MessageWriter :=
  (w.writeU64 value.tv_sec.toUInt64).writeU32 value.tv_nsec.toUInt64.toUInt32

/-- `write_attr`.  `write_mode` translates the mode that `from_mode` already
translated. -/
def writeAttr (w : MessageWriter) (attr : Stat) : MessageWriter :=
  w.writeU64 attr.st_ino
    |>.writeU64 attr.st_nlink
    |>.writeMode (FileMode.fromMode attr.st_mode).value
    |>.writeU32 attr.st_uid
    |>.writeU32 attr.st_gid
    |>.writeU64 attr.st_rdev
    |>.writeU64 attr.st_size.toUInt64
    |>.writeU64 attr.st_blocks.toUInt64
    |>.writeTime attr.st_atim
    |>.writeTime attr.st_mtim
    |>.writeTime attr.st_ctim

def writeStatistics (w : MessageWriter) (statistics : Statvfs) : MessageWriter :=
  w.writeU64 statistics.f_bsize
    |>.writeU64 statistics.f_frsize
    |>.writeU64 statistics.f_blocks
    |>.writeU64 statistics.f_bfree
    |>.writeU64 statistics.f_bavail
    |>.writeU64 statistics.f_files
    |>.writeU64 statistics.f_ffree
    |>.writeU64 statistics.f_namemax

/-! ### What is appended -/

/-- What `write_data` appends for the whole of a buffer: the low 32 bits of its
size, and as many of its bytes. -/
def bytesOfData (buffer : Bytes) : Bytes :=
  bytesOfU32 (UInt32.ofNat buffer.length) ++ buffer.take (buffer.length % 2 ^ 32)

/-- What `write_strings` appends: the low 32 bits of the count, and every string. -/
def bytesOfStrings (list : List Bytes) : Bytes :=
  bytesOfU32 (UInt32.ofNat list.length) ++ list.flatMap bytesOfData

def bytesOfTime (value : Timespec) : Bytes :=
  bytesOfU64 value.tv_sec.toUInt64 ++ bytesOfU32 value.tv_nsec.toUInt64.toUInt32

@[simp] theorem append_data (w : MessageWriter) (l : Bytes) : (w.append l).data = w.data ++ l := rfl

@[simp] theorem writeBool_data (w : MessageWriter) (value : Bool) :
    (w.writeBool value).data = w.data ++ [if value then 0x01 else 0x00] := rfl

@[simp] theorem writeU8_data (w : MessageWriter) (value : UInt8) :
    (w.writeU8 value).data = w.data ++ [value] := rfl

@[simp] theorem writeI8_data (w : MessageWriter) (value : Int8) :
    (w.writeI8 value).data = w.data ++ [value.toUInt8] := rfl

@[simp] theorem writeU32_data (w : MessageWriter) (value : UInt32) :
    (w.writeU32 value).data = w.data ++ bytesOfU32 value := rfl

@[simp] theorem writeI32_data (w : MessageWriter) (value : Int32) :
    (w.writeI32 value).data = w.data ++ bytesOfU32 value.toUInt32 := rfl

@[simp] theorem writeU64_data (w : MessageWriter) (value : UInt64) :
    (w.writeU64 value).data = w.data ++ bytesOfU64 value := rfl

theorem effectiveSize_eq (size : ℕ) : UInt32.ofNat (size &&& 0xffffffff) = UInt32.ofNat size := by
  refine UInt32.toNat_inj.1 ?_
  have : size &&& 0xffffffff = size % 2 ^ 32 := Nat.and_two_pow_sub_one_eq_mod size 32
  simp [this]

/-- `write_data` on the first `size` bytes of a buffer of at least that size. -/
theorem writeData_data (w : MessageWriter) {buffer : Bytes} {size : ℕ} (h : size ≤ buffer.length) :
    (w.writeData buffer size).data = w.data ++ bytesOfData (buffer.take size) := by
  have hlen : (buffer.take size).length = size := by simpa using h
  have hmod : size % 2 ^ 32 ≤ size := Nat.mod_le ..
  unfold writeData bytesOfData
  rw [hlen, effectiveSize_eq, List.take_take, Nat.min_eq_left hmod]
  split_ifs with hpos
  · simp
  · obtain rfl : size = 0 := by omega
    simp

@[simp] theorem writeStr_data (w : MessageWriter) (value : Bytes) :
    (w.writeStr value).data = w.data ++ bytesOfData value := by
  rw [writeStr, writeData_data w le_rfl, List.take_length]

@[simp] theorem writeStrings_data (w : MessageWriter) (list : List Bytes) :
    (w.writeStrings list).data = w.data ++ bytesOfStrings list := by
  have hfold : ∀ (l : List Bytes) (w : MessageWriter),
      (l.foldl writeStr w).data = w.data ++ l.flatMap bytesOfData := by
    intro l
    induction l with
    | nil => intro w; simp
    | cons value l ih => intro w; simp [ih]
  rw [writeStrings, hfold, writeU32_data, effectiveSize_eq, bytesOfStrings, List.append_assoc]

@[simp] theorem writeAccessMode_data (w : MessageWriter) (value : Int32) :
    (w.writeAccessMode value).data = w.data ++ [(AccessMode.fromInt value).value.toUInt8] := rfl

@[simp] theorem writeRenameFlags_data (w : MessageWriter) (value : UInt32) :
    (w.writeRenameFlags value).data = w.data ++ [renameFlagsByte value] := rfl

@[simp] theorem writeMode_data (w : MessageWriter) (value : UInt32) :
    (w.writeMode value).data = w.data ++ bytesOfU32 (fileModeBits value) := by
  rw [writeMode, writeU32_data, FileMode.fromMode_value]

@[simp] theorem writeUid_data (w : MessageWriter) (value : UInt32) :
    (w.writeUid value).data = w.data ++ bytesOfU32 value := rfl

@[simp] theorem writeGid_data (w : MessageWriter) (value : UInt32) :
    (w.writeGid value).data = w.data ++ bytesOfU32 value := rfl

@[simp] theorem writeOpenflags_data (w : MessageWriter) (value : Int32) :
    (w.writeOpenflags value).data =
      w.data ++ bytesOfU32 (OpenFlags.fromInt value).value.toUInt32 := rfl

@[simp] theorem writeTime_data (w : MessageWriter) (value : Timespec) :
    (w.writeTime value).data = w.data ++ bytesOfTime value := by
  simp [writeTime, bytesOfTime]

/-- **`set_id` puts the id in the first four bytes** and leaves the others. -/
theorem setId_data (w : MessageWriter) (value : UInt32) :
    (w.setId value).data = bytesOfU32 value ++ w.data.drop 4 := by
  obtain ⟨id, data, header⟩ := w
  match data, header with
  | _ :: _ :: _ :: _ :: _ :: _, _ => rfl

end MessageWriter

end Webfuse
