/-
# `messagereader` on a target

`src/webfuse/ws/messagereader.cpp` once more, with what a target decides: the
width of `size_t`, in which positions are computed modulo its power of two, and
the length a `std::string` can have.  The reader also keeps the indices of the
bytes it reads, and a byte behind the end of the message is whatever is found
there in memory: nothing here is in bounds by construction.

`Message.Reader` is the reader without a width.  That the two agree where no
position can wrap around is shown in `Message.Bounds`.
-/

import Webfuse.Message.Reader

namespace Webfuse

open Basis

/-- What a target decides of a `messagereader`. -/
structure Target where
  /-- The number of bits of `size_t`. -/
  width : ℕ
  /-- `max_size()` of a `std::string`. -/
  maxSize : ℕ
  /-- The `std::length_error` that is thrown for a longer one. -/
  lengthError : Exn
  /-- What is found at an index behind the end of a `std::string`. -/
  beyond : Bytes → ℕ → UInt8
  maxSize_lt : maxSize < 2 ^ width

/-- `std::string` of a target. -/
structure StdString (t : Target) where
  bytes : Bytes
  le_maxSize : bytes.length ≤ t.maxSize

/-- `class messagereader` of a target: `data` and `pos`. -/
structure TargetReader (t : Target) where
  data : StdString t
  pos : BitVec t.width

/-- What an operation of the reader runs on: the reader, the indices of the bytes
that were read so far, and the memory shared with the caller. -/
structure TargetScan (t : Target) (ω : Type) where
  reader : TargetReader t
  accessed : List ℕ
  memory : ω

/-- A computation that reads from the `messagereader` of a target. -/
abbrev TargetM (t : Target) (ω : Type) := EStateM Exn (TargetScan t ω)

variable {t : Target} {ω : Type}

/-- `size()`. -/
def StdString.size (s : StdString t) : BitVec t.width := BitVec.ofNat t.width s.bytes.length

/-- What is found at an index, in the string or behind its end. -/
def StdString.byteAt (s : StdString t) (i : ℕ) : UInt8 :=
  if h : i < s.bytes.length then s.bytes[i] else t.beyond s.bytes i

namespace Target

/-- `data[i]`. -/
def dataAt (i : BitVec t.width) : TargetM t ω UInt8 := fun s =>
  .ok (s.reader.data.byteAt i.toNat) { s with accessed := s.accessed ++ [i.toNat] }

/-- `pos += n`. -/
def advance (n : BitVec t.width) : TargetM t ω Unit := fun s =>
  .ok () { s with reader.pos := s.reader.pos + n }

/-- `std::string(&data[i], size)`: as many bytes as `size` says, from index `i` on.  The
address alone reads nothing, so `i` may be the size of `data` when `size` is zero. -/
def substring (i : BitVec t.width) (size : ℕ) : TargetM t ω Bytes := fun s =>
  if size ≤ t.maxSize then
    .ok ((List.range' i.toNat size).map s.reader.data.byteAt)
      { s with accessed := s.accessed ++ List.range' i.toNat size }
  else .error t.lengthError s

/-- An assignment to the memory. -/
def assign (f : ω → ω) : TargetM t ω Unit := fun s =>
  .ok () { s with memory := f s.memory }

def readU8 : TargetM t ω UInt8 := do
  let ⟨data, pos⟩ := (← get).reader
  if pos < data.size then
    let value ← dataAt pos
    advance 1
    return value
  else throw outOfBounds

def readU32 : TargetM t ω UInt32 := do
  let ⟨data, pos⟩ := (← get).reader
  if pos + 3 < data.size then
    let b₀ ← dataAt pos
    let b₁ ← dataAt (pos + 1)
    let b₂ ← dataAt (pos + 2)
    let b₃ ← dataAt (pos + 3)
    let value : UInt32 :=
      ((b₀.toUInt32 &&& 0xff) <<< 24) |||
      ((b₁.toUInt32 &&& 0xff) <<< 16) |||
      ((b₂.toUInt32 &&& 0xff) <<< 8) |||
      (b₃.toUInt32 &&& 0xff)
    advance 4
    return value
  else throw outOfBounds

def readU64 : TargetM t ω UInt64 := do
  let ⟨data, pos⟩ := (← get).reader
  if pos + 7 < data.size then
    let b₀ ← dataAt pos
    let b₁ ← dataAt (pos + 1)
    let b₂ ← dataAt (pos + 2)
    let b₃ ← dataAt (pos + 3)
    let b₄ ← dataAt (pos + 4)
    let b₅ ← dataAt (pos + 5)
    let b₆ ← dataAt (pos + 6)
    let b₇ ← dataAt (pos + 7)
    let value : UInt32 :=
      (((b₀.toUInt64 &&& 0xff) <<< 56) |||
      ((b₁.toUInt64 &&& 0xff) <<< 48) |||
      ((b₂.toUInt64 &&& 0xff) <<< 40) |||
      ((b₃.toUInt64 &&& 0xff) <<< 32) |||
      ((b₄.toUInt64 &&& 0xff) <<< 24) |||
      ((b₅.toUInt64 &&& 0xff) <<< 16) |||
      ((b₆.toUInt64 &&& 0xff) <<< 8) |||
      (b₇.toUInt64 &&& 0xff)).toUInt32
    advance 8
    return value.toUInt64
  else throw outOfBounds

def readI32 : TargetM t ω Int32 := do
  let value ← readU32
  return value.toInt32

def readBool : TargetM t ω Bool := do
  return 1 = (← readU8)

/-- `read_bytes`: the length is added to the position before it is compared, and the
sum is a `size_t`. -/
def readBytes : TargetM t ω Bytes := do
  let size ← readU32
  let ⟨data, pos⟩ := (← get).reader
  if pos + BitVec.ofNat t.width size.toNat ≤ data.size then
    let value ← substring pos size.toNat
    advance (BitVec.ofNat t.width size.toNat)
    return value
  else throw outOfBounds

def readStr : TargetM t ω Bytes := readBytes

def readResult : TargetM t ω Int32 := do
  return Status.toFusestatus (← readI32)

def readAccessMode : TargetM t ω Int32 := do
  let value ← readU8
  return (AccessMode.mk value.toInt8).toInt

def readMode : TargetM t ω UInt32 := do
  return (FileMode.mk (← readU32)).toMode

def readOpenflags : TargetM t ω Int32 := do
  let value ← readI32
  return (OpenFlags.mk value).toInt

def readTime : TargetM t ω Timespec := do
  let sec ← readU64
  let nsec ← readU32
  return ⟨sec.toInt64, nsec.toUInt64.toInt64⟩

/-- The loop of `read_strings`, with `n` strings to go. -/
def readStringsLoop : ℕ → TargetM t (List Bytes) Unit
  | 0 => pure ()
  | n + 1 => do
      let entry ← readStr
      assign fun entries => entries ++ [entry]
      readStringsLoop n

def readStrings : TargetM t (List Bytes) Unit := do
  let count ← readU32
  readStringsLoop count.toNat

def readAttr : TargetM t Stat Unit := do
  let ino ← readU64
  assign fun attr => { attr with st_ino := ino }
  let nlink ← readU64
  assign fun attr => { attr with st_nlink := nlink }
  let mode ← readMode
  assign fun attr => { attr with st_mode := mode }
  let uid ← readU32
  assign fun attr => { attr with st_uid := uid }
  let gid ← readU32
  assign fun attr => { attr with st_gid := gid }
  let rdev ← readU64
  assign fun attr => { attr with st_rdev := rdev }
  let size ← readU64
  assign fun attr => { attr with st_size := size.toInt64 }
  let blocks ← readU64
  assign fun attr => { attr with st_blocks := blocks.toInt64 }
  let sec ← readU64
  assign fun attr => { attr with st_atim.tv_sec := sec.toInt64 }
  let nsec ← readU32
  assign fun attr => { attr with st_atim.tv_nsec := nsec.toUInt64.toInt64 }
  let sec ← readU64
  assign fun attr => { attr with st_mtim.tv_sec := sec.toInt64 }
  let nsec ← readU32
  assign fun attr => { attr with st_mtim.tv_nsec := nsec.toUInt64.toInt64 }
  let sec ← readU64
  assign fun attr => { attr with st_ctim.tv_sec := sec.toInt64 }
  let nsec ← readU32
  assign fun attr => { attr with st_ctim.tv_nsec := nsec.toUInt64.toInt64 }

def readStatistics : TargetM t Statvfs Unit := do
  let bsize ← readU64
  assign fun statistics => { statistics with f_bsize := bsize }
  let frsize ← readU64
  assign fun statistics => { statistics with f_frsize := frsize }
  let blocks ← readU64
  assign fun statistics => { statistics with f_blocks := blocks }
  let bfree ← readU64
  assign fun statistics => { statistics with f_bfree := bfree }
  let bavail ← readU64
  assign fun statistics => { statistics with f_bavail := bavail }
  let files ← readU64
  assign fun statistics => { statistics with f_files := files }
  let ffree ← readU64
  assign fun statistics => { statistics with f_ffree := ffree }
  let namemax ← readU64
  assign fun statistics => { statistics with f_namemax := namemax }

end Target

end Webfuse
