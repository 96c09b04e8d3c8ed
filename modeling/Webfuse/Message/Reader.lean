/-
# `messagereader`

`src/webfuse/ws/messagereader.cpp`.  A reader holds a message and the position
reached in it.  Each operation checks that its bytes are there, throws
`out of bounds` otherwise, and moves the position behind them.

The output parameters of `read_strings`, `read_attr` and `read_statistics` are
assigned one by one as the fields are read, so what was assigned before a throw
stays assigned: they are the memory of the scanner.

`read_u64` joins its eight bytes into a variable of 32 bits.
-/

import Webfuse.Basis.Scan
import Webfuse.Filesystem.Flags
import Webfuse.Filesystem.Interface

namespace Webfuse

open Basis

/-- `class messagereader`: `data` and `pos`. -/
abbrev MessageReader := Cursor UInt8

/-- A computation that reads from a `messagereader` and shares the memory `ω`
with its caller. -/
abbrev ReadM (ω : Type) := ScanM Exn UInt8 ω

variable {ω : Type}

/-- The exception of every failed bounds check. -/
def outOfBounds : Exn := ⟨"out of bounds"⟩

def readU8 : ReadM ω UInt8 := fun ⟨⟨data, pos⟩, m⟩ =>
  if h : pos < data.length then
    .ok data[pos] ⟨⟨data, pos + 1⟩, m⟩
  else .error outOfBounds ⟨⟨data, pos⟩, m⟩

def readU32 : ReadM ω UInt32 := fun ⟨⟨data, pos⟩, m⟩ =>
  if h : pos + 3 < data.length then
    let value : UInt32 :=
      ((data[pos].toUInt32 &&& 0xff) <<< 24) |||
      ((data[pos + 1].toUInt32 &&& 0xff) <<< 16) |||
      ((data[pos + 2].toUInt32 &&& 0xff) <<< 8) |||
      (data[pos + 3].toUInt32 &&& 0xff)
    .ok value ⟨⟨data, pos + 4⟩, m⟩
  else .error outOfBounds ⟨⟨data, pos⟩, m⟩

/-- `read_u64`: the joined bytes are stored in a `uint32_t` before they are
returned. -/
def readU64 : ReadM ω UInt64 := fun ⟨⟨data, pos⟩, m⟩ =>
  if h : pos + 7 < data.length then
    let value : UInt32 :=
      (((data[pos].toUInt64 &&& 0xff) <<< 56) |||
      ((data[pos + 1].toUInt64 &&& 0xff) <<< 48) |||
      ((data[pos + 2].toUInt64 &&& 0xff) <<< 40) |||
      ((data[pos + 3].toUInt64 &&& 0xff) <<< 32) |||
      ((data[pos + 4].toUInt64 &&& 0xff) <<< 24) |||
      ((data[pos + 5].toUInt64 &&& 0xff) <<< 16) |||
      ((data[pos + 6].toUInt64 &&& 0xff) <<< 8) |||
      (data[pos + 7].toUInt64 &&& 0xff)).toUInt32
    .ok value.toUInt64 ⟨⟨data, pos + 8⟩, m⟩
  else .error outOfBounds ⟨⟨data, pos⟩, m⟩

def readI32 : ReadM ω Int32 := do
  let value ← readU32
  return value.toInt32

def readBool : ReadM ω Bool := do
  return 1 = (← readU8)

/-- `read_bytes`: when the length reaches past the end, the length field stays
consumed. -/
def readBytes : ReadM ω Bytes := do
  let size ← readU32
  fun ⟨⟨data, pos⟩, m⟩ =>
    if pos + size.toNat ≤ data.length then
      .ok ((data.drop pos).take size.toNat) ⟨⟨data, pos + size.toNat⟩, m⟩
    else .error outOfBounds ⟨⟨data, pos⟩, m⟩

def readStr : ReadM ω Bytes := readBytes

def readResult : ReadM ω Int32 := do
  return Status.toFusestatus (← readI32)

def readAccessMode : ReadM ω Int32 := do
  let value ← readU8
  return (AccessMode.mk value.toInt8).toInt

def readMode : ReadM ω UInt32 := do
  return (FileMode.mk (← readU32)).toMode

def readOpenflags : ReadM ω Int32 := do
  let value ← readI32
  return (OpenFlags.mk value).toInt

/-- `read_time`: `tv_sec` from `read_u64`, `tv_nsec` from `read_u32`. -/
def readTime : ReadM ω Timespec := do
  let sec ← readU64
  let nsec ← readU32
  return ⟨sec.toInt64, nsec.toUInt64.toInt64⟩

/-- What every message is read from first: its id and its type byte. -/
def readHeader : ReadM ω (UInt32 × UInt8) := do
  let id ← readU32
  let type ← readU8
  return (id, type)

/-- The loop of `read_strings`, with `n` strings to go. -/
def readStringsLoop : ℕ → ReadM (List Bytes) Unit
  | 0 => pure ()
  | n + 1 => do
      let entry ← readStr
      assign fun entries => entries ++ [entry]
      readStringsLoop n

def readStrings : ReadM (List Bytes) Unit := do
  let count ← readU32
  readStringsLoop count.toNat

def readAttr : ReadM Stat Unit := do
  let ino ← readU64
  assign fun attr => { attr with st_ino := ino }
  let nlink ← readU64
  assign fun attr => { attr with st_nlink := nlink }
  let mode ← readMode
  assign fun attr => { attr with st_mode := mode }
  let uid ← readU32
  assign fun attr => { attr with st_uid := uid }
  let gid ← readU32
  assign fun attr => { attr with st_gid := gid }
  let rdev ← readU64
  assign fun attr => { attr with st_rdev := rdev }
  let size ← readU64
  assign fun attr => { attr with st_size := size.toInt64 }
  let blocks ← readU64
  assign fun attr => { attr with st_blocks := blocks.toInt64 }
  let sec ← readU64
  assign fun attr => { attr with st_atim.tv_sec := sec.toInt64 }
  let nsec ← readU32
  assign fun attr => { attr with st_atim.tv_nsec := nsec.toUInt64.toInt64 }
  let sec ← readU64
  assign fun attr => { attr with st_mtim.tv_sec := sec.toInt64 }
  let nsec ← readU32
  assign fun attr => { attr with st_mtim.tv_nsec := nsec.toUInt64.toInt64 }
  let sec ← readU64
  assign fun attr => { attr with st_ctim.tv_sec := sec.toInt64 }
  let nsec ← readU32
  assign fun attr => { attr with st_ctim.tv_nsec := nsec.toUInt64.toInt64 }

def readStatistics : ReadM Statvfs Unit := do
  let bsize ← readU64
  assign fun statistics => { statistics with f_bsize := bsize }
  let frsize ← readU64
  assign fun statistics => { statistics with f_frsize := frsize }
  let blocks ← readU64
  assign fun statistics => { statistics with f_blocks := blocks }
  let bfree ← readU64
  assign fun statistics => { statistics with f_bfree := bfree }
  let bavail ← readU64
  assign fun statistics => { statistics with f_bavail := bavail }
  let files ← readU64
  assign fun statistics => { statistics with f_files := files }
  let ffree ← readU64
  assign fun statistics => { statistics with f_ffree := ffree }
  let namemax ← readU64
  assign fun statistics => { statistics with f_namemax := namemax }

end Webfuse
