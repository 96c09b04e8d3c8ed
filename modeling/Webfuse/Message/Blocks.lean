/-
# Blocks of attributes and statistics

`write_attr` and `read_attr`, `write_statistics` and `read_statistics` agree on the order
and the widths of 22 fields: every field is read from the place it was written to.
What arrives of a field is told field by field: ids arrive as they are, a mode with the
bits of the protocol, nanoseconds modulo `2^32`, and of a 64-bit field its low half.
-/

import Webfuse.Message.Codec

namespace Webfuse

open Basis MessageWriter

/-- The same value modulo `2^32`. -/
def SameWord (a b : UInt64) : Prop := a.toNat % 2 ^ 32 = b.toNat % 2 ^ 32

/-- The same value modulo `2^32`, of signed fields. -/
def SameSignedWord (a b : Int64) : Prop := a.toInt % 2 ^ 32 = b.toInt % 2 ^ 32

theorem sameWord_low32 (a : UInt64) : SameWord (low32 a) a := by
  unfold SameWord low32
  rw [UInt32.toNat_toUInt64, UInt64.toNat_toUInt32, Nat.mod_mod]

/-- The low half of a signed field, as a signed number. -/
theorem toInt_low32 (a : Int64) : (low32 a.toUInt64).toInt64.toInt = a.toInt % 2 ^ 32 := by
  have hlow : (low32 a.toUInt64).toNat = a.toUInt64.toNat % 2 ^ 32 := by
    unfold low32
    rw [UInt32.toNat_toUInt64, UInt64.toNat_toUInt32]
  have hword : (a.toUInt64.toNat : ℤ) = a.toInt % 2 ^ 64 := by
    have hnat : a.toUInt64.toNat = a.toBitVec.toNat := rfl
    have hmod : (a.toBitVec.toNat : ℤ).bmod (2 ^ 64) % (2 ^ 64 : ℕ) =
        a.toBitVec.toNat % (2 ^ 64 : ℕ) := Int.bmod_emod
    have hlt := a.toBitVec.isLt
    rw [hnat, ← Int64.toInt_toBitVec a, BitVec.toInt_eq_toNat_bmod]
    omega
  have hsmall : (low32 a.toUInt64).toInt64.toInt = (low32 a.toUInt64).toNat := by
    have hnat : (low32 a.toUInt64).toInt64.toInt = (low32 a.toUInt64).toBitVec.toInt := rfl
    have hbits : (low32 a.toUInt64).toBitVec.toNat = (low32 a.toUInt64).toNat := rfl
    rw [hnat, BitVec.toInt_eq_toNat_of_lt, hbits]
    omega
  rw [hsmall, hlow, Int.natCast_mod, hword]
  omega

theorem sameSignedWord_low32 (a : Int64) : SameSignedWord (low32 a.toUInt64).toInt64 a := by
  unfold SameSignedWord
  rw [toInt_low32, Int.emod_emod_of_dvd _ (dvd_refl _)]

/-- What `read_attr` makes of the attributes that `write_attr` wrote. -/
structure AttrArrives (sent received : Stat) : Prop where
  ino : SameWord received.st_ino sent.st_ino
  nlink : SameWord received.st_nlink sent.st_nlink
  mode : received.st_mode = fileModeBits sent.st_mode
  uid : received.st_uid = sent.st_uid
  gid : received.st_gid = sent.st_gid
  rdev : SameWord received.st_rdev sent.st_rdev
  size : SameSignedWord received.st_size sent.st_size
  blocks : SameSignedWord received.st_blocks sent.st_blocks
  atimSec : SameSignedWord received.st_atim.tv_sec sent.st_atim.tv_sec
  atimNsec : received.st_atim.tv_nsec.toInt = sent.st_atim.tv_nsec.toInt % 2 ^ 32
  mtimSec : SameSignedWord received.st_mtim.tv_sec sent.st_mtim.tv_sec
  mtimNsec : received.st_mtim.tv_nsec.toInt = sent.st_mtim.tv_nsec.toInt % 2 ^ 32
  ctimSec : SameSignedWord received.st_ctim.tv_sec sent.st_ctim.tv_sec
  ctimNsec : received.st_ctim.tv_nsec.toInt = sent.st_ctim.tv_nsec.toInt % 2 ^ 32

/-- What `read_statistics` makes of the statistics that `write_statistics` wrote. -/
structure StatisticsArrive (sent received : Statvfs) : Prop where
  bsize : SameWord received.f_bsize sent.f_bsize
  frsize : SameWord received.f_frsize sent.f_frsize
  blocks : SameWord received.f_blocks sent.f_blocks
  bfree : SameWord received.f_bfree sent.f_bfree
  bavail : SameWord received.f_bavail sent.f_bavail
  files : SameWord received.f_files sent.f_files
  ffree : SameWord received.f_ffree sent.f_ffree
  namemax : SameWord received.f_namemax sent.f_namemax

theorem attrArrives_attrRead (attr : Stat) : AttrArrives attr (attrRead attr) where
  ino := sameWord_low32 _
  nlink := sameWord_low32 _
  mode := fileModeBits_fileModeBits _
  uid := rfl
  gid := rfl
  rdev := sameWord_low32 _
  size := sameSignedWord_low32 _
  blocks := sameSignedWord_low32 _
  atimSec := sameSignedWord_low32 _
  atimNsec := toInt_low32 _
  mtimSec := sameSignedWord_low32 _
  mtimNsec := toInt_low32 _
  ctimSec := sameSignedWord_low32 _
  ctimNsec := toInt_low32 _

theorem statisticsArrive_statisticsRead (statistics : Statvfs) :
    StatisticsArrive statistics (statisticsRead statistics) where
  bsize := sameWord_low32 _
  frsize := sameWord_low32 _
  blocks := sameWord_low32 _
  bfree := sameWord_low32 _
  bavail := sameWord_low32 _
  files := sameWord_low32 _
  ffree := sameWord_low32 _
  namemax := sameWord_low32 _

/-- **Blocks do not mix their fields.**  Whatever was written before and whatever
follows, and whatever the record held: `read_attr` reads from the bytes of `write_attr`
every field of the attributes, as much of it as arrives, and stops behind the last of
these bytes; and so does `read_statistics` with those of `write_statistics`. -/
theorem blocks_arrive (w : MessageWriter) (rest : Bytes) :
    (∀ attr held : Stat, ∃ received, AttrArrives attr received ∧
      readAttr ⟨⟨(w.writeAttr attr).data ++ rest, w.data.length⟩, held⟩ =
        .ok () ⟨⟨(w.writeAttr attr).data ++ rest, (w.writeAttr attr).data.length⟩, received⟩) ∧
    ∀ statistics held : Statvfs, ∃ received, StatisticsArrive statistics received ∧
      readStatistics ⟨⟨(w.writeStatistics statistics).data ++ rest, w.data.length⟩, held⟩ =
        .ok () ⟨⟨(w.writeStatistics statistics).data ++ rest,
          (w.writeStatistics statistics).data.length⟩, received⟩ := by
  refine ⟨?_, ?_⟩
  · intro attr held
    refine ⟨attrRead attr, attrArrives_attrRead attr, ?_⟩
    rw [writeAttr_data]
    exact reads_readAttr attr w.data rest held
  · intro statistics held
    refine ⟨statisticsRead statistics, statisticsArrive_statisticsRead statistics, ?_⟩
    rw [writeStatistics_data]
    exact reads_readStatistics statistics w.data rest held

end Webfuse
