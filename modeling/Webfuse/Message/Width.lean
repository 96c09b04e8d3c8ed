/-
# The width of a position

Positions of a message are computed in a `size_t`.  Where a message leaves room
above its end (`Roomy`) no sum of a position wraps around, and the reader of the
target is the reader without a width: every operation does the same, stays within
the message and reads no byte behind its end (`Agrees`).  The reads of one, four
and eight bytes, and what is made of them, need room for eight bytes.  Only
`read_bytes`, which adds a length of 32 bits to the position, needs more.
-/

import Webfuse.Basis.Simulation
import Webfuse.Message.Fields
import Webfuse.Message.Target

namespace Webfuse

open Basis

variable {t : Target} {ω α : Type}

/-- What is read, without the width of the position. -/
def TargetScan.scan (s : TargetScan t ω) : Scan UInt8 ω :=
  ⟨⟨s.reader.data.bytes, s.reader.pos.toNat⟩, s.memory⟩

/-- The reader reads the message, stands in it and has read no byte behind its end. -/
structure TargetScan.InBounds (message : StdString t) (s : TargetScan t ω) : Prop where
  data : s.reader.data = message
  pos : s.reader.pos.toNat ≤ message.bytes.length
  accessed : ∀ i ∈ s.accessed, i < message.bytes.length

/-- No position of the message wraps around when less than `n` is added to it. -/
def StdString.Roomy (message : StdString t) (n : ℕ) : Prop :=
  message.bytes.length + n ≤ 2 ^ t.width

theorem StdString.Roomy.mono {message : StdString t} {n k : ℕ} (h : message.Roomy n)
    (hk : k ≤ n) : message.Roomy k := (Nat.add_le_add_left hk _).trans h

theorem StdString.length_lt (message : StdString t) : message.bytes.length < 2 ^ t.width :=
  message.le_maxSize.trans_lt t.maxSize_lt

theorem StdString.size_toNat (message : StdString t) :
    message.size.toNat = message.bytes.length := by
  rw [StdString.size, BitVec.toNat_ofNat, Nat.mod_eq_of_lt message.length_lt]

theorem StdString.byteAt_of_lt {message : StdString t} {i : ℕ}
    (h : i < message.bytes.length) : message.byteAt i = message.bytes[i] := dif_pos h

/-- Bytes that are there are those of the message. -/
theorem StdString.take_drop_eq (message : StdString t) {pos n : ℕ}
    (h : pos + n ≤ message.bytes.length) :
    (message.bytes.drop pos).take n = (List.range' pos n).map message.byteAt := by
  refine List.ext_getElem (by simp; omega) fun i h₁ h₂ => ?_
  have hi : i < n := by simpa using h₂
  have hlt : pos + i < message.bytes.length := by omega
  simp [StdString.byteAt_of_lt hlt]

/-- A sum that fits does not wrap around. -/
theorem toNat_add_of_lt {w k : ℕ} {pos : BitVec w} (h : pos.toNat + k < 2 ^ w) :
    (pos + BitVec.ofNat w k).toNat = pos.toNat + k := by
  rw [BitVec.toNat_add, BitVec.toNat_ofNat, Nat.add_mod_mod, Nat.mod_eq_of_lt h]

namespace TargetScan.InBounds

variable {message : StdString t} {s : TargetScan t ω}

/-- Where there is room no position wraps around. -/
theorem toNat_add (hs : s.InBounds message) {n k : ℕ} (hroom : message.Roomy n) (hk : k < n) :
    (s.reader.pos + BitVec.ofNat t.width k).toNat = s.reader.pos.toNat + k := by
  have hpos := hs.pos
  refine toNat_add_of_lt ?_
  unfold StdString.Roomy at hroom
  omega

/-- The comparison with the size is that of the numbers. -/
theorem add_lt_size (hs : s.InBounds message) {n k : ℕ} (hroom : message.Roomy n) (hk : k < n) :
    s.reader.pos + BitVec.ofNat t.width k < s.reader.data.size ↔
      s.reader.pos.toNat + k < message.bytes.length := by
  rw [BitVec.lt_def, hs.toNat_add hroom hk, hs.data, StdString.size_toNat]

theorem add_le_size (hs : s.InBounds message) {n k : ℕ} (hroom : message.Roomy n) (hk : k < n) :
    s.reader.pos + BitVec.ofNat t.width k ≤ s.reader.data.size ↔
      s.reader.pos.toNat + k ≤ message.bytes.length := by
  rw [BitVec.le_def, hs.toNat_add hroom hk, hs.data, StdString.size_toNat]

/-- Behind bytes of the message the position has moved by their number. -/
theorem toNat_passed {n : ℕ} (h : s.reader.pos.toNat + n ≤ message.bytes.length) :
    (s.reader.pos + BitVec.ofNat t.width n).toNat = s.reader.pos.toNat + n :=
  toNat_add_of_lt (h.trans_lt message.length_lt)

/-- Behind bytes of the message that were read the reader is in bounds. -/
theorem passed (hs : s.InBounds message) {n : ℕ}
    (h : s.reader.pos.toNat + n ≤ message.bytes.length) (m : ω) :
    TargetScan.InBounds message ⟨⟨s.reader.data, s.reader.pos + BitVec.ofNat t.width n⟩,
      s.accessed ++ List.range' s.reader.pos.toNat n, m⟩ where
  data := hs.data
  pos := by
    change (s.reader.pos + BitVec.ofNat t.width n).toNat ≤ _
    rwa [toNat_passed h]
  accessed i hi := by
    rcases List.mem_append.1 hi with hi | hi
    · exact hs.accessed i hi
    · have hrange := List.mem_range'_1.1 hi
      omega

end TargetScan.InBounds

namespace Target

/-! ### The reads as they run -/

theorem readU8_run (s : TargetScan t ω) :
    readU8 s = if s.reader.pos < s.reader.data.size then
      .ok (s.reader.data.byteAt s.reader.pos.toNat)
        ⟨⟨s.reader.data, s.reader.pos + 1⟩, s.accessed ++ [s.reader.pos.toNat], s.memory⟩
    else .error outOfBounds s := by
  change (if s.reader.pos < s.reader.data.size then _ else throw outOfBounds : TargetM t ω _) s = _
  split_ifs <;> rfl

theorem readU32_run (s : TargetScan t ω) :
    readU32 s = if s.reader.pos + 3 < s.reader.data.size then
      .ok (((s.reader.data.byteAt s.reader.pos.toNat).toUInt32 &&& 0xff) <<< 24 |||
        ((s.reader.data.byteAt (s.reader.pos + 1).toNat).toUInt32 &&& 0xff) <<< 16 |||
        ((s.reader.data.byteAt (s.reader.pos + 2).toNat).toUInt32 &&& 0xff) <<< 8 |||
        ((s.reader.data.byteAt (s.reader.pos + 3).toNat).toUInt32 &&& 0xff))
        ⟨⟨s.reader.data, s.reader.pos + 4⟩,
          s.accessed ++ [s.reader.pos.toNat] ++ [(s.reader.pos + 1).toNat] ++
            [(s.reader.pos + 2).toNat] ++ [(s.reader.pos + 3).toNat], s.memory⟩
    else .error outOfBounds s := by
  change (if s.reader.pos + 3 < s.reader.data.size then _ else throw outOfBounds :
    TargetM t ω _) s = _
  split_ifs <;> rfl

theorem readU64_run (s : TargetScan t ω) :
    readU64 s = if s.reader.pos + 7 < s.reader.data.size then
      .ok (((s.reader.data.byteAt s.reader.pos.toNat).toUInt64 &&& 0xff) <<< 56 |||
        ((s.reader.data.byteAt (s.reader.pos + 1).toNat).toUInt64 &&& 0xff) <<< 48 |||
        ((s.reader.data.byteAt (s.reader.pos + 2).toNat).toUInt64 &&& 0xff) <<< 40 |||
        ((s.reader.data.byteAt (s.reader.pos + 3).toNat).toUInt64 &&& 0xff) <<< 32 |||
        ((s.reader.data.byteAt (s.reader.pos + 4).toNat).toUInt64 &&& 0xff) <<< 24 |||
        ((s.reader.data.byteAt (s.reader.pos + 5).toNat).toUInt64 &&& 0xff) <<< 16 |||
        ((s.reader.data.byteAt (s.reader.pos + 6).toNat).toUInt64 &&& 0xff) <<< 8 |||
        ((s.reader.data.byteAt (s.reader.pos + 7).toNat).toUInt64 &&& 0xff)).toUInt32.toUInt64
        ⟨⟨s.reader.data, s.reader.pos + 8⟩,
          s.accessed ++ [s.reader.pos.toNat] ++ [(s.reader.pos + 1).toNat] ++
            [(s.reader.pos + 2).toNat] ++ [(s.reader.pos + 3).toNat] ++
            [(s.reader.pos + 4).toNat] ++ [(s.reader.pos + 5).toNat] ++
            [(s.reader.pos + 6).toNat] ++ [(s.reader.pos + 7).toNat], s.memory⟩
    else .error outOfBounds s := by
  change (if s.reader.pos + 7 < s.reader.data.size then _ else throw outOfBounds :
    TargetM t ω _) s = _
  split_ifs <;> rfl

theorem substring_ok {size : ℕ} (h : size ≤ t.maxSize) (i : BitVec t.width)
    (s : TargetScan t ω) : substring i size s =
      .ok ((List.range' i.toNat size).map s.reader.data.byteAt)
        ⟨s.reader, s.accessed ++ List.range' i.toNat size, s.memory⟩ := if_pos h

theorem substring_error {size : ℕ} (h : ¬ size ≤ t.maxSize) (i : BitVec t.width)
    (s : TargetScan t ω) : substring i size s = .error t.lengthError s := if_neg h

/-- `read_bytes` behind its length field. -/
def readSized (size : UInt32) : TargetM t ω Bytes := do
  let ⟨data, pos⟩ := (← get).reader
  if pos + BitVec.ofNat t.width size.toNat ≤ data.size then
    let value ← substring pos size.toNat
    advance (BitVec.ofNat t.width size.toNat)
    return value
  else throw outOfBounds

theorem readSized_run (size : UInt32) (s : TargetScan t ω) :
    readSized size s = if s.reader.pos + BitVec.ofNat t.width size.toNat ≤ s.reader.data.size then
      if size.toNat ≤ t.maxSize then
        .ok ((List.range' s.reader.pos.toNat size.toNat).map s.reader.data.byteAt)
          ⟨⟨s.reader.data, s.reader.pos + BitVec.ofNat t.width size.toNat⟩,
            s.accessed ++ List.range' s.reader.pos.toNat size.toNat, s.memory⟩
      else .error t.lengthError s
    else .error outOfBounds s := by
  change (if s.reader.pos + BitVec.ofNat t.width size.toNat ≤ s.reader.data.size then _
    else throw outOfBounds : TargetM t ω _) s = _
  split_ifs with hpos hsize
  · exact bind_of_ok (substring_ok hsize s.reader.pos s) _
  · exact bind_of_error (substring_error hsize s.reader.pos s) _
  · rfl

/-! ### The reader without a width -/

/-- Within the message the reader of the target does what the reader without a width
does, and stays there. -/
abbrev Agrees (message : StdString t) (x : TargetM t ω α) (y : ReadM ω α) : Prop :=
  Simulates (TargetScan.InBounds message) TargetScan.scan x y

variable {message : StdString t}

/-- A read of so many bytes that are there, or a throw, is the read of the reader without
a width. -/
theorem agrees_fixed {n : ℕ} {f : Bytes → α} {x : TargetM t ω α}
    (hok : ∀ s : TargetScan t ω, s.InBounds message →
      s.reader.pos.toNat + n ≤ message.bytes.length →
        x s = .ok (f ((List.range' s.reader.pos.toNat n).map s.reader.data.byteAt))
          ⟨⟨s.reader.data, s.reader.pos + BitVec.ofNat t.width n⟩,
            s.accessed ++ List.range' s.reader.pos.toNat n, s.memory⟩)
    (herror : ∀ s : TargetScan t ω, s.InBounds message →
      ¬ s.reader.pos.toNat + n ≤ message.bytes.length → x s = .error outOfBounds s) :
    Agrees message x (fixed n f outOfBounds) := by
  intro s hs
  by_cases h : s.reader.pos.toNat + n ≤ message.bytes.length
  · have hlen : s.reader.pos.toNat + n ≤ s.reader.data.bytes.length := by rwa [hs.data]
    rw [hok s hs h]
    refine ⟨hs.passed h _, ?_⟩
    rw [TargetScan.scan, fixed_ok hlen, s.reader.data.take_drop_eq hlen]
    simp only [mapState, TargetScan.scan, TargetScan.InBounds.toNat_passed h]
  · have hlen : ¬ s.reader.pos.toNat + n ≤ s.reader.data.bytes.length := by rwa [hs.data]
    rw [herror s hs h]
    refine ⟨hs, ?_⟩
    rw [TargetScan.scan, fixed_error hlen]
    rfl

theorem agrees_readU8 :
    Agrees message (readU8 : TargetM t ω UInt8) Webfuse.readU8 := by
  rw [readU8_eq]
  have hcheck (s : TargetScan t ω) (hs : s.InBounds message) :
      s.reader.pos < s.reader.data.size ↔ s.reader.pos.toNat + 1 ≤ message.bytes.length := by
    rw [BitVec.lt_def, hs.data, StdString.size_toNat]
    exact Iff.rfl
  refine agrees_fixed ?_ ?_
  · intro s hs h
    rw [readU8_run, if_pos ((hcheck s hs).2 h)]
    rfl
  · intro s hs h
    rw [readU8_run, if_neg (mt (hcheck s hs).1 h)]

theorem agrees_assign (f : ω → ω) :
    Agrees message (assign f : TargetM t ω Unit) (Basis.assign f) :=
  fun _ hs => ⟨⟨hs.data, hs.pos, hs.accessed⟩, rfl⟩

/-- A field that is stored, and then the rest. -/
theorem agrees_store {g : α → ω → ω} {x : TargetM t ω α} {y : ReadM ω α} {x' : TargetM t ω Unit}
    {y' : ReadM ω Unit} (hx : Agrees message x y) (hx' : Agrees message x' y') :
    Agrees message (x >>= fun v => assign (g v) >>= fun _ => x')
      (y >>= fun v => Basis.assign (g v) >>= fun _ => y') :=
  hx.bind fun _ => (agrees_assign _).bind fun _ => hx'

section Numbers

variable (hroom : message.Roomy 8)

include hroom

theorem agrees_readU32 :
    Agrees message (readU32 : TargetM t ω UInt32) Webfuse.readU32 := by
  rw [readU32_eq]
  refine agrees_fixed ?_ ?_
  · intro s hs h
    have hadd (k : ℕ) (hk : k < 8) := hs.toNat_add hroom hk
    have hcheck : s.reader.pos + 3 < s.reader.data.size :=
      (hs.add_lt_size hroom (by decide)).2 h
    have h₁ : (s.reader.pos + 1).toNat = s.reader.pos.toNat + 1 := hadd 1 (by decide)
    have h₂ : (s.reader.pos + 2).toNat = s.reader.pos.toNat + 2 := hadd 2 (by decide)
    have h₃ : (s.reader.pos + 3).toNat = s.reader.pos.toNat + 3 := hadd 3 (by decide)
    rw [readU32_run, if_pos hcheck, join_u32, h₁, h₂, h₃]
    simp only [List.append_assoc]
    rfl
  · intro s hs h
    have hcheck : ¬ s.reader.pos + 3 < s.reader.data.size :=
      mt (hs.add_lt_size hroom (by decide)).1 h
    rw [readU32_run, if_neg hcheck]

theorem agrees_readU64 :
    Agrees message (readU64 : TargetM t ω UInt64) Webfuse.readU64 := by
  rw [readU64_eq]
  refine agrees_fixed ?_ ?_
  · intro s hs h
    have hadd (k : ℕ) (hk : k < 8) := hs.toNat_add hroom hk
    have hcheck : s.reader.pos + 7 < s.reader.data.size :=
      (hs.add_lt_size hroom (by decide)).2 h
    have h₁ : (s.reader.pos + 1).toNat = s.reader.pos.toNat + 1 := hadd 1 (by decide)
    have h₂ : (s.reader.pos + 2).toNat = s.reader.pos.toNat + 2 := hadd 2 (by decide)
    have h₃ : (s.reader.pos + 3).toNat = s.reader.pos.toNat + 3 := hadd 3 (by decide)
    have h₄ : (s.reader.pos + 4).toNat = s.reader.pos.toNat + 4 := hadd 4 (by decide)
    have h₅ : (s.reader.pos + 5).toNat = s.reader.pos.toNat + 5 := hadd 5 (by decide)
    have h₆ : (s.reader.pos + 6).toNat = s.reader.pos.toNat + 6 := hadd 6 (by decide)
    have h₇ : (s.reader.pos + 7).toNat = s.reader.pos.toNat + 7 := hadd 7 (by decide)
    rw [readU64_run, if_pos hcheck, join_u64, h₁, h₂, h₃, h₄, h₅, h₆, h₇]
    simp only [List.append_assoc]
    rfl
  · intro s hs h
    have hcheck : ¬ s.reader.pos + 7 < s.reader.data.size :=
      mt (hs.add_lt_size hroom (by decide)).1 h
    rw [readU64_run, if_neg hcheck]

theorem agrees_readI32 :
    Agrees message (readI32 : TargetM t ω Int32) Webfuse.readI32 :=
  (agrees_readU32 hroom).bind fun _ => .pure _

theorem agrees_readMode :
    Agrees message (readMode : TargetM t ω UInt32) Webfuse.readMode :=
  (agrees_readU32 hroom).bind fun _ => .pure _

theorem agrees_readTime :
    Agrees message (readTime : TargetM t ω Timespec) Webfuse.readTime :=
  (agrees_readU64 hroom).bind fun _ => (agrees_readU32 hroom).bind fun _ => .pure _

theorem agrees_readStatistics :
    Agrees message (readStatistics : TargetM t Statvfs Unit) Webfuse.readStatistics := by
  have hdouble := agrees_readU64 (ω := Statvfs) hroom
  iterate 7 refine agrees_store hdouble ?_
  exact hdouble.bind fun _ => agrees_assign _

theorem agrees_readAttr :
    Agrees message (readAttr : TargetM t Stat Unit) Webfuse.readAttr := by
  have hdouble := agrees_readU64 (ω := Stat) hroom
  have hword := agrees_readU32 (ω := Stat) hroom
  refine agrees_store hdouble (agrees_store hdouble (agrees_store (agrees_readMode hroom) ?_))
  refine agrees_store hword (agrees_store hword ?_)
  iterate 3 refine agrees_store hdouble ?_
  iterate 2 refine agrees_store hdouble (agrees_store hword ?_)
  exact agrees_store hdouble (hword.bind fun _ => agrees_assign _)

end Numbers

section Strings

variable (hroom : message.Roomy (2 ^ 32))

include hroom

/-- A string that is there is not longer than the message, so it can be made. -/
theorem agrees_readSized (size : UInt32) :
    Agrees message (readSized size : TargetM t ω Bytes) (fixed size.toNat id outOfBounds) := by
  refine agrees_fixed ?_ ?_
  · intro s hs h
    have hmax : size.toNat ≤ t.maxSize := by
      have hle := message.le_maxSize
      omega
    rw [readSized_run, if_pos ((hs.add_le_size hroom size.toNat_lt).2 h), if_pos hmax]
    rfl
  · intro s hs h
    rw [readSized_run, if_neg (mt (hs.add_le_size hroom size.toNat_lt).1 h)]

theorem agrees_readBytes :
    Agrees message (readBytes : TargetM t ω Bytes) Webfuse.readBytes :=
  (agrees_readU32 (hroom.mono (by decide))).bind fun size => agrees_readSized hroom size

theorem agrees_readStringsLoop (n : ℕ) :
    Agrees message (readStringsLoop n : TargetM t (List Bytes) Unit)
      (Webfuse.readStringsLoop n) := by
  induction n with
  | zero => exact .pure _
  | succ n ih =>
      exact (agrees_readBytes hroom).bind fun _ => (agrees_assign _).bind fun _ => ih

theorem agrees_readStrings :
    Agrees message (readStrings : TargetM t (List Bytes) Unit) Webfuse.readStrings :=
  (agrees_readU32 (hroom.mono (by decide))).bind fun _ => agrees_readStringsLoop hroom _

end Strings

end Target

end Webfuse
