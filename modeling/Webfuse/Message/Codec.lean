/-
# Fields are read back

One `Reads` lemma per field of the protocol: the bytes a `messagewriter`
operation appends, wherever they stand in a message, are consumed exactly by
the `messagereader` operation of the same name, which returns the value that
was written.  There are two limits.  `write_data` writes the low 32 bits of a
length and so many bytes, so a byte string arrives clipped to its length
modulo `2^32` (`clip`), and `read_u64` returns the low 32 bits of the value
that was written (`low32`).
-/

import Webfuse.Message.Reader
import Webfuse.Message.Writer

namespace Webfuse

open Basis MessageWriter

variable {ω : Type}

/-- What is left of a byte string that `write_data` writes. -/
def clip (l : Bytes) : Bytes := l.take (l.length % 2 ^ 32)

theorem clip_of_lt {l : Bytes} (h : l.length < 2 ^ 32) : clip l = l := by
  rw [clip, Nat.mod_eq_of_lt h, List.take_length]

theorem clip_length (l : Bytes) : (clip l).length = l.length % 2 ^ 32 := by
  rw [clip, List.length_take, Nat.min_eq_left (Nat.mod_le ..)]

/-- What `read_u64` returns of a value: its low 32 bits. -/
def low32 (value : UInt64) : UInt64 := value.toUInt32.toUInt64

theorem low32_eq_iff (value : UInt64) : low32 value = value ↔ value.toNat < 2 ^ 32 := by
  rw [← UInt64.toNat_inj, low32, UInt32.toNat_toUInt64,
    UInt64.toNat_toUInt32]
  omega

/-! ### Joining bytes -/

/-- A byte that is masked and shifted into place within a word of `w` bits. -/
theorem masked_shiftLeft_mod (x : UInt8) {k w : ℕ} (hk : k + 8 ≤ w) :
    (x.toNat % 256) <<< k % 2 ^ w = x.toNat <<< k := by
  have hlt : x.toNat < 256 := x.toNat_lt
  rw [Nat.mod_eq_of_lt hlt, byte_shiftLeft_mod hlt hk]

/-- The bytes `read_u32` joins are the numeral it reads. -/
theorem join_u32 (a b c d : UInt8) :
    ((a.toUInt32 &&& 0xff) <<< 24) ||| ((b.toUInt32 &&& 0xff) <<< 16) |||
      ((c.toUInt32 &&& 0xff) <<< 8) ||| (d.toUInt32 &&& 0xff) =
        UInt32.ofNat (ofBigEndian [a, b, c, d]) := by
  have hlt (x : UInt8) : x.toNat < 256 := x.toNat_lt
  have hlast : (d.toNat % 256) = d.toNat <<< 0 := Nat.mod_eq_of_lt (hlt d)
  have hjoin : a.toNat <<< 24 ||| b.toNat <<< 16 ||| c.toNat <<< 8 ||| d.toNat <<< 0 =
      ofBigEndian [a, b, c, d] := by
    rw [or_shiftLeft_byte a.toNat 16 (hlt b), or_shiftLeft_byte _ 8 (hlt c),
      or_shiftLeft_byte _ 0 (hlt d)]
    simp [ofBigEndian]
  refine UInt32.toNat_inj.1 ?_
  simp only [UInt32.toNat_or, UInt32.toNat_shiftLeft, UInt32.toNat_and, UInt8.toNat_toUInt32,
    UInt32.toNat_ofNat', UInt32.reduceToNat, Nat.reduceMod, and_byte]
  rw [masked_shiftLeft_mod a (by decide), masked_shiftLeft_mod b (by decide),
    masked_shiftLeft_mod c (by decide), hlast, hjoin]
  have hval : ofBigEndian [a, b, c, d] < 2 ^ 32 := ofBigEndian_lt [a, b, c, d]
  exact (Nat.mod_eq_of_lt hval).symm

/-- The bytes `read_u64` joins are the numeral it reads, before the value is
cut to 32 bits. -/
theorem join_u64 (a b c d e f g h : UInt8) :
    ((a.toUInt64 &&& 0xff) <<< 56) ||| ((b.toUInt64 &&& 0xff) <<< 48) |||
      ((c.toUInt64 &&& 0xff) <<< 40) ||| ((d.toUInt64 &&& 0xff) <<< 32) |||
      ((e.toUInt64 &&& 0xff) <<< 24) ||| ((f.toUInt64 &&& 0xff) <<< 16) |||
      ((g.toUInt64 &&& 0xff) <<< 8) ||| (h.toUInt64 &&& 0xff) =
        UInt64.ofNat (ofBigEndian [a, b, c, d, e, f, g, h]) := by
  have hlt (x : UInt8) : x.toNat < 256 := x.toNat_lt
  have hlast : h.toNat % 256 = h.toNat <<< 0 := Nat.mod_eq_of_lt (hlt h)
  have hjoin : a.toNat <<< 56 ||| b.toNat <<< 48 ||| c.toNat <<< 40 ||| d.toNat <<< 32 |||
      e.toNat <<< 24 ||| f.toNat <<< 16 ||| g.toNat <<< 8 ||| h.toNat <<< 0 =
        ofBigEndian [a, b, c, d, e, f, g, h] := by
    rw [or_shiftLeft_byte a.toNat 48 (hlt b), or_shiftLeft_byte _ 40 (hlt c),
      or_shiftLeft_byte _ 32 (hlt d), or_shiftLeft_byte _ 24 (hlt e),
      or_shiftLeft_byte _ 16 (hlt f), or_shiftLeft_byte _ 8 (hlt g), or_shiftLeft_byte _ 0 (hlt h)]
    simp [ofBigEndian]
  refine UInt64.toNat_inj.1 ?_
  simp only [UInt64.toNat_or, UInt64.toNat_shiftLeft, UInt64.toNat_and, UInt8.toNat_toUInt64,
    UInt64.toNat_ofNat', UInt64.reduceToNat, Nat.reduceMod, and_byte]
  rw [masked_shiftLeft_mod a (by decide), masked_shiftLeft_mod b (by decide),
    masked_shiftLeft_mod c (by decide), masked_shiftLeft_mod d (by decide),
    masked_shiftLeft_mod e (by decide), masked_shiftLeft_mod f (by decide),
    masked_shiftLeft_mod g (by decide), hlast, hjoin]
  have hval : ofBigEndian [a, b, c, d, e, f, g, h] < 2 ^ 64 :=
    ofBigEndian_lt [a, b, c, d, e, f, g, h]
  exact (Nat.mod_eq_of_lt hval).symm

/-! ### Numbers -/

theorem reads_readU8 (b : UInt8) : Reads (readU8 : ReadM ω UInt8) [b] (pure b) := by
  intro pre post m
  have h : pre.length < (pre ++ [b] ++ post).length := by simp
  rw [readU8, dif_pos h]
  simp [pure, EStateM.pure]

/-- `read_u32` reads any four bytes as a numeral. -/
theorem reads_readU32_bytes (a b c d : UInt8) :
    Reads (readU32 : ReadM ω UInt32) [a, b, c, d]
      (pure (UInt32.ofNat (ofBigEndian [a, b, c, d]))) := by
  intro pre post m
  have h : pre.length + 3 < (pre ++ [a, b, c, d] ++ post).length := by simp
  rw [readU32, dif_pos h, ← join_u32]
  simp [pure, EStateM.pure]

/-- `read_u64` reads any eight bytes as a numeral and returns its low half. -/
theorem reads_readU64_bytes (a b c d e f g h : UInt8) :
    Reads (readU64 : ReadM ω UInt64) [a, b, c, d, e, f, g, h]
      (pure (low32 (UInt64.ofNat (ofBigEndian [a, b, c, d, e, f, g, h])))) := by
  intro pre post m
  have hlen : pre.length + 7 < (pre ++ [a, b, c, d, e, f, g, h] ++ post).length := by simp
  rw [readU64, dif_pos hlen, ← join_u64]
  simp [pure, EStateM.pure, low32]

/-- **A word is read back.** -/
theorem reads_readU32 (value : UInt32) :
    Reads (readU32 : ReadM ω UInt32) (bytesOfU32 value) (pure value) := by
  have h := reads_readU32_bytes (ω := ω) ((value >>> 24) &&& 0xff).toUInt8
    ((value >>> 16) &&& 0xff).toUInt8 ((value >>> 8) &&& 0xff).toUInt8 (value &&& 0xff).toUInt8
  change Reads readU32 (bytesOfU32 value)
    (pure (UInt32.ofNat (ofBigEndian (bytesOfU32 value)))) at h
  have hlt : value.toNat < 256 ^ 4 := value.toNat_lt.trans_eq (by decide)
  rwa [bytesOfU32_eq, ofBigEndian_bigEndian, Nat.mod_eq_of_lt hlt, UInt32.ofNat_toNat,
    ← bytesOfU32_eq] at h

/-- **Of a double word the low half is read back.** -/
theorem reads_readU64 (value : UInt64) :
    Reads (readU64 : ReadM ω UInt64) (bytesOfU64 value) (pure (low32 value)) := by
  have h := reads_readU64_bytes (ω := ω) ((value >>> 56) &&& 0xff).toUInt8
    ((value >>> 48) &&& 0xff).toUInt8 ((value >>> 40) &&& 0xff).toUInt8
    ((value >>> 32) &&& 0xff).toUInt8 ((value >>> 24) &&& 0xff).toUInt8
    ((value >>> 16) &&& 0xff).toUInt8 ((value >>> 8) &&& 0xff).toUInt8 (value &&& 0xff).toUInt8
  change Reads readU64 (bytesOfU64 value)
    (pure (low32 (UInt64.ofNat (ofBigEndian (bytesOfU64 value))))) at h
  have hlt : value.toNat < 256 ^ 8 := value.toNat_lt.trans_eq (by decide)
  rwa [bytesOfU64_eq, ofBigEndian_bigEndian, Nat.mod_eq_of_lt hlt, UInt64.ofNat_toNat,
    ← bytesOfU64_eq] at h

theorem reads_readI32 (value : Int32) :
    Reads (readI32 : ReadM ω Int32) (bytesOfU32 value.toUInt32) (pure value) := by
  have h := (reads_readU32 (ω := ω) value.toUInt32).bind_pure fun v => pure v.toInt32
  rwa [Int32.toInt32_toUInt32] at h

theorem reads_readBool (value : Bool) :
    Reads (readBool : ReadM ω Bool) [if value then 0x01 else 0x00] (pure value) := by
  have h := (reads_readU8 (ω := ω) (if value then 0x01 else 0x00)).bind_pure fun v =>
    pure (decide (1 = v))
  cases value <;> exact h

theorem reads_readHeader (id : UInt32) (type : UInt8) :
    Reads (readHeader : ReadM ω (UInt32 × UInt8)) (bytesOfU32 id ++ [type]) (pure (id, type)) :=
  Reads.seq (reads_readU32 id) ((reads_readU8 type).bind_pure _)

/-- Four bytes are the numeral of the word they stand for. -/
theorem bytesOfU32_ofBigEndian {l : Bytes} (h : l.length = 4) :
    bytesOfU32 (UInt32.ofNat (ofBigEndian l)) = l := by
  have hlt := ofBigEndian_lt l
  rw [h] at hlt
  rw [bytesOfU32_eq, UInt32.toNat_ofNat', Nat.mod_eq_of_lt hlt, ← h]
  exact bigEndian_ofBigEndian l

/-- A message whose header can be read starts with its id and its type, and the
reader stands behind them. -/
theorem readHeader_ok {ω : Type} {message : Bytes} {m : ω} {id : UInt32} {type : UInt8}
    {st : Scan UInt8 ω} (h : readHeader ⟨⟨message, 0⟩, m⟩ = .ok (id, type) st) :
    st.cursor = ⟨message, 5⟩ ∧ ∃ rest, message = bytesOfU32 id ++ type :: rest := by
  match message with
  | a :: b :: c :: d :: t :: rest =>
      have hid : bytesOfU32 (UInt32.ofNat (ofBigEndian [a, b, c, d])) = [a, b, c, d] :=
        bytesOfU32_ofBigEndian rfl
      have hread := (reads_readHeader (ω := ω)
        (UInt32.ofNat (ofBigEndian [a, b, c, d])) t).from_start rest m
      rw [hid] at hread
      have heq := hread.symm.trans h
      injection heq with hval hst
      injection hval with hid' htype
      refine ⟨?_, rest, ?_⟩
      · rw [← hst]
        rfl
      · rw [← hid', ← htype, hid]
        rfl
  | [] => cases h
  | [_] => cases h
  | [_, _] => cases h
  | [_, _, _] => cases h
  | [_, _, _, _] => cases h

/-! ### Byte strings -/

/-- **A byte string is read back**, clipped to 32 bits of length. -/
theorem reads_readBytes (l : Bytes) :
    Reads (readBytes : ReadM ω Bytes) (bytesOfData l) (pure (clip l)) := by
  refine Reads.seq (reads_readU32 (UInt32.ofNat l.length)) fun pre post m => ?_
  have hsize : (UInt32.ofNat l.length).toNat = (clip l).length := by
    rw [clip_length, UInt32.toNat_ofNat']
  have hfits : pre.length + (clip l).length ≤ (pre ++ clip l ++ post).length := by simp
  change (if pre.length + (UInt32.ofNat l.length).toNat ≤ (pre ++ clip l ++ post).length then _
    else _) = _
  rw [hsize, if_pos hfits]
  simp [pure, EStateM.pure, clip]

theorem reads_readStr (l : Bytes) :
    Reads (readStr : ReadM ω Bytes) (bytesOfData l) (pure (clip l)) :=
  reads_readBytes l

/-- The loop of `read_strings` appends the strings of the list. -/
theorem reads_readStringsLoop (list : List Bytes) :
    Reads (readStringsLoop list.length) (list.flatMap bytesOfData)
      (assign fun entries => entries ++ list.map clip) := by
  induction list with
  | nil =>
      have h : (assign fun entries : List Bytes => entries ++ [].map clip : ReadM _ Unit) =
          pure () := by
        simp only [List.map_nil, List.append_nil]
        rfl
      rw [h]
      exact Reads.refl _
  | cons l list ih =>
      have hstep := Reads.seq (f := fun entry => assign (fun entries => entries ++ [entry]) >>=
        fun _ => readStringsLoop list.length) (reads_readStr l)
          (Reads.assign_bind ih)
      rw [assign_bind_assign] at hstep
      simpa [readStringsLoop, Function.comp_def] using hstep

/-- Of a list of strings as many are read as the low 32 bits of their count say,
appended to what the caller has; the others are left unread. -/
theorem reads_readStrings_take (list : List Bytes) :
    Reads readStrings (bytesOfU32 (UInt32.ofNat list.length) ++
        (list.take (list.length % 2 ^ 32)).flatMap bytesOfData)
      (assign fun entries => entries ++ (list.take (list.length % 2 ^ 32)).map clip) := by
  have hlen : (list.take (list.length % 2 ^ 32)).length = list.length % 2 ^ 32 := by
    rw [List.length_take, Nat.min_eq_left (Nat.mod_le ..)]
  refine Reads.seq (reads_readU32 _) ?_
  have hloop := reads_readStringsLoop (list.take (list.length % 2 ^ 32))
  rw [hlen] at hloop
  rwa [UInt32.toNat_ofNat']

/-- **A list of strings is read back**, appended to what the caller has. -/
theorem reads_readStrings {list : List Bytes} (h : list.length < 2 ^ 32) :
    Reads readStrings (bytesOfStrings list)
      (assign fun entries => entries ++ list.map clip) := by
  have hread := reads_readStrings_take list
  rwa [Nat.mod_eq_of_lt h, List.take_length] at hread

/-! ### Flags, times and results -/

theorem reads_readResult (value : Int32) :
    Reads (readResult : ReadM ω Int32) (bytesOfU32 value.toUInt32) (pure value) := by
  have h := (reads_readI32 (ω := ω) value).bind_pure fun v => pure (Status.toFusestatus v)
  rwa [Status.toFusestatus_eq] at h

theorem reads_readAccessMode (mode : Int32) :
    Reads (readAccessMode : ReadM ω Int32) [(AccessMode.fromInt mode).value.toUInt8]
      (pure (accessModeBits mode)) := by
  have h := (reads_readU8 (ω := ω) (AccessMode.fromInt mode).value.toUInt8).bind_pure fun v =>
    pure (AccessMode.mk v.toInt8).toInt
  rwa [Int8.toInt8_toUInt8, AccessMode.toInt_fromInt] at h

theorem reads_readMode (mode : UInt32) :
    Reads (readMode : ReadM ω UInt32) (bytesOfU32 (fileModeBits mode))
      (pure (fileModeBits mode)) := by
  have h := (reads_readU32 (ω := ω) (FileMode.fromMode mode).value).bind_pure fun v =>
    pure (FileMode.mk v).toMode
  rwa [FileMode.toMode_fromMode, FileMode.fromMode_value] at h

/-- Open flags as they arrive. -/
def openFlagBits (flags : Int32) : Int32 := (OpenFlags.fromInt flags).toInt

theorem reads_readOpenflags (flags : Int32) :
    Reads (readOpenflags : ReadM ω Int32) (bytesOfU32 (OpenFlags.fromInt flags).value.toUInt32)
      (pure (openFlagBits flags)) :=
  (reads_readI32 (ω := ω) (OpenFlags.fromInt flags).value).bind_pure fun v =>
    pure (OpenFlags.mk v).toInt

/-- Rename flags restricted to `RENAME_NOREPLACE` and `RENAME_EXCHANGE`. -/
def renameFlagBits (flags : Int32) : Int32 :=
  (flags.toUInt32 &&& (RENAME_NOREPLACE ||| RENAME_EXCHANGE)).toInt32

/-- **Rename flags arrive restricted to their two bits.** -/
theorem renameFlagsByte_toInt32 (flags : Int32) :
    (renameFlagsByte flags.toUInt32).toUInt32.toInt32 = renameFlagBits flags := by
  have hmask : renameFlagsByte flags.toUInt32 =
      renameFlagsByte (flags.toUInt32 &&& (RENAME_NOREPLACE ||| RENAME_EXCHANGE)) := by
    simp only [renameFlagsByte, UInt32.and_assoc]
    rfl
  have hbits : ∃ k : Fin 4, flags.toUInt32 &&& (RENAME_NOREPLACE ||| RENAME_EXCHANGE) =
      UInt32.ofNat k := by
    refine ⟨⟨flags.toUInt32.toNat % 4, Nat.mod_lt _ (by decide)⟩, UInt32.toNat_inj.1 ?_⟩
    have h : flags.toUInt32.toNat &&& 3 = flags.toUInt32.toNat % 4 :=
      Nat.and_two_pow_sub_one_eq_mod _ 2
    rw [UInt32.toNat_and, UInt32.toNat_ofNat']
    change flags.toUInt32.toNat &&& 3 = flags.toUInt32.toNat % 4 % 2 ^ 32
    rw [h]
    omega
  have hdec : ∀ k : Fin 4, (renameFlagsByte (UInt32.ofNat k)).toUInt32.toInt32 =
      (UInt32.ofNat k).toInt32 := by decide
  obtain ⟨k, hk⟩ := hbits
  rw [renameFlagBits, hmask, hk, hdec]

/-- A time as it arrives: the low 32 bits of the seconds and of the
nanoseconds. -/
def timeRead (value : Timespec) : Timespec :=
  ⟨(low32 value.tv_sec.toUInt64).toInt64, (low32 value.tv_nsec.toUInt64).toInt64⟩

theorem reads_readTime (value : Timespec) :
    Reads (readTime : ReadM ω Timespec) (bytesOfTime value) (pure (timeRead value)) := by
  refine Reads.seq (reads_readU64 _) ?_
  exact (reads_readU32 _).bind_pure _

/-! ### Attributes and statistics -/

/-- What `write_attr` appends. -/
def bytesOfAttr (attr : Stat) : Bytes :=
  bytesOfU64 attr.st_ino ++ (bytesOfU64 attr.st_nlink ++
    (bytesOfU32 (fileModeBits (fileModeBits attr.st_mode)) ++ (bytesOfU32 attr.st_uid ++
    (bytesOfU32 attr.st_gid ++ (bytesOfU64 attr.st_rdev ++ (bytesOfU64 attr.st_size.toUInt64 ++
    (bytesOfU64 attr.st_blocks.toUInt64 ++ (bytesOfTime attr.st_atim ++
    (bytesOfTime attr.st_mtim ++ bytesOfTime attr.st_ctim)))))))))

theorem writeAttr_data (w : MessageWriter) (attr : Stat) :
    (w.writeAttr attr).data = w.data ++ bytesOfAttr attr := by
  simp [writeAttr, bytesOfAttr, FileMode.fromMode_value]

/-- Attributes as they arrive. -/
def attrRead (attr : Stat) : Stat where
  st_ino := low32 attr.st_ino
  st_nlink := low32 attr.st_nlink
  st_mode := fileModeBits (fileModeBits attr.st_mode)
  st_uid := attr.st_uid
  st_gid := attr.st_gid
  st_rdev := low32 attr.st_rdev
  st_size := (low32 attr.st_size.toUInt64).toInt64
  st_blocks := (low32 attr.st_blocks.toUInt64).toInt64
  st_atim := timeRead attr.st_atim
  st_mtim := timeRead attr.st_mtim
  st_ctim := timeRead attr.st_ctim

/-- **An attribute block is read back**, field by field and to its last byte. -/
theorem reads_readAttr (attr : Stat) :
    Reads readAttr (bytesOfAttr attr) (assign fun _ => attrRead attr) := by
  simp only [bytesOfAttr, bytesOfTime, List.append_assoc]
  exact Reads.congr (Reads.seq (reads_readU64 attr.st_ino) <| Reads.assign_bind <|
    Reads.seq (reads_readU64 attr.st_nlink) <| Reads.assign_bind <|
    Reads.seq (reads_readMode (fileModeBits attr.st_mode)) <| Reads.assign_bind <|
    Reads.seq (reads_readU32 attr.st_uid) <| Reads.assign_bind <|
    Reads.seq (reads_readU32 attr.st_gid) <| Reads.assign_bind <|
    Reads.seq (reads_readU64 attr.st_rdev) <| Reads.assign_bind <|
    Reads.seq (reads_readU64 attr.st_size.toUInt64) <| Reads.assign_bind <|
    Reads.seq (reads_readU64 attr.st_blocks.toUInt64) <| Reads.assign_bind <|
    Reads.seq (reads_readU64 attr.st_atim.tv_sec.toUInt64) <| Reads.assign_bind <|
    Reads.seq (reads_readU32 attr.st_atim.tv_nsec.toUInt64.toUInt32) <| Reads.assign_bind <|
    Reads.seq (reads_readU64 attr.st_mtim.tv_sec.toUInt64) <| Reads.assign_bind <|
    Reads.seq (reads_readU32 attr.st_mtim.tv_nsec.toUInt64.toUInt32) <| Reads.assign_bind <|
    Reads.seq (reads_readU64 attr.st_ctim.tv_sec.toUInt64) <| Reads.assign_bind <|
    (reads_readU32 attr.st_ctim.tv_nsec.toUInt64.toUInt32).bind_pure _) rfl

/-- What `write_statistics` appends. -/
def bytesOfStatistics (statistics : Statvfs) : Bytes :=
  bytesOfU64 statistics.f_bsize ++ (bytesOfU64 statistics.f_frsize ++
    (bytesOfU64 statistics.f_blocks ++ (bytesOfU64 statistics.f_bfree ++
    (bytesOfU64 statistics.f_bavail ++ (bytesOfU64 statistics.f_files ++
    (bytesOfU64 statistics.f_ffree ++ bytesOfU64 statistics.f_namemax))))))

theorem writeStatistics_data (w : MessageWriter) (statistics : Statvfs) :
    (w.writeStatistics statistics).data = w.data ++ bytesOfStatistics statistics := by
  simp [writeStatistics, bytesOfStatistics]

/-- Statistics as they arrive. -/
def statisticsRead (statistics : Statvfs) : Statvfs where
  f_bsize := low32 statistics.f_bsize
  f_frsize := low32 statistics.f_frsize
  f_blocks := low32 statistics.f_blocks
  f_bfree := low32 statistics.f_bfree
  f_bavail := low32 statistics.f_bavail
  f_files := low32 statistics.f_files
  f_ffree := low32 statistics.f_ffree
  f_namemax := low32 statistics.f_namemax

/-- **A statistics block is read back**, field by field and to its last byte. -/
theorem reads_readStatistics (statistics : Statvfs) :
    Reads readStatistics (bytesOfStatistics statistics)
      (assign fun _ => statisticsRead statistics) := by
  exact Reads.congr (Reads.seq (reads_readU64 statistics.f_bsize) <| Reads.assign_bind <|
    Reads.seq (reads_readU64 statistics.f_frsize) <| Reads.assign_bind <|
    Reads.seq (reads_readU64 statistics.f_blocks) <| Reads.assign_bind <|
    Reads.seq (reads_readU64 statistics.f_bfree) <| Reads.assign_bind <|
    Reads.seq (reads_readU64 statistics.f_bavail) <| Reads.assign_bind <|
    Reads.seq (reads_readU64 statistics.f_files) <| Reads.assign_bind <|
    Reads.seq (reads_readU64 statistics.f_ffree) <| Reads.assign_bind <|
    (reads_readU64 statistics.f_namemax).bind_pure _) rfl

end Webfuse
