/-
# Responses that break off

When a response cannot be decoded, `catch(...)` answers with `empty_filesystem`, on the
output parameters as they are then.  `readlink`, `open`, `create` and `read` assign
their output when they have read all of it, so it is the caller's.  `getattr`, `statfs`
and `readdir` assign field by field and name by name, and what the response carried
before it broke off stays: the caller is told that the call failed, or, of the root,
that it succeeded, and finds fields of two sources in one record.

A scanner that stores one field after the other ends with those stored that were
complete (`Basis.storeFrom`), so what a response leaves is told from its length and its
bytes.
-/

import Webfuse.Service.Counts

namespace Webfuse

open Basis

namespace Service

variable {τ ω : Type}

/-! ### What is stored -/

/-- The fields of `read_attr`, in order. -/
def attrSlots : List (Slot UInt8 Stat) :=
  [⟨8, fun l attr => { attr with st_ino := low32 (UInt64.ofNat (ofBigEndian l)) }⟩,
    ⟨8, fun l attr => { attr with st_nlink := low32 (UInt64.ofNat (ofBigEndian l)) }⟩,
    ⟨4, fun l attr => { attr with st_mode := (FileMode.mk (UInt32.ofNat (ofBigEndian l))).toMode }⟩,
    ⟨4, fun l attr => { attr with st_uid := UInt32.ofNat (ofBigEndian l) }⟩,
    ⟨4, fun l attr => { attr with st_gid := UInt32.ofNat (ofBigEndian l) }⟩,
    ⟨8, fun l attr => { attr with st_rdev := low32 (UInt64.ofNat (ofBigEndian l)) }⟩,
    ⟨8, fun l attr => { attr with st_size := (low32 (UInt64.ofNat (ofBigEndian l))).toInt64 }⟩,
    ⟨8, fun l attr => { attr with st_blocks := (low32 (UInt64.ofNat (ofBigEndian l))).toInt64 }⟩,
    ⟨8, fun l attr =>
      { attr with st_atim.tv_sec := (low32 (UInt64.ofNat (ofBigEndian l))).toInt64 }⟩,
    ⟨4, fun l attr =>
      { attr with st_atim.tv_nsec := (UInt32.ofNat (ofBigEndian l)).toUInt64.toInt64 }⟩,
    ⟨8, fun l attr =>
      { attr with st_mtim.tv_sec := (low32 (UInt64.ofNat (ofBigEndian l))).toInt64 }⟩,
    ⟨4, fun l attr =>
      { attr with st_mtim.tv_nsec := (UInt32.ofNat (ofBigEndian l)).toUInt64.toInt64 }⟩,
    ⟨8, fun l attr =>
      { attr with st_ctim.tv_sec := (low32 (UInt64.ofNat (ofBigEndian l))).toInt64 }⟩,
    ⟨4, fun l attr =>
      { attr with st_ctim.tv_nsec := (UInt32.ofNat (ofBigEndian l)).toUInt64.toInt64 }⟩]

/-- The fields of `read_statistics`, in order. -/
def statisticsSlots : List (Slot UInt8 Statvfs) :=
  [⟨8, fun l statistics => { statistics with f_bsize := low32 (UInt64.ofNat (ofBigEndian l)) }⟩,
    ⟨8, fun l statistics => { statistics with f_frsize := low32 (UInt64.ofNat (ofBigEndian l)) }⟩,
    ⟨8, fun l statistics => { statistics with f_blocks := low32 (UInt64.ofNat (ofBigEndian l)) }⟩,
    ⟨8, fun l statistics => { statistics with f_bfree := low32 (UInt64.ofNat (ofBigEndian l)) }⟩,
    ⟨8, fun l statistics => { statistics with f_bavail := low32 (UInt64.ofNat (ofBigEndian l)) }⟩,
    ⟨8, fun l statistics => { statistics with f_files := low32 (UInt64.ofNat (ofBigEndian l)) }⟩,
    ⟨8, fun l statistics => { statistics with f_ffree := low32 (UInt64.ofNat (ofBigEndian l)) }⟩,
    ⟨8, fun l statistics => { statistics with f_namemax := low32 (UInt64.ofNat (ofBigEndian l)) }⟩]

theorem stores_readAttr : Stores readAttr attrSlots := by
  simp only [readAttr, readU64_eq, readU32_eq, readMode_eq]
  exact .cons <| .cons <| .cons <| .cons <| .cons <| .cons <| .cons <| .cons <| .cons <| .cons <|
    .cons <| .cons <| .cons <| .last

theorem stores_readStatistics : Stores readStatistics statisticsSlots := by
  simp only [readStatistics, readU64_eq]
  exact .cons <| .cons <| .cons <| .cons <| .cons <| .cons <| .cons <| .last

/-- The statistics after a response whose fields begin at the fifth byte. -/
theorem storeFrom_statistics (l : Bytes) (statistics : Statvfs) :
    storeFrom l 4 statisticsSlots statistics =
      { f_bsize := if 12 ≤ l.length then doubleAt l 4 else statistics.f_bsize
        f_frsize := if 20 ≤ l.length then doubleAt l 12 else statistics.f_frsize
        f_blocks := if 28 ≤ l.length then doubleAt l 20 else statistics.f_blocks
        f_bfree := if 36 ≤ l.length then doubleAt l 28 else statistics.f_bfree
        f_bavail := if 44 ≤ l.length then doubleAt l 36 else statistics.f_bavail
        f_files := if 52 ≤ l.length then doubleAt l 44 else statistics.f_files
        f_ffree := if 60 ≤ l.length then doubleAt l 52 else statistics.f_ffree
        f_namemax := if 68 ≤ l.length then doubleAt l 60 else statistics.f_namemax } := by
  have hite {c : Prop} [Decidable c] (a b : Statvfs) : (if c then a else b) =
      ⟨if c then a.f_bsize else b.f_bsize, if c then a.f_frsize else b.f_frsize,
        if c then a.f_blocks else b.f_blocks, if c then a.f_bfree else b.f_bfree,
        if c then a.f_bavail else b.f_bavail, if c then a.f_files else b.f_files,
        if c then a.f_ffree else b.f_ffree, if c then a.f_namemax else b.f_namemax⟩ := by
    split_ifs <;> rfl
  simp only [statisticsSlots, storeFrom, hite, ite_self, doubleAt]

/-- The attributes after a response whose fields begin at the fifth byte. -/
theorem storeFrom_attr (l : Bytes) (attr : Stat) :
    storeFrom l 4 attrSlots attr =
      { st_ino := if 12 ≤ l.length then doubleAt l 4 else attr.st_ino
        st_nlink := if 20 ≤ l.length then doubleAt l 12 else attr.st_nlink
        st_mode := if 24 ≤ l.length then (FileMode.mk (wordAt l 20)).toMode else attr.st_mode
        st_uid := if 28 ≤ l.length then wordAt l 24 else attr.st_uid
        st_gid := if 32 ≤ l.length then wordAt l 28 else attr.st_gid
        st_rdev := if 40 ≤ l.length then doubleAt l 32 else attr.st_rdev
        st_size := if 48 ≤ l.length then (doubleAt l 40).toInt64 else attr.st_size
        st_blocks := if 56 ≤ l.length then (doubleAt l 48).toInt64 else attr.st_blocks
        st_atim :=
          ⟨if 64 ≤ l.length then (doubleAt l 56).toInt64 else attr.st_atim.tv_sec,
            if 68 ≤ l.length then (wordAt l 64).toUInt64.toInt64 else attr.st_atim.tv_nsec⟩
        st_mtim :=
          ⟨if 76 ≤ l.length then (doubleAt l 68).toInt64 else attr.st_mtim.tv_sec,
            if 80 ≤ l.length then (wordAt l 76).toUInt64.toInt64 else attr.st_mtim.tv_nsec⟩
        st_ctim :=
          ⟨if 88 ≤ l.length then (doubleAt l 80).toInt64 else attr.st_ctim.tv_sec,
            if 92 ≤ l.length then (wordAt l 88).toUInt64.toInt64 else attr.st_ctim.tv_nsec⟩ } := by
  have hite {c : Prop} [Decidable c] (a b : Stat) : (if c then a else b) =
      ⟨if c then a.st_ino else b.st_ino, if c then a.st_nlink else b.st_nlink,
        if c then a.st_mode else b.st_mode, if c then a.st_uid else b.st_uid,
        if c then a.st_gid else b.st_gid, if c then a.st_rdev else b.st_rdev,
        if c then a.st_size else b.st_size, if c then a.st_blocks else b.st_blocks,
        ⟨if c then a.st_atim.tv_sec else b.st_atim.tv_sec,
          if c then a.st_atim.tv_nsec else b.st_atim.tv_nsec⟩,
        ⟨if c then a.st_mtim.tv_sec else b.st_mtim.tv_sec,
          if c then a.st_mtim.tv_nsec else b.st_mtim.tv_nsec⟩,
        ⟨if c then a.st_ctim.tv_sec else b.st_ctim.tv_sec,
          if c then a.st_ctim.tv_nsec else b.st_ctim.tv_nsec⟩⟩ := by
    split_ifs <;> rfl
  simp only [attrSlots, storeFrom, hite, ite_self, doubleAt, wordAt]

/-! ### Decodings that throw -/

/-- Where a decoding of a result and an output throws, the result was not there, or it
was zero and the output was not. -/
theorem resultThen_error {output : ReadM ω Unit} {reader : MessageReader} {out : ω} {e : Exn}
    {st : Scan UInt8 ω} (h : resultThen output ⟨reader, out⟩ = .error e st) :
    ((payload reader).length < 4 ∧ st.memory = out) ∨
      (4 ≤ (payload reader).length ∧
        output ⟨⟨reader.data, reader.pos + 4⟩, out⟩ = .error e st) := by
  unfold resultThen at h
  by_cases hresult : 4 ≤ (payload reader).length
  · right
    rw [bind_of_ok (readResult_ok hresult out)] at h
    refine ⟨hresult, ?_⟩
    split_ifs at h with hzero
    · cases hout : output ⟨⟨reader.data, reader.pos + 4⟩, out⟩ with
      | ok u st' =>
          rw [bind_of_ok hout] at h
          cases h
      | error e' st' =>
          rw [bind_of_error hout] at h
          injection h with he hst
          rw [he, hst]
    · cases h
  · left
    rw [bind_of_error (readResult_error hresult out)] at h
    injection h with _ hst
    rw [← hst]
    exact ⟨Nat.lt_of_not_le hresult, rfl⟩

/-- Of an output that is stored field by field, what was complete is stored. -/
theorem resultThen_stores {output : ReadM ω Unit} {slots : List (Slot UInt8 ω)}
    (hs : Stores output slots) {reader : MessageReader} {out : ω} {e : Exn} {st : Scan UInt8 ω}
    (h : resultThen output ⟨reader, out⟩ = .error e st) :
    st.memory = storeFrom (payload reader) 4 slots out := by
  obtain ⟨hshort, hmem⟩ | ⟨hresult, hout⟩ := resultThen_error h
  · rw [hmem, storeFrom_of_lt hshort]
  · have hpos : reader.pos ≤ reader.data.length := by
      rw [payload, List.length_drop] at hresult
      omega
    have hfinal := hs reader.data (reader.pos + 4) out
    rw [hout, storeFrom_drop _ hpos] at hfinal
    exact hfinal

/-- An output that is assigned at the end is not touched. -/
theorem resultThen_untouched {α : Type} {x : ReadM Unit α} {f : α → ω → ω}
    {reader : MessageReader} {out : ω} {e : Exn} {st : Scan UInt8 ω}
    (h : resultThen (onCursor x >>= fun a => assign (f a)) ⟨reader, out⟩ = .error e st) :
    st.memory = out := by
  obtain ⟨-, hmem⟩ | ⟨-, hout⟩ := resultThen_error h
  · exact hmem
  · cases hx : (onCursor x : ReadM ω α) ⟨⟨reader.data, reader.pos + 4⟩, out⟩ with
    | ok a st' =>
        rw [bind_of_ok hx] at hout
        cases hout
    | error e' st' =>
        have hmem := onCursor_memory x ⟨⟨reader.data, reader.pos + 4⟩, out⟩
        rw [hx] at hmem
        rw [bind_of_error hx] at hout
        injection hout with _ hst
        rw [← hst]
        exact hmem

theorem readlinkResponse_untouched {reader : MessageReader} {out : Bytes} {e : Exn}
    {st : Scan UInt8 Bytes} (h : readlinkResponse ⟨reader, out⟩ = .error e st) :
    st.memory = out := by
  unfold readlinkResponse at h
  rw [← onCursor_readStr] at h
  exact resultThen_untouched h

theorem handleResponse_untouched {reader : MessageReader} {out : UInt64} {e : Exn}
    {st : Scan UInt8 UInt64} (h : handleResponse ⟨reader, out⟩ = .error e st) :
    st.memory = out := by
  unfold handleResponse at h
  rw [← onCursor_readU64] at h
  exact resultThen_untouched h

theorem readResponse_untouched {size : ℕ} {reader : MessageReader} {buffer : Vector UInt8 size}
    {e : Exn} {st : Scan UInt8 (Vector UInt8 size)}
    (h : readResponse ⟨reader, buffer⟩ = .error e st) : st.memory = buffer := by
  by_cases hnone : 4 ≤ (payload reader).length ∧ ¬ 0 < resultOf (payload reader)
  · rw [readResponse_of_nonpos buffer hnone.1 hnone.2] at h
    cases h
  · have hpos (h4 : 4 ≤ (payload reader).length) : 0 < resultOf (payload reader) :=
      by_contra fun hpos => hnone ⟨h4, hpos⟩
    by_cases hfits : 8 + (wordAt (payload reader) 4).toNat ≤ (payload reader).length ∧
        (wordAt (payload reader) 4).toNat ≤ size
    · obtain ⟨cursor, hok⟩ := readResponse_of_fits buffer (hpos (by omega)) hfits.1 hfits.2
      rw [hok] at h
      cases h
    · obtain ⟨e', cursor, herr⟩ := readResponse_of_not_fits buffer hpos hfits
      rw [herr] at h
      injection h with _ hst
      rw [← hst]

/-! ### Names -/

/-- Names are appended to those that are there, also when the loop throws. -/
theorem readStringsLoop_appends (n : ℕ) (s : Scan UInt8 (List Bytes)) :
    s.memory <+: (finalState (readStringsLoop n s)).memory := by
  induction n generalizing s with
  | zero => exact List.prefix_rfl
  | succ n ih =>
      have hmem := onCursor_memory readStr s
      rw [onCursor_readStr] at hmem
      unfold readStringsLoop
      cases hread : readStr s with
      | ok entry st =>
          rw [hread] at hmem
          rw [bind_of_ok hread]
          refine List.IsPrefix.trans ?_ (ih ⟨st.cursor, st.memory ++ [entry]⟩)
          rw [← hmem]
          exact List.prefix_append ..
      | error e st =>
          rw [hread] at hmem
          rw [bind_of_error hread, ← hmem]
          exact List.prefix_rfl

/-- A loop that throws has appended nothing exactly when it threw at its first name. -/
theorem readStringsLoop_memory {n : ℕ} {data : Bytes} {pos : ℕ} {entries : List Bytes} {e : Exn}
    {st : Scan UInt8 (List Bytes)}
    (h : readStringsLoop (n + 1) ⟨⟨data, pos⟩, entries⟩ = .error e st) :
    st.memory = entries ↔ ¬ pos + 4 + (wordAt data pos).toNat ≤ data.length := by
  unfold readStringsLoop at h
  by_cases hname : pos + 4 + (wordAt data pos).toNat ≤ data.length
  · have hread : readStr _ = _ := readBytes_ok (m := entries) hname
    rw [bind_of_ok hread] at h
    generalize (data.drop (pos + 4)).take (wordAt data pos).toNat = entry at h
    change readStringsLoop n ⟨_, entries ++ [entry]⟩ = _ at h
    have hpre := readStringsLoop_appends n ⟨⟨data, pos + 4 + (wordAt data pos).toNat⟩,
      entries ++ [entry]⟩
    rw [h] at hpre
    refine iff_of_false ?_ (not_not.2 hname)
    intro hsame
    have hle := hpre.length_le
    rw [finalState, hsame, List.length_append, List.length_singleton] at hle
    omega
  · obtain ⟨pos', herr⟩ := readBytes_error (m := entries) hname
    have hread : readStr _ = _ := herr
    rw [bind_of_error hread] at h
    injection h with _ hst
    rw [← hst]
    exact iff_of_true rfl hname

/-- **Names are left exactly when the first of them was complete.** -/
theorem readdirResponse_memory {reader : MessageReader} {entries : List Bytes} {e : Exn}
    {st : Scan UInt8 (List Bytes)} (h : readdirResponse ⟨reader, entries⟩ = .error e st) :
    st.memory = entries ↔ ¬ 12 + (wordAt (payload reader) 8).toNat ≤ (payload reader).length := by
  obtain ⟨hshort, hmem⟩ | ⟨hresult, hout⟩ := resultThen_error h
  · exact iff_of_true hmem (by omega)
  · have hlen : (payload reader).length = reader.data.length - reader.pos := List.length_drop ..
    have hword : wordAt (payload reader) 8 = wordAt reader.data (reader.pos + 4 + 4) :=
      wordAt_drop ..
    rw [hword, hlen]
    unfold readStrings at hout
    rw [readU32_eq] at hout
    by_cases hcount : reader.pos + 4 + 4 ≤ reader.data.length
    · rw [bind_of_ok (fixed_ok hcount)] at hout
      generalize (UInt32.ofNat (ofBigEndian ((reader.data.drop (reader.pos + 4)).take 4))).toNat =
        count at hout
      cases count with
      | zero => cases hout
      | succ count =>
          rw [readStringsLoop_memory hout]
          omega
    · rw [bind_of_error (fixed_error hcount)] at hout
      injection hout with _ hst
      rw [← hst]
      exact iff_of_true rfl (by omega)

/-! ### The fallback -/

/-- The fields that the response carries completely are those the caller has: of the
root the fallback assigns the first three itself. -/
structure AttrKept (path : Bytes) (l : Bytes) (attr : Stat) : Prop where
  ino : path ≠ EmptyFilesystem.root → 12 ≤ l.length → doubleAt l 4 = attr.st_ino
  nlink : path ≠ EmptyFilesystem.root → 20 ≤ l.length → doubleAt l 12 = attr.st_nlink
  mode : path ≠ EmptyFilesystem.root → 24 ≤ l.length →
    (FileMode.mk (wordAt l 20)).toMode = attr.st_mode
  uid : 28 ≤ l.length → wordAt l 24 = attr.st_uid
  gid : 32 ≤ l.length → wordAt l 28 = attr.st_gid
  rdev : 40 ≤ l.length → doubleAt l 32 = attr.st_rdev
  size : 48 ≤ l.length → (doubleAt l 40).toInt64 = attr.st_size
  blocks : 56 ≤ l.length → (doubleAt l 48).toInt64 = attr.st_blocks
  atimSec : 64 ≤ l.length → (doubleAt l 56).toInt64 = attr.st_atim.tv_sec
  atimNsec : 68 ≤ l.length → (wordAt l 64).toUInt64.toInt64 = attr.st_atim.tv_nsec
  mtimSec : 76 ≤ l.length → (doubleAt l 68).toInt64 = attr.st_mtim.tv_sec
  mtimNsec : 80 ≤ l.length → (wordAt l 76).toUInt64.toInt64 = attr.st_mtim.tv_nsec
  ctimSec : 88 ≤ l.length → (doubleAt l 80).toInt64 = attr.st_ctim.tv_sec
  ctimNsec : 92 ≤ l.length → (wordAt l 88).toUInt64.toInt64 = attr.st_ctim.tv_nsec

/-- The fields that the response carries completely are those the caller has. -/
structure StatisticsKept (l : Bytes) (statistics : Statvfs) : Prop where
  bsize : 12 ≤ l.length → doubleAt l 4 = statistics.f_bsize
  frsize : 20 ≤ l.length → doubleAt l 12 = statistics.f_frsize
  blocks : 28 ≤ l.length → doubleAt l 20 = statistics.f_blocks
  bfree : 36 ≤ l.length → doubleAt l 28 = statistics.f_bfree
  bavail : 44 ≤ l.length → doubleAt l 36 = statistics.f_bavail
  files : 52 ≤ l.length → doubleAt l 44 = statistics.f_files
  ffree : 60 ≤ l.length → doubleAt l 52 = statistics.f_ffree
  namemax : 68 ≤ l.length → doubleAt l 60 = statistics.f_namemax

theorem getattr_fallback_iff (path l : Bytes) (attr : Stat) :
    EmptyFilesystem.getattr path (storeFrom l 4 attrSlots attr) =
      EmptyFilesystem.getattr path attr ↔ AttrKept path l attr := by
  rw [storeFrom_attr]
  obtain ⟨ino, nlink, mode, uid, gid, rdev, size, blocks, ⟨asec, ansec⟩, ⟨msec, mnsec⟩,
    ⟨csec, cnsec⟩⟩ := attr
  unfold EmptyFilesystem.getattr
  by_cases hroot : path = EmptyFilesystem.root
  · simp only [if_pos hroot, Prod.mk.injEq, Stat.mk.injEq, Timespec.mk.injEq, ite_eq_right_iff,
      true_and]
    constructor
    · rintro ⟨h₁, h₂, h₃, h₄, h₅, ⟨h₆, h₇⟩, ⟨h₈, h₉⟩, h₁₀, h₁₁⟩
      exact ⟨fun h => absurd hroot h, fun h => absurd hroot h, fun h => absurd hroot h, h₁, h₂, h₃,
        h₄, h₅, h₆, h₇, h₈, h₉, h₁₀, h₁₁⟩
    · intro h
      exact ⟨h.uid, h.gid, h.rdev, h.size, h.blocks, ⟨h.atimSec, h.atimNsec⟩,
        ⟨h.mtimSec, h.mtimNsec⟩, h.ctimSec, h.ctimNsec⟩
  · simp only [if_neg hroot, Prod.mk.injEq, Stat.mk.injEq, Timespec.mk.injEq, ite_eq_right_iff,
      true_and]
    constructor
    · rintro ⟨h₁, h₂, h₃, h₄, h₅, h₆, h₇, h₈, ⟨h₉, h₁₀⟩, ⟨h₁₁, h₁₂⟩, h₁₃, h₁₄⟩
      exact ⟨fun _ => h₁, fun _ => h₂, fun _ => h₃, h₄, h₅, h₆, h₇, h₈, h₉, h₁₀, h₁₁, h₁₂, h₁₃,
        h₁₄⟩
    · intro h
      exact ⟨h.ino hroot, h.nlink hroot, h.mode hroot, h.uid, h.gid, h.rdev, h.size, h.blocks,
        ⟨h.atimSec, h.atimNsec⟩, ⟨h.mtimSec, h.mtimNsec⟩, h.ctimSec, h.ctimNsec⟩

theorem storeFrom_statistics_iff (l : Bytes) (statistics : Statvfs) :
    storeFrom l 4 statisticsSlots statistics = statistics ↔ StatisticsKept l statistics := by
  rw [storeFrom_statistics]
  obtain ⟨bsize, frsize, blocks, bfree, bavail, files, ffree, namemax⟩ := statistics
  simp only [Statvfs.mk.injEq, ite_eq_right_iff]
  constructor
  · rintro ⟨h₁, h₂, h₃, h₄, h₅, h₆, h₇, h₈⟩
    exact ⟨h₁, h₂, h₃, h₄, h₅, h₆, h₇, h₈⟩
  · intro h
    exact ⟨h.bsize, h.frsize, h.blocks, h.bfree, h.bavail, h.files, h.ffree, h.namemax⟩

/-- A method whose decoding throws and leaves the output answers as the fallback does on
the caller's output. -/
theorem call_of_untouched {perform : MessageWriter → EStateM Exn τ MessageReader}
    {req : MessageWriter} {response : ReadM ω Int32} {out : ω} {t t' : τ} {reader : MessageReader}
    (hperform : perform req t = .ok reader t')
    (hthrows : ∃ e st, response ⟨reader, out⟩ = .error e st)
    (hmem : ∀ e st, response ⟨reader, out⟩ = .error e st → st.memory = out)
    (fallback : ω → Int32 × ω) :
    call perform req response fallback out t = .ok (fallback out) t' := by
  obtain ⟨e, st, herr⟩ := hthrows
  rw [call_of_error hperform fallback herr, hmem e st herr]

/-- **When a response that fails to decode leaves no trace.**  Let a response throw in
its decoding.  `readlink`, `open`, `create` and `read` answer as `empty_filesystem` does on
the caller's output parameters.  `getattr` and `statfs` do so if and only if every field
that the response carries completely has the value the caller's record has, and
`readdir` if and only if the response does not carry a complete name. -/
theorem fallback_untouched_iff (perform : MessageWriter → EStateM Exn τ MessageReader)
    (path : Bytes) (t t' : τ) (reader : MessageReader) :
    (∀ out, perform (readlinkRequest path) t = .ok reader t' →
      (∃ e st, readlinkResponse ⟨reader, out⟩ = .error e st) →
        (filesystem perform).readlink path out t = .ok (EmptyFilesystem.readlink path out) t') ∧
    (∀ flags handle, perform (openRequest path flags) t = .ok reader t' →
      (∃ e st, handleResponse ⟨reader, handle⟩ = .error e st) →
        (filesystem perform).open path flags handle t =
          .ok (EmptyFilesystem.open path flags handle) t') ∧
    (∀ mode handle, perform (createRequest path mode) t = .ok reader t' →
      (∃ e st, handleResponse ⟨reader, handle⟩ = .error e st) →
        (filesystem perform).create path mode handle t =
          .ok (EmptyFilesystem.create path mode handle) t') ∧
    (∀ (size : ℕ) (buffer : Vector UInt8 size) (offset handle : UInt64),
      perform (readRequest path (UInt64.ofNat size) offset handle) t = .ok reader t' →
      (∃ e st, readResponse ⟨reader, buffer⟩ = .error e st) →
        (filesystem perform).read path buffer offset handle t =
          .ok (EmptyFilesystem.read path buffer offset handle) t') ∧
    (∀ attr, perform (getattrRequest path) t = .ok reader t' →
      (∃ e st, getattrResponse ⟨reader, attr⟩ = .error e st) →
        ((filesystem perform).getattr path attr t = .ok (EmptyFilesystem.getattr path attr) t' ↔
          AttrKept path (payload reader) attr)) ∧
    (∀ statistics, perform (statfsRequest path) t = .ok reader t' →
      (∃ e st, statfsResponse ⟨reader, statistics⟩ = .error e st) →
        ((filesystem perform).statfs path statistics t =
            .ok (EmptyFilesystem.statfs path statistics) t' ↔
          StatisticsKept (payload reader) statistics)) ∧
    ∀ entries, perform (readdirRequest path) t = .ok reader t' →
      (∃ e st, readdirResponse ⟨reader, entries⟩ = .error e st) →
        ((filesystem perform).readdir path entries t =
            .ok (EmptyFilesystem.readdir path entries) t' ↔
          ¬ 12 + (wordAt (payload reader) 8).toNat ≤ (payload reader).length) := by
  refine ⟨?_, ?_, ?_, ?_, ?_, ?_, ?_⟩
  · intro out hperform hthrows
    exact call_of_untouched hperform hthrows (fun _ _ => readlinkResponse_untouched) _
  · intro flags handle hperform hthrows
    exact call_of_untouched hperform hthrows (fun _ _ => handleResponse_untouched) _
  · intro mode handle hperform hthrows
    exact call_of_untouched hperform hthrows (fun _ _ => handleResponse_untouched) _
  · intro size buffer offset handle hperform hthrows
    exact call_of_untouched hperform hthrows (fun _ _ => readResponse_untouched) fun buffer =>
      EmptyFilesystem.read path buffer offset handle
  · rintro attr hperform ⟨e, st, herr⟩
    change call perform _ getattrResponse (EmptyFilesystem.getattr path) attr t = _ ↔ _
    rw [call_of_error hperform _ herr, resultThen_stores stores_readAttr herr,
      ← getattr_fallback_iff, EStateM.Result.ok.injEq, and_iff_left rfl]
  · rintro statistics hperform ⟨e, st, herr⟩
    change call perform _ statfsResponse (EmptyFilesystem.statfs path) statistics t = _ ↔ _
    rw [call_of_error hperform _ herr, resultThen_stores stores_readStatistics herr,
      ← storeFrom_statistics_iff, EStateM.Result.ok.injEq, and_iff_left rfl,
      EmptyFilesystem.statfs, EmptyFilesystem.statfs, Prod.mk.injEq, and_iff_right rfl]
  · rintro entries hperform ⟨e, st, herr⟩
    change call perform _ readdirResponse (EmptyFilesystem.readdir path) entries t = _ ↔ _
    rw [call_of_error hperform _ herr, ← readdirResponse_memory herr, EStateM.Result.ok.injEq,
      and_iff_left rfl, EmptyFilesystem.readdir, EmptyFilesystem.readdir, Prod.mk.injEq,
      and_iff_right rfl]

/-- A response to `getattr` of the root that breaks off behind the user id: the call
succeeds, with the owner the response named.  One to `readdir` that breaks off behind
the first of two names: the call fails, and the name stays. -/
theorem fallback_leaves_trace :
    (∃ e st, getattrResponse ⟨⟨[0, 0, 0, 1, 0x82, 0, 0, 0, 0, 0, 0, 0, 0, 0, 0, 0, 5,
        0, 0, 0, 0, 0, 0, 0, 1, 0, 0, 1, 0xa4, 0, 0, 0, 7], 5⟩, default⟩ = .error e st) ∧
      (filesystem (τ := Unit) fun _ t => .ok ⟨[0, 0, 0, 1, 0x82, 0, 0, 0, 0, 0, 0, 0, 0, 0, 0, 0, 5,
          0, 0, 0, 0, 0, 0, 0, 1, 0, 0, 1, 0xa4, 0, 0, 0, 7], 5⟩ t).getattr [0x2f] default () ≠
        .ok (EmptyFilesystem.getattr [0x2f] default) () ∧
      (∃ e st, readdirResponse ⟨⟨[0, 0, 0, 1, 0x93, 0, 0, 0, 0, 0, 0, 0, 2, 0, 0, 0, 1, 0x61], 5⟩,
        []⟩ = .error e st) ∧
      (filesystem (τ := Unit) fun _ t =>
          .ok ⟨[0, 0, 0, 1, 0x93, 0, 0, 0, 0, 0, 0, 0, 2, 0, 0, 0, 1, 0x61], 5⟩ t).readdir
            [0x2f] [] () ≠ .ok (EmptyFilesystem.readdir [0x2f] []) () := by
  refine ⟨⟨_, _, rfl⟩, ?_, ⟨_, _, rfl⟩, ?_⟩
  · intro h
    have howner := congrArg (fun r => match r with
      | .ok (_, attr) _ => attr.st_uid
      | .error _ _ => 0) h
    exact absurd howner (by decide)
  · intro h
    have hcount := congrArg (fun r => match r with
      | .ok (_, entries) _ => entries.length
      | .error _ _ => 0) h
    exact absurd hcount (by decide)

end Service

end Webfuse
