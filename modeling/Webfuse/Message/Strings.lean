/-
# Lists of strings

A list of strings is written as its count and the strings, each behind its length.  The
format is uniquely decodable: what was written is read back to its last byte, whatever
stands before and after it, and what was read is written again as the bytes that were
consumed, so there is one way to write a list.  A count that announces more strings than
there are is refused, since every string takes the four bytes of its length.

The second half holds of all bytes, not only of those that were written.
-/

import Webfuse.Message.Fields

namespace Webfuse

open Basis MessageWriter

variable {ω β : Type}

/-- A value that was written is read back, wherever it stands. -/
def ReadsBack (write : MessageWriter → β → MessageWriter) (read : ReadM ω β) (value : β) : Prop :=
  ∀ (w : MessageWriter) (rest : Bytes) (m : ω),
    read ⟨⟨(write w value).data ++ rest, w.data.length⟩, m⟩ =
      .ok value ⟨⟨(write w value).data ++ rest, (write w value).data.length⟩, m⟩

/-- A value that was read is written as the bytes it was read from. -/
def WritesBack (write : MessageWriter → β → MessageWriter) (read : ReadM ω β) : Prop :=
  ∀ data pos m value t, read ⟨⟨data, pos⟩, m⟩ = .ok value t →
    ∃ pos', t = ⟨⟨data, pos'⟩, m⟩ ∧ pos ≤ pos' ∧ pos' ≤ data.length ∧
      ∀ w, (write w value).data = w.data ++ (data.drop pos).take (pos' - pos)

/-- A field that is read at its bytes is read back. -/
theorem ReadsBack.of_reads {write : MessageWriter → β → MessageWriter} {read : ReadM ω β}
    {value : β} {l : Bytes} (hread : Reads read l (pure value))
    (hwrite : ∀ w, (write w value).data = w.data ++ l) : ReadsBack write read value := by
  intro w rest m
  rw [hwrite]
  exact hread w.data rest m

/-- A field whose bytes were passed is written back. -/
theorem WritesBack.of_passed {write : MessageWriter → β → MessageWriter} {read : ReadM ω β}
    {bytes : β → Bytes} (hwrite : ∀ w value, (write w value).data = w.data ++ bytes value)
    (hne : ∀ value, bytes value ≠ [])
    (hread : ∀ {s value t}, read s = .ok value t →
      t.memory = s.memory ∧ s.cursor.Passed t.cursor (bytes value)) :
    WritesBack write read := by
  rintro data pos m value ⟨⟨data', pos'⟩, m'⟩ h
  obtain ⟨hm, hpassed⟩ := hread h
  obtain rfl : data' = data := hpassed.data
  obtain rfl : m' = m := hm
  have hpos : pos' = pos + (bytes value).length := hpassed.pos
  refine ⟨pos', rfl, by omega, hpassed.pos_le (hne value), fun w => ?_⟩
  rw [hwrite, ← hpassed.take_eq]

/-! ### Words and strings -/

theorem readU32_passed {s t : Scan UInt8 ω} {value : UInt32} (h : readU32 s = .ok value t) :
    t.memory = s.memory ∧ s.cursor.Passed t.cursor (bytesOfU32 value) := by
  rw [readU32_eq] at h
  obtain ⟨l, hl, rfl, hm, hpassed⟩ := fixed_passed h
  refine ⟨hm, ?_⟩
  rwa [bytesOfU32_ofBigEndian hl]

/-- A string that fits its length field is all that is written behind it. -/
theorem bytesOfData_of_lt {l : Bytes} (h : l.length < 2 ^ 32) :
    bytesOfData l = bytesOfU32 (UInt32.ofNat l.length) ++ l := by
  rw [bytesOfData, Nat.mod_eq_of_lt h, List.take_length]

theorem readStr_passed {s t : Scan UInt8 ω} {value : Bytes} (h : readStr s = .ok value t) :
    t.memory = s.memory ∧ s.cursor.Passed t.cursor (bytesOfData value) := by
  change (readU32 >>= fun size => fixed size.toNat id outOfBounds) s = .ok value t at h
  obtain ⟨size, u, hsize, hrest⟩ := bind_eq_ok h
  obtain ⟨hm, hpassed⟩ := readU32_passed hsize
  obtain ⟨l, hl, rfl, hm', hpassed'⟩ := fixed_passed hrest
  have hlt : value.length < 2 ^ 32 := hl ▸ size.toNat_lt
  refine ⟨hm'.trans hm, ?_⟩
  rw [bytesOfData_of_lt hlt, hl, UInt32.ofNat_toNat]
  exact hpassed.trans hpassed'

/-! ### Lists -/

/-- The loop of `read_strings` passes the bytes of the strings it appends. -/
theorem readStringsLoop_passed (n : ℕ) {s t : Scan UInt8 (List Bytes)}
    (h : readStringsLoop n s = .ok () t) :
    ∃ list, list.length = n ∧ t.memory = s.memory ++ list ∧
      s.cursor.Passed t.cursor (list.flatMap bytesOfData) := by
  induction n generalizing s with
  | zero =>
      cases h
      exact ⟨[], rfl, (List.append_nil _).symm, .refl _⟩
  | succ n ih =>
      obtain ⟨entry, u, hentry, hrest⟩ := bind_eq_ok h
      obtain ⟨hm, hpassed⟩ := readStr_passed hentry
      obtain ⟨_, v, hassign, hrest⟩ := bind_eq_ok hrest
      cases hassign
      obtain ⟨list, hlen, hm', hpassed'⟩ := ih hrest
      refine ⟨entry :: list, by rw [List.length_cons, hlen], ?_, hpassed.trans hpassed'⟩
      rw [hm']
      change u.memory ++ [entry] ++ list = _
      rw [hm, List.append_assoc, List.singleton_append]

/-- Every string takes at least the four bytes of its length. -/
theorem four_mul_le_length (list : List Bytes) :
    4 * list.length ≤ (list.flatMap bytesOfData).length := by
  induction list with
  | nil => rfl
  | cons l list ih =>
      rw [List.flatMap_cons, List.length_append, List.length_cons, bytesOfData, List.length_append,
        bytesOfU32_length]
      omega

theorem readStrings_passed {s t : Scan UInt8 (List Bytes)} (h : readStrings s = .ok () t) :
    ∃ list, list.length < 2 ^ 32 ∧ t.memory = s.memory ++ list ∧
      s.cursor.Passed t.cursor (bytesOfStrings list) := by
  obtain ⟨count, u, hcount, hrest⟩ := bind_eq_ok h
  obtain ⟨hm, hpassed⟩ := readU32_passed hcount
  obtain ⟨list, hlen, hm', hpassed'⟩ := readStringsLoop_passed count.toNat hrest
  refine ⟨list, hlen ▸ count.toNat_lt, by rw [hm', hm], ?_⟩
  rw [bytesOfStrings, hlen, UInt32.ofNat_toNat]
  exact hpassed.trans hpassed'

/-- **Lists of strings are uniquely decodable**, and so are words and strings. -/
theorem strings_uniquely_decodable :
    ((∀ value, ReadsBack writeU32 (readU32 : ReadM ω UInt32) value) ∧
      WritesBack writeU32 (readU32 : ReadM ω UInt32)) ∧
    ((∀ value, value.length < 2 ^ 32 → ReadsBack writeStr (readStr : ReadM ω Bytes) value) ∧
      WritesBack writeStr (readStr : ReadM ω Bytes)) ∧
    (∀ list : List Bytes, list.length < 2 ^ 32 → (∀ l ∈ list, l.length < 2 ^ 32) →
      ∀ (w : MessageWriter) (rest : Bytes) (entries : List Bytes),
        readStrings ⟨⟨(w.writeStrings list).data ++ rest, w.data.length⟩, entries⟩ =
          .ok () ⟨⟨(w.writeStrings list).data ++ rest, (w.writeStrings list).data.length⟩,
            entries ++ list⟩) ∧
    ∀ data pos entries t, readStrings ⟨⟨data, pos⟩, entries⟩ = .ok () t →
      ∃ list pos', t = ⟨⟨data, pos'⟩, entries ++ list⟩ ∧ pos' ≤ data.length ∧
        (∀ w : MessageWriter, (w.writeStrings list).data =
          w.data ++ (data.drop pos).take (pos' - pos)) ∧
        (wordAt data pos).toNat = list.length ∧ pos + 4 + 4 * list.length ≤ pos' := by
  refine ⟨⟨fun value => ?_, ?_⟩, ⟨fun value hvalue => ?_, ?_⟩, ?_, ?_⟩
  · exact .of_reads (reads_readU32 value) fun w => w.writeU32_data value
  · exact .of_passed (fun w value => w.writeU32_data value) (fun value => by simp [bytesOfU32])
      readU32_passed
  · have hread := reads_readStr (ω := ω) value
    rw [clip_of_lt hvalue] at hread
    exact .of_reads hread fun w => w.writeStr_data value
  · exact .of_passed (fun w value => w.writeStr_data value)
      (fun value => by simp [bytesOfData, bytesOfU32]) readStr_passed
  · intro list hcount hlengths w rest entries
    have hclip : list.map clip = list := by
      rw [List.map_congr_left fun l hl => clip_of_lt (hlengths l hl), List.map_id']
    have hread := reads_readStrings hcount w.data rest entries
    rw [hclip] at hread
    rw [writeStrings_data]
    exact hread
  · rintro data pos entries ⟨⟨data', pos'⟩, entries'⟩ h
    obtain ⟨list, hlen, hm, hpassed⟩ := readStrings_passed h
    obtain rfl : data' = data := hpassed.data
    obtain rfl : entries' = entries ++ list := hm
    have hpos : pos' = pos + (bytesOfStrings list).length := hpassed.pos
    have hfour := four_mul_le_length list
    rw [bytesOfStrings, List.length_append, bytesOfU32_length] at hpos
    refine ⟨list, pos', rfl, hpassed.pos_le (by simp [bytesOfStrings, bytesOfU32]), fun w => ?_, ?_,
      by omega⟩
    · rw [writeStrings_data, ← hpassed.take_eq]
    · have hword : wordAt data' pos = UInt32.ofNat list.length := by
        change messageId (data'.drop pos) = _
        rw [show data'.drop pos = _ from hpassed.segment, bytesOfStrings, List.append_assoc,
          messageId_header]
      rw [hword, UInt32.toNat_ofNat', Nat.mod_eq_of_lt hlen]

/-- A list of two strings behind a header, and a count of two behind which there is one. -/
theorem strings_uniquely_decodable_two :
    readStrings ⟨⟨((ofRequest .readdir).writeStrings [[0x61], []]).data ++ [0xff], 5⟩, [[0x62]]⟩ =
        .ok () ⟨⟨((ofRequest .readdir).writeStrings [[0x61], []]).data ++ [0xff], 18⟩,
          [[0x62], [0x61], []]⟩ ∧
      ∀ t, readStrings ⟨⟨[0, 0, 0, 2, 0, 0, 0, 1, 0x61], 0⟩, []⟩ ≠ .ok () t := by
  obtain ⟨-, -, hreads, hwrites⟩ := strings_uniquely_decodable (ω := Unit)
  refine ⟨hreads [[0x61], []] (by decide) (by decide) (ofRequest .readdir) [0xff] [[0x62]], ?_⟩
  intro t h
  obtain ⟨list, pos', -, hle, -, hcount, hpos⟩ := hwrites _ _ _ _ h
  have htwo : (wordAt [0, 0, 0, 2, 0, 0, 0, 1, 0x61] 0).toNat = 2 := by decide
  simp only [List.length_cons, List.length_nil] at hle
  omega

end Webfuse
