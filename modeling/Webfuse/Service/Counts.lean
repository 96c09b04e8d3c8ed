/-
# Byte counts

`filesystem::read` is answered with two counts: the result, and the length of the data
that follows it.  The data is copied when it fits the buffer, and the result is
returned, whatever the length of the data was: a result that is larger reports bytes
of the buffer as read that nobody wrote.  `filesystem::write` returns the result as
it is.  Both counts come from the peer.
-/

import Webfuse.Message.Fields
import Webfuse.Service.Filesystem

namespace Webfuse

open Basis

namespace Service

variable {τ ω : Type}

/-- What a reader has not read. -/
def payload (reader : MessageReader) : Bytes := reader.data.drop reader.pos

/-- The result that a response begins with. -/
def resultOf (l : Bytes) : Int32 := (wordAt l 0).toInt32

/-- The data of a response to `read`, behind its result and its length. -/
def dataOf (l : Bytes) : Bytes := (l.drop 8).take (wordAt l 4).toNat

/-! ### The calls -/

variable {perform : MessageWriter → EStateM Exn τ MessageReader} {req : MessageWriter}
  {response : ReadM ω Int32} {out : ω} {t t' : τ} {reader : MessageReader}

theorem call_of_ok (hperform : perform req t = .ok reader t') (fallback : ω → Int32 × ω)
    {result : Int32} {st : Scan UInt8 ω} (h : response ⟨reader, out⟩ = .ok result st) :
    call perform req response fallback out t = .ok (result, st.memory) t' := by
  unfold call
  rw [hperform]
  simp only [h]

theorem call_of_error (hperform : perform req t = .ok reader t') (fallback : ω → Int32 × ω)
    {e : Exn} {st : Scan UInt8 ω} (h : response ⟨reader, out⟩ = .error e st) :
    call perform req response fallback out t = .ok (fallback st.memory) t' := by
  unfold call
  rw [hperform]
  simp only [h]

/-- A result that is there is read. -/
theorem readResult_ok (h : 4 ≤ (payload reader).length) (m : ω) :
    readResult ⟨reader, m⟩ =
      .ok (resultOf (payload reader)) ⟨⟨reader.data, reader.pos + 4⟩, m⟩ := by
  have hin : reader.pos + 4 ≤ reader.data.length := by
    rw [payload, List.length_drop] at h
    omega
  rw [readResult_eq]
  exact fixed_ok hin

theorem readResult_error (h : ¬ 4 ≤ (payload reader).length) (m : ω) :
    readResult ⟨reader, m⟩ = .error outOfBounds ⟨reader, m⟩ := by
  have hout : ¬ reader.pos + 4 ≤ reader.data.length := by
    rw [payload, List.length_drop] at h
    omega
  rw [readResult_eq]
  exact fixed_error hout

/-! ### `read` -/

/-- The count covers bytes of the response alone: it is within the buffer, the response
carries as many bytes, and they are what the buffer begins with. -/
def ReadHonest (l : Bytes) {size : ℕ} (r : Int32) (buffer : Vector UInt8 size) : Prop :=
  r.toInt ≤ size ∧ r.toInt ≤ (dataOf l).length ∧
    buffer.toList.take r.toInt.toNat = (dataOf l).take r.toInt.toNat

/-- The response has data that fits the buffer, and a result that says there is more. -/
def Overcounted (l : Bytes) (size : ℕ) : Prop :=
  8 + (wordAt l 4).toNat ≤ l.length ∧ (wordAt l 4).toNat ≤ size ∧
    ((wordAt l 4).toNat : ℤ) < (resultOf l).toInt

/-- The start of a buffer that data was copied to. -/
theorem overwrite_take {size : ℕ} (buffer : Vector UInt8 size) {data : Bytes}
    (hdata : data.length ≤ size) {n : ℕ} (hn : n ≤ data.length) :
    (overwrite buffer data).toList.take n = data.take n := by
  have hsize : (overwrite buffer data).toList.length = size := by simp
  refine List.ext_getElem ?_ ?_
  · rw [List.length_take, List.length_take, hsize]
    omega
  · intro i hi _
    have hin : i < data.length := by
      rw [List.length_take] at hi
      omega
    simp [overwrite, List.getElem?_eq_getElem hin]

/-- Behind a positive result the data is read, and copied where it fits. -/
theorem readResponse_of_pos {size : ℕ} (buffer : Vector UInt8 size)
    (hresult : 4 ≤ (payload reader).length) (hpos : 0 < resultOf (payload reader)) :
    readResponse ⟨reader, buffer⟩ = (readBytes >>= fun data =>
      if data.length ≤ size then
        assign (fun buffer => overwrite buffer data) >>= fun _ => pure (resultOf (payload reader))
      else throw ⟨"invalid message"⟩ >>= fun _ : Unit => pure (resultOf (payload reader)))
        ⟨⟨reader.data, reader.pos + 4⟩, buffer⟩ := by
  unfold readResponse
  rw [bind_of_ok (readResult_ok hresult buffer), if_pos hpos]

theorem readResponse_of_nonpos {size : ℕ} (buffer : Vector UInt8 size)
    (hresult : 4 ≤ (payload reader).length) (hpos : ¬ 0 < resultOf (payload reader)) :
    readResponse ⟨reader, buffer⟩ =
      .ok (resultOf (payload reader)) ⟨⟨reader.data, reader.pos + 4⟩, buffer⟩ := by
  unfold readResponse
  rw [bind_of_ok (readResult_ok hresult buffer), if_neg hpos]
  rfl

/-- Data that is there and fits is returned under the result. -/
theorem readResponse_of_fits {size : ℕ} (buffer : Vector UInt8 size)
    (hpos : 0 < resultOf (payload reader))
    (hdata : 8 + (wordAt (payload reader) 4).toNat ≤ (payload reader).length)
    (hfits : (wordAt (payload reader) 4).toNat ≤ size) :
    ∃ cursor, readResponse ⟨reader, buffer⟩ = .ok (resultOf (payload reader))
      ⟨cursor, overwrite buffer (dataOf (payload reader))⟩ := by
  have hlen : (payload reader).length = reader.data.length - reader.pos := List.length_drop ..
  have hword : wordAt (payload reader) 4 = wordAt reader.data (reader.pos + 4) := wordAt_drop ..
  have hin : reader.pos + 4 + 4 + (wordAt reader.data (reader.pos + 4)).toNat ≤
      reader.data.length := by
    rw [← hword]
    omega
  have hbytes : (reader.data.drop (reader.pos + 4 + 4)).take
      (wordAt reader.data (reader.pos + 4)).toNat = dataOf (payload reader) := by
    rw [dataOf, hword, payload, List.drop_drop]
  have hsize : (dataOf (payload reader)).length ≤ size := by
    rw [dataOf, List.length_take]
    omega
  refine ⟨⟨reader.data, reader.pos + 4 + 4 + (wordAt reader.data (reader.pos + 4)).toNat⟩, ?_⟩
  rw [readResponse_of_pos buffer (by omega) hpos, bind_of_ok (readBytes_ok hin), hbytes,
    if_pos hsize]
  rfl

/-- A positive result without data that is there and fits is an error, and the buffer
is what it was. -/
theorem readResponse_of_not_fits {size : ℕ} (buffer : Vector UInt8 size)
    (hpos : 4 ≤ (payload reader).length → 0 < resultOf (payload reader))
    (h : ¬ (8 + (wordAt (payload reader) 4).toNat ≤ (payload reader).length ∧
      (wordAt (payload reader) 4).toNat ≤ size)) :
    ∃ e cursor, readResponse ⟨reader, buffer⟩ = .error e ⟨cursor, buffer⟩ := by
  have hlen : (payload reader).length = reader.data.length - reader.pos := List.length_drop ..
  have hword : wordAt (payload reader) 4 = wordAt reader.data (reader.pos + 4) := wordAt_drop ..
  by_cases hresult : 4 ≤ (payload reader).length
  · rw [readResponse_of_pos buffer hresult (hpos hresult)]
    by_cases hin : reader.pos + 4 + 4 + (wordAt reader.data (reader.pos + 4)).toNat ≤
        reader.data.length
    · have hlong : ¬ ((reader.data.drop (reader.pos + 4 + 4)).take
          (wordAt reader.data (reader.pos + 4)).toNat).length ≤ size := by
        rw [List.length_take, List.length_drop]
        rw [hword] at h
        omega
      rw [bind_of_ok (readBytes_ok hin), if_neg hlong]
      exact ⟨_, _, rfl⟩
    · obtain ⟨pos, herr⟩ := readBytes_error (m := buffer) hin
      exact ⟨_, _, bind_of_error herr _⟩
  · exact ⟨_, _, bind_of_error (readResult_error hresult buffer) _⟩

/-- **A response is reported honestly exactly when its result does not count more
than its data.** -/
theorem read_honest_iff (perform : MessageWriter → EStateM Exn τ MessageReader) (path : Bytes)
    {size : ℕ} (buffer : Vector UInt8 size) (offset handle : UInt64)
    (hperform : perform (readRequest path (UInt64.ofNat size) offset handle) t = .ok reader t') :
    (∀ r buffer' t'',
        (filesystem perform).read path buffer offset handle t = .ok (r, buffer') t'' →
          0 < r → ReadHonest (payload reader) r buffer') ↔
      ¬ Overcounted (payload reader) size := by
  change (∀ r buffer' t'', call perform _ readResponse (fun buffer =>
    EmptyFilesystem.read path buffer offset handle) buffer t = .ok (r, buffer') t'' →
      0 < r → _) ↔ _
  by_cases hfits : 8 + (wordAt (payload reader) 4).toNat ≤ (payload reader).length ∧
      (wordAt (payload reader) 4).toNat ≤ size
  · have hdata : (dataOf (payload reader)).length = (wordAt (payload reader) 4).toNat := by
      rw [dataOf, List.length_take, List.length_drop]
      omega
    by_cases hpos : 0 < resultOf (payload reader)
    · obtain ⟨cursor, hread⟩ := readResponse_of_fits buffer hpos hfits.1 hfits.2
      rw [call_of_ok hperform _ hread]
      constructor
      · intro h hover
        have hhonest := (h _ _ _ rfl hpos).2.1
        rw [hdata] at hhonest
        exact absurd hover.2.2 (by omega)
      · rintro hover r buffer' t'' ⟨⟩ -
        have hle : (resultOf (payload reader)).toInt ≤ (wordAt (payload reader) 4).toNat := by
          by_contra hlt
          exact hover ⟨hfits.1, hfits.2, by omega⟩
        refine ⟨by omega, by omega, ?_⟩
        exact overwrite_take buffer (by omega) (by omega)
    · rw [call_of_ok hperform _ (readResponse_of_nonpos buffer (by omega) hpos)]
      refine iff_of_true ?_ ?_
      · rintro r buffer' t'' ⟨⟩ hr
        exact absurd hr hpos
      · rintro ⟨-, -, hover⟩
        refine hpos (Int32.lt_iff_toInt_lt.2 ?_)
        exact lt_of_le_of_lt (Int.natCast_nonneg _) hover
  · refine iff_of_true ?_ fun hover => hfits ⟨hover.1, hover.2.1⟩
    intro r buffer' t'' hcall hr
    by_cases hnone : 4 ≤ (payload reader).length ∧ ¬ 0 < resultOf (payload reader)
    · rw [call_of_ok hperform _ (readResponse_of_nonpos buffer hnone.1 hnone.2)] at hcall
      injection hcall with hcall
      injection hcall with hresult
      exact absurd (hresult ▸ hr) hnone.2
    · obtain ⟨e, cursor, herr⟩ := readResponse_of_not_fits buffer
        (fun h => by_contra fun hpos => hnone ⟨h, hpos⟩) hfits
      rw [call_of_error hperform _ herr] at hcall
      injection hcall with hcall
      injection hcall with hresult
      rw [← hresult] at hr
      exact absurd hr (by decide)

/-! ### `write` -/

/-- The result of a method without output parameters is the one in the response, or
the fallback where there is none. -/
theorem callResult_eq (hperform : perform req t = .ok reader t') (fallback : Int32) :
    callResult perform req fallback t =
      .ok (if 4 ≤ (payload reader).length then resultOf (payload reader) else fallback) t' := by
  unfold callResult
  by_cases hresult : 4 ≤ (payload reader).length
  · rw [if_pos hresult]
    exact bind_pure_of_ok (call_of_ok hperform _ (readResult_ok hresult ())) fun r => r.1
  · rw [if_neg hresult]
    exact bind_pure_of_ok (call_of_error hperform _ (readResult_error hresult ())) fun r => r.1

theorem write_honest_iff (perform : MessageWriter → EStateM Exn τ MessageReader)
    (path buffer : Bytes) (offset handle : UInt64)
    (hperform : perform (writeRequest path buffer offset handle) t = .ok reader t') :
    (∀ r t'', (filesystem perform).write path buffer offset handle t = .ok r t'' →
        0 < r → r.toInt ≤ buffer.length) ↔
      ¬ (4 ≤ (payload reader).length ∧
        (buffer.length : ℤ) < (resultOf (payload reader)).toInt) := by
  change (∀ r t'', callResult perform _ _ t = .ok r t'' → _) ↔ _
  rw [callResult_eq hperform]
  by_cases hresult : 4 ≤ (payload reader).length
  · rw [if_pos hresult]
    constructor
    · rintro h ⟨-, hover⟩
      have hpos : 0 < resultOf (payload reader) :=
        Int32.lt_iff_toInt_lt.2 (lt_of_le_of_lt (Int.natCast_nonneg _) hover)
      exact absurd (h _ _ rfl hpos) (Int.not_le.2 hover)
    · rintro h r t'' ⟨⟩ -
      by_contra hover
      exact h ⟨hresult, Int.not_le.1 hover⟩
  · rw [if_neg hresult]
    refine iff_of_true ?_ fun h => hresult h.1
    rintro r t'' ⟨⟩ hr
    have hfallback : ¬ (0 : Int32) < -EBADF := by decide
    exact absurd hr hfallback

/-- **When byte counts are honest.**  Whatever the response is, whatever the buffer
holds: what `filesystem::read` reports is within the buffer and was carried by the
response if and only if the response does not come with data that fits the buffer and
a result that is larger than the length of the data; and what `filesystem::write`
reports is within the buffer if and only if the result of the response is not larger
than the buffer. -/
theorem counts_honest_iff (perform : MessageWriter → EStateM Exn τ MessageReader) (path : Bytes)
    (offset handle : UInt64) (t : τ) :
    (∀ (size : ℕ) (buffer : Vector UInt8 size) (reader : MessageReader) (t' : τ),
      perform (readRequest path (UInt64.ofNat size) offset handle) t = .ok reader t' →
        ((∀ r buffer' t'',
            (filesystem perform).read path buffer offset handle t = .ok (r, buffer') t'' →
              0 < r → ReadHonest (payload reader) r buffer') ↔
          ¬ Overcounted (payload reader) size)) ∧
    ∀ (buffer : Bytes) (reader : MessageReader) (t' : τ),
      perform (writeRequest path buffer offset handle) t = .ok reader t' →
        ((∀ r t'', (filesystem perform).write path buffer offset handle t = .ok r t'' →
            0 < r → r.toInt ≤ buffer.length) ↔
          ¬ (4 ≤ (payload reader).length ∧
            (buffer.length : ℤ) < (resultOf (payload reader)).toInt)) :=
  ⟨fun _ buffer _ _ hperform => read_honest_iff perform path buffer offset handle hperform,
    fun buffer _ _ hperform => write_honest_iff perform path buffer offset handle hperform⟩

/-- A response with the result 4 and one byte of data: `read` reports four bytes, three
of which are what the buffer held before. -/
theorem read_reports_unread :
    (filesystem (τ := Unit) fun _ t =>
        .ok ⟨[0, 0, 0, 1, 0x90, 0, 0, 0, 4, 0, 0, 0, 1, 0x61], 5⟩ t).read [0x2f]
          #v[0xee, 0xee, 0xee, 0xee] 0 0 () = .ok (4, #v[0x61, 0xee, 0xee, 0xee]) () ∧
      ¬ ReadHonest ([0, 0, 0, 1, 0x90, 0, 0, 0, 4, 0, 0, 0, 1, 0x61].drop 5) 4
        #v[0x61, 0xee, 0xee, 0xee] ∧
      (filesystem (τ := Unit) fun _ t => .ok ⟨[0, 0, 0, 1, 0x91, 0, 0, 0, 9], 5⟩ t).write [0x2f]
        [0x61] 0 0 () = .ok 9 () := by
  refine ⟨rfl, ?_, rfl⟩
  rintro ⟨-, h, -⟩
  exact absurd h (by decide)

end Service

end Webfuse
