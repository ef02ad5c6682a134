/-
# `SenderReport` — the bytes of a sender report

`Serialize` writes the 28 bytes of an SR without report blocks, and the
buffer of a tick always has room for them, so a tick sends one such packet
for every track that has a report to make.
-/
import WebrtcServer.MediaStream

namespace WebrtcServer

open Lib

namespace SenderReportPacket

/-- What `Serialize` writes. -/
def bytes (sr : SenderReportPacket) : ByteString :=
  header.store ++ (storeUInt32BE sr.senderSsrc ++ (storeUInt32BE sr.ntpSeconds ++
    (storeUInt32BE sr.ntpFractions ++ (storeUInt32BE sr.rtpTimestamp ++
      (storeUInt32BE sr.sendPacketCount ++ storeUInt32BE sr.sendOctets)))))

/-- The fields of an SR, where RFC 3550 has them. -/
def decode (data : Memory) : SenderReportPacket where
  senderSsrc := loadUInt32BE (data.shift 4)
  ntpSeconds := loadUInt32BE (data.shift 8)
  ntpFractions := loadUInt32BE (data.shift 12)
  rtpTimestamp := loadUInt32BE (data.shift 16)
  sendPacketCount := loadUInt32BE (data.shift 20)
  sendOctets := loadUInt32BE (data.shift 24)

/-- The packet is an SR of 28 bytes, in version 2 of the protocol, without
padding and report blocks, and says so in its header. -/
structure IsSenderReport (data : ByteString) : Prop where
  length_eq : data.length = 28
  version : (RtcpCommonHeader.load (Memory.ofList data)).version = 2
  padding : (RtcpCommonHeader.load (Memory.ofList data)).padding = 0
  count : (RtcpCommonHeader.load (Memory.ofList data)).countOrFormat = 0
  packetType : (RtcpCommonHeader.load (Memory.ofList data)).packetType = 200
  length_field : 4 * ((RtcpCommonHeader.load (Memory.ofList data)).length.toNat + 1) = data.length

theorem header_store : header.store = [0x80, 200, 0, 6] := by decide

theorem bytes_length (sr : SenderReportPacket) : sr.bytes.length = 28 := by
  simp [bytes, header_store]

theorem serialize_eq (sr : SenderReportPacket) (buffer : Memory) {size : Nat} (h : 28 ≤ size) :
    sr.serialize (ByteWriter.ofBuffer buffer size) =
      some (ByteWriter.filled buffer sr.bytes size) := by
  have hstore : header.store.length = 4 := by rw [header_store]; rfl
  simp (disch := simp [hstore]; omega) only [serialize, ByteWriter.writeUInt32, bytes,
    ByteWriter.ofBuffer_eq, ByteWriter.filled_writeBytes, Option.bind_eq_bind, Option.bind_some,
    List.nil_append, List.append_assoc]

theorem bytes_isSenderReport (sr : SenderReportPacket) : IsSenderReport sr.bytes := by
  have hload : RtcpCommonHeader.load (Memory.ofList sr.bytes) =
      { countOrFormat := 0, padding := 0, version := 2, packetType := 200, length := 6 } := by
    rw [bytes, header_store]
    generalize storeUInt32BE sr.senderSsrc ++ _ = body
    have h0 : Memory.ofList ([0x80, 200, 0, 6] ++ body) 0 = 0x80 := rfl
    have h1 : Memory.ofList ([0x80, 200, 0, 6] ++ body) 1 = 200 := rfl
    have h2 : loadUInt16BE ((Memory.ofList ([0x80, 200, 0, 6] ++ body)).shift 2) = 6 :=
      loadUInt16BE_of_bytes rfl rfl
    rw [RtcpCommonHeader.load, h0, h1, h2]
    decide
  refine ⟨sr.bytes_length, ?_, ?_, ?_, ?_, ?_⟩ <;> rw [hload]
  rw [bytes_length]
  rfl

/-- A receiver reads the fields that were written. -/
theorem decode_bytes (sr : SenderReportPacket) : decode (Memory.ofList sr.bytes) = sr := by
  have hholds : Holds (Memory.ofList sr.bytes) sr.bytes := window_ofList sr.bytes
  generalize Memory.ofList sr.bytes = mem at hholds ⊢
  simp only [bytes, holds_append, Memory.shift_shift, storeUInt32BE_length, header_store,
    List.length_cons, List.length_nil, Nat.zero_add, Nat.reduceAdd] at hholds
  obtain ⟨-, h4, h8, h12, h16, h20, h24⟩ := hholds
  simp only [decode, loadUInt32BE_of_holds h4, loadUInt32BE_of_holds h8,
    loadUInt32BE_of_holds h12, loadUInt32BE_of_holds h16, loadUInt32BE_of_holds h20,
    loadUInt32BE_of_holds h24]

end SenderReportPacket

/-! ## One tick -/

namespace MediaStream

variable {buffer : Memory} {now : UInt64}

theorem sendReport_eq (buffer : Memory) (now : UInt64) (t : StreamTrack) :
    sendReport buffer now (some t) = .ok ((t.createRtcpSenderReport now).toList.map fun sr =>
      .rtcpPacketSend sr.bytes) := by
  simp only [sendReport]
  cases t.createRtcpSenderReport now with
  | none => rfl
  | some sr =>
      have hserialize := sr.serialize_eq buffer (show 28 ≤ kSenderReportBuffer by decide)
      simp only [hserialize, ByteWriter.filled_written]
      rfl

/-- The reports of a tick are those of its tracks. -/
theorem mem_sendReports {entries : List (Option StreamTrack)} {out : List MediaOutput}
    (h : sendReports buffer now entries = .ok out) {o : MediaOutput} :
    o ∈ out ↔ ∃ t sr, some t ∈ entries ∧ t.createRtcpSenderReport now = some sr ∧
      o = .rtcpPacketSend sr.bytes := by
  induction entries generalizing out with
  | nil =>
      cases h
      simp
  | cons entry entries ih =>
      simp only [sendReports] at h
      split at h
      · cases h
      next out₁ hfirst =>
        split at h
        · cases h
        next out₂ hrest =>
          cases h
          cases entry with
          | none => cases hfirst
          | some t =>
              rw [sendReport_eq] at hfirst
              cases hfirst
              rw [List.mem_append, ih hrest]
              constructor
              · rintro (hmem | ⟨t', sr, ht', hsr, ho⟩)
                · obtain ⟨sr, hsr, rfl⟩ := List.mem_map.mp hmem
                  exact ⟨t, sr, List.mem_cons_self, Option.mem_toList.mp hsr, rfl⟩
                · exact ⟨t', sr, List.mem_cons_of_mem _ ht', hsr, ho⟩
              · rintro ⟨t', sr, ht', hsr, rfl⟩
                rcases List.mem_cons.mp ht' with heq | ht'
                · cases heq
                  exact Or.inl (List.mem_map.mpr ⟨sr, Option.mem_toList.mpr hsr, rfl⟩)
                · exact Or.inr ⟨t', sr, ht', hsr, rfl⟩

/-- In terms of the map. -/
theorem mem_onTimerTimeout {s s' : MediaStream} {out : List MediaOutput}
    (h : s.onTimerTimeout buffer now = .ok (s', out)) {o : MediaOutput} :
    o ∈ out ↔ ∃ ssrc t sr, s.streamTracks.lookup ssrc = some (some t) ∧
      t.createRtcpSenderReport now = some sr ∧ o = .rtcpPacketSend sr.bytes := by
  simp only [onTimerTimeout] at h
  split at h
  · cases h
  next out₁ hreports =>
    cases h
    rw [mem_sendReports hreports]
    constructor
    · rintro ⟨t, sr, hmem, hsr, ho⟩
      obtain ⟨⟨ssrc, entry⟩, hentry, rfl⟩ := List.mem_map.mp hmem
      exact ⟨ssrc, t, sr, AList.mem_lookup_iff.mpr hentry, hsr, ho⟩
    · rintro ⟨ssrc, t, sr, hlookup, hsr, ho⟩
      exact ⟨t, sr, List.mem_map.mpr ⟨_, AList.mem_lookup_iff.mp hlookup, rfl⟩, hsr, ho⟩

end MediaStream

end WebrtcServer
