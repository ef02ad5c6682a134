/-
# `StunRequest` — the binding requests of RFC 5389

`Signed` is what RFC 5389 asks of a message that carries MESSAGE-INTEGRITY and
perhaps FINGERPRINT, with the HMAC and the CRC taken over the bytes and the
length fields that the RFC names.  `Parse` accepts every such message
(`Signed.parse_ok`) and puts its length field back.  A binding request that is
addressed to the agent is one of them.
-/
import WebrtcServer.StunAccept

namespace WebrtcServer.StunMessage

open Lib

/-! ## What RFC 5389 asks for -/

/-- The attributes of type `type` among those listed. -/
def attributesAt (data : Memory) (offs : List Nat) (type : UInt16) : List Nat :=
  offs.filter fun o => attrType data o = type

/-- A MESSAGE-INTEGRITY that is right under `password`, section 15.4: the HMAC
covers the message before the attribute, with a length field that counts up
to the end of the attribute. -/
structure RfcIntegrity (hmac : HmacSha1) (password : ByteString) (data : Memory) (mi : Nat) :
    Prop where
  length : attrLength data mi = 20
  value : attrValue data mi =
    (hmac password (window
      (poke data kLengthOffset (storeUInt16BE (UInt16.ofNat (mi + 24 - kStunHeaderSize))))
      0 mi)).toList

/-- A FINGERPRINT that is right, section 15.5: the CRC of the message before
the attribute, as it was sent. -/
structure RfcFingerprint (data : Memory) (fp : Nat) : Prop where
  length : attrLength data fp = 4
  value : loadUInt32BE (data.shift (fp + kStunAttributeHeaderSize)) =
    rfcCrc32 (window data 0 fp) ^^^ 0x5354554e

/-- The attributes at the end: MESSAGE-INTEGRITY at `mi`, then FINGERPRINT or
nothing; and no other attribute of these types. -/
inductive Trailer (data : Memory) (size : Nat) (offs : List Nat) (mi : Nat) : Prop
  | integrity : mi + 24 = size → attributesAt data offs kAttrFingerprint = [] →
      Trailer data size offs mi
  | fingerprint : mi + 32 = size → attributesAt data offs kAttrFingerprint = [mi + 24] →
      RfcFingerprint data (mi + 24) → Trailer data size offs mi

/-- A message with the attributes at `offs`, signed with `password`. -/
structure Signed (hmac : HmacSha1) (password : ByteString) (data : Memory) (size : Nat)
    (offs : List Nat) : Prop where
  framed : WellFramed data size offs
  cookie : loadUInt32BE (data.shift 4) = kStunMagicCookie
  signature : ∃ mi, attributesAt data offs kAttrMessageIntegrity = [mi] ∧
    RfcIntegrity hmac password data mi ∧ Trailer data size offs mi
  role : attributesAt data offs kAttrIceControlled = []

/-- `kBindingRrequst`. -/
def kBindingRequest : UInt16 := 0x0001

/-- A binding request for the agent of `msg`. -/
structure BindingRequest (hmac : HmacSha1) (msg : StunMessage) (data : Memory) (size : Nat)
    (offs : List Nat) : Prop where
  type : loadUInt16BE data = kBindingRequest
  signed : Signed hmac msg.localPassword data size offs
  username : ∃ u, attributesAt data offs kAttrUsername = [u] ∧
    attrValue data u = msg.localUfrag ++ [0x3A] ++ msg.remoteUfrag

section Signed

variable {hmac : HmacSha1} {msg : StunMessage} {data : Memory} {size : Nat} {offs : List Nat}

theorem mem_attributesAt {type : UInt16} {o : Nat} :
    o ∈ attributesAt data offs type ↔ o ∈ offs ∧ attrType data o = type := by
  simp [attributesAt]

/-- Of a single attribute, every one of the type is that one. -/
theorem eq_of_attributesAt {type : UInt16} {a o : Nat} (h : attributesAt data offs type = [a])
    (ho : o ∈ offs) (htype : attrType data o = type) : o = a := by
  have hmem : o ∈ attributesAt data offs type := mem_attributesAt.mpr ⟨ho, htype⟩
  rwa [h, List.mem_singleton] at hmem

/-- The two ufrags with a colon between them pass the two comparisons. -/
theorem usernameMatches_of_value {u : Nat}
    (h : attrValue data u = msg.localUfrag ++ [0x3A] ++ msg.remoteUfrag) :
    UsernameMatches msg data (u + kStunAttributeHeaderSize) (attrLength data u).toNat := by
  have hlen : (attrLength data u).toNat =
      msg.localUfrag.length + (1 + msg.remoteUfrag.length) := by
    have := congrArg List.length h
    simp only [attrValue, window_length, List.length_append, List.length_singleton] at this
    omega
  rw [attrValue, hlen, window_append, window_append, List.append_assoc] at h
  obtain ⟨hlocal, hrest⟩ := List.append_inj h (by simp)
  obtain ⟨-, hremote⟩ := List.append_inj hrest (by simp)
  rw [hlen]
  refine ⟨⟨by omega, hlocal⟩, by omega, ?_⟩
  have hpos : u + kStunAttributeHeaderSize + (msg.localUfrag.length + (1 + msg.remoteUfrag.length))
      - msg.remoteUfrag.length = u + kStunAttributeHeaderSize + msg.localUfrag.length + 1 := by
    omega
  rw [hpos]
  exact hremote

/-- The cursor follows the attributes of a signed message, and each passes. -/
theorem Signed.passingRun (h : Signed hmac msg.localPassword data size offs)
    (husername : ∀ o ∈ offs, attrType data o = kAttrUsername →
      UsernameMatches msg data (o + kStunAttributeHeaderSize) (attrLength data o).toNat) :
    PassingRun msg data size offs := by
  obtain ⟨mi, -, -, htrailer⟩ := h.signature
  refine ⟨⟨h.framed.header, h.cookie⟩, ?_, ?_⟩
  · exact h.framed.attributes.congr fun o ho => (cursorPadded_eq (h.framed.length_le o ho)).symm
  · intro o ho
    refine ⟨husername o ho, ?_, ?_⟩
    · intro htype
      cases htrailer with
      | integrity _ hnone =>
          have hmem := mem_attributesAt.mpr ⟨ho, htype⟩
          rw [hnone] at hmem
          exact absurd hmem List.not_mem_nil
      | fingerprint _ hone hright =>
          obtain rfl := eq_of_attributesAt hone ho htype
          exact hright.value
    · intro htype
      have hmem := mem_attributesAt.mpr ⟨ho, htype⟩
      rw [h.role] at hmem
      exact absurd hmem List.not_mem_nil

/-- The length field written where it stands. -/
theorem poke_lengthField : poke data kLengthOffset (storeUInt16BE (lengthField data)) = data := by
  apply poke_same
  rw [storeUInt16BE_length, lengthField, storeUInt16BE_load, window_shift, Nat.add_zero]

theorem WellFramed.lengthField_eq (h : WellFramed data size offs) :
    lengthField data = UInt16.ofNat (size - kStunHeaderSize) := by
  rw [← h.length, UInt16.ofNat_toNat]

/-- While it checks the HMAC, `Parse` has the length field that the RFC
names. -/
theorem Signed.reduceLength_eq (hframed : WellFramed data size offs) {mi : Nat}
    (h : Trailer data size offs mi) :
    reduceLength data size (decide (attributesAt data offs kAttrFingerprint ≠ [])) =
      poke data kLengthOffset (storeUInt16BE (UInt16.ofNat (mi + 24 - kStunHeaderSize))) := by
  cases h with
  | integrity hsize hnone =>
      simp only [reduceLength, hnone, ne_eq, not_true_eq_false, decide_false, Bool.false_eq_true,
        if_false]
      rw [hsize, ← hframed.lengthField_eq, poke_lengthField]
  | fingerprint hsize hone _ =>
      have hvalue : lengthWithoutFingerprint size = UInt16.ofNat (mi + 24 - kStunHeaderSize) := by
        have hheader := hframed.header
        simp only [lengthWithoutFingerprint, toSizeT, ← UInt16.toNat_inj, UInt16.toNat_ofNat',
          kStunHeaderSize, kFingerprintAttrLength, kStunAttributeHeaderSize] at hheader ⊢
        omega
      simp only [reduceLength, hone, ne_eq, List.cons_ne_nil, not_false_eq_true, decide_true,
        if_true, hvalue]

/-- Afterwards the message is what it was. -/
theorem restoreLength_reduceLength (hframed : WellFramed data size offs) (fp : Bool) :
    restoreLength (reduceLength data size fp) size fp = data := by
  cases fp with
  | false => rfl
  | true =>
      have hvalue : UInt16.ofNat (toSizeT ((size : Int) - kStunHeaderSize)) = lengthField data := by
        have hheader := hframed.header
        rw [hframed.lengthField_eq]
        simp only [toSizeT, ← UInt16.toNat_inj, UInt16.toNat_ofNat', kStunHeaderSize] at hheader ⊢
        omega
      simp only [restoreLength, reduceLength, if_true, hvalue]
      rw [poke_poke (by simp), poke_lengthField]

/-- `Parse` accepts a signed message whose USERNAMEs match, and leaves it as
it was. -/
theorem Signed.parse_ok (h : Signed hmac msg.localPassword data size offs)
    (husername : ∀ o ∈ offs, attrType data o = kAttrUsername →
      UsernameMatches msg data (o + kStunAttributeHeaderSize) (attrLength data o).toNat) :
    ∃ st, (parse hmac msg data size).ok = true ∧
      (parse hmac msg data size).msg = parsedMessage msg data st ∧
      (parse hmac msg data size).data = data ∧
      (st.hasUseCandidate = true ↔
        msg.hasUseCandidate = true ∨ ∃ o ∈ offs, attrType data o = kAttrUseCandidate) := by
  have hrun := h.passingRun husername
  obtain ⟨st, hloop, rfl, htracked⟩ := hrun.tracked
  obtain ⟨mi, hone, hright, htrailer⟩ := h.signature
  have hmi : mi ∈ st.visited ∧ attrType data mi = kAttrMessageIntegrity :=
    mem_attributesAt.mp (hone ▸ List.mem_singleton_self mi)
  -- the attribute that the loop remembers is the only one of its type
  have hstart : st.messageIntegrityStart = some mi := by
    obtain ⟨m, hm, -⟩ := htracked.integrity_last mi hmi.1 hmi.2
    obtain ⟨hmem, htype⟩ := htracked.integrity_some m hm
    rw [hm, eq_of_attributesAt hone hmem htype]
  have hfingerprint : st.hasFingerprint =
      decide (attributesAt data st.visited kAttrFingerprint ≠ []) := by
    rw [Bool.eq_iff_iff, htracked.fingerprint, decide_eq_true_eq, attributesAt, ne_eq,
      List.filter_eq_nil_iff]
    simp
  have hreduced := Signed.reduceLength_eq h.framed htrailer
  rw [← hfingerprint] at hreduced
  have hbelow : kStunHeaderSize ≤ mi := (htracked.below mi hmi.1).1
  have hcheck : window (reduceLength data size st.hasFingerprint)
        (mi + kStunAttributeHeaderSize) kSha1ResultLength =
      (hmac (parsedMessage msg data st).localPassword
        (integrityText data size st.hasFingerprint mi)).toList := by
    show _ = (hmac msg.localPassword _).toList
    rw [integrityText, hreduced, ← hright.value, attrValue, hright.length]
    apply window_poke_disjoint
    simp only [kLengthOffset, storeUInt16BE_length, kStunAttributeHeaderSize,
      kStunHeaderSize] at hbelow ⊢
    omega
  refine ⟨st, ?_⟩
  rw [parse_of_loop hrun.header hloop, hstart]
  simp only [checkMessageIntegrity]
  rw [if_neg (not_not.mpr hcheck)]
  exact ⟨rfl, rfl, restoreLength_reduceLength h.framed st.hasFingerprint, htracked.useCandidate⟩

end Signed

/-- Every binding request for the agent is accepted: the nomination is the
USE-CANDIDATE, the transaction id is that of the header, and the buffer is
the same afterwards. -/
theorem parse_bindingRequest (hmac : HmacSha1) (localUfrag localPassword remoteUfrag : ByteString)
    (data : Memory) (size : Nat) (offs : List Nat)
    (h : BindingRequest hmac (new localUfrag localPassword remoteUfrag) data size offs) :
    let result := parse hmac (new localUfrag localPassword remoteUfrag) data size
    result.ok = true ∧
      (result.msg.hasUseCandidate = true ↔ attributesAt data offs kAttrUseCandidate ≠ []) ∧
      result.msg.transactionId = window data 8 kStunTransactionIdLength ∧
      result.data = data := by
  intro result
  obtain ⟨u, hone, hvalue⟩ := h.username
  obtain ⟨st, hok, hmsg, hdata, huse⟩ := h.signed.parse_ok fun o ho htype =>
    eq_of_attributesAt hone ho htype ▸ usernameMatches_of_value hvalue
  have hcandidate : result.msg.hasUseCandidate = st.hasUseCandidate :=
    congrArg StunMessage.hasUseCandidate hmsg
  refine ⟨hok, ?_, congrArg StunMessage.transactionId hmsg, hdata⟩
  rw [hcandidate, huse, attributesAt, ne_eq, List.filter_eq_nil_iff]
  simp [new]

/-- USERNAME `ab:cd`, USE-CANDIDATE, a MESSAGE-INTEGRITY of zeros and the
FINGERPRINT. -/
def fingerprintedRequest : List UInt8 :=
  [0x00, 0x01, 0x00, 0x30, 0x21, 0x12, 0xA4, 0x42, 1, 2, 3, 4, 5, 6, 7, 8, 9, 10, 11, 12,
   0x00, 0x06, 0x00, 0x05, 0x61, 0x62, 0x3A, 0x63, 0x64, 0, 0, 0,
   0x00, 0x25, 0x00, 0x00, 0x00, 0x08, 0x00, 0x14] ++ List.replicate 20 0 ++
  [0x80, 0x28, 0x00, 0x04, 0xDE, 0xBE, 0x85, 0xC2]

theorem parse_fingerprintedRequest :
    BindingRequest zeroHmac sampleMessage (.ofList fingerprintedRequest) 68 [20, 32, 36, 60] ∧
      (parse zeroHmac sampleMessage (.ofList fingerprintedRequest) 68).ok = true ∧
      (parse zeroHmac sampleMessage (.ofList fingerprintedRequest) 68).msg.hasUseCandidate =
        true := by
  unfold sampleMessage
  have hrequest : BindingRequest zeroHmac (new [0x61, 0x62] [0x70] [0x63, 0x64])
      (.ofList fingerprintedRequest) 68 [20, 32, 36, 60] := by
    refine ⟨by decide, ⟨⟨by decide, by decide, ?_⟩, by decide, ⟨36, by decide, ⟨by decide,
      by decide⟩, .fingerprint rfl (by decide) ⟨by decide, by decide +kernel⟩⟩, by decide⟩,
      ⟨20, by decide, by decide⟩⟩
    exact .attr (by decide) (.attr (by decide) (.attr (by decide) (.attr (by decide) .done)))
  obtain ⟨hok, huse, -, -⟩ := parse_bindingRequest zeroHmac [0x61, 0x62] [0x70] [0x63, 0x64]
    (.ofList fingerprintedRequest) 68 [20, 32, 36, 60] hrequest
  exact ⟨hrequest, hok, huse.mpr (by decide)⟩

end WebrtcServer.StunMessage
