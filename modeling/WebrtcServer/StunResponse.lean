/-
# `StunResponse` — the binding responses of `StunMessage::CreateResponse`

`CreateResponse` lays out a message of 64 bytes before it looks at the mapped
endpoint, and patches the length field twice on the way.  `responseBytes`
says what it writes; all else follows from that list of bytes.  For an IPv4
endpoint the list fills the message, and what it holds is what the RFC and
`Parse` ask for.  For an IPv6 endpoint and for none it is 12 bytes short.
-/
import WebrtcServer.StunRequest
import WebrtcServer.IceLite

namespace WebrtcServer.StunMessage

open Lib

/-! ## The bytes written -/

/-- The header of a binding response, with `length` in its length field. -/
def responseHeader (length : UInt16) (transactionId : ByteString) : ByteString :=
  storeUInt16BE kBindingResponse ++ storeUInt16BE length ++
    (storeUInt32BE kStunMagicCookie ++ transactionId)

/-- The XOR-MAPPED-ADDRESS attribute, or nothing. -/
def mappedAddressBytes : Option Endpoint → ByteString
  | some ⟨.v4 address, port⟩ =>
      storeUInt16BE kAttrXorMappedAddress ++ (storeUInt16BE 8 ++ (storeUInt8BE 0 ++
        (storeUInt8BE 0x01 ++ (storeUInt16BE (port ^^^ (kStunMagicCookie >>> 16).toUInt16) ++
          storeUInt32BE (address ^^^ kStunMagicCookie)))))
  | some ⟨.v6 _, _⟩ => []
  | none => []

/-- The text that the HMAC covers. -/
def coveredBytes (msg : StunMessage) : ByteString :=
  responseHeader 36 msg.transactionId ++ mappedAddressBytes msg.mappedEndpoint

/-- The message up to the FINGERPRINT, with `length` in its length field. -/
def signedBytes (hmac : HmacSha1) (msg : StunMessage) (length : UInt16) : ByteString :=
  responseHeader length msg.transactionId ++ (mappedAddressBytes msg.mappedEndpoint ++
    (storeUInt16BE kAttrMessageIntegrity ++ (storeUInt16BE 20 ++
      (hmac msg.localPassword (coveredBytes msg)).toList)))

/-- All that `CreateResponse` writes. -/
def responseBytes (hmac : HmacSha1) (msg : StunMessage) : ByteString :=
  signedBytes hmac msg 44 ++ (storeUInt16BE kAttrFingerprint ++ (storeUInt16BE 4 ++
    storeUInt32BE (crc32Calculate (signedBytes hmac msg 44) ^^^ kFingerprintXor)))

section Bytes

variable {hmac : HmacSha1} {msg : StunMessage} {heap : Memory}

theorem mappedAddressBytes_length (ep : Option Endpoint) :
    (mappedAddressBytes ep).length = 12 ∨ mappedAddressBytes ep = [] := by
  rcases ep with - | ⟨address | address, port⟩
  · exact Or.inr rfl
  · exact Or.inl rfl
  · exact Or.inr rfl

theorem responseHeader_length (length : UInt16) {transactionId : ByteString}
    (h : transactionId.length = 12) : (responseHeader length transactionId).length = 20 := by
  simp only [responseHeader, List.length_append, storeUInt16BE_length, storeUInt32BE_length, h]

theorem signedBytes_length (hmac : HmacSha1) (length : UInt16)
    (h : msg.transactionId.length = 12) :
    (signedBytes hmac msg length).length = 44 + (mappedAddressBytes msg.mappedEndpoint).length := by
  have hmac_length : (hmac msg.localPassword (coveredBytes msg)).toList.length = 20 :=
    (hmac msg.localPassword (coveredBytes msg)).length_toList
  simp only [signedBytes, List.length_append, responseHeader_length length h, hmac_length,
    storeUInt16BE_length]
  omega

/-- A write that fits. -/
theorem orFail_filled {bs val : List UInt8} {size : Nat} (h : bs.length + val.length ≤ size) :
    orFail (ByteWriter.filled heap bs size) ((ByteWriter.filled heap bs size).writeBytes val) =
      .ok (ByteWriter.filled heap (bs ++ val) size) := by
  rw [ByteWriter.filled_writeBytes h]
  rfl

theorem orFail_bind {bs val : List UInt8} {size : Nat}
    {next : ByteWriter → Except ByteWriter ByteWriter} (h : bs.length + val.length ≤ size) :
    (orFail (ByteWriter.filled heap bs size) ((ByteWriter.filled heap bs size).writeBytes val) >>=
      next) = next (ByteWriter.filled heap (bs ++ val) size) := by
  rw [orFail_filled h]
  rfl

/-- The length field of what was written is patched. -/
theorem patch_filled (length length' : UInt16) (rest : List UInt8) (transactionId : ByteString)
    (size : Nat) :
    { ByteWriter.filled heap (responseHeader length transactionId ++ rest) size with
        bytes := poke
          (ByteWriter.filled heap (responseHeader length transactionId ++ rest) size).bytes
          2 (storeUInt16BE length') } =
      ByteWriter.filled heap (responseHeader length' transactionId ++ rest) size := by
  have hbytes := poke_middle heap (storeUInt16BE kBindingResponse)
    (storeUInt32BE kStunMagicCookie ++ transactionId ++ rest)
    (show (storeUInt16BE length).length = (storeUInt16BE length').length from rfl)
  simp only [ByteWriter.filled, responseHeader, List.append_assoc] at hbytes ⊢
  congr 1

theorem patch_signed (length length' : UInt16) (size : Nat) :
    { ByteWriter.filled heap (signedBytes hmac msg length) size with
        bytes := poke (ByteWriter.filled heap (signedBytes hmac msg length) size).bytes
          2 (storeUInt16BE length') } =
      ByteWriter.filled heap (signedBytes hmac msg length') size :=
  patch_filled length length' _ msg.transactionId size

theorem writeMappedAddress_filled {bs : List UInt8} {size : Nat} (h : bs.length + 12 ≤ size) :
    writeMappedAddress msg (ByteWriter.filled heap bs size) =
      .ok (ByteWriter.filled heap (bs ++ mappedAddressBytes msg.mappedEndpoint) size) := by
  rcases hep : msg.mappedEndpoint with - | ⟨address | address, port⟩
  · simp only [writeMappedAddress, hep, mappedAddressBytes, List.append_nil]
  · simp only [writeMappedAddress, hep, mappedAddressBytes, ByteWriter.writeUInt16,
      ByteWriter.writeUInt8, ByteWriter.writeUInt32]
    rw [orFail_bind (by simp; omega), orFail_bind (by simp; omega), orFail_bind (by simp; omega),
      orFail_bind (by simp; omega), orFail_bind (by simp; omega), orFail_filled (by simp; omega)]
    simp only [List.append_assoc]
  · simp only [writeMappedAddress, hep, mappedAddressBytes, List.append_nil]

theorem writeMappedAddress_bind {bs : List UInt8} {size : Nat}
    {next : ByteWriter → Except ByteWriter ByteWriter} (h : bs.length + 12 ≤ size) :
    (writeMappedAddress msg (ByteWriter.filled heap bs size) >>= next) =
      next (ByteWriter.filled heap (bs ++ mappedAddressBytes msg.mappedEndpoint) size) := by
  rw [writeMappedAddress_filled h]
  rfl

/-- With a transaction id of 12 bytes every write fits. -/
theorem writeResponse_eq (h : msg.transactionId.length = 12) :
    writeResponse hmac msg heap =
      .ok (ByteWriter.filled heap (responseBytes hmac msg) kResponseSize) := by
  have hheader : ∀ length, (responseHeader length msg.transactionId).length = 20 :=
    fun length => responseHeader_length length h
  have hmapped : (mappedAddressBytes msg.mappedEndpoint).length ≤ 12 := by
    rcases mappedAddressBytes_length msg.mappedEndpoint with hlen | hnil
    · omega
    · simp [hnil]
  have hsize : kResponseSize = 64 := rfl
  have hmac_length : ∀ key text, (hmac key text).toList.length = 20 :=
    fun key text => (hmac key text).length_toList
  simp only [writeResponse, ByteWriter.ofBuffer_eq, ByteWriter.writeUInt16, ByteWriter.writeUInt32,
    ByteWriter.writeString]
  rw [orFail_bind (by simp [hsize]), orFail_bind (by simp [hsize]), orFail_bind (by simp [hsize]),
    orFail_bind (by simp [hsize, h])]
  have hwritten : [] ++ storeUInt16BE kBindingResponse ++
      storeUInt16BE (UInt16.ofNat (kResponseSize - kStunHeaderSize)) ++
      storeUInt32BE kStunMagicCookie ++ msg.transactionId =
      responseHeader 44 msg.transactionId := by
    simp only [responseHeader, List.nil_append, List.append_assoc]
    rfl
  have hcovered : responseHeader 36 msg.transactionId ++ mappedAddressBytes msg.mappedEndpoint =
      coveredBytes msg := rfl
  have hroom : (coveredBytes msg).length ≤ 32 := by
    simp only [coveredBytes, List.length_append, hheader]
    omega
  have h36 : (12 + 24 : UInt16) = 36 := rfl
  have h44 : (36 + 8 : UInt16) = 44 := rfl
  rw [hwritten, writeMappedAddress_bind (by rw [hheader, hsize]; omega), patch_filled]
  simp only [ByteWriter.filled_written, h36, h44, hcovered]
  rw [orFail_bind (by simp [hsize]; omega), orFail_bind (by simp [hsize]; omega),
    orFail_bind (by simp [hsize, hmac_length]; omega)]
  have hsigned : coveredBytes msg ++ storeUInt16BE kAttrMessageIntegrity ++
      storeUInt16BE (UInt16.ofNat kSha1ResultLength) ++
      (hmac msg.localPassword (coveredBytes msg)).toList = signedBytes hmac msg 36 := by
    simp only [signedBytes, coveredBytes, List.append_assoc]
    rfl
  have hlength := signedBytes_length hmac 44 h
  rw [hsigned, patch_signed, ByteWriter.filled_written,
    orFail_bind (by simp [hsize, hlength]; omega), orFail_bind (by simp [hsize, hlength]; omega),
    orFail_filled (by simp [hsize, hlength]; omega)]
  simp only [responseBytes, List.append_assoc]

theorem createResponse_eq (h : msg.transactionId.length = 12) :
    createResponse hmac msg heap = (true, poke heap 0 (responseBytes hmac msg)) := by
  rw [createResponse, writeResponse_eq h]
  rfl

theorem createResponse_holds (hmac : HmacSha1) (msg : StunMessage) (heap : Memory)
    (h : msg.transactionId.length = 12) :
    (createResponse hmac msg heap).1 = true ∧
      Holds (createResponse hmac msg heap).2 (responseBytes hmac msg) := by
  rw [createResponse_eq h]
  exact ⟨rfl, holds_poke heap _⟩

/-- Every response echoes the transaction id. -/
theorem createResponse_transactionId (h : msg.transactionId.length = 12) (heap : Memory) :
    window (createResponse hmac msg heap).2 8 12 = msg.transactionId := by
  have hholds := (createResponse_holds hmac msg heap h).2
  simp only [responseBytes, signedBytes, responseHeader, holds_append, Memory.shift_shift,
    List.length_append, storeUInt16BE_length, storeUInt32BE_length, Nat.reduceAdd] at hholds
  obtain ⟨⟨⟨-, -, hid⟩, -⟩, -⟩ := hholds
  rwa [Holds, window_shift, h] at hid

theorem responseBytes_length (hmac : HmacSha1) (h : msg.transactionId.length = 12) :
    (responseBytes hmac msg).length = 52 + (mappedAddressBytes msg.mappedEndpoint).length := by
  simp only [responseBytes, List.length_append, signedBytes_length hmac 44 h, storeUInt16BE_length,
    storeUInt32BE_length]
  omega

end Bytes

/-! ## The response for an IPv4 endpoint -/

section Mapped

variable {hmac : HmacSha1} {msg : StunMessage} {data : Memory} {address : UInt32} {port : UInt16}

/-- The fields of a response with a mapped address, by their offsets. -/
structure ResponseFields (hmac : HmacSha1) (msg : StunMessage) (address : UInt32) (port : UInt16)
    (data : Memory) : Prop where
  type : loadUInt16BE data = kBindingResponse
  length : lengthField data = 44
  cookie : loadUInt32BE (data.shift 4) = kStunMagicCookie
  transactionId : window data 8 12 = msg.transactionId
  mappedType : attrType data 20 = kAttrXorMappedAddress
  mappedLength : attrLength data 20 = 8
  family : data 25 = 0x01
  port : loadUInt16BE (data.shift 26) = port ^^^ (kStunMagicCookie >>> 16).toUInt16
  address : loadUInt32BE (data.shift 28) = address ^^^ kStunMagicCookie
  integrityType : attrType data 32 = kAttrMessageIntegrity
  integrityLength : attrLength data 32 = 20
  integrity : window data 36 20 = (hmac msg.localPassword (coveredBytes msg)).toList
  signed : window data 0 56 = signedBytes hmac msg 44
  fingerprintType : attrType data 56 = kAttrFingerprint
  fingerprintLength : attrLength data 56 = 4
  fingerprint : loadUInt32BE (data.shift 60) =
    crc32Calculate (signedBytes hmac msg 44) ^^^ kFingerprintXor

theorem responseFields_of_holds (htid : msg.transactionId.length = 12)
    (hep : msg.mappedEndpoint = some ⟨.v4 address, port⟩)
    (h : Holds data (responseBytes hmac msg)) : ResponseFields hmac msg address port data := by
  have hlength := signedBytes_length hmac 44 htid
  have hmac_length : (hmac msg.localPassword (coveredBytes msg)).toList.length = 20 :=
    (hmac msg.localPassword (coveredBytes msg)).length_toList
  rw [responseBytes, holds_append] at h
  obtain ⟨hsigned, hfinger⟩ := h
  have hsigned' := hsigned
  simp only [hlength, hep, mappedAddressBytes, List.length_append, storeUInt16BE_length,
    storeUInt32BE_length, storeUInt8BE_length, Nat.reduceAdd, holds_append,
    Memory.shift_shift] at hfinger
  simp only [signedBytes, responseHeader, hep, mappedAddressBytes, List.length_append,
    storeUInt16BE_length, storeUInt32BE_length, storeUInt8BE_length, htid, Nat.reduceAdd,
    holds_append, Memory.shift_shift] at hsigned'
  obtain ⟨⟨⟨htype, hlen⟩, hcookie, hid⟩, ⟨hmtype, hmlen, -, hfamily, hport, haddress⟩, hitype,
    hilen, hmac_value⟩ := hsigned'
  obtain ⟨hftype, hflen, hfvalue⟩ := hfinger
  refine ⟨loadUInt16BE_of_holds htype, loadUInt16BE_of_holds hlen, loadUInt32BE_of_holds hcookie,
    ?_, loadUInt16BE_of_holds hmtype, loadUInt16BE_of_holds hmlen, ?_, loadUInt16BE_of_holds hport,
    loadUInt32BE_of_holds haddress, loadUInt16BE_of_holds hitype, loadUInt16BE_of_holds hilen, ?_,
    ?_, loadUInt16BE_of_holds hftype, loadUInt16BE_of_holds hflen, loadUInt32BE_of_holds hfvalue⟩
  · rwa [Holds, window_shift, htid] at hid
  · exact (holds_cons.mp hfamily).1
  · rwa [Holds, window_shift, hmac_length] at hmac_value
  · rwa [Holds, hlength, hep] at hsigned

/-- The text of the HMAC is the message with the length field that the RFC
names. -/
theorem covered_of_signed (htid : msg.transactionId.length = 12)
    (hep : msg.mappedEndpoint = some ⟨.v4 address, port⟩)
    (h : Holds data (signedBytes hmac msg 44)) :
    window (poke data kLengthOffset (storeUInt16BE 36)) 0 32 = coveredBytes msg := by
  have hmiddle : Holds (poke data kLengthOffset (storeUInt16BE 36)) (signedBytes hmac msg 36) := by
    have hlengths : (storeUInt16BE 44).length = (storeUInt16BE 36).length := rfl
    have hpatched := Holds.poke_middle (storeUInt16BE kBindingResponse)
      (storeUInt32BE kStunMagicCookie ++ msg.transactionId ++
        (mappedAddressBytes msg.mappedEndpoint ++ (storeUInt16BE kAttrMessageIntegrity ++
          (storeUInt16BE 20 ++ (hmac msg.localPassword (coveredBytes msg)).toList))))
      (by simpa only [signedBytes, responseHeader, List.append_assoc] using h) hlengths
    simp only [signedBytes, responseHeader, List.append_assoc] at hpatched ⊢
    exact hpatched
  have hsplit : signedBytes hmac msg 36 = coveredBytes msg ++
      (storeUInt16BE kAttrMessageIntegrity ++
        (storeUInt16BE 20 ++ (hmac msg.localPassword (coveredBytes msg)).toList)) := by
    simp only [signedBytes, coveredBytes, List.append_assoc]
  have hlength : (coveredBytes msg).length = 32 := by
    simp only [coveredBytes, List.length_append, responseHeader_length 36 htid, hep]
    rfl
  rw [hsplit, holds_append, Holds, hlength] at hmiddle
  exact hmiddle.1

theorem ResponseFields.attributesAt_eq (h : ResponseFields hmac msg address port data)
    (type : UInt16) :
    attributesAt data [20, 32, 56] type =
      (if kAttrXorMappedAddress = type then [20] else []) ++
        ((if kAttrMessageIntegrity = type then [32] else []) ++
          (if kAttrFingerprint = type then [56] else [])) := by
  simp only [attributesAt, List.filter_cons, h.mappedType, h.integrityType, h.fingerprintType,
    decide_eq_true_eq, List.filter_nil]
  split <;> split <;> split <;> rfl

/-- The response carries no USERNAME, so no ufrag plays a part. -/
theorem ResponseFields.not_username (h : ResponseFields hmac msg address port data) {o : Nat}
    (ho : o ∈ [20, 32, 56]) : attrType data o ≠ kAttrUsername := by
  intro htype
  simp only [List.mem_cons, List.not_mem_nil, or_false] at ho
  rcases ho with rfl | rfl | rfl
  · exact absurd (h.mappedType.symm.trans htype) (by decide)
  · exact absurd (h.integrityType.symm.trans htype) (by decide)
  · exact absurd (h.fingerprintType.symm.trans htype) (by decide)

/-- The response is framed and signed as RFC 5389 asks for. -/
theorem ResponseFields.signed_rfc (h : ResponseFields hmac msg address port data)
    (hcovered : window (poke data kLengthOffset (storeUInt16BE 36)) 0 32 = coveredBytes msg) :
    Signed hmac msg.localPassword data kResponseSize [20, 32, 56] := by
  have h20 : 20 + kStunAttributeHeaderSize + rfcPadded (attrLength data 20) = 32 := by
    rw [h.mappedLength]
    rfl
  have h32 : 32 + kStunAttributeHeaderSize + rfcPadded (attrLength data 32) = 56 := by
    rw [h.integrityLength]
    rfl
  have h56 : 56 + kStunAttributeHeaderSize + rfcPadded (attrLength data 56) = 64 := by
    rw [h.fingerprintLength]
    rfl
  refine ⟨⟨by decide, ?_, ?_⟩, h.cookie, ⟨32, ?_, ⟨h.integrityLength, ?_⟩,
    .fingerprint rfl ?_ ⟨h.fingerprintLength, ?_⟩⟩, ?_⟩
  · rw [h.length]
    rfl
  · show AttributeRun rfcPadded data 64 20 [20, 32, 56]
    refine .attr (by rw [h20]; decide) ?_
    rw [h20]
    refine .attr (by rw [h32]; decide) ?_
    rw [h32]
    refine .attr (by rw [h56]) ?_
    rw [h56]
    exact .done
  · rw [h.attributesAt_eq]
    rfl
  · rw [attrValue, h.integrityLength]
    show window data 36 20 = (hmac msg.localPassword
      (window (poke data kLengthOffset (storeUInt16BE 36)) 0 32)).toList
    rw [hcovered, h.integrity]
  · rw [h.attributesAt_eq]
    rfl
  · rw [h.signed, ← crc32Calculate_rfc]
    exact h.fingerprint
  · rw [h.attributesAt_eq]
    rfl

end Mapped

/-- The session's message after `Parse` has read a transaction id and
`SetXorMappedAddress` was called, or not. -/
def answering (localUfrag localPassword remoteUfrag : ByteString)
    (transactionId : Vector UInt8 kStunTransactionIdLength) (hasUseCandidate : Bool)
    (mappedEndpoint : Option Endpoint) : StunMessage :=
  { new localUfrag localPassword remoteUfrag with
    transactionId := transactionId.toList, hasUseCandidate, mappedEndpoint }

/-- What an XOR-MAPPED-ADDRESS at `off` says, RFC 5389 section 15.2, for the
family IPv4. -/
def rfcMappedAddress (data : Memory) (off : Nat) : Option Endpoint :=
  if attrType data off = 0x0020 ∧ attrLength data off = 8 ∧ data (off + 5) = 0x01 then
    some ⟨.v4 (loadUInt32BE (data.shift (off + 8)) ^^^ 0x2112A442),
      loadUInt16BE (data.shift (off + 6)) ^^^ 0x2112⟩
  else none

/-- The cookie is taken off again. -/
theorem ResponseFields.rfcMappedAddress_eq {hmac : HmacSha1} {msg : StunMessage}
    {address : UInt32} {port : UInt16} {data : Memory}
    (h : ResponseFields hmac msg address port data) :
    rfcMappedAddress data 20 = some ⟨.v4 address, port⟩ := by
  have haddress : loadUInt32BE (data.shift 28) ^^^ 0x2112A442 = address := by
    rw [h.address, UInt32.xor_assoc]
    show address ^^^ (kStunMagicCookie ^^^ kStunMagicCookie) = address
    rw [UInt32.xor_self, UInt32.xor_zero]
  have hport : loadUInt16BE (data.shift 26) ^^^ 0x2112 = port := by
    rw [h.port, UInt16.xor_assoc]
    show port ^^^ (0x2112 ^^^ 0x2112) = port
    rw [UInt16.xor_self, UInt16.xor_zero]
  rw [rfcMappedAddress, if_pos ⟨h.mappedType, h.mappedLength, h.family⟩, haddress, hport]

/-- For an IPv4 endpoint `CreateResponse` builds a binding success response
that is framed and signed as RFC 5389 asks for, echoes the transaction id and
carries the endpoint; and `Parse` accepts it under the same password. -/
theorem createResponse_signed (hmac : HmacSha1) (localUfrag localPassword remoteUfrag : ByteString)
    (transactionId : Vector UInt8 kStunTransactionIdLength) (hasUseCandidate : Bool)
    (address : UInt32) (port : UInt16) (heap : Memory) :
    let response := createResponse hmac (answering localUfrag localPassword remoteUfrag
      transactionId hasUseCandidate (some ⟨.v4 address, port⟩)) heap
    response.1 = true ∧
      loadUInt16BE response.2 = 0x0101 ∧
      Signed hmac localPassword response.2 kResponseSize [20, 32, 56] ∧
      attributesAt response.2 [20, 32, 56] kAttrFingerprint = [56] ∧
      window response.2 8 kStunTransactionIdLength = transactionId.toList ∧
      rfcMappedAddress response.2 20 = some ⟨.v4 address, port⟩ ∧
      ∀ localUfrag' remoteUfrag', (parse hmac (new localUfrag' localPassword remoteUfrag')
        response.2 kResponseSize).ok = true := by
  intro response
  have htid : transactionId.toList.length = 12 := transactionId.length_toList
  obtain ⟨htrue, hholds⟩ := createResponse_holds hmac (answering localUfrag localPassword
    remoteUfrag transactionId hasUseCandidate (some ⟨.v4 address, port⟩)) heap htid
  have hfields := responseFields_of_holds htid rfl hholds
  rw [responseBytes, holds_append] at hholds
  have hsigned := hfields.signed_rfc (covered_of_signed htid rfl hholds.1)
  refine ⟨htrue, hfields.type, hsigned, ?_, hfields.transactionId, hfields.rfcMappedAddress_eq, ?_⟩
  · rw [hfields.attributesAt_eq]
    rfl
  · intro localUfrag' remoteUfrag'
    have hsession : Signed hmac (new localUfrag' localPassword remoteUfrag').localPassword
      response.2 kResponseSize [20, 32, 56] := hsigned
    have hnone : ∀ o ∈ [20, 32, 56], attrType response.2 o = kAttrUsername →
        UsernameMatches (new localUfrag' localPassword remoteUfrag') response.2
          (o + kStunAttributeHeaderSize) (attrLength response.2 o).toNat := fun o ho htype =>
      absurd htype (hfields.not_username ho)
    obtain ⟨-, hok, -⟩ := hsession.parse_ok hnone
    exact hok

/-! ## The other endpoints -/

/-- Whenever `CreateResponse` returns true it has written `Size()` bytes, what
it sends owes nothing to the heap, and the message is framed. -/
def Complete (hmac : HmacSha1) (msg : StunMessage) : Prop :=
  ∀ heap w, writeResponse hmac msg heap = .ok w →
    w.len = kResponseSize ∧
    (∀ heap', window (createResponse hmac msg heap').2 0 kResponseSize =
      window w.bytes 0 kResponseSize) ∧
    (lengthField w.bytes).toNat = kResponseSize - kStunHeaderSize ∧
    ∃ offs, AttributeRun rfcPadded w.bytes kResponseSize kStunHeaderSize offs

/-- The response to `d` is the same whatever fresh memory holds. -/
def SendsOwnBytes (hmac : HmacSha1) (ice : IceLite) (d : Datagram) : Prop :=
  ∀ heap, (ice.processStunMessage hmac { d with heap := heap }).2 =
    (ice.processStunMessage hmac d).2

section Complete

variable {hmac : HmacSha1} {msg : StunMessage}

theorem mappedAddressBytes_length_iff {ep : Option Endpoint} :
    (mappedAddressBytes ep).length = 12 ↔ ∃ address port, ep = some ⟨.v4 address, port⟩ := by
  rcases ep with - | ⟨address | address, port⟩
  · simp [mappedAddressBytes]
  · exact ⟨fun _ => ⟨address, port, rfl⟩, fun _ => rfl⟩
  · simp [mappedAddressBytes]

/-- A response that fills the buffer is the same in every buffer. -/
theorem window_response (htid : msg.transactionId.length = 12)
    (hlen : (mappedAddressBytes msg.mappedEndpoint).length = 12) (heap : Memory) :
    window (createResponse hmac msg heap).2 0 kResponseSize = responseBytes hmac msg := by
  have hholds := (createResponse_holds hmac msg heap htid).2
  rwa [Holds, responseBytes_length hmac htid, hlen] at hholds

/-- Behind a response that is too short stands what was in the buffer. -/
theorem response_rest (hmac : HmacSha1) (htid : msg.transactionId.length = 12)
    (hlen : (mappedAddressBytes msg.mappedEndpoint).length ≠ 12) (heap : Memory) :
    (createResponse hmac msg heap).2 52 = heap 52 := by
  have hnil : mappedAddressBytes msg.mappedEndpoint = [] :=
    (mappedAddressBytes_length _).resolve_left hlen
  rw [createResponse_eq htid]
  show poke heap 0 (responseBytes hmac msg) 52 = heap 52
  apply poke_ge
  rw [responseBytes_length hmac htid, hnil, List.length_nil]

/-- What is handed out owes nothing to the buffer exactly when it is filled. -/
theorem window_response_iff (htid : msg.transactionId.length = 12) (heap : Memory) :
    (∀ heap', window (createResponse hmac msg heap').2 0 kResponseSize =
        window (createResponse hmac msg heap).2 0 kResponseSize) ↔
      (mappedAddressBytes msg.mappedEndpoint).length = 12 := by
  constructor
  · intro h
    by_contra hshort
    -- with another byte behind the message, another byte is handed out
    have hbyte := window_eq_iff.mp (h fun _ => heap 52 + 1) 52 (by decide)
    have hother : (createResponse hmac msg fun _ => heap 52 + 1).2 52 = heap 52 + 1 :=
      response_rest hmac htid hshort _
    have hown := response_rest hmac htid hshort heap
    have hsame : heap 52 + 1 = heap 52 := hother.symm.trans (hbyte.trans hown)
    have hnat := congrArg UInt8.toNat hsame
    rw [UInt8.toNat_add] at hnat
    have hlt := (heap 52).toNat_lt
    simp only [UInt8.toNat_one] at hnat
    omega
  · intro hlen heap'
    exact (window_response htid hlen heap').trans (window_response htid hlen heap).symm

theorem complete_of_mapped (htid : msg.transactionId.length = 12) {address : UInt32}
    {port : UInt16} (hep : msg.mappedEndpoint = some ⟨.v4 address, port⟩) : Complete hmac msg := by
  intro heap w hw
  have hlen : (mappedAddressBytes msg.mappedEndpoint).length = 12 :=
    mappedAddressBytes_length_iff.mpr ⟨address, port, hep⟩
  have hbytes : (createResponse hmac msg heap).2 = w.bytes := by rw [createResponse, hw]
  have hholds := (createResponse_holds hmac msg heap htid).2
  rw [hbytes] at hholds
  have hfields := responseFields_of_holds htid hep hholds
  rw [responseBytes, holds_append] at hholds
  have hsigned := hfields.signed_rfc (covered_of_signed htid hep hholds.1)
  refine ⟨?_, ?_, hsigned.framed.length, _, hsigned.framed.attributes⟩
  · rw [writeResponse_eq htid] at hw
    cases hw
    show (responseBytes hmac msg).length = kResponseSize
    rw [responseBytes_length hmac htid, hlen]
    rfl
  · intro heap'
    rw [← hbytes, window_response htid hlen, window_response htid hlen]

theorem not_complete_of_short (htid : msg.transactionId.length = 12)
    (hlen : (mappedAddressBytes msg.mappedEndpoint).length ≠ 12) : ¬ Complete hmac msg := by
  intro h
  have hnil : mappedAddressBytes msg.mappedEndpoint = [] :=
    (mappedAddressBytes_length _).resolve_left hlen
  have hsize := (h (fun _ => 0) _ (writeResponse_eq htid)).1
  simp only [ByteWriter.filled, responseBytes_length hmac htid, hnil, List.length_nil] at hsize
  exact absurd hsize (by decide)

end Complete

section Answered

variable {hmac : HmacSha1} {ice : IceLite} {d : Datagram}

/-- What an accepted request leaves in the message object. -/
theorem answered_transactionId (h : (IceLite.parsed hmac ice d).ok = true) :
    (IceLite.answered hmac ice d).transactionId = window d.data 8 kStunTransactionIdLength := by
  obtain ⟨st, -, -, -, -, hmsg, -⟩ := parse_accepted h
  exact congrArg StunMessage.transactionId hmsg

theorem sendsOwnBytes_iff (h : (IceLite.parsed hmac ice d).ok = true) :
    SendsOwnBytes hmac ice d ↔ ∀ heap,
      IceLite.response hmac ice { d with heap := heap } = IceLite.response hmac ice d := by
  refine forall_congr' ?_
  intro heap
  have hout := IceLite.processStunMessage_accepted h
  have hout' : (ice.processStunMessage hmac { d with heap := heap }).2 =
      (if ice.Nominates hmac d then [.iceConnectionCompleted] else []) ++
        [.stunMessageSend (IceLite.response hmac ice { d with heap := heap }) d.remoteEp] :=
    IceLite.processStunMessage_accepted (d := { d with heap := heap }) h
  rw [hout, hout']
  simp

end Answered

/-- Exactly for an IPv4 endpoint does `CreateResponse` fill what it hands out,
and exactly to an IPv4 endpoint does the agent send a response of its own
bytes alone. -/
theorem createResponse_complete_iff (hmac : HmacSha1) :
    (∀ localUfrag localPassword remoteUfrag transactionId hasUseCandidate mappedEndpoint,
      Complete hmac (answering localUfrag localPassword remoteUfrag transactionId hasUseCandidate
        mappedEndpoint) ↔ ∃ address port, mappedEndpoint = some ⟨.v4 address, port⟩) ∧
    (∀ ice d, (IceLite.parsed hmac ice d).ok = true →
      (SendsOwnBytes hmac ice d ↔ ∃ address, d.remoteEp.address = .v4 address)) := by
  constructor
  · intro localUfrag localPassword remoteUfrag transactionId hasUseCandidate mappedEndpoint
    have htid : transactionId.toList.length = 12 := transactionId.length_toList
    constructor
    · intro h
      by_contra hno
      exact not_complete_of_short htid (mt mappedAddressBytes_length_iff.mp hno) h
    · rintro ⟨address, port, rfl⟩
      exact complete_of_mapped htid rfl
  · intro ice d hok
    have htid : (IceLite.answered hmac ice d).transactionId.length = 12 := by
      rw [answered_transactionId hok, window_length]
      rfl
    have hmapped : (mappedAddressBytes (IceLite.answered hmac ice d).mappedEndpoint).length = 12 ↔
        ∃ address, d.remoteEp.address = .v4 address := by
      refine mappedAddressBytes_length_iff.trans ?_
      simp only [IceLite.answered, Option.some.injEq]
      exact ⟨fun ⟨address, port, h⟩ => ⟨address, by rw [h]⟩,
        fun ⟨address, h⟩ => ⟨address, d.remoteEp.port, by rw [← h]⟩⟩
    rw [sendsOwnBytes_iff hok, ← hmapped]
    exact window_response_iff htid d.heap

/-- A message to be answered to an IPv6 endpoint. -/
def ipv6Answering : StunMessage :=
  answering [0x61, 0x62] [0x70] [0x63, 0x64] (Vector.replicate 12 0) false
    (some ⟨.v6 (List.replicate 16 0), 4000⟩)

/-- The response for it is announced as 64 bytes and has 52; the rest is
what the heap held. -/
theorem ipv6_response_short :
    (createResponse zeroHmac ipv6Answering fun _ => 7).1 = true ∧
      (createResponse zeroHmac ipv6Answering fun _ => 7).2 52 = 7 ∧
      ¬ Complete zeroHmac ipv6Answering := by
  have htid : ipv6Answering.transactionId.length = 12 := by decide
  have hshort : (mappedAddressBytes ipv6Answering.mappedEndpoint).length ≠ 12 := by decide
  exact ⟨(createResponse_holds zeroHmac ipv6Answering _ htid).1,
    response_rest zeroHmac htid hshort _, not_complete_of_short htid hshort⟩

end WebrtcServer.StunMessage
