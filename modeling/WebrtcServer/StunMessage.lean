/-
# `StunMessage` — stun_message.h, stun_message.cpp, crc32.cpp, hmac_sha1.cpp

A datagram reaches `Parse` as a pointer and a size.  The pointer goes into
the receive buffer, which is larger than the datagram, so the bytes past
the size exist and are whatever the buffer held before; `Parse` reads some
of them, and the model lets it.  What it reads is logged in the reader.

HMAC-SHA1 comes from OpenSSL and is a parameter: a function from the key
and the text to 20 bytes.

Two things are recorded that the source does not keep: the spans read and
the offsets at which an attribute header was read (`visited`).
-/
import WebrtcServer.ByteBuffer
import WebrtcServer.Lib.Loop

namespace WebrtcServer

open Lib

/-! ## `Crc32` and `HmacSha1` -/

def kCrc32Polynomial : UInt32 := 0xEDB88320

/-- One of the eight rounds of `LoadCrc32Table`. -/
def crc32Round (c : UInt32) : UInt32 :=
  if c &&& 1 ≠ 0 then kCrc32Polynomial ^^^ (c >>> 1) else c >>> 1

/-- `kCrc32Table[i]`, as `LoadCrc32Table` fills it. -/
def crc32Table (i : UInt8) : UInt32 := Nat.repeat crc32Round 8 i.toUInt32

/-- `Crc32::Calculate`. -/
def crc32Calculate (data : List UInt8) : UInt32 :=
  data.foldl (fun (c : UInt32) b => crc32Table ((c ^^^ b.toUInt32) &&& 0xFF).toUInt8 ^^^ (c >>> 8))
    0xFFFFFFFF ^^^ 0xFFFFFFFF

def kSha1ResultLength : Nat := 20

/-- `HmacSha1::Calculate`: key, then text. -/
abbrev HmacSha1 := ByteString → List UInt8 → Vector UInt8 kSha1ResultLength

/-- A keyed function that gives zeros. -/
def zeroHmac : HmacSha1 := fun _ _ => Vector.replicate 20 0

/-! ## Endpoints -/

/-- An address of either family; an IPv6 address is its 16 bytes. -/
inductive Address where
  | v4 (address : UInt32)
  | v6 (address : List UInt8)
deriving DecidableEq, Repr

/-- `udp::endpoint`. -/
structure Endpoint where
  address : Address
  port : UInt16
deriving DecidableEq, Repr

/-- The unspecified endpoint of `udp::endpoint`'s default constructor. -/
instance : Inhabited Endpoint := ⟨⟨.v4 0, 0⟩⟩

/-! ## Constants -/

def kStunAttributeHeaderSize : Nat := 4
def kStunHeaderSize : Nat := 20
def kStunTransactionIdLength : Nat := 12
def kStunMagicCookie : UInt32 := 0x2112A442
def kLengthOffset : Nat := 2
def kFingerprintAttrLength : Nat := 4

/-- `StunMessage::Type`, the one the server sends. -/
def kBindingResponse : UInt16 := 0x0101

/-- The constant a FINGERPRINT is xored with. -/
def kFingerprintXor : UInt32 := 0x5354554e

/-! `StunMessage::Attribute`. -/

def kAttrUsername : UInt16 := 0x0006
def kAttrMessageIntegrity : UInt16 := 0x0008
def kAttrXorMappedAddress : UInt16 := 0x0020
def kAttrUseCandidate : UInt16 := 0x0025
def kAttrFingerprint : UInt16 := 0x8028
def kAttrIceControlled : UInt16 := 0x8029

/-! ## `Parse` -/

structure StunMessage where
  localUfrag : ByteString
  localPassword : ByteString
  remoteUfrag : ByteString
  transactionId : ByteString
  hasUseCandidate : Bool
  mappedEndpoint : Option Endpoint

namespace StunMessage

/-- The constructor. -/
def new (localUfrag localPassword remoteUfrag : ByteString) : StunMessage :=
  { localUfrag, localPassword, remoteUfrag
    transactionId := [], hasUseCandidate := false, mappedEndpoint := none }

/-- `IsStun`. -/
def isStun (data : Memory) (size : Nat) : Bool :=
  decide (20 ≤ size) && decide ((data 0).toNat < 3) &&
    decide (loadUInt32BE (data.shift 4) = kStunMagicCookie)

/-- What the attribute loop updates.  `message_integrity_start_address` is
an offset, set exactly when `has_message_integrity` is. -/
structure ParseState where
  reader : ByteReader
  messageIntegrityStart : Option Nat
  hasFingerprint : Bool
  hasUseCandidate : Bool
  /-- The offsets at which an attribute header was read. -/
  visited : List Nat

/-- `user_name.starts_with(x)` on the `len` bytes at the cursor: the length
is compared first, and only then are `x.size()` bytes read. -/
def startsWith (r : ByteReader) (len : Nat) (x : ByteString) : Bool × ByteReader :=
  if len < x.length then (false, r)
  else (decide (window r.bytes r.start x.length = x), r.touch r.start x.length)

/-- `user_name.ends_with(x)`. -/
def endsWith (r : ByteReader) (len : Nat) (x : ByteString) : Bool × ByteReader :=
  if len < x.length then (false, r)
  else (decide (window r.bytes (r.start + len - x.length) x.length = x),
    r.touch (r.start + len - x.length) x.length)

/-- The switch on the attribute type, with the cursor at the value.  An
error is the `return false`, with the spans read until then. -/
def parseValue (msg : StunMessage) (st : ParseState) (attrType : UInt16) (attrLength : UInt16) :
    Except (List Span) ParseState :=
  let r := st.reader
  if attrType = kAttrUsername then
    match startsWith r attrLength.toNat msg.localUfrag with
    | (false, r₁) => .error r₁.touched
    | (true, r₁) =>
        match endsWith r₁ attrLength.toNat msg.remoteUfrag with
        | (false, r₂) => .error r₂.touched
        | (true, r₂) => .ok { st with reader := r₂ }
  else if attrType = kAttrMessageIntegrity then
    .ok { st with messageIntegrityStart := some (r.start - kStunAttributeHeaderSize) }
  else if attrType = kAttrFingerprint then
    let announced := loadUInt32BE r.currentData
    let computed :=
      crc32Calculate (window r.bytes 0 (r.start - kStunAttributeHeaderSize)) ^^^ kFingerprintXor
    let r₁ := (r.touch r.start 4).touch 0 (r.start - kStunAttributeHeaderSize)
    if announced ≠ computed then .error r₁.touched
    else .ok { st with reader := r₁, hasFingerprint := true }
  else if attrType = kAttrUseCandidate then .ok { st with hasUseCandidate := true }
  else if attrType = kAttrIceControlled then .error r.touched
  else .ok st

/-- The length rounded up to a multiple of four, in the 16 bits of
`attr_length`. -/
def paddedLength (attrLength : UInt16) : UInt16 :=
  if attrLength % 4 ≠ 0 then attrLength + (4 - attrLength % 4) else attrLength

/-- One turn of the loop over the attributes. -/
def parseAttribute (msg : StunMessage) (st : ParseState) : Except (List Span) ParseState :=
  match st.reader.readUInt16 with
  | none => .error st.reader.touched
  | some (attrType, r₁) =>
      match r₁.readUInt16 with
      | none => .error r₁.touched
      | some (attrLength, r₂) =>
          match parseValue msg
              { st with reader := r₂, visited := st.visited ++ [st.reader.start] }
              attrType attrLength with
          | .error log => .error log
          | .ok st' =>
              match st'.reader.consume (paddedLength attrLength).toNat with
              | none => .error st'.reader.touched
              | some r₃ => .ok { st' with reader := r₃ }

/-- `reader.Left() > 0`. -/
def moreAttributes (st : ParseState) : Bool := decide (0 < st.reader.left)

/-- The loop over the attributes.  Every turn takes at least the four bytes
of a header, so the bytes left at the start are fuel enough. -/
def parseAttributes (msg : StunMessage) (st : ParseState) : Except (List Span) ParseState :=
  whileLoop moreAttributes (parseAttribute msg) st.reader.left st

/-- The message header: type, length, magic cookie and transaction id. -/
def parseHeader (data : Memory) (size : Nat) :
    Except (List Span) (ByteString × ByteReader) :=
  match (ByteReader.ofData data size).readUInt16 with
  | none => .error []
  | some (_type, r₁) =>
      match r₁.readUInt16 with
      | none => .error r₁.touched
      | some (_length, r₂) =>
          match r₂.readUInt32 with
          | none => .error r₂.touched
          | some (magicCookie, r₃) =>
              if magicCookie ≠ kStunMagicCookie then .error r₃.touched
              else
                match r₃.readBytes kStunTransactionIdLength with
                | none => .error r₃.touched
                | some (transactionId, r₄) => .ok (transactionId, r₄)

/-- What a call of `Parse` leaves behind. -/
structure ParseResult where
  /-- The value returned. -/
  ok : Bool
  msg : StunMessage
  data : Memory
  touched : List Span
  visited : List Nat

/-- The length that a message with a FINGERPRINT has without it, as
`size - kStunHeaderSize - kFingerprintAttrLength - kStunAttributeHeaderSize`
in `size_t`. -/
def lengthWithoutFingerprint (size : Nat) : UInt16 :=
  UInt16.ofNat (toSizeT
    ((size : Int) - kStunHeaderSize - kFingerprintAttrLength - kStunAttributeHeaderSize))

/-- The length field while MESSAGE-INTEGRITY is checked: reduced by the
FINGERPRINT when there is one. -/
def reduceLength (data : Memory) (size : Nat) (hasFingerprint : Bool) : Memory :=
  if hasFingerprint then poke data kLengthOffset (storeUInt16BE (lengthWithoutFingerprint size))
  else data

/-- The length field put back as `size - kStunHeaderSize`. -/
def restoreLength (data : Memory) (size : Nat) (hasFingerprint : Bool) : Memory :=
  if hasFingerprint then
    poke data kLengthOffset (storeUInt16BE (UInt16.ofNat (toSizeT ((size : Int) - kStunHeaderSize))))
  else data

/-- The text that MESSAGE-INTEGRITY covers: the message up to the attribute
at `start`. -/
def integrityText (data : Memory) (size : Nat) (hasFingerprint : Bool) (start : Nat) : List UInt8 :=
  window (reduceLength data size hasFingerprint) 0 start

/-- The comparison after the loop, for a message with a MESSAGE-INTEGRITY
attribute at `start`. -/
def checkMessageIntegrity (hmac : HmacSha1) (msg : StunMessage) (data : Memory) (size : Nat)
    (st : ParseState) (start : Nat) : ParseResult :=
  let reduced := reduceLength data size st.hasFingerprint
  let log := st.reader.touched ++ [(0, start), (start + kStunAttributeHeaderSize, kSha1ResultLength)]
  if window reduced (start + kStunAttributeHeaderSize) kSha1ResultLength ≠
      (hmac msg.localPassword (integrityText data size st.hasFingerprint start)).toList then
    { ok := false, msg, data := reduced, touched := log, visited := st.visited }
  else
    { ok := true, msg, data := restoreLength reduced size st.hasFingerprint
      touched := log, visited := st.visited }

/-- The loop's first state. -/
def initialState (msg : StunMessage) (r : ByteReader) : ParseState :=
  { reader := r, messageIntegrityStart := none, hasFingerprint := false
    hasUseCandidate := msg.hasUseCandidate, visited := [] }

/-- `Parse`.  A message that was rejected is not looked at again, so a
rejection leaves `msg` as it was. -/
def parse (hmac : HmacSha1) (msg : StunMessage) (data : Memory) (size : Nat) : ParseResult :=
  match parseHeader data size with
  | .error log => { ok := false, msg, data, touched := log, visited := [] }
  | .ok (transactionId, r) =>
      match parseAttributes msg (initialState msg r) with
      | .error log => { ok := false, msg, data, touched := log, visited := [] }
      | .ok st =>
          let msg' :=
            { msg with
              transactionId := msg.transactionId ++ transactionId
              hasUseCandidate := st.hasUseCandidate }
          match st.messageIntegrityStart with
          | none =>
              { ok := true, msg := msg', data
                touched := st.reader.touched, visited := st.visited }
          | some start => checkMessageIntegrity hmac msg' data size st start

/-! ## `CreateResponse` -/

/-- A write that returns false ends `CreateResponse`, with the buffer as it
is then. -/
def orFail (w : ByteWriter) : Option ByteWriter → Except ByteWriter ByteWriter
  | some w' => .ok w'
  | none => .error w

def kResponseSize : Nat := kStunHeaderSize + 12 + 24 + 8

/-- The XOR-MAPPED-ADDRESS attribute; nothing is written for IPv6. -/
def writeMappedAddress (msg : StunMessage) (w : ByteWriter) : Except ByteWriter ByteWriter :=
  match msg.mappedEndpoint with
  | some ⟨.v4 address, port⟩ => do
      let w ← orFail w (w.writeUInt16 kAttrXorMappedAddress)
      let w ← orFail w (w.writeUInt16 8)
      let w ← orFail w (w.writeUInt8 0)
      let w ← orFail w (w.writeUInt8 0x01)
      let w ← orFail w (w.writeUInt16 (port ^^^ (kStunMagicCookie >>> 16).toUInt16))
      orFail w (w.writeUInt32 (address ^^^ kStunMagicCookie))
  | some ⟨.v6 _, _⟩ => .ok w
  | none => .ok w

/-- The writes of `CreateResponse` into the fresh buffer `heap`. -/
def writeResponse (hmac : HmacSha1) (msg : StunMessage) (heap : Memory) :
    Except ByteWriter ByteWriter := do
  let w := ByteWriter.ofBuffer heap kResponseSize
  let w ← orFail w (w.writeUInt16 kBindingResponse)
  let w ← orFail w (w.writeUInt16 (UInt16.ofNat (kResponseSize - kStunHeaderSize)))
  let w ← orFail w (w.writeUInt32 kStunMagicCookie)
  let w ← orFail w (w.writeString msg.transactionId)
  let w ← writeMappedAddress msg w
  let w := { w with bytes := poke w.bytes 2 (storeUInt16BE (12 + 24)) }
  let result := hmac msg.localPassword w.written
  let w ← orFail w (w.writeUInt16 kAttrMessageIntegrity)
  let w ← orFail w (w.writeUInt16 (UInt16.ofNat kSha1ResultLength))
  let w ← orFail w (w.writeBytes result.toList)
  let w := { w with bytes := poke w.bytes 2 (storeUInt16BE (12 + 24 + 8)) }
  let crc32 := crc32Calculate w.written
  let w ← orFail w (w.writeUInt16 kAttrFingerprint)
  let w ← orFail w (w.writeUInt16 4)
  orFail w (w.writeUInt32 (crc32 ^^^ kFingerprintXor))

/-- `CreateResponse`: the value returned and the contents of `data_`, whose
`Size()` is `kResponseSize` on every path. -/
def createResponse (hmac : HmacSha1) (msg : StunMessage) (heap : Memory) : Bool × Memory :=
  match writeResponse hmac msg heap with
  | .ok w => (true, w.bytes)
  | .error w => (false, w.bytes)

end StunMessage

end WebrtcServer
