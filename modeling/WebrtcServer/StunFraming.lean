/-
# `StunFraming` — the framing of the messages that `Parse` accepts

RFC 5389 frames a message twice: by the length field of the header and by
the lengths of the attributes, each value padded to a multiple of four.
`Parse` reads the length field and does not compare it, and it pads in 16
bits, so an announced length above 65532 pads to zero.  The cursor follows
the attributes of the message apart from these two, the only gaps there
are.
-/
import WebrtcServer.StunWalk

namespace WebrtcServer.StunMessage

open Lib

/-- From `off` to the end of the message there is nothing but attributes,
one at each of the offsets listed, each value taking the bytes that `pad`
gives for its announced length. -/
inductive AttributeRun (pad : UInt16 → Nat) (data : Memory) (size : Nat) : Nat → List Nat → Prop
  | done : AttributeRun pad data size size []
  | attr {off : Nat} {offs : List Nat} :
      off + kStunAttributeHeaderSize + pad (attrLength data off) ≤ size →
      AttributeRun pad data size (off + kStunAttributeHeaderSize + pad (attrLength data off)) offs →
      AttributeRun pad data size off (off :: offs)

/-- The length of a value with its padding, RFC 5389 section 15. -/
def rfcPadded (len : UInt16) : Nat := (len.toNat + 3) / 4 * 4

/-- The padding of `Parse`. -/
def cursorPadded (len : UInt16) : Nat := (paddedLength len).toNat

/-- The message length in the header. -/
def lengthField (data : Memory) : UInt16 := loadUInt16BE (data.shift kLengthOffset)

/-- A message of `size` bytes framed as in RFC 5389, with attributes at
`offs`. -/
structure WellFramed (data : Memory) (size : Nat) (offs : List Nat) : Prop where
  header : kStunHeaderSize ≤ size
  length : (lengthField data).toNat = size - kStunHeaderSize
  attributes : AttributeRun rfcPadded data size kStunHeaderSize offs

section Padding

theorem cursorPadded_eq {len : UInt16} (h : len.toNat ≤ 65532) :
    cursorPadded len = rfcPadded len := by
  have hmod : (len % 4).toNat = len.toNat % 4 := by simp [UInt16.toNat_mod]
  have hlt : len.toNat % 4 < 4 := Nat.mod_lt _ (by decide)
  simp only [cursorPadded, rfcPadded, paddedLength]
  by_cases hz : len % 4 = 0
  · rw [hz] at hmod
    simp only [hz, ne_eq, not_true_eq_false, if_false]
    simp only [UInt16.toNat_zero] at hmod
    omega
  · have hne : len.toNat % 4 ≠ 0 := by
      intro h0
      exact hz (UInt16.toNat_inj.mp (by rw [hmod, h0]; rfl))
    have hsub : (4 - len % 4).toNat = 4 - len.toNat % 4 := by
      rw [UInt16.toNat_sub_of_le, hmod]
      · rfl
      · rw [UInt16.le_iff_toNat_le, hmod]
        exact hlt.le
    simp only [hz, ne_eq, not_false_eq_true, if_true, UInt16.toNat_add, hsub]
    omega

end Padding

section Runs

variable {pad pad' : UInt16 → Nat} {data : Memory} {size : Nat}

/-- The padding matters only at the attributes that are there. -/
theorem AttributeRun.congr {off : Nat} {offs : List Nat}
    (h : AttributeRun pad data size off offs)
    (heq : ∀ o ∈ offs, pad (attrLength data o) = pad' (attrLength data o)) :
    AttributeRun pad' data size off offs := by
  induction h with
  | done => exact .done
  | @attr off offs hfit _ ih =>
      have hhead := heq off List.mem_cons_self
      refine .attr (hhead ▸ hfit) ?_
      rw [← hhead]
      exact ih fun o ho => heq o (List.mem_cons_of_mem _ ho)

/-- Every attribute of a run lies behind its start and inside the message. -/
theorem AttributeRun.bounds {off : Nat} {offs : List Nat}
    (h : AttributeRun pad data size off offs) :
    ∀ o ∈ offs, off ≤ o ∧ o + kStunAttributeHeaderSize + pad (attrLength data o) ≤ size := by
  induction h with
  | done => exact fun _ ho => absurd ho List.not_mem_nil
  | attr hfit _ ih =>
      intro o ho
      rcases List.mem_cons.mp ho with rfl | ho
      · exact ⟨le_rfl, hfit⟩
      · have := ih o ho
        exact ⟨by omega, this.2⟩

end Runs

/-- The length field bounds the message, and with it every padded length. -/
theorem WellFramed.length_le {data : Memory} {size : Nat} {offs : List Nat}
    (h : WellFramed data size offs) : ∀ off ∈ offs, (attrLength data off).toNat ≤ 65532 := by
  intro off hoff
  have hlt := (lengthField data).toNat_lt
  have hbound := h.attributes.bounds off hoff
  have hlen := h.length
  simp only [rfcPadded, kStunAttributeHeaderSize, kStunHeaderSize] at hbound hlen
  omega

section Framing

variable {hmac : HmacSha1} {msg : StunMessage} {data : Memory} {size : Nat}

/-- The cursor follows the attributes, with its own padding. -/
theorem walk_attributeRun {st st' : ParseState} (hs : InMessage data size st)
    (hw : Walk msg st st') (hleft : st'.reader.left = 0) :
    ∃ offs, st'.visited = st.visited ++ offs ∧
      AttributeRun cursorPadded data size st.reader.start offs := by
  induction hw using Relation.ReflTransGen.head_induction_on with
  | refl =>
      have hsize : st'.reader.start = size := by
        have := hs.start
        simp only [ByteReader.left, hs.end_] at hleft
        omega
      exact ⟨[], by simp, hsize ▸ .done⟩
  | @head t u hturn _ ih =>
      have hstep := parseAttribute_ok hturn.2
      obtain ⟨offs, hvis, hrun⟩ := ih (hs.turn hturn)
      refine ⟨t.reader.start :: offs, ?_, ?_⟩
      · rw [hvis, hstep.visited, List.append_assoc]
        rfl
      · have hlen : attrLength data t.reader.start = t.length := by
          rw [← hs.bytes]
        have hnext : t.reader.start + kStunAttributeHeaderSize +
            cursorPadded (attrLength data t.reader.start) = u.reader.start := by
          rw [hlen, hstep.start]
          rfl
        refine .attr ?_ (hnext ▸ hrun)
        rw [hnext]
        exact (hs.turn hturn).start

/-- An accepted message is well framed, and the cursor has met exactly its
attributes, exactly when the length field tells the size and no announced
length overflows with its padding. -/
theorem parse_framed_iff (hmac : HmacSha1) (msg : StunMessage) (data : Memory) (size : Nat)
    (h : (parse hmac msg data size).ok = true) :
    WellFramed data size (parse hmac msg data size).visited ↔
      (lengthField data).toNat = size - kStunHeaderSize ∧
        ∀ off ∈ (parse hmac msg data size).visited, (attrLength data off).toNat ≤ 65532 := by
  obtain ⟨st, hh, hwalk, hleft, hvis, -, -⟩ := parse_accepted h
  obtain ⟨offs, hoffs, hrun⟩ := walk_attributeRun (startState_inMessage msg hh) hwalk hleft
  have hvis' : (parse hmac msg data size).visited = offs := by
    rw [hvis, hoffs]
    rfl
  rw [hvis']
  constructor
  · exact fun hf => ⟨hf.length, hf.length_le⟩
  · rintro ⟨hlen, hall⟩
    exact ⟨hh.size, hlen, hrun.congr fun o ho => cursorPadded_eq (hall o ho)⟩

/-- A binding request with a USE-CANDIDATE attribute. -/
def nominatingRequest : List UInt8 :=
  [0x00, 0x01, 0x00, 0x04, 0x21, 0x12, 0xA4, 0x42, 1, 2, 3, 4, 5, 6, 7, 8, 9, 10, 11, 12,
   0x00, 0x25, 0x00, 0x00]

/-- The same, with a length field of zero. -/
def unframedRequest : List UInt8 :=
  [0x00, 0x01, 0x00, 0x00, 0x21, 0x12, 0xA4, 0x42, 1, 2, 3, 4, 5, 6, 7, 8, 9, 10, 11, 12,
   0x00, 0x25, 0x00, 0x00]

/-- The first attribute announces 65535 bytes; the cursor takes the first
four of them for a USE-CANDIDATE. -/
def overlongAttribute : List UInt8 :=
  [0x00, 0x01, 0x00, 0x08, 0x21, 0x12, 0xA4, 0x42, 1, 2, 3, 4, 5, 6, 7, 8, 9, 10, 11, 12,
   0x00, 0x01, 0xFF, 0xFF, 0x00, 0x25, 0x00, 0x00]

/-- A session whose ufrags and password are `ab`, `cd` and `p`. -/
def sampleMessage : StunMessage := StunMessage.new [0x61, 0x62] [0x70] [0x63, 0x64]

theorem nominatingRequest_framed :
    (parse zeroHmac sampleMessage (Memory.ofList nominatingRequest)
        nominatingRequest.length).ok = true ∧
      WellFramed (Memory.ofList nominatingRequest) nominatingRequest.length
        (parse zeroHmac sampleMessage (Memory.ofList nominatingRequest)
          nominatingRequest.length).visited :=
  ⟨by decide, (parse_framed_iff zeroHmac sampleMessage (Memory.ofList nominatingRequest)
    nominatingRequest.length (by decide)).mpr (by decide)⟩

/-- Both gaps are real: each message is accepted and is not well framed. -/
theorem unframed_accepted :
    ((parse zeroHmac sampleMessage (Memory.ofList unframedRequest)
        unframedRequest.length).ok = true ∧
      ¬ WellFramed (Memory.ofList unframedRequest) unframedRequest.length
        (parse zeroHmac sampleMessage (Memory.ofList unframedRequest)
          unframedRequest.length).visited) ∧
    ((parse zeroHmac sampleMessage (Memory.ofList overlongAttribute)
        overlongAttribute.length).ok = true ∧
      ¬ WellFramed (Memory.ofList overlongAttribute) overlongAttribute.length
        (parse zeroHmac sampleMessage (Memory.ofList overlongAttribute)
          overlongAttribute.length).visited) := by
  refine ⟨⟨by decide, fun h => absurd h.length (by decide)⟩, by decide, fun h => ?_⟩
  have hfits := h.attributes.bounds 20 (by decide)
  exact absurd hfits.2 (by decide)

end Framing

end WebrtcServer.StunMessage
