/-
# `StunRestore` — what `StunMessage::Parse` leaves in the caller's buffer

For a message with a FINGERPRINT `Parse` writes into the length field before it
checks MESSAGE-INTEGRITY.  It does not save the old value: a message that is
right gets `size - 20` afterwards, and one that is wrong is rejected with the
reduced length still in it.  So the buffer is as it was exactly when the field
held that value before.
-/
import WebrtcServer.StunRequest

namespace WebrtcServer.StunMessage

open Lib

/-- The bytes at `mi` are the HMAC of the text before them, with the length
field reduced by the FINGERPRINT. -/
def ReducedIntegrity (hmac : HmacSha1) (msg : StunMessage) (data : Memory) (size mi : Nat) : Prop :=
  window (reduceLength data size true) (mi + kStunAttributeHeaderSize) kSha1ResultLength =
    (hmac msg.localPassword (integrityText data size true mi)).toList

instance (hmac : HmacSha1) (msg : StunMessage) (data : Memory) (size mi : Nat) :
    Decidable (ReducedIntegrity hmac msg data size mi) :=
  inferInstanceAs (Decidable (_ = _))

/-- The last MESSAGE-INTEGRITY of the attributes listed. -/
structure LastIntegrity (data : Memory) (offs : List Nat) (mi : Nat) : Prop where
  mem : mi ∈ offs
  type : attrType data mi = kAttrMessageIntegrity
  last : ∀ o ∈ offs, attrType data o = kAttrMessageIntegrity → o ≤ mi

/-- Either the message stops the loop, or it lacks FINGERPRINT or
MESSAGE-INTEGRITY, or its length field fits: it counts the whole message if
the last MESSAGE-INTEGRITY is right, and the message without FINGERPRINT if
not. -/
def LengthFits (hmac : HmacSha1) (msg : StunMessage) (data : Memory) (size : Nat) : Prop :=
  ∀ offs mi, PassingRun msg data size offs → LastIntegrity data offs mi →
    (∃ o ∈ offs, attrType data o = kAttrFingerprint) →
    lengthField data =
      if ReducedIntegrity hmac msg data size mi then UInt16.ofNat (size - kStunHeaderSize)
      else lengthWithoutFingerprint size

section Buffer

variable {hmac : HmacSha1} {msg : StunMessage} {data : Memory} {size : Nat} {st : ParseState}

theorem LastIntegrity.unique {offs : List Nat} {mi mi' : Nat} (h : LastIntegrity data offs mi)
    (h' : LastIntegrity data offs mi') : mi = mi' :=
  Nat.le_antisymm (h'.last mi h.mem h.type) (h.last mi' h'.mem h'.type)

/-- A new length field shows, unless it is the old one. -/
theorem window_poke_lengthField {value : UInt16} (hsize : 4 ≤ size) :
    window (poke data kLengthOffset (storeUInt16BE value)) 0 size = window data 0 size ↔
      lengthField data = value := by
  constructor
  · intro h
    have hbytes := window_eq_iff.mp h
    have hfield :
        lengthField (poke data kLengthOffset (storeUInt16BE value)) = lengthField data := by
      apply loadUInt16BE_congr
      · simpa [kLengthOffset] using hbytes 2 (by omega)
      · simpa [kLengthOffset] using hbytes 3 (by omega)
    rw [← hfield]
    apply loadUInt16BE_of_holds
    rw [Holds, window_shift]
    exact window_poke_same data kLengthOffset _
  · rintro rfl
    rw [poke_lengthField]

/-- The two ways out of the check, for a message with a FINGERPRINT. -/
theorem checkMessageIntegrity_data (hfp : st.hasFingerprint = true) (mi : Nat) :
    (checkMessageIntegrity hmac msg data size st mi).data =
      poke data kLengthOffset (storeUInt16BE
        (if ReducedIntegrity hmac msg data size mi then
          UInt16.ofNat (toSizeT ((size : Int) - kStunHeaderSize))
        else lengthWithoutFingerprint size)) := by
  simp only [checkMessageIntegrity, hfp]
  split
  next hne =>
    have hwrong : ¬ ReducedIntegrity hmac msg data size mi := hne
    rw [if_neg hwrong]
    rfl
  next heq =>
    have hright : ReducedIntegrity hmac msg data size mi := not_not.mp heq
    rw [if_pos hright]
    simp only [restoreLength, reduceLength, if_true]
    exact poke_poke (by simp)

theorem checkMessageIntegrity_data_of_none (hfp : st.hasFingerprint = false) (mi : Nat) :
    (checkMessageIntegrity hmac msg data size st mi).data = data := by
  simp only [checkMessageIntegrity, hfp]
  split <;> rfl

theorem toSizeT_restored (h : kStunHeaderSize ≤ size) :
    UInt16.ofNat (toSizeT ((size : Int) - kStunHeaderSize)) =
      UInt16.ofNat (size - kStunHeaderSize) := by
  simp only [toSizeT, ← UInt16.toNat_inj, UInt16.toNat_ofNat', kStunHeaderSize] at h ⊢
  omega

/-- A message that comes to its end in the loop: what is left in the
buffer. -/
theorem restores_of_run (h : HeaderOk data size)
    (hloop : parseAttributes msg (startState msg data size) = .ok st) :
    window (parse hmac msg data size).data 0 size = window data 0 size ↔
      LengthFits hmac msg data size := by
  have hrun := (parseAttributes_iff h).mp ⟨st, hloop, rfl⟩
  obtain ⟨hwalk, -⟩ := (parseAttributes_eq_ok (startState_inMessage msg h)).mp hloop
  have htracked := (Reaches.tracked ⟨h, hwalk⟩).2
  have hfour : 4 ≤ size := le_trans (by decide) h.size
  rw [parse_of_loop h hloop]
  cases hmi : st.messageIntegrityStart with
  | none =>
      refine ⟨fun _ offs mi hoffs hlast _ => ?_, fun _ => rfl⟩
      obtain rfl := hrun.run.unique hoffs.run
      obtain ⟨m, hm, -⟩ := htracked.integrity_last mi hlast.mem hlast.type
      rw [hmi] at hm
      cases hm
  | some mi =>
      have hlast : LastIntegrity data st.visited mi := by
        obtain ⟨hmem, htype⟩ := htracked.integrity_some mi hmi
        refine ⟨hmem, htype, ?_⟩
        intro o ho hot
        obtain ⟨m, hm, hle⟩ := htracked.integrity_last o ho hot
        obtain rfl := Option.some.inj (hmi.symm.trans hm)
        exact hle
      cases hfp : st.hasFingerprint with
      | false =>
          simp only [checkMessageIntegrity_data_of_none hfp]
          refine ⟨fun _ offs m hoffs _ hexists => ?_, fun _ => trivial⟩
          obtain rfl := hrun.run.unique hoffs.run
          rw [htracked.fingerprint.mpr hexists] at hfp
          cases hfp
      | true =>
          simp only [checkMessageIntegrity_data hfp, toSizeT_restored h.size]
          rw [window_poke_lengthField hfour]
          constructor
          · intro hfield offs m hoffs hm _
            obtain rfl := hrun.run.unique hoffs.run
            obtain rfl := hlast.unique hm
            exact hfield
          · exact fun hfits => hfits st.visited mi hrun hlast (htracked.fingerprint.mp hfp)

end Buffer

/-- The buffer is the same after `Parse` as before exactly when its length
field fits. -/
theorem parse_restores_iff (hmac : HmacSha1) (msg : StunMessage) (data : Memory) (size : Nat) :
    window (parse hmac msg data size).data 0 size = window data 0 size ↔
      LengthFits hmac msg data size := by
  by_cases hh : HeaderOk data size
  · cases hl : parseAttributes msg (startState msg data size) with
    | ok st => exact restores_of_run hh hl
    | error log =>
        rw [parse_of_rejected hh hl]
        refine ⟨fun _ offs mi hoffs _ _ => ?_, fun _ => rfl⟩
        obtain ⟨st, hst, -⟩ := (parseAttributes_iff hh).mpr hoffs
        rw [hl] at hst
        cases hst
  · obtain ⟨log, -, hparse⟩ := parse_of_bad_header hmac msg hh
    rw [hparse]
    exact ⟨fun _ offs mi hoffs _ _ => absurd hoffs.header hh, fun _ => rfl⟩

/-- A MESSAGE-INTEGRITY of ones, which is wrong for `zeroHmac`, and a right
FINGERPRINT. -/
def wrongIntegrity : List UInt8 :=
  [0x00, 0x01, 0x00, 0x20, 0x21, 0x12, 0xA4, 0x42, 1, 2, 3, 4, 5, 6, 7, 8, 9, 10, 11, 12,
   0x00, 0x08, 0x00, 0x14] ++ List.replicate 20 1 ++ [0x80, 0x28, 0x00, 0x04, 90, 162, 7, 102]

/-- It is rejected, and its length field says 24 instead of 32 from then on. -/
theorem wrongIntegrity_rewritten :
    (parse zeroHmac sampleMessage (.ofList wrongIntegrity) 52).ok = false ∧
      lengthField (.ofList wrongIntegrity) = 32 ∧
      lengthField (parse zeroHmac sampleMessage (.ofList wrongIntegrity) 52).data = 24 ∧
      window (parse zeroHmac sampleMessage (.ofList wrongIntegrity) 52).data 0 52 ≠
        window (.ofList wrongIntegrity) 0 52 := by
  decide +kernel

end WebrtcServer.StunMessage
