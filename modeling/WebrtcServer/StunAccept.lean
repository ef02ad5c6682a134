/-
# `StunAccept` — what `StunMessage::Parse` accepts

The attribute loop comes to its end exactly when the attributes follow one
another up to the end of the message and each of them passes the switch
(`parseAttributes_iff`).  A request that an RFC 5389 agent builds is such a
message: its MESSAGE-INTEGRITY is right with the length field that ends at
this attribute, which is what `Parse` puts there, and its FINGERPRINT is
right with the length field that was received.
-/
import WebrtcServer.StunFraming
import WebrtcServer.Lib.Crc

namespace WebrtcServer

open Lib

/-! ## CRC-32 -/

/-- The CRC-32 of RFC 1952, bit by bit, which a FINGERPRINT uses. -/
def rfcCrc32 (data : List UInt8) : UInt32 :=
  UInt32.ofBitVec (Crc.divide 0xEDB88320#32 0xFFFFFFFF#32
    (data.flatMap fun b => Crc.bitsOf 8 b.toNat) ^^^ 0xFFFFFFFF#32)

theorem crc32Round_toBitVec (c : UInt32) :
    (crc32Round c).toBitVec = Crc.shiftOut 0xEDB88320#32 c.toBitVec := by
  have hlow : c &&& 1 ≠ 0 ↔ c.toBitVec.getLsbD 0 = true := by
    rw [ne_eq, ← UInt32.toNat_inj, UInt32.toNat_and, BitVec.getLsbD, UInt32.toNat_toBitVec,
      Nat.testBit_zero]
    simp [Nat.and_one_is_mod]
  simp only [crc32Round, Crc.shiftOut, hlow]
  split <;> rfl

theorem crc32Table_toBitVec (i : UInt8) :
    (crc32Table i).toBitVec = (Crc.shiftOut 0xEDB88320#32)^[8] (BitVec.ofNat 32 i.toNat) := by
  have hrounds : ∀ n (c : UInt32), (Nat.repeat crc32Round n c).toBitVec =
      (Crc.shiftOut 0xEDB88320#32)^[n] c.toBitVec := by
    intro n c
    induction n with
    | zero => rfl
    | succ n ih =>
        rw [Function.iterate_succ_apply', ← ih, ← crc32Round_toBitVec]
        rfl
  rw [crc32Table, hrounds]
  congr 1
  apply BitVec.eq_of_toNat_eq
  simp

/-- One octet from the table is eight bits of the division. -/
theorem crc32Octet_toBitVec (c : UInt32) (b : UInt8) :
    (crc32Table ((c ^^^ b.toUInt32) &&& 0xFF).toUInt8 ^^^ (c >>> 8)).toBitVec =
      Crc.divide 0xEDB88320#32 c.toBitVec (Crc.bitsOf 8 b.toNat) := by
  have hlow : BitVec.ofNat 32 ((c ^^^ b.toUInt32) &&& 0xFF).toUInt8.toNat =
      (c.toBitVec ^^^ BitVec.ofNat 32 b.toNat) &&& BitVec.ofNat 32 (2 ^ 8 - 1) := by
    apply BitVec.eq_of_toNat_eq
    have hb := b.toNat_lt
    have hmask : (c.toNat ^^^ b.toNat) &&& 255 = (c.toNat ^^^ b.toNat) % 256 :=
      Nat.and_two_pow_sub_one_eq_mod _ 8
    simp only [BitVec.toNat_ofNat, UInt32.toNat_toUInt8, UInt32.toNat_and, UInt32.toNat_xor,
      UInt8.toNat_toUInt32, BitVec.toNat_and, BitVec.toNat_xor, UInt32.toNat_toBitVec]
    rw [Nat.mod_eq_of_lt (show b.toNat < 2 ^ 32 by omega)]
    show ((c.toNat ^^^ b.toNat) &&& 255) % 256 % 4294967296 = (c.toNat ^^^ b.toNat) &&& 255
    omega
  have hhigh : (c.toBitVec ^^^ BitVec.ofNat 32 b.toNat) >>> 8 = c.toBitVec >>> 8 := by
    have hb : BitVec.ofNat 32 b.toNat >>> 8 = 0#32 := by
      apply BitVec.eq_of_toNat_eq
      have hlt := b.toNat_lt
      simp only [BitVec.toNat_ushiftRight, BitVec.toNat_ofNat, Nat.shiftRight_eq_div_pow]
      omega
    rw [BitVec.ushiftRight_xor_distrib, hb, BitVec.xor_zero]
  rw [Crc.divide_bits _ b.toNat_lt (by omega), Crc.iterate_shiftOut, hhigh, ← hlow,
    UInt32.toBitVec_xor, crc32Table_toBitVec]
  rfl

/-- The code's CRC is the division. -/
theorem crc32Calculate_rfc (data : List UInt8) : crc32Calculate data = rfcCrc32 data := by
  have hloop : ∀ c : UInt32,
      (data.foldl (fun (c : UInt32) b =>
          crc32Table ((c ^^^ b.toUInt32) &&& 0xFF).toUInt8 ^^^ (c >>> 8)) c).toBitVec =
        Crc.divide 0xEDB88320#32 c.toBitVec (data.flatMap fun b => Crc.bitsOf 8 b.toNat) := by
    induction data with
    | nil => exact fun _ => rfl
    | cons b data ih =>
        intro c
        rw [List.foldl_cons, ih, crc32Octet_toBitVec, List.flatMap_cons, Crc.divide, Crc.divide,
          Crc.divide, List.foldl_append]
  apply UInt32.toBitVec_inj.mp
  rw [crc32Calculate, UInt32.toBitVec_xor, hloop]
  rfl

namespace StunMessage

/-! ## The attributes that pass -/

/-- The attribute at `off` is not rejected by the switch. -/
structure Passes (msg : StunMessage) (data : Memory) (off : Nat) : Prop where
  username : attrType data off = kAttrUsername →
    UsernameMatches msg data (off + kStunAttributeHeaderSize) (attrLength data off).toNat
  fingerprint : attrType data off = kAttrFingerprint →
    loadUInt32BE (data.shift (off + kStunAttributeHeaderSize)) =
      rfcCrc32 (window data 0 off) ^^^ kFingerprintXor
  role : attrType data off ≠ kAttrIceControlled

section Switch

variable {msg : StunMessage} {st : ParseState} {type len : UInt16}

/-- The two comparisons of a USERNAME, made one after the other. -/
theorem parseValue_username_iff :
    (∃ st', parseValue msg st kAttrUsername len = .ok st') ↔
      UsernameMatches msg st.reader.bytes st.reader.start len.toNat := by
  refine ⟨fun ⟨st', h⟩ => (parseValue_ok h).username rfl, ?_⟩
  rintro ⟨⟨hle, hw⟩, hle', hw'⟩
  simp only [parseValue, if_true]
  rcases startsWith_cases st.reader len.toNat msg.localUfrag with
    ⟨hlt, -⟩ | ⟨-, -, hs⟩ | ⟨-, hne, -⟩
  · omega
  · rw [hs]
    simp only
    rcases endsWith_cases (st.reader.touch st.reader.start msg.localUfrag.length) len.toNat
      msg.remoteUfrag with ⟨hlt, -⟩ | ⟨-, -, hs'⟩ | ⟨-, hne, -⟩
    · omega
    · simp only [hs']
      exact ⟨_, rfl⟩
    · exact absurd hw' hne
  · exact absurd hw hne

theorem parseValue_iff :
    (∃ st', parseValue msg st type len = .ok st') ↔
      (type = kAttrUsername → UsernameMatches msg st.reader.bytes st.reader.start len.toNat) ∧
      (type = kAttrFingerprint → loadUInt32BE st.reader.currentData =
        crc32Calculate (window st.reader.bytes 0 (st.reader.start - kStunAttributeHeaderSize)) ^^^
          kFingerprintXor) ∧
      type ≠ kAttrIceControlled := by
  by_cases hu : type = kAttrUsername
  · subst hu
    rw [parseValue_username_iff]
    have hne : kAttrUsername ≠ kAttrFingerprint := by decide
    have hrole : kAttrUsername ≠ kAttrIceControlled := by decide
    simp only [true_implies, hne, false_implies, hrole, ne_eq, not_false_eq_true, and_true]
  · by_cases hf : type = kAttrFingerprint
    · subst hf
      have hm : kAttrFingerprint ≠ kAttrMessageIntegrity := by decide
      have hrole : kAttrFingerprint ≠ kAttrIceControlled := by decide
      simp only [parseValue, hu, hm, if_false, if_true, false_implies, true_implies, true_and,
        hrole, ne_eq, not_false_eq_true, and_true]
      split
      next h =>
        constructor
        · rintro ⟨_, herror⟩
          cases herror
        · intro hmatch
          exact absurd hmatch h
      next h => exact ⟨fun _ => not_not.mp h, fun _ => ⟨_, rfl⟩⟩
    · simp only [parseValue, hu, hf, if_false, false_implies, true_and]
      by_cases hm : type = kAttrMessageIntegrity
      · subst hm
        exact ⟨fun _ => by decide, fun _ => ⟨_, rfl⟩⟩
      · by_cases hc : type = kAttrUseCandidate
        · subst hc
          exact ⟨fun _ => by decide, fun _ => ⟨_, rfl⟩⟩
        · by_cases hi : type = kAttrIceControlled
          · simp only [if_neg hm, if_neg hc, if_pos hi]
            simp [hi]
          · simp [hm, hc, hi]

/-- A turn stays in the loop when the attribute passes and its padded value
lies in the message. -/
theorem parseAttribute_iff (h : 4 ≤ st.reader.left) :
    (∃ st', parseAttribute msg st = .ok st') ↔
      Passes msg st.reader.bytes st.reader.start ∧
        st.reader.start + kStunAttributeHeaderSize +
          cursorPadded (attrLength st.reader.bytes st.reader.start) ≤ st.reader.end_ := by
  have hpass : (∃ st', parseValue msg (atValue st) st.type st.length = .ok st') ↔
      Passes msg st.reader.bytes st.reader.start := by
    rw [parseValue_iff, crc32Calculate_rfc]
    exact ⟨fun ⟨hu, hf, hr⟩ => ⟨hu, hf, hr⟩, fun hp => ⟨hp.username, hp.fingerprint, hp.role⟩⟩
  rw [parseAttribute_of_header h, ← hpass]
  simp only [ByteReader.left] at h
  cases hv : parseValue msg (atValue st) st.type st.length with
  | error log => simp
  | ok st₁ =>
      have hstep := parseValue_ok hv
      have hstart : st₁.reader.start = st.reader.start + 4 := by rw [hstep.start]; rfl
      have hend : st₁.reader.end_ = st.reader.end_ := by rw [hstep.end_]; rfl
      have hroom : (paddedLength st.length).toNat ≤ st₁.reader.left ↔
          st.reader.start + kStunAttributeHeaderSize +
            cursorPadded (attrLength st.reader.bytes st.reader.start) ≤ st.reader.end_ := by
        simp only [ByteReader.left, hstart, hend, cursorPadded, kStunAttributeHeaderSize,
          ParseState.length]
        omega
      rw [← hroom]
      simp only [Except.ok.injEq, exists_eq', true_and]
      cases hc : st₁.reader.consume (paddedLength st.length).toNat with
      | none =>
          have hno : ¬ (paddedLength st.length).toNat ≤ st₁.reader.left := by
            intro hle
            simp [ByteReader.consume, Nat.not_lt.mpr hle] at hc
          simp [hno]
      | some r₃ =>
          simp only [Except.ok.injEq, exists_eq', true_iff]
          exact (ByteReader.consume_eq_some.mp hc).1

end Switch

/-! ## The loop -/

section Loop

variable {msg : StunMessage} {data : Memory} {size : Nat} {offs : List Nat} {st st' : ParseState}

/-- What a walk from the start of the loop meets has passed. -/
theorem walk_passes (hin : InMessage data size st) (hempty : st.visited = [])
    (hw : Walk msg st st') : ∀ o ∈ st'.visited, Passes msg data o := by
  have hall : InMessage data size st' ∧ ∀ o ∈ st'.visited, Passes msg data o := by
    refine hw.invariant (I := fun t => InMessage data size t ∧
      ∀ o ∈ t.visited, Passes msg data o) ?_ ⟨hin, by simp [hempty]⟩
    rintro t u ⟨ht, hvisited⟩ hturn
    have hstep := parseAttribute_ok hturn.2
    refine ⟨ht.turn hturn, ?_⟩
    intro o ho
    rw [hstep.visited, List.mem_append, List.mem_singleton] at ho
    rcases ho with ho | rfl
    · exact hvisited o ho
    · have hpass := ((parseAttribute_iff hstep.header).mp ⟨u, hturn.2⟩).1
      rwa [ht.bytes] at hpass
  exact hall.2

/-- Attributes that pass, one behind the other up to the end, are walked. -/
theorem walk_of_run {off : Nat}
    (hrun : AttributeRun cursorPadded data size off offs) (hpass : ∀ o ∈ offs, Passes msg data o)
    (hin : InMessage data size st) (hstart : st.reader.start = off) :
    ∃ st', Walk msg st st' ∧ st'.reader.left = 0 ∧ st'.visited = st.visited ++ offs := by
  induction hrun generalizing st with
  | done =>
      refine ⟨st, .refl, ?_, by simp⟩
      rw [ByteReader.left, hin.end_, hstart, Nat.sub_self]
  | @attr off offs hfit _ ih =>
      subst hstart
      have hhead := hpass _ List.mem_cons_self
      have hleft : 4 ≤ st.reader.left := by
        simp only [ByteReader.left, hin.end_, kStunAttributeHeaderSize] at hfit ⊢
        omega
      have hturn := (parseAttribute_iff hleft).mpr
        ⟨hin.bytes.symm ▸ hhead, by rw [hin.bytes, hin.end_]; exact hfit⟩
      obtain ⟨u, hu⟩ := hturn
      have hstep := parseAttribute_ok hu
      have hmore : Turn moreAttributes (parseAttribute msg) st u := by
        refine ⟨?_, hu⟩
        simp only [moreAttributes, decide_eq_true_eq]
        omega
      have hnext : u.reader.start = st.reader.start + kStunAttributeHeaderSize +
          cursorPadded (attrLength data st.reader.start) := by
        rw [hstep.start, ← hin.bytes]
        rfl
      obtain ⟨st', hwalk, hend, hvis⟩ :=
        ih (fun o ho => hpass o (List.mem_cons_of_mem _ ho)) (hin.turn hmore) hnext
      refine ⟨st', .head hmore hwalk, hend, ?_⟩
      rw [hvis, hstep.visited, List.append_assoc]
      rfl

/-- There is only one way to walk a message. -/
theorem AttributeRun.unique {pad : UInt16 → Nat} {off : Nat} {offs' : List Nat}
    (h : AttributeRun pad data size off offs) (h' : AttributeRun pad data size off offs') :
    offs = offs' := by
  induction h generalizing offs' with
  | done =>
      cases h' with
      | done => rfl
      | attr hfit _ =>
          simp only [kStunAttributeHeaderSize] at hfit
          omega
  | attr hfit _ ih =>
      cases h' with
      | done =>
          simp only [kStunAttributeHeaderSize] at hfit
          omega
      | attr _ hrest => rw [ih hrest]

/-- The attributes at `offs` make up the message behind its header, and each
of them passes. -/
structure PassingRun (msg : StunMessage) (data : Memory) (size : Nat) (offs : List Nat) :
    Prop where
  header : HeaderOk data size
  run : AttributeRun cursorPadded data size kStunHeaderSize offs
  passes : ∀ o ∈ offs, Passes msg data o

/-- The loop comes to its end over exactly the attributes of a passing run. -/
theorem parseAttributes_iff (hh : HeaderOk data size) :
    (∃ st, parseAttributes msg (startState msg data size) = .ok st ∧ st.visited = offs) ↔
      PassingRun msg data size offs := by
  have hin := startState_inMessage msg hh
  constructor
  · rintro ⟨st, hloop, rfl⟩
    obtain ⟨hwalk, hleft⟩ := (parseAttributes_eq_ok hin).mp hloop
    obtain ⟨offs, hvis, hrun⟩ := walk_attributeRun hin hwalk hleft
    obtain rfl : st.visited = offs := by
      rw [hvis]
      rfl
    exact ⟨hh, hrun, walk_passes hin rfl hwalk⟩
  · intro h
    obtain ⟨st, hwalk, hleft, hvis⟩ := walk_of_run h.run h.passes hin rfl
    refine ⟨st, (parseAttributes_eq_ok hin).mpr ⟨hwalk, hleft⟩, ?_⟩
    rw [hvis]
    rfl

/-- The flags at the end of a passing run are those of its attributes. -/
theorem PassingRun.tracked (h : PassingRun msg data size offs) :
    ∃ st, parseAttributes msg (startState msg data size) = .ok st ∧ st.visited = offs ∧
      Tracked msg data st := by
  obtain ⟨st, hloop, hvis⟩ := (parseAttributes_iff h.header).mpr h
  have hwalk := ((parseAttributes_eq_ok (startState_inMessage msg h.header)).mp hloop).1
  exact ⟨st, hloop, hvis, (Reaches.tracked ⟨h.header, hwalk⟩).2⟩

end Loop

end StunMessage

end WebrtcServer
