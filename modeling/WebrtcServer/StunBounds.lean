/-
# `StunBounds` — which bytes `StunMessage::Parse` reads

The reads through `ByteReader` are bounds-checked.  Three are not: the two
comparisons of a USERNAME, the load of a FINGERPRINT and, after the loop,
the 20 bytes of MESSAGE-INTEGRITY go through raw pointers, and the
`Consume` that compares the announced length with what is left comes after
them.  `InBounds` says when these three stay inside all the same; nothing
else can leave the message.
-/
import WebrtcServer.StunWalk

namespace WebrtcServer.StunMessage

open Lib

/-- The raw reads of `Parse` stay inside a message of `size` bytes: each
USERNAME that the cursor comes to is cut off by its announced length before
it is compared, or holds the bytes compared; each FINGERPRINT has its four
bytes; and once the cursor has taken the whole message the last
MESSAGE-INTEGRITY has its twenty. -/
structure InBounds (msg : StunMessage) (data : Memory) (size : Nat) : Prop where
  values : ∀ st, Reaches msg data size st → 4 ≤ st.reader.left →
    ValueWithin msg data size (st.reader.start + 4) st.type st.length
  integrity : ∀ st start, Reaches msg data size st → st.reader.left = 0 →
    st.messageIntegrityStart = some start →
    start + kStunAttributeHeaderSize + kSha1ResultLength ≤ size

section Bounds

variable {hmac : HmacSha1} {msg : StunMessage} {data : Memory} {size : Nat}

theorem startState_touched_within (h : HeaderOk data size) :
    AllWithin size (startState msg data size).reader.touched := by
  have h20 : 20 ≤ size := h.size
  have htouched : (startState msg data size).reader.touched =
      [(0, 2)] ++ [(2, 2)] ++ [(4, 4)] ++ [(8, kStunTransactionIdLength)] := rfl
  simp only [htouched, allWithin_append, allWithin_singleton, Span.within_iff,
    kStunTransactionIdLength]
  omega

/-- The log of the comparison after the loop. -/
theorem checkMessageIntegrity_touched (st : ParseState) (start : Nat) :
    (checkMessageIntegrity hmac msg data size st start).touched =
      st.reader.touched ++
        [(0, start), (start + kStunAttributeHeaderSize, kSha1ResultLength)] := by
  simp only [checkMessageIntegrity]
  split <;> rfl

/-- A MESSAGE-INTEGRITY attribute was met at a cursor inside the message. -/
theorem integrity_start_le {st st' : ParseState} (hs : InMessage data size st)
    (hnone : st.messageIntegrityStart = none) (hw : Walk msg st st') {start : Nat}
    (hstart : st'.messageIntegrityStart = some start) : start ≤ size := by
  have hinv : InMessage data size st' ∧
      ∀ m, st'.messageIntegrityStart = some m → m ≤ size := by
    refine hw.invariant (I := fun t => InMessage data size t ∧
      ∀ m, t.messageIntegrityStart = some m → m ≤ size) ?_ ⟨hs, by simp [hnone]⟩
    rintro t u ⟨ht, hm⟩ hturn
    refine ⟨ht.turn hturn, ?_⟩
    intro m hm'
    rw [(parseAttribute_ok hturn.2).integrity] at hm'
    split at hm'
    · obtain rfl := Option.some.inj hm'
      exact ht.start
    · exact hm m hm'
  exact hinv.2 start hstart

variable (msg) in
/-- The loop reads nothing outside the message exactly when it does so in
no turn. -/
theorem parseAttributes_touched_within_iff (hh : HeaderOk data size) :
    AllWithin size (logOf (parseAttributes msg (startState msg data size))) ↔
      ∀ st, Reaches msg data size st → 4 ≤ st.reader.left →
        ValueWithin msg data size (st.reader.start + 4) st.type st.length := by
  rw [parseAttributes_within msg (startState_inMessage msg hh)]
  constructor
  · rintro ⟨-, hall⟩ st hst
    exact hall st hst.2
  · intro hall
    exact ⟨startState_touched_within hh, fun st hst => hall st ⟨hh, hst⟩⟩

/-- The loop takes the whole message in one state at most. -/
theorem parseAttributes_of_end {st : ParseState} (hst : Reaches msg data size st)
    (hleft : st.reader.left = 0) :
    parseAttributes msg (startState msg data size) = .ok st :=
  (parseAttributes_eq_ok (startState_inMessage msg hst.1)).mpr ⟨hst.2, hleft⟩

/-- The comparison after the loop adds the twenty bytes. -/
theorem checkMessageIntegrity_within_iff {st : ParseState} {start : Nat} (hle : start ≤ size) :
    AllWithin size (checkMessageIntegrity hmac msg data size st start).touched ↔
      AllWithin size st.reader.touched ∧
        start + kStunAttributeHeaderSize + kSha1ResultLength ≤ size := by
  rw [checkMessageIntegrity_touched, allWithin_append]
  refine and_congr_right ?_
  intro _
  simp only [AllWithin, List.mem_cons, List.not_mem_nil, or_false, forall_eq_or_imp, forall_eq,
    Span.within_iff, kSha1ResultLength]
  omega

/-- `Parse` reads no byte outside the message exactly when it is in bounds. -/
theorem parse_touched_within_iff (hmac : HmacSha1) (msg : StunMessage) (data : Memory)
    (size : Nat) :
    AllWithin size (parse hmac msg data size).touched ↔ InBounds msg data size := by
  by_cases hh : HeaderOk data size
  · have hlog := parseAttributes_touched_within_iff msg hh
    cases hl : parseAttributes msg (startState msg data size) with
    | error log =>
        rw [hl] at hlog
        rw [parse_of_rejected hh hl]
        refine hlog.trans ⟨fun h => ⟨h, ?_⟩, fun h => h.values⟩
        -- a loop that rejects never takes the whole message
        intro st start hst hleft
        have hend := parseAttributes_of_end hst hleft
        rw [hl] at hend
        cases hend
    | ok st =>
        rw [hl] at hlog
        have hwalk := (parseAttributes_eq_ok (startState_inMessage msg hh)).mp hl
        have hunique : ∀ t, Reaches msg data size t → t.reader.left = 0 → t = st := by
          intro t ht hleft
          have hend := parseAttributes_of_end ht hleft
          rw [hl] at hend
          exact (Except.ok.inj hend).symm
        rw [parse_of_loop hh hl]
        cases hm : st.messageIntegrityStart with
        | none =>
            refine hlog.trans ⟨fun h => ⟨h, ?_⟩, fun h => h.values⟩
            intro t start ht hleft hstart
            rw [hunique t ht hleft, hm] at hstart
            cases hstart
        | some start =>
            have hle := integrity_start_le (startState_inMessage msg hh) rfl hwalk.1 hm
            refine (checkMessageIntegrity_within_iff hle).trans ?_
            constructor
            · rintro ⟨hv, hi⟩
              refine ⟨hlog.mp hv, ?_⟩
              intro t m ht hleft hstart
              rw [hunique t ht hleft, hm] at hstart
              obtain rfl := Option.some.inj hstart
              exact hi
            · intro h
              exact ⟨hlog.mpr h.values, h.integrity st start ⟨hh, hwalk.1⟩ hwalk.2 hm⟩
  · obtain ⟨log, hwithin, hparse⟩ := parse_of_bad_header hmac msg hh
    rw [hparse]
    exact ⟨fun _ => ⟨fun _ h => absurd h.1 hh, fun _ _ h => absurd h.1 hh⟩, fun _ => hwithin⟩

end Bounds

/-- A binding request that ends with the header of a USERNAME attribute. -/
def bareUsername : List UInt8 :=
  [0x00, 0x01, 0x00, 0x04, 0x21, 0x12, 0xA4, 0x42, 1, 2, 3, 4, 5, 6, 7, 8, 9, 10, 11, 12,
   0x00, 0x06, 0x00, 0x09]

/-- The prefix comparison reads four bytes behind `bareUsername`. -/
theorem bareUsername_read_outside :
    ¬ AllWithin bareUsername.length
      (parse (fun _ _ => Vector.replicate 20 0)
        (StunMessage.new [0x61, 0x62, 0x63, 0x64] [0x70] [0x65, 0x66, 0x67, 0x68])
        (Memory.ofList bareUsername) bareUsername.length).touched := by
  decide

end WebrtcServer.StunMessage
