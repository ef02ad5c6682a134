/-
# `StunWalk` — what the attribute loop of `StunMessage::Parse` does

One turn of the loop reads a header, looks at the value and moves the
cursor past the padded length.  `parseAttribute_eq_ok` says so once, and
the facts about whole messages follow from it: how the cursor moves, what
the flags stand for, and what a message that `Parse` accepts has been
checked for.
-/
import WebrtcServer.StunMessage

namespace WebrtcServer.StunMessage

open Lib

/-! ## The attribute at an offset -/

def attrType (data : Memory) (off : Nat) : UInt16 := loadUInt16BE (data.shift off)

def attrLength (data : Memory) (off : Nat) : UInt16 := loadUInt16BE (data.shift (off + 2))

/-- The value, over the announced length. -/
def attrValue (data : Memory) (off : Nat) : List UInt8 :=
  window data (off + kStunAttributeHeaderSize) (attrLength data off).toNat

/-- The reader after a header of four bytes. -/
def afterHeader (r : ByteReader) : ByteReader := (r.take 2).take 2

/-- The state in which the value of the attribute at the cursor is parsed. -/
def atValue (st : ParseState) : ParseState :=
  { st with reader := afterHeader st.reader, visited := st.visited ++ [st.reader.start] }

/-! ## The value of one attribute -/

/-- The two comparisons that a USERNAME value has to pass. -/
def UsernameMatches (msg : StunMessage) (data : Memory) (pos len : Nat) : Prop :=
  (msg.localUfrag.length ≤ len ∧ window data pos msg.localUfrag.length = msg.localUfrag) ∧
    msg.remoteUfrag.length ≤ len ∧
      window data (pos + len - msg.remoteUfrag.length) msg.remoteUfrag.length = msg.remoteUfrag

/-- What a switch that does not reject changes. -/
structure ValueStep (msg : StunMessage) (st : ParseState) (type len : UInt16)
    (st' : ParseState) : Prop where
  bytes : st'.reader.bytes = st.reader.bytes
  start : st'.reader.start = st.reader.start
  end_ : st'.reader.end_ = st.reader.end_
  visited : st'.visited = st.visited
  username : type = kAttrUsername →
    UsernameMatches msg st.reader.bytes st.reader.start len.toNat
  integrity : st'.messageIntegrityStart =
    if type = kAttrMessageIntegrity then some (st.reader.start - kStunAttributeHeaderSize)
    else st.messageIntegrityStart
  fingerprint : st'.hasFingerprint = (decide (type = kAttrFingerprint) || st.hasFingerprint)
  useCandidate : st'.hasUseCandidate = (decide (type = kAttrUseCandidate) || st.hasUseCandidate)

/-- The bytes that the switch reads through raw pointers lie in a message of
`size` bytes, with the value at `pos`. -/
def ValueWithin (msg : StunMessage) (data : Memory) (size pos : Nat) (type len : UInt16) : Prop :=
  (type = kAttrUsername → msg.localUfrag.length ≤ len.toNat →
    pos + msg.localUfrag.length ≤ size ∧
      (window data pos msg.localUfrag.length = msg.localUfrag →
        msg.remoteUfrag.length ≤ len.toNat → msg.remoteUfrag = [] ∨ pos + len.toNat ≤ size)) ∧
  (type = kAttrFingerprint → pos + 4 ≤ size)

/-- A comparison is over on the lengths, or it reads `x.size()` bytes. -/
theorem startsWith_cases (r : ByteReader) (len : Nat) (x : ByteString) :
    (len < x.length ∧ startsWith r len x = (false, r)) ∨
    (x.length ≤ len ∧ window r.bytes r.start x.length = x ∧
      startsWith r len x = (true, r.touch r.start x.length)) ∨
    (x.length ≤ len ∧ window r.bytes r.start x.length ≠ x ∧
      startsWith r len x = (false, r.touch r.start x.length)) := by
  unfold startsWith
  by_cases h : len < x.length
  · exact Or.inl ⟨h, if_pos h⟩
  · by_cases hw : window r.bytes r.start x.length = x
    · exact Or.inr (Or.inl ⟨by omega, hw, by simp [h, hw]⟩)
    · exact Or.inr (Or.inr ⟨by omega, hw, by simp [h, hw]⟩)

theorem endsWith_cases (r : ByteReader) (len : Nat) (x : ByteString) :
    (len < x.length ∧ endsWith r len x = (false, r)) ∨
    (x.length ≤ len ∧ window r.bytes (r.start + len - x.length) x.length = x ∧
      endsWith r len x = (true, r.touch (r.start + len - x.length) x.length)) ∨
    (x.length ≤ len ∧ window r.bytes (r.start + len - x.length) x.length ≠ x ∧
      endsWith r len x = (false, r.touch (r.start + len - x.length) x.length)) := by
  unfold endsWith
  by_cases h : len < x.length
  · exact Or.inl ⟨h, if_pos h⟩
  · by_cases hw : window r.bytes (r.start + len - x.length) x.length = x
    · exact Or.inr (Or.inl ⟨by omega, hw, by simp [h, hw]⟩)
    · exact Or.inr (Or.inr ⟨by omega, hw, by simp [h, hw]⟩)

section Value

variable {msg : StunMessage} {st st' : ParseState} {type len : UInt16} {size : Nat}

theorem parseValue_ok (h : parseValue msg st type len = .ok st') :
    ValueStep msg st type len st' := by
  unfold parseValue at h
  by_cases hu : type = kAttrUsername
  · subst hu
    simp only [if_true] at h
    rcases startsWith_cases st.reader len.toNat msg.localUfrag with
      ⟨-, hs⟩ | ⟨hle, hw, hs⟩ | ⟨-, -, hs⟩
    · simp [hs] at h
    · rw [hs] at h
      simp only at h
      rcases endsWith_cases (st.reader.touch st.reader.start msg.localUfrag.length) len.toNat
        msg.remoteUfrag with ⟨-, hs'⟩ | ⟨hle', hw', hs'⟩ | ⟨-, -, hs'⟩
      · simp [hs'] at h
      · simp only [hs', Except.ok.injEq] at h
        subst h
        exact ⟨rfl, rfl, rfl, rfl, fun _ => ⟨⟨hle, hw⟩, hle', hw'⟩, rfl, rfl, rfl⟩
      · simp [hs'] at h
    · simp [hs] at h
  · rw [if_neg hu] at h
    by_cases hm : type = kAttrMessageIntegrity
    · subst hm
      simp only [if_true, Except.ok.injEq] at h
      subst h
      exact ⟨rfl, rfl, rfl, rfl, fun h => absurd h hu, rfl, rfl, rfl⟩
    · rw [if_neg hm] at h
      by_cases hf : type = kAttrFingerprint
      · subst hf
        simp only [if_true] at h
        split at h
        · simp at h
        · simp only [Except.ok.injEq] at h
          subst h
          exact ⟨rfl, rfl, rfl, rfl, fun h => absurd h hu, rfl, rfl, rfl⟩
      · rw [if_neg hf] at h
        by_cases hc : type = kAttrUseCandidate
        · subst hc
          simp only [if_true, Except.ok.injEq] at h
          subst h
          exact ⟨rfl, rfl, rfl, rfl, fun h => absurd h hu, rfl, rfl, rfl⟩
        · rw [if_neg hc] at h
          by_cases hi : type = kAttrIceControlled
          · simp [hi] at h
          · rw [if_neg hi] at h
            simp only [Except.ok.injEq] at h
            subst h
            exact ⟨rfl, rfl, rfl, rfl, fun h => absurd h hu, by rw [if_neg hm],
              by simp [hf], by simp [hc]⟩

/-- The log of a switch, whether or not it rejects. -/
def logOf : Except (List Span) ParseState → List Span
  | .ok st => st.reader.touched
  | .error log => log

theorem allWithin_logOf {size : Nat} {r : Except (List Span) ParseState} :
    AllWithin size (logOf r) ↔
      Leaves (fun st => AllWithin size st.reader.touched) (AllWithin size) r := by
  cases r <;> rfl

/-- A FINGERPRINT adds its own four bytes and the text before it to the log. -/
theorem parseValue_fingerprint_log :
    logOf (parseValue msg st kAttrFingerprint len) =
      st.reader.touched ++ [(st.reader.start, 4)] ++
        [(0, st.reader.start - kStunAttributeHeaderSize)] := by
  have hne₁ : kAttrFingerprint ≠ kAttrUsername := by decide
  have hne₂ : kAttrFingerprint ≠ kAttrMessageIntegrity := by decide
  simp only [parseValue, if_neg hne₁, if_neg hne₂, if_true]
  split <;> rfl

/-- Types other than USERNAME and FINGERPRINT read nothing. -/
theorem parseValue_other_log (hu : type ≠ kAttrUsername) (hf : type ≠ kAttrFingerprint) :
    logOf (parseValue msg st type len) = st.reader.touched := by
  simp only [parseValue, if_neg hu, if_neg hf]
  split
  · rfl
  · split
    · rfl
    · split <;> rfl

theorem parseValue_username_within (hpos : st.reader.start ≤ size) :
    AllWithin size (logOf (parseValue msg st kAttrUsername len)) ↔
      AllWithin size st.reader.touched ∧
        ValueWithin msg st.reader.bytes size st.reader.start kAttrUsername len := by
  have hnf : kAttrUsername ≠ kAttrFingerprint := by decide
  simp only [parseValue, ValueWithin, if_true, hnf, false_implies, and_true, true_implies]
  -- the first comparison reads `local_ufrag_.size()` bytes, wherever the message ends
  have hspan : AllWithin size (st.reader.touched ++ [(st.reader.start, msg.localUfrag.length)]) ↔
      AllWithin size st.reader.touched ∧ st.reader.start + msg.localUfrag.length ≤ size := by
    rw [allWithin_append, allWithin_singleton, Span.within_iff]
    refine and_congr_right fun _ => ⟨?_, Or.inr⟩
    rintro (h | h)
    · simp only at h
      omega
    · exact h
  have hspan' (hle : msg.remoteUfrag.length ≤ len.toNat) :
      AllWithin size (st.reader.touched ++ [(st.reader.start, msg.localUfrag.length)] ++
        [(st.reader.start + len.toNat - msg.remoteUfrag.length, msg.remoteUfrag.length)]) ↔
      (AllWithin size st.reader.touched ∧ st.reader.start + msg.localUfrag.length ≤ size) ∧
        (msg.remoteUfrag = [] ∨ st.reader.start + len.toNat ≤ size) := by
    rw [allWithin_append, hspan, allWithin_singleton, Span.within_iff]
    refine and_congr_right ?_
    intro _
    simp only [List.length_eq_zero_iff]
    refine or_congr_right ?_
    omega
  rcases startsWith_cases st.reader len.toNat msg.localUfrag with
    ⟨hlt, hs⟩ | ⟨hle, hw, hs⟩ | ⟨hle, hw, hs⟩
  · have hno : ¬ msg.localUfrag.length ≤ len.toNat := by omega
    simp [hs, logOf, hno]
  · simp only [hs, hw, hle, true_implies]
    rcases endsWith_cases (st.reader.touch st.reader.start msg.localUfrag.length) len.toNat
      msg.remoteUfrag with ⟨hlt, hs'⟩ | ⟨hle', -, hs'⟩ | ⟨hle', -, hs'⟩
    · have hno : ¬ msg.remoteUfrag.length ≤ len.toNat := by omega
      simp only [hs', logOf, ByteReader.touch_touched, hspan, hno, false_implies, and_true]
    · simp only [hs', logOf, ByteReader.touch_touched, ByteReader.touch_start, hspan' hle', hle',
        true_implies, and_assoc]
    · simp only [hs', logOf, ByteReader.touch_touched, ByteReader.touch_start, hspan' hle', hle',
        true_implies, and_assoc]
  · simp only [hs, logOf, ByteReader.touch_touched, hspan, hle, hw, true_implies, false_implies,
      and_true]

variable (msg type len) in
/-- The switch reads inside the message exactly when its value does. -/
theorem parseValue_within (hpos : st.reader.start ≤ size) :
    AllWithin size (logOf (parseValue msg st type len)) ↔
      AllWithin size st.reader.touched ∧
        ValueWithin msg st.reader.bytes size st.reader.start type len := by
  by_cases hu : type = kAttrUsername
  · subst hu
    exact parseValue_username_within hpos
  · by_cases hf : type = kAttrFingerprint
    · subst hf
      rw [parseValue_fingerprint_log]
      simp only [allWithin_append, allWithin_singleton, Span.within_iff, ValueWithin, hu,
        false_implies, true_and, true_implies, and_assoc]
      refine and_congr_right ?_
      intro _
      omega
    · simp [parseValue_other_log hu hf, ValueWithin, hu, hf]

end Value

/-! ## One turn of the loop -/

section Turn

variable {msg : StunMessage} {st st' : ParseState} {data : Memory} {size : Nat}

/-- The type and the length that a turn reads at the cursor. -/
abbrev ParseState.type (st : ParseState) : UInt16 := attrType st.reader.bytes st.reader.start
abbrev ParseState.length (st : ParseState) : UInt16 := attrLength st.reader.bytes st.reader.start

/-- With a whole header left, a turn is its switch and the `Consume`. -/
theorem parseAttribute_of_header (h : 4 ≤ st.reader.left) :
    parseAttribute msg st =
      match parseValue msg (atValue st) st.type st.length with
      | .error log => .error log
      | .ok st₁ =>
          match st₁.reader.consume (paddedLength st.length).toNat with
          | none => .error st₁.reader.touched
          | some r₃ => .ok { st₁ with reader := r₃ } := by
  have h₁ : st.reader.readUInt16 = some (st.type, st.reader.take 2) :=
    ByteReader.readUInt16_eq_some.mpr ⟨by omega, rfl, rfl⟩
  have hleft : 2 ≤ (st.reader.take 2).left := by
    simp only [ByteReader.left, ByteReader.take_start, ByteReader.take_end] at h ⊢
    omega
  have h₂ : (st.reader.take 2).readUInt16 = some (st.length, afterHeader st.reader) :=
    ByteReader.readUInt16_eq_some.mpr ⟨hleft, rfl, rfl⟩
  simp only [parseAttribute, h₁, h₂]
  rfl

variable (msg) in
/-- With less than a header left, a turn rejects and has read what is there. -/
theorem parseAttribute_of_short (h : st.reader.left < 4) :
    ∃ log, parseAttribute msg st = .error log ∧
      (log = st.reader.touched ∨ 2 ≤ st.reader.left ∧ log = (st.reader.take 2).touched) := by
  by_cases h₂ : st.reader.left < 2
  · exact ⟨_, by simp [parseAttribute, ByteReader.readUInt16, h₂], Or.inl rfl⟩
  · have h₁ : st.reader.readUInt16 = some (st.type, st.reader.take 2) :=
      ByteReader.readUInt16_eq_some.mpr ⟨by omega, rfl, rfl⟩
    have hleft : (st.reader.take 2).left < 2 := by
      simp only [ByteReader.left, ByteReader.take_start, ByteReader.take_end] at h ⊢
      omega
    have h₂' : (st.reader.take 2).readUInt16 = none := if_pos hleft
    exact ⟨_, by simp only [parseAttribute, h₁, h₂'], Or.inr ⟨by omega, rfl⟩⟩

/-- What a turn that stays in the loop does. -/
structure TurnStep (msg : StunMessage) (st st' : ParseState) : Prop where
  header : 4 ≤ st.reader.left
  bytes : st'.reader.bytes = st.reader.bytes
  end_ : st'.reader.end_ = st.reader.end_
  start : st'.reader.start = st.reader.start + 4 + (paddedLength st.length).toNat
  fits : st.reader.start + 4 + (paddedLength st.length).toNat ≤ st.reader.end_
  visited : st'.visited = st.visited ++ [st.reader.start]
  username : st.type = kAttrUsername →
    UsernameMatches msg st.reader.bytes (st.reader.start + 4) st.length.toNat
  integrity : st'.messageIntegrityStart =
    if st.type = kAttrMessageIntegrity then some st.reader.start else st.messageIntegrityStart
  fingerprint : st'.hasFingerprint = (decide (st.type = kAttrFingerprint) || st.hasFingerprint)
  useCandidate : st'.hasUseCandidate =
    (decide (st.type = kAttrUseCandidate) || st.hasUseCandidate)

theorem parseAttribute_ok (h : parseAttribute msg st = .ok st') : TurnStep msg st st' := by
  by_cases hshort : st.reader.left < 4
  · obtain ⟨log, herr, -⟩ := parseAttribute_of_short msg hshort
    rw [herr] at h
    exact absurd h (by simp)
  · have hheader : 4 ≤ st.reader.left := by omega
    rw [parseAttribute_of_header hheader] at h
    cases hv : parseValue msg (atValue st) st.type st.length with
    | error log => simp [hv] at h
    | ok st₁ =>
        have hstep := parseValue_ok hv
        have hstart : st₁.reader.start = st.reader.start + 4 := by rw [hstep.start]; rfl
        have hend : st₁.reader.end_ = st.reader.end_ := by rw [hstep.end_]; rfl
        simp only [hv] at h
        cases hc : st₁.reader.consume (paddedLength st.length).toNat with
        | none => simp [hc] at h
        | some r₃ =>
            obtain ⟨hroom, rfl⟩ := ByteReader.consume_eq_some.mp hc
            simp only [hc, Except.ok.injEq] at h
            subst h
            simp only [ByteReader.left] at hroom hheader
            refine ⟨by simpa only [ByteReader.left] using hheader, ?_, hend, ?_, ?_, ?_, ?_, ?_, ?_, ?_⟩
            · exact hstep.bytes
            · simp only [hstart]
            · omega
            · exact hstep.visited
            · exact hstep.username
            · exact hstep.integrity
            · exact hstep.fingerprint
            · exact hstep.useCandidate

variable (msg) in
/-- A turn reads inside the message exactly when the value it comes to does. -/
theorem parseAttribute_within (hend : st.reader.end_ = size) (hstart : st.reader.start ≤ size) :
    AllWithin size (logOf (parseAttribute msg st)) ↔
      AllWithin size st.reader.touched ∧ (4 ≤ st.reader.left →
        ValueWithin msg st.reader.bytes size (st.reader.start + 4) st.type st.length) := by
  by_cases hshort : st.reader.left < 4
  · have hno : ¬ 4 ≤ st.reader.left := by omega
    simp only [hno, false_implies, and_true]
    obtain ⟨log, herr, hlog⟩ := parseAttribute_of_short msg hshort
    rw [herr]
    rcases hlog with rfl | ⟨h2, rfl⟩
    · rfl
    · simp only [ByteReader.left] at h2
      simp only [logOf, ByteReader.take, allWithin_append, allWithin_singleton, Span.within_iff]
      exact and_iff_left (Or.inr (by omega))
  · have hheader : 4 ≤ st.reader.left := by omega
    have hleft := hheader
    simp only [ByteReader.left] at hleft
    have htouched :
        AllWithin size (atValue st).reader.touched ↔ AllWithin size st.reader.touched := by
      simp only [atValue, afterHeader, ByteReader.take, allWithin_append, allWithin_singleton,
        Span.within_iff]
      rw [and_assoc]
      exact and_iff_left ⟨Or.inr (by omega), Or.inr (by omega)⟩
    have hvalue := parseValue_within msg st.type st.length
      (show (atValue st).reader.start ≤ size by
        simp only [atValue, afterHeader, ByteReader.take_start]
        omega)
    rw [htouched] at hvalue
    simp only [hheader, true_implies]
    rw [parseAttribute_of_header hheader]
    -- the `Consume` after the switch reads nothing
    have hsame : logOf (match parseValue msg (atValue st) st.type st.length with
        | .error log => .error log
        | .ok st₁ =>
            match st₁.reader.consume (paddedLength st.length).toNat with
            | none => .error st₁.reader.touched
            | some r₃ => .ok { st₁ with reader := r₃ }) =
        logOf (parseValue msg (atValue st) st.type st.length) := by
      cases parseValue msg (atValue st) st.type st.length with
      | error log => rfl
      | ok st₁ =>
          simp only
          cases hc : st₁.reader.consume (paddedLength st.length).toNat with
          | none => rfl
          | some r₃ =>
              obtain ⟨-, rfl⟩ := ByteReader.consume_eq_some.mp hc
              rfl
    rw [hsame]
    exact hvalue

end Turn

/-! ## The loop -/

/-- The loop's cursor stands inside the message. -/
structure InMessage (data : Memory) (size : Nat) (st : ParseState) : Prop where
  bytes : st.reader.bytes = data
  end_ : st.reader.end_ = size
  start : st.reader.start ≤ size

section Loop

variable {msg : StunMessage} {st st' : ParseState} {data : Memory} {size : Nat}

/-- The states in which the loop comes to its head. -/
abbrev Walk (msg : StunMessage) : ParseState → ParseState → Prop :=
  Turns moreAttributes (parseAttribute msg)

theorem InMessage.turn (h : InMessage data size st)
    (ht : Turn moreAttributes (parseAttribute msg) st st') : InMessage data size st' := by
  have hstep := parseAttribute_ok ht.2
  refine ⟨hstep.bytes.trans h.bytes, hstep.end_.trans h.end_, ?_⟩
  rw [hstep.start, ← h.end_]
  exact hstep.fits

theorem InMessage.walk (h : InMessage data size st) (hw : Walk msg st st') :
    InMessage data size st' :=
  hw.invariant (fun _ _ hs ht => hs.turn ht) h

/-- Every turn takes at least four bytes. -/
theorem loop_bounded : Bounded moreAttributes (parseAttribute msg) (InMessage data size)
    (fun st => st.reader.left) where
  pos _ _ hm := by simpa [moreAttributes] using hm
  next s t hs ht := by
    refine ⟨hs.turn ht, ?_⟩
    have hstep := parseAttribute_ok ht.2
    have := hstep.header
    simp only [ByteReader.left, hstep.start, hstep.end_] at this ⊢
    omega

/-- The loop ends where the cursor has taken the whole message. -/
theorem parseAttributes_eq_ok (h : InMessage data size st) :
    parseAttributes msg st = .ok st' ↔ Walk msg st st' ∧ st'.reader.left = 0 := by
  rw [parseAttributes, whileLoop_eq_ok_iff loop_bounded h (Nat.le_refl _)]
  simp [moreAttributes]

variable (msg) in
theorem parseAttributes_within (h : InMessage data size st) :
    AllWithin size (logOf (parseAttributes msg st)) ↔
      AllWithin size st.reader.touched ∧ ∀ t, Walk msg st t → 4 ≤ t.reader.left →
        ValueWithin msg data size (t.reader.start + 4) t.type t.length := by
  have hok (s t : ParseState) (hs : InMessage data size s) (_ : moreAttributes s = true)
      (hb : parseAttribute msg s = .ok t) :=
    hb ▸ parseAttribute_within msg hs.end_ hs.start
  have herr (s : ParseState) (e : List Span) (hs : InMessage data size s)
      (_ : moreAttributes s = true) (hb : parseAttribute msg s = .error e) :=
    hb ▸ parseAttribute_within msg hs.end_ hs.start
  have hiff := whileLoop_iff loop_bounded hok herr h (Nat.le_refl _)
  rw [allWithin_logOf, parseAttributes]
  refine hiff.trans (and_congr_right fun _ => forall_congr' ?_)
  intro t
  constructor
  · intro hS ht h4
    rw [← (h.walk ht).bytes]
    exact hS ht (by simp only [moreAttributes, decide_eq_true_eq]; omega) h4
  · intro hS ht _ h4
    rw [(h.walk ht).bytes]
    exact hS ht h4

end Loop

/-! ## The whole message -/

/-- The header is there and carries the magic cookie. -/
structure HeaderOk (data : Memory) (size : Nat) : Prop where
  size : kStunHeaderSize ≤ size
  cookie : loadUInt32BE (data.shift 4) = kStunMagicCookie

/-- The reader behind the header. -/
def bodyReader (data : Memory) (size : Nat) : ByteReader :=
  ⟨data, kStunHeaderSize, size, [(0, 2), (2, 2), (4, 4), (8, kStunTransactionIdLength)]⟩

/-- The state in which `Parse` comes to its loop. -/
def startState (msg : StunMessage) (data : Memory) (size : Nat) : ParseState :=
  initialState msg (bodyReader data size)

/-- `Parse` comes to the head of its loop in `st`. -/
def Reaches (msg : StunMessage) (data : Memory) (size : Nat) (st : ParseState) : Prop :=
  HeaderOk data size ∧ Walk msg (startState msg data size) st

section Message

variable {hmac : HmacSha1} {msg : StunMessage} {data : Memory} {size : Nat}

theorem parseHeader_of_ok (h : HeaderOk data size) :
    parseHeader data size =
      .ok (window data 8 kStunTransactionIdLength, bodyReader data size) := by
  have h20 : 20 ≤ size := h.size
  have hc := h.cookie
  have h₁ : ¬ size < 2 := by omega
  have h₂ : ¬ size - 2 < 2 := by omega
  have h₃ : ¬ size - 4 < 4 := by omega
  have h₄ : ¬ size - 8 < kStunTransactionIdLength := by simp only [kStunTransactionIdLength]; omega
  simp only [parseHeader, ByteReader.readUInt16, ByteReader.readUInt32, ByteReader.readBytes,
    ByteReader.left, ByteReader.take, ByteReader.currentData, ByteReader.ofData, Nat.sub_zero,
    Nat.zero_add, Nat.reduceAdd, h₁, h₂, h₃, h₄, if_false, hc, ne_eq, not_true_eq_false]
  rfl

/-- A message that is rejected before the loop has been read inside. -/
theorem parseHeader_of_not_ok (h : ¬ HeaderOk data size) :
    ∃ log, parseHeader data size = .error log ∧ AllWithin size log := by
  simp only [parseHeader, ByteReader.readUInt16, ByteReader.readUInt32, ByteReader.readBytes,
    ByteReader.left, ByteReader.take, ByteReader.currentData, ByteReader.ofData, Nat.sub_zero,
    Nat.zero_add, List.nil_append]
  by_cases h₁ : size < 2
  · exact ⟨[], by simp [h₁], by simp⟩
  · by_cases h₂ : size - 2 < 2
    · refine ⟨[(0, 2)], by simp only [h₁, h₂, if_true, if_false], ?_⟩
      simp only [allWithin_singleton, Span.within_iff]
      omega
    · by_cases h₃ : size - 4 < 4
      · refine ⟨[(0, 2)] ++ [(2, 2)], by simp only [h₁, h₂, h₃, if_true, if_false], ?_⟩
        simp only [allWithin_append, allWithin_singleton, Span.within_iff]
        omega
      · by_cases hc : loadUInt32BE (data.shift 4) = kStunMagicCookie
        · have h₄ : size - 8 < kStunTransactionIdLength := by
            by_contra hlt
            refine h ⟨?_, hc⟩
            simp only [kStunHeaderSize, kStunTransactionIdLength] at hlt ⊢
            omega
          refine ⟨[(0, 2)] ++ [(2, 2)] ++ [(4, 4)], by simp only [h₁, h₂, h₃, h₄, hc, if_true,
            if_false, ne_eq, not_true_eq_false, Nat.reduceAdd], ?_⟩
          simp only [allWithin_append, allWithin_singleton, Span.within_iff]
          omega
        · refine ⟨[(0, 2)] ++ [(2, 2)] ++ [(4, 4)], by simp only [h₁, h₂, h₃, hc, if_true,
            if_false, ne_eq, not_false_eq_true, Nat.reduceAdd], ?_⟩
          simp only [allWithin_append, allWithin_singleton, Span.within_iff]
          omega

variable (msg) in
theorem startState_inMessage (h : HeaderOk data size) :
    InMessage data size (startState msg data size) :=
  ⟨rfl, rfl, h.size⟩

/-- `msg_` after a whole message with the flags of `st`. -/
def parsedMessage (msg : StunMessage) (data : Memory) (st : ParseState) : StunMessage :=
  { msg with
    transactionId := msg.transactionId ++ window data 8 kStunTransactionIdLength
    hasUseCandidate := st.hasUseCandidate }

variable (hmac msg) in
theorem parse_of_bad_header (h : ¬ HeaderOk data size) :
    ∃ log, AllWithin size log ∧
      parse hmac msg data size = { ok := false, msg, data, touched := log, visited := [] } := by
  obtain ⟨log, herr, hlog⟩ := parseHeader_of_not_ok h
  exact ⟨log, hlog, by simp only [parse, herr]⟩

theorem parse_of_rejected (h : HeaderOk data size) {log : List Span}
    (hl : parseAttributes msg (startState msg data size) = .error log) :
    parse hmac msg data size = { ok := false, msg, data, touched := log, visited := [] } := by
  rw [startState] at hl
  simp only [parse, parseHeader_of_ok h, hl]

theorem parse_of_loop (h : HeaderOk data size) {st : ParseState}
    (hl : parseAttributes msg (startState msg data size) = .ok st) :
    parse hmac msg data size =
      match st.messageIntegrityStart with
      | none =>
          { ok := true, msg := parsedMessage msg data st, data
            touched := st.reader.touched, visited := st.visited }
      | some start => checkMessageIntegrity hmac (parsedMessage msg data st) data size st start := by
  rw [startState] at hl
  simp only [parse, parseHeader_of_ok h, hl]
  rfl

/-- A message that is accepted has been walked to its end. -/
theorem parse_accepted (h : (parse hmac msg data size).ok = true) :
    ∃ st, HeaderOk data size ∧ Walk msg (startState msg data size) st ∧ st.reader.left = 0 ∧
      (parse hmac msg data size).visited = st.visited ∧
      (parse hmac msg data size).msg = parsedMessage msg data st ∧
      ∀ start, st.messageIntegrityStart = some start →
        window (reduceLength data size st.hasFingerprint) (start + kStunAttributeHeaderSize)
            kSha1ResultLength =
          (hmac msg.localPassword (integrityText data size st.hasFingerprint start)).toList := by
  by_cases hh : HeaderOk data size
  · cases hl : parseAttributes msg (startState msg data size) with
    | error log => simp [parse_of_rejected hh hl] at h
    | ok st =>
        obtain ⟨hwalk, hleft⟩ := (parseAttributes_eq_ok (startState_inMessage msg hh)).mp hl
        rw [parse_of_loop hh hl] at h ⊢
        refine ⟨st, hh, hwalk, hleft, ?_⟩
        cases hm : st.messageIntegrityStart with
        | none => exact ⟨rfl, rfl, fun _ h => absurd h (by simp)⟩
        | some start =>
            simp only [hm, checkMessageIntegrity] at h ⊢
            split at h
            · exact absurd h (by simp)
            · rename_i heq
              rw [if_neg heq]
              refine ⟨rfl, rfl, ?_⟩
              intro m hm'
              obtain rfl := Option.some.inj hm'
              exact not_ne_iff.mp heq
  · obtain ⟨log, -, hparse⟩ := parse_of_bad_header hmac msg hh
    simp [hparse] at h

end Message

/-! ## What the flags stand for -/

/-- The flags of the loop, read off the attributes met so far. -/
structure Tracked (msg : StunMessage) (data : Memory) (st : ParseState) : Prop where
  below : ∀ o ∈ st.visited, kStunHeaderSize ≤ o ∧ o < st.reader.start
  taken : ∀ o ∈ st.visited,
    o + kStunAttributeHeaderSize + (paddedLength (attrLength data o)).toNat ≤ st.reader.start
  integrity_some : ∀ m, st.messageIntegrityStart = some m →
    m ∈ st.visited ∧ attrType data m = kAttrMessageIntegrity
  integrity_last : ∀ o ∈ st.visited, attrType data o = kAttrMessageIntegrity →
    ∃ m, st.messageIntegrityStart = some m ∧ o ≤ m
  fingerprint : st.hasFingerprint = true ↔ ∃ o ∈ st.visited, attrType data o = kAttrFingerprint
  useCandidate : st.hasUseCandidate = true ↔
    msg.hasUseCandidate = true ∨ ∃ o ∈ st.visited, attrType data o = kAttrUseCandidate

section Flags

variable {msg : StunMessage} {data : Memory} {size : Nat} {st st' : ParseState}

theorem startState_tracked : Tracked msg data (startState msg data size) where
  below _ ho := absurd ho List.not_mem_nil
  taken _ ho := absurd ho List.not_mem_nil
  integrity_some _ h := absurd h (by simp [startState, initialState])
  integrity_last _ ho := absurd ho List.not_mem_nil
  fingerprint := by simp [startState, initialState]
  useCandidate := by simp [startState, initialState]

theorem Tracked.turn (hin : InMessage data size st) (hpos : kStunHeaderSize ≤ st.reader.start)
    (h : Tracked msg data st) (hstep : TurnStep msg st st') : Tracked msg data st' := by
  have htype : st.type = attrType data st.reader.start := by rw [← hin.bytes]
  have hmem : ∀ o, o ∈ st'.visited ↔ o ∈ st.visited ∨ o = st.reader.start := by
    simp [hstep.visited]
  have hstart : st.reader.start < st'.reader.start := by
    rw [hstep.start]
    omega
  have hlength : st.length = attrLength data st.reader.start := by rw [← hin.bytes]
  refine ⟨?_, ?_, ?_, ?_, ?_, ?_⟩
  · intro o ho
    rcases (hmem o).mp ho with ho | rfl
    · have := h.below o ho
      omega
    · exact ⟨hpos, hstart⟩
  · intro o ho
    rcases (hmem o).mp ho with ho | rfl
    · exact (h.taken o ho).trans hstart.le
    · rw [← hlength]
      exact hstep.start.ge
  · intro m hm
    rw [hstep.integrity] at hm
    split at hm
    · rename_i hty
      obtain rfl := Option.some.inj hm
      exact ⟨(hmem _).mpr (Or.inr rfl), htype ▸ hty⟩
    · obtain ⟨hvis, hty⟩ := h.integrity_some m hm
      exact ⟨(hmem m).mpr (Or.inl hvis), hty⟩
  · intro o ho hty
    rw [hstep.integrity]
    rcases (hmem o).mp ho with ho | rfl
    · split
      · exact ⟨_, rfl, (h.below o ho).2.le⟩
      · exact h.integrity_last o ho hty
    · rw [if_pos (htype.trans hty)]
      exact ⟨_, rfl, le_rfl⟩
  · simp only [hstep.fingerprint, Bool.or_eq_true, decide_eq_true_eq, h.fingerprint, htype, hmem,
      or_and_right, exists_or, exists_eq_left]
    exact or_comm
  · simp only [hstep.useCandidate, Bool.or_eq_true, decide_eq_true_eq, h.useCandidate, htype,
      hmem, or_and_right, exists_or, exists_eq_left]
    exact or_comm.trans or_assoc

theorem Reaches.tracked (h : Reaches msg data size st) :
    kStunHeaderSize ≤ st.reader.start ∧ Tracked msg data st := by
  have hinv : InMessage data size st ∧ kStunHeaderSize ≤ st.reader.start ∧ Tracked msg data st := by
    refine h.2.invariant (I := fun t => InMessage data size t ∧
        kStunHeaderSize ≤ t.reader.start ∧ Tracked msg data t) ?_
      ⟨startState_inMessage msg h.1, le_rfl, startState_tracked⟩
    rintro t u ⟨hin, hpos, htr⟩ hturn
    have hstep := parseAttribute_ok hturn.2
    refine ⟨hin.turn hturn, ?_, htr.turn hin hpos hstep⟩
    rw [hstep.start]
    omega
  exact hinv.2

end Flags

end WebrtcServer.StunMessage
