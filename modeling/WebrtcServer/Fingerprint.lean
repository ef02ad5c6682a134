/-
# `Fingerprint` — fingerprints as text

`DtlsContext::Initialize` writes the digest of the certificate as hex pairs
with colons between them, and `SetRemoteFingerprint` reads such a text from
the offer: it cuts it at the colons and lets `sscanf` store each field where
the next byte of the digest belongs.  `sscanf` stores an `unsigned int`,
four bytes of which the next store overwrites three.  The loop ends one
field before the end of the array, so the stores of the fields 61 and 62
reach beyond it, and field 63 is never read.
-/
import WebrtcServer.DtlsTransport
import WebrtcServer.Lib.Hex
import Mathlib.Data.List.TakeWhile

namespace WebrtcServer

open Lib

/-! ## Writing -/

namespace DtlsContext

/-- `Hash_tp_string_`. -/
def getStringFromHash : Hash → String
  | .sha1 => "sha-1"
  | .sha224 => "sha-224"
  | .sha256 => "sha-256"
  | .sha384 => "sha-384"
  | .sha512 => "sha-512"
  | .unknown => ""

/-- The size that `X509_digest` gives for a hash. -/
def digestLength : Hash → Nat
  | .sha1 => 20
  | .sha224 => 28
  | .sha256 => 32
  | .sha384 => 48
  | .sha512 => 64
  | .unknown => 0

/-- The colon. -/
def kColon : UInt8 := 0x3A

/-- The loop of `Initialize` prints `%.2X:` for each byte, and the zero goes
over the last colon. -/
def hexFingerprint (digest : List UInt8) : ByteString :=
  (digest.flatMap fun b => hexByte b ++ [kColon]).take (digest.length * 3 - 1)

theorem getHashFromString_getStringFromHash (hash : Hash) :
    getHashFromString (getStringFromHash hash) = hash := by
  cases hash <;> rfl

end DtlsContext

/-! ## Reading -/

/-- The part of a string that C sees. -/
def cString (s : ByteString) : ByteString := s.takeWhile (· ≠ 0)

def isSpace (c : UInt8) : Bool := decide (c = 0x20) || (decide (0x09 ≤ c) && decide (c ≤ 0x0D))

/-- `sscanf(value, "%02x", &v)`: white space is skipped; then at most two
characters are a sign and a digit, or one or two digits.  The prefix `0x`
fills both places and converts to zero, as its zero alone would. -/
def sscanf02x (value : ByteString) : Option UInt32 :=
  match value.dropWhile isSpace with
  | [] => none
  | first :: rest =>
      if first = 0x2B ∨ first = 0x2D then
        match rest.head?.bind hexValue with
        | none => none
        | some d => some (if first = 0x2D then 0 - UInt32.ofNat d else UInt32.ofNat d)
      else
        match hexValue first with
        | none => none
        | some d =>
            match rest.head? with
            | none => some (UInt32.ofNat d)
            | some second =>
                match hexValue second with
                | none => some (UInt32.ofNat d)
                | some d' => some (UInt32.ofNat (16 * d + d'))

/-- A bare prefix stores a zero; a bare sign stores nothing. -/
example : sscanf02x [0x30, 0x78] = some 0 ∧ sscanf02x [0x30, 0x58, 0x67] = some 0 ∧
    sscanf02x [0x2D] = none := by decide

/-- An `unsigned int` in memory. -/
def littleEndian (v : UInt32) : List UInt8 :=
  [UInt8.ofNat v.toNat, UInt8.ofNat (v.toNat / 256), UInt8.ofNat (v.toNat / 65536),
   UInt8.ofNat (v.toNat / 16777216)]

namespace DtlsTransport

variable {Ssl : Type}

def EVP_MAX_MD_SIZE : Nat := 64

/-- The loop of `SetRemoteFingerprint` over the fields that `strsep` cuts
off.  A field that does not convert stores nothing, but takes its place. -/
def storeFields : List ByteString → Nat → Memory → Except Fault Memory
  | [], _, remoteFingerprint => .ok remoteFingerprint
  | value :: rest, pos, remoteFingerprint =>
      if pos = EVP_MAX_MD_SIZE - 1 then .ok remoteFingerprint
      else
        match sscanf02x value with
        | none => storeFields rest (pos + 1) remoteFingerprint
        | some v =>
            if EVP_MAX_MD_SIZE < pos + 4 then .error .outOfBounds
            else storeFields rest (pos + 1) (poke remoteFingerprint pos (littleEndian v))

/-- The fields of a fingerprint. -/
def fields (fingerprint : ByteString) : List ByteString :=
  (cString fingerprint).splitOn DtlsContext.kColon

def setRemoteFingerprint (t : DtlsTransport Ssl) (hash : String) (fingerprint : ByteString) :
    Except Fault (DtlsTransport Ssl) :=
  match storeFields (fields fingerprint) 0 t.remoteFingerprint with
  | .error e => .error e
  | .ok remoteFingerprint =>
      .ok { t with remoteHash := DtlsContext.getHashFromString hash, remoteFingerprint }

end DtlsTransport

/-! ## Reading back what was written -/

section RoundTrip

open DtlsContext DtlsTransport

/-- The printed pairs are the digits with a colon behind each. -/
theorem flatMap_colon (b : UInt8) (digest : List UInt8) :
    ((b :: digest).flatMap fun b => hexByte b ++ [kColon]) =
      [kColon].intercalate ((b :: digest).map hexByte) ++ [kColon] := by
  induction digest generalizing b with
  | nil => simp [List.intercalate]
  | cons c rest ih =>
      rw [List.flatMap_cons, ih c]
      simp only [List.map_cons, List.intercalate_cons_cons, List.append_assoc]

theorem hexFingerprint_cons (b : UInt8) (digest : List UInt8) :
    hexFingerprint (b :: digest) = [kColon].intercalate ((b :: digest).map hexByte) := by
  have hlen : ((b :: digest).flatMap fun b => hexByte b ++ [kColon]).length =
      (b :: digest).length * 3 := by
    simp [hexByte]
    omega
  rw [flatMap_colon, List.length_append, List.length_singleton] at hlen
  rw [hexFingerprint, flatMap_colon, List.take_left' (by omega)]

/-- Neither the colon nor the zero that ends a string is a digit. -/
theorem hexValue_separators : hexValue kColon = none ∧ hexValue 0 = none := by decide

theorem cString_hexFingerprint (digest : List UInt8) :
    cString (hexFingerprint digest) = hexFingerprint digest := by
  apply List.takeWhile_eq_self_iff.mpr
  intro c hc
  obtain ⟨b, -, hb⟩ := List.mem_flatMap.mp (List.mem_of_mem_take hc)
  rw [decide_eq_true_eq]
  rintro rfl
  rcases List.mem_append.mp hb with hb | hb
  · exact not_mem_hexByte hexValue_separators.2 b hb
  · exact absurd (List.mem_singleton.mp hb) (by decide)

/-- Cut at its colons, the text of a digest falls into the digits of its
bytes. -/
theorem fields_hexFingerprint {digest : List UInt8} (h : digest ≠ []) :
    fields (hexFingerprint digest) = digest.map hexByte := by
  rw [fields, cString_hexFingerprint]
  cases digest with
  | nil => exact absurd rfl h
  | cons b rest =>
      rw [hexFingerprint_cons]
      refine List.splitOn_intercalate kColon ?_ (by simp)
      intro l hl
      obtain ⟨b, -, rfl⟩ := List.mem_map.mp hl
      exact not_mem_hexByte hexValue_separators.1 b

/-- A digit is no white space and no sign. -/
theorem hexDigit_plain : ∀ n < 16, isSpace (hexDigit n) = false ∧ hexDigit n ≠ 0x2B ∧
    hexDigit n ≠ 0x2D := by decide

/-- The digits of a byte convert to the byte. -/
theorem sscanf02x_hexByte (b : UInt8) : sscanf02x (hexByte b) = some (UInt32.ofNat b.toNat) := by
  have hlt := b.toNat_lt
  obtain ⟨hspace, hplus, hminus⟩ := hexDigit_plain (b.toNat / 16) (by omega)
  have hsum : 16 * (b.toNat / 16) + b.toNat % 16 = b.toNat := Nat.div_add_mod b.toNat 16
  simp [sscanf02x, hexByte, hspace, hplus, hminus, hexValue_high, hexValue_low, hsum]

/-- Of the four bytes that a store writes, the first is the value. -/
theorem littleEndian_byte (b : UInt8) : littleEndian (UInt32.ofNat b.toNat) = [b, 0, 0, 0] := by
  have hlt := b.toNat_lt
  have hvalue : (UInt32.ofNat b.toNat).toNat = b.toNat := by
    rw [UInt32.toNat_ofNat']
    omega
  have h0 : b.toNat / 256 = 0 := by omega
  have h1 : b.toNat / 65536 = 0 := by omega
  have h2 : b.toNat / 16777216 = 0 := by omega
  simp only [littleEndian, hvalue, h0, h1, h2, UInt8.ofNat_toNat]
  rfl

end RoundTrip

/-! ## The loop -/

section Loop

open DtlsTransport

variable {pos : Nat} {mem mem' : Memory} {values : List ByteString}

/-- As long as the stores stay inside the array, the digits of a digest are
stored as its bytes. -/
theorem storeFields_hexByte (digest : List UInt8) (hroom : pos + digest.length ≤ 61) :
    ∃ mem', storeFields (digest.map hexByte) pos mem = .ok mem' ∧
      (∀ i < pos, mem' i = mem i) ∧ window mem' pos digest.length = digest := by
  induction digest generalizing pos mem with
  | nil => exact ⟨mem, rfl, fun _ _ => rfl, rfl⟩
  | cons b rest ih =>
      rw [List.length_cons] at hroom
      obtain ⟨mem', hok, hbelow, hwindow⟩ : ∃ mem',
          storeFields (rest.map hexByte) (pos + 1) (poke mem pos [b, 0, 0, 0]) = .ok mem' ∧
            (∀ i < pos + 1, mem' i = poke mem pos [b, 0, 0, 0] i) ∧
            window mem' (pos + 1) rest.length = rest := ih (by omega)
      refine ⟨mem', ?_, ?_, ?_⟩
      · have hnotEnd : pos ≠ EVP_MAX_MD_SIZE - 1 := by
          simp only [EVP_MAX_MD_SIZE]
          omega
        have hinside : ¬ EVP_MAX_MD_SIZE < pos + 4 := by
          simp only [EVP_MAX_MD_SIZE]
          omega
        simp only [List.map_cons, storeFields, if_neg hnotEnd, sscanf02x_hexByte, if_neg hinside,
          littleEndian_byte, hok]
      · intro i hi
        rw [hbelow i (by omega), poke_lt hi]
      · -- the next store leaves the first byte of this one
        have hfirst : mem' pos = b := by
          rw [hbelow pos (by omega)]
          exact poke_add (i := 0) (by simp)
        rw [List.length_cons, window_succ, hfirst, hwindow]

/-- The loop leaves the array exactly when a field converts whose four bytes
are not all inside it. -/
theorem storeFields_error_iff (hpos : pos ≤ 63) :
    storeFields values pos mem = .error .outOfBounds ↔
      ∃ i value, values[i]? = some value ∧ (pos + i = 61 ∨ pos + i = 62) ∧
        (sscanf02x value).isSome = true := by
  induction values generalizing pos mem with
  | nil => simp [storeFields]
  | cons value rest ih =>
      -- the field at the cursor, or one behind it
      have hsplit : (∃ i v, (value :: rest)[i]? = some v ∧ (pos + i = 61 ∨ pos + i = 62) ∧
          (sscanf02x v).isSome = true) ↔
          ((pos = 61 ∨ pos = 62) ∧ (sscanf02x value).isSome = true) ∨
            ∃ i v, rest[i]? = some v ∧ (pos + 1 + i = 61 ∨ pos + 1 + i = 62) ∧
              (sscanf02x v).isSome = true := by
        constructor
        · rintro ⟨i, v, hv, hat, hconv⟩
          cases i with
          | zero =>
              obtain rfl : value = v := by simpa using hv
              exact Or.inl ⟨hat, hconv⟩
          | succ i =>
              exact Or.inr ⟨i, v, by simpa using hv, by omega, hconv⟩
        · rintro (⟨hat, hconv⟩ | ⟨i, v, hv, hat, hconv⟩)
          · exact ⟨0, value, rfl, hat, hconv⟩
          · exact ⟨i + 1, v, by simpa using hv, by omega, hconv⟩
      rw [hsplit]
      by_cases hend : pos = 63
      · have hok : storeFields (value :: rest) pos mem = .ok mem := by
          simp only [storeFields, EVP_MAX_MD_SIZE, hend, if_true]
        rw [hok]
        constructor
        · exact fun h => absurd h (by simp)
        · rintro (⟨hat, -⟩ | ⟨i, v, -, hat, -⟩) <;> omega
      · have hnext : ∀ mem, storeFields rest (pos + 1) mem = .error .outOfBounds ↔ _ :=
          fun mem => ih (by omega)
        simp only [storeFields, EVP_MAX_MD_SIZE, hend, if_false]
        cases hscan : sscanf02x value with
        | none =>
            simp only [hnext, Option.isSome_none, Bool.false_eq_true, and_false, false_or]
        | some v =>
            by_cases hout : 64 < pos + 4
            · have hat : pos = 61 ∨ pos = 62 := by omega
              simp [hout, hat]
            · have hnot : ¬ (pos = 61 ∨ pos = 62) := by omega
              simp [hout, hnot, hnext]

end Loop

/-! ## Fingerprints of the table, and any others -/

section Fingerprints

open DtlsContext DtlsTransport

variable {Ssl : Type} (t : DtlsTransport Ssl)

/-- The fingerprint of a digest is taken over: the digest, its hash, and no
store outside the array. -/
def TakesOver (hash : Hash) (digest : List UInt8) : Prop :=
  ∃ t', setRemoteFingerprint t (getStringFromHash hash) (hexFingerprint digest) = .ok t' ∧
    window t'.remoteFingerprint 0 digest.length = digest ∧ t'.remoteHash = hash

/-- The fields 61 and 62, if there are any, do not convert. -/
def ShortFields (fingerprint : ByteString) : Prop :=
  ∀ i value, (fields fingerprint)[i]? = some value → i = 61 ∨ i = 62 → sscanf02x value = none

theorem setRemoteFingerprint_error_iff (hash : String) (fingerprint : ByteString) :
    setRemoteFingerprint t hash fingerprint = .error .outOfBounds ↔ ¬ ShortFields fingerprint := by
  have hstored : setRemoteFingerprint t hash fingerprint = .error .outOfBounds ↔
      storeFields (fields fingerprint) 0 t.remoteFingerprint = .error .outOfBounds := by
    rw [setRemoteFingerprint]
    split
    · rename_i e he
      rw [he]
      simp
    · rename_i m hm
      rw [hm]
      simp
  rw [hstored, storeFields_error_iff (Nat.zero_le 63)]
  simp only [Nat.zero_add, ShortFields, not_forall, exists_prop, Option.isSome_iff_ne_none]

theorem takesOver_iff {hash : Hash} {digest : List UInt8} (hhash : hash ≠ .unknown)
    (hlen : digest.length = digestLength hash) : TakesOver t hash digest ↔ hash ≠ .sha512 := by
  have hpos : 0 < digest.length := by
    rw [hlen]
    cases hash <;> simp_all [digestLength]
  have hfields := fields_hexFingerprint (List.ne_nil_of_length_pos hpos)
  constructor
  · -- field 61 of the 64 fields of SHA-512 converts
    rintro ⟨t', hok, -, -⟩ rfl
    have hfield : 61 < digest.length := by
      rw [hlen]
      decide
    have hshort : ¬ ShortFields (hexFingerprint digest) := by
      intro hshort
      have hnone := hshort 61 (hexByte digest[61]) (by simp [hfields, hfield]) (Or.inl rfl)
      rw [sscanf02x_hexByte] at hnone
      exact absurd hnone (by simp)
    have herror := (setRemoteFingerprint_error_iff t (getStringFromHash .sha512) _).mpr hshort
    rw [hok] at herror
    exact absurd herror (by simp)
  · intro hnot
    have hroom : 0 + digest.length ≤ 61 := by
      rw [hlen]
      cases hash <;> simp_all [digestLength]
    obtain ⟨m, hok, -, hwindow⟩ := @storeFields_hexByte 0 t.remoteFingerprint digest hroom
    refine ⟨{ t with remoteHash := hash, remoteFingerprint := m }, ?_, hwindow, rfl⟩
    simp only [setRemoteFingerprint, hfields, hok, getHashFromString_getStringFromHash]

/-- Every digest of the table except those of SHA-512 is taken over, and no
store is outside the array exactly when the fields 61 and 62 do not
convert. -/
theorem fingerprint_iff :
    (∀ hash digest, hash ≠ .unknown → digest.length = digestLength hash →
      (TakesOver t hash digest ↔ hash ≠ .sha512)) ∧
    ∀ hash fingerprint, setRemoteFingerprint t hash fingerprint ≠ .error .outOfBounds ↔
      ShortFields fingerprint := by
  refine ⟨fun hash digest hhash hlen => takesOver_iff t hhash hlen, ?_⟩
  intro hash fingerprint
  rw [ne_eq, setRemoteFingerprint_error_iff, not_not]

/-- An endpoint that has read no fingerprint. -/
def blankEndpoint : DtlsTransport Unit where
  ssl := none
  setup := .actPass
  remoteFingerprint := fun _ => 0
  remoteHash := .unknown
  inited := false

theorem fingerprint_iff_sha256 :
    TakesOver blankEndpoint .sha256 (List.replicate 32 0xAB) ∧
      setRemoteFingerprint blankEndpoint "sha-256" [] ≠ .error .outOfBounds := by
  obtain ⟨htable, hany⟩ := fingerprint_iff blankEndpoint
  refine ⟨(htable .sha256 _ (by decide) rfl).mpr (by decide), (hany "sha-256" []).mpr ?_⟩
  intro i value hvalue hat
  rcases hat with rfl | rfl <;> simp [fields, cString] at hvalue

/-- The fingerprint of a SHA-512 certificate is stored past the array. -/
theorem sha512_overruns :
    let digest : List UInt8 := List.replicate 64 0xAB
    digest.length = digestLength .sha512 ∧
      setRemoteFingerprint blankEndpoint (getStringFromHash .sha512) (hexFingerprint digest) =
        .error .outOfBounds ∧
      ¬ TakesOver blankEndpoint .sha512 digest := by
  refine ⟨rfl, ?_, fun h => (takesOver_iff blankEndpoint (by decide) rfl).mp h rfl⟩
  rw [setRemoteFingerprint_error_iff]
  intro hshort
  have hnone := hshort 61 (hexByte 0xAB)
    (by rw [fields_hexFingerprint (by decide)]; rfl) (Or.inl rfl)
  rw [sscanf02x_hexByte] at hnone
  exact absurd hnone (by simp)

end Fingerprints

end WebrtcServer
