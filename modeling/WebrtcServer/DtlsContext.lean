/-
# `DtlsContext` — dtls_context.cpp

`Initialize` makes the context of OpenSSL, a key and a certificate for it,
and the fingerprints that answers announce.  Where a step fails it releases
what there is and returns `false`; the destructor releases again when the
program ends.

`MakeRSAKeyPair` and `MakeCertificate` free what they have made when they
fail, and leave `private_key_` and `certificate_` pointing there; then
`ReleaseResources` frees the block a second time.  This happens exactly
where such a step fails behind the allocation of its own object.  The loop
over the hashes does not look at what `X509_digest` returns: where a digest
fails it reads the size and the bytes that nothing was written to.
-/
import WebrtcServer.Fingerprint
import WebrtcServer.Lib.Lifetime

namespace WebrtcServer

open Lib

namespace DtlsContext

/-- The three members, and the pointers that are local to a function. -/
inductive Resource where
  | sslCtx
  | certificate
  | privateKey
  | exponent
  | rsa
  | serialNumber
  | name
deriving DecidableEq

/-- What `X509_digest` writes: at most the array that it is given. -/
abbrev Digest : Type := { md : List UInt8 // md.length ≤ DtlsTransport.EVP_MAX_MD_SIZE }

/-- What OpenSSL answers, with `true` where a call succeeds. -/
structure Answers where
  sslCtxNew : Bool
  pkeyNew : Bool
  bnNew : Bool
  rsaNew : Bool
  setWord : Bool
  generateKey : Bool
  assignRsa : Bool
  x509New : Bool
  setPubkey : Bool
  serialNew : Bool
  pseudoRand : Bool
  getSerialNumber : Bool
  toAsn1Integer : Bool
  setVersion : Bool
  nameNew : Bool
  setSubjectName : Bool
  setIssuerName : Bool
  notBefore : Bool
  notAfter : Bool
  sign : Bool
  useCertificate : Bool
  usePrivateKey : Bool
  setCipherList : Bool
  /-- `SSL_CTX_set_tlsext_use_srtp`, which returns 0 when it succeeds. -/
  useSrtp : Int
  /-- `X509_digest`, which writes nothing where it fails. -/
  digest : Hash → Option Digest

end DtlsContext

open DtlsContext in
structure DtlsContext where
  pointers : Pointers Resource
  availableHashes : List Hash
  localFingerPrints : Hash → ByteString

namespace DtlsContext

/-- The result of calls that may misuse a pointer. -/
abbrev Safely := Except (Misuse Resource)

def constructed : DtlsContext where
  pointers := fun _ => .null
  availableHashes := []
  localFingerPrints := fun _ => []

namespace Answers

/-- The key is made: no operand of the condition in `MakeRSAKeyPair` fails. -/
def makesKey (a : Answers) : Bool :=
  a.pkeyNew && a.bnNew && a.rsaNew && a.setWord && a.generateKey && a.assignRsa

def makesSerial (a : Answers) : Bool :=
  a.serialNew && a.pseudoRand && a.getSerialNumber && a.toAsn1Integer

def makesName (a : Answers) : Bool := a.nameNew && a.setSubjectName && a.setIssuerName

end Answers

/-- The frees leave the pointers as they are. -/
def freeAll (l : List Resource) (s : Pointers Resource) : Safely (Pointers Resource) :=
  Pointers.destroy (fun _ => true) l s

def makeRSAKeyPair (a : Answers) (s : Pointers Resource) : Safely (Pointers Resource × Bool) := do
  let s ← s.assign .privateKey a.pkeyNew
  let s ← s.assign .exponent a.bnNew
  let s ← s.assign .rsa a.rsaNew
  if a.makesKey = false then
    let s ← freeAll [.privateKey, .exponent, .rsa] s
    let s ← Pointers.leave [.exponent, .rsa] s
    return (s, false)
  -- the key owns the rsa struct now
  let s ← s.give .rsa
  let s ← freeAll [.exponent] s
  let s ← Pointers.leave [.exponent, .rsa] s
  return (s, true)

/-- The label `error`. -/
def certificateError (s : Pointers Resource) : Safely (Pointers Resource × Bool) := do
  let s ← freeAll [.serialNumber, .name, .certificate] s
  let s ← Pointers.leave [.serialNumber, .name] s
  return (s, false)

def makeCertificate (a : Answers) (s : Pointers Resource) :
    Safely (Pointers Resource × Bool) := do
  let s ← s.assign .certificate a.x509New
  if a.x509New = false then certificateError s
  else
    s.use .certificate
    s.use .privateKey
    if a.setPubkey = false then certificateError s
    else
      let s ← s.assign .serialNumber a.serialNew
      if a.makesSerial = false then certificateError s
      else if a.setVersion = false then certificateError s
      else
        let s ← s.assign .name a.nameNew
        if a.makesName = false then certificateError s
        else if a.notBefore = false ∨ a.notAfter = false then certificateError s
        else if a.sign = false then certificateError s
        else
          let s ← freeAll [.serialNumber, .name] s
          let s ← Pointers.leave [.serialNumber, .name] s
          return (s, true)

def releaseResources (s : Pointers Resource) : Safely (Pointers Resource) :=
  Pointers.destroy (fun _ => false) [.privateKey, .certificate, .sslCtx] s

/-- A way out of `Initialize`. -/
def fail (c : DtlsContext) : Safely (DtlsContext × Bool) := do
  let s ← releaseResources c.pointers
  return ({ c with pointers := s }, false)

/-- The hashes of the fingerprints, in the order of `availableHashes_`. -/
def hashes : List Hash := [.sha1, .sha224, .sha256, .sha384, .sha512]

/-- One turn of the loop over the hashes.  An unknown hash and a digest of
no bytes end it; behind a digest that failed, `if (!size)` reads what is not
written. -/
def fingerprintTurn (a : Answers) (c : DtlsContext) (hash : Hash) :
    Safely (Option DtlsContext) :=
  if hash = .unknown then .ok none
  else
    match a.digest hash with
    | none => .error .unwritten
    | some digest =>
        if digest.val.length = 0 then .ok none
        else
          .ok (some { c with
            localFingerPrints :=
              Function.update c.localFingerPrints hash (hexFingerprint digest) })

/-- The loop with what it has written where it ends. -/
def fingerprints (a : Answers) (c : DtlsContext) : List Hash → Safely (DtlsContext × Bool)
  | [] => .ok (c, true)
  | hash :: rest => do
      match ← fingerprintTurn a c hash with
      | none => return (c, false)
      | some c => fingerprints a c rest

/-- `Initialize` behind the certificate. -/
def configure (a : Answers) (c : DtlsContext) : Safely (DtlsContext × Bool) := do
  c.pointers.use .sslCtx
  c.pointers.use .certificate
  if a.useCertificate = false then fail c
  else
    c.pointers.use .privateKey
    if a.usePrivateKey = false then fail c
    else if a.setCipherList = false then fail c
    else if a.useSrtp ≠ 0 then fail c
    else
      let c := { c with availableHashes := c.availableHashes ++ hashes }
      let (c, ok) ← fingerprints a c c.availableHashes
      if ok = false then fail c else return (c, true)

/-- `Initialize` -/
def initializeContext (a : Answers) (c : DtlsContext) : Safely (DtlsContext × Bool) := do
  let s ← c.pointers.assign .sslCtx a.sslCtxNew
  if a.sslCtxNew = false then return ({ c with pointers := s }, false)
  let (s, ok) ← makeRSAKeyPair a s
  if ok = false then fail { c with pointers := s }
  else
    let (s, ok) ← makeCertificate a s
    if ok = false then fail { c with pointers := s }
    else configure a { c with pointers := s }

/-- `GetCertificateFingerPrint` -/
def getCertificateFingerPrint (c : DtlsContext) (hash : Hash) : ByteString :=
  c.localFingerPrints hash

/-- The one context of a program: initialized, and destroyed at its end. -/
def life (a : Answers) : Safely (DtlsContext × Bool) := do
  let (c, ok) ← initializeContext a constructed
  let s ← releaseResources c.pointers
  return ({ c with pointers := s }, ok)

/-! ## What the steps leave -/

/-- The members, while no function is running. -/
def members (sslCtx privateKey certificate : Pointer) : Pointers Resource
  | .sslCtx => sslCtx
  | .privateKey => privateKey
  | .certificate => certificate
  | .exponent | .rsa | .serialNumber | .name => .null

/-- A pointer behind a free that leaves it. -/
def freed (found : Bool) : Pointer := if found then .dangling else .null

section Steps

variable {a : Answers} {x k c : Pointer} {s : Pointers Resource} {l : List Resource}

theorem freeAll_of_clean (hnodup : l.Nodup) (h : ∀ p ∈ l, s p ≠ .dangling) :
    freeAll l s = .ok fun p => if p ∈ l then (if s p = .live then .dangling else .null) else s p := by
  rw [freeAll, Pointers.destroy_of_clean hnodup h]
  refine congrArg Except.ok (funext fun p => ?_)
  rw [Pointers.afterDestroy]
  simp only [true_and]

/-- What a free leaves of an allocation. -/
theorem freed_eq (found : Bool) :
    (if Pointer.allocated found = .live then Pointer.dangling else .null) = freed found := by
  cases found <;> rfl

theorem left_ne_live (q : Pointer) : (if q = .live then Pointer.dangling else .null) ≠ .live := by
  cases q <;> decide

/-- The pointers of `MakeRSAKeyPair` behind the allocations. -/
def keyPointers (x c k e r : Pointer) : Pointers Resource
  | .privateKey => k
  | .exponent => e
  | .rsa => r
  | p => members x .null c p

theorem keyPointers_assigned (x c k e r : Pointer) :
    Function.update (Function.update (Function.update (members x .null c) .privateKey k)
      .exponent e) .rsa r = keyPointers x c k e r := by
  funext p
  cases p <;> rfl

theorem makeRSAKeyPair_eq (a : Answers) (x c : Pointer) :
    makeRSAKeyPair a (members x .null c) =
      .ok (members x (if a.makesKey then .live else freed a.pkeyNew) c, a.makesKey) := by
  rw [makeRSAKeyPair, Pointers.assign_of_not_live (by simp [members]), ok_bind,
    Pointers.assign_of_not_live (by simp [members]), ok_bind,
    Pointers.assign_of_not_live (by simp [members]), ok_bind, keyPointers_assigned]
  cases hkey : a.makesKey with
  | false =>
      rw [if_pos rfl, freeAll_of_clean (by decide), ok_bind, Pointers.leave_of_not_live, ok_bind]
      · refine congrArg (fun s => Except.ok (s, false)) (funext fun p => ?_)
        cases p with
        | privateKey => exact freed_eq a.pkeyNew
        | sslCtx | certificate | exponent | rsa | serialNumber | name => rfl
      · simp only [List.mem_cons, List.not_mem_nil, or_false, forall_eq_or_imp, forall_eq]
        exact ⟨left_ne_live _, left_ne_live _⟩
      · simp [keyPointers, Pointer.allocated_ne_dangling]
  | true =>
      have hnew : a.pkeyNew = true ∧ a.bnNew = true ∧ a.rsaNew = true := by
        simp only [Answers.makesKey, Bool.and_eq_true] at hkey
        exact ⟨hkey.1.1.1.1.1, hkey.1.1.1.1.2, hkey.1.1.1.2⟩
      rw [if_neg (by decide), hnew.1, hnew.2.1, hnew.2.2, Pointers.give_of_live rfl, ok_bind,
        freeAll_of_clean (by decide), ok_bind, Pointers.leave_of_not_live, ok_bind]
      · refine congrArg (fun s => Except.ok (s, true)) (funext fun p => ?_)
        cases p <;> rfl
      · simp [keyPointers, Pointer.allocated]
      · simp [keyPointers, Pointer.allocated]

/-- The pointers of `MakeCertificate` on its way. -/
def certificatePointers (x k c n m : Pointer) : Pointers Resource
  | .certificate => c
  | .serialNumber => n
  | .name => m
  | p => members x k .null p

theorem certificateError_eq (x k : Pointer) (c n m : Bool) :
    certificateError (certificatePointers x k (.allocated c) (.allocated n) (.allocated m)) =
      .ok (members x k (freed c), false) := by
  rw [certificateError, freeAll_of_clean (by decide), ok_bind, Pointers.leave_of_not_live, ok_bind]
  · refine congrArg (fun s => Except.ok (s, false)) (funext fun p => ?_)
    cases p with
    | certificate => exact freed_eq c
    | sslCtx | privateKey | exponent | rsa | serialNumber | name => rfl
  · simp only [List.mem_cons, List.not_mem_nil, or_false, forall_eq_or_imp, forall_eq]
    exact ⟨left_ne_live _, left_ne_live _⟩
  · simp [certificatePointers, Pointer.allocated_ne_dangling]

/-- The steps behind `X509_new`. -/
def Answers.certifies (a : Answers) : Bool :=
  a.x509New && a.setPubkey && a.makesSerial && a.setVersion && a.makesName && a.notBefore &&
    a.notAfter && a.sign

theorem certificatePointers_assigned (x k c : Pointer) :
    Function.update (members x k .null) .certificate c = certificatePointers x k c .null .null := by
  funext p
  cases p <;> rfl

theorem certificatePointers_serial (x k c n : Pointer) :
    Function.update (certificatePointers x k c .null .null) .serialNumber n =
      certificatePointers x k c n .null := by
  funext p
  cases p <;> rfl

theorem certificatePointers_name (x k c n m : Pointer) :
    Function.update (certificatePointers x k c n .null) .name m = certificatePointers x k c n m := by
  funext p
  cases p <;> rfl

/-- A way to the label `error`. -/
theorem certificateError_of_not {x : Pointer} (n m : Bool) (h : a.certifies = false) :
    certificateError (certificatePointers x .live (.allocated a.x509New) (.allocated n)
      (.allocated m)) =
      .ok (members x .live (if a.certifies then .live else freed a.x509New), a.certifies) := by
  rw [certificateError_eq, h]
  rfl

theorem makeCertificate_eq (a : Answers) (x : Pointer) :
    makeCertificate a (members x .live .null) =
      .ok (members x .live (if a.certifies then .live else freed a.x509New), a.certifies) := by
  rw [makeCertificate, Pointers.assign_of_not_live (by simp [members]), ok_bind,
    certificatePointers_assigned]
  by_cases hnew : a.x509New = false
  · rw [if_pos hnew]
    exact certificateError_of_not false false (by simp [Answers.certifies, hnew])
  have hlive : Pointer.allocated a.x509New = .live := by rw [eq_true_of_ne_false hnew]; rfl
  have huse (p : Resource) (hp : p = .certificate ∨ p = .privateKey) :
      (certificatePointers x .live (.allocated a.x509New) .null .null).use p = .ok () := by
    rcases hp with rfl | rfl
    · exact Pointers.use_ok_iff.mpr hlive
    · exact Pointers.use_ok_iff.mpr rfl
  rw [if_neg hnew, huse _ (Or.inl rfl), ok_bind, huse _ (Or.inr rfl), ok_bind]
  by_cases hkey : a.setPubkey = false
  · rw [if_pos hkey]
    exact certificateError_of_not false false (by simp [Answers.certifies, hkey])
  rw [if_neg hkey, Pointers.assign_of_not_live (by simp [certificatePointers]), ok_bind,
    certificatePointers_serial]
  by_cases hserial : a.makesSerial = false
  · rw [if_pos hserial]
    exact certificateError_of_not _ false (by simp [Answers.certifies, hserial])
  rw [if_neg hserial]
  by_cases hversion : a.setVersion = false
  · rw [if_pos hversion]
    exact certificateError_of_not _ false (by simp [Answers.certifies, hversion])
  rw [if_neg hversion, Pointers.assign_of_not_live (by simp [certificatePointers]), ok_bind,
    certificatePointers_name]
  by_cases hname : a.makesName = false
  · rw [if_pos hname]
    exact certificateError_of_not _ _ (by simp [Answers.certifies, hname])
  rw [if_neg hname]
  by_cases htimes : a.notBefore = false ∨ a.notAfter = false
  · rw [if_pos htimes]
    refine certificateError_of_not _ _ ?_
    rcases htimes with hbefore | hafter
    · simp [Answers.certifies, hbefore]
    · simp [Answers.certifies, hafter]
  rw [if_neg htimes]
  by_cases hsign : a.sign = false
  · rw [if_pos hsign]
    exact certificateError_of_not _ _ (by simp [Answers.certifies, hsign])
  have hcertifies : a.certifies = true := by
    simp only [not_or] at htimes
    simp [Answers.certifies, hnew, hkey, hserial, hversion, hname, htimes, hsign]
  rw [if_neg hsign, freeAll_of_clean (by decide), ok_bind, Pointers.leave_of_not_live, ok_bind,
    hcertifies, hlive]
  · refine congrArg (fun s => Except.ok (s, true)) (funext fun p => ?_)
    cases p <;> rfl
  · simp only [List.mem_cons, List.not_mem_nil, or_false, forall_eq_or_imp, forall_eq]
    exact ⟨left_ne_live _, left_ne_live _⟩
  · simp [certificatePointers, Pointer.allocated_ne_dangling]

/-- A release goes through exactly when no member dangles. -/
theorem releaseResources_members :
    releaseResources (members x k c) = .ok s ↔
      (k ≠ .dangling ∧ c ≠ .dangling ∧ x ≠ .dangling) ∧ s = members .null .null .null := by
  have hafter : Pointers.afterDestroy (fun _ => false) [.privateKey, .certificate, .sslCtx]
      (members x k c) = members .null .null .null := by
    funext p
    cases p <;> rfl
  rw [releaseResources, Pointers.destroy_eq_ok_iff (by decide), hafter]
  refine and_congr ?_ Iff.rfl
  simp only [List.mem_cons, List.not_mem_nil, or_false, forall_eq_or_imp, forall_eq, members]

theorem fail_members {d : DtlsContext} (hd : d.pointers = members x k c)
    (h : k ≠ .dangling ∧ c ≠ .dangling ∧ x ≠ .dangling) :
    fail d = .ok ({ d with pointers := members .null .null .null }, false) := by
  rw [fail, hd, releaseResources_members.mpr ⟨h, rfl⟩]
  rfl

end Steps

/-! ## The fingerprints -/

namespace Answers

/-- The certificate has a digest of this hash. -/
def digested (a : Answers) (hash : Hash) : Bool :=
  match a.digest hash with
  | none => false
  | some digest => decide (digest.val.length ≠ 0)

/-- No digest of the loop fails, up to one of no bytes, which ends it. -/
def Written (a : Answers) : List Hash → Prop
  | [] => True
  | hash :: rest => (a.digest hash).isSome = true ∧ (a.digested hash = true → a.Written rest)

end Answers

/-- The fingerprint of each hash of `l` is that of its digest. -/
def Prints (a : Answers) (d : DtlsContext) (l : List Hash) : Prop :=
  ∀ hash ∈ l, ∃ digest, a.digest hash = some digest ∧
    d.getCertificateFingerPrint hash = hexFingerprint digest

/-- What is left of a loop that goes through. -/
structure Printed (a : Answers) (d : DtlsContext) (l : List Hash) (d' : DtlsContext) : Prop where
  pointers : d'.pointers = d.pointers
  prints : l.all a.digested = true → Prints a d' l
  others : ∀ hash, hash ∉ l → d'.localFingerPrints hash = d.localFingerPrints hash

theorem fingerprintTurn_of_digest {a : Answers} {d : DtlsContext} {hash : Hash} {digest : Digest}
    (hknown : hash ≠ .unknown) (h : a.digest hash = some digest) :
    fingerprintTurn a d hash = .ok (if a.digested hash then
      some { d with
        localFingerPrints := Function.update d.localFingerPrints hash (hexFingerprint digest) }
      else none) := by
  rw [fingerprintTurn, if_neg hknown, Answers.digested, h]
  by_cases hlength : digest.val.length = 0
  · simp [hlength]
  · simp [hlength]

/-- The loop goes through exactly when it reads no digest that failed, and
comes to its end exactly when every hash has its digest. -/
theorem fingerprints_of_written {a : Answers} {d : DtlsContext} {l : List Hash}
    (hnodup : l.Nodup) (hknown : .unknown ∉ l) (h : a.Written l) :
    ∃ d', fingerprints a d l = .ok (d', l.all a.digested) ∧ Printed a d l d' := by
  induction l generalizing d with
  | nil => exact ⟨d, rfl, rfl, fun _ _ h => absurd h List.not_mem_nil, fun _ _ => rfl⟩
  | cons first rest ih =>
      obtain ⟨hfirst, hnodup⟩ := List.nodup_cons.mp hnodup
      obtain ⟨hne, hknown⟩ := not_or.mp (mt List.mem_cons.mpr hknown)
      obtain ⟨hsome, hrest⟩ := h
      obtain ⟨digest, hdigest⟩ := Option.isSome_iff_exists.mp hsome
      rw [fingerprints, fingerprintTurn_of_digest (Ne.symm hne) hdigest, ok_bind, List.all_cons]
      cases hd : a.digested first with
      | false =>
          exact ⟨d, rfl, rfl, fun hall => by simp [hd] at hall, fun _ _ => rfl⟩
      | true =>
          obtain ⟨d', hd', hpointers, hprints, hothers⟩ := ih (d := { d with
            localFingerPrints :=
              Function.update d.localFingerPrints first (hexFingerprint digest) })
            hnodup hknown (hrest hd)
          refine ⟨d', hd', hpointers, fun hall => ?_, fun hash hnot => ?_⟩
          · have hall' : rest.all a.digested = true := by simpa [hd] using hall
            intro hash hmem
            rcases List.mem_cons.mp hmem with rfl | hmem
            · refine ⟨digest, hdigest, ?_⟩
              exact (hothers hash hfirst).trans (Function.update_self _ _ _)
            · exact hprints hall' hash hmem
          · have hnot' := not_or.mp (mt List.mem_cons.mpr hnot)
            exact (hothers hash hnot'.2).trans (Function.update_of_ne hnot'.1 _ _)

/-- Behind a digest that failed the loop reads the size. -/
theorem fingerprints_of_not_written {a : Answers} {d : DtlsContext} {l : List Hash}
    (hknown : .unknown ∉ l) (h : ¬ a.Written l) : fingerprints a d l = .error .unwritten := by
  induction l generalizing d with
  | nil => exact absurd trivial h
  | cons first rest ih =>
      obtain ⟨hne, hknown⟩ := not_or.mp (mt List.mem_cons.mpr hknown)
      cases hdigest : a.digest first with
      | none =>
          rw [fingerprints, fingerprintTurn, if_neg (Ne.symm hne), hdigest]
          rfl
      | some digest =>
          have hsome : (a.digest first).isSome = true := by rw [hdigest]; rfl
          cases hd : a.digested first with
          | false => exact absurd ⟨hsome, fun ht => by rw [hd] at ht; cases ht⟩ h
          | true =>
              have hrest : ¬ a.Written rest := fun hrest => h ⟨hsome, fun _ => hrest⟩
              rw [fingerprints, fingerprintTurn_of_digest (Ne.symm hne) hdigest, ok_bind, hd]
              exact ih hknown hrest

/-! ## The whole life -/

namespace Answers

/-- The steps in front of the fingerprints succeed. -/
def configures (a : Answers) : Bool :=
  a.sslCtxNew && a.makesKey && a.certifies && a.useCertificate && a.usePrivateKey &&
    a.setCipherList && decide (a.useSrtp = 0)

/-- Every step succeeds. -/
def succeeds (a : Answers) : Bool := a.configures && hashes.all a.digested

/-- No step of the key or the certificate fails behind the allocation of its
own object, and no digest fails. -/
structure Sound (a : Answers) : Prop where
  key : a.sslCtxNew = true → a.makesKey = false → a.pkeyNew = false
  certificate : a.sslCtxNew = true → a.makesKey = true → a.certifies = false → a.x509New = false
  digests : a.configures = true → a.Written hashes

end Answers

/-- All released, or all there. -/
def Settled (a : Answers) (d : DtlsContext) : Prop :=
  (d.pointers = members .null .null .null ∨ d.pointers = members .live .live .live) ∧
    (a.succeeds = true → Prints a d hashes)

section Life

variable {a : Answers} {d : DtlsContext}

theorem Answers.not_succeeds (h : a.configures = false) : a.succeeds = false := by
  rw [Answers.succeeds, h, Bool.false_and]

/-- Without the steps in front of them no digest is read. -/
theorem Answers.reads_nothing (h : a.configures = false) :
    a.configures = true → a.Written hashes := by
  intro htrue
  exact absurd (h.symm.trans htrue) Bool.false_ne_true

/-- A failure behind which nothing dangles. -/
theorem fail_settled {x k c : Pointer} (hd : d.pointers = members x k c)
    (h : k ≠ .dangling ∧ c ≠ .dangling ∧ x ≠ .dangling) (ha : a.succeeds = false) :
    ∃ d', fail d = .ok (d', a.succeeds) ∧ Settled a d' := by
  rw [ha]
  exact ⟨_, fail_members hd h, Or.inl rfl, fun hs => by rw [ha] at hs; cases hs⟩

/-- Where all in front of the fingerprints succeeds, the loop decides. -/
theorem configure_of_configures (hpointers : d.pointers = members .live .live .live)
    (hhashes : d.availableHashes = []) (h : a.configures = true) :
    configure a d = (do
      let (c, ok) ← fingerprints a { d with availableHashes := hashes } hashes
      if ok = false then fail c else return (c, true)) := by
  have huse (p : Resource) (hp : members .live .live .live p = .live) :
      d.pointers.use p = .ok () := Pointers.use_ok_iff.mpr (hpointers ▸ hp)
  simp only [Answers.configures, Bool.and_eq_true, decide_eq_true_eq] at h
  obtain ⟨⟨⟨⟨-, huseCertificate⟩, husePrivateKey⟩, hcipher⟩, hsrtp⟩ := h
  rw [configure, huse _ rfl, ok_bind, huse _ rfl, ok_bind, huseCertificate, if_neg (by decide),
    huse _ rfl, ok_bind, husePrivateKey, if_neg (by decide), hcipher, if_neg (by decide),
    hsrtp, if_neg (by decide), hhashes]
  rfl

theorem configure_of_not (hpointers : d.pointers = members .live .live .live)
    (hcertifies : a.certifies = true) (hkey : a.makesKey = true) (hctx : a.sslCtxNew = true)
    (h : a.configures = false) : configure a d = fail d := by
  have huse (p : Resource) (hp : members .live .live .live p = .live) :
      d.pointers.use p = .ok () := Pointers.use_ok_iff.mpr (hpointers ▸ hp)
  rw [configure, huse _ rfl, ok_bind, huse _ rfl, ok_bind]
  by_cases huseCertificate : a.useCertificate = false
  · rw [if_pos huseCertificate]
  rw [if_neg huseCertificate, huse _ rfl, ok_bind]
  by_cases husePrivateKey : a.usePrivateKey = false
  · rw [if_pos husePrivateKey]
  rw [if_neg husePrivateKey]
  by_cases hcipher : a.setCipherList = false
  · rw [if_pos hcipher]
  rw [if_neg hcipher, if_pos]
  intro hsrtp
  simp [Answers.configures, hctx, hkey, hcertifies, huseCertificate, husePrivateKey, hcipher,
    hsrtp] at h

/-- The fingerprints, or the read of what no digest has written. -/
theorem configure_eq (hpointers : d.pointers = members .live .live .live)
    (hhashes : d.availableHashes = []) (hcertifies : a.certifies = true)
    (hkey : a.makesKey = true) (hctx : a.sslCtxNew = true) :
    ((a.configures = true → a.Written hashes) ∧
        ∃ d', configure a d = .ok (d', a.succeeds) ∧ Settled a d') ∨
      (¬ (a.configures = true → a.Written hashes) ∧ configure a d = .error .unwritten) := by
  cases hconfigures : a.configures with
  | false =>
      rw [configure_of_not hpointers hcertifies hkey hctx hconfigures]
      exact Or.inl ⟨(fun h => by cases h),
        fail_settled hpointers (by decide) (Answers.not_succeeds hconfigures)⟩
  | true =>
      rw [configure_of_configures hpointers hhashes hconfigures]
      by_cases hwritten : a.Written hashes
      · obtain ⟨d', hd', hsame, hprints, -⟩ :=
          fingerprints_of_written (d := { d with availableHashes := hashes })
            (by decide) (by decide) hwritten
        have hlive : d'.pointers = members .live .live .live := hsame.trans hpointers
        have hsucceeds : a.succeeds = hashes.all a.digested := by
          rw [Answers.succeeds, hconfigures, Bool.true_and]
        refine Or.inl ⟨fun _ => hwritten, ?_⟩
        rw [hd', ok_bind, ← hsucceeds]
        cases hall : a.succeeds with
        | false =>
            have hfail := fail_settled hlive (by decide) hall
            rw [hall] at hfail
            exact hfail
        | true => exact ⟨d', rfl, Or.inr hlive, fun _ => hprints (hsucceeds.symm.trans hall)⟩
      · refine Or.inr ⟨fun h => hwritten (h rfl), ?_⟩
        rw [fingerprints_of_not_written (by decide) hwritten]
        rfl

/-- A context with its members. -/
def withMembers (x k c : Pointer) : DtlsContext := { constructed with pointers := members x k c }

theorem initializeContext_eq (a : Answers) :
    initializeContext a constructed =
      if a.sslCtxNew = false then .ok (withMembers .null .null .null, false)
      else if a.makesKey = false then fail (withMembers .live (freed a.pkeyNew) .null)
      else if a.certifies = false then fail (withMembers .live .live (freed a.x509New))
      else configure a (withMembers .live .live .live) := by
  have hassigned (found : Bool) : Function.update constructed.pointers .sslCtx (.allocated found) =
      members (.allocated found) .null .null := by
    funext p
    cases p <;> rfl
  rw [initializeContext, Pointers.assign_of_not_live (by decide), ok_bind, hassigned]
  cases a.sslCtxNew with
  | false => rfl
  | true =>
  rw [if_neg (by decide), if_neg (by decide), makeRSAKeyPair_eq, ok_bind]
  cases a.makesKey with
  | false => rfl
  | true =>
  simp only [if_true, Bool.true_eq_false, if_false]
  change (makeCertificate a (members .live .live .null) >>= _) = _
  rw [makeCertificate_eq, ok_bind]
  cases a.certifies with
  | false => rfl
  | true => rfl

/-- A second free of the key or the certificate, or the read of what no digest
has written. -/
def Fatal (e : Misuse Resource) : Prop :=
  e = .dangling .privateKey ∨ e = .dangling .certificate ∨ e = .unwritten

/-- The end of `Initialize` goes through if the answers are sound, and
misuses something if not. -/
def Outcome (a : Answers) (r : Safely (DtlsContext × Bool)) : Prop :=
  (a.Sound ∧ ∃ d, r = .ok (d, a.succeeds) ∧ Settled a d) ∨
    (¬ a.Sound ∧ ∃ e, r = .error e ∧ Fatal e)

theorem outcome_noContext (hctx : a.sslCtxNew = false) :
    Outcome a (.ok (withMembers .null .null .null, false)) := by
  have hconfigures : a.configures = false := by simp [Answers.configures, hctx]
  have hsucceeds := Answers.not_succeeds hconfigures
  have hsound : a.Sound := by
    refine ⟨?_, ?_, Answers.reads_nothing hconfigures⟩
    · exact fun h => absurd (hctx.symm.trans h) Bool.false_ne_true
    · exact fun h => absurd (hctx.symm.trans h) Bool.false_ne_true
  refine Or.inl ⟨hsound, withMembers .null .null .null, by rw [hsucceeds], Or.inl rfl, ?_⟩
  exact fun h => absurd (hsucceeds.symm.trans h) Bool.false_ne_true

/-- The key that was allocated and not made is freed a second time. -/
theorem outcome_noKey (hctx : a.sslCtxNew = true) (hkey : a.makesKey = false) :
    Outcome a (fail (withMembers .live (freed a.pkeyNew) .null)) := by
  have hconfigures : a.configures = false := by simp [Answers.configures, hkey]
  cases hnew : a.pkeyNew with
  | false =>
      have hsound : a.Sound := by
        refine ⟨fun _ _ => hnew, ?_, Answers.reads_nothing hconfigures⟩
        exact fun _ h => absurd (hkey.symm.trans h) Bool.false_ne_true
      exact Or.inl ⟨hsound, fail_settled rfl (by decide) (Answers.not_succeeds hconfigures)⟩
  | true =>
      refine Or.inr ⟨fun hs => ?_, _, rfl, Or.inl rfl⟩
      exact Bool.false_ne_true ((hs.key hctx hkey).symm.trans hnew)

/-- And so is the certificate. -/
theorem outcome_noCertificate (hctx : a.sslCtxNew = true) (hkey : a.makesKey = true)
    (hcertifies : a.certifies = false) :
    Outcome a (fail (withMembers .live .live (freed a.x509New))) := by
  have hconfigures : a.configures = false := by simp [Answers.configures, hcertifies]
  cases hnew : a.x509New with
  | false =>
      have hsound : a.Sound := by
        refine ⟨?_, fun _ _ _ => hnew, Answers.reads_nothing hconfigures⟩
        exact fun _ h => absurd (h.symm.trans hkey) Bool.false_ne_true
      exact Or.inl ⟨hsound, fail_settled rfl (by decide) (Answers.not_succeeds hconfigures)⟩
  | true =>
      refine Or.inr ⟨fun hs => ?_, _, rfl, Or.inr (Or.inl rfl)⟩
      exact Bool.false_ne_true ((hs.certificate hctx hkey hcertifies).symm.trans hnew)

theorem outcome_configure (hctx : a.sslCtxNew = true) (hkey : a.makesKey = true)
    (hcertifies : a.certifies = true) :
    Outcome a (configure a (withMembers .live .live .live)) := by
  rcases configure_eq (d := withMembers .live .live .live) rfl rfl hcertifies hkey hctx with
    ⟨hwritten, hgo⟩ | ⟨hnot, herror⟩
  · have hsound : a.Sound := by
      refine ⟨?_, ?_, hwritten⟩
      · exact fun _ h => absurd (h.symm.trans hkey) Bool.false_ne_true
      · exact fun _ _ h => absurd (h.symm.trans hcertifies) Bool.false_ne_true
    exact Or.inl ⟨hsound, hgo⟩
  · exact Or.inr ⟨fun hs => hnot hs.digests, _, herror, Or.inr (Or.inr rfl)⟩

/-- `Initialize` goes through exactly when no step fails behind the allocation
of its own object and no digest fails. -/
theorem initializeContext_outcome (a : Answers) :
    Outcome a (initializeContext a constructed) := by
  rw [initializeContext_eq]
  cases hctx : a.sslCtxNew with
  | false => exact outcome_noContext hctx
  | true =>
      cases hkey : a.makesKey with
      | false => exact outcome_noKey hctx hkey
      | true =>
          cases hcertifies : a.certifies with
          | false => exact outcome_noCertificate hctx hkey hcertifies
          | true => exact outcome_configure hctx hkey hcertifies

/-- What `Initialize` leaves the destructor can release. -/
theorem Settled.release (h : Settled a d) :
    releaseResources d.pointers = .ok (members .null .null .null) := by
  rcases h.1 with hnull | hlive
  · rw [hnull]
    exact releaseResources_members.mpr ⟨by decide, rfl⟩
  · rw [hlive]
    exact releaseResources_members.mpr ⟨by decide, rfl⟩

/-- The life of the context.  It goes through, with each block freed once,
exactly when no step fails behind the allocation of its own object and no
digest fails; then `Initialize` returns true exactly when every step succeeds,
and the fingerprints are those of the certificate.  Elsewhere a block is freed
twice, or what no digest has written is read. -/
theorem freed_once_iff (a : Answers) :
    ((∃ d, life a = .ok (d, a.succeeds) ∧ (∀ p, d.pointers p ≠ .live) ∧
        (a.succeeds = true → Prints a d hashes)) ↔ a.Sound) ∧
      (¬ a.Sound → ∃ e, life a = .error e ∧ Fatal e) := by
  rcases initializeContext_outcome a with ⟨hs, d, hd, hsettled⟩ | ⟨hnot, e, he, hfatal⟩
  · refine ⟨⟨fun _ => hs, fun _ => ?_⟩, fun hnot => absurd hs hnot⟩
    refine ⟨{ d with pointers := members .null .null .null }, ?_, ?_, hsettled.2⟩
    · exact bind_eq_ok.mpr ⟨_, hd, bind_eq_ok.mpr ⟨_, hsettled.release, rfl⟩⟩
    · intro p hp
      cases p <;> cases hp
  · have hlife : life a = .error e := by
      rw [life, he]
      rfl
    refine ⟨⟨?_, fun hs => absurd hs hnot⟩, fun _ => ⟨e, hlife, hfatal⟩⟩
    rintro ⟨d, hd, -⟩
    rw [hlife] at hd
    cases hd

/-- All goes well, and each digest has the size of its hash. -/
def granted : Answers where
  sslCtxNew := true
  pkeyNew := true
  bnNew := true
  rsaNew := true
  setWord := true
  generateKey := true
  assignRsa := true
  x509New := true
  setPubkey := true
  serialNew := true
  pseudoRand := true
  getSerialNumber := true
  toAsn1Integer := true
  setVersion := true
  nameNew := true
  setSubjectName := true
  setIssuerName := true
  notBefore := true
  notAfter := true
  sign := true
  useCertificate := true
  usePrivateKey := true
  setCipherList := true
  useSrtp := 0
  digest := fun hash => some ⟨List.replicate (digestLength hash) 0xAB, by cases hash <;> decide⟩

/-- A context with its five fingerprints, and one whose digests fail. -/
theorem freed_once_granted :
    (∃ d, life granted = .ok (d, true) ∧ Prints granted d hashes) ∧
      ∃ e, life { granted with digest := fun _ => none } = .error e ∧ Fatal e := by
  have hwritten : granted.Written hashes :=
    ⟨rfl, fun _ => ⟨rfl, fun _ => ⟨rfl, fun _ => ⟨rfl, fun _ => ⟨rfl, fun _ => trivial⟩⟩⟩⟩⟩
  have hsound : granted.Sound := by
    refine ⟨fun _ h => ?_, fun _ _ h => ?_, fun _ => hwritten⟩
    · cases h
    · cases h
  obtain ⟨d, hlife, -, hprints⟩ := (freed_once_iff granted).1.mpr hsound
  refine ⟨⟨d, hlife, hprints rfl⟩, (freed_once_iff _).2 fun hs => ?_⟩
  exact Bool.false_ne_true (hs.digests rfl).1

end Life

end DtlsContext

end WebrtcServer
