/-
# `DtlsAuth` — whom a completed handshake installs keys for

OpenSSL is told to accept every certificate, so the peer is known by the
fingerprint that its offer announced.  `CheckRemoteCertificate` compares it
and `ExtractSrtpParams` takes the keys out of the connection; both say
whether they succeeded, and `OnSSLInfo` has a branch that signals an error.
`SetupSRTP` between them returns 1 whatever they say.  The branch is
therefore dead, and keys are installed for whoever negotiated a known
profile (`established_iff_negotiated`).
-/
import WebrtcServer.IceAuth
import WebrtcServer.MediaTracks
import WebrtcServer.WebrtcTransport

namespace WebrtcServer

open Lib

namespace DtlsTransport

section Checks

variable {Ssl Cert : Type} (lib : SslLib Ssl Cert) (t : DtlsTransport Ssl) (ssl : Ssl)

/-- The peer has shown a certificate with the fingerprint of the offer. -/
def PeerCertified : Prop :=
  ∃ certificate fingerprint, lib.getPeerCertificate ssl = some certificate ∧
    t.remoteHash ≠ .unknown ∧ lib.digest certificate t.remoteHash = some fingerprint ∧
    window t.remoteFingerprint 0 fingerprint.length = fingerprint

/-- A known SRTP profile was negotiated, and its keying material can be
exported. -/
def KeysNegotiated : Prop :=
  ∃ name material, lib.selectedSrtpProfile ssl = some name ∧
    SrtpSession.getCipherSuiteFromString name ≠ .none ∧
    lib.exportKeyingMaterial ssl kExporterLabel (kMaxMasterLength * 2) = some material

theorem checkRemoteCertificate_iff :
    t.checkRemoteCertificate lib ssl = true ↔ PeerCertified lib t ssl := by
  simp only [checkRemoteCertificate, PeerCertified]
  cases hcert : lib.getPeerCertificate ssl with
  | none => simp
  | some certificate =>
      cases hhash : t.remoteHash with
      | unknown => simp
      | sha1 | sha224 | sha256 | sha384 | sha512 =>
          simp only [Option.some.injEq, exists_and_left, exists_eq_left', ne_eq, reduceCtorEq,
            not_false_eq_true, true_and]
          split
          next hdigest => simp [hdigest]
          next fingerprint hdigest => simp [hdigest]

/-- With negotiated keys the listener is told of them, and without it is
told nothing. -/
theorem extractSrtpParams_spec :
    (KeysNegotiated lib ssl ∧ ∃ suite localMasterKey remoteMasterKey,
      t.extractSrtpParams lib ssl = (true, [.setup suite localMasterKey remoteMasterKey])) ∨
    (¬ KeysNegotiated lib ssl ∧ t.extractSrtpParams lib ssl = (false, [])) := by
  simp only [extractSrtpParams, KeysNegotiated]
  cases hprofile : lib.selectedSrtpProfile ssl with
  | none => exact Or.inr ⟨by simp, rfl⟩
  | some name =>
      by_cases hsuite : SrtpSession.getCipherSuiteFromString name = .none
      · exact Or.inr ⟨by simp [hsuite], by simp [hsuite]⟩
      · cases hmaterial : lib.exportKeyingMaterial ssl kExporterLabel (kMaxMasterLength * 2) with
        | none => exact Or.inr ⟨by simp, by simp [hsuite]⟩
        | some material =>
            exact Or.inl ⟨⟨name, material, rfl, hsuite, rfl⟩, _, _, _, if_neg hsuite⟩

theorem extractSrtpParams_iff :
    (t.extractSrtpParams lib ssl).1 = true ↔ KeysNegotiated lib ssl := by
  rcases extractSrtpParams_spec lib t ssl with ⟨hkeys, _, _, _, heq⟩ | ⟨hkeys, heq⟩
  · simp [heq, hkeys]
  · simp [heq, hkeys]

/-- A completed handshake tells the listener what `ExtractSrtpParams` does,
and sends what is pending. -/
theorem onSSLInfo_done {where_ : Nat} (hdone : isHandshakeDone where_ = true) :
    (t.onSSLInfo lib ssl where_).2 =
      (t.extractSrtpParams lib ssl).2 ++ (trySendPendingData lib ssl).2 := by
  simp [onSSLInfo, hdone, setupSRTP]

theorem trySendPendingData_sends :
    ∀ o ∈ (trySendPendingData lib ssl).2, ∃ data, o = DtlsOutput.sendData data := by
  intro o ho
  simp only [trySendPendingData] at ho
  split at ho
  · exact ⟨_, List.mem_singleton.mp ho⟩
  · cases ho

/-- No handshake is reported as failed. -/
theorem error_not_mem_onSSLInfo {where_ : Nat} (hdone : isHandshakeDone where_ = true) :
    DtlsOutput.error ∉ (t.onSSLInfo lib ssl where_).2 := by
  rw [onSSLInfo_done lib t ssl hdone, List.mem_append, not_or]
  constructor
  · rcases extractSrtpParams_spec lib t ssl with ⟨-, _, _, _, heq⟩ | ⟨-, heq⟩ <;> simp [heq]
  · intro hsend
    obtain ⟨data, hdata⟩ := trySendPendingData_sends lib ssl _ hsend
    cases hdata

end Checks

end DtlsTransport

namespace WebrtcTransport

section Handshake

variable {Ctx Ssl Cert : Type} (p : Platform Ctx Ssl Cert) (w : WebrtcTransport Ctx Ssl)
  (t : DtlsTransport Ssl) (ssl : Ssl) (where_ : Nat)

/-- `OnSSLInfo`, with its calls taken by the transport. -/
def onHandshakeInfo : Except Fault (WebrtcTransport Ctx Ssl × List TransportOutput) :=
  onEach (onDtlsOutput p) w (t.onSSLInfo p.ssl ssl where_).2

/-- Keys are installed for the announced peer only, and any other handshake
is signalled as an error, once. -/
structure HandshakeGated : Prop where
  installs : ∀ suite localMasterKey remoteMasterKey,
    .setup suite localMasterKey remoteMasterKey ∈ (t.onSSLInfo p.ssl ssl where_).2 →
      t.checkRemoteCertificate p.ssl ssl = true ∧ (t.extractSrtpParams p.ssl ssl).1 = true
  established : ∀ w' out, onHandshakeInfo p w t ssl where_ = .ok (w', out) →
    w.connectionEstablished = false → w'.connectionEstablished = true →
      t.checkRemoteCertificate p.ssl ssl = true ∧ (t.extractSrtpParams p.ssl ssl).1 = true
  rejects :
    ¬ (t.checkRemoteCertificate p.ssl ssl = true ∧ (t.extractSrtpParams p.ssl ssl).1 = true) →
      (t.onSSLInfo p.ssl ssl where_).2.count .error = 1

/-- A completed handshake is gated exactly when there was nothing to
reject. -/
theorem handshakeGated_iff (hdone : DtlsTransport.isHandshakeDone where_ = true) :
    HandshakeGated p w t ssl where_ ↔
      DtlsTransport.PeerCertified p.ssl t ssl ∧ DtlsTransport.KeysNegotiated p.ssl ssl := by
  rw [← DtlsTransport.checkRemoteCertificate_iff,
    ← DtlsTransport.extractSrtpParams_iff p.ssl t ssl]
  constructor
  · intro hgated
    by_contra hfailed
    have hzero := List.count_eq_zero.mpr (DtlsTransport.error_not_mem_onSSLInfo p.ssl t ssl hdone)
    rw [hgated.rejects hfailed] at hzero
    exact absurd hzero (by decide)
  · intro hboth
    exact ⟨fun _ _ _ _ => hboth, fun _ _ _ _ _ => hboth, fun hfailed => absurd hboth hfailed⟩

/-- Datagrams to send change nothing in the transport. -/
theorem onEach_sends {outs : List DtlsOutput} (h : ∀ o ∈ outs, ∃ data, o = .sendData data) :
    ∃ out, onEach (onDtlsOutput p) w outs = .ok (w, out) := by
  induction outs with
  | nil => exact ⟨[], rfl⟩
  | cons o outs ih =>
      obtain ⟨⟨data, rfl⟩, hrest⟩ := List.forall_mem_cons.mp h
      obtain ⟨out, hout⟩ := ih hrest
      exact ⟨.udpSend data w.selectedEndpoint :: out, by simp [onEach, onDtlsOutput, hout]⟩

variable {w}

/-- A transport with its sessions counts as connected after a completed
handshake exactly when keys were negotiated, whatever the certificate. -/
theorem established_iff_negotiated (hdone : DtlsTransport.isHandshakeDone where_ = true)
    (hsend : w.sendSrtpSession.isSome = true) (hrecv : w.recvSrtpSession.isSome = true)
    (hnot : w.connectionEstablished = false) :
    ∃ w' out, onHandshakeInfo p w t ssl where_ = .ok (w', out) ∧
      (w'.connectionEstablished = true ↔ DtlsTransport.KeysNegotiated p.ssl ssl) := by
  obtain ⟨send, hsend⟩ := Option.isSome_iff_exists.mp hsend
  obtain ⟨recv, hrecv⟩ := Option.isSome_iff_exists.mp hrecv
  have hsends := DtlsTransport.trySendPendingData_sends p.ssl ssl
  simp only [onHandshakeInfo, DtlsTransport.onSSLInfo_done p.ssl t ssl hdone]
  rcases DtlsTransport.extractSrtpParams_spec p.ssl t ssl with
    ⟨hkeys, suite, localKey, remoteKey, heq⟩ | ⟨hkeys, heq⟩
  · let w₁ := { w with
        sendSrtpSession := some (send.init p.srtp false suite localKey).2
        recvSrtpSession := some (recv.init p.srtp true suite remoteKey).2
        connectionEstablished := true }
    obtain ⟨out, hout⟩ := onEach_sends p w₁ hsends
    refine ⟨w₁, out, ?_, by simp [w₁, hkeys]⟩
    simp only [heq, List.cons_append, List.nil_append, onEach, onDtlsOutput, onDtlsTransportSetup,
      hsend, hrecv, hout, w₁]
  · obtain ⟨out, hout⟩ := onEach_sends p w hsends
    exact ⟨w, out, by simp only [heq, List.nil_append, hout], by simp [hnot, hkeys]⟩

end Handshake

/-! ## A peer with the announced certificate and one with another -/

section Samples

/-- A library in which no packet that comes in is authentic. -/
def sampleSrtp : SrtpLib Unit where
  create _ := some ()
  authTagLen _ := 10
  protect _ data len := { ok := true, ctx := (), data, len := len + 10 }
  protectRtcp _ data len := { ok := true, ctx := (), data, len := len + 14 }
  unprotectRtcp _ data len := { ok := false, ctx := (), data, len }

/-- A connection that has completed its handshake when it has read a
datagram, to a peer whose certificate has the digest `certificate`. -/
def sampleSsl (certificate : List UInt8) : SslLib Bool (List UInt8) where
  setConnectState ssl := ssl
  setAcceptState ssl := ssl
  doHandshake ssl := .done ssl (-1)
  bioWrite _ _ := true
  read ssl := .info ssl DtlsTransport.SSL_CB_HANDSHAKE_DONE 1 fun ssl => .done ssl (-1)
  handleTimeout ssl := .done ssl 0
  timeoutFailed _ _ := false
  pending _ := false
  bioRead ssl := ([], ssl)
  receivedShutdown _ := false
  clear ssl := ssl
  getPeerCertificate _ := some certificate
  digest certificate _ := some certificate
  selectedSrtpProfile _ := some "SRTP_AES128_CM_SHA1_80"
  exportKeyingMaterial _ _ len := some (List.replicate len 0)

def samplePlatform (certificate : List UInt8) : Platform Unit Bool (List UInt8) where
  hmac := zeroHmac
  rtpTimestamp := exactTimestamp
  srtp := sampleSrtp
  ssl := sampleSsl certificate

/-- The SHA-256 fingerprint of the offer. -/
def announced : List UInt8 := List.replicate 32 0x5A

def sampleEndpoint : DtlsTransport Bool where
  ssl := some false
  setup := .actPass
  remoteFingerprint := Memory.ofList announced
  remoteHash := .sha256
  inited := false

/-- A transport that has just started, for an offer with H.264 as 102. -/
def sampleTransport : WebrtcTransport Unit Bool :=
  started IceLite.sampleAgent sampleEndpoint 102 103 111 "actpass" fun _ => 0

def receive (d : Datagram) : Event := .udpSocketDataReceive d fun _ _ => 0

/-- With this datagram of the peer the sample connection has completed its
handshake. -/
def handshakeDatagram : Datagram := IceLite.fromStranger (0x16 :: List.replicate 12 0)

/-- ICE and DTLS come through. -/
def connectEvents : List Event :=
  [receive IceLite.bareNomination, receive IceLite.bareNomination, receive handshakeDatagram]

theorem sample_negotiated (certificate : List UInt8) (ssl : Bool) :
    DtlsTransport.KeysNegotiated (sampleSsl certificate) ssl :=
  ⟨_, _, rfl, by simp [SrtpSession.getCipherSuiteFromString], rfl⟩

theorem handshakeGated_announced :
    DtlsTransport.isHandshakeDone DtlsTransport.SSL_CB_HANDSHAKE_DONE = true ∧
      HandshakeGated (samplePlatform announced) sampleTransport sampleEndpoint true
        DtlsTransport.SSL_CB_HANDSHAKE_DONE :=
  ⟨by decide, (handshakeGated_iff (samplePlatform announced) sampleTransport sampleEndpoint true
    DtlsTransport.SSL_CB_HANDSHAKE_DONE (by decide)).mpr
      ⟨⟨_, _, rfl, by decide, rfl, by decide⟩, sample_negotiated announced true⟩⟩

/-- A certificate that nobody announced. -/
def stranger : List UInt8 := List.replicate 32 0xEE

/-- Keys are installed for a peer whose certificate fails the check. -/
theorem stranger_established :
    DtlsTransport.checkRemoteCertificate (sampleSsl stranger) sampleEndpoint true = false ∧
    (∃ w' out, onHandshakeInfo (samplePlatform stranger) sampleTransport sampleEndpoint true
      DtlsTransport.SSL_CB_HANDSHAKE_DONE = .ok (w', out) ∧ w'.connectionEstablished = true) ∧
    ¬ HandshakeGated (samplePlatform stranger) sampleTransport sampleEndpoint true
      DtlsTransport.SSL_CB_HANDSHAKE_DONE := by
  have hcheck :
      DtlsTransport.checkRemoteCertificate (sampleSsl stranger) sampleEndpoint true = false := by
    decide
  obtain ⟨w', out, hok, hiff⟩ := established_iff_negotiated (w := sampleTransport)
    (samplePlatform stranger) sampleEndpoint true DtlsTransport.SSL_CB_HANDSHAKE_DONE (by decide)
    rfl rfl rfl
  have hestablished := hiff.mpr (sample_negotiated stranger true)
  refine ⟨hcheck, ⟨w', out, hok, hestablished⟩, ?_⟩
  intro hgated
  have hboth := hgated.established w' out hok rfl hestablished
  exact absurd (hcheck.symm.trans hboth.1) (by decide)

end Samples

end WebrtcTransport

end WebrtcServer
