/-
# `ProtectedSend` — what is sent when SRTP cannot protect

`OnRtpPacketSend` and `OnRtcpPacketSend` copy the packet into the buffer,
let the SRTP session protect it there and send `length` bytes of the
buffer, whatever the session said.  Without a session, or without room, the
length is still zero and an empty datagram goes out; when libsrtp fails,
the length is that of the packet, which goes out as it is.  A packet is
`Protectable` when none of this happens.
-/
import WebrtcServer.DtlsAuth

namespace WebrtcServer

open Lib

namespace SrtpSession

variable {Ctx : Type} {lib : Ctx → Memory → Nat → SrtpResult Ctx} {s : SrtpSession Ctx}
  {room : Bool} {data : Memory} {inLen outLen : Nat}

/-- A call succeeds when the session is there, with room, and the library
succeeds. -/
theorem call_ok_iff : (s.call lib room data inLen outLen).ok = true ↔
    ∃ ctx, s.session = some ctx ∧ room = true ∧ (lib ctx data inLen).ok = true := by
  simp only [call]
  cases hs : s.session with
  | none => simp
  | some ctx =>
      cases room with
      | false => simp
      | true => simp

end SrtpSession

namespace WebrtcTransport

section Sending

variable {Ctx Ssl Cert : Type} (p : Platform Ctx Ssl Cert) (w : WebrtcTransport Ctx Ssl)

/-- The call of the SRTP session for a packet. -/
def protection : MediaOutput → Option (SrtpCall Ctx)
  | .rtpPacketSend data => w.sendSrtpSession.map fun session =>
      session.protectRtp p.srtp (poke w.protectBuffer 0 data) data.length kProtectBuffer 0
  | .rtcpPacketSend data => w.sendSrtpSession.map fun session =>
      session.protectRtcp p.srtp (poke w.protectBuffer 0 data) data.length kProtectBuffer 0

/-- Every datagram is the output of a successful protection of the packet,
and a packet whose protection fails is not sent. -/
structure SentProtected (packet : MediaOutput) (out : List TransportOutput) : Prop where
  isProtected : ∀ data ep, .udpSend data ep ∈ out →
    ∃ r, protection p w packet = some r ∧ r.ok = true ∧ data = window r.data 0 r.outLen
  failed : ∀ r, protection p w packet = some r → r.ok = false →
    ∀ data ep, .udpSend data ep ∉ out

/-- The session was created, the buffer has room for the packet with its
tag, and libsrtp protects it. -/
def Protectable (packet : MediaOutput) : Prop :=
  ∃ session ctx, w.sendSrtpSession = some session ∧ session.session = some ctx ∧
    match packet with
    | .rtpPacketSend data => data.length + session.rtpAuthTagLen ≤ kProtectBuffer ∧
        (p.srtp.protect ctx (poke w.protectBuffer 0 data) data.length).ok = true
    | .rtcpPacketSend data => data.length + 4 + session.rtcpAuthTagLen ≤ kProtectBuffer ∧
        (p.srtp.protectRtcp ctx (poke w.protectBuffer 0 data) data.length).ok = true

end Sending

section Sending

variable {Ctx Ssl Cert : Type} {p : Platform Ctx Ssl Cert} {w w' : WebrtcTransport Ctx Ssl}
  {packet : MediaOutput} {out : List TransportOutput}

/-- The protection of a packet succeeds exactly when it is protectable. -/
theorem protection_ok_iff :
    (∃ r, protection p w packet = some r ∧ r.ok = true) ↔ Protectable p w packet := by
  cases packet with
  | rtpPacketSend data | rtcpPacketSend data =>
      simp only [protection, Protectable, SrtpSession.protectRtp, SrtpSession.protectRtcp,
        Option.map_eq_some_iff]
      constructor
      · rintro ⟨r, ⟨session, hsession, rfl⟩, hok⟩
        obtain ⟨ctx, hctx, hroom, hlib⟩ := SrtpSession.call_ok_iff.mp hok
        exact ⟨session, ctx, hsession, hctx, of_decide_eq_true hroom, hlib⟩
      · rintro ⟨session, ctx, hsession, hctx, hroom, hlib⟩
        exact ⟨_, ⟨session, hsession, rfl⟩,
          SrtpSession.call_ok_iff.mpr ⟨ctx, hctx, decide_eq_true hroom, hlib⟩⟩

/-- Whatever the session said, one datagram is sent. -/
theorem onMediaOutput_sends (h : onMediaOutput p w packet = .ok (w', out)) :
    ∃ r, protection p w packet = some r ∧
      out = [.udpSend (window r.data 0 r.outLen) w.selectedEndpoint] := by
  cases packet with
  | rtpPacketSend data | rtcpPacketSend data =>
      simp only [onMediaOutput, onRtpPacketSend, onRtcpPacketSend, sendProtected] at h
      split at h
      · cases h
      · split at h
        · cases h
        next session hsession =>
          cases h
          exact ⟨_, by rw [protection, hsession, Option.map_some], rfl⟩

theorem sentProtected_iff (h : onMediaOutput p w packet = .ok (w', out)) :
    SentProtected p w packet out ↔ Protectable p w packet := by
  obtain ⟨r, hr, rfl⟩ := onMediaOutput_sends h
  rw [← protection_ok_iff]
  constructor
  · intro hsent
    obtain ⟨r', hr', hok, -⟩ := hsent.isProtected _ _ List.mem_cons_self
    exact ⟨r', hr', hok⟩
  · rintro ⟨r', hr', hok⟩
    obtain rfl := Option.some.inj (hr.symm.trans hr')
    refine ⟨?_, ?_⟩
    · intro data ep hmem
      cases List.mem_singleton.mp hmem
      exact ⟨r, hr, hok, rfl⟩
    · intro r' hr' hfailed
      obtain rfl := Option.some.inj (hr.symm.trans hr')
      exact absurd (hok.symm.trans hfailed) (by decide)

/-- Every packet of the history was sent protected or not at all. -/
def AllSentProtected (p : Platform Ctx Ssl Cert) (w₀ : WebrtcTransport Ctx Ssl)
    (h : List (MediaOutput × List TransportOutput)) : Prop :=
  ∀ pre packet out post, h = pre ++ (packet, out) :: post →
    ∃ w, Run (onMediaOutput p) (fun _ _ => True) w₀ pre w ∧ SentProtected p w packet out

/-- A sequence of packets that can all be protected is sent protected; and a
packet is sent protected only if it can be. -/
theorem sent_protected (p : Platform Ctx Ssl Cert) (w₀ : WebrtcTransport Ctx Ssl) :
    (∀ h w, Run (onMediaOutput p) (Protectable p) w₀ h w → AllSentProtected p w₀ h) ∧
    ∀ w packet w' out, onMediaOutput p w packet = .ok (w', out) →
      (SentProtected p w packet out ↔ Protectable p w packet) := by
  refine ⟨?_, fun w packet w' out => sentProtected_iff⟩
  intro h w hr pre packet out post hh
  subst hh
  obtain ⟨t, t', hpre, hprotectable, hstep⟩ := hr.step_at
  exact ⟨t, hpre.mono fun _ _ _ => trivial, (sentProtected_iff hstep).mpr hprotectable⟩

end Sending

/-! ## A library that protects, and two that do not -/

section Samples

/-- The library cannot make sessions. -/
def sessionlessSrtp : SrtpLib Unit := { sampleSrtp with create := fun _ => none }

/-- The library makes sessions that fail to protect. -/
def failingSrtp : SrtpLib Unit :=
  { sampleSrtp with protect := fun _ data len => { ok := false, ctx := (), data, len } }

def platformWith (srtp : SrtpLib Unit) : Platform Unit Bool (List UInt8) :=
  { samplePlatform announced with srtp }

/-- The start of an RTP packet. -/
def samplePacket : ByteString := [0x80, 0x66, 0, 1, 0, 0, 0, 0, 0x00, 0xBC, 0x61, 0x4E]

/-- The SRTP session that the transport has made. -/
def sessionWith (srtp : SrtpLib Unit) : SrtpSession Unit :=
  (SrtpSession.new.init srtp false .aesCm128HmacSha1_80 (List.replicate 30 0)).2

theorem connect_run {srtp : SrtpLib Unit} (hsrtp : srtp = sessionlessSrtp ∨ srtp = failingSrtp) :
    ∃ h w, Run (step (platformWith srtp)) (fun _ _ => True) sampleTransport h w ∧
      h.map Prod.fst = connectEvents ∧ w.selectedEndpoint = IceLite.stranger ∧
      w.sendSrtpSession = some (sessionWith srtp) ∧ w.connectionEstablished = true := by
  have hsteps : ∃ w₁ w₂ w₃ o₁ o₂ o₃,
      step (platformWith srtp) sampleTransport (receive IceLite.bareNomination) = .ok (w₁, o₁) ∧
      step (platformWith srtp) w₁ (receive IceLite.bareNomination) = .ok (w₂, o₂) ∧
      step (platformWith srtp) w₂ (receive handshakeDatagram) = .ok (w₃, o₃) ∧
      w₃.selectedEndpoint = IceLite.stranger ∧
      w₃.sendSrtpSession = some (sessionWith srtp) ∧ w₃.connectionEstablished = true := by
    rcases hsrtp with rfl | rfl
    · exact ⟨_, _, _, _, _, _, rfl, rfl, rfl, rfl, rfl, rfl⟩
    · exact ⟨_, _, _, _, _, _, rfl, rfl, rfl, rfl, rfl, rfl⟩
  obtain ⟨w₁, w₂, w₃, o₁, o₂, o₃, h₁, h₂, h₃, hrest⟩ := hsteps
  exact ⟨_, w₃, .snoc (.snoc (.snoc .nil trivial h₁) trivial h₂) trivial h₃, rfl, hrest⟩

/-- A transport whose library protects. -/
def protectingTransport : WebrtcTransport Unit Bool :=
  { sampleTransport with sendSrtpSession := some (sessionWith sampleSrtp) }

theorem sent_protected_sample :
    ∃ out w, onMediaOutput (platformWith sampleSrtp) protectingTransport
        (.rtpPacketSend samplePacket) = .ok (w, out) ∧
      AllSentProtected (platformWith sampleSrtp) protectingTransport
        [(.rtpPacketSend samplePacket, out)] :=
  ⟨_, _, rfl, (sent_protected (platformWith sampleSrtp) protectingTransport).1 _ _
    (.snoc .nil ⟨_, _, rfl, rfl, by decide, rfl⟩ rfl)⟩

/-- In a connected transport whose library fails, the packet goes out in
plain text; in one without sessions, an empty datagram does. -/
theorem unprotected_sent :
    (∃ h w w', Run (step (platformWith failingSrtp)) (fun _ _ => True) sampleTransport h w ∧
      w.connectionEstablished = true ∧
      onRtpPacketSend (platformWith failingSrtp) w samplePacket =
        .ok (w', [.udpSend samplePacket IceLite.stranger]) ∧
      ¬ SentProtected (platformWith failingSrtp) w (.rtpPacketSend samplePacket)
        [.udpSend samplePacket IceLite.stranger]) ∧
    ∃ h w w', Run (step (platformWith sessionlessSrtp)) (fun _ _ => True) sampleTransport h w ∧
      w.connectionEstablished = true ∧
      onRtpPacketSend (platformWith sessionlessSrtp) w samplePacket =
        .ok (w', [.udpSend [] IceLite.stranger]) ∧
      ¬ SentProtected (platformWith sessionlessSrtp) w (.rtpPacketSend samplePacket)
        [.udpSend [] IceLite.stranger] := by
  refine ⟨?_, ?_⟩
  · obtain ⟨h, w, hr, -, hep, hsession, hconnected⟩ := connect_run (Or.inr rfl)
    let w' : WebrtcTransport Unit Bool :=
      { w with
        sendSrtpSession := some (sessionWith failingSrtp)
        protectBuffer := poke w.protectBuffer 0 samplePacket }
    have hsend : onRtpPacketSend (platformWith failingSrtp) w samplePacket =
        .ok (w', [.udpSend (window (poke w.protectBuffer 0 samplePacket) 0 samplePacket.length)
          w.selectedEndpoint]) := by
      simp only [onRtpPacketSend, sendProtected, hsession]
      rfl
    rw [window_poke_same, hep] at hsend
    have hiff := sentProtected_iff (show onMediaOutput (platformWith failingSrtp) w
      (.rtpPacketSend samplePacket) = _ from hsend)
    refine ⟨h, w, w', hr, hconnected, hsend, ?_⟩
    rw [hiff]
    rintro ⟨session, ctx, -, -, -, hok⟩
    exact absurd hok Bool.false_ne_true
  · obtain ⟨h, w, hr, -, hep, hsession, hconnected⟩ := connect_run (Or.inl rfl)
    let w' : WebrtcTransport Unit Bool :=
      { w with
        sendSrtpSession := some (sessionWith sessionlessSrtp)
        protectBuffer := poke w.protectBuffer 0 samplePacket }
    have hsend : onRtpPacketSend (platformWith sessionlessSrtp) w samplePacket =
        .ok (w', [.udpSend [] w.selectedEndpoint]) := by
      simp only [onRtpPacketSend, sendProtected, hsession]
      rfl
    rw [hep] at hsend
    have hiff := sentProtected_iff (show onMediaOutput (platformWith sessionlessSrtp) w
      (.rtpPacketSend samplePacket) = _ from hsend)
    refine ⟨h, w, w', hr, hconnected, hsend, ?_⟩
    rw [hiff]
    rintro ⟨session, ctx, hsession', hctx, -⟩
    rw [hsession] at hsession'
    cases hsession'
    cases hctx

end Samples

end WebrtcTransport

end WebrtcServer
