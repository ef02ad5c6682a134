/-
# `DtlsRole` — webrtc_transport.cpp, dtls_transport.cpp

Who begins the DTLS handshake is decided in three places.  `SetOffer` keeps
the role of the last m-line and looks at none, `CreateAnswer` announces
`active` whatever was offered, and `Start` takes the role that `active` and
`actpass` leave to it.  Its case for a peer that is `active` sets the role
and then falls into the default, which gives up.

The three agree if every m-line leaves the server the active role.  Any
other accepted offer is answered, and its session never gets a handshake or
takes a role that one of the m-lines excludes.
-/
import WebrtcServer.Components
import WebrtcServer.CreateAnswer

namespace WebrtcServer

open Lib Checked

/-- The roles that may answer an offered one: one end is active, and the
other one passive. -/
def Setup.Answers (answered offered : Setup) : Prop :=
  match answered with
  | .active => offered = .passive ∨ offered = .actPass
  | .passive => offered = .active ∨ offered = .actPass
  | .actPass | .unknown => False

/-- The role that a session or an m-line announces. -/
def setupAt? (v : Json) : Option Setup := (v.stringAt? "setup").bind DtlsTransport.setupOfString

/-- The m-line leaves the active role to the other end. -/
def LeavesActive (line : Json) : Prop :=
  setupAt? line = some .passive ∨ setupAt? line = some .actPass

namespace WebrtcTransport

variable {Ctx Ssl Cert : Type} {p : Platform Ctx Ssl Cert} {w w' : WebrtcTransport Ctx Ssl}
  {out : List TransportOutput} {offer : Json}

/-- The event `e` completes ICE: DTLS starts, in the role that the answer
announces, and no m-line of the offer excludes that role. -/
def RoleAgreed (p : Platform Ctx Ssl Cert) (w : WebrtcTransport Ctx Ssl) (e : Event)
    (offer answer : Json) : Prop :=
  ∃ w' out t t', step p w e = .ok (w', out) ∧ w.dtlsTransport = some t ∧
    (t.start p.ssl w.remoteSetup).1 = true ∧ w'.dtlsTransport = some t' ∧
    setupAt? answer = some t'.setup ∧
    ∀ line ∈ offer.itemsAt "media", ∃ offered, setupAt? line = some offered ∧
      t'.setup.Answers offered

/-! ## The step that completes ICE -/

section Completion

/-- The completing step comes to its end, and has started DTLS. -/
theorem step_completes {e : Event} (hw : Assembled w) (he : Completes p w e) :
    ∃ w' out, step p w e = .ok (w', out) ∧ Starts p w w' := by
  have hok : ∃ w' out, step p w e = .ok (w', out) := by
    obtain ⟨d, clock, ice, rfl, hkind, -, -⟩ := he
    simp only [step, onUdpSocketDataReceive, hkind]
    exact receiveStun_ok hw d
  obtain ⟨w', out, hs⟩ := hok
  refine ⟨w', out, hs, ?_⟩
  cases (step_agents hs).dtls with
  | start _ hstarts => exact hstarts
  | keep hnot _ _ => exact absurd he hnot
  | feed _ _ hnot _ _ _ _ => exact absurd he hnot

theorem run_remoteSetup {C : WebrtcTransport Ctx Ssl → Event → Prop}
    {w₀ : WebrtcTransport Ctx Ssl} {h : List (Event × List TransportOutput)}
    (hr : Run (step p) C w₀ h w) : w.remoteSetup = w₀.remoteSetup :=
  hr.invariant (I := fun _ w => w.remoteSetup = w₀.remoteSetup) rfl
    fun _ _ _ _ _ hi _ hs => (step_agents hs).remoteSetup.trans hi

end Completion

/-! ## The three places -/

section Agreement

variable {e : Event} {o : RemoteOffer} {d : LocalDescription}

theorem setupAt?_createAnswer (o : RemoteOffer) (d : LocalDescription) :
    setupAt? (o.createAnswer d) = some .active := rfl

theorem leavesActive_of_agreed (h : RoleAgreed p w e offer (o.createAnswer d)) :
    ∀ line ∈ offer.itemsAt "media", LeavesActive line := by
  obtain ⟨w', out, t, t', -, -, -, -, hanswer, hlines⟩ := h
  have hactive : t'.setup = .active := by
    rw [setupAt?_createAnswer, Option.some.injEq] at hanswer
    exact hanswer.symm
  intro line hline
  obtain ⟨offered, hoffered, hanswers⟩ := hlines line hline
  rw [hactive] at hanswers
  rcases hanswers with rfl | rfl
  · exact Or.inl hoffered
  · exact Or.inr hoffered

/-- `Start` succeeds with a role that one of the m-lines has. -/
theorem start_of_leavesActive {t : DtlsTransport Ssl} {line : Json} {remoteSetup : String}
    (ht : t.ssl.isSome = true) (hsetup : line.stringAt? "setup" = some remoteSetup)
    (hleaves : LeavesActive line) : (t.start p.ssl remoteSetup).1 = true := by
  rw [DtlsTransport.start_iff]
  rw [LeavesActive, setupAt?, hsetup, Option.bind_some] at hleaves
  exact ⟨hleaves, ht⟩

theorem agreed_of_leavesActive (hw : Assembled w) (he : Completes p w e) {line : Json}
    (hmem : line ∈ offer.itemsAt "media") (hsetup : line.stringAt? "setup" = some w.remoteSetup)
    (hleaves : ∀ line ∈ offer.itemsAt "media", LeavesActive line) :
    RoleAgreed p w e offer (o.createAnswer d) := by
  obtain ⟨w', out, hs, t, hdtls, -, hdtls', -⟩ := step_completes hw he
  obtain ⟨t₁, hdtls₁, ht⟩ := hw.dtls
  obtain rfl := Option.some.inj (hdtls.symm.trans hdtls₁)
  have hstart : (t.start p.ssl w.remoteSetup).1 = true :=
    start_of_leavesActive ht hsetup (hleaves line hmem)
  have hrole := DtlsTransport.start_setup hstart
  refine ⟨w', out, t, _, hs, hdtls, hstart, hdtls', ?_, ?_⟩
  · rw [hrole]
    exact setupAt?_createAnswer o d
  · intro line hline
    rw [hrole]
    rcases hleaves line hline with hpassive | hactPass
    · exact ⟨.passive, hpassive, Or.inl rfl⟩
    · exact ⟨.actPass, hactPass, Or.inr rfl⟩

end Agreement

/-- Whenever ICE completes in a session with an accepted offer, DTLS starts
in the announced role, and no m-line excludes that role, exactly when every
m-line leaves the active role to the server. -/
theorem role_agreed_iff {parse : String → Except Exception Json} {o o' : RemoteOffer}
    {sdp : String} {session : Json} {iceLite : IceLite} {dtls : DtlsTransport Ssl}
    {protectBuffer : Memory} {h : List (Event × List TransportOutput)} {e : Event}
    (hparse : parse sdp = .ok session) (haccepted : setOffer parse o sdp = .value o')
    (hssl : dtls.ssl.isSome = true)
    (hr : Run (step p) (fun _ _ => True) (started iceLite dtls o'.rtpH264Payload
      o'.rtpH264RtxPayload o'.rtpOpusPayload o'.remoteSetup protectBuffer) h w)
    (he : Completes p w e) (d : LocalDescription) :
    RoleAgreed p w e session (o'.createAnswer d) ↔
      ∀ line ∈ session.itemsAt "media", LeavesActive line := by
  obtain ⟨⟨line, hmem, hsetup⟩, -, -⟩ := setOffer_lines hparse haccepted
  have hw : Assembled w := (run_assembled (assembled_started hssl) rfl hr).1
  have hremote : w.remoteSetup = o'.remoteSetup := run_remoteSetup hr
  constructor
  · intro hagreed
    exact leavesActive_of_agreed hagreed
  · intro hleaves
    exact agreed_of_leavesActive hw he hmem (hremote ▸ hsetup) hleaves

/-! ## Two offers

The page's own offer, and one that wants to be active itself. -/

section Samples

open RemoteOffer

def roleSession (setup : String) : Json :=
  offeredSession [offeredVideo setup "0", offeredAudio setup "1"]

/-- The transport for such an offer when `Start` has returned. -/
def roleTransport (setup : String) : WebrtcTransport Unit Bool :=
  started IceLite.sampleAgent sampleEndpoint 102 103 111 setup fun _ => 0

/-- A first request, and a second one that completes ICE. -/
theorem role_run (setup : String) : ∃ h w,
    Run (step (samplePlatform announced)) (fun _ _ => True) (roleTransport setup) h w ∧
      Completes (samplePlatform announced) w (receive IceLite.bareNomination) := by
  have hfirst : ∃ o₁, step (samplePlatform announced) (roleTransport setup)
      (receive IceLite.bareNomination) =
        .ok ({ roleTransport setup with iceLite := some IceLite.afterFirst }, o₁) := ⟨_, rfl⟩
  obtain ⟨o₁, hs⟩ := hfirst
  refine ⟨_, _, .snoc .nil trivial hs, IceLite.bareNomination, _, IceLite.afterFirst, rfl, ?_, rfl,
    ?_⟩
  · decide
  · decide

theorem role_agreed_iff_actpass : ∃ h w,
    Run (step (samplePlatform announced)) (fun _ _ => True) (roleTransport "actpass") h w ∧
      Completes (samplePlatform announced) w (receive IceLite.bareNomination) ∧
      (RoleAgreed (samplePlatform announced) w (receive IceLite.bareNomination)
          (roleSession "actpass") ((offeredPayloads "actpass").createAnswer sampleDescription) ↔
        ∀ line ∈ (roleSession "actpass").itemsAt "media", LeavesActive line) := by
  obtain ⟨h, w, hr, he⟩ := role_run "actpass"
  have hparse : parserOf (roleSession "actpass") "" = .ok (roleSession "actpass") := rfl
  have haccepted : setOffer (parserOf (roleSession "actpass")) {} "" =
      .value (offeredPayloads "actpass") := rfl
  exact ⟨h, w, hr, he, role_agreed_iff hparse haccepted rfl hr he sampleDescription⟩

/-- An accepted offer of a peer that is active: ICE completes, and `Start`
returns false. -/
theorem active_offer_not_started :
    setOffer (parserOf (roleSession "active")) {} "" = .value (offeredPayloads "active") ∧
      ∃ h w, Run (step (samplePlatform announced)) (fun _ _ => True) (roleTransport "active") h w ∧
        Completes (samplePlatform announced) w (receive IceLite.bareNomination) ∧
        (sampleEndpoint.start (samplePlatform announced).ssl "active").1 = false ∧
        ¬ RoleAgreed (samplePlatform announced) w (receive IceLite.bareNomination)
          (roleSession "active")
          ((offeredPayloads "active").createAnswer sampleDescription) := by
  obtain ⟨h, w, hr, he⟩ := role_run "active"
  refine ⟨rfl, h, w, hr, he, rfl, fun hagreed => ?_⟩
  have hvideo := leavesActive_of_agreed hagreed (offeredVideo "active" "0") List.mem_cons_self
  rcases hvideo with hpassive | hactPass
  · exact absurd hpassive (by decide)
  · exact absurd hactPass (by decide)

end Samples

end WebrtcTransport

end WebrtcServer
