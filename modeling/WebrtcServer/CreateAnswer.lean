/-
# `CreateAnswer` — webrtc_transport.cpp

The answer, as the JSON value that goes to `sdptransform::write`.  Of the
offer it uses the three payload numbers that `SetOffer` has found.  Its
shape is fixed: a video line with the mid 0, an audio line with the mid 1,
and one BUNDLE group of the two.  The m-lines of an answer have to be those
of the offer, in number, order, type and mid (`Mirrors`), and an accepted
offer may have any m-lines as long as its payloads are there.

An entry of an object stands where the source sets it.
-/
import WebrtcServer.SetOffer

namespace WebrtcServer

open Lib Checked

/-- What the answer takes from the configuration, the socket, the ICE agent
and the certificate. -/
structure LocalDescription where
  announcedIp : String
  listeningPort : Int
  localUfrag : String
  localPassword : String
  certificateFingerPrint : String

def videoH264Ssrc : Int := 12345678

def videoH264RtxSsrc : Int := 9527

def audioOpusSsrc : Int := 87654321

namespace LocalDescription

def candidate (d : LocalDescription) : Json :=
  .obj [("foundation", .str "4"), ("component", .int 1), ("transport", .str "udp"),
    ("priority", .int 2130706431), ("ip", .str d.announcedIp), ("port", .int d.listeningPort),
    ("type", .str "host")]

def fingerprint (d : LocalDescription) : Json :=
  .obj [("type", .str "sha-256"), ("hash", .str d.certificateFingerPrint)]

end LocalDescription

namespace RemoteOffer

def answerOrigin : Json :=
  .obj [("username", .str "-"), ("sessionId", .int 1495799811084970),
    ("sessionVersion", .int 1495799811084970), ("netType", .str "IN"), ("ipVer", .int 4),
    ("adddress", .str "0.0.0.0")]

def answerTiming : Json := .obj [("start", .int 0), ("stop", .int 0)]

def answerGroups : Json := .arr [.obj [("type", .str "BUNDLE"), ("mids", .str "0 1")]]

def answerMsidSemantic : Json :=
  .obj [("semantic", .str "WMS"), ("token", .str "WebrtcStreamServer")]

/-- The connection of a line. -/
def answerConnection : Json := .obj [("version", .int 4), ("ip", .str "0.0.0.0")]

def ssrcAttribute (ssrc : Int) (name value : String) : Json :=
  .obj [("id", .int ssrc), ("attribute", .str name), ("value", .str value)]

/-- The four attributes of a source of the track `trackId`. -/
def trackSsrcs (ssrc : Int) (trackId : String) : List Json :=
  [ssrcAttribute ssrc "cname" "wvod",
    ssrcAttribute ssrc "msid" ("WebrtcStreamServer " ++ trackId),
    ssrcAttribute ssrc "mslabel" "WebrtcStreamServer",
    ssrcAttribute ssrc "label" trackId]

def videoRtp (o : RemoteOffer) : Json :=
  .arr [.obj [("payload", .int o.rtpH264Payload), ("codec", .str "H264"), ("rate", .int 90000)],
    .obj [("payload", .int o.rtpH264RtxPayload), ("codec", .str "rtx"), ("rate", .int 90000)]]

def videoMedia (o : RemoteOffer) (d : LocalDescription) : Json :=
  .obj [("type", .str "video"), ("port", .int 9), ("protocol", .str "UDP/TLS/RTP/SAVPF"),
    ("payloads", .str (toString o.rtpH264Payload ++ " " ++ toString o.rtpH264RtxPayload)),
    ("connection", answerConnection), ("mid", .str "0"), ("direction", .str "sendonly"),
    ("rtcpMux", .str "rtcp-mux"), ("msid", .str "WebrtcStreamServer VideoTrackId"),
    ("rtcpFb", .arr [.obj [("payload", .int o.rtpH264Payload), ("type", .str "nack")]]),
    ("rtp", o.videoRtp),
    ("fmtp", .arr [.obj [("payload", .int o.rtpH264RtxPayload),
      ("config", .str (h264RtxConfig o.rtpH264Payload))]]),
    ("candidates", .arr [d.candidate]),
    ("ssrcGroups", .arr [.obj [("semantics", .str "FID"),
      ("ssrcs", .str (toString videoH264Ssrc ++ " " ++ toString videoH264RtxSsrc))]]),
    ("ssrcs", .arr (trackSsrcs videoH264Ssrc "VideoTrackId" ++
      trackSsrcs videoH264RtxSsrc "VideoTrackId"))]

def audioMedia (o : RemoteOffer) (d : LocalDescription) : Json :=
  .obj [("type", .str "audio"), ("port", .int 9), ("protocol", .str "UDP/TLS/RTP/SAVPF"),
    ("payloads", .str (toString o.rtpOpusPayload)), ("connection", answerConnection),
    ("mid", .str "1"), ("direction", .str "sendonly"), ("rtcpMux", .str "rtcp-mux"),
    ("msid", .str "WebrtcStreamServer AudioTrackId"),
    ("rtp", .arr [.obj [("payload", .int o.rtpOpusPayload), ("codec", .str "opus"),
      ("rate", .int 48000), ("encoding", .str "2")]]),
    ("fmtp", .arr [.obj [("payload", .int o.rtpOpusPayload),
      ("config", .str "minptime=20;useinbandfec=1")]]),
    ("candidates", .arr [d.candidate]),
    ("ssrcs", .arr (trackSsrcs audioOpusSsrc "AudioTrackId"))]

def createAnswer (o : RemoteOffer) (d : LocalDescription) : Json :=
  .obj [("version", .str "0"), ("origin", answerOrigin), ("timing", answerTiming),
    ("iceUfrag", .str d.localUfrag), ("icePwd", .str d.localPassword),
    ("icelite", .str "ice-lite"), ("setup", .str "active"), ("fingerprint", d.fingerprint),
    ("groups", answerGroups), ("msidSemantic", answerMsidSemantic),
    ("media", .arr [o.videoMedia d, o.audioMedia d])]

end RemoteOffer

/-! ## Offer and answer -/

/-- The media type and the mid of an m-line. -/
def mLine (line : Json) : Option String × Option String :=
  (line.stringAt? "type", line.stringAt? "mid")

def mLines (session : Json) : List (Option String × Option String) :=
  (session.itemsAt "media").map mLine

/-- The mids of the m-lines that have one. -/
def mids (session : Json) : List String :=
  (session.itemsAt "media").filterMap fun line => line.stringAt? "mid"

/-- A BUNDLE group lists exactly these mids. -/
def Bundles (session : Json) (mids : List String) : Prop :=
  ∃ group ∈ session.itemsAt "groups", group.stringAt? "type" = some "BUNDLE" ∧
    group.stringAt? "mids" = some (" ".intercalate mids)

structure Mirrors (offer answer : Json) : Prop where
  lines : mLines answer = mLines offer
  bundle : Bundles answer (mids offer)

/-- Two m-lines with the mids 0 and 1, the first of them a video line. -/
def VideoFirst (offer : Json) : Prop :=
  ∃ video other, offer.itemsAt "media" = [video, other] ∧
    mLine video = (some "video", some "0") ∧ other.stringAt? "mid" = some "1"

namespace RemoteOffer

variable {o : RemoteOffer} {offer : Json}

theorem mLines_createAnswer (o : RemoteOffer) (d : LocalDescription) :
    mLines (o.createAnswer d) = [(some "video", some "0"), (some "audio", some "1")] := rfl

theorem createAnswer_bundles (o : RemoteOffer) (d : LocalDescription) :
    Bundles (o.createAnswer d) ["0", "1"] :=
  ⟨_, List.mem_cons_self, rfl, rfl⟩

theorem videoFirst_of_mLines
    (h : mLines offer = [(some "video", some "0"), (some "audio", some "1")]) :
    VideoFirst offer := by
  rw [mLines, List.map_eq_cons_iff] at h
  rcases h with ⟨video, rest, hlines, hvideo, h⟩
  rw [List.map_eq_cons_iff] at h
  rcases h with ⟨audio, rest', hrest, haudio, h⟩
  rw [List.map_eq_nil_iff] at h
  refine ⟨video, audio, by rw [hlines, hrest, h], hvideo, congrArg Prod.snd haudio⟩

/-- Where there is an audio line, the second line must be it. -/
theorem mLines_of_videoFirst (h : VideoFirst offer)
    (haudio : ∃ line ∈ offer.itemsAt "media", line.stringAt? "type" = some "audio") :
    mLines offer = [(some "video", some "0"), (some "audio", some "1")] := by
  rcases h with ⟨video, other, hlines, hvideo, hmid⟩
  rcases haudio with ⟨line, hmem, htype⟩
  have hother : other.stringAt? "type" = some "audio" := by
    rw [hlines] at hmem
    rcases List.mem_cons.mp hmem with rfl | hmem
    · have hvideo' : line.stringAt? "type" = some "video" := congrArg Prod.fst hvideo
      rw [hvideo'] at htype
      exact absurd htype (by decide)
    · rw [← List.mem_singleton.mp hmem]
      exact htype
  rw [mLines, hlines, List.map_cons, hvideo, List.map_cons, mLine, hother, hmid, List.map_nil]

theorem mids_of_videoFirst (h : VideoFirst offer) : mids offer = ["0", "1"] := by
  rcases h with ⟨video, other, hlines, hvideo, hmid⟩
  have hmid' : video.stringAt? "mid" = some "0" := congrArg Prod.snd hvideo
  simp only [mids, hlines, List.filterMap_cons, hmid', hmid, List.filterMap_nil]

/-- The answer has the same two m-lines for every accepted offer, and
mirrors those with two m-lines, mids 0 and 1, and the video first. -/
theorem createAnswer_mirrors_iff {parse : String → Except Exception Json} {o o' : RemoteOffer}
    {offer : String} {session : Json} (hparse : parse offer = .ok session)
    (haccepted : setOffer parse o offer = .value o') (d : LocalDescription) :
    mLines (o'.createAnswer d) = [(some "video", some "0"), (some "audio", some "1")] ∧
      Bundles (o'.createAnswer d) ["0", "1"] ∧
      (Mirrors session (o'.createAnswer d) ↔ VideoFirst session) := by
  refine ⟨mLines_createAnswer o' d, createAnswer_bundles o' d, ?_⟩
  constructor
  · intro h
    exact videoFirst_of_mLines (h.lines.symm.trans (mLines_createAnswer o' d))
  · intro h
    have haudio := (setOffer_lines hparse haccepted).2.1
    refine ⟨(mLines_createAnswer o' d).trans (mLines_of_videoFirst h haudio).symm, ?_⟩
    rw [mids_of_videoFirst h]
    exact createAnswer_bundles o' d

/-! ## Two offers

The same two m-lines, in the order of the server's own page and the other
way round. -/

section Samples

/-- An m-line with the attributes that `SetOffer` asks for. -/
def offeredLine (setup type mid : String) (rtp fmtp : List Json) : Json :=
  .obj [("fingerprint", .obj [("hash", .str "4A:AD"), ("type", .str "sha-256")]),
    ("fmtp", .arr fmtp), ("icePwd", .str "x9cml"), ("iceUfrag", .str "F7gI"),
    ("mid", .str mid), ("rtp", .arr rtp), ("setup", .str setup), ("type", .str type)]

def offeredVideo (setup mid : String) : Json :=
  offeredLine setup "video" mid [.obj [("codec", .str "H264"), ("payload", .int 102)]]
    [.obj [("config", .str "apt=102"), ("payload", .int 103)]]

def offeredAudio (setup mid : String) : Json :=
  offeredLine setup "audio" mid [.obj [("codec", .str "opus"), ("payload", .int 111)]] []

def offeredSession (lines : List Json) : Json := .obj [("media", .arr lines)]

def videoFirstSession : Json :=
  offeredSession [offeredVideo "actpass" "0", offeredAudio "actpass" "1"]

def audioFirstSession : Json :=
  offeredSession [offeredAudio "actpass" "0", offeredVideo "actpass" "1"]

/-- What is kept of both. -/
def offeredPayloads (setup : String) : RemoteOffer where
  rtpH264Payload := 102
  rtpH264RtxPayload := 103
  rtpOpusPayload := 111
  iceUfrag := "F7gI"
  icePwd := "x9cml"
  fingerprintType := "sha-256"
  fingerprintHash := "4A:AD"
  remoteSetup := setup

def sampleDescription : LocalDescription where
  announcedIp := "127.0.0.1"
  listeningPort := 10000
  localUfrag := "abcd"
  localPassword := "0123456789abcdefghijklmn"
  certificateFingerPrint := "5A:5A"

/-- A parser that makes this session of every text. -/
def parserOf (session : Json) : String → Except Exception Json := fun _ => .ok session

theorem createAnswer_mirrors_iff_page :
    mLines ((offeredPayloads "actpass").createAnswer sampleDescription) =
        [(some "video", some "0"), (some "audio", some "1")] ∧
      Bundles ((offeredPayloads "actpass").createAnswer sampleDescription) ["0", "1"] ∧
      Mirrors videoFirstSession ((offeredPayloads "actpass").createAnswer sampleDescription) := by
  have hparse : parserOf videoFirstSession "" = .ok videoFirstSession := rfl
  have haccepted : setOffer (parserOf videoFirstSession) {} "" =
      .value (offeredPayloads "actpass") := rfl
  have hfirst : VideoFirst videoFirstSession := ⟨_, _, rfl, rfl, rfl⟩
  obtain ⟨hlines, hbundles, hmirrors⟩ :=
    createAnswer_mirrors_iff hparse haccepted sampleDescription
  exact ⟨hlines, hbundles, hmirrors.mpr hfirst⟩

/-- An accepted offer with the audio line first gets the answer of the other
order. -/
theorem audioFirst_not_mirrored :
    setOffer (parserOf audioFirstSession) {} "" = .value (offeredPayloads "actpass") ∧
      ¬ Mirrors audioFirstSession
        ((offeredPayloads "actpass").createAnswer sampleDescription) := by
  refine ⟨rfl, fun h => ?_⟩
  have hlines := h.lines
  exact absurd hlines (by decide)

end Samples

end RemoteOffer

end WebrtcServer
