/-
# `RequestAnswer` — the requests that are answered

A request is answered when `HandleRequest` comes to its end and writes one
response, and has added nothing if the response reports an error.  Whatever
keeps it from its end comes before its effects, so the second part always
holds and only the first has a condition (`Answerable`): the accesses that
are not guarded must find what they look for, and no viewer may hold the
source that the request names.
-/
import WebrtcServer.SignalingSession
import Mathlib.Tactic.ByContra

namespace WebrtcServer

open Lib Checked

/-- The response that is written. -/
def SignalingOutput.response? : SignalingOutput → Option Json
  | .asyncWrite response => some response
  | _ => none

def ReportsError (response : Json) : Prop := response.find? "error" = some (.bool true)

/-- One response is written; if it reports an error, the registry is as it
was and no transport was added. -/
def Answered (env : SignalingEnv) (m : MediaSourceManager) (request : Request) : Prop :=
  ∃ handled response, handleRequest env m request = .ok handled ∧
    handled.outputs.filterMap SignalingOutput.response? = [response] ∧
    (ReportsError response → handled.manager = m ∧
      ∀ streamId offer, .addTransport streamId offer ∉ handled.outputs)

/-- The member `offer` is an SDP that `SetOffer` can read to the end or up
to a refusal. -/
def OfferReadable (env : SignalingEnv) (json : Json) : Prop :=
  ∃ offer, json.stringAt? "offer" = some offer ∧
    ∃ session, env.sdpParse offer = .ok session ∧ ReadableOffer session

def PlayBody (env : SignalingEnv) (m : MediaSourceManager) (body : List UInt8) : Prop :=
  ∃ json, env.parse body = .ok json ∧
    ∃ streamId, json.stringAt? "streamId" = some streamId ∧
      (m.query streamId ≠ none → env.held streamId = false ∧ OfferReadable env json)

def PublishBody (env : SignalingEnv) (body : List UInt8) : Prop :=
  ∃ json, env.parse body = .ok json ∧ ∃ url, json.stringAt? "url" = some url

def UnpublishTarget (env : SignalingEnv) (m : MediaSourceManager) (target : String) : Prop :=
  ∀ id, afterFirst "/streams/".toList target.toList = some id →
    m.query (String.ofList id) ≠ none → env.held (String.ofList id) = false

/-- The request is for the registry. -/
def Request.IsStreams (request : Request) : Prop :=
  request.target ≠ "/play" ∧ "/streams".toList.isPrefixOf request.target.toList = true

structure Answerable (env : SignalingEnv) (m : MediaSourceManager) (request : Request) : Prop where
  play : request.target = "/play" → request.method = .post → PlayBody env m request.body
  publish : request.IsStreams → request.method = .post → PublishBody env request.body
  unpublish : request.IsStreams → request.method = .delete → UnpublishTarget env m request.target

namespace SignalingSession

variable {env : SignalingEnv} {m m' : MediaSourceManager} {request : Request}
  {outputs : List SignalingOutput} {response json : Json} {streamId target : String}
  {body : List UInt8}

/-! ## What a response says -/

theorem not_reportsError_success (key result : String) :
    ¬ ReportsError (successResponse key result) := by
  intro h
  cases h

theorem not_reportsError_null : ¬ ReportsError .null := by
  intro h
  cases h

theorem not_reportsError_list : ¬ ReportsError m.list := by
  intro h
  cases h

/-- What holds of a response before it is written. -/
structure Clean (m m' : MediaSourceManager) (outputs : List SignalingOutput) (response : Json) :
    Prop where
  writes : outputs.filterMap SignalingOutput.response? = []
  error : ReportsError response → m' = m ∧ outputs = []

theorem clean_error : Clean m m [] errorResponse := ⟨rfl, fun _ => ⟨rfl, rfl⟩⟩

theorem clean_of_not_error (h : ¬ ReportsError response) : Clean m m' [] response :=
  ⟨rfl, fun he => absurd he h⟩

theorem offerTransport_clean (h : offerTransport env streamId json = .ok (outputs, response)) :
    Clean m m outputs response := by
  rw [offerTransport] at h
  split at h
  · rcases bind_eq_ok.mp h with ⟨-, -, h⟩
    cases h
  · rcases bind_eq_ok.mp h with ⟨-, -, h⟩
    cases h
    exact clean_error
  · next offer _ =>
      split at h
      · rcases bind_eq_ok.mp h with ⟨-, -, h⟩
        cases h
        exact ⟨rfl, fun he => absurd he (not_reportsError_success _ _)⟩
      · rcases bind_eq_ok.mp h with ⟨-, -, h⟩
        cases h
        exact clean_error

theorem play_clean (h : play env m body = .ok (outputs, response)) :
    Clean m m outputs response := by
  rcases bind_eq_ok.mp h with ⟨json, -, h⟩
  rcases bind_eq_ok.mp h with ⟨streamId, -, h⟩
  rw [playStream] at h
  split at h
  · exact offerTransport_clean h
  · cases h
    exact clean_error

theorem publish_clean (h : publish env m body = .ok (m', response)) :
    Clean m m' [] response := by
  rcases bind_eq_ok.mp h with ⟨json, -, h⟩
  rcases bind_eq_ok.mp h with ⟨url, -, h⟩
  have hurl : publishUrl env m url = (m', response) := Except.ok.inj h
  rw [publishUrl] at hurl
  split at hurl
  · cases hurl
    exact clean_of_not_error (not_reportsError_success _ _)
  · next m₁ hadd =>
      cases hurl
      have hm : m' = m := by
        have := MediaSourceManager.add_none (congrArg Prod.snd hadd)
        rwa [hadd] at this
      rw [hm]
      exact clean_error

theorem unpublish_clean (h : unpublish env m target = .ok (m', response)) :
    Clean m m' [] response := by
  rw [unpublish] at h
  split at h
  · cases h
    exact clean_error
  · rcases bind_eq_ok.mp h with ⟨m₁, -, h⟩
    cases h
    exact clean_of_not_error not_reportsError_null

theorem respond_clean (h : respond env m request = .ok (m', outputs, response)) :
    Clean m m' outputs response := by
  rw [respond] at h
  split at h
  · split at h
    · rcases bind_eq_ok.mp h with ⟨⟨o, r⟩, hplay, h⟩
      cases h
      exact play_clean hplay
    · cases h
      exact clean_of_not_error not_reportsError_null
  · split at h
    · split at h
      · cases h
        exact clean_of_not_error not_reportsError_list
      · rcases bind_eq_ok.mp h with ⟨⟨m₁, r⟩, hpublish, h⟩
        cases h
        exact publish_clean hpublish
      · rcases bind_eq_ok.mp h with ⟨⟨m₁, r⟩, hunpublish, h⟩
        cases h
        exact unpublish_clean hunpublish
      · cases h
        exact clean_error
    · cases h
      exact clean_error

/-- A request is answered as soon as its handling comes to an end. -/
theorem answered_iff_returns : Answered env m request ↔ Returns (respond env m request) := by
  constructor
  · rintro ⟨handled, response, h, -⟩
    rcases bind_eq_ok.mp h with ⟨r, hr, -⟩
    exact ⟨r, hr⟩
  · rintro ⟨⟨m', outputs, response⟩, hr⟩
    have hclean : Clean m m' outputs response := respond_clean hr
    refine ⟨⟨m', outputs ++ [.asyncWrite response]⟩, response,
      bind_eq_ok.mpr ⟨_, hr, rfl⟩, ?_, fun he => ?_⟩
    · show (outputs ++ [SignalingOutput.asyncWrite response]).filterMap _ = [response]
      rw [List.filterMap_append, hclean.writes]
      rfl
    · rcases hclean.error he with ⟨rfl, rfl⟩
      refine ⟨rfl, fun streamId offer hmem => ?_⟩
      cases List.mem_singleton.mp hmem

/-! ## When the handling comes to an end -/

theorem throwing_eq_ok {α : Type} {x : Except Exception α} {a : α} :
    throwing x = .ok a ↔ x = .ok a := by
  cases x with
  | ok b =>
      show Except.ok b = Except.ok a ↔ _
      rw [Except.ok.injEq, Except.ok.injEq]
  | error e =>
      constructor
      · intro h
        cases h
      · intro h
        cases h

theorem returns_awaitReader {α : Type} {x : Except Escape α} :
    Returns (awaitReader env streamId >>= fun _ => x) ↔ env.held streamId = false ∧ Returns x := by
  rw [returns_bind, awaitReader]
  cases env.held streamId with
  | true =>
      constructor
      · rintro ⟨u, h, -⟩
        cases h
      · rintro ⟨h, -⟩
        cases h
  | false =>
      constructor
      · rintro ⟨u, -, h⟩
        exact ⟨rfl, h⟩
      · rintro ⟨-, h⟩
        exact ⟨(), rfl, h⟩

section

variable (hsdp : ∀ sdp session, env.sdpParse sdp = .ok session → SdpSession session)

include hsdp

theorem throws_offer :
    Throws (ofExcept (json.indexString "offer") >>= setOffer env.sdpParse {}) ↔
      ¬ OfferReadable env json := by
  cases h : json.indexString "offer" with
  | error e =>
      refine ⟨fun _ => ?_, fun _ => throws_threw e⟩
      rintro ⟨offer, hoffer, -⟩
      rw [Json.indexString_eq_ok.mpr hoffer] at h
      cases h
  | ok offer =>
      have hoffer : json.stringAt? "offer" = some offer := Json.indexString_eq_ok.mp h
      rw [ofExcept_ok, value_bind, throws_setOffer hsdp]
      refine not_congr ⟨fun hr => ⟨offer, hoffer, hr⟩, ?_⟩
      rintro ⟨offer', hoffer', hr⟩
      rw [hoffer, Option.some.injEq] at hoffer'
      rwa [hoffer']

/-- With a reader that goes on, only an exception keeps the offer from a
response. -/
theorem returns_offerTransport :
    Returns (offerTransport env streamId json) ↔
      env.held streamId = false ∧ OfferReadable env json := by
  have hthrows : Throws (ofExcept (json.indexString "offer") >>= setOffer env.sdpParse {}) ↔
      ¬ OfferReadable env json := throws_offer hsdp
  rw [offerTransport]
  split
  · next e hc =>
      rw [hc] at hthrows
      rw [returns_awaitReader]
      exact ⟨fun h => absurd h.2 (not_returns_error _),
        fun h => absurd h.2 (hthrows.mp (throws_threw e))⟩
  · next hc =>
      rw [hc] at hthrows
      have hr : OfferReadable env json := by
        by_contra hn
        exact not_throws_refused (hthrows.mpr hn)
      rw [returns_awaitReader]
      exact ⟨fun h => ⟨h.1, hr⟩, fun h => ⟨h.1, returns_ok _⟩⟩
  · next offer hc =>
      rw [hc] at hthrows
      have hr : OfferReadable env json := by
        by_contra hn
        exact not_throws_value offer (hthrows.mpr hn)
      split
      · rw [returns_awaitReader]
        exact ⟨fun h => ⟨h.1, hr⟩, fun h => ⟨h.1, returns_ok _⟩⟩
      · rw [returns_awaitReader]
        exact ⟨fun h => ⟨h.1, hr⟩, fun h => ⟨h.1, returns_ok _⟩⟩

theorem returns_playStream :
    Returns (playStream env m streamId json) ↔
      (m.query streamId ≠ none → env.held streamId = false ∧ OfferReadable env json) := by
  rw [playStream]
  cases m.query streamId with
  | some source =>
      show Returns (offerTransport env streamId json) ↔ _
      rw [returns_offerTransport hsdp]
      exact ⟨fun h _ => h, fun h => h (Option.some_ne_none source)⟩
  | none => exact ⟨fun _ h => absurd rfl h, fun _ => returns_ok _⟩

theorem returns_play : Returns (play env m body) ↔ PlayBody env m body := by
  simp only [play, PlayBody, returns_bind, throwing_eq_ok, Json.indexString_eq_ok,
    returns_playStream hsdp]

end

theorem returns_publish : Returns (publish env m body) ↔ PublishBody env body := by
  simp only [publish, PublishBody, returns_bind, throwing_eq_ok, Json.indexString_eq_ok]
  constructor
  · rintro ⟨json, hjson, url, hurl, -⟩
    exact ⟨json, hjson, url, hurl⟩
  · rintro ⟨json, hjson, url, hurl⟩
    exact ⟨json, hjson, url, hurl, returns_ok _⟩

theorem returns_removeSource {id : String} :
    Returns (removeSource env m id) ↔ (m.query id ≠ none → env.held id = false) := by
  rw [removeSource]
  cases m.query id with
  | some source =>
      show Returns (awaitReader env id >>= fun _ => pure (m.remove id)) ↔ _
      rw [returns_awaitReader]
      exact ⟨fun h _ => h.1, fun h => ⟨h (Option.some_ne_none source), returns_ok _⟩⟩
  | none => exact ⟨fun _ h => absurd rfl h, fun _ => returns_ok _⟩

theorem returns_unpublish : Returns (unpublish env m target) ↔ UnpublishTarget env m target := by
  rw [unpublish, UnpublishTarget]
  cases afterFirst "/streams/".toList target.toList with
  | none =>
      refine ⟨fun _ id h => ?_, fun _ => returns_ok _⟩
      cases h
  | some id =>
      show Returns (removeSource env m (String.ofList id) >>= fun m' => pure (m', Json.null)) ↔ _
      rw [returns_bind]
      constructor
      · rintro ⟨m', hm', -⟩ id' hid'
        cases hid'
        exact returns_removeSource.mp ⟨m', hm'⟩
      · intro h
        rcases returns_removeSource.mpr (h id rfl) with ⟨m', hm'⟩
        exact ⟨m', hm', returns_ok _⟩

theorem answerable_play_iff (htarget : request.target = "/play") :
    Answerable env m request ↔ (request.method = .post → PlayBody env m request.body) := by
  constructor
  · intro h
    exact h.play htarget
  · intro h
    exact ⟨fun _ => h, fun hs => absurd htarget hs.1, fun hs => absurd htarget hs.1⟩

theorem answerable_streams_iff (hs : request.IsStreams) :
    Answerable env m request ↔
      (request.method = .post → PublishBody env request.body) ∧
        (request.method = .delete → UnpublishTarget env m request.target) := by
  constructor
  · intro h
    exact ⟨h.publish hs, h.unpublish hs⟩
  · intro h
    exact ⟨fun htarget => absurd htarget hs.1, fun _ => h.1, fun _ => h.2⟩

theorem answerable_other (htarget : request.target ≠ "/play") (hs : ¬ request.IsStreams) :
    Answerable env m request :=
  ⟨fun ht => absurd ht htarget, fun h => absurd h hs, fun h => absurd h hs⟩

theorem returns_respond
    (hsdp : ∀ sdp session, env.sdpParse sdp = .ok session → SdpSession session) :
    Returns (respond env m request) ↔ Answerable env m request := by
  rw [respond]
  split
  · next htarget =>
      rw [answerable_play_iff htarget]
      split
      · next hpost =>
          refine (returns_bind_iff fun ⟨_, _⟩ => returns_ok _).trans ?_
          rw [returns_play hsdp]
          exact ⟨fun h _ => h, fun h => h hpost⟩
      · next hpost => exact ⟨fun _ hm => absurd hm hpost, fun _ => returns_ok _⟩
  · next htarget =>
      split
      · next hpattern =>
          rw [answerable_streams_iff ⟨htarget, hpattern⟩]
          split
          · next hm =>
              rw [hm]
              exact ⟨fun _ => ⟨nofun, nofun⟩, fun _ => returns_ok _⟩
          · next hm =>
              refine (returns_bind_iff fun ⟨_, _⟩ => returns_ok _).trans ?_
              rw [returns_publish, hm]
              exact ⟨fun h => ⟨fun _ => h, nofun⟩, fun h => h.1 rfl⟩
          · next hm =>
              refine (returns_bind_iff fun ⟨_, _⟩ => returns_ok _).trans ?_
              rw [returns_unpublish, hm]
              exact ⟨fun h => ⟨nofun, fun _ => h⟩, fun h => h.2 rfl⟩
          · next hm =>
              rw [hm]
              exact ⟨fun _ => ⟨nofun, nofun⟩, fun _ => returns_ok _⟩
      · next hpattern =>
          exact ⟨fun _ => answerable_other htarget fun hs => hpattern hs.2, fun _ => returns_ok _⟩

/-! ## A viewer's request

An offer with an audio and a video line, and what the parsers make of it. -/

def viewerAttributes : List String :=
  ["a=setup:actpass", "a=ice-ufrag:F7gI", "a=ice-pwd:x9cml", "a=fingerprint:sha-256 4A:AD"]

def viewerSdp : List String :=
  ["m=audio 9 UDP 111"] ++ viewerAttributes ++ ["a=rtpmap:111 opus/48000"] ++
    ["m=video 9 UDP 96 97"] ++ viewerAttributes ++
    ["a=rtpmap:96 H264/90000", "a=fmtp:97 apt=96"]

def viewerBody : String :=
  "\x7b\"streamId\": \"7\", \"offer\": \"" ++ String.intercalate "\\n" viewerSdp ++ "\"\x7d"

def viewerJson : Json :=
  .obj [("offer", .str (String.intercalate "\n" viewerSdp)), ("streamId", .str "7")]

def viewerLine (type payloads : String) (rtp fmtp : List Json) : Json :=
  .obj [("fingerprint", .obj [("hash", .str "4A:AD"), ("type", .str "sha-256")]),
    ("fmtp", .arr fmtp), ("icePwd", .str "x9cml"), ("iceUfrag", .str "F7gI"),
    ("payloads", .str payloads), ("port", .int 9), ("protocol", .str "UDP"), ("rtp", .arr rtp),
    ("setup", .str "actpass"), ("type", .str type)]

def rtpmap (codec : String) (payload rate : Int) : Json :=
  .obj [("codec", .str codec), ("payload", .int payload), ("rate", .int rate)]

def viewerSession : Json :=
  .obj [("media", .arr
    [viewerLine "audio" "111" [rtpmap "opus" 111 48000] [],
     viewerLine "video" "96 97" [rtpmap "H264" 96 90000]
      [.obj [("config", .str "apt=96"), ("payload", .int 97)]]])]

/-- The server that streams `7` and has a port for a transport. -/
def viewerEnv : SignalingEnv where
  parse _ := .ok viewerJson
  sdpParse _ := .ok viewerSession
  opens _ := false
  randomId := "8"
  start _ := true
  createAnswer _ := "v=0"
  held _ := false

theorem sdpItem_of_int {item : Json} {n : Int} (h : item.find? "payload" = some (.int n)) :
    SdpItem item :=
  fun _ hv => ⟨n, Option.some.inj (hv.symm.trans h)⟩

theorem sdpString_of_str {v : Json} {key s : String} (h : v.find? key = some (.str s)) :
    SdpString v key :=
  fun _ hx => ⟨s, Option.some.inj (hx.symm.trans h)⟩

theorem viewerLine_sdp {type payloads : String} {rtp fmtp : List Json}
    (hrtp : ∀ item ∈ rtp, SdpItem item) (hfmtp : ∀ item ∈ fmtp, SdpItem item) :
    SdpLine (viewerLine type payloads rtp fmtp) where
  setup := sdpString_of_str rfl
  iceUfrag := sdpString_of_str rfl
  icePwd := sdpString_of_str rfl
  fingerprint f hf := by
    have heq : f = .obj [("hash", .str "4A:AD"), ("type", .str "sha-256")] :=
      (Option.some.inj hf).symm
    rw [heq]
    exact ⟨sdpString_of_str rfl, sdpString_of_str rfl⟩
  rtp := ⟨rtp, rfl, hrtp⟩
  fmtp := ⟨fmtp, rfl, hfmtp⟩

theorem viewerSession_sdp : SdpSession viewerSession := by
  refine ⟨_, rfl, fun line hline => ?_⟩
  rcases List.mem_cons.mp hline with rfl | hline
  · refine viewerLine_sdp (fun item hi => ?_) nofun
    rw [List.mem_singleton.mp hi]
    exact sdpItem_of_int rfl
  · rw [List.mem_singleton.mp hline]
    refine viewerLine_sdp (fun item hi => ?_) (fun item hi => ?_)
    · rw [List.mem_singleton.mp hi]
      exact sdpItem_of_int rfl
    · rw [List.mem_singleton.mp hi]
      exact sdpItem_of_int rfl

theorem viewerSession_readable : ReadableOffer viewerSession := by
  intro _
  refine ⟨⟨rfl, fun _ item hi => ?_, nofun, nofun⟩, fun _ => ⟨⟨rfl, nofun, fun _ item hi => ?_,
    fun _ item hi => ?_⟩, trivial⟩⟩
  · rw [List.mem_singleton.mp hi]
    exact ⟨rfl, fun _ => rfl⟩
  · rw [List.mem_singleton.mp hi]
    exact ⟨rfl, fun _ => rfl⟩
  · rw [List.mem_singleton.mp hi]
    exact ⟨rfl, fun _ => rfl⟩

/-! ## The requests that are answered -/

/-- A request is answered exactly when the accesses on its way find what
they look for and no viewer holds the source it names. -/
theorem answered_iff_answerable
    (hsdp : ∀ sdp session, env.sdpParse sdp = .ok session → SdpSession session)
    (m : MediaSourceManager) (request : Request) :
    Answered env m request ↔ Answerable env m request := by
  rw [answered_iff_returns, returns_respond hsdp]

theorem answered_viewer :
    Answered viewerEnv ⟨[("7", ⟨"rtmp://a", true⟩)]⟩
      ⟨.post, "/play", viewerBody.toUTF8.toList⟩ := by
  refine (answered_iff_answerable (fun sdp session h => ?_) _ _).mpr
    ⟨fun _ _ => ?_, fun hs => absurd rfl hs.1, fun hs => absurd rfl hs.1⟩
  · cases h
    exact viewerSession_sdp
  · exact ⟨viewerJson, rfl, "7", rfl,
      fun _ => ⟨rfl, _, rfl, viewerSession, rfl, viewerSession_readable⟩⟩

/-- The same server gets an empty object where a URL is due. -/
theorem publish_without_url_escapes :
    ¬ Answered { viewerEnv with parse := fun _ => .ok (.obj []) } ⟨[]⟩
      ⟨.post, "/streams", [0x7b, 0x7d]⟩ := by
  rintro ⟨handled, response, h, -⟩
  have hthrows : handleRequest { viewerEnv with parse := fun _ => .ok (.obj []) } ⟨[]⟩
      ⟨.post, "/streams", [0x7b, 0x7d]⟩ = .error (.exception (.typeError 302)) := rfl
  rw [hthrows] at h
  cases h

end SignalingSession

end WebrtcServer
