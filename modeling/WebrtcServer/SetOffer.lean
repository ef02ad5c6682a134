/-
# `SetOffer` — webrtc_transport.cpp

How a transport takes an offer: `sdptransform::parse` makes a JSON object of
the SDP, and `SetOffer` walks its m-lines.  A missing connection attribute
is looked for with `find` and refused.  The type of a line and the members
of its `rtp` and `fmtp` items are read with `at`, which throws.

The parser is a parameter.  `SdpSession` says what its grammar makes sure
of: the kinds of the values it stores.  It does not make sure that they are
there, since a group of a pattern that matches nothing is not stored.
-/
import WebrtcServer.Json

namespace WebrtcServer

open Lib Checked

/-- The fields of a transport that `SetOffer` writes. -/
structure RemoteOffer where
  rtpH264Payload : Int := -1
  rtpH264RtxPayload : Int := -1
  rtpOpusPayload : Int := -1
  iceUfrag : String := ""
  icePwd : String := ""
  fingerprintType : String := ""
  fingerprintHash : String := ""
  remoteSetup : String := ""
deriving DecidableEq

namespace RemoteOffer

def readSetup (o : RemoteOffer) (line : Json) : Checked Exception RemoteOffer := do
  require (line.has "setup")
  let remoteSetup ← ofExcept (line.atString "setup")
  return { o with remoteSetup }

/-- The first pair of credentials stays. -/
def readIce (o : RemoteOffer) (line : Json) : Checked Exception RemoteOffer := do
  require (line.has "iceUfrag" && line.has "icePwd")
  if o.iceUfrag = "" ∨ o.icePwd = "" then
    let iceUfrag ← ofExcept (line.atString "iceUfrag")
    let icePwd ← ofExcept (line.atString "icePwd")
    return { o with iceUfrag, icePwd }
  else
    return o

def readFingerprint (o : RemoteOffer) (line : Json) : Checked Exception RemoteOffer := do
  require (line.has "fingerprint")
  let fingerprint ← ofExcept (line.atKey "fingerprint")
  require (fingerprint.has "type" && fingerprint.has "hash")
  if o.fingerprintType = "" ∨ o.fingerprintHash = "" then
    let fingerprintType ← ofExcept (fingerprint.atString "type")
    let fingerprintHash ← ofExcept (fingerprint.atString "hash")
    return { o with fingerprintType, fingerprintHash }
  else
    return o

/-- `if (item.at(key) == value) payload = item.at("payload");` -/
def readItem (key value : String) (payload : Int) (item : Json) : Checked Exception Int := do
  let v ← ofExcept (item.atKey key)
  if v.isString value then
    let p ← ofExcept (item.atKey "payload")
    ofExcept p.getInt32
  else
    return payload

def readPayload (key value : String) (items : List Json) (payload : Int) :
    Checked Exception Int :=
  items.foldlM (readItem key value) payload

def readAudio (o : RemoteOffer) (audio : Json) : Checked Exception RemoteOffer := do
  require (audio.has "rtp")
  let audioRtp ← ofExcept (audio.atKey "rtp")
  let rtpOpusPayload ← readPayload "codec" "opus" audioRtp.items o.rtpOpusPayload
  return { o with rtpOpusPayload }

/-- `h264_rtx_config`. -/
def h264RtxConfig (h264Payload : Int) : String := "apt=" ++ toString h264Payload

def readVideo (o : RemoteOffer) (video : Json) : Checked Exception RemoteOffer := do
  require (video.has "rtp")
  let videoRtp ← ofExcept (video.atKey "rtp")
  let rtpH264Payload ← readPayload "codec" "H264" videoRtp.items o.rtpH264Payload
  if video.has "fmtp" then
    let fmtp ← ofExcept (video.atKey "fmtp")
    let rtpH264RtxPayload ←
      readPayload "config" (h264RtxConfig rtpH264Payload) fmtp.items o.rtpH264RtxPayload
    return { o with rtpH264Payload, rtpH264RtxPayload }
  else
    return { o with rtpH264Payload }

/-- `if (line.at("type") == type) …` -/
def ifType (type : String) (read : RemoteOffer → Json → Checked Exception RemoteOffer)
    (o : RemoteOffer) (line : Json) : Checked Exception RemoteOffer := do
  let t ← ofExcept (line.atKey "type")
  if t.isString type then read o line else return o

def readCredentials (o : RemoteOffer) (line : Json) : Checked Exception RemoteOffer := do
  let o ← o.readSetup line
  let o ← o.readIce line
  o.readFingerprint line

def readMedia (o : RemoteOffer) (line : Json) : Checked Exception RemoteOffer := do
  let o ← ifType "audio" readAudio o line
  ifType "video" readVideo o line

/-- The body of the loop over the m-lines. -/
def readLine (o : RemoteOffer) (line : Json) : Checked Exception RemoteOffer := do
  let o ← o.readCredentials line
  o.readMedia line

end RemoteOffer

open RemoteOffer in
def setOffer (parse : String → Except Exception Json) (o : RemoteOffer) (offer : String) :
    Checked Exception RemoteOffer := do
  let session ← ofExcept (parse offer)
  require (session.has "media")
  let media ← ofExcept (session.atKey "media")
  let lines ← ofExcept media.indexed
  let o ← lines.foldlM readLine
    { o with rtpH264Payload := -1, rtpH264RtxPayload := -1, rtpOpusPayload := -1 }
  require (o.rtpOpusPayload != -1 && o.rtpH264RtxPayload != -1 && o.rtpH264Payload != -1)
  return o

/-! ## What the grammar makes sure of -/

/-- An item of `rtp` or `fmtp`. -/
def SdpItem (item : Json) : Prop := ∀ v, item.find? "payload" = some v → ∃ n, v = .int n

def SdpString (v : Json) (key : String) : Prop := ∀ x, v.find? key = some x → ∃ s, x = .str s

/-- Every m-line begins with empty arrays `rtp` and `fmtp`. -/
def SdpItems (line : Json) (key : String) : Prop :=
  ∃ items, line.find? key = some (.arr items) ∧ ∀ item ∈ items, SdpItem item

structure SdpLine (line : Json) : Prop where
  setup : SdpString line "setup"
  iceUfrag : SdpString line "iceUfrag"
  icePwd : SdpString line "icePwd"
  fingerprint : ∀ f, line.find? "fingerprint" = some f → SdpString f "type" ∧ SdpString f "hash"
  rtp : SdpItems line "rtp"
  fmtp : SdpItems line "fmtp"

theorem SdpItems.find? {line : Json} {key : String} (h : SdpItems line key) :
    ∃ v, line.find? key = some v ∧ v.items = line.itemsAt key ∧
      ∀ item ∈ line.itemsAt key, SdpItem item := by
  rcases h with ⟨items, hfind, hitems⟩
  rw [Json.itemsAt_of_find? hfind]
  exact ⟨.arr items, hfind, rfl, hitems⟩

def SdpSession (session : Json) : Prop :=
  ∃ lines, session.find? "media" = some (.arr lines) ∧ ∀ line ∈ lines, SdpLine line

/-! ## The offers that can be read -/

/-- What `SetOffer` asks of an m-line before it looks at its media. -/
structure Credentialed (line : Json) : Prop where
  setup : line.has "setup" = true
  ice : line.has "iceUfrag" = true ∧ line.has "icePwd" = true
  fingerprint : ∃ f, line.find? "fingerprint" = some f ∧ f.has "type" = true ∧ f.has "hash" = true

/-- An item has the member that is compared, and its payload if they are equal. -/
def Usable (key value : String) (item : Json) : Prop :=
  item.has key = true ∧ (item.stringAt? key = some value → item.has "payload" = true)

/-- The payload of the last item with the value. -/
def choosePayload (key value : String) (payload : Int) (item : Json) : Int :=
  match item.stringAt? key == some value, item.find? "payload" with
  | true, some (.int n) => toInt32 n
  | _, _ => payload

/-- The H264 payload after an m-line. -/
def h264After (h264 : Int) (line : Json) : Int :=
  if line.stringAt? "type" = some "video" then
    (line.itemsAt "rtp").foldl (choosePayload "codec" "H264") h264
  else h264

/-- `payload` is the H264 payload found in the lines before. -/
structure ReadableLine (payload : Int) (line : Json) : Prop where
  type : line.has "type" = true
  opus : line.stringAt? "type" = some "audio" →
    ∀ item ∈ line.itemsAt "rtp", Usable "codec" "opus" item
  h264 : line.stringAt? "type" = some "video" →
    ∀ item ∈ line.itemsAt "rtp", Usable "codec" "H264" item
  rtx : line.stringAt? "type" = some "video" →
    ∀ item ∈ line.itemsAt "fmtp",
      Usable "config" (RemoteOffer.h264RtxConfig (h264After payload line)) item

/-- Every m-line can be read that comes before the first one to be refused. -/
def ReadableLines (payload : Int) : List Json → Prop
  | [] => True
  | line :: lines =>
      Credentialed line → ReadableLine payload line ∧ ReadableLines (h264After payload line) lines

def ReadableOffer (session : Json) : Prop := ReadableLines (-1) (session.itemsAt "media")

/-! ## Items -/

namespace RemoteOffer

variable {o : RemoteOffer} {line item : Json} {items : List Json} {key value : String}

theorem readItem_value (hitem : SdpItem item) (h : Usable key value item) (payload : Int) :
    readItem key value payload item = .value (choosePayload key value payload item) := by
  rcases Json.find?_of_has h.1 with ⟨v, hv⟩
  rw [readItem, Json.atKey_of_find? hv, ofExcept_ok, value_bind]
  cases heq : v.isString value with
  | true =>
      have hs : item.stringAt? key = some value :=
        Json.stringAt?_eq_some.mpr (by rw [hv, Json.isString_iff.mp heq])
      rcases Json.find?_of_has (h.2 hs) with ⟨p, hp⟩
      rcases hitem p hp with ⟨n, rfl⟩
      rw [if_pos rfl, Json.atKey_of_find? hp, ofExcept_ok, value_bind, choosePayload, hs, hp,
        beq_self_eq_true]
      rfl
  | false =>
      have hs : (item.stringAt? key == some value) = false := by
        rw [beq_eq_false_iff_ne]
        intro hs
        rw [Json.stringAt?_eq_some, hv, Option.some.injEq] at hs
        rw [hs, Json.isString_str] at heq
        cases heq
      rw [if_neg Bool.false_ne_true, choosePayload, hs]
      rfl

theorem readItem_throws (h : ¬ Usable key value item) (payload : Int) :
    Throws (readItem key value payload item) := by
  cases hk : item.has key with
  | false =>
      rcases Json.atKey_of_not_has hk with ⟨e, he⟩
      rw [readItem, he]
      exact ⟨e, rfl⟩
  | true =>
      rcases Json.find?_of_has hk with ⟨v, hv⟩
      have hlack := Classical.not_imp.mp (not_and.mp h hk)
      have heq : v = .str value := by
        have hs := hlack.1
        rw [Json.stringAt?_eq_some, hv] at hs
        exact Option.some.inj hs
      rcases Json.atKey_of_not_has (eq_false_of_ne_true hlack.2) with ⟨e, he⟩
      rw [readItem, Json.atKey_of_find? hv, ofExcept_ok, value_bind, heq, Json.isString_str,
        if_pos rfl, he]
      exact ⟨e, rfl⟩

theorem readPayload_value (hitems : ∀ item ∈ items, SdpItem item)
    (h : ∀ item ∈ items, Usable key value item) (payload : Int) :
    readPayload key value items payload =
      .value (items.foldl (choosePayload key value) payload) :=
  foldlM_value (fun p item hi => readItem_value (hitems item hi) (h item hi) p) payload

theorem readPayload_throws (hitems : ∀ item ∈ items, SdpItem item)
    (h : ¬ ∀ item ∈ items, Usable key value item) (payload : Int) :
    Throws (readPayload key value items payload) := by
  rcases Classical.not_forall.mp h with ⟨item, hi⟩
  exact foldlM_throws (fun p item hi hu => readItem_value (hitems item hi) hu p)
    (fun p item hu => readItem_throws hu p) ⟨item, Classical.not_imp.mp hi⟩ payload

/-! ## Attributes -/

theorem readSetup_value (hl : SdpLine line) (h : line.has "setup" = true) :
    ∃ o', readSetup o line = .value o' ∧ o'.rtpH264Payload = o.rtpH264Payload := by
  rcases Json.find?_of_has h with ⟨v, hv⟩
  rcases hl.setup v hv with ⟨s, rfl⟩
  rw [readSetup, h, Json.atString_of_find? hv]
  exact ⟨_, rfl, rfl⟩

theorem readSetup_refused (h : line.has "setup" = false) : readSetup o line = .refused := by
  rw [readSetup, h]
  rfl

theorem readIce_value (hl : SdpLine line)
    (h : line.has "iceUfrag" = true ∧ line.has "icePwd" = true) :
    ∃ o', readIce o line = .value o' ∧ o'.rtpH264Payload = o.rtpH264Payload := by
  rcases Json.find?_of_has h.1 with ⟨u, hu⟩
  rcases Json.find?_of_has h.2 with ⟨v, hv⟩
  rcases hl.iceUfrag u hu with ⟨ufrag, rfl⟩
  rcases hl.icePwd v hv with ⟨pwd, rfl⟩
  rw [readIce, h.1, h.2, Json.atString_of_find? hu, Json.atString_of_find? hv]
  simp only [Bool.and_self, require_true, value_bind, ofExcept_ok]
  split
  · exact ⟨_, rfl, rfl⟩
  · exact ⟨_, rfl, rfl⟩

theorem readIce_refused (h : ¬ (line.has "iceUfrag" = true ∧ line.has "icePwd" = true)) :
    readIce o line = .refused := by
  rw [← Bool.and_eq_true, Bool.not_eq_true] at h
  rw [readIce, h]
  rfl

theorem readFingerprint_value (hl : SdpLine line) {f : Json}
    (hf : line.find? "fingerprint" = some f) (h : f.has "type" = true ∧ f.has "hash" = true) :
    ∃ o', readFingerprint o line = .value o' ∧ o'.rtpH264Payload = o.rtpH264Payload := by
  rcases Json.find?_of_has h.1 with ⟨t, ht⟩
  rcases Json.find?_of_has h.2 with ⟨v, hv⟩
  rcases (hl.fingerprint f hf).1 t ht with ⟨type, rfl⟩
  rcases (hl.fingerprint f hf).2 v hv with ⟨hash, rfl⟩
  rw [readFingerprint, Json.has_of_find? hf, Json.atKey_of_find? hf]
  simp only [h.1, h.2, Bool.and_self, require_true, value_bind, ofExcept_ok,
    Json.atString_of_find? ht, Json.atString_of_find? hv]
  split
  · exact ⟨_, rfl, rfl⟩
  · exact ⟨_, rfl, rfl⟩

theorem readFingerprint_refused
    (h : ¬ ∃ f, line.find? "fingerprint" = some f ∧ f.has "type" = true ∧ f.has "hash" = true) :
    readFingerprint o line = .refused := by
  cases hf : line.has "fingerprint" with
  | false =>
      rw [readFingerprint, hf]
      rfl
  | true =>
      rcases Json.find?_of_has hf with ⟨f, hf'⟩
      have hn : (f.has "type" && f.has "hash") = false := by
        rw [← Bool.not_eq_true, Bool.and_eq_true]
        exact fun hth => h ⟨f, hf', hth⟩
      rw [readFingerprint, hf, Json.atKey_of_find? hf']
      simp only [require_true, value_bind, ofExcept_ok, hn, require_false, refused_bind]

theorem readCredentials_value (hl : SdpLine line) (h : Credentialed line) :
    ∃ o', readCredentials o line = .value o' ∧ o'.rtpH264Payload = o.rtpH264Payload := by
  rcases readSetup_value (o := o) hl h.setup with ⟨o₁, h₁, hp₁⟩
  rcases readIce_value (o := o₁) hl h.ice with ⟨o₂, h₂, hp₂⟩
  rcases h.fingerprint with ⟨f, hf, hth⟩
  rcases readFingerprint_value (o := o₂) hl hf hth with ⟨o₃, h₃, hp₃⟩
  refine ⟨o₃, ?_, hp₃.trans (hp₂.trans hp₁)⟩
  rw [readCredentials, h₁, value_bind, h₂, value_bind, h₃]

theorem readCredentials_refused (hl : SdpLine line) (h : ¬ Credentialed line) :
    readCredentials o line = .refused := by
  cases hs : line.has "setup" with
  | false =>
      rw [readCredentials, readSetup_refused hs, refused_bind]
  | true =>
      rcases readSetup_value (o := o) hl hs with ⟨o₁, h₁, -⟩
      rw [readCredentials, h₁, value_bind]
      by_cases hi : line.has "iceUfrag" = true ∧ line.has "icePwd" = true
      · rcases readIce_value (o := o₁) hl hi with ⟨o₂, h₂, -⟩
        rw [h₂, value_bind]
        exact readFingerprint_refused fun hf => h ⟨hs, hi, hf⟩
      · rw [readIce_refused hi, refused_bind]

/-! ## Media -/

section

variable {type : String} {read : RemoteOffer → Json → Checked Exception RemoteOffer}

theorem ifType_pos (h : line.stringAt? "type" = some type) :
    ifType type read o line = read o line := by
  rw [ifType, Json.atKey_of_find? (Json.stringAt?_eq_some.mp h), ofExcept_ok, value_bind,
    Json.isString_str, if_pos rfl]

theorem ifType_neg (ht : line.has "type" = true) (h : line.stringAt? "type" ≠ some type) :
    ifType type read o line = .value o := by
  rcases Json.find?_of_has ht with ⟨v, hv⟩
  have hne : v.isString type = false := eq_false_of_ne_true fun heq =>
    h (Json.stringAt?_eq_some.mpr (by rw [hv, Json.isString_iff.mp heq]))
  rw [ifType, Json.atKey_of_find? hv, ofExcept_ok, value_bind, hne]
  rfl

theorem ifType_throws (h : line.has "type" = false) : Throws (ifType type read o line) := by
  rcases Json.atKey_of_not_has h with ⟨e, he⟩
  rw [ifType, he]
  exact ⟨e, rfl⟩

end

theorem readAudio_value (hl : SdpLine line)
    (h : ∀ item ∈ line.itemsAt "rtp", Usable "codec" "opus" item) :
    ∃ o', readAudio o line = .value o' ∧ o'.rtpH264Payload = o.rtpH264Payload := by
  rcases hl.rtp.find? with ⟨v, hv, hitems, htyped⟩
  rw [readAudio, Json.has_of_find? hv, Json.atKey_of_find? hv]
  simp only [require_true, value_bind, ofExcept_ok, hitems, readPayload_value htyped h]
  exact ⟨_, rfl, rfl⟩

theorem readAudio_throws (hl : SdpLine line)
    (h : ¬ ∀ item ∈ line.itemsAt "rtp", Usable "codec" "opus" item) :
    Throws (readAudio o line) := by
  rcases hl.rtp.find? with ⟨v, hv, hitems, htyped⟩
  rw [readAudio, Json.has_of_find? hv, Json.atKey_of_find? hv]
  simp only [require_true, value_bind, ofExcept_ok, hitems]
  exact (readPayload_throws htyped h _).bind _

/-- The two loops of `readVideo`. -/
theorem readVideo_eq (hl : SdpLine line) :
    readVideo o line = do
      let rtpH264Payload ← readPayload "codec" "H264" (line.itemsAt "rtp") o.rtpH264Payload
      let rtpH264RtxPayload ← readPayload "config" (h264RtxConfig rtpH264Payload)
        (line.itemsAt "fmtp") o.rtpH264RtxPayload
      return { o with rtpH264Payload, rtpH264RtxPayload } := by
  rcases hl.rtp.find? with ⟨v, hv, hrtp, -⟩
  rcases hl.fmtp.find? with ⟨w, hw, hfmtp, -⟩
  rw [readVideo, Json.has_of_find? hv, Json.atKey_of_find? hv, Json.has_of_find? hw,
    Json.atKey_of_find? hw]
  simp only [require_true, value_bind, ofExcept_ok, hrtp, hfmtp, if_true]

theorem readVideo_value (hl : SdpLine line) (hv : line.stringAt? "type" = some "video")
    (hr : ReadableLine o.rtpH264Payload line) :
    ∃ o', readVideo o line = .value o' ∧
      o'.rtpH264Payload = h264After o.rtpH264Payload line := by
  rcases hl.rtp.find? with ⟨-, -, -, hrtp⟩
  rcases hl.fmtp.find? with ⟨-, -, -, hfmtp⟩
  have hrtx := hr.rtx hv
  rw [h264After, if_pos hv] at hrtx
  rw [readVideo_eq hl, readPayload_value hrtp (hr.h264 hv), value_bind,
    readPayload_value hfmtp hrtx, value_bind, h264After, if_pos hv]
  exact ⟨_, rfl, rfl⟩

theorem readVideo_throws (hl : SdpLine line) (hv : line.stringAt? "type" = some "video")
    (hr : ¬ ReadableLine o.rtpH264Payload line) : Throws (readVideo o line) := by
  rcases hl.rtp.find? with ⟨-, -, -, hrtp⟩
  rcases hl.fmtp.find? with ⟨-, -, -, hfmtp⟩
  rw [readVideo_eq hl]
  by_cases hh : ∀ item ∈ line.itemsAt "rtp", Usable "codec" "H264" item
  · rw [readPayload_value hrtp hh, value_bind]
    refine (readPayload_throws hfmtp (fun hrtx => hr ?_) _).bind _
    refine ⟨Json.has_of_find? (Json.stringAt?_eq_some.mp hv), fun ha => ?_, fun _ => hh,
      fun _ => ?_⟩
    · rw [hv] at ha
      exact absurd ha (by decide)
    · rw [h264After, if_pos hv]
      exact hrtx
  · exact (readPayload_throws hrtp hh _).bind _

theorem h264After_of_ne {payload : Int} (h : line.stringAt? "type" ≠ some "video") :
    h264After payload line = payload := by
  rw [h264After, if_neg h]

theorem readMedia_value (hl : SdpLine line) (hr : ReadableLine o.rtpH264Payload line) :
    ∃ o', readMedia o line = .value o' ∧
      o'.rtpH264Payload = h264After o.rtpH264Payload line := by
  by_cases ha : line.stringAt? "type" = some "audio"
  · have hv : line.stringAt? "type" ≠ some "video" := by
      rw [ha]
      decide
    rcases readAudio_value (o := o) hl (hr.opus ha) with ⟨o', ho', hp⟩
    refine ⟨o', ?_, hp.trans (h264After_of_ne hv).symm⟩
    rw [readMedia, ifType_pos ha, ho', value_bind, ifType_neg hr.type hv]
  · rw [readMedia, ifType_neg hr.type ha, value_bind]
    by_cases hv : line.stringAt? "type" = some "video"
    · rw [ifType_pos hv]
      exact readVideo_value hl hv hr
    · rw [ifType_neg hr.type hv]
      exact ⟨o, rfl, (h264After_of_ne hv).symm⟩

theorem readMedia_throws (hl : SdpLine line) (hr : ¬ ReadableLine o.rtpH264Payload line) :
    Throws (readMedia o line) := by
  cases ht : line.has "type" with
  | false => exact (ifType_throws ht).bind _
  | true =>
      by_cases ha : line.stringAt? "type" = some "audio"
      · have hv : line.stringAt? "type" ≠ some "video" := by
          rw [ha]
          decide
        rw [readMedia, ifType_pos ha]
        exact (readAudio_throws hl fun hopus => hr
          ⟨ht, fun _ => hopus, fun hv' => absurd hv' hv, fun hv' => absurd hv' hv⟩).bind _
      · rw [readMedia, ifType_neg ht ha, value_bind]
        by_cases hv : line.stringAt? "type" = some "video"
        · rw [ifType_pos hv]
          exact readVideo_throws hl hv hr
        · exact absurd ⟨ht, fun ha' => absurd ha' ha, fun hv' => absurd hv' hv,
            fun hv' => absurd hv' hv⟩ hr

/-! ## The walk over the m-lines -/

theorem readLine_refused (hl : SdpLine line) (hc : ¬ Credentialed line) :
    readLine o line = .refused := by
  rw [readLine, readCredentials_refused hl hc, refused_bind]

theorem readLine_value (hl : SdpLine line) (hc : Credentialed line)
    (hr : ReadableLine o.rtpH264Payload line) :
    ∃ o', readLine o line = .value o' ∧ o'.rtpH264Payload = h264After o.rtpH264Payload line := by
  rcases readCredentials_value (o := o) hl hc with ⟨o₁, h₁, hp⟩
  rw [readLine, h₁, value_bind, ← hp]
  exact readMedia_value hl (hp ▸ hr)

theorem readLine_throws (hl : SdpLine line) (hc : Credentialed line)
    (hr : ¬ ReadableLine o.rtpH264Payload line) : Throws (readLine o line) := by
  rcases readCredentials_value (o := o) hl hc with ⟨o₁, h₁, hp⟩
  rw [readLine, h₁, value_bind]
  exact readMedia_throws hl (hp ▸ hr)

theorem throws_readLines {lines : List Json} (hlines : ∀ line ∈ lines, SdpLine line)
    (o : RemoteOffer) :
    Throws (lines.foldlM readLine o) ↔ ¬ ReadableLines o.rtpH264Payload lines := by
  induction lines generalizing o with
  | nil =>
      exact ⟨fun h => absurd h (not_throws_value o), fun h => absurd trivial h⟩
  | cons line lines ih =>
      have hl : SdpLine line := hlines line List.mem_cons_self
      rw [List.foldlM_cons, ReadableLines]
      by_cases hc : Credentialed line
      · by_cases hr : ReadableLine o.rtpH264Payload line
        · rcases readLine_value hl hc hr with ⟨o', ho', hp⟩
          rw [ho', value_bind, ih (fun m hm => hlines m (List.mem_cons_of_mem _ hm)), hp]
          exact not_congr ⟨fun h _ => ⟨hr, h⟩, fun h => (h hc).2⟩
        · exact ⟨fun _ h => hr (h hc).1, fun _ => (readLine_throws hl hc hr).bind _⟩
      · rw [readLine_refused hl hc, refused_bind]
        exact ⟨fun h => absurd h not_throws_refused, fun h => absurd (fun hc' => absurd hc' hc) h⟩

end RemoteOffer

/-- `SetOffer` throws when the parser does, and when the walk comes to an
m-line that it cannot read. -/
theorem throws_setOffer {parse : String → Except Exception Json}
    (hparse : ∀ sdp session, parse sdp = .ok session → SdpSession session) (o : RemoteOffer)
    (offer : String) :
    Throws (setOffer parse o offer) ↔
      ¬ ∃ session, parse offer = .ok session ∧ ReadableOffer session := by
  rw [setOffer]
  cases h : parse offer with
  | error e =>
      rw [ofExcept_error, threw_bind]
      refine ⟨fun _ => ?_, fun _ => throws_threw e⟩
      rintro ⟨session, hs, -⟩
      cases hs
  | ok session =>
      rcases hparse offer session h with ⟨lines, hmedia, hlines⟩
      have hread : (∃ s, Except.ok session = (Except.ok s : Except Exception Json) ∧
          ReadableOffer s) ↔ ReadableLines (-1) lines := by
        have hitems : session.itemsAt "media" = lines := Json.itemsAt_of_find? hmedia
        constructor
        · rintro ⟨s, hs, hr⟩
          cases hs
          rwa [ReadableOffer, hitems] at hr
        · intro hr
          exact ⟨session, rfl, by rwa [ReadableOffer, hitems]⟩
      rw [hread, ofExcept_ok, value_bind, Json.has_of_find? hmedia, require_true, value_bind,
        Json.atKey_of_find? hmedia, ofExcept_ok, value_bind, Json.indexed, ofExcept_ok, value_bind]
      refine (throws_bind_iff fun o' => ?_).trans (RemoteOffer.throws_readLines hlines _)
      exact not_throws_require_bind (not_throws_value o')

/-! ## What has been read -/

namespace RemoteOffer

variable {o o' : RemoteOffer} {line : Json}

theorem readSetup_ok (h : readSetup o line = .value o') :
    ∃ remoteSetup, line.stringAt? "setup" = some remoteSetup ∧ o' = { o with remoteSetup } := by
  rcases bind_eq_value.mp h with ⟨-, -, h⟩
  rcases bind_eq_value.mp h with ⟨remoteSetup, hsetup, h⟩
  cases h
  exact ⟨remoteSetup, Json.stringAt?_of_atString (ofExcept_eq_value.mp hsetup), rfl⟩

theorem readIce_ok (h : readIce o line = .value o') :
    ∃ iceUfrag icePwd, o' = { o with iceUfrag, icePwd } := by
  rcases bind_eq_value.mp h with ⟨-, -, h⟩
  split at h
  · rcases bind_eq_value.mp h with ⟨iceUfrag, -, h⟩
    rcases bind_eq_value.mp h with ⟨icePwd, -, h⟩
    cases h
    exact ⟨iceUfrag, icePwd, rfl⟩
  · cases h
    exact ⟨o.iceUfrag, o.icePwd, rfl⟩

theorem readFingerprint_ok (h : readFingerprint o line = .value o') :
    ∃ fingerprintType fingerprintHash, o' = { o with fingerprintType, fingerprintHash } := by
  rcases bind_eq_value.mp h with ⟨-, -, h⟩
  rcases bind_eq_value.mp h with ⟨fingerprint, -, h⟩
  rcases bind_eq_value.mp h with ⟨-, -, h⟩
  split at h
  · rcases bind_eq_value.mp h with ⟨fingerprintType, -, h⟩
    rcases bind_eq_value.mp h with ⟨fingerprintHash, -, h⟩
    cases h
    exact ⟨fingerprintType, fingerprintHash, rfl⟩
  · cases h
    exact ⟨o.fingerprintType, o.fingerprintHash, rfl⟩

theorem readAudio_ok (h : readAudio o line = .value o') :
    ∃ rtpOpusPayload, o' = { o with rtpOpusPayload } := by
  rcases bind_eq_value.mp h with ⟨-, -, h⟩
  rcases bind_eq_value.mp h with ⟨audioRtp, -, h⟩
  rcases bind_eq_value.mp h with ⟨rtpOpusPayload, -, h⟩
  cases h
  exact ⟨rtpOpusPayload, rfl⟩

theorem readVideo_ok (h : readVideo o line = .value o') :
    ∃ rtpH264Payload rtpH264RtxPayload, o' = { o with rtpH264Payload, rtpH264RtxPayload } := by
  rcases bind_eq_value.mp h with ⟨-, -, h⟩
  rcases bind_eq_value.mp h with ⟨videoRtp, -, h⟩
  rcases bind_eq_value.mp h with ⟨rtpH264Payload, -, h⟩
  split at h
  · rcases bind_eq_value.mp h with ⟨fmtp, -, h⟩
    rcases bind_eq_value.mp h with ⟨rtpH264RtxPayload, -, h⟩
    cases h
    exact ⟨rtpH264Payload, rtpH264RtxPayload, rfl⟩
  · cases h
    exact ⟨rtpH264Payload, o.rtpH264RtxPayload, rfl⟩

theorem ifType_ok {type : String} {read : RemoteOffer → Json → Checked Exception RemoteOffer}
    (h : ifType type read o line = .value o') :
    line.stringAt? "type" = some type ∧ read o line = .value o' ∨
      line.stringAt? "type" ≠ some type ∧ o' = o := by
  rcases bind_eq_value.mp h with ⟨t, ht, h⟩
  rw [ofExcept_eq_value] at ht
  split at h
  · next heq =>
      rw [Json.isString_iff.mp heq] at ht
      exact Or.inl ⟨Json.stringAt?_eq_some.mpr (Json.find?_of_atKey ht), h⟩
  · next hne =>
      cases h
      refine Or.inr ⟨fun htype => ?_, rfl⟩
      rw [Json.stringAt?_eq_some, Json.find?_of_atKey ht, Option.some.injEq] at htype
      rw [htype, Json.isString_str] at hne
      exact absurd rfl hne

/-- What an m-line has left behind: its own role, and payloads of its own
type. -/
structure LineRead (o : RemoteOffer) (line : Json) (o' : RemoteOffer) : Prop where
  setup : line.stringAt? "setup" = some o'.remoteSetup
  audio : line.stringAt? "type" = some "audio" ∨ o'.rtpOpusPayload = o.rtpOpusPayload
  video : line.stringAt? "type" = some "video" ∨ o'.rtpH264Payload = o.rtpH264Payload

theorem readCredentials_ok (h : readCredentials o line = .value o') : LineRead o line o' := by
  rcases bind_eq_value.mp h with ⟨o₁, hsetup, h⟩
  rcases bind_eq_value.mp h with ⟨o₂, hice, h⟩
  rcases readSetup_ok hsetup with ⟨remoteSetup, hremote, rfl⟩
  rcases readIce_ok hice with ⟨iceUfrag, icePwd, rfl⟩
  rcases readFingerprint_ok h with ⟨fingerprintType, fingerprintHash, rfl⟩
  exact ⟨hremote, Or.inr rfl, Or.inr rfl⟩

theorem readMedia_ok {o₁ : RemoteOffer} (hread : LineRead o line o₁)
    (h : readMedia o₁ line = .value o') : LineRead o line o' := by
  rcases bind_eq_value.mp h with ⟨o₂, haudio, hvideo⟩
  have haudio' : LineRead o line o₂ := by
    rcases ifType_ok haudio with ⟨htype, haudio⟩ | ⟨-, rfl⟩
    · rcases readAudio_ok haudio with ⟨rtpOpusPayload, rfl⟩
      exact ⟨hread.setup, Or.inl htype, hread.video⟩
    · exact hread
  rcases ifType_ok hvideo with ⟨htype, hvideo⟩ | ⟨-, rfl⟩
  · rcases readVideo_ok hvideo with ⟨rtpH264Payload, rtpH264RtxPayload, rfl⟩
    exact ⟨haudio'.setup, haudio'.audio, Or.inl htype⟩
  · exact haudio'

theorem readLine_ok (h : readLine o line = .value o') : LineRead o line o' := by
  rcases bind_eq_value.mp h with ⟨o₁, hcredentials, hmedia⟩
  exact readMedia_ok (readCredentials_ok hcredentials) hmedia

/-- What the walk over the m-lines has left behind. -/
structure LinesRead (o : RemoteOffer) (lines : List Json) (o' : RemoteOffer) : Prop where
  setup : lines = [] ∨ ∃ line ∈ lines, line.stringAt? "setup" = some o'.remoteSetup
  audio : (∃ line ∈ lines, line.stringAt? "type" = some "audio") ∨
    o'.rtpOpusPayload = o.rtpOpusPayload
  video : (∃ line ∈ lines, line.stringAt? "type" = some "video") ∨
    o'.rtpH264Payload = o.rtpH264Payload

theorem readLines_ok {lines : List Json} (h : lines.foldlM readLine o = .value o') :
    LinesRead o lines o' := by
  induction lines generalizing o with
  | nil =>
      cases h
      exact ⟨Or.inl rfl, Or.inr rfl, Or.inr rfl⟩
  | cons line lines ih =>
      rw [List.foldlM_cons] at h
      rcases bind_eq_value.mp h with ⟨o₁, hline, hlines⟩
      have hfirst : LineRead o line o₁ := readLine_ok hline
      have hrest : LinesRead o₁ lines o' := ih hlines
      refine ⟨Or.inr ?_, ?_, ?_⟩
      · rcases hrest.setup with rfl | ⟨last, hmem, hlast⟩
        · cases hlines
          exact ⟨line, List.mem_cons_self, hfirst.setup⟩
        · exact ⟨last, List.mem_cons_of_mem _ hmem, hlast⟩
      · rcases hrest.audio with ⟨audio, hmem, haudio⟩ | hkeep
        · exact Or.inl ⟨audio, List.mem_cons_of_mem _ hmem, haudio⟩
        · rcases hfirst.audio with htype | hfirst
          · exact Or.inl ⟨line, List.mem_cons_self, htype⟩
          · exact Or.inr (hkeep.trans hfirst)
      · rcases hrest.video with ⟨video, hmem, hvideo⟩ | hkeep
        · exact Or.inl ⟨video, List.mem_cons_of_mem _ hmem, hvideo⟩
        · rcases hfirst.video with htype | hfirst
          · exact Or.inl ⟨line, List.mem_cons_self, htype⟩
          · exact Or.inr (hkeep.trans hfirst)

end RemoteOffer

/-! ## An accepted offer -/

/-- The walk over the m-lines of an accepted offer comes to its end and has
found all payloads. -/
theorem setOffer_value {parse : String → Except Exception Json} {o o' : RemoteOffer}
    {offer : String} {session : Json} (hparse : parse offer = .ok session)
    (h : setOffer parse o offer = .value o') :
    (session.itemsAt "media").foldlM RemoteOffer.readLine
        { o with rtpH264Payload := -1, rtpH264RtxPayload := -1, rtpOpusPayload := -1 } =
        .value o' ∧
      o'.rtpOpusPayload ≠ -1 ∧ o'.rtpH264RtxPayload ≠ -1 ∧ o'.rtpH264Payload ≠ -1 := by
  rw [setOffer, hparse, ofExcept_ok, value_bind] at h
  rcases bind_eq_value.mp h with ⟨-, -, h⟩
  rcases bind_eq_value.mp h with ⟨media, hmedia, h⟩
  rcases bind_eq_value.mp h with ⟨lines, hlines, h⟩
  rcases bind_eq_value.mp h with ⟨o₁, hwalk, h⟩
  rcases bind_eq_value.mp h with ⟨_, hfound, h⟩
  cases h
  rw [ofExcept_eq_value] at hmedia hlines
  rw [Json.itemsAt_of_find? (Json.find?_of_atKey hmedia), Json.items_of_indexed hlines]
  simp only [require_eq_value, Bool.and_eq_true, bne_iff_ne] at hfound
  exact ⟨hwalk, hfound.1.1, hfound.1.2, hfound.2⟩

/-- An accepted offer has an audio line and a video line, and the role that
is kept is the role of one of its m-lines. -/
theorem setOffer_lines {parse : String → Except Exception Json} {o o' : RemoteOffer}
    {offer : String} {session : Json} (hparse : parse offer = .ok session)
    (h : setOffer parse o offer = .value o') :
    (∃ line ∈ session.itemsAt "media", line.stringAt? "setup" = some o'.remoteSetup) ∧
      (∃ line ∈ session.itemsAt "media", line.stringAt? "type" = some "audio") ∧
      ∃ line ∈ session.itemsAt "media", line.stringAt? "type" = some "video" := by
  rcases setOffer_value hparse h with ⟨hwalk, hopus, -, hh264⟩
  have hread := RemoteOffer.readLines_ok hwalk
  have haudio := hread.audio.resolve_right hopus
  have hvideo := hread.video.resolve_right hh264
  refine ⟨hread.setup.resolve_left fun hnil => ?_, haudio, hvideo⟩
  rcases haudio with ⟨line, hmem, -⟩
  rw [hnil] at hmem
  cases hmem

end WebrtcServer
