/-
# `OfferPayloads` — webrtc_transport.cpp, `SetOffer`

Which payloads an accepted offer leaves behind.  The H264 payload is the
one listed last in the video lines.  The RTX payload is the one named last:
an fmtp item names one when its config is `apt=` and the H264 payload that
was listed last when the walk came to the item's line.  The two may come
from different m-lines, and then nothing ties them to each other, while the
answer announces the one as the RTX payload of the other.
-/
import WebrtcServer.CreateAnswer

namespace WebrtcServer

open Lib Checked RemoteOffer

/-! ## The payloads that an offer lists -/

/-- The payload of an item, as the `int` it is converted to. -/
def Json.payload? (item : Json) : Option Int :=
  (item.find? "payload").bind fun p => p.getInt32.toOption

/-- The payload of an item that has `value` under `key`. -/
def payloadFor? (key value : String) (item : Json) : Option Int :=
  if item.stringAt? key = some value then item.payload? else none

def listedPayloads (key value : String) (items : List Json) : List Int :=
  items.filterMap (payloadFor? key value)

/-- The payloads of the opus entries of an audio line. -/
def opusPayloads (line : Json) : List Int :=
  if line.stringAt? "type" = some "audio" then
    listedPayloads "codec" "opus" (line.itemsAt "rtp")
  else []

/-- The payloads of the H264 entries of a video line. -/
def h264Payloads (line : Json) : List Int :=
  if line.stringAt? "type" = some "video" then
    listedPayloads "codec" "H264" (line.itemsAt "rtp")
  else []

/-- The payloads of the fmtp entries of a video line that name `h264`. -/
def rtxPayloads (h264 : Int) (line : Json) : List Int :=
  if line.stringAt? "type" = some "video" then
    listedPayloads "config" (h264RtxConfig h264) (line.itemsAt "fmtp")
  else []

/-- The m-line lists `h264` as an H264 payload and `rtx` as the
retransmission of `h264`. -/
def Ties (h264 rtx : Int) (line : Json) : Prop :=
  h264 ∈ h264Payloads line ∧ rtx ∈ rtxPayloads h264 line

/-- The payloads that a session announces for a codec. -/
def announced (session : Json) (codec : String) : List Int :=
  (session.itemsAt "media").flatMap fun line => listedPayloads "codec" codec (line.itemsAt "rtp")

/-- The three payloads that are kept belong to the m-lines of the offer, the
two of the video to one m-line, and so do those of the answer. -/
structure Associated (session : Json) (o : RemoteOffer) (d : LocalDescription) : Prop where
  video : ∃ line ∈ session.itemsAt "media", Ties o.rtpH264Payload o.rtpH264RtxPayload line
  audio : ∃ line ∈ session.itemsAt "media", o.rtpOpusPayload ∈ opusPayloads line
  answer : ∀ h264 ∈ announced (o.createAnswer d) "H264",
    ∀ rtx ∈ announced (o.createAnswer d) "rtx",
      ∃ line ∈ session.itemsAt "media", Ties h264 rtx line

/-! ## Where they stand -/

/-- What `payloads` finds in the line at a position. -/
def payloadsAt (payloads : Nat → Json → List Int) (lines : List Json) (k : Nat) : List Int :=
  (lines[k]?.map (payloads k)).getD []

def opusAt : List Json → Nat → List Int := payloadsAt fun _ => opusPayloads

def h264At : List Json → Nat → List Int := payloadsAt fun _ => h264Payloads

/-- The H264 payload listed last up to position `k`, or −1. -/
def h264Upto (lines : List Json) (k : Nat) : Int :=
  ((lines.take (k + 1)).flatMap h264Payloads).getLastD (-1)

/-- The RTX payloads named at a position. -/
def rtxAt (lines : List Json) : Nat → List Int :=
  payloadsAt (fun k => rtxPayloads (h264Upto lines k)) lines

/-- `p` is the last of all, and stands at position `k`. -/
def LastAt (payloads : Nat → List Int) (k : Nat) (p : Int) : Prop :=
  (payloads k).getLast? = some p ∧ ∀ i, k < i → payloads i = []

/-- The m-line that lists the last H264 payload also names the last RTX
payload; or they are two m-lines, and some m-line happens to tie the one
payload to the other. -/
def ListedTogether (lines : List Json) : Prop :=
  (∃ k h264 rtx, LastAt (h264At lines) k h264 ∧ LastAt (rtxAt lines) k rtx) ∨
  ∃ k j h264 rtx, k ≠ j ∧ LastAt (h264At lines) k h264 ∧ LastAt (rtxAt lines) j rtx ∧
    ∃ line ∈ lines, Ties h264 rtx line

section Positions

variable {payloads payloads' : Nat → List Int} {of : Nat → Json → List Int} {lines : List Json}
  {k j : Nat} {p q : Int}

/-- There is one last position. -/
theorem LastAt.unique (h : LastAt payloads k p) (h' : LastAt payloads j q) : k = j ∧ p = q := by
  have hne : ∀ {i : Nat} {r : Int}, LastAt payloads i r → payloads i ≠ [] := by
    intro i r hi hnil
    have hlast := hi.1
    rw [hnil] at hlast
    cases hlast
  have heq : k = j := by
    rcases Nat.lt_trichotomy k j with hlt | heq | hgt
    · exact absurd (h.2 j hlt) (hne h')
    · exact heq
    · exact absurd (h'.2 k hgt) (hne h)
  subst heq
  exact ⟨rfl, Option.some.inj (h.1.symm.trans h'.1)⟩

theorem payloadsAt_of_getElem? {line : Json} (h : lines[k]? = some line) :
    payloadsAt of lines k = of k line := by
  rw [payloadsAt, h]
  rfl

theorem payloadsAt_past (h : lines.length ≤ k) : payloadsAt of lines k = [] := by
  rw [payloadsAt, List.getElem?_eq_none h]
  rfl

theorem payloadsAt_append {line : Json} (h : k < lines.length) :
    payloadsAt of (lines ++ [line]) k = payloadsAt of lines k := by
  rw [payloadsAt, payloadsAt, List.getElem?_append_left h]

theorem payloadsAt_concat (line : Json) :
    payloadsAt of (lines ++ [line]) lines.length = of lines.length line :=
  payloadsAt_of_getElem? List.getElem?_concat_length

/-- What stands last stands in some line. -/
theorem LastAt.mem (h : LastAt (payloadsAt of lines) k p) :
    ∃ line ∈ lines, lines[k]? = some line ∧ p ∈ of k line := by
  cases hline : lines[k]? with
  | none =>
      have hlast := h.1
      rw [payloadsAt, hline] at hlast
      cases hlast
  | some line =>
      have hlast := h.1
      rw [payloadsAt_of_getElem? hline] at hlast
      exact ⟨line, List.mem_of_getElem? hline, rfl, List.mem_of_getLast? hlast⟩

/-- A field that starts at −1 and follows the list. -/
def Follows (payloads : Nat → List Int) (p : Int) : Prop := p = -1 ∨ ∃ k, LastAt payloads k p

/-- One more position: its last payload, if it has one, is the last of all. -/
theorem Follows.concat {n : Nat} (h : Follows payloads p) (hpast : ∀ i, n ≤ i → payloads i = [])
    (hsame : ∀ i, i < n → payloads' i = payloads i) (hpast' : ∀ i, n < i → payloads' i = []) :
    Follows payloads' ((payloads' n).getLastD p) := by
  cases hlast : (payloads' n).getLast? with
  | some q =>
      rw [List.getLastD_eq_getLast?, hlast]
      exact Or.inr ⟨n, hlast, hpast'⟩
  | none =>
      rw [List.getLastD_eq_getLast?, hlast]
      have hnil : payloads' n = [] := List.getLast?_eq_none_iff.mp hlast
      have heq : payloads' = payloads := by
        funext i
        rcases Nat.lt_trichotomy i n with hlt | rfl | hgt
        · exact hsame i hlt
        · rw [hnil, hpast i (Nat.le_refl i)]
        · rw [hpast' i hgt, hpast i (Nat.le_of_lt hgt)]
      rw [heq]
      exact h

end Positions

/-! ## What one m-line does to the payloads -/

namespace RemoteOffer

variable {o o' : RemoteOffer} {line item : Json} {items : List Json} {key value : String}

theorem readItem_listed {p p' : Int} (h : readItem key value p item = .value p') :
    p' = (payloadFor? key value item).getD p := by
  rcases bind_eq_value.mp h with ⟨v, hv, h⟩
  rw [ofExcept_eq_value] at hv
  have hfind := Json.find?_of_atKey hv
  split at h
  · next heq =>
      rcases bind_eq_value.mp h with ⟨w, hw, h⟩
      rw [ofExcept_eq_value] at hw h
      rw [Json.isString_iff.mp heq] at hfind
      rw [payloadFor?, if_pos (Json.stringAt?_eq_some.mpr hfind), Json.payload?,
        Json.find?_of_atKey hw, Option.bind_some, h]
      rfl
  · next hne =>
      cases h
      have hother : item.stringAt? key ≠ some value := by
        intro hs
        rw [Json.stringAt?_eq_some, hfind, Option.some.injEq] at hs
        rw [hs, Json.isString_str] at hne
        exact hne rfl
      rw [payloadFor?, if_neg hother]
      rfl

theorem readPayload_listed {p p' : Int} (h : readPayload key value items p = .value p') :
    p' = (listedPayloads key value items).getLastD p := by
  induction items generalizing p with
  | nil =>
      cases h
      rfl
  | cons item items ih =>
      rw [readPayload, List.foldlM_cons] at h
      rcases bind_eq_value.mp h with ⟨p₁, hitem, hitems⟩
      have hrest : p' = (listedPayloads key value items).getLastD p₁ := ih hitems
      rw [hrest, readItem_listed hitem, listedPayloads, listedPayloads, List.filterMap_cons]
      cases payloadFor? key value item with
      | none => rfl
      | some q => exact List.getLastD_cons.symm

/-- The payloads after an m-line. -/
structure PayloadsRead (o : RemoteOffer) (line : Json) (o' : RemoteOffer) : Prop where
  opus : o'.rtpOpusPayload = (opusPayloads line).getLastD o.rtpOpusPayload
  h264 : o'.rtpH264Payload = (h264Payloads line).getLastD o.rtpH264Payload
  rtx : o'.rtpH264RtxPayload = (rtxPayloads o'.rtpH264Payload line).getLastD o.rtpH264RtxPayload

theorem readCredentials_payloads (h : readCredentials o line = .value o') :
    o'.rtpOpusPayload = o.rtpOpusPayload ∧ o'.rtpH264Payload = o.rtpH264Payload ∧
      o'.rtpH264RtxPayload = o.rtpH264RtxPayload := by
  rcases bind_eq_value.mp h with ⟨o₁, hsetup, h⟩
  rcases bind_eq_value.mp h with ⟨o₂, hice, h⟩
  rcases readSetup_ok hsetup with ⟨remoteSetup, -, rfl⟩
  rcases readIce_ok hice with ⟨iceUfrag, icePwd, rfl⟩
  rcases readFingerprint_ok h with ⟨fingerprintType, fingerprintHash, rfl⟩
  exact ⟨rfl, rfl, rfl⟩

theorem readAudio_listed (h : readAudio o line = .value o') :
    o' = { o with
      rtpOpusPayload :=
        (listedPayloads "codec" "opus" (line.itemsAt "rtp")).getLastD o.rtpOpusPayload } := by
  rcases bind_eq_value.mp h with ⟨-, -, h⟩
  rcases bind_eq_value.mp h with ⟨audioRtp, hrtp, h⟩
  rcases bind_eq_value.mp h with ⟨rtpOpusPayload, hopus, h⟩
  rw [ofExcept_eq_value] at hrtp
  cases h
  rw [Json.itemsAt_of_find? (Json.find?_of_atKey hrtp), readPayload_listed hopus]

theorem readVideo_listed (h : readVideo o line = .value o') :
    ∃ rtpH264Payload rtpH264RtxPayload, o' = { o with rtpH264Payload, rtpH264RtxPayload } ∧
      rtpH264Payload =
        (listedPayloads "codec" "H264" (line.itemsAt "rtp")).getLastD o.rtpH264Payload ∧
      rtpH264RtxPayload =
        (listedPayloads "config" (h264RtxConfig rtpH264Payload)
          (line.itemsAt "fmtp")).getLastD o.rtpH264RtxPayload := by
  rcases bind_eq_value.mp h with ⟨-, -, h⟩
  rcases bind_eq_value.mp h with ⟨videoRtp, hrtp, h⟩
  rcases bind_eq_value.mp h with ⟨rtpH264Payload, hh264, h⟩
  rw [ofExcept_eq_value] at hrtp
  have hlisted := readPayload_listed hh264
  rw [← Json.itemsAt_of_find? (Json.find?_of_atKey hrtp)] at hlisted
  split at h
  · rcases bind_eq_value.mp h with ⟨fmtp, hfmtp, h⟩
    rcases bind_eq_value.mp h with ⟨rtpH264RtxPayload, hrtx, h⟩
    rw [ofExcept_eq_value] at hfmtp
    cases h
    refine ⟨rtpH264Payload, rtpH264RtxPayload, rfl, hlisted, ?_⟩
    rw [Json.itemsAt_of_find? (Json.find?_of_atKey hfmtp)]
    exact readPayload_listed hrtx
  · next hnone =>
      cases h
      refine ⟨rtpH264Payload, o.rtpH264RtxPayload, rfl, hlisted, ?_⟩
      have hfind : line.find? "fmtp" = none := by
        rw [Json.has, Bool.not_eq_true, Option.isSome_eq_false_iff] at hnone
        exact Option.isNone_iff_eq_none.mp hnone
      rw [Json.itemsAt, hfind]
      rfl

theorem readMedia_payloads (h : readMedia o line = .value o') : PayloadsRead o line o' := by
  rcases bind_eq_value.mp h with ⟨o₁, haudio, hvideo⟩
  have haudio' : o₁ = { o with
      rtpOpusPayload := (opusPayloads line).getLastD o.rtpOpusPayload } := by
    rcases ifType_ok haudio with ⟨htype, haudio⟩ | ⟨htype, rfl⟩
    · rw [opusPayloads, if_pos htype]
      exact readAudio_listed haudio
    · rw [opusPayloads, if_neg htype]
      rfl
  subst haudio'
  rcases ifType_ok hvideo with ⟨htype, hvideo⟩ | ⟨htype, rfl⟩
  · rcases readVideo_listed hvideo with ⟨h264, rtx, rfl, hh264, hrtx⟩
    refine ⟨rfl, ?_, ?_⟩
    · rw [h264Payloads, if_pos htype]
      exact hh264
    · rw [rtxPayloads, if_pos htype]
      exact hrtx
  · refine ⟨rfl, ?_, ?_⟩
    · rw [h264Payloads, if_neg htype]
      rfl
    · rw [rtxPayloads, if_neg htype]
      rfl

theorem readLine_payloads (h : readLine o line = .value o') : PayloadsRead o line o' := by
  rcases bind_eq_value.mp h with ⟨o₁, hcredentials, hmedia⟩
  rcases readCredentials_payloads hcredentials with ⟨hopus, hh264, hrtx⟩
  have hread := readMedia_payloads hmedia
  exact ⟨hopus ▸ hread.opus, hh264 ▸ hread.h264, hrtx ▸ hread.rtx⟩

/-! ## What the walk leaves behind -/

/-- The payloads after these m-lines. -/
structure WalkRead (lines : List Json) (o : RemoteOffer) : Prop where
  opus : Follows (opusAt lines) o.rtpOpusPayload
  h264 : Follows (h264At lines) o.rtpH264Payload
  listed : o.rtpH264Payload = (lines.flatMap h264Payloads).getLastD (-1)
  rtx : Follows (rtxAt lines) o.rtpH264RtxPayload

theorem walkRead_nil (ho : o.rtpOpusPayload = -1) (hh : o.rtpH264Payload = -1)
    (hr : o.rtpH264RtxPayload = -1) : WalkRead [] o :=
  ⟨Or.inl ho, Or.inl hh, hh, Or.inl hr⟩

variable {before lines : List Json}

theorem follows_payloadsAt {of : Nat → Json → List Int} {p : Int}
    (h : Follows (payloadsAt of before) p) (of' : Nat → Json → List Int)
    (hof : ∀ i < before.length, of' i = of i) :
    Follows (payloadsAt of' (before ++ [line])) ((of' before.length line).getLastD p) := by
  have hlast : payloadsAt of' (before ++ [line]) before.length = of' before.length line :=
    payloadsAt_concat line
  rw [← hlast]
  refine h.concat (fun i hi => payloadsAt_past hi) (fun i hi => ?_) (fun i hi => ?_)
  · rw [payloadsAt_append hi, payloadsAt, payloadsAt, hof i hi]
  · apply payloadsAt_past
    rw [List.length_append]
    exact hi

theorem h264Upto_append {i : Nat} (h : i < before.length) :
    h264Upto (before ++ [line]) i = h264Upto before i := by
  rw [h264Upto, h264Upto, List.take_append_of_le_length h]

theorem WalkRead.concat (h : WalkRead before o) (hline : readLine o line = .value o') :
    WalkRead (before ++ [line]) o' := by
  have hread := readLine_payloads hline
  have hlisted : o'.rtpH264Payload = ((before ++ [line]).flatMap h264Payloads).getLastD (-1) := by
    rw [hread.h264, h.listed, List.flatMap_append, List.flatMap_singleton]
    simp only [List.getLastD_eq_getLast?, List.getLast?_append]
    cases (h264Payloads line).getLast? with
    | none => rfl
    | some p => rfl
  -- The walk has come to the last line: what is listed so far is all.
  have hupto : h264Upto (before ++ [line]) before.length = o'.rtpH264Payload := by
    rw [hlisted, h264Upto, List.take_of_length_le (by simp)]
  refine ⟨?_, ?_, hlisted, ?_⟩
  · rw [hread.opus]
    exact follows_payloadsAt h.opus _ fun _ _ => rfl
  · rw [hread.h264]
    exact follows_payloadsAt h.h264 _ fun _ _ => rfl
  · rw [hread.rtx, ← hupto]
    refine follows_payloadsAt h.rtx (fun k => rtxPayloads (h264Upto (before ++ [line]) k))
      fun i hi => ?_
    rw [h264Upto_append hi]

theorem WalkRead.append (h : WalkRead before o) (hlines : lines.foldlM readLine o = .value o') :
    WalkRead (before ++ lines) o' := by
  induction lines generalizing before o with
  | nil =>
      cases hlines
      rw [List.append_nil]
      exact h
  | cons line lines ih =>
      rw [List.foldlM_cons] at hlines
      rcases bind_eq_value.mp hlines with ⟨o₁, hline, hlines⟩
      rw [List.append_cons]
      exact ih (h.concat hline) hlines

end RemoteOffer

/-! ## An accepted offer -/

section Accepted

variable {parse : String → Except Exception Json} {o o' : RemoteOffer} {offer : String}
  {session : Json}

/-- The payloads of an accepted offer are the ones listed last. -/
theorem setOffer_payloads (hparse : parse offer = .ok session)
    (h : setOffer parse o offer = .value o') :
    (∃ k, LastAt (opusAt (session.itemsAt "media")) k o'.rtpOpusPayload) ∧
      (∃ k, LastAt (h264At (session.itemsAt "media")) k o'.rtpH264Payload) ∧
      ∃ k, LastAt (rtxAt (session.itemsAt "media")) k o'.rtpH264RtxPayload := by
  rcases setOffer_value hparse h with ⟨hwalk, hopus, hrtx, hh264⟩
  have hread := (walkRead_nil rfl rfl rfl).append hwalk
  rw [List.nil_append] at hread
  exact ⟨hread.opus.resolve_left hopus, hread.h264.resolve_left hh264,
    hread.rtx.resolve_left hrtx⟩

/-- The line that names the last RTX payload names it for the H264 payload
that is kept, if it also lists the last of these. -/
theorem ties_of_together {lines : List Json} {k : Nat} {h264 rtx : Int}
    (hh264 : LastAt (h264At lines) k h264) (hrtx : LastAt (rtxAt lines) k rtx) :
    ∃ line ∈ lines, Ties h264 rtx line := by
  rcases hh264.mem with ⟨line, hmem, hline, hlisted⟩
  rcases hrtx.mem with ⟨line', -, hline', hnamed⟩
  cases hline.symm.trans hline'
  have hupto : h264Upto lines k = h264 := by
    have hk : k < lines.length := (List.getElem?_eq_some_iff.mp hline).1
    have hlast := hh264.1
    rw [h264At, payloadsAt_of_getElem? hline] at hlast
    rw [h264Upto, List.take_add_one, hline, List.flatMap_append, List.getLastD_eq_getLast?,
      List.getLast?_append]
    simp only [Option.toList_some, List.flatMap_singleton, hlast, Option.some_or, Option.getD_some]
  rw [hupto] at hnamed
  exact ⟨line, hmem, hlisted, hnamed⟩

theorem listedTogether_iff {lines : List Json} {k j : Nat} {h264 rtx : Int}
    (hh264 : LastAt (h264At lines) k h264) (hrtx : LastAt (rtxAt lines) j rtx) :
    ListedTogether lines ↔ ∃ line ∈ lines, Ties h264 rtx line := by
  constructor
  · rintro (⟨i, p, q, hp, hq⟩ | ⟨i, i', p, q, -, hp, hq, hties⟩)
    · rw [(hh264.unique hp).2, (hrtx.unique hq).2]
      exact ties_of_together hp hq
    · rw [(hh264.unique hp).2, (hrtx.unique hq).2]
      exact hties
  · intro hties
    by_cases hkj : k = j
    · subst hkj
      exact Or.inl ⟨k, h264, rtx, hh264, hrtx⟩
    · exact Or.inr ⟨k, j, h264, rtx, hkj, hh264, hrtx, hties⟩

end Accepted

/-! ## The answer -/

/-- A payload that has been read fits its field. -/
theorem toInt32_of_listed {key value : String} {items : List Json} {p : Int}
    (h : p ∈ listedPayloads key value items) : toInt32 p = p := by
  rcases List.mem_filterMap.mp h with ⟨item, -, hp⟩
  rw [payloadFor?] at hp
  split at hp
  · rcases Option.bind_eq_some_iff.mp hp with ⟨v, -, hv⟩
    cases v with
    | int n =>
        cases hv
        exact Int.bmod_bmod
    | float n =>
        cases hv
        exact Int.bmod_bmod
    | bool b =>
        cases hv
        cases b with
        | true => rfl
        | false => rfl
    | _ => cases hv
  · cases hp

theorem announced_h264 (o : RemoteOffer) (d : LocalDescription) :
    announced (o.createAnswer d) "H264" = [toInt32 o.rtpH264Payload] := rfl

theorem announced_rtx (o : RemoteOffer) (d : LocalDescription) :
    announced (o.createAnswer d) "rtx" = [toInt32 o.rtpH264RtxPayload] := rfl

theorem LastAt.toInt32 {of : Nat → Json → List Int} {lines : List Json} {k : Nat} {p : Int}
    (h : LastAt (payloadsAt of lines) k p)
    (hof : ∀ i line, ∀ q ∈ of i line, toInt32 q = q) : toInt32 p = p := by
  rcases h.mem with ⟨line, -, -, hp⟩
  exact hof k line p hp

theorem toInt32_of_h264 {line : Json} {p : Int} (h : p ∈ h264Payloads line) : toInt32 p = p := by
  rw [h264Payloads] at h
  split at h
  · exact toInt32_of_listed h
  · cases h

theorem toInt32_of_rtx {line : Json} {h264 p : Int} (h : p ∈ rtxPayloads h264 line) :
    toInt32 p = p := by
  rw [rtxPayloads] at h
  split at h
  · exact toInt32_of_listed h
  · cases h

/-- The payloads of an accepted offer, and the RTX stream of its answer, are
those of one video line and one audio line exactly when the last H264
payload and the last RTX payload are listed together. -/
theorem setOffer_associated_iff {parse : String → Except Exception Json} {o o' : RemoteOffer}
    {offer : String} {session : Json} (hparse : parse offer = .ok session)
    (haccepted : setOffer parse o offer = .value o') (d : LocalDescription) :
    Associated session o' d ↔ ListedTogether (session.itemsAt "media") := by
  obtain ⟨⟨i, hopus⟩, ⟨k, hh264⟩, ⟨j, hrtx⟩⟩ := setOffer_payloads hparse haccepted
  rw [listedTogether_iff hh264 hrtx]
  constructor
  · intro h
    exact h.video
  · intro hties
    have haudio : ∃ line ∈ session.itemsAt "media", o'.rtpOpusPayload ∈ opusPayloads line := by
      rcases hopus.mem with ⟨line, hmem, -, hline⟩
      exact ⟨line, hmem, hline⟩
    refine ⟨hties, haudio, fun p hp q hq => ?_⟩
    rw [announced_h264, hh264.toInt32 fun _ _ _ => toInt32_of_h264, List.mem_singleton] at hp
    rw [announced_rtx, hrtx.toInt32 fun _ _ _ => toInt32_of_rtx, List.mem_singleton] at hq
    rw [hp, hq]
    exact hties

section Samples

theorem setOffer_associated_iff_page :
    Associated videoFirstSession (offeredPayloads "actpass") sampleDescription := by
  have hparse : parserOf videoFirstSession "" = .ok videoFirstSession := rfl
  have haccepted : setOffer (parserOf videoFirstSession) {} "" =
      .value (offeredPayloads "actpass") := rfl
  have hlast : ∀ payloads : Nat → Json → List Int,
      payloads 1 (offeredAudio "actpass" "1") = [] →
        ∀ j, 0 < j → payloadsAt payloads (videoFirstSession.itemsAt "media") j = [] := by
    rintro payloads haudio (_ | _ | j) hj
    · cases hj
    · exact haudio
    · rfl
  have htogether : ListedTogether (videoFirstSession.itemsAt "media") :=
    Or.inl ⟨0, 102, 103, ⟨by decide, hlast _ rfl⟩, ⟨by decide, hlast _ rfl⟩⟩
  exact (setOffer_associated_iff hparse haccepted sampleDescription).mpr htogether

/-- A video line with H264 and its RTX payload, a second one with H264 alone,
and audio. -/
def twoVideosSession : Json :=
  offeredSession [offeredVideo "actpass" "0",
    offeredLine "actpass" "video" "1" [.obj [("codec", .str "H264"), ("payload", .int 104)]] [],
    offeredAudio "actpass" "2"]

/-- The second video line takes the H264 payload, and the RTX payload of the
first stays. -/
def twoVideosPayloads : RemoteOffer :=
  { offeredPayloads "actpass" with rtpH264Payload := 104 }

theorem twoVideos_not_associated :
    setOffer (parserOf twoVideosSession) {} "" = .value twoVideosPayloads ∧
      ¬ Associated twoVideosSession twoVideosPayloads sampleDescription := by
  refine ⟨rfl, fun h => ?_⟩
  rcases h.video with ⟨line, hmem, hlisted, hnamed⟩
  rcases List.mem_cons.mp hmem with rfl | hmem
  · exact absurd hlisted (by decide)
  · rcases List.mem_cons.mp hmem with rfl | hmem
    · exact absurd hnamed (by decide)
    · rw [List.mem_singleton.mp hmem] at hlisted
      exact absurd hlisted (by decide)

end Samples

end WebrtcServer
