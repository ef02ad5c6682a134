/-
# `SrtpSession` — srtp_session.h, srtp_session.cpp

The wrapper around libsrtp.  The library itself is the parameter
`SrtpLib`: its functions work on a session of a type `Ctx` of its own, and
each of them may fail and may leave anything in the buffer and in the
length when it does.
-/
import WebrtcServer.ByteBuffer

namespace WebrtcServer

open Lib

inductive CipherSuite where
  | none
  | aesCm128HmacSha1_80
  | aesCm128HmacSha1_32
  | aeadAes128Gcm
  | aeadAes256Gcm
deriving DecidableEq

/-! ## libsrtp -/

/-- The `srtp_crypto_policy_set_` function that fills a policy. -/
inductive CryptoPolicy where
  | aesCm128HmacSha1_80
  | aesCm128HmacSha1_32
  | aesGcm128_16Auth
  | aesGcm256_16Auth
deriving DecidableEq

/-- `srtp_policy_t`, as far as `Init` varies it. -/
structure SrtpPolicy where
  rtp : CryptoPolicy
  rtcp : CryptoPolicy
  /-- `ssrc_any_inbound` or `ssrc_any_outbound`. -/
  inbound : Bool
  key : List UInt8

/-- What a call that works on a packet in place leaves behind. -/
structure SrtpResult (Ctx : Type) where
  ok : Bool
  ctx : Ctx
  data : Memory
  len : Nat

structure SrtpLib (Ctx : Type) where
  create : SrtpPolicy → Option Ctx
  authTagLen : CryptoPolicy → Nat
  protect : Ctx → Memory → Nat → SrtpResult Ctx
  protectRtcp : Ctx → Memory → Nat → SrtpResult Ctx
  unprotectRtcp : Ctx → Memory → Nat → SrtpResult Ctx

/-! ## Suites -/

namespace SrtpSession

def getCipherSuiteFromString (str : String) : CipherSuite :=
  if str = "SRTP_AES128_CM_SHA1_80" then .aesCm128HmacSha1_80
  else if str = "SRTP_AES128_CM_SHA1_32" then .aesCm128HmacSha1_32
  else if str = "SRTP_AEAD_AES_128_GCM" then .aeadAes128Gcm
  else if str = "SRTP_AEAD_AES_256_GCM" then .aeadAes256Gcm
  else .none

/-- The lengths of key and salt; a suite that is not in the map gets a zero
entry. -/
def getSuiteKeySaltLength : CipherSuite → Nat × Nat
  | .none => (0, 0)
  | .aesCm128HmacSha1_80 => (16, 14)
  | .aesCm128HmacSha1_32 => (16, 14)
  | .aeadAes128Gcm => (16, 12)
  | .aeadAes256Gcm => (32, 12)

/-- The policies for RTP and RTCP that `Init` sets. -/
def suitePolicies : CipherSuite → Option (CryptoPolicy × CryptoPolicy)
  | .none => none
  | .aesCm128HmacSha1_80 => some (.aesCm128HmacSha1_80, .aesCm128HmacSha1_80)
  | .aesCm128HmacSha1_32 => some (.aesCm128HmacSha1_32, .aesCm128HmacSha1_80)
  | .aeadAes128Gcm => some (.aesGcm128_16Auth, .aesGcm128_16Auth)
  | .aeadAes256Gcm => some (.aesGcm256_16Auth, .aesGcm256_16Auth)

end SrtpSession

/-! ## The session -/

structure SrtpSession (Ctx : Type) where
  session : Option Ctx
  rtpAuthTagLen : Nat
  rtcpAuthTagLen : Nat

/-- What a method that works on a packet in place leaves behind. -/
structure SrtpCall (Ctx : Type) where
  ok : Bool
  session : SrtpSession Ctx
  data : Memory
  outLen : Nat

namespace SrtpSession

variable {Ctx : Type}

def new : SrtpSession Ctx where
  session := none
  rtpAuthTagLen := 0
  rtcpAuthTagLen := 0

/-- `srtp_create` leaves no session when it fails. -/
def init (lib : SrtpLib Ctx) (s : SrtpSession Ctx) (isIncoming : Bool) (suite : CipherSuite)
    (key : List UInt8) : Bool × SrtpSession Ctx :=
  match suitePolicies suite with
  | none => (false, s)
  | some (rtp, rtcp) =>
      match lib.create { rtp, rtcp, inbound := isIncoming, key } with
      | none => (false, { s with session := none })
      | some ctx =>
          (true, { session := some ctx, rtpAuthTagLen := lib.authTagLen rtp
                   rtcpAuthTagLen := lib.authTagLen rtcp })

/-- The part that the protecting and unprotecting methods share: without a
session, or without room for `extra` bytes more, nothing is touched and
`*out_len` stays as it was. -/
def call (lib : Ctx → Memory → Nat → SrtpResult Ctx) (s : SrtpSession Ctx) (room : Bool)
    (data : Memory) (inLen outLen : Nat) : SrtpCall Ctx :=
  match s.session with
  | none => { ok := false, session := s, data, outLen }
  | some ctx =>
      if room then
        let r := lib ctx data inLen
        { ok := r.ok, session := { s with session := some r.ctx }, data := r.data
          outLen := r.len }
      else { ok := false, session := s, data, outLen }

def protectRtp (lib : SrtpLib Ctx) (s : SrtpSession Ctx) (data : Memory)
    (inLen maxLen outLen : Nat) : SrtpCall Ctx :=
  s.call lib.protect (inLen + s.rtpAuthTagLen ≤ maxLen) data inLen outLen

def protectRtcp (lib : SrtpLib Ctx) (s : SrtpSession Ctx) (data : Memory)
    (inLen maxLen outLen : Nat) : SrtpCall Ctx :=
  s.call lib.protectRtcp (inLen + 4 + s.rtcpAuthTagLen ≤ maxLen) data inLen outLen

def unprotectRtcp (lib : SrtpLib Ctx) (s : SrtpSession Ctx) (data : Memory)
    (inLen outLen : Nat) : SrtpCall Ctx :=
  s.call lib.unprotectRtcp true data inLen outLen

end SrtpSession

end WebrtcServer
