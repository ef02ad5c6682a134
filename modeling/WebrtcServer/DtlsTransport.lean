/-
# `DtlsTransport` — dtls_context.h, dtls_context.cpp, dtls_transport.h,
dtls_transport.cpp

The DTLS endpoint around OpenSSL, which is the parameter `SslLib`.  A call
of OpenSSL may call back: it then stops at the callback and goes on from
the connection as the callback leaves it (`SslRun`).  The listener is the
transport and does not touch the endpoint, so its calls are outputs.  The
timer only decides when `OnTimerTimeout` comes and is left out.
-/
import WebrtcServer.SrtpSession

namespace WebrtcServer

open Lib

/-! ## `DtlsContext` -/

/-- `DtlsContext::Hash`. -/
inductive Hash where
  | sha1
  | sha224
  | sha256
  | sha384
  | sha512
  | unknown
deriving DecidableEq

namespace DtlsContext

def getHashFromString (hashName : String) : Hash :=
  if hashName = "sha-1" then .sha1
  else if hashName = "sha-224" then .sha224
  else if hashName = "sha-256" then .sha256
  else if hashName = "sha-384" then .sha384
  else if hashName = "sha-512" then .sha512
  else .unknown

def isDtls (data : Memory) (size : Nat) : Bool :=
  decide (13 ≤ size) && (decide (19 < data 0) && decide (data 0 < 64))

end DtlsContext

/-! ## OpenSSL -/

/-- A call of OpenSSL: it returns, or it calls the info callback and goes on
from there. -/
inductive SslRun (Ssl : Type) where
  | done (ssl : Ssl) (ret : Int)
  | info (ssl : Ssl) (where_ ret : Nat) (resume : Ssl → SslRun Ssl)

/-- `Ssl` is a connection with its two memory BIOs, `Cert` a certificate. -/
structure SslLib (Ssl Cert : Type) where
  setConnectState : Ssl → Ssl
  setAcceptState : Ssl → Ssl
  doHandshake : Ssl → SslRun Ssl
  /-- `BIO_write` to the read BIO. -/
  bioWrite : Ssl → ByteString → Ssl
  read : Ssl → SslRun Ssl
  handleTimeout : Ssl → SslRun Ssl
  /-- `DTLSv1_handle_timeout` failed for another reason than a full BIO. -/
  timeoutFailed : Ssl → Int → Bool
  /-- `BIO_ctrl_pending` of the write BIO. -/
  pending : Ssl → Bool
  /-- `BIO_read` from the write BIO. -/
  bioRead : Ssl → ByteString × Ssl
  receivedShutdown : Ssl → Bool
  clear : Ssl → Ssl
  getPeerCertificate : Ssl → Option Cert
  /-- `X509_digest`; nothing when it returns 0. -/
  digest : Cert → Hash → Option (List UInt8)
  /-- The name of the selected SRTP profile. -/
  selectedSrtpProfile : Ssl → Option String
  /-- `SSL_export_keying_material` of `len` bytes for a label. -/
  exportKeyingMaterial : Ssl → String → Nat → Option (List UInt8)

/-! ## `DtlsTransport` -/

inductive Setup where
  | active
  | passive
  | actPass
  | unknown
deriving DecidableEq

/-- The calls of `DtlsTransport::Observer`. -/
inductive DtlsOutput where
  | setup (suite : CipherSuite) (localMasterKey remoteMasterKey : List UInt8)
  | error
  | shutdown
  | sendData (data : ByteString)
deriving DecidableEq

structure DtlsTransport (Ssl : Type) where
  ssl : Option Ssl
  setup : Setup
  remoteFingerprint : Memory
  remoteHash : Hash
  inited : Bool

namespace DtlsTransport

variable {Ssl Cert : Type}

/-- `string_to_setup_`. -/
def setupOfString (str : String) : Option Setup :=
  if str = "active" then some .active
  else if str = "passive" then some .passive
  else if str = "actpass" then some .actPass
  else none

/-- The body of `TrySendPendingData` and of `CheckPending`. -/
def trySendPendingData (lib : SslLib Ssl Cert) (ssl : Ssl) : Ssl × List DtlsOutput :=
  if lib.pending ssl then
    let r := lib.bioRead ssl
    (r.2, [.sendData r.1])
  else (ssl, [])

def checkRemoteCertificate (lib : SslLib Ssl Cert) (t : DtlsTransport Ssl) (ssl : Ssl) : Bool :=
  match lib.getPeerCertificate ssl with
  | none => false
  | some certificate =>
      match t.remoteHash with
      | .unknown => false
      | hash =>
          match lib.digest certificate hash with
          | none => false
          | some fingerprint =>
              decide (window t.remoteFingerprint 0 fingerprint.length = fingerprint)

def kMaxMasterLength : Nat := 44

def kExporterLabel : String := "EXTRACTOR-dtls_srtp"

/-- The master keys, key and salt, of the two ends in the exported material:
the keys of client and server, then their salts. -/
def masterKeys (setup : Setup) (suite : CipherSuite) (material : List UInt8) :
    List UInt8 × List UInt8 :=
  let keyLen := (SrtpSession.getSuiteKeySaltLength suite).1
  let saltLen := (SrtpSession.getSuiteKeySaltLength suite).2
  let client := (material.take keyLen) ++ (material.drop (2 * keyLen)).take saltLen
  let server := ((material.drop keyLen).take keyLen) ++
    (material.drop (2 * keyLen + saltLen)).take saltLen
  if setup = .active then (client, server) else (server, client)

/-- The result and the call of the listener. -/
def extractSrtpParams (lib : SslLib Ssl Cert) (t : DtlsTransport Ssl) (ssl : Ssl) :
    Bool × List DtlsOutput :=
  match lib.selectedSrtpProfile ssl with
  | none => (false, [])
  | some name =>
      let suite := SrtpSession.getCipherSuiteFromString name
      if suite = .none then (false, [])
      else
        match lib.exportKeyingMaterial ssl kExporterLabel (kMaxMasterLength * 2) with
        | none => (false, [])
        | some material =>
            let keys := masterKeys t.setup suite material
            (true, [.setup suite keys.1 keys.2])

/-- The result is 1 whatever the two checks said: the first is only logged,
the second is not looked at. -/
def setupSRTP (lib : SslLib Ssl Cert) (t : DtlsTransport Ssl) (ssl : Ssl) :
    Int × List DtlsOutput :=
  let _checked := t.checkRemoteCertificate lib ssl
  (1, (t.extractSrtpParams lib ssl).2)

def SSL_CB_LOOP : Nat := 0x01
def SSL_CB_EXIT : Nat := 0x02
def SSL_CB_HANDSHAKE_START : Nat := 0x10
def SSL_CB_HANDSHAKE_DONE : Nat := 0x20
def SSL_CB_ALERT : Nat := 0x4000

/-- The branch of `OnSSLInfo` for a completed handshake is taken. -/
def isHandshakeDone (where_ : Nat) : Bool :=
  where_ &&& SSL_CB_LOOP = 0 && where_ &&& SSL_CB_ALERT = 0 && where_ &&& SSL_CB_EXIT = 0 &&
    where_ &&& SSL_CB_HANDSHAKE_START = 0 && where_ &&& SSL_CB_HANDSHAKE_DONE ≠ 0

/-- The info callback; its other branches only log. -/
def onSSLInfo (lib : SslLib Ssl Cert) (t : DtlsTransport Ssl) (ssl : Ssl) (where_ : Nat) :
    Ssl × List DtlsOutput :=
  let out :=
    if isHandshakeDone where_ then
      let r := t.setupSRTP lib ssl
      r.2 ++ if r.1 = 0 then [.error] else []
    else []
  let sent := trySendPendingData lib ssl
  (sent.1, out ++ sent.2)

/-- Run a call of OpenSSL with its callbacks. -/
def drive (lib : SslLib Ssl Cert) (t : DtlsTransport Ssl) :
    SslRun Ssl → Ssl × List DtlsOutput × Int
  | .done ssl ret => (ssl, [], ret)
  | .info ssl where_ _ resume =>
      let called := t.onSSLInfo lib ssl where_
      let rest := drive lib t (resume called.1)
      (rest.1, called.2 ++ rest.2.1, rest.2.2)

/-- `ssl_` is set by `Init`, so a null one is a fault. -/
def processDataFromPeer (lib : SslLib Ssl Cert) (t : DtlsTransport Ssl) (data : ByteString) :
    Except Fault (DtlsTransport Ssl × List DtlsOutput) :=
  match t.ssl with
  | none => .error .nullComponent
  | some ssl =>
      let r := t.drive lib (lib.read (lib.bioWrite ssl data))
      let sent := trySendPendingData lib r.1
      if lib.receivedShutdown sent.1 then
        .ok ({ t with ssl := some (lib.clear sent.1) }, r.2.1 ++ sent.2 ++ [.shutdown])
      else .ok ({ t with ssl := some sent.1 }, r.2.1 ++ sent.2)

def onTimerTimeout (lib : SslLib Ssl Cert) (t : DtlsTransport Ssl) :
    Except Fault (DtlsTransport Ssl × List DtlsOutput) :=
  if !t.inited then .ok (t, [])
  else
    match t.ssl with
    | none => .error .nullComponent
    | some ssl =>
        let r := t.drive lib (lib.handleTimeout ssl)
        if r.2.2 < 0 && lib.timeoutFailed r.1 r.2.2 then .ok ({ t with ssl := some r.1 }, r.2.1)
        else
          let sent := trySendPendingData lib r.1
          .ok ({ t with ssl := some sent.1 }, r.2.1 ++ sent.2)

/-- `Start`; the case for `active` has no `break` and falls into the default. -/
def start (lib : SslLib Ssl Cert) (t : DtlsTransport Ssl) (setupInSdp : String) :
    Bool × DtlsTransport Ssl × List DtlsOutput :=
  match setupOfString setupInSdp with
  | none => (false, t, [])
  | some .active => (false, { t with setup := .passive }, [])
  | some .unknown => (false, t, [])
  | some _ =>
      let t := { t with setup := .active }
      match t.ssl with
      | none => (false, t, [])
      | some ssl =>
          let ssl :=
            if t.setup = .active then lib.setConnectState ssl else lib.setAcceptState ssl
          let t := { t with inited := true }
          let r := t.drive lib (lib.doHandshake ssl)
          (true, { t with ssl := some r.1 }, r.2.1)

end DtlsTransport

end WebrtcServer
