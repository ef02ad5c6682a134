/-
# `SignalingSession` — signaling_session.cpp

What `HandleRequest` does with an HTTP request.  It runs in the thread that
runs the server's `io_context`, and nothing above it catches exceptions.

Two things can keep it from its response: an exception, and a viewer that
holds the reader of a source for good.  The reader has `observers_mutex_`
while it calls its viewers, and `RegisterObserver`, `~WebrtcTransport` and
`Remove` wait for the mutex or for the thread.  Whether the reader of a
source is held is a parameter, and so are what nlohmann::json and
sdptransform make of a text, what FFmpeg makes of an address, and how
`Start` and `CreateAnswer` end: the one catches what its sockets throw, the
other what is thrown while it writes the answer.  `Start` is taken to return;
its `Listen` does not where the range ends at 65535 and no port can be bound,
not even 0 (see `ListenPorts`).  The strings of a response are valid UTF-8, so
that `dump` does not throw.
-/
import WebrtcServer.SetOffer
import WebrtcServer.MediaSourceManager

namespace WebrtcServer

open Lib Checked

/-- The `http::verb`s that the server tells apart. -/
inductive Verb where
  | get
  | post
  | delete
  | other
deriving DecidableEq

/-- A character of `target` stands for a byte. -/
structure Request where
  method : Verb
  target : String
  body : List UInt8

inductive SignalingOutput where
  | registerObserver (streamId : String)
  | addTransport (streamId : String) (offer : RemoteOffer)
  | asyncWrite (response : Json)

/-- How a call may end without returning. -/
inductive Escape where
  | exception (e : Exception)
  /-- It waits for a thread that does not go on. -/
  | blocked

/-- What the session calls and does not define. -/
structure SignalingEnv where
  parse : List UInt8 → Except Exception Json
  sdpParse : String → Except Exception Json
  opens : String → Bool
  randomId : String
  /-- What `Start` returns, where it returns. -/
  start : RemoteOffer → Bool
  createAnswer : RemoteOffer → String
  /-- A viewer of the source does not return to the source's reader. -/
  held : String → Bool

/-- The registry after a request, and what was started meanwhile, in order. -/
structure Handled where
  manager : MediaSourceManager
  outputs : List SignalingOutput

/-- What is left of a text after the first occurrence of `pattern`. -/
def afterFirst (pattern : List Char) : List Char → Option (List Char)
  | [] => if pattern.isEmpty then some [] else none
  | c :: text =>
    if pattern.isPrefixOf (c :: text) then some ((c :: text).drop pattern.length)
    else afterFirst pattern text

def errorResponse : Json := .obj [("error", .bool true)]

/-- `error` is false, and a result comes with it. -/
def successResponse (key result : String) : Json :=
  .obj [("error", .bool false), (key, .str result)]

namespace SignalingSession

def throwing {α : Type} (x : Except Exception α) : Except Escape α := x.mapError .exception

/-- Waits for `observers_mutex_` of a source, or for the source's thread. -/
def awaitReader (env : SignalingEnv) (streamId : String) : Except Escape Unit :=
  if env.held streamId then .error .blocked else .ok ()

/-- From `make_shared<WebrtcTransport>` on.  A transport that is not kept
deregisters itself at its end, also when an exception ends the call. -/
def offerTransport (env : SignalingEnv) (streamId : String) (json : Json) :
    Except Escape (List SignalingOutput × Json) :=
  match ofExcept (json.indexString "offer") >>= setOffer env.sdpParse {} with
  | .threw e => do
    awaitReader env streamId
    .error (.exception e)
  | .refused => do
    awaitReader env streamId
    return ([], errorResponse)
  | .value offer =>
    if env.start offer then do
      awaitReader env streamId
      return ([.registerObserver streamId, .addTransport streamId offer],
        successResponse "answer" (env.createAnswer offer))
    else do
      awaitReader env streamId
      return ([], errorResponse)

def playStream (env : SignalingEnv) (m : MediaSourceManager) (streamId : String) (json : Json) :
    Except Escape (List SignalingOutput × Json) :=
  match m.query streamId with
  | some _ => offerTransport env streamId json
  | none => return ([], errorResponse)

/-- `POST /play`. -/
def play (env : SignalingEnv) (m : MediaSourceManager) (body : List UInt8) :
    Except Escape (List SignalingOutput × Json) := do
  let json ← throwing (env.parse body)
  let streamId ← throwing (json.indexString "streamId")
  playStream env m streamId json

def publishUrl (env : SignalingEnv) (m : MediaSourceManager) (url : String) :
    MediaSourceManager × Json :=
  match m.add env.opens env.randomId url with
  | (m, some id) => (m, successResponse "id" id)
  | (m, none) => (m, errorResponse)

/-- `POST /streams`. -/
def publish (env : SignalingEnv) (m : MediaSourceManager) (body : List UInt8) :
    Except Escape (MediaSourceManager × Json) := do
  let json ← throwing (env.parse body)
  let url ← throwing (json.indexString "url")
  return publishUrl env m url

/-- `MediaSourceManager::Remove` with the `Stop` in it. -/
def removeSource (env : SignalingEnv) (m : MediaSourceManager) (id : String) :
    Except Escape MediaSourceManager :=
  match m.query id with
  | some _ => do
    awaitReader env id
    return m.remove id
  | none => return m

/-- `DELETE /streams/id`. -/
def unpublish (env : SignalingEnv) (m : MediaSourceManager) (target : String) :
    Except Escape (MediaSourceManager × Json) :=
  match afterFirst "/streams/".toList target.toList with
  | none => return (m, errorResponse)
  | some id => do
    let m ← removeSource env m (String.ofList id)
    return (m, .null)

/-- The registry, what was started, and `response_json`. -/
def respond (env : SignalingEnv) (m : MediaSourceManager) (request : Request) :
    Except Escape (MediaSourceManager × List SignalingOutput × Json) :=
  if request.target = "/play" then
    if request.method = .post then do
      let (outputs, response) ← play env m request.body
      return (m, outputs, response)
    else
      return (m, [], .null)
  else if "/streams".toList.isPrefixOf request.target.toList then
    match request.method with
    | .get => return (m, [], m.list)
    | .post => do
      let (m, response) ← publish env m request.body
      return (m, [], response)
    | .delete => do
      let (m, response) ← unpublish env m request.target
      return (m, [], response)
    | .other => return (m, [], errorResponse)
  else
    return (m, [], errorResponse)

end SignalingSession

def handleRequest (env : SignalingEnv) (m : MediaSourceManager) (request : Request) :
    Except Escape Handled := do
  let (manager, outputs, response) ← SignalingSession.respond env m request
  return { manager, outputs := outputs ++ [.asyncWrite response] }

end WebrtcServer
