/-
# `MediaSourceManager` — media_source_manager.cpp, the end of MediaSource::Open

The registry of the sources that the server pulls.  A source is looked up by
the URL it was added with and queried and removed by its id, a random string.
`Open` gives FFmpeg the URL as a C string and keeps it as one.  What FFmpeg
makes of an address is a parameter.

The entries are listed in the order of the map's iterators; a new one is put
at the end, where the map puts it anywhere.
-/
import WebrtcServer.Json

namespace WebrtcServer

/-- A URL as FFmpeg reads it, up to a NUL. -/
def cUrl (s : String) : String := String.ofList (s.toList.takeWhile (· ≠ '\x00'))

/-- What the registry uses of a `MediaSource`. -/
structure ManagedSource where
  url : String
  /-- `ReadPacket` runs in the thread of the source. -/
  reading : Bool
deriving DecidableEq

/-- `MediaSource::Open`.  `opens` says which addresses FFmpeg opens, with the
streams the server needs. -/
def ManagedSource.openUrl (opens : String → Bool) (url : String) : Option ManagedSource :=
  if "rtmp://".toList.isPrefixOf url.toList && opens (cUrl url) then
    some { url := cUrl url, reading := false }
  else none

def ManagedSource.start (s : ManagedSource) : ManagedSource := { s with reading := true }

structure MediaSourceManager where
  database : List (String × ManagedSource)

namespace MediaSourceManager

/-- `database_[id] = source`. -/
def insert (m : MediaSourceManager) (id : String) (source : ManagedSource) : MediaSourceManager :=
  { database := m.database.filter (fun e => e.1 != id) ++ [(id, source)] }

/-- `randomId` is the next random string. -/
def add (m : MediaSourceManager) (opens : String → Bool) (randomId url : String) :
    MediaSourceManager × Option String :=
  match m.database.find? (fun e => e.2.url == url) with
  | some e => (m, some e.1)
  | none =>
    match ManagedSource.openUrl opens url with
    | none => (m, none)
    | some source => (m.insert randomId source.start, some randomId)

def query (m : MediaSourceManager) (id : String) : Option ManagedSource := m.database.lookup id

def remove (m : MediaSourceManager) (id : String) : MediaSourceManager :=
  { database := m.database.filter (fun e => e.1 != id) }

def list (m : MediaSourceManager) : Json :=
  .arr (m.database.map fun e => .obj [("id", .str e.1), ("url", .str e.2.url)])

/-- Where no id is given, nothing was added. -/
theorem add_none {m : MediaSourceManager} {opens : String → Bool} {randomId url : String}
    (h : (m.add opens randomId url).2 = none) : (m.add opens randomId url).1 = m := by
  simp only [add] at h ⊢
  split
  · rfl
  · next hfind =>
      rw [hfind] at h
      cases hopen : ManagedSource.openUrl opens url with
      | none => rfl
      | some source =>
          rw [hopen] at h
          cases h

end MediaSourceManager

end WebrtcServer
