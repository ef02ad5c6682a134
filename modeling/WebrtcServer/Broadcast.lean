/-
# `Broadcast` — a source, its viewers, and their transports

The reader of a source calls the viewers; a viewer is a transport with a
message loop of its own, to which the call posts the packet.  The loop runs
the packets in the order in which they were posted, between the datagrams
and timers that come to the transport.  When DTLS is set up, or the
transport shuts down, the source's threads see it through the latch.

So the source, the transports and their loops are one system, and its steps
come in any order.  Of each viewer it is known what the source has given it
(a part of the stream without a gap), what its loop has run of that, and
what the far end reads of the datagrams.
-/
import WebrtcServer.PostedPackets
import WebrtcServer.ViewerStream

namespace WebrtcServer

open Lib

/-- A packet as the packetizers see it.  The size of an `AVPacket` is an
`int`. -/
def SourcePacket.media (pkt : SourcePacket) : MediaPacket where
  data := Memory.ofList pkt.packet.data
  size := min pkt.packet.data.length 2147483647
  timestampMillis := pkt.packet.pts
  size_lt := Nat.lt_of_le_of_lt (Nat.min_le_right _ _) (by decide)

/-- The handler that `OnMediaPacketGenerated` posts. -/
def SourcePacket.incoming (pkt : SourcePacket) (heap : Memory) (clock : Nat → UInt64) :
    WebrtcTransport.Event :=
  match pkt.packetType with
  | .video => .incomingH264Packet heap clock pkt.media
  | .audio => .incomingOpusPacket heap clock pkt.media

def PacketType.mediaType : PacketType → MediaType
  | .video => .video
  | .audio => .audio

structure Broadcast (ι Ctx Ssl : Type) where
  source : LiveSource ι
  transports : ι → WebrtcTransport Ctx Ssl
  /-- The packets that a viewer's loop has still to run. -/
  pending : ι → List SourcePacket

namespace Broadcast

inductive Event (ι : Type) where
  /-- A thread that calls the source, or its reader. -/
  | source (e : LiveSource.Event ι)
  /-- Anything that comes to a transport but a packet of the source. -/
  | transport (o : ι) (e : WebrtcTransport.Event)
  /-- The loop of a viewer runs the oldest packet. -/
  | turn (o : ι) (heap : Memory) (clock : Nat → UInt64)

/-- What a transport does with its latch. -/
inductive Signal (ι : Type) where
  | connect (o : ι)
  | shutdown (o : ι)

def Signal.event {ι : Type} : Signal ι → LiveSource.Event ι
  | .connect o => .connect o
  | .shutdown o => .shutdown o

inductive Output (ι : Type) where
  | source (x : LiveSource.Output ι)
  /-- What the source's threads see of a transport. -/
  | signal (x : Signal ι)
  | turned (pkt : SourcePacket)
  | transport (x : TransportOutput)

/-- Why a step cannot be taken. -/
inductive Halt where
  | blocked (b : Blocked)
  | fault (f : Fault)
  /-- The loop has no packet. -/
  | idle

variable {ι Ctx Ssl Cert : Type} [DecidableEq ι]

/-- The latch opens in `OnDtlsTransportSetup` and in `Shutdown`. -/
def signals (o : ι) (w w' : WebrtcTransport Ctx Ssl) (out : List TransportOutput) :
    List (Signal ι) :=
  (if w.connectionEstablished = false ∧ w'.connectionEstablished = true then [.connect o]
    else []) ++ if .removeFromManager ∈ out then [.shutdown o] else []

/-- The source's threads see the latch. -/
def hear (s : LiveSource ι) : Signal ι → LiveSource ι
  | .connect o => s.onDtlsTransportSetup o
  | .shutdown o => s.release o

/-- A handler of a transport runs on its loop. -/
def handle (p : Platform Ctx Ssl Cert) (s : Broadcast ι Ctx Ssl) (o : ι)
    (e : WebrtcTransport.Event) : Except Halt (Broadcast ι Ctx Ssl × List (Output ι)) :=
  match WebrtcTransport.step p (s.transports o) e with
  | .error f => .error (.fault f)
  | .ok (w, out) =>
      .ok ({ s with
          source := (signals o (s.transports o) w out).foldl hear s.source
          transports := Function.update s.transports o w },
        (signals o (s.transports o) w out).map .signal ++ out.map .transport)

def step (p : Platform Ctx Ssl Cert) (s : Broadcast ι Ctx Ssl) :
    Event ι → Except Halt (Broadcast ι Ctx Ssl × List (Output ι))
  | .source e =>
      match s.source.step e with
      | .error b => .error (.blocked b)
      | .ok (source, outs) =>
          .ok ({ s with
              source
              pending := fun o => s.pending o ++ outs.filterMap (LiveSource.Output.postedTo o) },
            outs.map .source)
  | .transport o e => handle p s o e
  | .turn o heap clock =>
      match s.pending o with
      | [] => .error .idle
      | pkt :: rest =>
          match handle p { s with pending := Function.update s.pending o rest } o
              (pkt.incoming heap clock) with
          | .error f => .error f
          | .ok (s', outs) => .ok (s', .turned pkt :: outs)

/-- A source with its cache, and transports that have been started. -/
def started (videoIndex audioIndex : Int) (transports : ι → WebrtcTransport Ctx Ssl) :
    Broadcast ι Ctx Ssl where
  source := .started true videoIndex audioIndex fun _ => ⟨false, false⟩
  transports
  pending _ := []

/-! ## The parts of a history -/

omit [DecidableEq ι] in
def Output.source? : Output ι → Option (LiveSource.Output ι)
  | .source x => some x
  | _ => none

omit [DecidableEq ι] in
def Output.signal? : Output ι → Option (Signal ι)
  | .signal x => some x
  | _ => none

omit [DecidableEq ι] in
def Output.turned? : Output ι → Option SourcePacket
  | .turned pkt => some pkt
  | _ => none

omit [DecidableEq ι] in
def Output.transport? : Output ι → Option TransportOutput
  | .transport x => some x
  | _ => none

section Parts

omit [DecidableEq ι] in
/-- What a step is for the source. -/
def forSource (x : Event ι × List (Output ι)) :
    List (LiveSource.Event ι × List (LiveSource.Output ι)) :=
  match x.1 with
  | .source e => [(e, x.2.filterMap Output.source?)]
  | .transport _ _ | .turn _ _ _ => (x.2.filterMap Output.signal?).map (·.event, [])

/-- What a step is for the transport of a viewer. -/
def forTransport (o : ι) (x : Event ι × List (Output ι)) :
    List (WebrtcTransport.Event × List TransportOutput) :=
  match x.1 with
  | .source _ => []
  | .transport o' e => if o' = o then [(e, x.2.filterMap Output.transport?)] else []
  | .turn o' heap clock =>
      if o' = o then
        (x.2.filterMap Output.turned?).map fun pkt =>
          (pkt.incoming heap clock, x.2.filterMap Output.transport?)
      else []

/-- The packets that a step runs on the loop of a viewer. -/
def turnedBy (o : ι) (x : Event ι × List (Output ι)) : List SourcePacket :=
  match x.1 with
  | .turn o' _ _ => if o' = o then x.2.filterMap Output.turned? else []
  | _ => []

omit [DecidableEq ι] in
def sourceHistory (h : List (Event ι × List (Output ι))) :
    List (LiveSource.Event ι × List (LiveSource.Output ι)) := h.flatMap forSource

def transportHistory (o : ι) (h : List (Event ι × List (Output ι))) :
    List (WebrtcTransport.Event × List TransportOutput) := h.flatMap (forTransport o)

/-- The packets that the loop of a viewer has run. -/
def turned (o : ι) (h : List (Event ι × List (Output ι))) : List SourcePacket :=
  h.flatMap (turnedBy o)

variable {o o' : ι} {h : List (Event ι × List (Output ι))} {x : Event ι × List (Output ι)}

omit [DecidableEq ι] in
theorem sourceHistory_snoc : sourceHistory (h ++ [x]) = sourceHistory h ++ forSource x := by
  simp only [sourceHistory, List.flatMap_append, List.flatMap_singleton]

theorem transportHistory_snoc :
    transportHistory o (h ++ [x]) = transportHistory o h ++ forTransport o x := by
  simp only [transportHistory, List.flatMap_append, List.flatMap_singleton]

theorem turned_snoc : turned o (h ++ [x]) = turned o h ++ turnedBy o x := by
  simp only [turned, List.flatMap_append, List.flatMap_singleton]

omit [DecidableEq ι] in
@[simp] theorem source_of_source (outs : List (LiveSource.Output ι)) :
    (outs.map Output.source).filterMap Output.source? = outs := by
  rw [List.filterMap_map]
  exact List.filterMap_some

omit [DecidableEq ι] in
/-- What a handler of a transport gives out, by what it is for. -/
theorem parts_of_handle (xs : List (Signal ι)) (out : List TransportOutput) :
    let outs := xs.map Output.signal ++ out.map Output.transport
    outs.filterMap Output.signal? = xs ∧ outs.filterMap Output.transport? = out ∧
      outs.filterMap Output.turned? = [] := by
  simp [List.filterMap_append, List.filterMap_map, Function.comp_def, Output.signal?,
    Output.transport?, Output.turned?]

omit [DecidableEq ι] in
theorem parts_of_turn (pkt : SourcePacket) (xs : List (Signal ι)) (out : List TransportOutput) :
    let outs := Output.turned pkt :: (xs.map Output.signal ++ out.map Output.transport)
    outs.filterMap Output.signal? = xs ∧ outs.filterMap Output.transport? = out ∧
      outs.filterMap Output.turned? = [pkt] := by
  obtain ⟨hsignals, hout, hturned⟩ := parts_of_handle xs out
  exact ⟨hsignals, hout, congrArg (pkt :: ·) hturned⟩

end Parts

/-! ## The source and its viewers -/

section Latches

variable {s : LiveSource ι} {o o' : ι} {w w' : WebrtcTransport Ctx Ssl}
  {out : List TransportOutput}

theorem hear_step (s : LiveSource ι) (x : Signal ι) :
    s.step x.event = .ok (hear s x, []) := by
  cases x <;> rfl

theorem hear_run {C : LiveSource ι → LiveSource.Event ι → Prop} (hc : ∀ s e, C s e)
    (xs : List (Signal ι)) :
    Run LiveSource.step C s (xs.map (·.event, [])) (xs.foldl hear s) := by
  induction xs generalizing s with
  | nil => exact .nil
  | cons x xs ih => exact .cons (hc _ _) (hear_step s x) ih

theorem hear_others (hne : o ≠ o') :
    ((signals o' w w' out).foldl hear s).viewers o = s.viewers o := by
  simp only [signals]
  split <;> split <;>
    simp [hear, LiveSource.onDtlsTransportSetup, LiveSource.release, Function.update_of_ne hne]

/-- The source sees the connection of a viewer as it is. -/
theorem hear_own (hsame : (s.viewers o).connectionEstablished = w.connectionEstablished)
    (hstill : w.connectionEstablished = true → w'.connectionEstablished = true) :
    (((signals o w w' out).foldl hear s).viewers o).connectionEstablished =
      w'.connectionEstablished := by
  have hrelease : ∀ t : LiveSource ι,
      (((if .removeFromManager ∈ out then [Signal.shutdown o] else []).foldl hear t).viewers
        o).connectionEstablished = (t.viewers o).connectionEstablished := fun t => by
    split <;> simp [hear, LiveSource.release]
  rw [signals, List.foldl_append, hrelease]
  split
  next hnew => simp [hear, LiveSource.onDtlsTransportSetup, hnew.2]
  next hold =>
    rw [List.foldl_nil, hsame]
    cases hw : w.connectionEstablished with
    | true => exact (hstill hw).symm
    | false => exact (Bool.eq_false_iff.mpr fun hw' => hold ⟨hw, hw'⟩).symm

end Latches

/-! ## What a step can do -/

section Moves

variable {p : Platform Ctx Ssl Cert} {s s' : Broadcast ι Ctx Ssl} {e : Event ι} {o : ι}
  {outs : List (Output ι)}

/-- A handler of a transport has run. -/
inductive Handled (p : Platform Ctx Ssl Cert) (s : Broadcast ι Ctx Ssl) (o : ι)
    (e : WebrtcTransport.Event) : Broadcast ι Ctx Ssl → List (Output ι) → Prop
  | intro {w : WebrtcTransport Ctx Ssl} {out : List TransportOutput}
      (hstep : WebrtcTransport.step p (s.transports o) e = .ok (w, out)) :
      Handled p s o e
        { s with
          source := (signals o (s.transports o) w out).foldl hear s.source
          transports := Function.update s.transports o w }
        ((signals o (s.transports o) w out).map .signal ++ out.map .transport)

theorem handle_handled {e : WebrtcTransport.Event} (h : handle p s o e = .ok (s', outs)) :
    Handled p s o e s' outs := by
  simp only [handle] at h
  split at h
  · cases h
  next hstep =>
    cases h
    exact .intro hstep

inductive Move (p : Platform Ctx Ssl Cert) (s : Broadcast ι Ctx Ssl) :
    Event ι → Broadcast ι Ctx Ssl → List (Output ι) → Prop
  | source {e : LiveSource.Event ι} {source : LiveSource ι} {outs : List (LiveSource.Output ι)}
      (hstep : s.source.step e = .ok (source, outs)) :
      Move p s (.source e)
        { s with
          source
          pending := fun o => s.pending o ++ outs.filterMap (LiveSource.Output.postedTo o) }
        (outs.map .source)
  | transport {o : ι} {e : WebrtcTransport.Event} {s' : Broadcast ι Ctx Ssl}
      {outs : List (Output ι)} (hhandled : Handled p s o e s' outs) :
      Move p s (.transport o e) s' outs
  | turn {o : ι} {heap : Memory} {clock : Nat → UInt64} {pkt : SourcePacket}
      {rest : List SourcePacket} {s' : Broadcast ι Ctx Ssl} {outs : List (Output ι)}
      (hpending : s.pending o = pkt :: rest)
      (hhandled : Handled p { s with pending := Function.update s.pending o rest } o
        (pkt.incoming heap clock) s' outs) :
      Move p s (.turn o heap clock) s' (.turned pkt :: outs)

theorem step_move (h : step p s e = .ok (s', outs)) : Move p s e s' outs := by
  cases e with
  | source e =>
      simp only [step] at h
      split at h
      · cases h
      next hstep =>
        cases h
        exact .source hstep
  | transport o e => exact .transport (handle_handled h)
  | turn o heap clock =>
      simp only [step] at h
      split at h
      · cases h
      next hpending =>
        split at h
        · cases h
        next hok =>
          cases h
          exact .turn hpending (handle_handled hok)

/-- The events of the source are none of a latch; a packet comes to a
transport from the source only; and DTLS hands over keys once. -/
def Served (p : Platform Ctx Ssl Cert) (s : Broadcast ι Ctx Ssl) : Event ι → Prop
  | .source (.connect _) | .source (.shutdown _) => False
  | .source _ => True
  | .transport _ (.incomingH264Packet _ _ _) | .transport _ (.incomingOpusPacket _ _ _) => False
  | .transport o e => WebrtcTransport.Connects p (s.transports o) e
  | .turn _ _ _ => True

end Moves

/-! ## Runs -/

section Runs

variable {p : Platform Ctx Ssl Cert} {s₀ s s' : Broadcast ι Ctx Ssl} {e : Event ι} {o o' : ι}
  {outs : List (Output ι)} {h : List (Event ι × List (Output ι))}

theorem Handled.source_run {e : WebrtcTransport.Event} (hh : Handled p s o e s' outs) :
    Run LiveSource.step (fun _ _ => True) s.source
      ((outs.filterMap Output.signal?).map (·.event, [])) s'.source := by
  cases hh with
  | intro hstep =>
      rw [(parts_of_handle _ _).1]
      exact hear_run (fun _ _ => trivial) _

/-- What a run is for the source. -/
theorem source_run {C : Broadcast ι Ctx Ssl → Event ι → Prop} (hr : Run (step p) C s₀ h s) :
    Run LiveSource.step (fun _ _ => True) s₀.source (sourceHistory h) s.source := by
  induction hr with
  | nil => exact .nil
  | snoc _ _ hstep ih =>
      rw [sourceHistory_snoc]
      refine ih.trans ?_
      cases step_move hstep with
      | source hsource =>
          simp only [forSource, source_of_source]
          exact .snoc .nil trivial hsource
      | transport hhandled | turn _ hhandled => exact hhandled.source_run

/-- Where a viewer is, seen from the source and from its transport. -/
structure Linked (p : Platform Ctx Ssl Cert) (w₀ : WebrtcTransport Ctx Ssl) (o : ι)
    (h : List (Event ι × List (Output ι))) (s : Broadcast ι Ctx Ssl) : Prop where
  run : Run (WebrtcTransport.step p) (WebrtcTransport.Connects p) w₀ (transportHistory o h)
    (s.transports o)
  connected : (s.source.viewers o).connectionEstablished =
    (s.transports o).connectionEstablished
  ready : s.pending o ≠ [] → (s.transports o).connectionEstablished = true
  ledger : LiveSource.posted o (sourceHistory h) = turned o h ++ s.pending o
  packets : ∀ kind, WebrtcTransport.posted kind (transportHistory o h) =
    ((turned o h).filter (·.packetType.mediaType = kind)).map SourcePacket.media

variable {w₀ : WebrtcTransport Ctx Ssl}

/-- The source moves: what it posts waits for the loop. -/
theorem Linked.source (hl : Linked p w₀ o h s) {e : LiveSource.Event ι} {source : LiveSource ι}
    {outs : List (LiveSource.Output ι)} (hconnect : e ≠ .connect o)
    (hstep : s.source.step e = .ok (source, outs)) :
    Linked p w₀ o (h ++ [(.source e, outs.map .source)])
      { s with
        source
        pending := fun o => s.pending o ++ outs.filterMap (LiveSource.Output.postedTo o) } := by
  have hviewer := LiveSource.step_keeps_connection hconnect hstep
  refine ⟨?_, hviewer.trans hl.connected, fun hpending => ?_, ?_, fun kind => ?_⟩
  · rw [transportHistory_snoc]
    simpa [forTransport] using hl.run
  · have hpending : s.pending o ++ outs.filterMap (LiveSource.Output.postedTo o) ≠ [] := hpending
    by_cases hbefore : s.pending o = []
    · rw [hbefore, List.nil_append] at hpending
      exact hl.connected ▸ LiveSource.step_posts_connected hpending hstep
    · exact hl.ready hbefore
  · rw [sourceHistory_snoc, turned_snoc]
    simp only [forSource, source_of_source, turnedBy, List.append_nil]
    rw [LiveSource.posted_snoc, hl.ledger, List.append_assoc]
  · rw [transportHistory_snoc, turned_snoc]
    simpa [forTransport, turnedBy] using hl.packets kind

theorem posted_signals (xs : List (Signal ι)) :
    LiveSource.posted o (xs.map fun x => (x.event, [])) = [] := by
  simp [LiveSource.posted, outputs]

/-- The transport of another viewer moves. -/
theorem Linked.elsewhere (hl : Linked p w₀ o h s) {x : Event ι × List (Output ι)}
    (hsource : LiveSource.posted o (forSource x) = []) (hnone : forTransport o x = [])
    (hturned : turnedBy o x = []) (htransport : s'.transports o = s.transports o)
    (hviewer : s'.source.viewers o = s.source.viewers o)
    (hpending : s'.pending o = s.pending o) : Linked p w₀ o (h ++ [x]) s' := by
  have hhistory : transportHistory o (h ++ [x]) = transportHistory o h := by
    rw [transportHistory_snoc, hnone, List.append_nil]
  have hsame : turned o (h ++ [x]) = turned o h := by
    rw [turned_snoc, hturned, List.append_nil]
  refine ⟨?_, ?_, ?_, ?_, fun kind => ?_⟩
  · rw [hhistory, htransport]
    exact hl.run
  · rw [hviewer, htransport]
    exact hl.connected
  · rw [hpending, htransport]
    exact hl.ready
  · rw [sourceHistory_snoc, LiveSource.posted_append, hsource, List.append_nil, hsame, hpending]
    exact hl.ledger
  · rw [hhistory, hsame]
    exact hl.packets kind

/-- The transport of the viewer moves, and has run these packets. -/
theorem Linked.own (hl : Linked p w₀ o h s) {x : Event ι × List (Output ι)}
    {e : WebrtcTransport.Event} {out : List TransportOutput}
    (hsource : LiveSource.posted o (forSource x) = []) (hone : forTransport o x = [(e, out)])
    (hconnects : WebrtcTransport.Connects p (s.transports o) e)
    (hstep : WebrtcTransport.step p (s.transports o) e = .ok (s'.transports o, out))
    (hviewer : (s'.source.viewers o).connectionEstablished =
      (s'.transports o).connectionEstablished)
    (hpending : turnedBy o x ++ s'.pending o = s.pending o)
    (hpackets : ∀ kind, WebrtcTransport.posted kind [(e, out)] =
      ((turnedBy o x).filter (·.packetType.mediaType = kind)).map SourcePacket.media) :
    Linked p w₀ o (h ++ [x]) s' := by
  refine ⟨?_, hviewer, fun hleft => ?_, ?_, fun kind => ?_⟩
  · rw [transportHistory_snoc, hone]
    exact hl.run.snoc hconnects hstep
  · have hwaited : s.pending o ≠ [] := by
      rw [← hpending]
      exact List.append_ne_nil_of_right_ne_nil _ hleft
    exact WebrtcTransport.step_still hstep (hl.ready hwaited)
  · rw [sourceHistory_snoc, LiveSource.posted_append, hsource, List.append_nil, hl.ledger,
      turned_snoc, List.append_assoc, hpending]
  · rw [transportHistory_snoc, hone, WebrtcTransport.posted_snoc, hl.packets, hpackets,
      turned_snoc, List.filter_append, List.map_append]

/-- A packet that waits for a connected transport can be run. -/
theorem connects_incoming {w : WebrtcTransport Ctx Ssl} {pkt : SourcePacket} {heap : Memory}
    {clock : Nat → UInt64} (hconn : w.connectionEstablished = true) :
    WebrtcTransport.Connects p w (pkt.incoming heap clock) := by
  unfold SourcePacket.incoming
  split
  · exact ⟨(fun _ he => by cases he), hconn, fun _ hcall => by cases hcall⟩
  · exact ⟨(fun _ he => by cases he), hconn, fun _ hcall => by cases hcall⟩

theorem posted_incoming {pkt : SourcePacket} {heap : Memory} {clock : Nat → UInt64}
    {out : List TransportOutput} (kind : MediaType) :
    WebrtcTransport.posted kind [(pkt.incoming heap clock, out)] =
      ([pkt].filter (·.packetType.mediaType = kind)).map SourcePacket.media := by
  unfold SourcePacket.incoming
  cases hp : pkt.packetType <;> cases kind <;>
    simp [WebrtcTransport.posted, hp, PacketType.mediaType]

omit [DecidableEq ι] in
theorem served_transport {e : WebrtcTransport.Event} (hserved : Served p s (.transport o e)) :
    WebrtcTransport.Connects p (s.transports o) e ∧
      ∀ kind out, WebrtcTransport.posted kind [(e, out)] = [] := by
  cases e with
  | incomingH264Packet _ _ _ | incomingOpusPacket _ _ _ => exact absurd hserved id
  | createAnswer _ | udpSocketDataReceive _ _ | udpSocketError | rtcpTimerTimeout _ _
    | dtlsTimerTimeout | mediaSourceEnd => exact ⟨hserved, fun _ _ => rfl⟩

theorem Linked.step (hl : Linked p w₀ o h s) (hserved : Served p s e)
    (hs : Broadcast.step p s e = .ok (s', outs)) : Linked p w₀ o (h ++ [(e, outs)]) s' := by
  cases step_move hs with
  | source hstep =>
      refine hl.source ?_ hstep
      rintro rfl
      exact hserved
  | @transport o' e _ _ hhandled =>
      cases hhandled with
      | @intro w out hstep =>
          obtain ⟨hsignals, hout, -⟩ :=
            parts_of_handle (signals o' (s.transports o') w out) out
          have hsource : LiveSource.posted o (forSource (.transport o' e,
              (signals o' (s.transports o') w out).map .signal ++ out.map .transport)) = [] := by
            simp only [forSource, hsignals, posted_signals]
          by_cases ho : o' = o
          · subst ho
            obtain ⟨hconnects, hnone⟩ := served_transport hserved
            refine hl.own hsource (by simp only [forTransport, if_true, hout]) hconnects ?_ ?_ rfl
              fun kind => hnone kind out
            · simpa using hstep
            · simpa using hear_own hl.connected (WebrtcTransport.step_still hstep)
          · refine hl.elsewhere hsource (if_neg ho) rfl (Function.update_of_ne (Ne.symm ho) _ _)
              (hear_others (Ne.symm ho)) rfl
  | @turn o' heap clock pkt rest _ _ hpending hhandled =>
      cases hhandled with
      | @intro w out hstep =>
          obtain ⟨hsignals, hout, hturned⟩ :=
            parts_of_turn pkt (signals o' (s.transports o') w out) out
          have hsource : LiveSource.posted o (forSource (.turn o' heap clock, .turned pkt ::
              ((signals o' (s.transports o') w out).map .signal ++ out.map .transport))) = [] := by
            simp only [forSource, hsignals, posted_signals]
          by_cases ho : o' = o
          · subst ho
            have hconn := hl.ready (by rw [hpending]; exact List.cons_ne_nil _ _)
            have hone : turnedBy o' (.turn o' heap clock, .turned pkt ::
                ((signals o' (s.transports o') w out).map .signal ++ out.map .transport)) =
                  [pkt] := by
              simp only [turnedBy, if_true, hturned]
            have hrun : forTransport o' (.turn o' heap clock, .turned pkt ::
                ((signals o' (s.transports o') w out).map .signal ++ out.map .transport)) =
                  [(pkt.incoming heap clock, out)] := by
              simp only [forTransport, if_true, hturned, hout, List.map_cons, List.map_nil]
            refine hl.own hsource hrun (connects_incoming hconn) ?_ ?_ ?_ fun kind => ?_
            · simpa using hstep
            · simpa using hear_own hl.connected (WebrtcTransport.step_still hstep)
            · simp [hone, hpending]
            · rw [hone, posted_incoming]
          · exact hl.elsewhere hsource (if_neg ho) (if_neg ho)
              (Function.update_of_ne (Ne.symm ho) _ _) (hear_others (Ne.symm ho))
              (Function.update_of_ne (Ne.symm ho) _ _)

/-- What a run is for a viewer. -/
theorem linked_of_run {v a : Int} {transports : ι → WebrtcTransport Ctx Ssl}
    (hnot : (transports o).connectionEstablished = false)
    (hr : Run (step p) (Served p) (started v a transports) h s) :
    Linked p (transports o) o h s :=
  hr.invariant (I := Linked p (transports o) o)
    ⟨.nil, hnot.symm, fun hnone => absurd rfl hnone, rfl, fun _ => rfl⟩
    fun _ _ _ _ _ hl hserved hs => hl.step hserved hs

end Runs

/-- `Start` has returned, and DTLS has its connection. -/
def IsStarted (w : WebrtcTransport Ctx Ssl) : Prop :=
  ∃ iceLite dtls h264 h264Rtx opus remoteSetup protectBuffer, dtls.ssl.isSome = true ∧
    w = .started iceLite dtls h264 h264Rtx opus remoteSetup protectBuffer

/-- In every run of the source and its viewers, whatever the order of the
threads: what a viewer that is registered once has been called for is the
stream without a gap, from a video key on; its loop has run it in order, but
for the end that still waits, and for a beginning if the viewer was shut
down; and when the viewer is connected, with an SRTP session that came about
and is not exhausted, its far end reads from the datagrams what the
packetizers make of the packets that were run, each once, RTX packets that
carry one of these, and sender reports. -/
theorem far_end_reads {View : Type} {p : Platform Ctx Ssl Cert} {viewer : SrtpViewer View}
    {Exhausted : Ctx → Prop} {Synced : Ctx → View → List ByteString → Prop}
    (ha : viewer.Agrees p.srtp Exhausted Synced) {videoIndex audioIndex : Int}
    {transports : ι → WebrtcTransport Ctx Ssl} {s : Broadcast ι Ctx Ssl} {o : ι}
    {h : List (Event ι × List (Output ι))} (hstarted : IsStarted (transports o))
    (hr : Run (step p) (Served p) (started videoIndex audioIndex transports) h s)
    (honce : LiveSource.registrations o (sourceHistory h) ≤ 1) :
    (∃ h₁ i lost, h₁ <+: sourceHistory h ∧
      StartsAt SourcePacket.isVideoKey (LiveSource.generated h₁) i ∧
      lost ++ turned o h ++ s.pending o <+: (LiveSource.generated (sourceHistory h)).drop i ∧
      (¬ LiveSource.ShutDown o (sourceHistory h) → lost = [])) ∧
    (WebrtcTransport.AnswerCreated (transportHistory o h) →
      (s.transports o).connectionEstablished = true →
      WebrtcTransport.SrtpReady Exhausted (s.transports o) →
      WebrtcTransport.FarEndReads p viewer (s.transports o)
        (((turned o h).filter (·.packetType.mediaType = .video)).map SourcePacket.media)
        (((turned o h).filter (·.packetType.mediaType = .audio)).map SourcePacket.media)
        (WebrtcTransport.mediaSends (transportHistory o h))) := by
  obtain ⟨iceLite, dtls, h264, h264Rtx, opus, remoteSetup, protectBuffer, hssl, hw₀⟩ := hstarted
  have hlinked : Linked p (transports o) o h s := linked_of_run (by rw [hw₀]; rfl) hr
  refine ⟨?_, fun hanswer hconn hready => ?_⟩
  · have hsource := source_run hr
    obtain ⟨h₁, i, hprefix, hstart, hgiven⟩ := LiveSource.given_of_run hsource honce
    obtain ⟨lost, hlost, hnone⟩ := (LiveSource.posts_of_run (o := o) hsource).suffix
    refine ⟨h₁, i, lost, hprefix, hstart, ?_, hnone⟩
    rwa [List.append_assoc, ← hlinked.ledger, ← hlost]
  · have hassembled : WebrtcTransport.Assembled (transports o) := by
      rw [hw₀]
      exact WebrtcTransport.assembled_started hssl
    have hmedia : (transports o).mediaStream = none := by
      rw [hw₀]
      rfl
    obtain ⟨history, hviewing⟩ := WebrtcTransport.run_watched_by ha hassembled hmedia
      (by rw [hw₀]; rfl) hlinked.run
    have hstream := (WebrtcTransport.run_assembled hassembled hmedia hlinked.run).2.mpr hanswer
    have hreads := hviewing.farEndReads hstream hconn hready
    rwa [hlinked.packets, hlinked.packets] at hreads

section Samples

open WebrtcTransport (sampleTransport sampleViewer handshakeDatagram connects_of)

abbrev samplePlatform : Platform Unit Bool (List UInt8) :=
  WebrtcTransport.samplePlatform WebrtcTransport.announced

/-- The sample frame as the source reads it, a key. -/
def keyFrame : SourcePacket where
  packetType := .video
  packet :=
    { streamIndex := 0, pts := 40, dts := 40, flags := 1,
      data := [0, 0, 0, 1, 0x67, 0x42, 0, 0, 1, 0x65, 0x88] }

/-- A datagram comes to the viewer. -/
def arrives (d : Datagram) : Event Nat := .transport 7 (WebrtcTransport.receive d)

theorem registrations_signals (xs : List (Signal Nat)) :
    LiveSource.registrations 7 (xs.map fun x => (x.event, [])) = 0 := by
  refine List.countP_eq_zero.mpr fun x hx => ?_
  obtain ⟨y, -, rfl⟩ := List.mem_map.mp hx
  cases y <;> simp [Signal.event]

/-- A viewer gets connected, comes to the source, and is given a key frame. -/
theorem keyFrame_run : ∃ h s, Run (step samplePlatform) (Served samplePlatform)
      (started 0 1 fun _ : Nat => sampleTransport) h s ∧
    LiveSource.registrations 7 (sourceHistory h) = 1 ∧
    WebrtcTransport.AnswerCreated (transportHistory 7 h) ∧ turned 7 h = [keyFrame] ∧
    (s.transports 7).connectionEstablished = true ∧
    (s.transports 7).sendSrtpSession = some ⟨some (), 10, 10⟩ := by
  have hsteps : ∃ s₁ s₂ s₃ s₄ o₁ o₂ o₃ o₄,
      step samplePlatform (started 0 1 fun _ : Nat => sampleTransport)
        (.transport 7 (.createAnswer fun _ => 0)) = .ok (s₁, o₁) ∧
      step samplePlatform s₁ (arrives IceLite.bareNomination) = .ok (s₂, o₂) ∧
      step samplePlatform s₂ (arrives IceLite.bareNomination) = .ok (s₃, o₃) ∧
      step samplePlatform s₃ (arrives handshakeDatagram) = .ok (s₄, o₄) ∧
      (s₁.transports 7).connectionEstablished = false ∧
      (s₂.transports 7).connectionEstablished = false ∧
      (s₃.transports 7).connectionEstablished = false ∧
      ∃ h s₅, runAll (step samplePlatform) s₄
        [.source (.register 7), .source .reader, .source .reader, .source .reader,
          .source .reader, .source (.read (LiveSource.videoAnswer keyFrame)), .source .reader,
          .source .reader, .turn 7 (fun _ => 0) fun _ => 1000] = .ok (h, s₅) ∧
      (s₅.transports 7).connectionEstablished = true ∧
      turned 7 h = [keyFrame] ∧ LiveSource.registrations 7 (sourceHistory h) = 1 ∧
      (s₅.transports 7).sendSrtpSession = some ⟨some (), 10, 10⟩ :=
    ⟨_, _, _, _, _, _, _, _, rfl, rfl, rfl, rfl, rfl, rfl, rfl, _, _, rfl, rfl, rfl, rfl, rfl⟩
  obtain ⟨s₁, s₂, s₃, s₄, o₁, o₂, o₃, o₄, h₁, h₂, h₃, h₄, hw₁, hw₂, hw₃, h, s₅, hall, hconn,
    hturned, honce, hsession⟩ := hsteps
  obtain ⟨hrest, hevents⟩ := run_of_runAll _ _ _ hall
  have hserved : ∀ x ∈ h, ∀ t, Served samplePlatform t x.1 := by
    intro x hx t
    have hmem := hevents ▸ List.mem_map_of_mem hx
    simp only [List.mem_cons, List.not_mem_nil, or_false] at hmem
    rcases hmem with he | he | he | he | he | he | he | he | he <;> rw [he] <;> trivial
  have hreceive : ∀ (s : Broadcast Nat Unit Bool) d,
      (s.transports 7).connectionEstablished = false →
      Served samplePlatform s (arrives d) :=
    fun s d hw => connects_of (fun _ he => by cases he) trivial (Or.inl hw)
  have hanswer : Served samplePlatform (started 0 1 fun _ : Nat => sampleTransport)
      (.transport 7 (.createAnswer fun _ => 0)) :=
    connects_of (fun _ _ => rfl) trivial (Or.inl rfl)
  refine ⟨_, s₅, ((((Run.nil.snoc hanswer h₁).snoc (hreceive s₁ _ hw₁) h₂).snoc
    (hreceive s₂ _ hw₂) h₃).snoc (hreceive s₃ _ hw₃) h₄).trans (hrest.of_events hserved),
    ?_, ?_, ?_, hconn, hsession⟩
  · simpa [arrives, sourceHistory, forSource, LiveSource.registrations_append,
      registrations_signals] using honce
  · refine ⟨fun _ => 0, _, List.mem_flatMap.mpr ⟨(.transport 7 (.createAnswer fun _ => 0), o₁),
      by simp, List.mem_singleton_self _⟩⟩
  · simpa [arrives, turned, turnedBy] using hturned

/-- The far end of the viewer reads the key frame. -/
theorem far_end_reads_keyFrame : ∃ h s, turned 7 h = [keyFrame] ∧
    WebrtcTransport.FarEndReads samplePlatform sampleViewer (s : WebrtcTransport Unit Bool)
      [keyFrame.media] [] (WebrtcTransport.mediaSends (transportHistory 7 h)) ∧
    ∃ h₁ i lost, h₁ <+: sourceHistory h ∧
      StartsAt SourcePacket.isVideoKey (LiveSource.generated h₁) i ∧
      lost ++ [keyFrame] <+: (LiveSource.generated (sourceHistory h)).drop i := by
  obtain ⟨h, s, hr, honce, hanswer, hturned, hconn, hsession⟩ := keyFrame_run
  have hstarted : IsStarted sampleTransport := ⟨_, _, _, _, _, _, _, rfl, rfl⟩
  have hagrees : sampleViewer.Agrees samplePlatform.srtp (fun _ => False) fun _ v had => v = had :=
    WebrtcTransport.sampleViewer_agrees _
  obtain ⟨⟨h₁, i, lost, hprefix, hstart, hgiven, -⟩, hreads⟩ :=
    far_end_reads (o := 7) hagrees (by exact hstarted) hr (Nat.le_of_eq honce)
  have hread := hreads hanswer hconn ⟨_, (), hsession, rfl, id⟩
  rw [hturned] at hread hgiven
  exact ⟨h, s.transports 7, hturned, hread, h₁, i, lost, hprefix, hstart,
    (List.prefix_append _ _).trans hgiven⟩

end Samples

end Broadcast

end WebrtcServer
