/-
# `SourceLiveness` — which sources the registry hands out

`Add` and `Query` hand out what is in `database_`, and only `Remove` takes
an entry out of it.  A source whose stream ends tells its observers, not
the registry, so its entry stays, and with it the URL: it is handed out
until somebody removes it.

A stream may end while `Add` has not yet put its source into the registry.
Nobody else can tell this from an end right after it.
-/
import WebrtcServer.Lib.Runs
import WebrtcServer.MediaSourceManager
import WebrtcServer.Utils

namespace WebrtcServer.MediaSourceManager

open Lib

/-! ## The registry as a system -/

inductive Event where
  | add (opens : String → Bool) (randomId url : String)
  | remove (id : String)
  | query (id : String)
  /-- `ReadPacket` returns in the thread of the source. -/
  | streamEnd (id : String)

inductive Output where
  /-- `Add` has opened and started a source. -/
  | added (id : String)
  /-- The id or the source of an entry is given to the caller. -/
  | handedOut (id : String) (source : ManagedSource)

/-- The entry that `Add` finds. -/
def find (m : MediaSourceManager) (url : String) : Option (String × ManagedSource) :=
  m.database.find? (fun e => e.2.url == url)

def streamEnd (m : MediaSourceManager) (id : String) : MediaSourceManager :=
  { database := m.database.map fun e =>
      if e.1 = id then (e.1, { e.2 with reading := false }) else e }

/-- What `Add` answers with, beside the id. -/
def addOutputs (m : MediaSourceManager) (opens : String → Bool) (randomId url : String) :
    List Output :=
  match m.find url with
  | some e => [.handedOut e.1 e.2]
  | none => if (ManagedSource.openUrl opens url).isSome then [.added randomId] else []

def queryOutputs (m : MediaSourceManager) (id : String) : List Output :=
  match m.query id with
  | some source => [.handedOut id source]
  | none => []

def step (m : MediaSourceManager) : Event → Except Fault (MediaSourceManager × List Output)
  | .add opens randomId url =>
      .ok ((m.add opens randomId url).1, m.addOutputs opens randomId url)
  | .remove id => .ok (m.remove id, [])
  | .query id => .ok (m, m.queryOutputs id)
  | .streamEnd id => .ok (m.streamEnd id, [])

/-- A stream ends once. -/
def Enabled (m : MediaSourceManager) : Event → Prop
  | .streamEnd id => ∃ source, m.query id = some source ∧ source.reading = true
  | _ => True

def empty : MediaSourceManager := ⟨[]⟩

/-! ## Ends in a history -/

/-- The stream of the source with this id has ended, and since then no DELETE
has removed it and no `Add` has put another source under its id. -/
def LeftEnded (h : List (Event × List Output)) (id : String) : Prop :=
  ∃ pre o post, h = pre ++ (.streamEnd id, o) :: post ∧
    ∀ x ∈ post, x.1 ≠ .remove id ∧ .added id ∉ x.2

theorem leftEnded_snoc {h : List (Event × List Output)} {e : Event} {o : List Output}
    {id : String} :
    LeftEnded (h ++ [(e, o)]) id ↔
      e = .streamEnd id ∨ LeftEnded h id ∧ e ≠ .remove id ∧ .added id ∉ o := by
  constructor
  · rintro ⟨pre, o', post, hsplit, hpost⟩
    rcases split_concat hsplit with ⟨-, -, heq⟩ | ⟨post', rfl, rfl⟩
    · cases heq
      exact Or.inl rfl
    · right
      refine ⟨⟨pre, o', post', rfl, fun x hx => hpost x (List.mem_append_left _ hx)⟩, ?_⟩
      exact hpost (e, o) (List.mem_append_right _ List.mem_cons_self)
  · rintro (rfl | ⟨⟨pre, o', post, rfl, hpost⟩, hnot⟩)
    · exact ⟨h, o, [], rfl, fun x hx => by cases hx⟩
    · refine ⟨pre, o', post ++ [(e, o)], by rw [List.append_assoc]; rfl, ?_⟩
      intro x hx
      rcases List.mem_append.mp hx with hx | hx
      · exact hpost x hx
      · rw [List.mem_singleton.mp hx]
        exact hnot

/-! ## The invariant -/

/-- An entry is running exactly when it is not left from an ended stream. -/
def Tracked (h : List (Event × List Output)) (m : MediaSourceManager) : Prop :=
  ∀ x ∈ m.database, x.2.reading = true ↔ ¬ LeftEnded h x.1

section Steps

variable {h : List (Event × List Output)} {m m' : MediaSourceManager} {e : Event}
  {o : List Output}

/-- Events that end and add no stream leave the running entries that stay as
they are. -/
theorem Tracked.of_quiet (ht : Tracked h m)
    (hsub : ∀ x ∈ m'.database, x ∈ m.database ∧ e ≠ .remove x.1)
    (hend : ∀ id, e ≠ .streamEnd id) (hadd : ∀ id, .added id ∉ o) :
    Tracked (h ++ [(e, o)]) m' := by
  intro x hx
  obtain ⟨hmem, hstays⟩ := hsub x hx
  rw [ht x hmem, leftEnded_snoc]
  refine not_congr ?_
  constructor
  · exact fun hended => Or.inr ⟨hended, hstays, hadd x.1⟩
  · rintro (he | hended)
    · exact absurd he (hend x.1)
    · exact hended.1

/-- Adding an address finds its entry, opens nothing, or puts the opened
source under the id it announces. -/
theorem add_cases (m : MediaSourceManager) (opens : String → Bool) (randomId url : String) :
    (∃ entry, m.find url = some entry ∧ m.add opens randomId url = (m, some entry.1) ∧
        m.addOutputs opens randomId url = [.handedOut entry.1 entry.2]) ∨
      (m.find url = none ∧ ManagedSource.openUrl opens url = none ∧
        m.add opens randomId url = (m, none) ∧ m.addOutputs opens randomId url = []) ∨
      ∃ source : ManagedSource, m.find url = none ∧
        ManagedSource.openUrl opens url = some source ∧
        m.add opens randomId url = (m.insert randomId source.start, some randomId) ∧
        m.addOutputs opens randomId url = [.added randomId] := by
  cases hfind : m.find url with
  | some entry =>
      left
      refine ⟨entry, rfl, ?_, ?_⟩
      · rw [MediaSourceManager.add, show m.database.find? _ = some entry from hfind]
      · rw [addOutputs, hfind]
  | none =>
      right
      cases hopen : ManagedSource.openUrl opens url with
      | none =>
          left
          refine ⟨rfl, rfl, ?_, ?_⟩
          · rw [MediaSourceManager.add, show m.database.find? _ = none from hfind, hopen]
          · rw [addOutputs, hfind, hopen]
            rfl
      | some source =>
          right
          refine ⟨source, rfl, rfl, ?_, ?_⟩
          · rw [MediaSourceManager.add, show m.database.find? _ = none from hfind, hopen]
          · rw [addOutputs, hfind, hopen]
            rfl

/-- A source started under an announced id is running, whatever had that
id before. -/
theorem Tracked.insert (ht : Tracked h m) (hend : ∀ id, e ≠ .streamEnd id)
    (hremove : ∀ id, e ≠ .remove id) (randomId : String) (source : ManagedSource) :
    Tracked (h ++ [(e, [.added randomId])]) (m.insert randomId source.start) := by
  intro x hx
  rw [leftEnded_snoc]
  rcases List.mem_append.mp hx with hx | hx
  · obtain ⟨hmem, hne⟩ := List.mem_filter.mp hx
    have hne : x.1 ≠ randomId := by simpa using hne
    rw [ht x hmem]
    refine not_congr ?_
    constructor
    · refine fun hended => Or.inr ⟨hended, hremove x.1, fun hin => hne ?_⟩
      injection List.mem_singleton.mp hin
    · rintro (he | hended)
      · exact absurd he (hend x.1)
      · exact hended.1
  · rw [List.mem_singleton.mp hx]
    refine iff_of_true rfl ?_
    rintro (he | hended)
    · exact absurd he (hend randomId)
    · exact hended.2.2 List.mem_cons_self

theorem Tracked.add (ht : Tracked h m) (opens : String → Bool) (randomId url : String) :
    Tracked (h ++ [(.add opens randomId url, m.addOutputs opens randomId url)])
      (m.add opens randomId url).1 := by
  have hend : ∀ id, Event.add opens randomId url ≠ .streamEnd id := fun id heq => by cases heq
  have hremove : ∀ id, Event.add opens randomId url ≠ .remove id := fun id heq => by cases heq
  rcases add_cases m opens randomId url with
    ⟨entry, -, hadd, hout⟩ | ⟨-, -, hadd, hout⟩ | ⟨source, -, -, hadd, hout⟩
  · rw [hadd, hout]
    refine ht.of_quiet (fun x hx => ⟨hx, hremove x.1⟩) hend fun id hmem => ?_
    cases List.mem_singleton.mp hmem
  · rw [hadd, hout]
    refine ht.of_quiet (fun x hx => ⟨hx, hremove x.1⟩) hend fun id hmem => ?_
    cases hmem
  · rw [hadd, hout]
    exact ht.insert hend hremove randomId source

theorem Tracked.streamEnd (ht : Tracked h m) (id : String) :
    Tracked (h ++ [(.streamEnd id, [])]) (m.streamEnd id) := by
  intro x hx
  obtain ⟨y, hy, rfl⟩ := List.mem_map.mp hx
  rw [leftEnded_snoc]
  by_cases hid : y.1 = id
  · subst hid
    simp
  · rw [if_neg hid, ht y hy]
    refine not_congr ?_
    constructor
    · exact fun hended => Or.inr ⟨hended, by simp⟩
    · rintro (he | hended)
      · injection he with he
        exact absurd he.symm hid
      · exact hended.1

theorem tracked_step (ht : Tracked h m) (hs : step m e = .ok (m', o)) :
    Tracked (h ++ [(e, o)]) m' := by
  cases e with
  | add opens randomId url =>
      cases hs
      exact ht.add opens randomId url
  | remove id =>
      cases hs
      refine ht.of_quiet (fun x hx => ?_) (fun id' heq => by cases heq) (by simp)
      obtain ⟨hmem, hne⟩ := List.mem_filter.mp hx
      refine ⟨hmem, fun heq => ?_⟩
      injection heq with hid
      simp [hid] at hne
  | query id =>
      cases hs
      refine ht.of_quiet (fun x hx => ⟨hx, fun heq => by cases heq⟩)
        (fun id' heq => by cases heq) ?_
      intro id' hmem
      rw [queryOutputs] at hmem
      split at hmem
      · cases List.mem_singleton.mp hmem
      · cases hmem
  | streamEnd id =>
      cases hs
      exact ht.streamEnd id

theorem run_tracked (hr : Run step Enabled empty h m) : Tracked h m := by
  refine hr.invariant (fun x hx => by cases hx) ?_
  intro h m e m' o ht _ hs
  exact tracked_step ht hs

/-! ## What is handed out -/

/-- The entry of `database_` that an event finds. -/
def asked (m : MediaSourceManager) : Event → Option (String × ManagedSource)
  | .add _ _ url => m.find url
  | .query id => (m.query id).map fun source => (id, source)
  | _ => none

theorem mem_query {id : String} {source : ManagedSource} (h : m.query id = some source) :
    (id, source) ∈ m.database := by
  obtain ⟨front, back, hsplit, -⟩ := List.lookup_eq_some_iff.mp h
  rw [hsplit]
  exact List.mem_append_right _ List.mem_cons_self

theorem mem_asked {entry : String × ManagedSource} (h : m.asked e = some entry) :
    entry ∈ m.database := by
  cases e with
  | add opens randomId url => exact List.mem_of_find?_eq_some h
  | query id =>
      obtain ⟨source, hquery, rfl⟩ := Option.map_eq_some_iff.mp h
      exact mem_query hquery
  | remove id => cases h
  | streamEnd id => cases h

theorem handedOut_iff (hs : step m e = .ok (m', o)) (id : String) (source : ManagedSource) :
    .handedOut id source ∈ o ↔ m.asked e = some (id, source) := by
  cases e with
  | add opens randomId url =>
      cases hs
      rw [addOutputs, asked]
      cases m.find url with
      | some entry =>
          simp only [List.mem_singleton, Output.handedOut.injEq, Option.some.injEq, Prod.ext_iff]
          exact ⟨fun h => ⟨h.1.symm, h.2.symm⟩, fun h => ⟨h.1.symm, h.2.symm⟩⟩
      | none =>
          refine iff_of_false ?_ (by simp)
          dsimp only
          split <;> simp
  | query id' =>
      cases hs
      rw [queryOutputs, asked]
      cases m.query id' with
      | some source' =>
          simp only [List.mem_singleton, Output.handedOut.injEq, Option.map_some,
            Option.some.injEq, Prod.ext_iff]
          exact ⟨fun h => ⟨h.1.symm, h.2.symm⟩, fun h => ⟨h.1.symm, h.2.symm⟩⟩
      | none => simp
  | remove id' =>
      cases hs
      simp [asked]
  | streamEnd id' =>
      cases hs
      simp [asked]

/-- Every source that the event hands out is still read. -/
def HandsOutRunning (m : MediaSourceManager) (e : Event) : Prop :=
  ∀ m' o, step m e = .ok (m', o) → ∀ id source, .handedOut id source ∈ o →
    source.reading = true

end Steps

/-- After every run the next event hands out a running source exactly when
the entry that it finds is not left from a stream that has ended: behind the
end came a DELETE of the id, or an `Add` under it, before the event. -/
theorem handsOutRunning_iff {h : List (Event × List Output)} {m : MediaSourceManager}
    (hr : Run step Enabled empty h m) (e : Event) :
    HandsOutRunning m e ↔ ∀ entry, m.asked e = some entry → ¬ LeftEnded h entry.1 := by
  have ht := run_tracked hr
  constructor
  · intro hrunning entry hasked
    rw [← ht entry (mem_asked hasked)]
    obtain ⟨m', o, hs⟩ : ∃ m' o, step m e = .ok (m', o) := by
      cases e <;> exact ⟨_, _, rfl⟩
    exact hrunning m' o hs entry.1 entry.2 ((handedOut_iff hs _ _).mpr hasked)
  · intro hlive m' o hs id source hmem
    have hasked := (handedOut_iff hs id source).mp hmem
    exact (ht (id, source) (mem_asked hasked)).mpr (hlive _ hasked)

/-! A source is added, and its stream ends. -/

section Samples

def addCamera : Event := .add (fun _ => true) "a" "rtmp://camera"

def camera (reading : Bool) : MediaSourceManager := ⟨[("a", ⟨"rtmp://camera", reading⟩)]⟩

theorem addCamera_step : step empty addCamera = .ok (camera true, [.added "a"]) := by
  have hopen : ManagedSource.openUrl (fun _ => true) "rtmp://camera" =
      some ⟨"rtmp://camera", false⟩ := by decide
  show Except.ok ((empty.add _ _ _).1, addOutputs empty _ _ _) = _
  simp only [add, addOutputs, find, empty, List.find?_nil, hopen]
  rfl

theorem addCamera_run : Run step Enabled empty [(addCamera, [.added "a"])] (camera true) :=
  .snoc .nil trivial addCamera_step

theorem endCamera_run : Run step Enabled empty
    ([(addCamera, [.added "a"])] ++ [(.streamEnd "a", [])]) (camera false) :=
  addCamera_run.snoc ⟨⟨"rtmp://camera", true⟩, rfl, rfl⟩ rfl

/-- It is deleted after its end, and added again. -/
def readded : List (Event × List Output) :=
  [(addCamera, [.added "a"]), (.streamEnd "a", []), (.remove "a", []), (addCamera, [.added "a"])]

theorem readded_run : Run step Enabled empty readded (camera true) := by
  have hremoved : step (camera false) (.remove "a") = .ok (empty, []) := by
    show Except.ok ((camera false).remove "a", []) = _
    simp [remove, camera, empty]
  have hdeleted := endCamera_run.snoc (show Enabled (camera false) (.remove "a") from trivial)
    hremoved
  exact hdeleted.snoc trivial addCamera_step

/-- Nothing is left of the ended stream but its id. -/
theorem handsOutRunning_iff_camera : HandsOutRunning (camera true) (.query "a") := by
  refine (handsOutRunning_iff readded_run (.query "a")).mpr ?_
  intro entry hasked
  obtain rfl : ("a", ⟨"rtmp://camera", true⟩) = entry := Option.some.inj hasked
  show ¬ LeftEnded (([(addCamera, [.added "a"]), (.streamEnd "a", [])] ++
    [(.remove "a", [])]) ++ [(addCamera, [.added "a"])]) "a"
  rw [leftEnded_snoc]
  rintro (he | hended)
  · cases he
  · exact hended.2.2 List.mem_cons_self

/-- The publisher is gone, and the id is still given for the URL. -/
theorem ended_source_handed_out :
    ¬ ∀ (h : List (Event × List Output)) (m : MediaSourceManager) (e : Event),
      Run step Enabled empty h m → HandsOutRunning m e := by
  intro hall
  have hout : step (camera false) addCamera =
      .ok (camera false, [.handedOut "a" ⟨"rtmp://camera", false⟩]) := rfl
  have hreading := hall _ _ addCamera endCamera_run _ _ hout "a" _ List.mem_cons_self
  exact absurd hreading Bool.false_ne_true

end Samples

end WebrtcServer.MediaSourceManager
