/-
# `SourceUrls` — media_source_manager.cpp: the URL of an entry

`Add` looks a URL up as a whole string, NULs included, among the URLs that
the sources keep, and a source keeps what `Open` has read of its URL as a C
string.  The two are one string as long as no URL with a NUL is opened, and
then the registry has one source for each URL that was asked for.  The
source of a URL with a NUL is never found under it: it is opened again at
each `Add`, and listed under the shorter URL.

`StopAll` and `Query` change nothing here, and what an entry was opened for
is read off the history of the registry.
-/
import Mathlib.Data.List.Forall2
import Mathlib.Data.List.Induction
import Mathlib.Data.List.Pairwise
import Mathlib.Data.List.TakeWhile
import WebrtcServer.SourceLiveness

namespace WebrtcServer.MediaSourceManager

open Lib

/-! ## What an entry was opened for -/

/-- The last source opened under this id was opened for this URL. -/
def Requested (h : List (Event × List Output)) (id url : String) : Prop :=
  ∃ pre opens post, h = pre ++ (.add opens id url, [.added id]) :: post ∧
    ∀ x ∈ post, .added id ∉ x.2

/-- What the registry says of URLs is right. -/
structure Faithful (h : List (Event × List Output)) (m : MediaSourceManager) : Prop where
  unique : m.database.Pairwise fun a b => ∀ url, Requested h a.1 url → ¬ Requested h b.1 url
  present : ∀ entry ∈ m.database, ∀ url, Requested h entry.1 url → ∀ opens randomId,
    m.add opens randomId url = (m, some entry.1) ∧
      ∀ id, .added id ∉ m.addOutputs opens randomId url
  listed : List.Forall₂ (fun item entry => ∃ url, Requested h entry.1 url ∧
    item = .obj [("id", .str entry.1), ("url", .str url)]) m.list.items m.database
  refused : ∀ opens randomId url, ManagedSource.openUrl opens url = none →
    (m.add opens randomId url).1 = m

/-- A URL that is opened has no NUL in it. -/
def PlainUrl : Event → Prop
  | .add opens _ url => '\x00' ∉ url.toList ∨ ManagedSource.openUrl opens url = none
  | _ => True

section Urls

variable {h : List (Event × List Output)} {m m' : MediaSourceManager} {e : Event}
  {o : List Output} {id url url' : String}

theorem cUrl_eq_self : cUrl url = url ↔ '\x00' ∉ url.toList := by
  have hlist : cUrl url = url ↔ url.toList.takeWhile (· ≠ '\x00') = url.toList := by
    rw [cUrl, ← String.toList_inj, String.toList_ofList]
  rw [hlist, List.takeWhile_eq_self_iff]
  constructor
  · intro hall hmem
    exact absurd (hall _ hmem) (by decide)
  · intro hnot c hc
    refine decide_eq_true fun heq => hnot ?_
    rw [← heq]
    exact hc

theorem cUrl_no_nul (url : String) : '\x00' ∉ (cUrl url).toList := by
  rw [cUrl, String.toList_ofList]
  intro hmem
  exact absurd (List.mem_takeWhile_imp hmem) (by decide)

theorem openUrl_url {opens : String → Bool} {source : ManagedSource}
    (hopen : ManagedSource.openUrl opens url = some source) : source.url = cUrl url := by
  rw [ManagedSource.openUrl] at hopen
  split at hopen
  · cases hopen
    rfl
  · cases hopen

theorem requested_concat : Requested (h ++ [(e, o)]) id url ↔
    (∃ opens, e = .add opens id url ∧ o = [.added id]) ∨
      Requested h id url ∧ .added id ∉ o := by
  constructor
  · rintro ⟨pre, opens, post, hsplit, hpost⟩
    rcases split_concat hsplit with ⟨-, -, heq⟩ | ⟨post', rfl, rfl⟩
    · cases heq
      exact Or.inl ⟨opens, rfl, rfl⟩
    · right
      refine ⟨⟨pre, opens, post', rfl, fun x hx => hpost x (List.mem_append_left _ hx)⟩, ?_⟩
      exact hpost (e, o) (List.mem_append_right _ List.mem_cons_self)
  · rintro (⟨opens, rfl, rfl⟩ | ⟨⟨pre, opens, post, rfl, hpost⟩, hnot⟩)
    · exact ⟨h, opens, [], rfl, fun x hx => by cases hx⟩
    · refine ⟨pre, opens, post ++ [(e, o)], by rw [List.append_assoc]; rfl, ?_⟩
      intro x hx
      rcases List.mem_append.mp hx with hx | hx
      · exact hpost x hx
      · rw [List.mem_singleton.mp hx]
        exact hnot

/-- An entry was opened for one URL. -/
theorem Requested.unique (hr : Requested h id url) (hr' : Requested h id url') : url = url' := by
  induction h using List.reverseRecOn with
  | nil =>
      rcases hr with ⟨pre, opens, post, hsplit, -⟩
      exact absurd hsplit.symm (List.append_ne_nil_of_right_ne_nil _ (List.cons_ne_nil _ _))
  | append_singleton h x ih =>
      rcases requested_concat.mp hr with ⟨opens, he, ho⟩ | ⟨hold, hnot⟩
      · rcases requested_concat.mp hr' with ⟨opens', he', -⟩ | ⟨-, hnot'⟩
        · rw [he] at he'
          cases he'
          rfl
        · rw [ho] at hnot'
          exact absurd List.mem_cons_self hnot'
      · rcases requested_concat.mp hr' with ⟨opens', -, ho'⟩ | ⟨hold', -⟩
        · rw [ho'] at hnot
          exact absurd List.mem_cons_self hnot
        · exact ih hold hold'

/-! ## What is kept of it -/

/-- An entry keeps its URL as far as a C string goes. -/
def KeepsUrls (h : List (Event × List Output)) (m : MediaSourceManager) : Prop :=
  ∀ entry ∈ m.database, ∃ url, Requested h entry.1 url ∧ entry.2.url = cUrl url

/-- No URL is kept twice. -/
def DistinctUrls (m : MediaSourceManager) : Prop :=
  m.database.Pairwise fun a b => a.2.url ≠ b.2.url

/-- Events that open nothing leave the ids and the URLs of the entries. -/
theorem KeepsUrls.of_quiet (hk : KeepsUrls h m)
    (hsub : ∀ x ∈ m'.database, ∃ y ∈ m.database, x.1 = y.1 ∧ x.2.url = y.2.url)
    (hadd : ∀ id, .added id ∉ o) : KeepsUrls (h ++ [(e, o)]) m' := by
  intro x hx
  rcases hsub x hx with ⟨y, hy, hid, hurl⟩
  rcases hk y hy with ⟨url, hreq, hkept⟩
  refine ⟨url, requested_concat.mpr (Or.inr ⟨?_, hadd x.1⟩), hurl.trans hkept⟩
  rw [hid]
  exact hreq

theorem KeepsUrls.insert (hk : KeepsUrls h m) (opens : String → Bool) (randomId : String)
    {source : ManagedSource} (hsource : source.url = cUrl url) :
    KeepsUrls (h ++ [(.add opens randomId url, [.added randomId])])
      (m.insert randomId source.start) := by
  intro x hx
  rcases List.mem_append.mp hx with hx | hx
  · obtain ⟨hmem, hne⟩ := List.mem_filter.mp hx
    have hne : x.1 ≠ randomId := by simpa using hne
    rcases hk x hmem with ⟨old, hreq, hkept⟩
    refine ⟨old, requested_concat.mpr (Or.inr ⟨hreq, fun hin => hne ?_⟩), hkept⟩
    injection List.mem_singleton.mp hin
  · rw [List.mem_singleton.mp hx]
    exact ⟨url, requested_concat.mpr (Or.inl ⟨opens, rfl, rfl⟩), hsource⟩

theorem streamEnd_entries (m : MediaSourceManager) (id : String) :
    ∀ x ∈ (m.streamEnd id).database, ∃ y ∈ m.database, x.1 = y.1 ∧ x.2.url = y.2.url := by
  intro x hx
  rcases List.mem_map.mp hx with ⟨y, hy, rfl⟩
  refine ⟨y, hy, ?_⟩
  split
  · exact ⟨rfl, rfl⟩
  · exact ⟨rfl, rfl⟩

theorem keepsUrls_step (hk : KeepsUrls h m) (hs : step m e = .ok (m', o)) :
    KeepsUrls (h ++ [(e, o)]) m' := by
  cases e with
  | add opens randomId url =>
      cases hs
      rcases add_cases m opens randomId url with
        ⟨entry, -, hadd, hout⟩ | ⟨-, -, hadd, hout⟩ | ⟨source, -, hopen, hadd, hout⟩
      · rw [hadd, hout]
        refine hk.of_quiet (fun x hx => ⟨x, hx, rfl, rfl⟩) fun id hmem => ?_
        cases List.mem_singleton.mp hmem
      · rw [hadd, hout]
        refine hk.of_quiet (fun x hx => ⟨x, hx, rfl, rfl⟩) fun id hmem => ?_
        cases hmem
      · rw [hadd, hout]
        exact hk.insert opens randomId (openUrl_url hopen)
  | remove id =>
      cases hs
      exact hk.of_quiet (fun x hx => ⟨x, (List.mem_filter.mp hx).1, rfl, rfl⟩) (by simp)
  | query id =>
      cases hs
      refine hk.of_quiet (fun x hx => ⟨x, hx, rfl, rfl⟩) fun id' hmem => ?_
      rw [queryOutputs] at hmem
      split at hmem
      · cases List.mem_singleton.mp hmem
      · cases hmem
  | streamEnd id =>
      cases hs
      exact hk.of_quiet (streamEnd_entries m id) (by simp)

theorem run_keepsUrls (hr : Run step (fun _ _ => True) empty h m) : KeepsUrls h m := by
  refine hr.invariant (fun x hx => by cases hx) ?_
  intro h m e m' o hk _ hs
  exact keepsUrls_step hk hs

/-! ## Runs without a NUL -/

theorem DistinctUrls.remove (hd : DistinctUrls m) (id : String) : DistinctUrls (m.remove id) :=
  hd.filter _

theorem DistinctUrls.insert (hd : DistinctUrls m) {source : ManagedSource}
    (hnew : m.find source.url = none) (randomId : String) :
    DistinctUrls (m.insert randomId source) := by
  refine List.pairwise_append.mpr ⟨hd.filter _, List.pairwise_singleton _ _, ?_⟩
  intro x hx y hy
  rw [List.mem_singleton.mp hy]
  have hne := List.find?_eq_none.mp hnew x (List.mem_filter.mp hx).1
  simpa using hne

theorem DistinctUrls.streamEnd (hd : DistinctUrls m) (id : String) :
    DistinctUrls (m.streamEnd id) := by
  refine List.pairwise_map.mpr (hd.imp fun {a b} hne => ?_)
  split <;> split <;> exact hne

/-- What is added has been opened. -/
theorem openUrl_of_added {opens : String → Bool} {randomId : String}
    (hout : .added id ∈ m.addOutputs opens randomId url) :
    ∃ source, ManagedSource.openUrl opens url = some source := by
  rcases add_cases m opens randomId url with
    ⟨entry, -, -, hnone⟩ | ⟨-, -, -, hnone⟩ | ⟨source, -, hopen, -, -⟩
  · rw [hnone] at hout
    cases List.mem_singleton.mp hout
  · rw [hnone] at hout
    cases hout
  · exact ⟨source, hopen⟩

theorem cUrl_of_plain {opens : String → Bool} {randomId : String} {source : ManagedSource}
    (hplain : PlainUrl (.add opens randomId url))
    (hopen : ManagedSource.openUrl opens url = some source) : cUrl url = url := by
  rcases hplain with hnul | hnone
  · exact cUrl_eq_self.mpr hnul
  · rw [hopen] at hnone
    cases hnone

theorem distinctUrls_step (hd : DistinctUrls m) (hplain : PlainUrl e)
    (hs : step m e = .ok (m', o)) : DistinctUrls m' := by
  cases e with
  | add opens randomId url =>
      cases hs
      rcases add_cases m opens randomId url with
        ⟨entry, -, hadd, -⟩ | ⟨-, -, hadd, -⟩ | ⟨source, hfind, hopen, hadd, -⟩
      · rw [hadd]
        exact hd
      · rw [hadd]
        exact hd
      · rw [hadd]
        have hurl : source.url = url := (openUrl_url hopen).trans (cUrl_of_plain hplain hopen)
        have hinsert : DistinctUrls (m.insert randomId source.start) := by
          refine hd.insert ?_ randomId
          rw [← hurl] at hfind
          exact hfind
        exact hinsert
  | remove id =>
      cases hs
      exact hd.remove id
  | query id =>
      cases hs
      exact hd
  | streamEnd id =>
      cases hs
      exact hd.streamEnd id

theorem run_distinctUrls (hr : Run step (fun _ _ => True) empty h m)
    (hplain : ∀ x ∈ h, PlainUrl x.1) : DistinctUrls m := by
  revert hplain
  refine hr.invariant (I := fun h m => (∀ x ∈ h, PlainUrl x.1) → DistinctUrls m)
    (fun _ => List.Pairwise.nil) ?_
  intro h m e m' o ih _ hs hplain
  exact distinctUrls_step (ih fun x hx => hplain x (List.mem_append_left _ hx))
    (hplain (e, o) (List.mem_append_right _ List.mem_cons_self)) hs

/-- In a run without NULs the URL that was asked for is the URL that is
kept. -/
theorem run_requested (hr : Run step (fun _ _ => True) empty h m)
    (hplain : ∀ x ∈ h, PlainUrl x.1) {entry : String × ManagedSource}
    (hmem : entry ∈ m.database) : Requested h entry.1 entry.2.url := by
  rcases run_keepsUrls hr entry hmem with ⟨url, hreq, hkept⟩
  have hself : cUrl url = url := by
    rcases hreq with ⟨pre, opens, post, rfl, -⟩
    obtain ⟨u, u', -, -, hs⟩ := hr.step_at
    have hout : u.addOutputs opens entry.1 url = [.added entry.1] := by
      rw [step, Except.ok.injEq, Prod.mk.injEq] at hs
      exact hs.2
    have hadded : .added entry.1 ∈ u.addOutputs opens entry.1 url := by
      rw [hout]
      exact List.mem_cons_self
    rcases openUrl_of_added hadded with ⟨source, hopen⟩
    exact cUrl_of_plain (hplain _ (List.mem_append_right _ List.mem_cons_self)) hopen
  rw [hkept, hself]
  exact hreq

theorem find_of_distinct (hd : DistinctUrls m) {entry : String × ManagedSource}
    (hmem : entry ∈ m.database) : m.find entry.2.url = some entry := by
  cases hfind : m.find entry.2.url with
  | none =>
      have hne := List.find?_eq_none.mp hfind entry hmem
      exact absurd (beq_self_eq_true entry.2.url) hne
  | some found =>
      have hurl : found.2.url = entry.2.url := by
        have hbeq := List.find?_some hfind
        rwa [beq_iff_eq] at hbeq
      have hin : found ∈ m.database := List.mem_of_find?_eq_some hfind
      by_contra hne
      have hother : found ≠ entry := fun heq => hne (by rw [heq])
      have hsymm : Std.Symm fun a b : String × ManagedSource => a.2.url ≠ b.2.url :=
        ⟨fun _ _ hab => hab.symm⟩
      exact hd.forall hin hmem hother hurl

/-- `List` reports the URL that is kept. -/
theorem listed_iff : List.Forall₂ (fun item entry => ∃ url, Requested h entry.1 url ∧
      item = .obj [("id", .str entry.1), ("url", .str url)]) m.list.items m.database ↔
    ∀ entry ∈ m.database, Requested h entry.1 entry.2.url := by
  rw [list, Json.items, List.forall₂_map_left_iff, List.forall₂_same]
  refine forall₂_congr fun entry _ => ?_
  constructor
  · rintro ⟨url, hreq, hitem⟩
    cases hitem
    exact hreq
  · intro hreq
    exact ⟨entry.2.url, hreq, rfl⟩

/-- Without NULs the registry is right about URLs. -/
theorem run_faithful (hr : Run step (fun _ _ => True) empty h m)
    (hplain : ∀ x ∈ h, PlainUrl x.1) : Faithful h m := by
  have hd := run_distinctUrls hr hplain
  have hreq : ∀ {entry}, entry ∈ m.database → ∀ url, Requested h entry.1 url →
      url = entry.2.url := fun hmem url hurl => hurl.unique (run_requested hr hplain hmem)
  refine ⟨?_, ?_, ?_, ?_⟩
  · refine hd.imp_of_mem fun {a b} ha hb hne url hurl hurl' => hne ?_
    rw [← hreq ha url hurl, ← hreq hb url hurl']
  · intro entry hmem url hurl opens randomId
    have hfind : m.find url = some entry := by
      rw [hreq hmem url hurl]
      exact find_of_distinct hd hmem
    rcases add_cases m opens randomId url with
      ⟨found, hfound, hadd, hout⟩ | ⟨hnone, -, -, -⟩ | ⟨-, hnone, -, -, -⟩
    · cases hfind.symm.trans hfound
      refine ⟨hadd, fun id hin => ?_⟩
      rw [hout] at hin
      cases List.mem_singleton.mp hin
    · cases hfind.symm.trans hnone
    · cases hfind.symm.trans hnone
  · exact listed_iff.mpr fun entry hmem => run_requested hr hplain hmem
  · intro opens randomId url hopen
    rcases add_cases m opens randomId url with
      ⟨entry, -, hadd, -⟩ | ⟨-, -, hadd, -⟩ | ⟨source, -, hsome, -, -⟩
    · rw [hadd]
    · rw [hadd]
    · cases hopen.symm.trans hsome

/-- A URL that is opened and listed as it was asked for has no NUL in it. -/
theorem plainUrl_of_faithful (hr : Run step (fun _ _ => True) empty h m)
    (hs : step m e = .ok (m', o)) (hf : Faithful (h ++ [(e, o)]) m') : PlainUrl e := by
  cases e with
  | add opens randomId url =>
      cases hs
      rcases add_cases m opens randomId url with
        ⟨entry, hfind, -, -⟩ | ⟨-, hopen, -, -⟩ | ⟨source, -, hopen, hadd, hout⟩
      · left
        have hurl : entry.2.url = url := by
          have hbeq := List.find?_some hfind
          rwa [beq_iff_eq] at hbeq
        rcases run_keepsUrls hr entry (List.mem_of_find?_eq_some hfind) with ⟨asked, -, hkept⟩
        rw [← hurl, hkept]
        exact cUrl_no_nul asked
      · exact Or.inr hopen
      · left
        have hf' := listed_iff.mp hf.listed
        rw [hadd, hout] at hf'
        have hkept : Requested (h ++ [(.add opens randomId url, [.added randomId])]) randomId
            (source.start).url :=
          hf' (randomId, source.start) (List.mem_append_right _ List.mem_cons_self)
        have hasked : Requested (h ++ [(.add opens randomId url, [.added randomId])]) randomId
            url := requested_concat.mpr (Or.inl ⟨opens, rfl, rfl⟩)
        have hsource : source.url = cUrl url := openUrl_url hopen
        rw [← cUrl_eq_self, ← hsource]
        exact hkept.unique hasked
  | _ => trivial

/-- In every state of a run the registry is right about URLs exactly when
each URL that is opened in the run has no NUL in it. -/
theorem run_faithful_iff (hr : Run step (fun _ _ => True) empty h m) :
    (∀ pre post u, h = pre ++ post → Run step (fun _ _ => True) empty pre u → Faithful pre u) ↔
      ∀ x ∈ h, PlainUrl x.1 := by
  constructor
  · rintro hall ⟨e, o⟩ hin
    rcases List.append_of_mem hin with ⟨pre, post, rfl⟩
    obtain ⟨u, u', hpre, -, hs⟩ := hr.step_at
    exact plainUrl_of_faithful hpre hs
      (hall (pre ++ [(e, o)]) post u' (List.append_cons pre (e, o) post) (hpre.snoc trivial hs))
  · rintro hplain pre post u rfl hpre
    exact run_faithful hpre fun x hx => hplain x (List.mem_append_left _ hx)

end Urls

/-! The camera again, and an address with a NUL in it, asked for twice. -/

section Samples

theorem run_faithful_iff_camera : Faithful [(addCamera, [.added "a"])] (camera true) := by
  have hr : Run step (fun _ _ => True) empty [(addCamera, [.added "a"])] (camera true) :=
    addCamera_run.mono fun _ _ _ => trivial
  have hplain : ∀ x ∈ [(addCamera, [Output.added "a"])], PlainUrl x.1 := by
    intro x hx
    rw [List.mem_singleton.mp hx]
    exact Or.inl (by decide)
  exact (run_faithful_iff hr).mpr hplain _ [] _ (List.append_nil _).symm hr

def addHidden (id : String) : Event := .add (fun _ => true) id "rtmp://a\x00b"

def hidden (ids : List String) : MediaSourceManager := ⟨ids.map fun id => (id, ⟨"rtmp://a", true⟩)⟩

theorem addHidden_run :
    Run step (fun _ _ => True) empty [(addHidden "a", [.added "a"]), (addHidden "b", [.added "b"])]
      (hidden ["a", "b"]) := by
  have hopen : ManagedSource.openUrl (fun _ => true) "rtmp://a\x00b" =
      some ⟨"rtmp://a", false⟩ := by decide
  have hfirst : step empty (addHidden "a") = .ok (hidden ["a"], [.added "a"]) := by
    show Except.ok ((empty.add _ _ _).1, addOutputs empty _ _ _) = _
    simp only [add, addOutputs, find, empty, List.find?_nil, hopen]
    rfl
  have hnone : (hidden ["a"]).database.find? (fun e => e.2.url == "rtmp://a\x00b") = none := by
    decide
  have hsecond : step (hidden ["a"]) (addHidden "b") = .ok (hidden ["a", "b"], [.added "b"]) := by
    show Except.ok (((hidden ["a"]).add _ _ _).1, addOutputs (hidden ["a"]) _ _ _) = _
    simp only [add, addOutputs, find, hnone, hopen]
    rfl
  exact .snoc (.snoc .nil trivial hfirst) trivial hsecond

/-- Two sources are opened for one URL. -/
theorem hidden_opened_twice :
    ¬ ∀ (h : List (Event × List Output)) (m : MediaSourceManager),
      Run step (fun _ _ => True) empty h m → Faithful h m := by
  intro hall
  have hf := hall _ _ addHidden_run
  have hfirst : Requested [(addHidden "a", [.added "a"]), (addHidden "b", [.added "b"])] "a"
      "rtmp://a\x00b" := by
    refine ⟨[], fun _ => true, _, rfl, fun x hx hin => ?_⟩
    rw [List.mem_singleton.mp hx] at hin
    have heq := List.mem_singleton.mp hin
    rw [Output.added.injEq] at heq
    exact absurd heq (by decide)
  have hsecond : Requested [(addHidden "a", [.added "a"]), (addHidden "b", [.added "b"])] "b"
      "rtmp://a\x00b" :=
    ⟨[(addHidden "a", [.added "a"])], fun _ => true, [], rfl, fun x hx => by cases hx⟩
  exact (List.pairwise_cons.mp hf.unique).1 _ List.mem_cons_self _ hfirst hsecond

end Samples

end WebrtcServer.MediaSourceManager
