/-
# `PostedPackets` — what the loop of a viewer is given

A viewer that is called posts the packet to its message loop, if it is
connected.  The reader waits until it is, or until it has been shut down, so
only the packets of a viewer that was shut down can get lost on the way.
What the viewer has been called for is the stream without a gap, from a
video key on.
-/
import WebrtcServer.GopSegment

namespace WebrtcServer

open Lib

namespace LiveSource

variable {ι : Type} [DecidableEq ι]

def Output.postedTo (o : ι) : Output ι → Option SourcePacket
  | .posted x p => if x = o then some p else none
  | _ => none

/-- The packets that the viewer's loop has been given, in order. -/
def posted (o : ι) (h : List (Event ι × List (Output ι))) : List SourcePacket :=
  (outputs h).filterMap (Output.postedTo o)

/-- `Shutdown` of the viewer has been called. -/
def ShutDown (o : ι) (h : List (Event ι × List (Output ι))) : Prop :=
  ∃ x ∈ h, x.1 = .shutdown o ∨ .ended o ∈ x.2

section Posted

variable {o : ι} {s s' : LiveSource ι} {e : Event ι} {outs : List (Output ι)}
  {h : List (Event ι × List (Output ι))}

theorem posted_append {h' : List (Event ι × List (Output ι))} :
    posted o (h ++ h') = posted o h ++ posted o h' := by
  rw [posted, outputs_append, List.filterMap_append, posted, posted]

theorem posted_snoc {x : Event ι × List (Output ι)} :
    posted o (h ++ [x]) = posted o h ++ x.2.filterMap (Output.postedTo o) := by
  rw [posted, outputs_snoc, List.filterMap_append, posted]

theorem posted_receipt {v : ι} {p : SourcePacket} :
    (s.receipt v p).filterMap (Output.postedTo o) =
      if v = o ∧ (s.viewers v).connectionEstablished = true then [p] else [] := by
  by_cases hv : v = o
  · cases hv
    cases hconn : (s.viewers o).connectionEstablished <;>
      simp [receipt, Output.postedTo, hconn, List.filterMap_cons]
  · rw [receipt]
    split <;> simp [Output.postedTo, hv]

/-- What a step is for a viewer: a call of the reader, which posts the packet
if the viewer is connected, or a change of the latch. -/
inductive Sees (o : ι) (s s' : LiveSource ι) (e : Event ι) (outs : List (Output ι)) : Prop
  | called (p : SourcePacket) (hlatch : (s.viewers o).latchReleased = true)
      (hgiven : outs.filterMap (Output.receivedBy o) = [p])
      (hposted : outs.filterMap (Output.postedTo o) =
        if (s.viewers o).connectionEstablished = true then [p] else [])
      (hsame : s'.viewers o = s.viewers o)
  | quiet (hgiven : outs.filterMap (Output.receivedBy o) = [])
      (hposted : outs.filterMap (Output.postedTo o) = []) (hsame : s'.viewers o = s.viewers o)
  | connected (hgiven : outs.filterMap (Output.receivedBy o) = [])
      (hposted : outs.filterMap (Output.postedTo o) = []) (he : e = .connect o)
      (hview : s'.viewers o = ⟨true, true⟩)
  | released (hgiven : outs.filterMap (Output.receivedBy o) = [])
      (hposted : outs.filterMap (Output.postedTo o) = [])
      (hshut : e = .shutdown o ∨ .ended o ∈ outs)
      (hview : s'.viewers o = { s.viewers o with latchReleased := true })

theorem Sees.of_receipt {v : ι} {p : SourcePacket} {pc : ReaderPc ι}
    (hlatch : (s.viewers v).latchReleased = true) :
    Sees o s { s with reader := pc } e (s.receipt v p) := by
  by_cases hv : v = o
  · subst hv
    refine .called p hlatch ?_ ?_ rfl
    · rw [received_receipt, if_pos rfl]
    · simp only [posted_receipt, true_and]
  · refine .quiet ?_ ?_ rfl
    · rw [received_receipt, if_neg hv]
    · simp only [posted_receipt, hv, false_and, if_false]

theorem step_sees (o : ι) (hs : step s e = .ok (s', outs)) : Sees o s s' e outs := by
  cases step_move hs with
  | register | deregister | stop | read => exact .quiet rfl rfl rfl
  | @connect x =>
      by_cases hx : o = x
      · subst hx
        exact .connected rfl rfl rfl (Function.update_self ..)
      · exact .quiet rfl rfl (Function.update_of_ne hx ..)
  | @shutdown x =>
      by_cases hx : o = x
      · subst hx
        exact .released rfl rfl (Or.inl rfl) (Function.update_self ..)
      · exact .quiet rfl rfl (Function.update_of_ne hx ..)
  | reader hmove =>
      cases hmove with
      | leave | check | read | admitted | observe | turn | deliver | delivered | fail | notified
      | return_ => exact .quiet rfl rfl rfl
      | admission =>
          refine .quiet received_admitted ?_ rfl
          simp [Output.postedTo]
      | replay _ hlatch | call _ hlatch => exact .of_receipt hlatch
      | @notify x todo hpc =>
          by_cases hx : o = x
          · subst hx
            exact .released rfl rfl (Or.inr (List.mem_singleton_self _)) (Function.update_self ..)
          · exact .quiet rfl rfl (Function.update_of_ne hx ..)

/-- Only `OnDtlsTransportSetup` connects a viewer. -/
theorem step_keeps_connection (hne : e ≠ .connect o) (hs : step s e = .ok (s', outs)) :
    (s'.viewers o).connectionEstablished = (s.viewers o).connectionEstablished := by
  cases step_sees o hs with
  | called _ _ _ _ hview | quiet _ _ hview | released _ _ _ hview => rw [hview]
  | connected _ _ he => exact absurd he hne

/-- A packet is posted to a connected viewer. -/
theorem step_posts_connected (hposted : outs.filterMap (Output.postedTo o) ≠ [])
    (hs : step s e = .ok (s', outs)) : (s.viewers o).connectionEstablished = true := by
  cases step_sees o hs with
  | quiet _ hnone | connected _ hnone | released _ hnone => exact absurd hnone hposted
  | called p _ _ hone =>
      by_contra hnot
      rw [hone, if_neg hnot] at hposted
      exact hposted rfl

/-- Up to its connection a viewer is posted nothing, and then everything that
it is called for.  The reader calls it earlier only if it has been shut
down. -/
structure Posts (o : ι) (h : List (Event ι × List (Output ι))) (s : LiveSource ι) : Prop where
  nothing : (s.viewers o).connectionEstablished = false → posted o h = []
  suffix : ∃ lost, received o h = lost ++ posted o h ∧ (¬ ShutDown o h → lost = [])
  latch : ¬ ShutDown o h → (s.viewers o).latchReleased = true →
    (s.viewers o).connectionEstablished = true

omit [DecidableEq ι] in
theorem not_shutDown_snoc {x : Event ι × List (Output ι)} (hnot : ¬ ShutDown o (h ++ [x])) :
    ¬ ShutDown o h ∧ ¬ (x.1 = .shutdown o ∨ .ended o ∈ x.2) := by
  refine ⟨fun ⟨y, hy, hshut⟩ => hnot ⟨y, List.mem_append_left _ hy, hshut⟩, fun hshut => ?_⟩
  exact hnot ⟨x, by simp, hshut⟩

theorem Posts.step (hp : Posts o h s) (hs : step s e = .ok (s', outs)) :
    Posts o (h ++ [(e, outs)]) s' := by
  obtain ⟨hnothing, ⟨lost, hsuffix, hlost⟩, hlatched⟩ := hp
  have hkept : ∀ hgiven : outs.filterMap (Output.receivedBy o) = [],
      ∀ hposted : outs.filterMap (Output.postedTo o) = [],
      posted o (h ++ [(e, outs)]) = posted o h ∧ ∃ lost,
        received o (h ++ [(e, outs)]) = lost ++ posted o (h ++ [(e, outs)]) ∧
          (¬ ShutDown o (h ++ [(e, outs)]) → lost = []) := by
    intro hgiven hposted
    have hsame : posted o (h ++ [(e, outs)]) = posted o h := by
      rw [posted_snoc, hposted, List.append_nil]
    refine ⟨hsame, lost, ?_, fun hnot => hlost (not_shutDown_snoc hnot).1⟩
    rw [hsame, received_snoc, hgiven, List.append_nil, hsuffix]
  cases step_sees o hs with
  | quiet hgiven hposted hview =>
      obtain ⟨hsame, hsuffix'⟩ := hkept hgiven hposted
      refine ⟨fun hidle => ?_, hsuffix', fun hnot => ?_⟩
      · rw [hsame]
        exact hnothing (hview ▸ hidle)
      · rw [hview]
        exact hlatched (not_shutDown_snoc hnot).1
  | connected hgiven hposted he hview =>
      refine ⟨fun hidle => ?_, (hkept hgiven hposted).2, fun _ _ => ?_⟩
      · rw [hview] at hidle
        cases hidle
      · rw [hview]
  | released hgiven hposted hshut hview =>
      obtain ⟨hsame, hsuffix'⟩ := hkept hgiven hposted
      refine ⟨fun hidle => ?_, hsuffix', fun hnot => absurd hshut (not_shutDown_snoc hnot).2⟩
      rw [hsame]
      rw [hview] at hidle
      exact hnothing hidle
  | called p hlatch hgiven hposted hview =>
      rw [← hview] at hlatch
      cases hconn : (s.viewers o).connectionEstablished with
      | true =>
          rw [hconn, if_pos rfl] at hposted
          refine ⟨fun hidle => ?_, ⟨lost, ?_, fun hnot => hlost (not_shutDown_snoc hnot).1⟩,
            fun _ _ => ?_⟩
          · rw [hview, hconn] at hidle
            cases hidle
          · rw [received_snoc, posted_snoc, hgiven, hposted, hsuffix, List.append_assoc]
          · rw [hview, hconn]
      | false =>
          -- the latch is open, though the viewer never got connected
          have hshut : ¬ ¬ ShutDown o (h ++ [(e, outs)]) := fun hnot => by
            have hyes := hlatched (not_shutDown_snoc hnot).1 (hview ▸ hlatch)
            rw [hconn] at hyes
            cases hyes
          have hnone : posted o (h ++ [(e, outs)]) = [] := by
            rw [posted_snoc, hnothing hconn, hposted, hconn]
            rfl
          refine ⟨fun _ => hnone, ⟨received o (h ++ [(e, outs)]), ?_, fun hnot => ?_⟩,
            fun hnot => absurd hnot hshut⟩
          · rw [hnone, List.append_nil]
          · exact absurd hnot hshut

theorem posts_of_run {C : LiveSource ι → Event ι → Prop} {gop : Bool} {v a : Int}
    (hr : Run LiveSource.step C (started gop v a fun _ => ⟨false, false⟩) h s) : Posts o h s :=
  hr.invariant (I := Posts o)
    ⟨fun _ => rfl, ⟨[], rfl, fun _ => rfl⟩, fun _ hlatch => hlatch⟩
    fun _ _ _ _ _ hp _ hs => hp.step hs

end Posted

/-- What a viewer that is registered once has been given: the stream without a
gap, from the last video key of some earlier moment on, or from the start. -/
theorem given_of_run {C : LiveSource ι → Event ι → Prop} {v a : Int} {viewers : ι → Viewer}
    {h : List (Event ι × List (Output ι))} {s : LiveSource ι} {o : ι}
    (hr : Run step C (started true v a viewers) h s) (honce : registrations o h ≤ 1) :
    ∃ h₁ i, h₁ <+: h ∧ StartsAt SourcePacket.isVideoKey (generated h₁) i ∧
      received o h <+: (generated h).drop i := by
  by_cases hadm : .admitted o ∈ outputs h
  · obtain ⟨⟨e, outs⟩, hx, hout⟩ := List.mem_flatMap.mp hadm
    obtain ⟨h₁, h₂, rfl⟩ := List.append_of_mem hx
    obtain ⟨t, hr₁, hr'⟩ := hr.cut
    obtain ⟨t', hc, hs, hr₂⟩ := hr'.uncons
    obtain ⟨hpc, hnew, rfl, hw⟩ := watched_admitted hs hout
    have hfree : t.reader.holdsMutex = false := by
      rw [hpc]
      rfl
    have hwaits : 0 < waiting o t := by
      rw [waiting_of_free hfree]
      exact List.count_pos_iff.mpr hnew
    have hcount := admissions_le (o := o) hr₁
    have hsplit : h₁ ++ (e, t.source.newObservers.map .admitted) :: h₂ =
        h₁ ++ [(e, t.source.newObservers.map Output.admitted)] ++ h₂ := by simp
    have hadmission : generated [(e, t.source.newObservers.map Output.admitted)] = [] ∧
        received o [(e, t.source.newObservers.map Output.admitted)] = [] := by
      simp [received, generated, outputs, Output.generated?, Output.receivedBy]
    rw [hsplit, registrations_append, registrations_append] at honce
    have hnever := not_register_of_zero (o := o) (h := h₂) (by omega)
    have hbefore : received o h₁ = [] :=
      (outside_of_run hr₁ (List.count_eq_zero.mp (by omega))).2
    obtain ⟨-, stored, i, hgen, hstart, hcache⟩ := caches_of_run hr₁
    rw [inFlight_of_free hfree, List.append_nil] at hgen
    obtain rfl := hgen
    refine ⟨h₁, i, List.prefix_append _ _, hstart, ?_⟩
    have hgiven := (received_watched (hr₁.snoc hc hs) hw hr₂ hnever).1
    have hmore : generated (watching o h₂) <+: generated h₂ := by
      obtain ⟨rest, hrest⟩ := List.takeWhile_prefix (l := h₂)
        fun x : Event ι × List (Output ι) => decide (x.1 ≠ .deregister o)
      exact ⟨generated rest, by rw [← generated_append, watching, hrest]⟩
    have hsegment : (generated (h₁ ++ [(e, t.source.newObservers.map .admitted)] ++ h₂)).drop i =
        t.source.gopCache ++ generated h₂ := by
      rw [generated_append, generated_append, hadmission.1, List.append_nil,
        List.drop_append_of_le_length hstart.le_length, ← hcache]
    rw [hsplit, hsegment, received_append, received_append, hbefore, hadmission.2]
    exact hgiven.trans ((List.prefix_append_right_inj _).mpr hmore)
  · refine ⟨[], 0, List.nil_prefix, startsAt_nil, ?_⟩
    rw [(outside_of_run hr hadm).2]
    exact List.nil_prefix

end LiveSource

end WebrtcServer
