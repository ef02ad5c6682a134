/-
# `ListenPorts` — which ports the search of `Listen` tries

The counter of the loop is a `uint16_t`, and so is its bound.  For a bound
below 65535 the loop tries the ports of the range in order, up to the first
one that can be bound, and ends behind the last one.  The bound 65535 is
never exceeded: when no port of the range can be bound, the counter wraps
to 0, which the system always binds to some port of its own choice.
-/
import Mathlib.Data.Nat.Find
import Mathlib.Tactic.ByContra
import WebrtcServer.UdpSocket

namespace WebrtcServer.UdpSocket

open Lib

/-- The port `k` turns behind the first one. -/
def portAt (min : UInt16) (k : Nat) : UInt16 := min + UInt16.ofNat k

@[simp] theorem portAt_zero (min : UInt16) : portAt min 0 = min := UInt16.add_zero min

theorem portAt_succ (min : UInt16) (k : Nat) : portAt min (k + 1) = portAt min k + 1 := by
  rw [portAt, portAt, UInt16.ofNat_add, UInt16.add_assoc]
  rfl

theorem portAt_toNat {min : UInt16} {k : Nat} (h : min.toNat + k < 65536) :
    (portAt min k).toNat = min.toNat + k := by
  have hk : k % 65536 = k := Nat.mod_eq_of_lt (by omega)
  rw [portAt, UInt16.toNat_add, UInt16.toNat_ofNat', hk, Nat.mod_eq_of_lt h]

theorem exists_portAt {min p : UInt16} (h : min ≤ p) :
    portAt min (p.toNat - min.toNat) = p := by
  have hle : min.toNat ≤ p.toNat := UInt16.le_iff_toNat_le.mp h
  have hlt := p.toNat_lt
  apply UInt16.toNat_inj.mp
  rw [portAt_toNat (by omega)]
  omega

/-- The loop when its first `k` ports were busy. -/
def listenState (min : UInt16) (k : Nat) : ListenState :=
  ⟨portAt min k, (List.range k).map (portAt min)⟩

theorem listenState_zero (min : UInt16) : listenState min 0 = ⟨min, []⟩ := by
  simp [listenState]

@[simp] theorem more_listenState (min max : UInt16) (k : Nat) :
    (listenState min k).more max = decide (portAt min k ≤ max) := rfl

/-- The search is still on after `n` busy ports. -/
def BusyFor (available : UInt16 → Bool) (min max : UInt16) (n : Nat) : Prop :=
  ∀ k < n, portAt min k ≤ max ∧ available (portAt min k) = false

theorem turn_of_busy {available : UInt16 → Bool} {min max : UInt16} {k : Nat}
    (hle : portAt min k ≤ max) (hbusy : available (portAt min k) = false) :
    Turn (ListenState.more max) (listenTurn available) (listenState min k)
      (listenState min (k + 1)) := by
  refine ⟨by rw [more_listenState, decide_eq_true hle], ?_⟩
  simp [listenTurn, listenState, hbusy, portAt_succ, List.range_succ]

/-- The socket of a transport before its search. -/
def fresh (min max : UInt16) : UdpSocket := new.setMinMaxPort min max

@[simp] theorem fresh_minPort (min max : UInt16) : (fresh min max).minPort = min := rfl

@[simp] theorem fresh_maxPort (min max : UInt16) : (fresh min max).maxPort = max := rfl

section Search

variable {available : UInt16 → Bool} {min max : UInt16} {n : Nat}

theorem whileLoop_of_busy (h : BusyFor available min max n) (fuel : Nat) :
    whileLoop (ListenState.more max) (listenTurn available) (fuel + n) ⟨min, []⟩ =
      whileLoop (ListenState.more max) (listenTurn available) fuel (listenState min n) := by
  rw [← listenState_zero]
  refine whileLoop_of_states ?_ fuel
  intro k hk
  exact turn_of_busy (h k hk).1 (h k hk).2

/-- Behind `n` busy ports comes one that can be bound. -/
theorem listen_bound (h : BusyFor available min max n) (hle : portAt min n ≤ max)
    (hfree : available (portAt min n) = true) (fuel : Nat) :
    (fresh min max).listen available (fuel + 1 + n) =
      some ({ fresh min max with socket := some (portAt min n) }, true,
        (List.range (n + 1)).map (portAt min)) := by
  have hturn : listenTurn available (listenState min n) =
      .error ⟨some (portAt min n), (List.range (n + 1)).map (portAt min)⟩ := by
    simp [listenTurn, listenState, hfree, List.range_succ]
  have hloop : (fresh min max).listenLoop available (fuel + 1 + n) =
      some ⟨some (portAt min n), (List.range (n + 1)).map (portAt min)⟩ := by
    simp only [listenLoop, fresh_minPort, fresh_maxPort, whileLoop_of_busy h, whileLoop,
      more_listenState, decide_eq_true hle, hturn, if_true]
  rw [listen, hloop]
  rfl

/-- Behind `n` busy ports the range is at its end. -/
theorem listen_exhausted (h : BusyFor available min max n) (hend : max < portAt min n)
    (fuel : Nat) :
    (fresh min max).listen available (fuel + n) =
      some (fresh min max, false, (List.range n).map (portAt min)) := by
  have hmore : (listenState min n).more max = false :=
    decide_eq_false (UInt16.not_le.mpr hend)
  have hloop : (fresh min max).listenLoop available (fuel + n) =
      some ⟨none, (List.range n).map (portAt min)⟩ := by
    simp only [listenLoop, fresh_minPort, fresh_maxPort, whileLoop_of_busy h,
      whileLoop_of_not_more hmore, hmore, Bool.false_eq_true, if_false]
    rfl
  rw [listen, hloop]
  rfl

end Search

/-! ## The range

Offsets below the wrap of the counter. -/

section Range

variable {available : UInt16 → Bool} {min max : UInt16}

theorem portAt_le_iff {k : Nat} (hk : min.toNat + k < 65536) :
    portAt min k ≤ max ↔ min.toNat + k ≤ max.toNat := by
  rw [UInt16.le_iff_toNat_le, portAt_toNat hk]

theorem le_portAt {k : Nat} (hk : min.toNat + k < 65536) : min ≤ portAt min k := by
  rw [UInt16.le_iff_toNat_le, portAt_toNat hk]
  omega

/-- Some port of the range can be bound. -/
def Free (available : UInt16 → Bool) (min max : UInt16) : Prop :=
  ∃ p, min ≤ p ∧ p ≤ max ∧ available p = true

/-- `Listen` comes to an end with `r`. -/
def Answers (available : UInt16 → Bool) (min max : UInt16)
    (r : UdpSocket × Bool × List UInt16) : Prop :=
  ∃ n, ∀ fuel ≥ n, (fresh min max).listen available fuel = some r

theorem Answers.unique {r r' : UdpSocket × Bool × List UInt16}
    (h : Answers available min max r) (h' : Answers available min max r') : r = r' := by
  obtain ⟨n, hn⟩ := h
  obtain ⟨n', hn'⟩ := h'
  have hr := hn (n + n') (Nat.le_add_right n n')
  rw [hn' (n + n') (Nat.le_add_left n' n)] at hr
  exact (Option.some.inj hr).symm

theorem answers_bound {n : Nat} (h : BusyFor available min max n) (hle : portAt min n ≤ max)
    (hfree : available (portAt min n) = true) :
    Answers available min max ({ fresh min max with socket := some (portAt min n) }, true,
      (List.range (n + 1)).map (portAt min)) := by
  refine ⟨1 + n, fun fuel hfuel => ?_⟩
  rw [show fuel = (fuel - 1 - n) + 1 + n from by omega]
  exact listen_bound h hle hfree _

theorem answers_exhausted {n : Nat} (h : BusyFor available min max n)
    (hend : max < portAt min n) :
    Answers available min max (fresh min max, false, (List.range n).map (portAt min)) := by
  refine ⟨n, fun fuel hfuel => ?_⟩
  rw [show fuel = (fuel - n) + n from by omega]
  exact listen_exhausted h hend _

/-- What a caller expects of an answer: only ports of the range were tried,
it is true when one of them can be bound, and then the lowest such port is
the one of the socket. -/
structure RightAnswer (available : UInt16 → Bool) (min max : UInt16)
    (r : UdpSocket × Bool × List UInt16) : Prop where
  tried : ∀ p ∈ r.2.2, min ≤ p ∧ p ≤ max
  found_iff : r.2.1 = true ↔ Free available min max
  lowest : r.2.1 = true → ∃ p, r.1.socket = some p ∧ min ≤ p ∧ p ≤ max ∧ available p = true ∧
    ∀ q, min ≤ q → q < p → available q = false

def ListensInRange (available : UInt16 → Bool) (min max : UInt16) : Prop :=
  ∃ r, Answers available min max r ∧ RightAnswer available min max r

theorem tried_in_range {n : Nat} (h : min.toNat + n ≤ max.toNat + 1) :
    ∀ p ∈ (List.range n).map (portAt min), min ≤ p ∧ p ≤ max := by
  have hmax := max.toNat_lt
  intro p hp
  obtain ⟨k, hk, rfl⟩ := List.mem_map.mp hp
  have hk := List.mem_range.mp hk
  exact ⟨le_portAt (by omega), (portAt_le_iff (by omega)).mpr (by omega)⟩

/-- The first free port of the range, as an offset. -/
theorem exists_first_free (h : Free available min max) :
    ∃ n, min.toNat + n ≤ max.toNat ∧ available (portAt min n) = true ∧
      ∀ k < n, available (portAt min k) = false := by
  obtain ⟨p, hmin, hmax, hp⟩ := h
  have hex : ∃ n, available (portAt min n) = true :=
    ⟨p.toNat - min.toNat, by rw [exists_portAt hmin]; exact hp⟩
  have hmin' := UInt16.le_iff_toNat_le.mp hmin
  have hmax' := UInt16.le_iff_toNat_le.mp hmax
  have hfind : Nat.find hex ≤ p.toNat - min.toNat :=
    Nat.find_min' hex (by rw [exists_portAt hmin]; exact hp)
  refine ⟨Nat.find hex, by omega, Nat.find_spec hex, ?_⟩
  intro k hk
  exact Bool.eq_false_iff.mpr (Nat.find_min hex hk)

theorem listensInRange_of_free (h : Free available min max) : ListensInRange available min max := by
  have hmax := max.toNat_lt
  obtain ⟨n, hn, hfree, hfirst⟩ := exists_first_free h
  have hle : portAt min n ≤ max := (portAt_le_iff (by omega)).mpr hn
  have hbusy : BusyFor available min max n := by
    intro k hk
    exact ⟨(portAt_le_iff (by omega)).mpr (by omega), hfirst k hk⟩
  refine ⟨_, answers_bound hbusy hle hfree, tried_in_range (by omega), iff_of_true rfl h, ?_⟩
  intro _
  refine ⟨portAt min n, rfl, le_portAt (by omega), hle, hfree, ?_⟩
  intro q hq hlt
  have hle := UInt16.le_iff_toNat_le.mp hq
  have hlt := UInt16.lt_iff_toNat_lt.mp hlt
  rw [portAt_toNat (by omega)] at hlt
  rw [← exists_portAt hq]
  exact hfirst _ (by omega)

/-- Without a free port every offset of the range is a busy turn. -/
theorem busyFor_of_not_free (h : ¬ Free available min max) {n : Nat}
    (hn : min.toNat + n ≤ max.toNat + 1) : BusyFor available min max n := by
  have hmax := max.toNat_lt
  intro k hk
  have hle : portAt min k ≤ max := (portAt_le_iff (by omega)).mpr (by omega)
  refine ⟨hle, Bool.eq_false_iff.mpr fun hfree => h ?_⟩
  exact ⟨portAt min k, le_portAt (by omega), hle, hfree⟩

theorem listensInRange_of_lt (hmm : min ≤ max) (h : ¬ Free available min max)
    (hmax : max < 65535) : ListensInRange available min max := by
  have hmm := UInt16.le_iff_toNat_le.mp hmm
  have hmax : max.toNat < 65535 := UInt16.lt_iff_toNat_lt.mp hmax
  let n := max.toNat + 1 - min.toNat
  have hn : min.toNat + n = max.toNat + 1 := by omega
  have hend : max < portAt min n := by
    rw [UInt16.lt_iff_toNat_lt, portAt_toNat (by omega)]
    omega
  exact ⟨_, answers_exhausted (busyFor_of_not_free h hn.le) hend, tried_in_range hn.le,
    iff_of_false Bool.false_ne_true h, fun hf => by cases hf⟩

/-- Behind the port 65535 the counter is 0. -/
theorem portAt_wrap (min : UInt16) : portAt min (65536 - min.toNat) = 0 := by
  have hmin := min.toNat_lt
  apply UInt16.toNat_inj.mp
  rw [portAt, UInt16.toNat_add, UInt16.toNat_ofNat']
  show _ = 0
  omega

/-- The search that wraps: the system binds the port 0. -/
theorem answers_of_wrap (h : ¬ Free available min 65535) (hsys : available 0 = true) :
    Answers available min 65535 ({ fresh min 65535 with socket := some 0 }, true,
      (List.range (65536 - min.toNat + 1)).map (portAt min)) := by
  have hmin := min.toNat_lt
  have hbusy : BusyFor available min 65535 (65536 - min.toNat) := by
    refine busyFor_of_not_free h ?_
    show min.toNat + _ ≤ 65535 + 1
    omega
  have hans := answers_bound hbusy (by rw [portAt_wrap]; decide) (by rw [portAt_wrap]; exact hsys)
  rw [portAt_wrap] at hans
  exact hans

theorem not_listensInRange_of_wrap (h : ¬ Free available min 65535) (hsys : available 0 = true) :
    ¬ ListensInRange available min 65535 := by
  rintro ⟨r, hans, hright⟩
  obtain rfl := hans.unique (answers_of_wrap h hsys)
  have hzero : (0 : UInt16) ∈ (List.range (65536 - min.toNat + 1)).map (portAt min) :=
    List.mem_map.mpr ⟨65536 - min.toNat, List.mem_range.mpr (Nat.lt_succ_self _),
      portAt_wrap min⟩
  -- the port 0 was tried, so the range starts there, and it can be bound
  exact h ⟨0, (hright.tried 0 hzero).1, by decide, hsys⟩

/-- The search meets what its caller expects exactly when its bound is not
the last port there is, or a port of the range is free. -/
theorem listensInRange_iff (hmm : min ≤ max) (hsys : available 0 = true) :
    ListensInRange available min max ↔ max < 65535 ∨ Free available min max := by
  constructor
  · intro hlisten
    rcases UInt16.lt_or_le max 65535 with hmax | hmax
    · exact Or.inl hmax
    · right
      obtain rfl : max = 65535 := by
        have hle := UInt16.le_iff_toNat_le.mp hmax
        have hlt := max.toNat_lt
        exact UInt16.toNat_inj.mp (Nat.le_antisymm (Nat.le_of_lt_succ hlt) hle)
      by_contra hfree
      exact not_listensInRange_of_wrap hfree hsys hlisten
  · rintro (hmax | hfree)
    · by_cases hfree : Free available min max
      · exact listensInRange_of_free hfree
      · exact listensInRange_of_lt hmm hfree hmax
    · exact listensInRange_of_free hfree

/-- The whole range is busy, and the loop ends behind it. -/
theorem listensInRange_iff_busy : ListensInRange (fun p => p = 0) 40000 40002 :=
  (listensInRange_iff (by decide) (by decide)).mpr (Or.inl (by decide))

/-- With the last port of all as the whole range, and that one busy, the
socket is bound outside the range. -/
theorem listensInRange_fails_at_last_port :
    ¬ ∀ (available : UInt16 → Bool) (min max : UInt16), min ≤ max → available 0 = true →
      ListensInRange available min max := by
  intro h
  have hfree : ¬ Free (fun p => p = 0) 65535 65535 := by
    rintro ⟨p, hmin, -, hp⟩
    obtain rfl : p = 0 := of_decide_eq_true hp
    exact absurd hmin (by decide)
  exact not_listensInRange_of_wrap hfree rfl (h _ 65535 65535 (by decide) rfl)

end Range

end WebrtcServer.UdpSocket
