/-
# `ByteScripts` — byte_buffer.h, byte_buffer.cpp: sequences of operations

What holds of `ByteWriter` and `ByteReader` over any sequence of calls.  A
writer stays in its buffer, a write is refused exactly when it does not
fit, and what was written is read back by the operations of the same kinds.
A reader stays between the ends of its data, whatever it is asked for.

Every bound check subtracts one `size_t` from another.  The difference does
not wrap, since the cursor never passes the end.
-/
import Mathlib.Algebra.Order.Ring.Nat
import WebrtcServer.ByteBuffer

namespace WebrtcServer

open Lib

/-! ## Writing -/

inductive WriteOp where
  | uInt8 (val : UInt8)
  | uInt16 (val : UInt16)
  | uInt24 (val : UInt32)
  | uInt32 (val : UInt32)
  | uInt64 (val : UInt64)
  | bytes (val : ByteString)
  | string (val : ByteString)
  | consume (size : Int)

inductive ReadOp where
  | uInt8
  | uInt16
  | uInt24
  | uInt32
  | uInt64
  | bytes (len : Nat)
  /-- `len` bytes are appended to `val`. -/
  | string (val : ByteString) (len : Nat)
  /-- Any read into a null pointer. -/
  | null
  | consume (size : Nat)
  | back (size : Nat)

/-- What a read gives back. -/
inductive Value where
  | uInt8 (val : UInt8)
  | uInt16 (val : UInt16)
  | uInt32 (val : UInt32)
  | uInt64 (val : UInt64)
  | bytes (val : ByteString)
  | moved

namespace WriteOp

/-- The bytes that the operation stores. -/
def stored : WriteOp → ByteString
  | uInt8 val => storeUInt8BE val
  | uInt16 val => storeUInt16BE val
  | uInt24 val => storeUInt24BE val
  | uInt32 val => storeUInt32BE val
  | uInt64 val => storeUInt64BE val
  | bytes val | string val => val
  | consume _ => []

/-- The bytes that it takes up. -/
def size : WriteOp → Nat
  | consume size => toSizeT size
  | op => op.stored.length

/-- The call of the writer, `none` where it returns `false`. -/
def call (w : ByteWriter) : WriteOp → Option ByteWriter
  | uInt8 val => w.writeUInt8 val
  | uInt16 val => w.writeUInt16 val
  | uInt24 val => w.writeUInt24 val
  | uInt32 val => w.writeUInt32 val
  | uInt64 val => w.writeUInt64 val
  | bytes val => w.writeBytes val
  | string val => w.writeString val
  | consume size => w.consume size

/-- The value that is read back: of 24 bits the low ones. -/
def value : WriteOp → Value
  | uInt8 val => .uInt8 val
  | uInt16 val => .uInt16 val
  | uInt24 val => .uInt32 (UInt32.ofNat (val.toNat % 2 ^ 24))
  | uInt32 val => .uInt32 val
  | uInt64 val => .uInt64 val
  | bytes val | string val => .bytes val
  | consume _ => .moved

/-- The operation of the same kind of the reader. -/
def kind : WriteOp → ReadOp
  | uInt8 _ => .uInt8
  | uInt16 _ => .uInt16
  | uInt24 _ => .uInt24
  | uInt32 _ => .uInt32
  | uInt64 _ => .uInt64
  | bytes val => .bytes val.length
  | string val => .string [] val.length
  | consume size => .consume (toSizeT size)

end WriteOp

/-- The call of the reader, `none` where it returns `false`. -/
def ReadOp.call (r : ByteReader) : ReadOp → Option (Value × ByteReader)
  | uInt8 => r.readUInt8.map fun x => (.uInt8 x.1, x.2)
  | uInt16 => r.readUInt16.map fun x => (.uInt16 x.1, x.2)
  | uInt24 => r.readUInt24.map fun x => (.uInt32 x.1, x.2)
  | uInt32 => r.readUInt32.map fun x => (.uInt32 x.1, x.2)
  | uInt64 => r.readUInt64.map fun x => (.uInt64 x.1, x.2)
  | bytes len => (r.readBytes len).map fun x => (.bytes x.1, x.2)
  | string val len => (r.readString val len).map fun x => (.bytes x.1, x.2)
  | null => none
  | consume size => (r.consume size).map fun r => (.moved, r)
  | back size => (r.back size).map fun r => (.moved, r)

namespace ByteWriter

/-- A call, with what it returns. -/
def write (w : ByteWriter) (op : WriteOp) : Bool × ByteWriter :=
  match op.call w with
  | some w' => (true, w')
  | none => (false, w)

def writeAll (w : ByteWriter) (ops : List WriteOp) : ByteWriter :=
  ops.foldl (fun w op => (w.write op).2) w

/-- The operations that return `true`. -/
def accepted : ByteWriter → List WriteOp → List WriteOp
  | _, [] => []
  | w, op :: ops =>
      if (w.write op).1 then op :: accepted (w.write op).2 ops else accepted (w.write op).2 ops

end ByteWriter

namespace ByteReader

/-- A call, with what it returns. -/
def read (r : ByteReader) (op : ReadOp) : Bool × ByteReader :=
  match op.call r with
  | some (_, r') => (true, r')
  | none => (false, r)

def readAll (r : ByteReader) (ops : List ReadOp) : ByteReader :=
  ops.foldl (fun r op => (r.read op).2) r

/-- The values that are read one after the other, where no call fails. -/
def values : ByteReader → List ReadOp → Option (List Value × ByteReader)
  | r, [] => some ([], r)
  | r, op :: ops =>
      match op.call r with
      | none => none
      | some (v, r') => (values r' ops).map fun x => (v :: x.1, x.2)

end ByteReader

/-! ## What one write does -/

section Write

variable {w w' : ByteWriter} {op : WriteOp}

/-- A write that fits stores its bytes at the cursor and moves it on; one
that does not fit is refused. -/
theorem call_eq (w : ByteWriter) (op : WriteOp) :
    op.call w =
      if w.left < op.size then none
      else some { w with bytes := poke w.bytes w.len op.stored, len := w.len + op.size } := by
  cases op with
  | consume size =>
      show w.consume size = _
      rw [ByteWriter.consume, WriteOp.stored, poke_nil]
      rfl
  | _ => rfl

theorem write_of_fits (h : op.size ≤ w.left) :
    w.write op =
      (true, { w with bytes := poke w.bytes w.len op.stored, len := w.len + op.size }) := by
  rw [ByteWriter.write, call_eq, if_neg (Nat.not_lt.mpr h)]

theorem write_of_not_fits (h : ¬ op.size ≤ w.left) : w.write op = (false, w) := by
  rw [ByteWriter.write, call_eq, if_pos (Nat.lt_of_not_le h)]

theorem write_true_iff : (w.write op).1 = true ↔ op.size ≤ w.left := by
  by_cases h : op.size ≤ w.left
  · rw [write_of_fits h]
    exact ⟨fun _ => h, fun _ => rfl⟩
  · rw [write_of_not_fits h]
    exact ⟨fun htrue => Bool.noConfusion htrue, fun hle => absurd hle h⟩

theorem write_false (h : (w.write op).1 = false) : (w.write op).2 = w := by
  by_cases hfits : op.size ≤ w.left
  · rw [write_of_fits hfits] at h
    cases h
  · rw [write_of_not_fits hfits]

end Write

/-! ## What lies in the buffer -/

/-- The bytes that the operations take up. -/
def sizes (ops : List WriteOp) : Nat := (ops.map WriteOp.size).sum

theorem sizes_cons (op : WriteOp) (ops : List WriteOp) :
    sizes (op :: ops) = op.size + sizes ops := by
  rw [sizes, List.map_cons, List.sum_cons]
  rfl

theorem sizes_concat (ops : List WriteOp) (op : WriteOp) :
    sizes (ops ++ [op]) = sizes ops + op.size := by
  rw [sizes, List.map_append, List.sum_append]
  rfl

/-- From `off` on lies what the operations store, one behind the other. -/
def Laid (mem : Memory) : Nat → List WriteOp → Prop
  | _, [] => True
  | off, op :: ops => window mem off op.stored.length = op.stored ∧ Laid mem (off + op.size) ops

section Lay

variable {mem : Memory} {off pos : Nat} {ops : List WriteOp} {op : WriteOp}

theorem stored_length_le (op : WriteOp) : op.stored.length ≤ op.size := by
  cases op with
  | consume size => exact Nat.zero_le _
  | _ => exact Nat.le_refl _

/-- What is written behind it leaves it as it is. -/
theorem Laid.poke (h : Laid mem off ops) (hpos : off + sizes ops ≤ pos) (bs : List UInt8) :
    Laid (poke mem pos bs) off ops := by
  induction ops generalizing off with
  | nil => trivial
  | cons op ops ih =>
      rw [sizes_cons] at hpos
      have hlen := stored_length_le op
      refine ⟨?_, ih h.2 (by omega)⟩
      rw [window_poke_disjoint (Or.inl (by omega))]
      exact h.1

theorem laid_concat : Laid mem off (ops ++ [op]) ↔
    Laid mem off ops ∧ window mem (off + sizes ops) op.stored.length = op.stored := by
  induction ops generalizing off with
  | nil => exact ⟨fun h => ⟨trivial, h.1⟩, fun h => ⟨h.2, trivial⟩⟩
  | cons first ops ih =>
      rw [List.cons_append, Laid, Laid, ih, sizes_cons, Nat.add_assoc, and_assoc]

end Lay

/-- The writer is in its buffer, and has written these operations. -/
structure Written (w : ByteWriter) (done : List WriteOp) : Prop where
  len_le : w.len ≤ w.size
  len_eq : w.len = sizes done
  laid : Laid w.bytes 0 done

section Writer

variable {w : ByteWriter} {op : WriteOp} {done : List WriteOp}

theorem written_ofBuffer (bytes : Memory) (size : Nat) :
    Written (ByteWriter.ofBuffer bytes size) [] :=
  ⟨Nat.zero_le _, rfl, trivial⟩

theorem Written.left (h : Written w done) (n : Nat) : n ≤ w.left ↔ w.len + n ≤ w.size := by
  have hle := h.len_le
  rw [ByteWriter.left]
  omega

/-- One write. -/
theorem Written.write (h : Written w done) (op : WriteOp) :
    Written (w.write op).2 (done ++ if (w.write op).1 then [op] else []) := by
  by_cases hfits : op.size ≤ w.left
  · rw [write_of_fits hfits, if_pos rfl]
    refine ⟨(h.left _).mp hfits, ?_, ?_⟩
    · rw [sizes_concat, ← h.len_eq]
    · rw [laid_concat, Nat.zero_add, ← h.len_eq]
      refine ⟨h.laid.poke ?_ _, window_poke_same _ _ _⟩
      rw [Nat.zero_add, h.len_eq]
  · rw [write_of_not_fits hfits, if_neg Bool.false_ne_true, List.append_nil]
    exact h

/-- A sequence of writes; the induction is on the operations. -/
theorem Written.writeAll (h : Written w done) (ops : List WriteOp) :
    Written (w.writeAll ops) (done ++ w.accepted ops) := by
  induction ops generalizing w done with
  | nil =>
      rw [ByteWriter.accepted, List.append_nil]
      exact h
  | cons op ops ih =>
      have hnext := ih (h.write op)
      have haccepted : (done ++ if (w.write op).1 then [op] else []) ++
          (w.write op).2.accepted ops = done ++ w.accepted (op :: ops) := by
        rw [ByteWriter.accepted, List.append_assoc]
        cases (w.write op).1 with
        | true => rfl
        | false => rfl
      rw [haccepted] at hnext
      exact hnext

/-- The size of the buffer stays. -/
theorem writeAll_size (w : ByteWriter) (ops : List WriteOp) : (w.writeAll ops).size = w.size := by
  induction ops generalizing w with
  | nil => rfl
  | cons op ops ih =>
      have hsize : (w.write op).2.size = w.size := by
        by_cases hfits : op.size ≤ w.left
        · rw [write_of_fits hfits]
        · rw [write_of_not_fits hfits]
      exact (ih (w.write op).2).trans hsize

end Writer

/-! ## Reading it back -/

section ReadBack

variable {r : ByteReader} {op : WriteOp} {ops : List WriteOp}

/-- A read that fits, with its value. -/
theorem map_read {α : Type} {c : Prop} [Decidable c] {a : α} {r' : ByteReader} (kind : α → Value)
    (hc : ¬ c) {v : α} (hv : a = v) :
    ((if c then none else some (a, r')).map fun x => (kind x.1, x.2)) = some (kind v, r') := by
  rw [if_neg hc, Option.map_some, hv]

/-- The reader of the same kind finds the value, and ends behind it. -/
theorem call_of_window (hfits : op.size ≤ r.left)
    (hstored : window r.bytes r.start op.stored.length = op.stored) :
    ∃ r', op.kind.call r = some (op.value, r') ∧ r'.bytes = r.bytes ∧
      r'.start = r.start + op.size ∧ r'.end_ = r.end_ := by
  have hholds : Holds r.currentData op.stored := by
    rw [Holds, ByteReader.currentData, window_shift, Nat.add_zero]
    exact hstored
  have hnot : ¬ r.left < op.size := Nat.not_lt.mpr hfits
  cases op with
  | uInt8 val =>
      exact ⟨_, map_read .uInt8 hnot (loadUInt8BE_of_holds hholds), rfl, rfl, rfl⟩
  | uInt16 val =>
      exact ⟨_, map_read .uInt16 hnot (loadUInt16BE_of_holds hholds), rfl, rfl, rfl⟩
  | uInt24 val =>
      exact ⟨_, map_read .uInt32 hnot (loadUInt24BE_of_holds hholds), rfl, rfl, rfl⟩
  | uInt32 val =>
      exact ⟨_, map_read .uInt32 hnot (loadUInt32BE_of_holds hholds), rfl, rfl, rfl⟩
  | uInt64 val =>
      exact ⟨_, map_read .uInt64 hnot (loadUInt64BE_of_holds hholds), rfl, rfl, rfl⟩
  | bytes val => exact ⟨_, map_read .bytes hnot hstored, rfl, rfl, rfl⟩
  | string val =>
      exact ⟨_, map_read .bytes hnot ((List.nil_append _).trans hstored), rfl, rfl, rfl⟩
  | consume size =>
      refine ⟨{ r with start := r.start + toSizeT size }, ?_, rfl, rfl, rfl⟩
      have hconsume : r.consume (toSizeT size) = _ :=
        ByteReader.consume_eq_some.mpr ⟨hfits, rfl⟩
      rw [WriteOp.kind, ReadOp.call, hconsume]
      rfl

theorem values_of_laid (hlaid : Laid r.bytes r.start ops)
    (hend : r.start + sizes ops ≤ r.end_) :
    ∃ r', r.values (ops.map WriteOp.kind) = some (ops.map WriteOp.value, r') ∧
      r'.start = r.start + sizes ops := by
  induction ops generalizing r with
  | nil => exact ⟨r, rfl, rfl⟩
  | cons op ops ih =>
      rw [sizes_cons] at hend ⊢
      have hfits : op.size ≤ r.left := by
        rw [ByteReader.left]
        omega
      rcases call_of_window hfits hlaid.1 with ⟨r₁, hread, hbytes, hstart, hstop⟩
      have hrest : Laid r₁.bytes r₁.start ops := by
        rw [hbytes, hstart]
        exact hlaid.2
      rcases ih hrest (by omega) with ⟨r', hall, hlast⟩
      refine ⟨r', ?_, by omega⟩
      rw [List.map_cons, ByteReader.values, hread]
      simp only [hall]
      rfl

end ReadBack

/-! ## Reading -/

section Read

variable {r r' : ByteReader} {op : ReadOp} {v : Value}

/-- What is read was left. -/
theorem map_read_eq_some {α : Type} {n : Nat} {a : α} (kind : α → Value)
    (h : ((if r.left < n then none else some (a, r.take n)).map fun x => (kind x.1, x.2)) =
      some (v, r')) : n ≤ r.left ∧ r' = r.take n := by
  split at h
  · cases h
  next hfits =>
    cases h
    exact ⟨Nat.le_of_not_lt hfits, rfl⟩

/-- Every call leaves the cursor between the ends. -/
theorem ReadOp.call_ok (hr : r.Ok) (h : op.call r = some (v, r')) :
    r'.Ok ∧ r'.end_ = r.end_ := by
  have hread : ∀ n, n ≤ r.left ∧ r' = r.take n → r'.Ok ∧ r'.end_ = r.end_ := by
    rintro n ⟨hfits, rfl⟩
    exact ⟨hr.take hfits, rfl⟩
  cases op with
  | uInt8 => exact hread 1 (map_read_eq_some .uInt8 h)
  | uInt16 => exact hread 2 (map_read_eq_some .uInt16 h)
  | uInt24 => exact hread 3 (map_read_eq_some .uInt32 h)
  | uInt32 => exact hread 4 (map_read_eq_some .uInt32 h)
  | uInt64 => exact hread 8 (map_read_eq_some .uInt64 h)
  | bytes len => exact hread len (map_read_eq_some .bytes h)
  | string val len => exact hread len (map_read_eq_some .bytes h)
  | null => cases h
  | consume size =>
      rcases Option.map_eq_some_iff.mp h with ⟨r₁, hconsume, heq⟩
      rcases ByteReader.consume_eq_some.mp hconsume with ⟨hfits, rfl⟩
      cases heq
      refine ⟨⟨?_, hr.within⟩, rfl⟩
      have hle := hr.start_le
      show r.start + size ≤ r.end_
      rw [ByteReader.left] at hfits
      omega
  | back size =>
      rcases Option.map_eq_some_iff.mp h with ⟨r₁, hback, heq⟩
      rw [ByteReader.back] at hback
      split at hback
      · cases hback
      · cases hback
        cases heq
        exact ⟨⟨Nat.le_trans (Nat.sub_le _ _) hr.start_le, hr.within⟩, rfl⟩

theorem read_ok (hr : r.Ok) (op : ReadOp) : (r.read op).2.Ok ∧ (r.read op).2.end_ = r.end_ := by
  rw [ByteReader.read]
  split
  next hcall => exact ReadOp.call_ok hr hcall
  next => exact ⟨hr, rfl⟩

theorem readAll_ok (hr : r.Ok) (ops : List ReadOp) :
    (r.readAll ops).Ok ∧ (r.readAll ops).end_ = r.end_ := by
  induction ops generalizing r with
  | nil => exact ⟨hr, rfl⟩
  | cons op ops ih =>
      rcases read_ok hr op with ⟨hok, hend⟩
      rcases ih hok with ⟨hok', hend'⟩
      exact ⟨hok', hend'.trans hend⟩

theorem read_false (h : (r.read op).1 = false) : (r.read op).2 = r := by
  rw [ByteReader.read] at h ⊢
  split at h
  · cases h
  · rfl

end Read

/-! ## The laws -/

/-- The difference of two sizes, as `size_t` has it. -/
theorem toSizeT_sub {n m : Nat} (hle : m ≤ n) (hn : n < 18446744073709551616) :
    toSizeT ((n : Int) - m) = n - m := by
  rw [toSizeT]
  omega

/-- A writer `w` that has got the calls `ops` on a buffer of `size` bytes. -/
structure WritesWell (size : UInt64) (w : ByteWriter) (accepted : List WriteOp) : Prop where
  inside : w.len ≤ w.size ∧ w.size = size.toNat
  left : toSizeT ((w.size : Int) - w.len) = w.left
  fits : ∀ op, (w.write op).1 = true ↔ w.len + op.size ≤ w.size
  unchanged : ∀ op, (w.write op).1 = false → (w.write op).2 = w
  readBack : ∃ r, (ByteReader.ofData w.bytes w.len).values (accepted.map WriteOp.kind) =
    some (accepted.map WriteOp.value, r) ∧ r.start = w.len

/-- A reader `r` of `len` bytes. -/
structure ReadsWell (len : UInt64) (r : ByteReader) : Prop where
  inside : r.start ≤ r.end_ ∧ r.end_ = len.toNat
  left : toSizeT ((r.end_ : Int) - r.start) = r.left
  unmoved : ∀ op, (r.read op).1 = false → (r.read op).2 = r

theorem Written.writesWell {w : ByteWriter} {done : List WriteOp} {size : UInt64}
    (h : Written w done) (hsize : w.size = size.toNat) : WritesWell size w done := by
  refine ⟨⟨h.len_le, hsize⟩, toSizeT_sub h.len_le (hsize ▸ size.toNat_lt), ?_,
    fun _ => write_false, ?_⟩
  · intro op
    rw [write_true_iff, h.left]
  · have hlaid : Laid (ByteReader.ofData w.bytes w.len).bytes 0 done := h.laid
    rcases values_of_laid hlaid (by rw [h.len_eq]; exact Nat.le_of_eq (Nat.zero_add _)) with
      ⟨r, hvalues, hstart⟩
    refine ⟨r, hvalues, ?_⟩
    rw [hstart, h.len_eq]
    exact Nat.zero_add _

/-- Over every sequence of calls on every buffer. -/
theorem byteBuffer_laws :
    (∀ (bytes : Memory) (size : UInt64) (ops : List WriteOp),
      WritesWell size ((ByteWriter.ofBuffer bytes size.toNat).writeAll ops)
        ((ByteWriter.ofBuffer bytes size.toNat).accepted ops)) ∧
    ∀ (bytes : Memory) (len : UInt64) (ops : List ReadOp),
      ReadsWell len ((ByteReader.ofData bytes len.toNat).readAll ops) := by
  constructor
  · intro bytes size ops
    have hwritten := (written_ofBuffer bytes size.toNat).writeAll ops
    rw [List.nil_append] at hwritten
    exact hwritten.writesWell (writeAll_size _ ops)
  · intro bytes len ops
    rcases readAll_ok (ByteReader.ok_ofData bytes len.toNat) ops with ⟨hok, hend⟩
    have hlen : ((ByteReader.ofData bytes len.toNat).readAll ops).end_ = len.toNat := hend
    have hlt : ((ByteReader.ofData bytes len.toNat).readAll ops).end_ < 18446744073709551616 := by
      rw [hlen]
      exact len.toNat_lt
    exact ⟨⟨hok.start_le, hlen⟩, toSizeT_sub hok.start_le hlt, fun _ => read_false⟩

end WebrtcServer
