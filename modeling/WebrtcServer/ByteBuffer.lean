/-
# `ByteBuffer` — byte_buffer.h, byte_buffer.cpp

The big-endian loads and stores and the two cursors over a block of
memory.  A load takes the pointer it dereferences; a store is the list of
bytes it writes.  `ByteReader` keeps, beside the fields of the source, a
log of the spans it has read: the log takes no part in the computation
and is there for the bounds theorems.  A read that fails leaves the
cursor where it was, so it is `none`.
-/
import WebrtcServer.Lib.Memory
import WebrtcServer.Utils

namespace WebrtcServer

open Lib

/-- `std::string` and `boost::string_view`: the bytes, embedded zeros included. -/
abbrev ByteString := List UInt8

/-! ## Loads and stores -/

def loadUInt8BE (data : Memory) : UInt8 := data 0

def loadUInt16BE (data : Memory) : UInt16 :=
  UInt16.ofNat ((data 0).toNat * 256 + (data 1).toNat)

def loadUInt24BE (data : Memory) : UInt32 :=
  UInt32.ofNat (((data 0).toNat * 256 + (data 1).toNat) * 256 + (data 2).toNat)

def loadUInt32BE (data : Memory) : UInt32 :=
  UInt32.ofNat ((((data 0).toNat * 256 + (data 1).toNat) * 256 + (data 2).toNat) * 256
    + (data 3).toNat)

def loadUInt64BE (data : Memory) : UInt64 :=
  UInt64.ofNat ((((((((data 0).toNat * 256 + (data 1).toNat) * 256 + (data 2).toNat) * 256
    + (data 3).toNat) * 256 + (data 4).toNat) * 256 + (data 5).toNat) * 256
    + (data 6).toNat) * 256 + (data 7).toNat)

def storeUInt8BE (value : UInt8) : List UInt8 := [value]

def storeUInt16BE (value : UInt16) : List UInt8 :=
  [UInt8.ofNat (value.toNat / 256), UInt8.ofNat value.toNat]

def storeUInt24BE (value : UInt32) : List UInt8 :=
  [UInt8.ofNat (value.toNat / 65536), UInt8.ofNat (value.toNat / 256), UInt8.ofNat value.toNat]

def storeUInt32BE (value : UInt32) : List UInt8 :=
  [UInt8.ofNat (value.toNat / 16777216), UInt8.ofNat (value.toNat / 65536),
   UInt8.ofNat (value.toNat / 256), UInt8.ofNat value.toNat]

def storeUInt64BE (value : UInt64) : List UInt8 :=
  [UInt8.ofNat (value.toNat / 72057594037927936), UInt8.ofNat (value.toNat / 281474976710656),
   UInt8.ofNat (value.toNat / 1099511627776), UInt8.ofNat (value.toNat / 4294967296),
   UInt8.ofNat (value.toNat / 16777216), UInt8.ofNat (value.toNat / 65536),
   UInt8.ofNat (value.toNat / 256), UInt8.ofNat value.toNat]

theorem loadUInt16BE_toNat (data : Memory) :
    (loadUInt16BE data).toNat = (data 0).toNat * 256 + (data 1).toNat := by
  have h0 := (data 0).toNat_lt
  have h1 := (data 1).toNat_lt
  simp only [loadUInt16BE, UInt16.toNat_ofNat']
  omega

theorem loadUInt32BE_toNat (data : Memory) :
    (loadUInt32BE data).toNat =
      (((data 0).toNat * 256 + (data 1).toNat) * 256 + (data 2).toNat) * 256
        + (data 3).toNat := by
  have h0 := (data 0).toNat_lt
  have h1 := (data 1).toNat_lt
  have h2 := (data 2).toNat_lt
  have h3 := (data 3).toNat_lt
  simp only [loadUInt32BE, UInt32.toNat_ofNat']
  omega

/-- A load sees only the two bytes it names. -/
theorem loadUInt16BE_congr {data data' : Memory} (h0 : data 0 = data' 0)
    (h1 : data 1 = data' 1) : loadUInt16BE data = loadUInt16BE data' := by
  simp only [loadUInt16BE, h0, h1]

theorem loadUInt32BE_congr {data data' : Memory} (h : ∀ i < 4, data i = data' i) :
    loadUInt32BE data = loadUInt32BE data' := by
  simp only [loadUInt32BE, h 0 (by omega), h 1 (by omega), h 2 (by omega), h 3 (by omega)]

/-- A stored 16-bit value is loaded back. -/
theorem loadUInt16BE_of_bytes {data : Memory} {value : UInt16}
    (h0 : data 0 = UInt8.ofNat (value.toNat / 256)) (h1 : data 1 = UInt8.ofNat value.toNat) :
    loadUInt16BE data = value := by
  apply UInt16.toNat_inj.mp
  have hlt := value.toNat_lt
  rw [loadUInt16BE_toNat, h0, h1]
  simp only [UInt8.toNat_ofNat']
  omega

/-- A stored 32-bit value is loaded back. -/
theorem loadUInt32BE_of_bytes {data : Memory} {value : UInt32}
    (h0 : data 0 = UInt8.ofNat (value.toNat / 16777216))
    (h1 : data 1 = UInt8.ofNat (value.toNat / 65536))
    (h2 : data 2 = UInt8.ofNat (value.toNat / 256)) (h3 : data 3 = UInt8.ofNat value.toNat) :
    loadUInt32BE data = value := by
  apply UInt32.toNat_inj.mp
  have hlt := value.toNat_lt
  rw [loadUInt32BE_toNat, h0, h1, h2, h3]
  simp only [UInt8.toNat_ofNat']
  omega

theorem loadUInt16BE_of_holds {mem : Memory} {v : UInt16} (h : Holds mem (storeUInt16BE v)) :
    loadUInt16BE mem = v := by
  simp only [storeUInt16BE, holds_cons] at h
  exact loadUInt16BE_of_bytes h.1 h.2.1

theorem loadUInt32BE_of_holds {mem : Memory} {v : UInt32} (h : Holds mem (storeUInt32BE v)) :
    loadUInt32BE mem = v := by
  simp only [storeUInt32BE, holds_cons] at h
  exact loadUInt32BE_of_bytes h.1 h.2.1 h.2.2.1 h.2.2.2.1

theorem loadUInt8BE_of_holds {mem : Memory} {v : UInt8} (h : Holds mem (storeUInt8BE v)) :
    loadUInt8BE mem = v := by
  simp only [storeUInt8BE, holds_cons] at h
  exact h.1

/-- Of a stored 24-bit value the high byte is lost. -/
theorem loadUInt24BE_of_holds {mem : Memory} {v : UInt32} (h : Holds mem (storeUInt24BE v)) :
    loadUInt24BE mem = UInt32.ofNat (v.toNat % 16777216) := by
  simp only [storeUInt24BE, holds_cons, Memory.shift_apply] at h
  obtain ⟨h0, h1, h2, -⟩ := h
  have hbytes : ((mem 0).toNat * 256 + (mem 1).toNat) * 256 + (mem 2).toNat =
      v.toNat % 16777216 := by
    rw [h0, h1, h2]
    simp only [UInt8.toNat_ofNat']
    omega
  rw [loadUInt24BE, hbytes]

theorem loadUInt64BE_of_holds {mem : Memory} {v : UInt64} (h : Holds mem (storeUInt64BE v)) :
    loadUInt64BE mem = v := by
  simp only [storeUInt64BE, holds_cons, Memory.shift_apply] at h
  obtain ⟨h0, h1, h2, h3, h4, h5, h6, h7, -⟩ := h
  apply UInt64.toNat_inj.mp
  have hlt := v.toNat_lt
  rw [loadUInt64BE, UInt64.toNat_ofNat', h0, h1, h2, h3, h4, h5, h6, h7]
  simp only [UInt8.toNat_ofNat']
  omega

/-- Storing what was loaded gives the bytes back. -/
theorem storeUInt16BE_load (data : Memory) :
    storeUInt16BE (loadUInt16BE data) = window data 0 2 := by
  have h0 := (data 0).toNat_lt
  have h1 := (data 1).toNat_lt
  have hhigh : UInt8.ofNat ((loadUInt16BE data).toNat / 256) = data 0 := by
    apply UInt8.toNat_inj.mp
    rw [loadUInt16BE_toNat, UInt8.toNat_ofNat']
    omega
  have hlow : UInt8.ofNat (loadUInt16BE data).toNat = data 1 := by
    apply UInt8.toNat_inj.mp
    rw [loadUInt16BE_toNat, UInt8.toNat_ofNat']
    omega
  simp only [storeUInt16BE, hhigh, hlow]
  rfl

@[simp] theorem storeUInt8BE_length (value : UInt8) : (storeUInt8BE value).length = 1 := rfl

@[simp] theorem storeUInt16BE_length (value : UInt16) : (storeUInt16BE value).length = 2 := rfl

@[simp] theorem storeUInt32BE_length (value : UInt32) : (storeUInt32BE value).length = 4 := rfl

/-! ## `ByteReader` -/

structure ByteReader where
  bytes : Memory
  start : Nat
  end_ : Nat
  /-- The spans read so far, by their offset from `bytes`. -/
  touched : List Span

namespace ByteReader

def ofData (bytes : Memory) (len : Nat) : ByteReader := ⟨bytes, 0, len, []⟩

/-- `CurrentData()`. -/
def currentData (r : ByteReader) : Memory := r.bytes.shift r.start

/-- `Left()`. -/
def left (r : ByteReader) : Nat := r.end_ - r.start

/-- Log a read of `len` bytes at `off` that goes through a raw pointer. -/
def touch (r : ByteReader) (off len : Nat) : ByteReader :=
  { r with touched := r.touched ++ [(off, len)] }

/-- Read `len` bytes at the cursor and move it past them. -/
def take (r : ByteReader) (len : Nat) : ByteReader :=
  { r with start := r.start + len, touched := r.touched ++ [(r.start, len)] }

def readUInt8 (r : ByteReader) : Option (UInt8 × ByteReader) :=
  if r.left < 1 then none else some (loadUInt8BE r.currentData, r.take 1)

def readUInt16 (r : ByteReader) : Option (UInt16 × ByteReader) :=
  if r.left < 2 then none else some (loadUInt16BE r.currentData, r.take 2)

def readUInt24 (r : ByteReader) : Option (UInt32 × ByteReader) :=
  if r.left < 3 then none else some (loadUInt24BE r.currentData, r.take 3)

def readUInt32 (r : ByteReader) : Option (UInt32 × ByteReader) :=
  if r.left < 4 then none else some (loadUInt32BE r.currentData, r.take 4)

def readUInt64 (r : ByteReader) : Option (UInt64 × ByteReader) :=
  if r.left < 8 then none else some (loadUInt64BE r.currentData, r.take 8)

/-- `ReadBytes`, which copies the bytes out, and what `ReadString` appends to
an empty string. -/
def readBytes (r : ByteReader) (len : Nat) : Option (ByteString × ByteReader) :=
  if r.left < len then none else some (window r.bytes r.start len, r.take len)

def readString (r : ByteReader) (val : ByteString) (len : Nat) :
    Option (ByteString × ByteReader) :=
  if r.left < len then none else some (val ++ window r.bytes r.start len, r.take len)

def consume (r : ByteReader) (size : Nat) : Option ByteReader :=
  if r.left < size then none else some { r with start := r.start + size }

def back (r : ByteReader) (size : Nat) : Option ByteReader :=
  if r.start < size then none else some { r with start := r.start - size }

/-- The cursor stands inside the block, and what was read lies inside it. -/
structure Ok (r : ByteReader) : Prop where
  start_le : r.start ≤ r.end_
  within : AllWithin r.end_ r.touched

@[simp] theorem take_bytes (r : ByteReader) (len : Nat) : (r.take len).bytes = r.bytes := rfl
@[simp] theorem take_start (r : ByteReader) (len : Nat) :
    (r.take len).start = r.start + len := rfl
@[simp] theorem take_end (r : ByteReader) (len : Nat) : (r.take len).end_ = r.end_ := rfl
@[simp] theorem touch_bytes (r : ByteReader) (off len : Nat) :
    (r.touch off len).bytes = r.bytes := rfl
@[simp] theorem touch_start (r : ByteReader) (off len : Nat) :
    (r.touch off len).start = r.start := rfl
@[simp] theorem touch_end (r : ByteReader) (off len : Nat) :
    (r.touch off len).end_ = r.end_ := rfl
@[simp] theorem touch_touched (r : ByteReader) (off len : Nat) :
    (r.touch off len).touched = r.touched ++ [(off, len)] := rfl

theorem ok_ofData (bytes : Memory) (len : Nat) : (ofData bytes len).Ok :=
  ⟨Nat.zero_le _, by simp [ofData]⟩

/-- A read of what is left keeps the reader in its block. -/
theorem Ok.take {r : ByteReader} (h : r.Ok) {len : Nat} (hlen : len ≤ r.left) :
    (r.take len).Ok := by
  have hroom : r.start + len ≤ r.end_ := by
    have := h.start_le
    simp only [left] at hlen
    omega
  refine ⟨hroom, ?_⟩
  simp only [ByteReader.take, allWithin_append, allWithin_singleton, Span.within_iff]
  exact ⟨h.within, Or.inr hroom⟩

theorem readUInt16_eq_some {r r' : ByteReader} {v : UInt16} :
    r.readUInt16 = some (v, r') ↔ 2 ≤ r.left ∧ v = loadUInt16BE r.currentData ∧ r' = r.take 2 := by
  by_cases h : r.left < 2
  · simp [readUInt16, h]
  · simp only [readUInt16, if_neg h, Option.some.injEq, Prod.mk.injEq]
    constructor
    · rintro ⟨rfl, rfl⟩; exact ⟨by omega, rfl, rfl⟩
    · rintro ⟨-, rfl, rfl⟩; exact ⟨rfl, rfl⟩

theorem consume_eq_some {r r' : ByteReader} {n : Nat} :
    r.consume n = some r' ↔ n ≤ r.left ∧ r' = { r with start := r.start + n } := by
  by_cases h : r.left < n
  · simp [consume, h]
  · simp only [consume, if_neg h, Option.some.injEq]
    constructor
    · rintro rfl; exact ⟨by omega, rfl⟩
    · rintro ⟨-, rfl⟩; rfl

end ByteReader

/-! ## `ByteWriter` -/

structure ByteWriter where
  /-- The buffer; what it holds past `len` was there before. -/
  bytes : Memory
  len : Nat
  size : Nat

namespace ByteWriter

def ofBuffer (bytes : Memory) (size : Nat) : ByteWriter := ⟨bytes, 0, size⟩

def left (w : ByteWriter) : Nat := w.size - w.len

/-- `WriteBytes`, and what the integer writes come down to. -/
def writeBytes (w : ByteWriter) (val : List UInt8) : Option ByteWriter :=
  if w.left < val.length then none
  else some { w with bytes := poke w.bytes w.len val, len := w.len + val.length }

def writeUInt8 (w : ByteWriter) (val : UInt8) : Option ByteWriter :=
  w.writeBytes (storeUInt8BE val)

def writeUInt16 (w : ByteWriter) (val : UInt16) : Option ByteWriter :=
  w.writeBytes (storeUInt16BE val)

def writeUInt24 (w : ByteWriter) (val : UInt32) : Option ByteWriter :=
  w.writeBytes (storeUInt24BE val)

def writeUInt32 (w : ByteWriter) (val : UInt32) : Option ByteWriter :=
  w.writeBytes (storeUInt32BE val)

def writeUInt64 (w : ByteWriter) (val : UInt64) : Option ByteWriter :=
  w.writeBytes (storeUInt64BE val)

def writeString (w : ByteWriter) (val : ByteString) : Option ByteWriter := w.writeBytes val

/-- The `int` becomes a `size_t`, in the comparison and in the sum. -/
def consume (w : ByteWriter) (size : Int) : Option ByteWriter :=
  if w.left < toSizeT size then none else some { w with len := w.len + toSizeT size }

/-- The bytes written: `Data()[0..Used())`. -/
def written (w : ByteWriter) : ByteString := window w.bytes 0 w.len

/-- The writer of `size` bytes that has written `bs` over `heap`. -/
def filled (heap : Memory) (bs : List UInt8) (size : Nat) : ByteWriter :=
  ⟨poke heap 0 bs, bs.length, size⟩

@[simp] theorem filled_written (heap : Memory) (bs : List UInt8) (size : Nat) :
    (filled heap bs size).written = bs := window_poke_same heap 0 bs

theorem ofBuffer_eq (heap : Memory) (size : Nat) : ofBuffer heap size = filled heap [] size := by
  rw [filled, poke_nil]
  rfl

/-- What fits is written behind what is there. -/
theorem filled_writeBytes {heap : Memory} {bs val : List UInt8} {size : Nat}
    (h : bs.length + val.length ≤ size) :
    (filled heap bs size).writeBytes val = some (filled heap (bs ++ val) size) := by
  have hleft : ¬ size - bs.length < val.length := by omega
  simp only [writeBytes, left, filled, hleft, if_false, List.length_append]
  rw [← poke_append, Nat.zero_add]

end ByteWriter

end WebrtcServer
