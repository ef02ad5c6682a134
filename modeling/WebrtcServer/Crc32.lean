/-
# `Crc32` — crc32.cpp, with its table

`LoadCrc32Table` fills an array of 256 words, and `Calculate` reads the
bytes behind a pointer and looks them up in it.  The two together are
`crc32Calculate`, where an entry of the table is a function of its index,
and that is the division of the message bit by bit.
-/
import WebrtcServer.StunAccept

namespace WebrtcServer.Crc32

open Lib

/-- The two loops: eight rounds for every index. -/
def loadCrc32Table : Vector UInt32 256 :=
  Vector.ofFn fun i => Nat.repeat crc32Round 8 (UInt32.ofNat i)

/-- `(c ^ data[i]) & 0xFF` is an index of the table. -/
theorem and_ff_lt (c : UInt32) : (c &&& 0xFF).toNat < 256 := by
  rw [UInt32.toNat_and]
  exact Nat.lt_of_le_of_lt Nat.and_le_right (by decide)

/-- One turn of the loop. -/
def update (c : UInt32) (octet : UInt8) : UInt32 :=
  loadCrc32Table.get ⟨((c ^^^ octet.toUInt32) &&& 0xFF).toNat, and_ff_lt _⟩ ^^^ (c >>> 8)

def calculate (data : Memory) (size : Nat) : UInt32 :=
  (List.range size).foldl (fun c i => update c (data i)) 0xFFFFFFFF ^^^ 0xFFFFFFFF

/-! ## The table -/

theorem loadCrc32Table_get (i : Fin 256) :
    loadCrc32Table.get i = crc32Table (UInt8.ofNat i) := by
  have hindex : UInt32.ofNat i = (UInt8.ofNat i).toUInt32 := by
    apply UInt32.toNat_inj.mp
    rw [UInt32.toNat_ofNat', UInt8.toNat_toUInt32, UInt8.toNat_ofNat']
    have hlt := i.isLt
    omega
  have hentry : loadCrc32Table.get i = Nat.repeat crc32Round 8 (UInt32.ofNat i) :=
    Vector.getElem_ofFn i.isLt
  rw [hentry, hindex, crc32Table]

theorem update_eq (c : UInt32) (octet : UInt8) :
    update c octet = crc32Table ((c ^^^ octet.toUInt32) &&& 0xFF).toUInt8 ^^^ (c >>> 8) := by
  rw [update, loadCrc32Table_get]
  rfl

/-- A table step is eight bits of the division, from every state. -/
theorem update_toBitVec (c : UInt32) (octet : UInt8) :
    (update c octet).toBitVec =
      Crc.divide 0xEDB88320#32 c.toBitVec (Crc.bitsOf 8 octet.toNat) := by
  rw [update_eq, crc32Octet_toBitVec]

theorem calculate_window (data : Memory) (size : Nat) :
    calculate data size = crc32Calculate (window data 0 size) := by
  simp only [calculate, crc32Calculate, window, List.foldl_map, Nat.zero_add, update_eq]

/-- The table and the loop over the octets compute the division of the whole
message, one bit at a time: each entry is eight steps from its index, each
turn eight steps from the state it finds, and the result is the CRC-32. -/
theorem calculate_bitwise (data : Memory) (size : Nat) :
    (∀ i : Fin 256, (loadCrc32Table.get i).toBitVec =
        Crc.divide 0xEDB88320#32 0#32 (Crc.bitsOf 8 i)) ∧
      (∀ c octet, (update c octet).toBitVec =
        Crc.divide 0xEDB88320#32 c.toBitVec (Crc.bitsOf 8 octet.toNat)) ∧
      calculate data size = rfcCrc32 (window data 0 size) := by
  refine ⟨fun i => ?_, update_toBitVec, ?_⟩
  · rw [loadCrc32Table_get, crc32Table_toBitVec, Crc.divide_bits _ i.isLt (by omega),
      BitVec.zero_xor, UInt8.toNat_ofNat', Nat.mod_eq_of_lt i.isLt]
  · rw [calculate_window, crc32Calculate_rfc]

/-- The check value of the CRC-32, of the digits 1 to 9. -/
example : calculate (Memory.ofList [0x31, 0x32, 0x33, 0x34, 0x35, 0x36, 0x37, 0x38, 0x39]) 9 =
    0xCBF43926 := by
  rw [calculate_window]
  decide +kernel

end WebrtcServer.Crc32
