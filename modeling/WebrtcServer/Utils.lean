/-
# `Utils` — utils.h, utils.cpp, and what C++ leaves undefined

Times in NTP format, the integer conversions that the source makes without
writing them, and the faults: a function that would run into undefined
behaviour ends in one.

The doubles in `NtpTime` are exact on all the values that occur: a
fraction of a second is scaled by a power of two, and a quotient that is
not a whole number of milliseconds and a half is too far from one for the
rounding to matter.  So they are integer divisions here.
-/
import Mathlib.Data.Nat.Notation

namespace WebrtcServer

/-- What ends the handling of an event by undefined behaviour. -/
inductive Fault where
  /-- A `StreamTrack` that is not there was called. -/
  | nullTrack
  /-- A `dynamic_cast` gave null and its result was used. -/
  | nullPacket
  /-- A packetizer that is not there was called. -/
  | nullPacketizer
  /-- A component of the transport was used before it was made. -/
  | nullComponent
  /-- A write outside the object that was allocated. -/
  | outOfBounds
  /-- An `assert` failed. -/
  | assertFailed
deriving DecidableEq, Repr

/-! ## Integer conversions -/

/-- An `int` read as an unsigned 32-bit number, as in a comparison with one. -/
def toUInt32 (n : Int) : Nat := (n % 4294967296).toNat

/-- An `int` or a `size_t` converted to `size_t`. -/
def toSizeT (n : Int) : Nat := (n % 18446744073709551616).toNat

/-- A `size_t` converted to `int`. -/
def toInt (n : Nat) : Int :=
  if n % 4294967296 < 2147483648 then (n % 4294967296 : Nat)
  else (n % 4294967296 : Nat) - 4294967296

theorem toSizeT_natCast {n : Nat} (h : n < 2147483648) : toSizeT n = n := by
  simp only [toSizeT]
  omega

theorem toUInt32_natCast {n : Nat} (h : n < 2147483648) : toUInt32 n = n := by
  simp only [toUInt32]
  omega

theorem toInt_of_lt {n : Nat} (h : n < 2147483648) : toInt n = n := by
  have hmod : n % 4294967296 = n := Nat.mod_eq_of_lt (by omega)
  simp only [toInt, hmod, if_pos h]

/-! ## `NtpTime` -/

structure NtpTime where
  seconds : UInt32
  fractions : UInt32
deriving DecidableEq

namespace NtpTime

def createFromMillis (millis : UInt64) : NtpTime where
  seconds := UInt32.ofNat (millis.toNat / 1000)
  fractions := UInt32.ofNat (millis.toNat % 1000 * 4294967296 / 1000)

def createFromCompactNtp (compactNtp : UInt32) : NtpTime where
  seconds := compactNtp >>> 16
  fractions := compactNtp <<< 16

/-- To the nearest millisecond. -/
def toMillis (t : NtpTime) : Int :=
  1000 * t.seconds.toNat + (t.fractions.toNat * 1000 + 2147483648) / 4294967296

def toCompactNtp (t : NtpTime) : UInt32 := (t.seconds <<< 16) ||| (t.fractions >>> 16)

end NtpTime

end WebrtcServer
