/-
# `Json` — what the program uses of nlohmann::json

A JSON value and the accesses the program makes: `find` and `at` with a key,
`operator[]` with a key and with an index, the range-based `for`, and the
conversions to `std::string` and `int32_t`.  `find` has no exceptions: it
finds nothing in a value that is not an object.  All the others throw.
-/
import WebrtcServer.Lib.Checked

namespace WebrtcServer

/-- What JSON and SDP code throws.  A `type_error` has its number. -/
inductive Exception where
  | parseError
  | typeError (id : Nat)
  | outOfRange (key : String)
  | regexError
deriving DecidableEq

/-- An object lists its entries.  Of a floating-point number only the
integral part is ever read. -/
inductive Json where
  | null
  | bool (b : Bool)
  | int (n : Int)
  | float (truncated : Int)
  | str (s : String)
  | arr (items : List Json)
  | obj (entries : List (String × Json))

/-- The conversion to `int32_t`. -/
def toInt32 (n : Int) : Int := Int.bmod n 0x100000000

namespace Json

def find? (v : Json) (key : String) : Option Json :=
  match v with
  | .obj entries => entries.lookup key
  | _ => none

/-- `v.find(key) != v.end()`. -/
def has (v : Json) (key : String) : Bool := (v.find? key).isSome

/-- `v.at(key)`. -/
def atKey (v : Json) (key : String) : Except Exception Json :=
  match v with
  | .obj entries =>
    match entries.lookup key with
    | some x => .ok x
    | none => .error (.outOfRange key)
  | _ => .error (.typeError 304)

/-- `v[key]`: a missing entry is made, as null. -/
def index (v : Json) (key : String) : Except Exception Json :=
  match v with
  | .obj entries => .ok ((entries.lookup key).getD .null)
  | .null => .ok .null
  | _ => .error (.typeError 305)

def getString : Json → Except Exception String
  | .str s => .ok s
  | _ => .error (.typeError 302)

def getInt32 : Json → Except Exception Int
  | .int n => .ok (toInt32 n)
  | .float truncated => .ok (toInt32 truncated)
  | .bool b => .ok (if b then 1 else 0)
  | _ => .error (.typeError 302)

/-- `v == s` for a string `s`. -/
def isString (v : Json) (s : String) : Bool :=
  match v with
  | .str t => t == s
  | _ => false

/-- The values that `for (auto& item : v)` goes through. -/
def items : Json → List Json
  | .arr items => items
  | .obj entries => entries.map Prod.snd
  | .null => []
  | v => [v]

/-- The values that `v[i]` gives for `i` from 0 to `v.size() - 1`. -/
def indexed : Json → Except Exception (List Json)
  | .arr items => .ok items
  | .null | .obj [] => .ok []
  | _ => .error (.typeError 305)

/-- The string under a key, where there is one. -/
def stringAt? (v : Json) (key : String) : Option String :=
  match v.find? key with
  | some (.str s) => some s
  | _ => none

/-- The items under a key, where there is one. -/
def itemsAt (v : Json) (key : String) : List Json :=
  match v.find? key with
  | some x => x.items
  | none => []

/-- `std::string s = v.at(key)`. -/
def atString (v : Json) (key : String) : Except Exception String :=
  v.atKey key >>= getString

/-- `std::string s = v[key]`. -/
def indexString (v : Json) (key : String) : Except Exception String :=
  v.index key >>= getString

variable {v x : Json} {key s : String}

theorem has_of_find? (h : v.find? key = some x) : v.has key = true := by
  rw [has, h, Option.isSome_some]

theorem find?_of_has (h : v.has key = true) : ∃ x, v.find? key = some x :=
  Option.isSome_iff_exists.mp h

/-- Behind `find`, `at` is safe. -/
theorem atKey_of_find? (h : v.find? key = some x) : v.atKey key = .ok x := by
  cases v with
  | obj entries =>
      have hx : entries.lookup key = some x := h
      rw [atKey, hx]
  | _ => cases h

theorem atKey_of_not_has (h : v.has key = false) : ∃ e, v.atKey key = .error e := by
  cases v with
  | obj entries =>
      have hx : entries.lookup key = none := Option.not_isSome_iff_eq_none.mp (by
        intro hs
        exact absurd (hs.symm.trans h) (by simp))
      exact ⟨.outOfRange key, by rw [atKey, hx]⟩
  | _ => exact ⟨.typeError 304, rfl⟩

theorem atString_of_find? (h : v.find? key = some (.str s)) : v.atString key = .ok s := by
  rw [atString, atKey_of_find? h]
  rfl

theorem itemsAt_of_find? (h : v.find? key = some x) : v.itemsAt key = x.items := by
  rw [itemsAt, h]

@[simp] theorem isString_str : (Json.str s).isString s = true := beq_self_eq_true s

theorem isString_iff : v.isString s = true ↔ v = .str s := by
  cases v with
  | str t =>
      rw [isString, beq_iff_eq, Json.str.injEq]
  | _ => simp [isString]

theorem stringAt?_eq_some : v.stringAt? key = some s ↔ v.find? key = some (.str s) := by
  rw [stringAt?]
  split
  · next t h => rw [h]; simp
  · next h =>
      constructor
      · intro hs; cases hs
      · intro hs; exact absurd hs (h s)

/-- A value that is read by index is an array, or has nothing in it. -/
theorem items_of_indexed {lines : List Json} (h : v.indexed = .ok lines) : v.items = lines := by
  unfold indexed at h
  split at h
  · cases h
    rfl
  · cases h
    rfl
  · cases h
    rfl
  · cases h

theorem find?_of_atKey (h : v.atKey key = .ok x) : v.find? key = some x := by
  cases v with
  | obj entries =>
      rw [atKey] at h
      split at h
      · next y hy =>
          cases h
          exact hy
      · cases h
  | _ => cases h

theorem stringAt?_of_atString (h : v.atString key = .ok s) : v.stringAt? key = some s := by
  rcases Lib.bind_eq_ok.mp h with ⟨x, hx, hs⟩
  rw [stringAt?_eq_some, find?_of_atKey hx]
  cases x with
  | str t =>
      cases hs
      rfl
  | _ => cases hs

theorem indexString_of_find? (h : v.find? key = some (.str s)) : v.indexString key = .ok s := by
  cases v with
  | obj entries =>
      have hx : entries.lookup key = some (.str s) := h
      rw [indexString, index, hx]
      rfl
  | _ => cases h

/-- The key must be there, in an object, with a string. -/
theorem indexString_eq_ok : v.indexString key = .ok s ↔ v.stringAt? key = some s := by
  rw [stringAt?_eq_some]
  refine ⟨fun h => ?_, indexString_of_find?⟩
  cases v with
  | obj entries =>
      rw [find?]
      rw [indexString, index] at h
      cases hx : entries.lookup key with
      | none => rw [hx] at h; cases h
      | some x =>
          rw [hx] at h
          cases x with
          | str t => cases h; rfl
          | _ => cases h
  | _ => cases h

end Json

end WebrtcServer
