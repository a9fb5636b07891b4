/-!
# Byte strings

Keys, salts, identifiers, ciphertexts and encodings are all byte strings.  A byte string is a
list of bytes, so every statement about a record or an encoding is a statement about lists, and
a `Block n` is a byte string that is exactly `n` bytes long.

Two readings of a byte string recur: as hexadecimal text (`Bytes.toHex`, `Bytes.ofHex?`) and as
a number, least significant byte first (`Bytes.toNatLE`, `Bytes.ofNatLE`).
-/

namespace CircleVault

abbrev Bytes := List UInt8

namespace Bytes

/-! ## Hexadecimal text -/

/-- The lower-case hexadecimal digit of a value below sixteen. -/
def hexDigit (v : Nat) : Char :=
  if v < 10 then Char.ofNat (48 + v) else Char.ofNat (87 + v)

/-- The value of a hexadecimal digit of either case. -/
def hexValue? (c : Char) : Option Nat :=
  if '0' ≤ c ∧ c ≤ '9' then some (c.toNat - 48)
  else if 'a' ≤ c ∧ c ≤ 'f' then some (c.toNat - 87)
  else if 'A' ≤ c ∧ c ≤ 'F' then some (c.toNat - 55)
  else none

/-- Two lower-case digits for each byte, high half first. -/
def hexDigits (b : Bytes) : List Char :=
  b.flatMap fun x => [hexDigit (x.toNat / 16), hexDigit (x.toNat % 16)]

def toHex (b : Bytes) : String := String.ofList (hexDigits b)

/-- The bytes written as pairs of hexadecimal digits, where nothing else is written. -/
def ofHexDigits? : List Char → Option Bytes
  | [] => some []
  | h :: l :: rest => do
      let hi ← hexValue? h
      let lo ← hexValue? l
      let bytes ← ofHexDigits? rest
      return UInt8.ofNat (16 * hi + lo) :: bytes
  | [_] => none

def ofHex? (text : String) : Option Bytes := ofHexDigits? text.toList

/-! ## Numbers -/

/-- The number whose base-256 digits, least significant first, are the bytes. -/
def toNatLE (b : Bytes) : Nat := b.foldr (fun x acc => x.toNat + 256 * acc) 0

/-- The `n` lowest base-256 digits of a number, least significant first. -/
def ofNatLE : Nat → Nat → Bytes
  | 0, _ => []
  | n + 1, v => UInt8.ofNat (v % 256) :: ofNatLE n (v / 256)

@[simp] theorem length_ofNatLE (n v : Nat) : (ofNatLE n v).length = n := by
  induction n generalizing v with
  | zero => rfl
  | succ n ih => simp [ofNatLE, ih]

/-! ## Combination and division -/

/-- The bytewise exclusive or, as long as the shorter operand. -/
def xor (a b : Bytes) : Bytes := List.zipWith (· ^^^ ·) a b

/-- Consecutive pieces of `n` bytes, the last one possibly shorter.  A piece size of zero counts
as one. -/
def pieces (n : Nat) (b : Bytes) : List Bytes :=
  if b = [] then []
  else b.take (max n 1) :: pieces n (b.drop (max n 1))
termination_by b.length
decreasing_by
  have : b.length ≠ 0 := by simpa using ‹¬b = []›
  simp only [List.length_drop]
  omega

end Bytes

/-! ## Byte strings of a fixed length -/

/-- A byte string of exactly `n` bytes. -/
structure Block (n : Nat) where
  toBytes : Bytes
  length_eq : toBytes.length = n
deriving DecidableEq

namespace Block

variable {n : Nat}

/-- The byte string as a block, if it has the right length. -/
def ofBytes? (n : Nat) (b : Bytes) : Option (Block n) :=
  if h : b.length = n then some ⟨b, h⟩ else none

/-- The first `n` bytes, with zeros appended where there are fewer. -/
def fit (n : Nat) (b : Bytes) : Block n :=
  ⟨(b ++ List.replicate n 0).take n, by simp⟩

def zero (n : Nat) : Block n := ⟨List.replicate n 0, by simp⟩

instance : Inhabited (Block n) := ⟨zero n⟩

@[ext] theorem ext {a b : Block n} (h : a.toBytes = b.toBytes) : a = b := by
  cases a; cases b; simp_all

@[simp] theorem length_toBytes (b : Block n) : b.toBytes.length = n := b.length_eq

@[simp] theorem ofBytes?_toBytes (b : Block n) : ofBytes? n b.toBytes = some b := by
  simp [ofBytes?]

def toHex (b : Block n) : String := Bytes.toHex b.toBytes

/-- The number whose base-256 digits, least significant first, are the bytes. -/
def toNatLE (b : Block n) : Nat := Bytes.toNatLE b.toBytes

/-- The `n` lowest base-256 digits of a number, least significant first. -/
def ofNatLE (n v : Nat) : Block n := ⟨Bytes.ofNatLE n v, Bytes.length_ofNatLE n v⟩

end Block

end CircleVault
