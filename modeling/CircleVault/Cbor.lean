import CircleVault.Text

/-!
# CBOR

The binary format of sealed keys.  An item begins with a head, which holds a kind and a number; the
number is a value, a length or a tag, in as many bytes as it needs.  Writing always takes the
shortest head and definite lengths.

Reading takes whatever the format allows: longer heads, indefinite lengths, strings in nested
pieces, tags in front of items, and integers written as byte strings under the bignum tags.  A
reader consumes one item and leaves the rest; items nested too deeply are refused.
-/

namespace CircleVault.Cbor

/-! ## Writing -/

/-- The low `n` base-256 digits of a number, most significant first. -/
def bigEndian (n v : Nat) : Bytes := (Bytes.ofNatLE n v).reverse

/-- The head of the given kind with the given number, which is below `2 ^ 64`. -/
def head (kind v : Nat) : Bytes :=
  let first (low : Nat) : UInt8 := UInt8.ofNat (32 * kind + low)
  if v < 24 then [first v]
  else if v < 256 then first 24 :: bigEndian 1 v
  else if v < 65536 then first 25 :: bigEndian 2 v
  else if v < 4294967296 then first 26 :: bigEndian 4 v
  else first 27 :: bigEndian 8 v

def number (v : Nat) : Bytes := head 0 v

def text (s : String) : Bytes := head 3 (Text.utf8 s).length ++ Text.utf8 s

/-- An array of numbers, one for each byte. -/
def byteArray (b : Bytes) : Bytes := head 4 b.length ++ b.flatMap fun x => number x.toNat

/-- The head of a map with the given number of entries. -/
def mapHead (n : Nat) : Bytes := head 5 n

/-! ## Heads -/

/-- What the head of an item says.  A length is absent where the item ends with a break. -/
inductive Head where
  | positive (v : Nat)
  /-- The number `-1 - v`. -/
  | negative (v : Nat)
  | bytes (length : Option Nat)
  | text (length : Option Nat)
  | array (length : Option Nat)
  | map (length : Option Nat)
  | tag (v : Nat)
  | simple (v : Nat)
  | float
  | stop
deriving DecidableEq

/-- A number of `n` bytes, most significant first. -/
def readBigEndian? (n : Nat) (b : Bytes) : Option (Nat × Bytes) :=
  if n ≤ b.length then some (Bytes.toNatLE (b.take n).reverse, b.drop n) else none

/-- The number of a head, given the low five bits of its first byte; absent for an indefinite
length. -/
def readNumber? (low : Nat) (b : Bytes) : Option (Option Nat × Bytes) :=
  let sized (n : Nat) := (readBigEndian? n b).map fun (v, rest) => (some v, rest)
  if low < 24 then some (some low, b)
  else if low = 24 then sized 1
  else if low = 25 then sized 2
  else if low = 26 then sized 4
  else if low = 27 then sized 8
  else if low = 31 then some (none, b)
  else none

/-- The head made of a kind, the low five bits of its first byte, and its number. -/
def Head.make? (kind low : Nat) (v : Option Nat) : Option Head :=
  match kind, v with
  | 0, some v => some (.positive v)
  | 1, some v => some (.negative v)
  | 2, v => some (.bytes v)
  | 3, v => some (.text v)
  | 4, v => some (.array v)
  | 5, v => some (.map v)
  | 6, some v => some (.tag v)
  | 7, some v => some (if low ≤ 24 then .simple v else .float)
  | 7, none => some .stop
  | _, _ => none

def Head.read? : Bytes → Option (Head × Bytes)
  | [] => none
  | x :: b => do
      let low := x.toNat % 32
      let (v, rest) ← readNumber? low b
      let h ← make? (x.toNat / 32) low v
      some (h, rest)

/-! ## Strings -/

inductive StringKind where
  | bytes
  | text
deriving DecidableEq

/-- The length in a head, if it is the head of a string of this kind. -/
def StringKind.length? : StringKind → Head → Option (Option Nat)
  | bytes, .bytes n => some n
  | text, .text n => some n
  | _, _ => none

/-- Whether some bytes may be a piece of a string of this kind. -/
def StringKind.admits : StringKind → Bytes → Bool
  | bytes, _ => true
  | text, b => (Text.ofUtf8? b).isSome

/-- A piece of a string, of a definite length. -/
def piece? (kind : StringKind) (n : Nat) (b : Bytes) : Option (Bytes × Bytes) :=
  if n ≤ b.length ∧ kind.admits (b.take n) then some (b.take n, b.drop n) else none

/-- The pieces of a string of indefinite length, `level` of which have been begun and not ended. -/
def pieces? (kind : StringKind) : Nat → Nat → Bytes → Option (Bytes × Bytes)
  | 0, _, _ => none
  | fuel + 1, level, b => do
      let (h, rest) ← Head.read? b
      if h = .stop then
        if level ≤ 1 then some ([], rest) else pieces? kind fuel (level - 1) rest
      else
        match ← kind.length? h with
        | none => pieces? kind fuel (level + 1) rest
        | some n =>
            let (first, rest) ← piece? kind n rest
            let (others, rest) ← pieces? kind fuel level rest
            some (first ++ others, rest)

/-- The content of a string whose head has been read. -/
def string? (kind : StringKind) (length : Option Nat) (b : Bytes) : Option (Bytes × Bytes) :=
  match length with
  | some n => piece? kind n b
  | none => pieces? kind (b.length + 1) 1 b

/-! ## Integers -/

/-- The number behind a bignum tag: a byte string, most significant byte first, of at most sixteen
bytes after leading zeros. -/
def bignum? (b : Bytes) : Option (Nat × Bytes) := do
  let (h, rest) ← Head.read? b
  let length ← StringKind.bytes.length? h
  let (digits, rest) ← string? .bytes length rest
  let digits := digits.dropWhile (· = 0)
  if digits.length ≤ 16 then some (Bytes.toNatLE digits.reverse, rest) else none

/-- An integer, with any tags in front of it. -/
def integer? : Nat → Bytes → Option (Int × Bytes)
  | 0, _ => none
  | fuel + 1, b => do
      let (h, rest) ← Head.read? b
      match h with
      | .positive v => some ((v : Int), rest)
      | .negative v => some (-1 - (v : Int), rest)
      | .tag 2 => (bignum? rest).map fun (v, rest) => ((v : Int), rest)
      | .tag 3 => (bignum? rest).map fun (v, rest) => (-1 - (v : Int), rest)
      | .tag _ => integer? fuel rest
      | _ => none

def byte? (b : Bytes) : Option (UInt8 × Bytes) := do
  let (v, rest) ← integer? (b.length + 1) b
  if 0 ≤ v ∧ v < 256 then some (UInt8.ofNat v.toNat, rest) else none

/-! ## Sequences of bytes -/

/-- Leave out any tags in front of an item, and read its head. -/
def untagged? : Nat → Bytes → Option (Head × Bytes)
  | 0, _ => none
  | fuel + 1, b => do
      let (h, rest) ← Head.read? b
      match h with
      | .tag _ => untagged? fuel rest
      | _ => some (h, rest)

/-- Whether an array or a map goes on: an item less than before where the length is definite, and
no break where it is not. -/
def next? (length : Option Nat) (b : Bytes) : Option (Option (Option Nat) × Bytes) :=
  match length with
  | some 0 => some (none, b)
  | some (n + 1) => some (some (some n), b)
  | none => do
      let (h, rest) ← Head.read? b
      if h = .stop then some (none, rest) else some (some none, b)

/-- All bytes of an array. -/
def allBytes? : Nat → Option Nat → Bytes → Option (Bytes × Bytes)
  | 0, _, _ => none
  | fuel + 1, length, b => do
      let (more, b) ← next? length b
      match more with
      | none => some ([], b)
      | some length =>
          let (x, b) ← byte? b
          let (xs, b) ← allBytes? fuel length b
          some (x :: xs, b)

/-- The first `n` bytes of an array.  What is left of the array is not passed over. -/
def someBytes? : Nat → Option Nat → Bytes → Option (Bytes × Bytes)
  | 0, _, b => some ([], b)
  | n + 1, length, b => do
      let (more, b) ← next? length b
      let length ← more
      let (x, b) ← byte? b
      let (xs, b) ← someBytes? n length b
      some (x :: xs, b)

/-- A sequence of bytes of any length, as an array of numbers or as a byte string. -/
def bytes? (b : Bytes) : Option (Bytes × Bytes) := do
  let (h, rest) ← untagged? (b.length + 1) b
  match h with
  | .array length => allBytes? (rest.length + 1) length rest
  | .bytes length => string? .bytes length rest
  | _ => none

/-- A sequence that begins with `n` bytes, as an array of numbers or as a byte string. -/
def block? (n : Nat) (b : Bytes) : Option (Block n × Bytes) := do
  let (h, rest) ← untagged? (b.length + 1) b
  let (xs, rest) ← match h with
    | .array length => someBytes? n length rest
    | .bytes length => string? .bytes length rest
    | _ => none
  let k ← Block.ofBytes? n (xs.take n)
  some (k, rest)

/-! ## Keys and items to pass over -/

/-- The greatest length of a key. -/
def maxKeyLength : Nat := 4096

/-- The bytes of a map's key, which is a text or a byte string of a definite length. -/
def key? (b : Bytes) : Option (Bytes × Bytes) := do
  let (h, rest) ← untagged? (b.length + 1) b
  match h with
  | .text (some n) => if n ≤ maxKeyLength then piece? .text n rest else none
  | .bytes (some n) => if n ≤ maxKeyLength then piece? .bytes n rest else none
  | _ => none

/-- Pass over the items of an array, or, with `step` passing over two, the entries of a map. -/
def skipMany? (step : Bytes → Option Bytes) : Nat → Option Nat → Bytes → Option Bytes
  | 0, _, _ => none
  | fuel + 1, length, b => do
      let (more, b) ← next? length b
      match more with
      | none => some b
      | some length => skipMany? step fuel length (← step b)

/-- Pass over the item behind a tag, given how to pass over an item in another, if there may be one.
Under a bignum tag, a byte string of a definite length of at most sixteen bytes is a number rather
than an item of its own, and no number below `-2 ^ 127` is admitted.  All else behind a tag is an
item in the tagged one. -/
def skipTagged? (inner : Option (Bytes → Option Bytes)) (tag : Nat) (b : Bytes) :
    Option Bytes := do
  let (h, rest) ← Head.read? b
  match h with
  | .bytes (some n) =>
      if (tag = 2 ∨ tag = 3) ∧ n ≤ 16 then
        let (v, rest) ← readBigEndian? n rest
        if tag = 3 ∧ Nat.pow 2 127 ≤ v then none else some rest
      else (← inner) b
  | _ => (← inner) b

/-- Pass over an item, given how to pass over the items in it, if it may have any. -/
def skipWith? (inner : Option (Bytes → Option Bytes)) (b : Bytes) : Option Bytes := do
  let (h, rest) ← Head.read? b
  match h with
  | .positive _ | .negative _ | .float => some rest
  | .bytes length => (string? .bytes length rest).map Prod.snd
  | .text length => (string? .text length rest).map Prod.snd
  | .array length => skipMany? (← inner) (rest.length + 1) length rest
  | .map length =>
      let step ← inner
      skipMany? (fun b => step b >>= step) (rest.length + 1) length rest
  | .tag v => skipTagged? inner v rest
  | .simple v => if 20 ≤ v ∧ v ≤ 23 then some rest else none
  | .stop => none

/-- Pass over an item that is nested to at most `depth` levels. -/
def skip? : Nat → Bytes → Option Bytes
  | 0 => skipWith? none
  | depth + 1 => skipWith? (some (skip? depth))

end CircleVault.Cbor
