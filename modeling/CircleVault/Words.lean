import CircleVault.Bytes

/-!
# Machine words

Digests and ciphers work on words of 32 and 64 bits.  This module holds what they share: how words
are made of bytes in either byte order, how they are written back, and rotation.  A rotation's
distance is between one and the word's width less one.
-/

namespace CircleVault.Words

/-! ## Rotation -/

@[inline] def rotl32 (x n : UInt32) : UInt32 := (x <<< n) ||| (x >>> (32 - n))

@[inline] def rotr32 (x n : UInt32) : UInt32 := (x >>> n) ||| (x <<< (32 - n))

@[inline] def rotr64 (x n : UInt64) : UInt64 := (x >>> n) ||| (x <<< (64 - n))

/-! ## Little-endian words -/

/-- The 32-bit words of a byte string, least significant byte first.  Bytes that do not fill a
word are dropped. -/
def ofBytes32 : Bytes → List UInt32
  | a :: b :: c :: d :: rest =>
      (a.toUInt32 ||| (b.toUInt32 <<< 8) ||| (c.toUInt32 <<< 16) ||| (d.toUInt32 <<< 24)) ::
        ofBytes32 rest
  | _ => []

def toBytes32 (w : UInt32) : Bytes :=
  [w.toUInt8, (w >>> 8).toUInt8, (w >>> 16).toUInt8, (w >>> 24).toUInt8]

/-- The 64-bit words of a byte string, least significant byte first.  Bytes that do not fill a
word are dropped. -/
def ofBytes64 : Bytes → List UInt64
  | a :: b :: c :: d :: e :: f :: g :: h :: rest =>
      (a.toUInt64 ||| (b.toUInt64 <<< 8) ||| (c.toUInt64 <<< 16) ||| (d.toUInt64 <<< 24) |||
        (e.toUInt64 <<< 32) ||| (f.toUInt64 <<< 40) ||| (g.toUInt64 <<< 48) |||
        (h.toUInt64 <<< 56)) :: ofBytes64 rest
  | _ => []

def toBytes64 (w : UInt64) : Bytes :=
  [w.toUInt8, (w >>> 8).toUInt8, (w >>> 16).toUInt8, (w >>> 24).toUInt8,
    (w >>> 32).toUInt8, (w >>> 40).toUInt8, (w >>> 48).toUInt8, (w >>> 56).toUInt8]

/-! ## Big-endian words -/

/-- The 64-bit words of a byte string, most significant byte first.  Bytes that do not fill a word
are dropped. -/
def ofBytes64BE : Bytes → List UInt64
  | a :: b :: c :: d :: e :: f :: g :: h :: rest =>
      ((a.toUInt64 <<< 56) ||| (b.toUInt64 <<< 48) ||| (c.toUInt64 <<< 40) |||
        (d.toUInt64 <<< 32) ||| (e.toUInt64 <<< 24) ||| (f.toUInt64 <<< 16) |||
        (g.toUInt64 <<< 8) ||| h.toUInt64) :: ofBytes64BE rest
  | _ => []

def toBytes64BE (w : UInt64) : Bytes := (toBytes64 w).reverse

/-! ## Words in rows -/

/-- The first `n` words of a list as a vector, with zeros where the list is too short. -/
def row {α : Type} [OfNat α 0] (n : Nat) (ws : List α) : Vector α n :=
  ⟨((ws ++ List.replicate n 0).take n).toArray, by simp⟩

/-- A row with another word at a position. -/
@[inline] def put {α : Type} {n : Nat} (ws : Vector α n) (i : Fin n) (w : α) : Vector α n :=
  ws.set i w

-- Positions in rows of eight and of sixteen words are written as numerals.  The zero is the one
-- that the numerals of `Fin` ask for.

scoped instance positions8 : @NeZero Nat Zero.ofOfNat0 8 := Nat.instNeZeroSucc

scoped instance positions16 : @NeZero Nat Zero.ofOfNat0 16 := Nat.instNeZeroSucc

end CircleVault.Words
