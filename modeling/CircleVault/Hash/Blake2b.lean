import CircleVault.Words

/-!
# BLAKE2b

The digest inside Argon2id, with a variable output of up to 64 bytes and without a key.  Input is
cut into blocks of 128 bytes, and twelve rounds mix each block into a state of sixteen words.
-/

namespace CircleVault.Blake2b

open Words

abbrev Chain := Vector UInt64 8

/-- The sixteen words of a message block or of a compression state. -/
abbrev Words16 := Vector UInt64 16

def iv : Chain :=
  #v[0x6a09e667f3bcc908, 0xbb67ae8584caa73b, 0x3c6ef372fe94f82b, 0xa54ff53a5f1d36f1,
    0x510e527fade682d1, 0x9b05688c2b3e6c1f, 0x1f83d9abfb41bd6b, 0x5be0cd19137e2179]

/-- The order of the message words, for each of the twelve rounds. -/
def schedule : List (Vector (Fin 16) 16) :=
  [#v[0, 1, 2, 3, 4, 5, 6, 7, 8, 9, 10, 11, 12, 13, 14, 15],
    #v[14, 10, 4, 8, 9, 15, 13, 6, 1, 12, 0, 2, 11, 7, 5, 3],
    #v[11, 8, 12, 0, 5, 2, 15, 13, 10, 14, 3, 6, 7, 1, 9, 4],
    #v[7, 9, 3, 1, 13, 12, 11, 14, 2, 6, 5, 10, 4, 0, 15, 8],
    #v[9, 0, 5, 7, 2, 4, 10, 15, 14, 1, 11, 12, 6, 8, 3, 13],
    #v[2, 12, 6, 10, 0, 11, 8, 3, 4, 13, 7, 5, 15, 14, 1, 9],
    #v[12, 5, 1, 15, 14, 13, 4, 10, 0, 7, 6, 3, 9, 2, 8, 11],
    #v[13, 11, 7, 14, 12, 1, 3, 9, 5, 0, 15, 4, 8, 6, 2, 10],
    #v[6, 15, 14, 9, 11, 3, 0, 8, 12, 2, 13, 7, 1, 4, 10, 5],
    #v[10, 2, 8, 4, 7, 6, 1, 5, 15, 11, 9, 14, 3, 12, 13, 0],
    #v[0, 1, 2, 3, 4, 5, 6, 7, 8, 9, 10, 11, 12, 13, 14, 15],
    #v[14, 10, 4, 8, 9, 15, 13, 6, 1, 12, 0, 2, 11, 7, 5, 3]]

/-- Mix two message words into four words of the state. -/
@[inline] def mix (s : Words16) (a b c d : Fin 16) (x y : UInt64) : Words16 :=
  let va := s.get a + s.get b + x
  let vd := rotr64 (s.get d ^^^ va) 32
  let vc := s.get c + vd
  let vb := rotr64 (s.get b ^^^ vc) 24
  let va := va + vb + y
  let vd := rotr64 (vd ^^^ va) 16
  let vc := vc + vd
  let vb := rotr64 (vb ^^^ vc) 63
  put (put (put (put s a va) b vb) c vc) d vd

/-- Mix a message block into the columns and then the diagonals of the state. -/
def round (m : Words16) (s : Words16) (order : Vector (Fin 16) 16) : Words16 :=
  let s := mix s 0 4 8 12 (m.get (order.get 0)) (m.get (order.get 1))
  let s := mix s 1 5 9 13 (m.get (order.get 2)) (m.get (order.get 3))
  let s := mix s 2 6 10 14 (m.get (order.get 4)) (m.get (order.get 5))
  let s := mix s 3 7 11 15 (m.get (order.get 6)) (m.get (order.get 7))
  let s := mix s 0 5 10 15 (m.get (order.get 8)) (m.get (order.get 9))
  let s := mix s 1 6 11 12 (m.get (order.get 10)) (m.get (order.get 11))
  let s := mix s 2 7 8 13 (m.get (order.get 12)) (m.get (order.get 13))
  mix s 3 4 9 14 (m.get (order.get 14)) (m.get (order.get 15))

/-- Compress a block, given how many bytes of input end with it and whether it is the last. -/
def compress (h : Chain) (block : Bytes) (seen : Nat) (last : Bool) : Chain :=
  let m : Words16 := row 16 (ofBytes64 (block ++ List.replicate (128 - block.length) 0))
  let final : UInt64 := if last then 0xFFFFFFFFFFFFFFFF else 0
  let s : Words16 :=
    #v[h.get 0, h.get 1, h.get 2, h.get 3, h.get 4, h.get 5, h.get 6, h.get 7,
      iv.get 0, iv.get 1, iv.get 2, iv.get 3, iv.get 4 ^^^ seen.toUInt64,
      iv.get 5 ^^^ (seen / Nat.pow 2 64).toUInt64, iv.get 6 ^^^ final, iv.get 7]
  let s := schedule.foldl (round m) s
  Vector.ofFn fun i : Fin 8 => h.get i ^^^ s[i.val] ^^^ s[i.val + 8]

/-- The blocks in turn, given how many bytes went before them. -/
def absorb (h : Chain) (seen : Nat) : List Bytes → Chain
  | [] => compress h [] seen true
  | [b] => compress h b (seen + b.length) true
  | b :: rest => absorb (compress h b (seen + 128) false) (seen + 128) rest

/-- The digest of a byte string, of a size from one to 64 bytes. -/
def hash (size : Nat) (b : Bytes) : Bytes :=
  let start := put iv 0 (iv.get 0 ^^^ 0x01010000 ^^^ size.toUInt64)
  ((absorb start 0 (Bytes.pieces 128 b)).toList.flatMap toBytes64).take size

end CircleVault.Blake2b
