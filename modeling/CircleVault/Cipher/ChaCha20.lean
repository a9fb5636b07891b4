import CircleVault.Words

/-!
# ChaCha20

The stream cipher under both authenticated ciphers.  A key stream is made of blocks of 64 bytes,
each a permutation of a state that holds the key, a nonce and the block's number; encryption and
decryption are the exclusive or with it (`crypt`).  The same permutation, without the final
addition, derives the keys of the variant with a long nonce (`subkey`).
-/

namespace CircleVault.ChaCha20

open Words

abbrev State := Vector UInt32 16

/-- Four additions, exclusive ors and rotations over four words of the state. -/
@[inline] def quarter (s : State) (a b c d : Fin 16) : State :=
  let va := s.get a + s.get b
  let vd := rotl32 (s.get d ^^^ va) 16
  let vc := s.get c + vd
  let vb := rotl32 (s.get b ^^^ vc) 12
  let va := va + vb
  let vd := rotl32 (vd ^^^ va) 8
  let vc := vc + vd
  let vb := rotl32 (vb ^^^ vc) 7
  put (put (put (put s a va) b vb) c vc) d vd

/-- A round over the columns and one over the diagonals. -/
def doubleRound (s : State) : State :=
  let s := quarter s 0 4 8 12
  let s := quarter s 1 5 9 13
  let s := quarter s 2 6 10 14
  let s := quarter s 3 7 11 15
  let s := quarter s 0 5 10 15
  let s := quarter s 1 6 11 12
  let s := quarter s 2 7 8 13
  quarter s 3 4 9 14

def permute (s : State) : State := Nat.repeat doubleRound 10 s

/-- The state before the rounds: four constant words, the key, and four words of input. -/
def start (key : Block 32) (input : List UInt32) : State :=
  row 16 ([0x61707865, 0x3320646e, 0x79622d32, 0x6b206574] ++ ofBytes32 key.toBytes ++ input)

def block (key : Block 32) (nonce : Block 12) (counter : UInt32) : Block 64 :=
  let s := start key (counter :: ofBytes32 nonce.toBytes)
  let t := permute s
  Block.fit 64 ((List.finRange 16).flatMap fun i => toBytes32 (s.get i + t.get i))

/-- At least `n` bytes of the key stream, from the given block on. -/
def stream (key : Block 32) (nonce : Block 12) (counter : UInt32) (n : Nat) : Bytes :=
  (List.range (n / 64 + 1)).flatMap fun i => (block key nonce (counter + i.toUInt32)).toBytes

/-- The exclusive or of a byte string with the key stream. -/
def crypt (key : Block 32) (nonce : Block 12) (counter : UInt32) (b : Bytes) : Bytes :=
  Bytes.xor b (stream key nonce counter b.length)

/-- A key derived from a key and sixteen bytes. -/
def subkey (key : Block 32) (input : Block 16) : Block 32 :=
  let t := permute (start key (ofBytes32 input.toBytes))
  Block.fit 32 ([t.get 0, t.get 1, t.get 2, t.get 3, t.get 12, t.get 13, t.get 14, t.get 15].flatMap
    toBytes32)

end CircleVault.ChaCha20
