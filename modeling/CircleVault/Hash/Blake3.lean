import CircleVault.Words

/-!
# BLAKE3

The digest of content and the derivation of nonces and wrap keys.  Input is cut into chunks of
1024 bytes; each chunk is compressed block by block into a chaining value, and chaining values are
combined in a binary tree whose left subtrees are complete.  The last compression, at the root,
yields the digest.

Derivation runs the same function twice: once over the context string, and then over the key
material with the first digest as the chaining value.
-/

namespace CircleVault.Blake3

open Words

abbrev Chain := Vector UInt32 8

/-- The sixteen words of a message block or of a compression state. -/
abbrev Words16 := Vector UInt32 16

/-- The initial chaining value of plain hashing. -/
def iv : Chain :=
  #v[0x6A09E667, 0xBB67AE85, 0x3C6EF372, 0xA54FF53A, 0x510E527F, 0x9B05688C, 0x1F83D9AB,
    0x5BE0CD19]

/-! ## Domain flags -/

def chunkStart : UInt32 := 1

def chunkEnd : UInt32 := 2

/-- The flag of a tree node above the chunks. -/
def parent : UInt32 := 4

/-- The flag of the last compression. -/
def root : UInt32 := 8

def deriveContext : UInt32 := 32

def deriveMaterial : UInt32 := 64

/-! ## Compression -/

/-- Mix two message words into four words of the state. -/
@[inline] def mix (s : Words16) (a b c d : Fin 16) (x y : UInt32) : Words16 :=
  let va := s.get a + s.get b + x
  let vd := rotr32 (s.get d ^^^ va) 16
  let vc := s.get c + vd
  let vb := rotr32 (s.get b ^^^ vc) 12
  let va := va + vb + y
  let vd := rotr32 (vd ^^^ va) 8
  let vc := vc + vd
  let vb := rotr32 (vb ^^^ vc) 7
  put (put (put (put s a va) b vb) c vc) d vd

/-- Mix a message block into the columns and then the diagonals of the state. -/
def round (s m : Words16) : Words16 :=
  let s := mix s 0 4 8 12 (m.get 0) (m.get 1)
  let s := mix s 1 5 9 13 (m.get 2) (m.get 3)
  let s := mix s 2 6 10 14 (m.get 4) (m.get 5)
  let s := mix s 3 7 11 15 (m.get 6) (m.get 7)
  let s := mix s 0 5 10 15 (m.get 8) (m.get 9)
  let s := mix s 1 6 11 12 (m.get 10) (m.get 11)
  let s := mix s 2 7 8 13 (m.get 12) (m.get 13)
  mix s 3 4 9 14 (m.get 14) (m.get 15)

/-- The order in which a round's message words are taken by the next round. -/
def permute (m : Words16) : Words16 :=
  #v[m.get 2, m.get 6, m.get 3, m.get 10, m.get 7, m.get 0, m.get 4, m.get 13,
    m.get 1, m.get 11, m.get 12, m.get 5, m.get 9, m.get 14, m.get 15, m.get 8]

/-- `n` rounds, with the message words permuted in between. -/
def rounds : Nat → Words16 → Words16 → Words16
  | 0, s, _ => s
  | n + 1, s, m => rounds n (round s m) (permute m)

/-- One compression, as far as it is chained. -/
def compress (cv : Chain) (m : Words16) (counter : UInt64) (size flags : UInt32) : Chain :=
  let s : Words16 :=
    #v[cv.get 0, cv.get 1, cv.get 2, cv.get 3, cv.get 4, cv.get 5, cv.get 6, cv.get 7,
      iv.get 0, iv.get 1, iv.get 2, iv.get 3,
      counter.toUInt32, (counter >>> 32).toUInt32, size, flags]
  let s := rounds 7 s m
  #v[s.get 0 ^^^ s.get 8, s.get 1 ^^^ s.get 9, s.get 2 ^^^ s.get 10, s.get 3 ^^^ s.get 11,
    s.get 4 ^^^ s.get 12, s.get 5 ^^^ s.get 13, s.get 6 ^^^ s.get 14, s.get 7 ^^^ s.get 15]

/-- The words of a block of at most 64 bytes, filled up with zeros. -/
def blockWords (b : Bytes) : Words16 := row 16 (ofBytes32 (b ++ List.replicate (64 - b.length) 0))

/-- A compression that has been prepared but not carried out, because only its place in the tree
decides whether it is the last one. -/
structure Pending where
  cv : Chain
  message : Words16
  /-- The number of the chunk; zero above the chunks. -/
  counter : UInt64
  size : UInt32
  flags : UInt32

/-- The chaining value, where the compression is not the last one. -/
def Pending.chain (p : Pending) : Chain := compress p.cv p.message p.counter p.size p.flags

/-- The digest, where the compression is the last one. -/
def Pending.digest (p : Pending) : Chain :=
  compress p.cv p.message 0 p.size (p.flags ||| root)

/-- The blocks of a chunk in turn, up to the last compression. -/
def chunkBlocks (counter : UInt64) (flags start : UInt32) (cv : Chain) : List Bytes → Pending
  | [] => ⟨cv, blockWords [], counter, 0, flags ||| start ||| chunkEnd⟩
  | [b] => ⟨cv, blockWords b, counter, b.length.toUInt32, flags ||| start ||| chunkEnd⟩
  | b :: rest =>
      chunkBlocks counter flags 0 (compress cv (blockWords b) counter 64 (flags ||| start)) rest

/-- A chunk of at most 1024 bytes. -/
def chunk (key : Chain) (flags : UInt32) (counter : UInt64) (b : Bytes) : Pending :=
  chunkBlocks counter flags chunkStart key (Bytes.pieces 64 b)

/-- The greatest power of two that is less than `n`, for `n` of at least two. -/
def leftSize (n : Nat) : Nat := Nat.pow 2 (Nat.log2 (n - 1))

/-- The tree over some chunks, the first of which has the given number.  The fuel bounds the
tree's depth. -/
def tree (key : Chain) (flags : UInt32) : Nat → Nat → List Bytes → Pending
  | 0, counter, chunks => chunk key flags counter.toUInt64 (chunks.headD [])
  | _ + 1, counter, [] => chunk key flags counter.toUInt64 []
  | _ + 1, counter, [b] => chunk key flags counter.toUInt64 b
  | fuel + 1, counter, chunks =>
      let n := leftSize chunks.length
      let left := (tree key flags fuel counter (chunks.take n)).chain
      let right := (tree key flags fuel (counter + n) (chunks.drop n)).chain
      ⟨key, row 16 (left.toList ++ right.toList), 0, 64, flags ||| parent⟩

/-- The digest of a byte string under a key and flags. -/
def digest (key : Chain) (flags : UInt32) (b : Bytes) : Chain :=
  let chunks := Bytes.pieces 1024 b
  (tree key flags (Nat.log2 chunks.length + 1) 0 chunks).digest

def chainBytes (cv : Chain) : Block 32 := Block.fit 32 (cv.toList.flatMap toBytes32)

def hash (b : Bytes) : Block 32 := chainBytes (digest iv 0 b)

/-- A key of 32 bytes derived from key material for the purpose that the context names. -/
def derive (context material : Bytes) : Block 32 :=
  chainBytes (digest (digest iv deriveContext context) deriveMaterial material)

end CircleVault.Blake3
