import CircleVault.Hash.Blake2b
import CircleVault.Settings

/-!
# Argon2id

The password-derived key function, version 0x13, with a salt of sixteen bytes and an output of
32.  Memory is a matrix of blocks of 1024 bytes: a row for each lane, cut into four slices.  Every
block is a compression of its predecessor in the lane and of another block.  In the first half of
the first pass that other block is chosen by a counter, so that the order of accesses does not
depend on the passphrase; after that it is chosen by the predecessor's content.

Lanes within a slice do not see each other's unfinished blocks, so filling them one after another
gives the matrix that filling them at the same time gives.
-/

namespace CircleVault.Argon2

open Words

/-! ## Memory blocks -/

/-- Two words, the unit in which a memory block is permuted. -/
structure Cell where
  lo : UInt64
  hi : UInt64

instance : Inhabited Cell := ⟨⟨0, 0⟩⟩

/-- A block of 1024 bytes, as eight rows of eight cells. -/
abbrev Memory := Vector Cell 64

def Memory.zero : Memory := Vector.replicate 64 ⟨0, 0⟩

def Memory.xor (a b : Memory) : Memory :=
  Vector.ofFn fun i : Fin 64 => ⟨a[i].lo ^^^ b[i].lo, a[i].hi ^^^ b[i].hi⟩

/-- Words in pairs, the last one filled up with a zero. -/
def pairs : List UInt64 → List Cell
  | lo :: hi :: rest => ⟨lo, hi⟩ :: pairs rest
  | [lo] => [⟨lo, 0⟩]
  | [] => []

/-- The block of the given bytes, filled up with zeros. -/
def Memory.ofBytes (b : Bytes) : Memory :=
  ⟨((pairs (ofBytes64 b) ++ List.replicate 64 default).take 64).toArray, by simp⟩

def Memory.toBytes (m : Memory) : Bytes :=
  m.toList.flatMap fun c => toBytes64 c.lo ++ toBytes64 c.hi

/-! ## Compression -/

/-- The sum of two words and of twice the product of their lower halves. -/
@[inline] def blend (x y : UInt64) : UInt64 :=
  x + y + 2 * ((x &&& 0xFFFFFFFF) * (y &&& 0xFFFFFFFF))

/-- Four words on their way through a mixing step. -/
structure Four where
  a : UInt64
  b : UInt64
  c : UInt64
  d : UInt64

/-- The mixing step of BLAKE2b, with `blend` for addition and without message words. -/
@[inline] def mix (a b c d : UInt64) : Four :=
  let a := blend a b
  let d := rotr64 (d ^^^ a) 32
  let c := blend c d
  let b := rotr64 (b ^^^ c) 24
  let a := blend a b
  let d := rotr64 (d ^^^ a) 16
  let c := blend c d
  let b := rotr64 (b ^^^ c) 63
  ⟨a, b, c, d⟩

/-- One round over the sixteen words of eight cells, in place. -/
def permuteCells (m : Memory) (i0 i1 i2 i3 i4 i5 i6 i7 : Fin 64) : Memory :=
  let p := mix m[i0].lo m[i2].lo m[i4].lo m[i6].lo
  let q := mix m[i0].hi m[i2].hi m[i4].hi m[i6].hi
  let r := mix m[i1].lo m[i3].lo m[i5].lo m[i7].lo
  let s := mix m[i1].hi m[i3].hi m[i5].hi m[i7].hi
  let t := mix p.a q.b r.c s.d
  let u := mix q.a r.b s.c p.d
  let v := mix r.a s.b p.c q.d
  let w := mix s.a p.b q.c r.d
  ((((((((m.set i0 ⟨t.a, u.a⟩).set i1 ⟨v.a, w.a⟩).set i2 ⟨w.b, t.b⟩).set i3 ⟨u.b, v.b⟩).set i4
    ⟨v.c, w.c⟩).set i5 ⟨t.c, u.c⟩).set i6 ⟨u.d, v.d⟩).set i7 ⟨w.d, t.d⟩)

def permuteRow (m : Memory) (r : Fin 8) : Memory :=
  let i (k : Fin 8) : Fin 64 := ⟨8 * r.val + k.val, by omega⟩
  permuteCells m (i 0) (i 1) (i 2) (i 3) (i 4) (i 5) (i 6) (i 7)

def permuteColumn (m : Memory) (c : Fin 8) : Memory :=
  let i (k : Fin 8) : Fin 64 := ⟨8 * k.val + c.val, by omega⟩
  permuteCells m (i 0) (i 1) (i 2) (i 3) (i 4) (i 5) (i 6) (i 7)

/-- Compress two blocks into one: permute the rows and then the columns of their exclusive or, and
add the exclusive or once more. -/
def compress (x y : Memory) : Memory :=
  let r := x.xor y
  let z := (List.finRange 8).foldl permuteRow r
  let z := (List.finRange 8).foldl permuteColumn z
  z.xor r

/-! ## Hashing to any length -/

/-- The first half of each of the digests in the chain that starts with `v`; the last one is taken
whole, at the length that remains. -/
def chained : Nat → Bytes → Bytes
  | size, v =>
      if size ≤ 64 then Blake2b.hash size v
      else
        let next := Blake2b.hash 64 v
        next.take 32 ++ chained (size - 32) next
termination_by size => size

def hashTo (size : Nat) (b : Bytes) : Bytes := chained size (Bytes.ofNatLE 4 size ++ b)

/-! ## The matrix -/

/-- The shape of the memory matrix. -/
structure Shape where
  passes : Nat
  lanes : Nat
  slice : Nat

namespace Shape

def lane (s : Shape) : Nat := 4 * s.slice

def blocks (s : Shape) : Nat := s.lanes * s.lane

/-- The shape for some costs: as many whole slices as the memory allows. -/
def ofCosts (c : Costs) : Shape :=
  let lanes := max 1 c.parallelism.toNat
  ⟨c.iterations.toNat, lanes, c.memoryKib.toNat / (4 * lanes)⟩

end Shape

/-- The blocks of all lanes, one lane after another. -/
abbrev Matrix := Array Memory

/-- The block at a place; the block of zeros outside the matrix. -/
@[inline] def Matrix.get (m : Matrix) (i : Nat) : Memory := m.getD i Memory.zero

/-- Where the filling stands. -/
structure Position where
  pass : Nat
  lane : Nat
  slice : Nat
  index : Nat

/-- Whether the order of accesses is fixed in advance. -/
def Position.isIndependent (p : Position) : Bool := p.pass = 0 && p.slice < 2

/-- The addresses for 128 successive blocks, in a slice whose order is fixed in advance. -/
def addresses (s : Shape) (c : Costs) (p : Position) (counter : Nat) : Memory :=
  let input : Memory :=
    Memory.ofBytes <| [p.pass, p.lane, p.slice, s.blocks, c.iterations.toNat, 2, counter].flatMap
      (Bytes.ofNatLE 8)
  compress Memory.zero (compress Memory.zero input)

/-- The word at a place of an address block. -/
def addressAt (m : Memory) (i : Nat) : UInt64 :=
  if h : i / 2 < 64 then (if i % 2 = 0 then m[i / 2].lo else m[i / 2].hi) else 0

/-- The place of the reference block that a pseudo-random word chooses: a lane, and in it one of
the blocks that are finished, with a preference for recent ones. -/
def reference (s : Shape) (p : Position) (word : UInt64) : Nat :=
  let low := (word &&& 0xFFFFFFFF).toNat
  let high := (word >>> 32).toNat
  let lane := if p.pass = 0 ∧ p.slice = 0 then p.lane else high % s.lanes
  let finished := if p.pass = 0 then p.slice * s.slice else s.lane - s.slice
  let area :=
    if lane = p.lane then finished + p.index - 1
    else if p.index = 0 then finished - 1
    else finished
  let x := low * low / Nat.pow 2 32
  let back := area * x / Nat.pow 2 32
  let relative := area - 1 - back
  let start := if p.pass = 0 then 0 else (p.slice + 1) % 4 * s.slice
  lane * s.lane + (start + relative) % s.lane

/-- Fill the rest of a slice of one lane.  `table` holds the addresses of the current 128 places
where the order is fixed in advance. -/
def fillSlice (s : Shape) (c : Costs) (p : Position) (table : Memory) (m : Matrix) : Matrix :=
  if _h : p.index < s.slice then
    let table :=
      if p.isIndependent && (p.index % 128 = 0 || (p.slice = 0 && p.index = 2)) then
        addresses s c p (p.index / 128 + 1)
      else table
    let column := p.slice * s.slice + p.index
    let here := p.lane * s.lane + column
    let before := if column = 0 then here + s.lane - 1 else here - 1
    let last := m.get before
    let word := if p.isIndependent then addressAt table (p.index % 128) else addressAt last 0
    let fresh := compress last (m.get (reference s p word))
    let block := if p.pass = 0 then fresh else fresh.xor (m.get here)
    fillSlice s c { p with index := p.index + 1 } table (m.setIfInBounds here block)
  else m
termination_by s.slice - p.index

def fillLanes (s : Shape) (c : Costs) (pass slice : Nat) (m : Matrix) : Matrix :=
  (List.range s.lanes).foldl
    (fun m lane =>
      let first := if pass = 0 ∧ slice = 0 then 2 else 0
      fillSlice s c ⟨pass, lane, slice, first⟩ Memory.zero m) m

def fill (s : Shape) (c : Costs) (m : Matrix) : Matrix :=
  (List.range s.passes).foldl
    (fun m pass => (List.range 4).foldl (fun m slice => fillLanes s c pass slice m) m) m

/-! ## Derivation -/

/-- A byte string after its length in four bytes. -/
def sized (b : Bytes) : Bytes := Bytes.ofNatLE 4 b.length ++ b

/-- The digest of all inputs. -/
def seed (c : Costs) (passphrase salt : Bytes) : Bytes :=
  Blake2b.hash 64 <|
    [c.parallelism.toNat, 32, c.memoryKib.toNat, c.iterations.toNat, 0x13, 2].flatMap
      (Bytes.ofNatLE 4) ++ sized passphrase ++ sized salt ++ sized [] ++ sized []

/-- The matrix with the first two blocks of each lane in place. -/
def start (s : Shape) (seed : Bytes) : Matrix :=
  (List.range s.lanes).foldl
    (fun m lane => (List.range 2).foldl
      (fun m i =>
        m.setIfInBounds (lane * s.lane + i)
          (Memory.ofBytes (hashTo 1024 (seed ++ Bytes.ofNatLE 4 i ++ Bytes.ofNatLE 4 lane)))) m)
    (Array.replicate s.blocks Memory.zero)

/-- The exclusive or of the last blocks of all lanes. -/
def finish (s : Shape) (m : Matrix) : Memory :=
  (List.range s.lanes).foldl (fun acc lane => acc.xor (m.get (lane * s.lane + s.lane - 1)))
    Memory.zero

/-- The key of 32 bytes derived from a passphrase and a salt. -/
def derive (kdf : KeyStretching) (passphrase : Bytes) (salt : Block 16) : Block 32 :=
  let s := Shape.ofCosts kdf.costs
  let m := fill s kdf.costs (start s (seed kdf.costs passphrase salt.toBytes))
  Block.fit 32 (hashTo 32 (finish s m).toBytes)

end CircleVault.Argon2
