import CircleVault.Curve.Edwards
import CircleVault.Hash.Sha512

/-!
# Signatures

Ed25519.  A private key is a seed of 32 bytes; its digest yields the secret scalar and a prefix
from which each signature's nonce is made, so signing draws nothing at random.

A public key is whatever bytes read as a point, points of small order included.  Verification
requires the second half of the signature to be below the group's order, recomputes the first half
and compares it byte by byte.
-/

namespace CircleVault.Curve.Ed25519

/-- The first half of a seed's digest, as it is used in key agreement. -/
def scalarBytes (seed : Block 32) : Block 32 := Block.fit 32 (Sha512.hash seed.toBytes).toBytes

/-- The second half of a seed's digest. -/
def noncePart (seed : Block 32) : Bytes := (Sha512.hash seed.toBytes).toBytes.drop 32

/-- The secret scalar: its lowest three bits are cleared, the highest is cleared and the one below
it set. -/
def scalar (seed : Block 32) : Nat :=
  (scalarBytes seed).toNatLE % Nat.pow 2 254 / 8 * 8 + Nat.pow 2 254

def publicOf (seed : Block 32) : Block 32 := (Point.base.smul (scalar seed % Point.order)).write

def isPublic (key : Block 32) : Bool := (Point.read? key).isSome

/-- The `u` coordinate of a public key on the Montgomery form of the curve; zero for the neutral
point. -/
def toMontgomery (key : Block 32) : Block 32 :=
  match Point.read? key with
  | none => .zero 32
  | some a =>
      let y := a.y
      Block.ofNatLE 32 (Field.mul (Field.add 1 y) (Field.inv (Field.sub 1 y)))

def scalarOfDigest (b : Bytes) : Nat := (Sha512.hash b).toNatLE % Point.order

def sign (seed : Block 32) (message : Bytes) : Block 64 :=
  let a := scalar seed
  let key := (publicOf seed).toBytes
  let r := scalarOfDigest (noncePart seed ++ message)
  let first := (Point.base.smul r).write.toBytes
  let k := scalarOfDigest (first ++ key ++ message)
  Block.fit 64 (first ++ Bytes.ofNatLE 32 ((r + k * a) % Point.order))

/-- Whether a signature is a key's signature of a message. -/
def verify (key : Block 32) (message : Bytes) (signature : Block 64) : Bool :=
  match Point.read? key with
  | none => false
  | some a =>
      let first := signature.toBytes.take 32
      let s := Bytes.toNatLE (signature.toBytes.drop 32)
      let k := scalarOfDigest (first ++ key.toBytes ++ message)
      decide (s < Point.order) &&
        decide (((Point.base.smul s).add (a.neg.smul k)).write.toBytes = first)

end CircleVault.Curve.Ed25519
