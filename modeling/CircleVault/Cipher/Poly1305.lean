import CircleVault.Bytes

/-!
# Poly1305

The one-time authenticator.  A message is read as the coefficients of a polynomial, sixteen bytes
to a coefficient; the tag is the polynomial's value at a secret point, modulo `2 ^ 130 - 5`, plus
a second secret.
-/

namespace CircleVault.Poly1305

def modulus : Nat := Nat.pow 2 130 - 5

/-- The bits of the secret point that may be set. -/
def clamp : Nat := 0x0FFFFFFC0FFFFFFC0FFFFFFC0FFFFFFF

/-- The coefficient of at most sixteen bytes: their number with a one bit above it. -/
def coefficient (b : Bytes) : Nat := Bytes.toNatLE b + Nat.pow 2 (8 * b.length)

/-- The tag of a message under a one-time key. -/
def tag (key : Block 32) (message : Bytes) : Block 16 :=
  let point := Bytes.toNatLE (key.toBytes.take 16) &&& clamp
  let offset := Bytes.toNatLE (key.toBytes.drop 16)
  let value := (Bytes.pieces 16 message).foldl
    (fun acc b => (acc + coefficient b) * point % modulus) 0
  Block.ofNatLE 16 (value + offset)

end CircleVault.Poly1305
