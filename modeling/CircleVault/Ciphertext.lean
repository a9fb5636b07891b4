import CircleVault.Keys

/-!
# Encrypted data

A ciphertext carries the salt it was encrypted under, because the nonce is made from the salt and
every object needs its own.  A wrong key, a wrong salt and tampering cannot be told apart: all of
them leave the data unopened.
-/

namespace CircleVault

/-- How data was encrypted. -/
inductive CipherFormat where
  /-- XChaCha20-Poly1305, with a nonce derived from the salt. -/
  | xchacha20Poly1305
deriving DecidableEq, Repr

namespace CipherFormat

def name : CipherFormat → String
  | xchacha20Poly1305 => "XChaCha20Poly1305"

def number : CipherFormat → Nat
  | xchacha20Poly1305 => 1

def all : List CipherFormat := [xchacha20Poly1305]

end CipherFormat

/-- Encrypted data with the salt it was encrypted under. -/
structure Ciphertext where
  format : CipherFormat
  /-- The salt, which no other object shares. -/
  salt : Salt
  /-- The encrypted data with its authentication tag. -/
  bytes : Bytes
deriving DecidableEq

namespace Ciphertext

def encrypt (S : Suite) (key : SecretKey) (salt : Salt) (plaintext : Bytes) : Ciphertext :=
  ⟨.xchacha20Poly1305, salt, S.sealData key.bytes salt.bytes plaintext⟩

def decrypt (S : Suite) (key : SecretKey) (c : Ciphertext) : Except Failure Bytes :=
  match c.format with
  | .xchacha20Poly1305 =>
      match S.openData key.bytes c.salt.bytes c.bytes with
      | some plaintext => .ok plaintext
      | none => .error .dataUnopened

/-- The data with its salt read under another charset. -/
def reread (charset : Charset) (c : Ciphertext) : Ciphertext :=
  { c with salt := c.salt.reread charset }

end Ciphertext

end CircleVault
