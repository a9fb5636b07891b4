import CircleVault.Cipher.ChaCha20
import CircleVault.Cipher.Poly1305

/-!
# Authenticated encryption

ChaCha20-Poly1305 and its variant with a nonce of 24 bytes.  A sealed byte string is the
ciphertext followed by a tag of sixteen bytes; it opens only under the key and nonce that it was
sealed with, and only unchanged.  No further data is authenticated.
-/

namespace CircleVault.Aead

/-- The one-time key of the authenticator: the start of the key stream. -/
def tagKey (key : Block 32) (nonce : Block 12) : Block 32 :=
  Block.fit 32 (ChaCha20.block key nonce 0).toBytes

/-- What the tag is computed over: the ciphertext filled up to whole pieces of sixteen bytes, and
the lengths of the further data and of the ciphertext. -/
def authenticated (ciphertext : Bytes) : Bytes :=
  ciphertext ++ List.replicate ((16 - ciphertext.length % 16) % 16) 0 ++ Bytes.ofNatLE 8 0 ++
    Bytes.ofNatLE 8 ciphertext.length

def tag (key : Block 32) (nonce : Block 12) (ciphertext : Bytes) : Bytes :=
  (Poly1305.tag (tagKey key nonce) (authenticated ciphertext)).toBytes

/-- Encrypt, and append the tag. -/
def sealBytes (key : Block 32) (nonce : Block 12) (plaintext : Bytes) : Bytes :=
  let ciphertext := ChaCha20.crypt key nonce 1 plaintext
  ciphertext ++ tag key nonce ciphertext

/-- Check the tag, and decrypt. -/
def openBytes (key : Block 32) (nonce : Block 12) (sealed : Bytes) : Option Bytes :=
  let n := sealed.length - 16
  let ciphertext := sealed.take n
  if 16 ≤ sealed.length ∧ sealed.drop n = tag key nonce ciphertext then
    some (ChaCha20.crypt key nonce 1 ciphertext)
  else none

/-- The key that the long-nonce variant works with. -/
def longKey (key : Block 32) (nonce : Block 24) : Block 32 :=
  ChaCha20.subkey key (Block.fit 16 nonce.toBytes)

/-- The nonce that the long-nonce variant works with. -/
def longNonce (nonce : Block 24) : Block 12 :=
  Block.fit 12 (List.replicate 4 0 ++ nonce.toBytes.drop 16)

def sealLong (key : Block 32) (nonce : Block 24) (plaintext : Bytes) : Bytes :=
  sealBytes (longKey key nonce) (longNonce nonce) plaintext

def openLong (key : Block 32) (nonce : Block 24) (sealed : Bytes) : Option Bytes :=
  openBytes (longKey key nonce) (longNonce nonce) sealed

end CircleVault.Aead
