import CircleVault.Proofs.Sealing
import CircleVault.Suite.Standard

/-!
# The standard suite opens what it seals

The ciphers of `Suite.standard` are ChaCha20-Poly1305 and its variant with a long nonce.  Both
encrypt by an exclusive or with a key stream that is at least as long as the data, so doing it twice
gives the data back (`ChaCha20.crypt_crypt`), and the tag that is checked is computed over the same
ciphertext as the tag that was appended (`Aead.openBytes_sealBytes`).

What is assumed elsewhere of a suite's ciphers is therefore a fact of the standard suite: data opens
under the key and salt it was sealed with (`Suite.standard_opensData`), and a wrapped secret under
the wrap key and nonce it was wrapped with (`Suite.standard_wraps`).  Nothing is said here about key
agreement.
-/

namespace CircleVault

/-- Wrapping can be undone, and what it makes of a secret is no longer than a length can be
written. -/
structure Suite.Wraps (S : Suite) : Prop where
  unwrap_wrap (key : Block 32) (nonce : Block 12) (b : Bytes) :
    S.unwrap key nonce (S.wrap key nonce b) = some b
  length_wrap (key : Block 32) (nonce : Block 12) (secret : Block 32) :
    (S.wrap key nonce secret.toBytes).length < 2 ^ 64

lemma Suite.RoundTrips.wraps {S : Suite} (trusted : S.RoundTrips) : S.Wraps :=
  ⟨trusted.unwrap_wrap, trusted.length_wrap⟩

/-! ## The stream cipher -/

lemma Bytes.xor_xor_cancel {a b : Bytes} (covers : a.length ≤ b.length) :
    Bytes.xor (Bytes.xor a b) b = a := by
  induction a generalizing b with
  | nil => rfl
  | cons x a ih =>
      cases b with
      | nil => cases covers
      | cons y b =>
          have tail : Bytes.xor (Bytes.xor a b) b = a := ih (Nat.le_of_succ_le_succ covers)
          have head : (x ^^^ y) ^^^ y = x := by
            rw [UInt8.xor_assoc, UInt8.xor_self, UInt8.xor_zero]
          exact congrArg₂ List.cons head tail

namespace ChaCha20

variable (key : Block 32) (nonce : Block 12) (counter : UInt32)

lemma le_length_stream (n : Nat) : n ≤ (stream key nonce counter n).length := by
  have whole : (stream key nonce counter n).length = (n / 64 + 1) * 64 := by
    simp [stream, List.length_flatMap]
  omega

lemma length_crypt (b : Bytes) : (crypt key nonce counter b).length = b.length := by
  rw [crypt, Bytes.xor, List.length_zipWith]
  exact min_eq_left (le_length_stream key nonce counter b.length)

/-- Encrypting twice gives the data back. -/
lemma crypt_crypt (b : Bytes) :
    crypt key nonce counter (crypt key nonce counter b) = b := by
  rw [crypt, length_crypt, crypt]
  exact Bytes.xor_xor_cancel (le_length_stream key nonce counter b.length)

end ChaCha20

/-! ## Sealing -/

namespace Aead

lemma length_tag (key : Block 32) (nonce : Block 12) (ciphertext : Bytes) :
    (tag key nonce ciphertext).length = 16 :=
  Block.length_toBytes _

lemma length_sealBytes (key : Block 32) (nonce : Block 12) (b : Bytes) :
    (sealBytes key nonce b).length = b.length + 16 := by
  rw [sealBytes, List.length_append, ChaCha20.length_crypt, length_tag]

/-- Opening undoes sealing. -/
theorem openBytes_sealBytes (key : Block 32) (nonce : Block 12) (b : Bytes) :
    openBytes key nonce (sealBytes key nonce b) = some b := by
  have length : (sealBytes key nonce b).length - 16 =
      (ChaCha20.crypt key nonce 1 b).length := by
    rw [length_sealBytes, ChaCha20.length_crypt, Nat.add_sub_cancel]
  have ciphertext : (sealBytes key nonce b).take (ChaCha20.crypt key nonce 1 b).length =
      ChaCha20.crypt key nonce 1 b :=
    List.take_left
  have appended : (sealBytes key nonce b).drop (ChaCha20.crypt key nonce 1 b).length =
      tag key nonce (ChaCha20.crypt key nonce 1 b) :=
    List.drop_left
  have holds : 16 ≤ (sealBytes key nonce b).length := by
    rw [length_sealBytes]
    exact Nat.le_add_left 16 b.length
  simp only [openBytes, length, ciphertext, appended, holds, true_and, if_true,
    ChaCha20.crypt_crypt]

end Aead

namespace Suite

/-- The standard suite opens the data that it seals. -/
theorem standard_opensData : standard.OpensData := fun key salt b =>
  Aead.openBytes_sealBytes (Aead.longKey key (dataNonce salt)) (Aead.longNonce (dataNonce salt)) b

/-- The standard suite unwraps the secrets that it wraps. -/
theorem standard_wraps : standard.Wraps where
  unwrap_wrap := Aead.openBytes_sealBytes
  length_wrap key nonce secret := by
    have length : (standard.wrap key nonce secret.toBytes).length = 48 := by
      simp only [standard, Aead.length_sealBytes, Block.length_toBytes]
    omega

end Suite

end CircleVault
