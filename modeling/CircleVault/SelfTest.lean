import CircleVault.Ciphertext

/-!
# The self-test

Before a service starts, it tries its suite once: a probe that was sealed under a derived key has to
come back, and a fresh key's signature has to be accepted.  A suite that fails the test is the one
reason to stop for good.
-/

namespace CircleVault

structure SelfTest.Draw where
  salt : Block 16
  seed : Block 32

namespace SelfTest

/-- The data that is sealed and signed. -/
def probe : Bytes := Text.utf8 "trustcircle provider self-test"

/-- Whether the probe comes back from the data cipher. -/
def cipherWorks (S : Suite) (kdf : KeyStretching) (drawn : Draw) : Bool :=
  let salt := Salt.ofBytes drawn.salt
  let key := kdf.derive S "self-test" salt
  match (Ciphertext.encrypt S key salt probe).decrypt S key with
  | .ok opened => opened = probe
  | .error _ => false

/-- Whether a fresh key's signature is accepted. -/
def signatureWorks (S : Suite) (drawn : Draw) : Bool :=
  let key : PrivateKey := ⟨drawn.seed⟩
  (key.publicKey S).verifies S probe (key.sign S probe)

/-- Refuse a suite that does not work. -/
def run (S : Suite) (kdf : KeyStretching) (drawn : Draw) : Except Failure Unit :=
  if ¬cipherWorks S kdf drawn then .error .cipherBroken
  else if ¬signatureWorks S drawn then .error .signatureBroken
  else .ok ()

end SelfTest

end CircleVault
