import CircleVault.Ciphertext
import CircleVault.Id
import CircleVault.Timestamp
import CircleVault.Work

/-!
# Members

A member is an account with a key pair.  The private key is stored encrypted under a key that the
member's passphrase yields; it exists in the clear only in what `Member.unlock` returns.

Opening the private key tells three things apart: a passphrase that does not open it, content that
is no private key, and a private key that belongs to another public key.  The first is the
client's fault, the others are corrupted records.

Random material is drawn by the caller and handed in, so that each operation is a function of its
arguments.
-/

namespace CircleVault

/-- A member account. -/
structure Member where
  id : MemberId
  /-- The account's name, which no other account has. -/
  name : String
  salt : Salt
  /-- The private key, encrypted under the key that the passphrase yields. -/
  privateKey : Ciphertext
  publicKey : String
  added : Timestamp
  altered : Timestamp
deriving DecidableEq

namespace Member

/-- What is drawn to protect a private key: a salt for the passphrase and one for the data. -/
structure Protection where
  salt : Block 16
  dataSalt : Block 16

structure Draw where
  seed : Block 32
  protection : Protection
  id : Block 16

/-- Encrypt a private key under the key that a passphrase yields. -/
def protect (S : Suite) (kdf : KeyStretching) (key : PrivateKey) (passphrase : String)
    (drawn : Protection) : Salt × Ciphertext :=
  let salt := Salt.ofBytes drawn.salt
  (salt, Ciphertext.encrypt S (kdf.derive S passphrase salt) (Salt.ofBytes drawn.dataSalt)
    key.seed.toBytes)

/-- A new member with a key pair of its own. -/
def register (S : Suite) (settings : Settings) (kdf : KeyStretching) (name passphrase : String)
    (drawn : Draw) : Except Failure Member := do
  if Text.isBlank name then throw .memberNameBlank
  settings.checkPassphrase passphrase
  let key : PrivateKey := ⟨drawn.seed⟩
  let (salt, privateKey) := protect S kdf key passphrase drawn.protection
  return {
    id := .random drawn.id
    name, salt, privateKey
    publicKey := (key.publicKey S).toText
    added := 0
    altered := 0 }

def readPublicKey (S : Suite) (m : Member) : Except Failure PublicKey :=
  PublicKey.ofText S m.publicKey

/-- Open the member's private key, and check that it is the member's. -/
def unlock (S : Suite) (kdf : KeyStretching) (m : Member) (passphrase : String) :
    Except Failure PrivateKey :=
  match m.privateKey.decrypt S (kdf.derive S passphrase m.salt) with
  | .error _ => .error .notAuthenticated
  | .ok opened =>
      match PrivateKey.ofBytes opened with
      | .error _ => .error .privateKeyMalformed
      | .ok key =>
          if (key.publicKey S).toText = m.publicKey then .ok key else .error .privateKeyMismatch

/-- Encrypt the private key under a new passphrase, in the record itself.  The key pair stays, so
every sealed circle key stays valid. -/
def reprotect (S : Suite) (settings : Settings) (kdf : KeyStretching) (current next : String)
    (drawn : Protection) : Work Failure Member Unit := do
  Work.judge fun _ => settings.checkPassphrase next
  let key ← Work.judge fun m => m.unlock S kdf current
  let (salt, privateKey) := protect S kdf key next drawn
  -- The two fields belong together: nothing may fail from here on.
  modify fun m => { m with salt }
  modify fun m => { m with privateKey }

/-- The member with the private key encrypted under a new passphrase. -/
def changePassphrase (S : Suite) (settings : Settings) (kdf : KeyStretching) (m : Member)
    (current next : String) (drawn : Protection) : Except Failure Member :=
  match (reprotect S settings kdf current next drawn).run m with
  | .ok _ changed => .ok changed
  | .error e _ => .error e

/-- The member with both salts read under another charset. -/
def reread (charset : Charset) (m : Member) : Member :=
  { m with salt := m.salt.reread charset, privateKey := m.privateKey.reread charset }

end Member

end CircleVault
