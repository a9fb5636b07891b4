import CircleVault.Armor
import CircleVault.Salt
import CircleVault.Suite

/-!
# Keys and signatures

Key material together with the algorithm it belongs to.  A secret key encrypts a circle's data or
unlocks a member's private key; a member's key pair signs content and receives sealed circle keys.
Public keys cross textual boundaries in Base64, and keep the bytes they were read from.
-/

namespace CircleVault

/-- What an item of key material is for. -/
inductive Algorithm where
  | xchacha20Poly1305
  | ed25519
deriving DecidableEq, Repr

namespace Algorithm

def name : Algorithm → String
  | xchacha20Poly1305 => "XChaCha20Poly1305"
  | ed25519 => "Ed25519"

def all : List Algorithm := [xchacha20Poly1305, ed25519]

end Algorithm

/-! ## Secret keys -/

/-- A symmetric key, and the salt it was made with. -/
structure SecretKey where
  bytes : Block 32
  salt : Option Salt
deriving DecidableEq

namespace SecretKey

def size : Nat := 32

/-- A key of 32 bytes, without a salt. -/
def ofBytes (b : Bytes) : Except Failure SecretKey :=
  match Block.ofBytes? 32 b with
  | some k => .ok ⟨k, none⟩
  | none => .error (.secretKeySize b.length)

def withSalt (k : SecretKey) (salt : Salt) : SecretKey := { k with salt := some salt }

def algorithm (_ : SecretKey) : Algorithm := .xchacha20Poly1305

/-- A description that shows the salt and not the key. -/
def labelled (k : SecretKey) : String :=
  let salt := match k.salt with
    | none => "None"
    | some s => "Some(" ++ s.labelled ++ ")"
  "SecretKey \x7b salt: " ++ salt ++ ", .. \x7d"

end SecretKey

/-- The key that a passphrase yields under a salt. -/
def KeyStretching.derive (S : Suite) (kdf : KeyStretching) (passphrase : String) (salt : Salt) :
    SecretKey :=
  ⟨S.stretch kdf (Text.utf8 passphrase) salt.bytes, some salt⟩

/-! ## Signatures -/

/-- A signature of 64 bytes. -/
structure Signature where
  bytes : Block 64
deriving DecidableEq, Inhabited

def Signature.labelled (s : Signature) : String :=
  "Signature(" ++ Bytes.toHex (s.bytes.toBytes.take 8) ++ "...)"

/-! ## Key pairs -/

/-- The public half of a key pair. -/
structure PublicKey where
  /-- The bytes it was read from. -/
  bytes : Block 32
deriving DecidableEq, Inhabited

/-- The private half of a key pair. -/
structure PrivateKey where
  seed : Block 32
deriving DecidableEq, Inhabited

namespace PublicKey

/-- The key with the given bytes, if they are one. -/
def ofBytes (S : Suite) (b : Block 32) : Except Failure PublicKey :=
  if S.isPublic b then .ok ⟨b⟩ else .error .publicKeyUnreadable

def ofText (S : Suite) (text : String) : Except Failure PublicKey :=
  match Armor.readBlock 32 text with
  | .ok b => ofBytes S b
  | .error _ => .error .publicKeyUnreadable

def toText (k : PublicKey) : String := Base64.write k.bytes.toBytes

def algorithm (_ : PublicKey) : Algorithm := .ed25519

/-- The form of the key for agreement. -/
def agreement (S : Suite) (k : PublicKey) : Block 32 := S.agreementPublic k.bytes

/-- Whether a signature of a message is this key's. -/
def verifies (S : Suite) (k : PublicKey) (message : Bytes) (s : Signature) : Bool :=
  S.verify k.bytes message s.bytes

/-- Refuse a signature of a message that is not this key's. -/
def verify (S : Suite) (k : PublicKey) (message : Bytes) (s : Signature) : Except Failure Unit :=
  if k.verifies S message s then .ok () else .error .signatureInvalid

def labelled (k : PublicKey) : String :=
  "PublicKey(" ++ Bytes.toHex (k.bytes.toBytes.take 8) ++ ")"

end PublicKey

namespace PrivateKey

/-- The private key with the given seed. -/
def ofBytes (b : Bytes) : Except Failure PrivateKey :=
  match Block.ofBytes? 32 b with
  | some seed => .ok ⟨seed⟩
  | none => .error .privateKeySize

def publicKey (S : Suite) (k : PrivateKey) : PublicKey := ⟨S.publicOf k.seed⟩

def sign (S : Suite) (k : PrivateKey) (message : Bytes) : Signature := ⟨S.sign k.seed message⟩

def algorithm (_ : PrivateKey) : Algorithm := .ed25519

/-- The secret of the key for agreement. -/
def agreement (S : Suite) (k : PrivateKey) : Block 32 := S.agreementSecret k.seed

/-- A description that shows the public half alone. -/
def labelled (S : Suite) (k : PrivateKey) : String :=
  "PrivateKey(for " ++ (k.publicKey S).labelled ++ ")"

/-- A description of the pair that shows the public half alone. -/
def pairLabelled (S : Suite) (k : PrivateKey) : String :=
  "KeyPair(" ++ (k.publicKey S).labelled ++ ")"

end PrivateKey

end CircleVault
