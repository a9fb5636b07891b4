import CircleVault.Proofs.History

/-!
# A suite that hides nothing

Statements about the service hold for every suite, or for every suite whose honest parties
understand each other.  `Suite.transparent` is a small suite of the second kind
(`transparent_sound`) that can be computed with: what is sealed lies behind its key in the clear, so
it opens under that key alone.  It serves to run the service on examples, such as
`SmallCircle.founded`.
-/

namespace CircleVault

namespace Suite

/-- Data behind a tag. -/
def attach (tag b : Bytes) : Bytes := tag ++ b

/-- The data behind a tag, if it is this one. -/
def detach (tag b : Bytes) : Option Bytes :=
  if b.take tag.length = tag then some (b.drop tag.length) else none

lemma detach_attach (tag b : Bytes) : detach tag (attach tag b) = some b := by
  simp [attach, detach]

/-- A suite that hides nothing. -/
def transparent : Suite where
  checksum b := ⟨.fit 32 b⟩
  stretch _ passphrase salt := .fit 32 (salt.toBytes ++ passphrase)
  sealData key salt := attach (key.toBytes ++ salt.toBytes)
  openData key salt := detach (key.toBytes ++ salt.toBytes)
  wrapKey b := .fit 32 (Bytes.xor (b.take 32) (b.drop 32))
  wrap key nonce := attach (key.toBytes ++ nonce.toBytes)
  unwrap key nonce := detach (key.toBytes ++ nonce.toBytes)
  publicOf seed := seed
  isPublic _ := true
  sign seed message := .fit 64 (seed.toBytes ++ message)
  verify key message signature := signature = .fit 64 (key.toBytes ++ message)
  agreementPublic key := key
  agreementSecret seed := seed
  agreementOf secret := secret
  agree secret other := .fit 32 (Bytes.xor secret.toBytes other.toBytes)

/-- Honest parties understand each other. -/
theorem transparent_sound : transparent.Sound where
  openData_sealData key salt b := detach_attach _ b
  unwrap_wrap key nonce b := detach_attach _ b
  isPublic_publicOf _ := rfl
  agree_comm secret seed := by
    simp only [transparent, Bytes.xor]
    rw [List.zipWith_comm_of_comm]
    exact fun a b => UInt8.xor_comm a b
  verify_sign seed message := by simp [transparent]

end Suite

/-! ## A small circle -/

namespace SmallCircle

/-- The service of the suite that hides nothing, with cheap costs. -/
def service : Service := ⟨.transparent, .cheap, ⟨.cheap, by decide⟩⟩

/-- A byte over and over. -/
def drawn (n : Nat) (b : UInt8) : Block n := ⟨List.replicate n b, by simp⟩

def alice : MemberId := .random (drawn 16 1)

def bob : MemberId := .random (drawn 16 2)

def club : CircleId := .random (drawn 16 3)

def protection (b : UInt8) : Member.Protection := ⟨drawn 16 b, drawn 16 (b + 1)⟩

def granting (b : UInt8) : Grant.Draw := ⟨⟨drawn 32 b, drawn 12 b⟩, drawn 16 b⟩

/-- A turn all of whose calls happen at one moment. -/
def turn (now : Timestamp) (o : Operation) : Turn := ⟨o, fun _ => now⟩

/-- Alice and Bob register, Alice founds a circle, and grants Bob to write in it. -/
def founded : List Turn :=
  [turn 10 (.registerMember "alice" "correct horse" ⟨drawn 32 1, protection 1, drawn 16 1⟩),
    turn 20 (.registerMember "bob" "battery staple" ⟨drawn 32 2, protection 3, drawn 16 2⟩),
    turn 30 (.createCircle alice "club" ⟨drawn 16 3, drawn 32 7, drawn 16 8, drawn 16 9⟩
      (granting 4)),
    turn 40 (.addGrant alice "correct horse" club bob .write (granting 5))]

end SmallCircle

end CircleVault
