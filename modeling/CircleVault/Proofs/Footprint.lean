import CircleVault.Proofs.Failures
import CircleVault.Proofs.Sealing
import CircleVault.Proofs.Signatures
import CircleVault.Proofs.WellFormed

/-!
# What an operation touches

An operation names a member, a circle or some content, and writes one record of it.  Several
operations write back a whole record that they have read: a member whose salts were read again, a
grant out of a listing, a signature record after a verification.  `Service.Touches` states for each
operation, from what it answered, the store that it leaves as an equation: which record is filed or
removed, and which fields of it may differ from the record that was there.  All other records of all
tables are then the same, as are their orders.

The equations rest on what the service keeps (`Store.WellFormed`): a record is filed under its own
identifier, so that the record written back takes the place of the one that was read, and an actor's
key belongs to the circle in which the actor holds a grant, so that a new grant lands in the circle
that was asked for.
-/

namespace CircleVault

namespace Service

/-- The store that an operation leaves, from what it answered.  The clock is left open where a
record is filed with a new timestamp. -/
def Touches (sv : Service) (s : Store) :
    (o : Operation) → Except Failure o.Result → Store → Prop
  | .registerMember name _ _, .ok m, s' =>
      s.members.get? m.id = none ∧ m.name = name ∧
        s' = { s with members := s.members.insert m.id m, clock := s'.clock }
  | .changePassphrase id _ _ _, .ok m, s' =>
      ∃ old, s.member? id = some old ∧
        m = { old with salt := m.salt, privateKey := m.privateKey, altered := m.altered } ∧
        s' = { s with members := s.members.insert id m, clock := s'.clock }
  | .createCircle founder _ _ _, .ok (c, owner), s' =>
      owner.member = founder ∧ owner.circle = c.id ∧
        ∃ key, s.FiledTogether ⟨c, key, owner⟩ s' ∧ key.circle = c.id
  | .addGrant _ _ c target level _, .ok g, s' =>
      s.grants.get? g.id = none ∧ (g.member = target ∧ g.circle = c ∧ g.level = level) ∧
        s' = { s with grants := s.grants.insert g.id g, clock := s'.clock }
  | .removeGrant _ c target, .ok _, s' =>
      ∃ g, s.grant? target c = some g ∧ s' = { s with grants := s.grants.erase g.id }
  | .changeLevel _ c target level, .ok g, s' =>
      ∃ old, s.grant? target c = some old ∧ g = { old with level, altered := g.altered } ∧
        s' = { s with grants := s.grants.insert old.id g, clock := s'.clock }
  | .sign actor _ content _, .ok r, s' =>
      s.signature? r.checksum r.publicKey = none ∧ r.checksum = sv.suite.checksum content ∧
        (∃ m, s.member? actor = some m ∧ r.publicKey = m.publicKey) ∧
        s' =
          { s with
            signatures := s.signatures.insert (r.checksum, r.publicKey) r
            clock := s'.clock }
  | .verify signer signed _, .ok v, s' =>
      if v.succeeded then
        ∃ m old, s.member? signer = some m ∧ s.signature? signed m.publicKey = some old ∧
          v.record =
            { old with
              verifications := v.record.verifications
              lastVerification := v.record.lastVerification
              altered := v.record.altered } ∧
          s' =
            { s with
              signatures := s.signatures.insert (signed, m.publicKey) v.record
              clock := s'.clock }
      else s' = s
  -- A failure, and an operation that only looks something up or computes.
  | _, _, s' => s' = s

variable {sv : Service} {s s' : Store}

lemma touches_error (o : Operation) (e : Failure) : Touches sv s o (.error e) s := by
  cases o <;> rfl

lemma touches_query {o : Operation} (query : o.isQuery = true) (result : o.Result) :
    Touches sv s o (.ok result) s := by
  cases o <;> cases query <;> rfl

/-- What an operation did is all that it touched. -/
theorem Effect.touches (h : s.WellFormed) {o : Operation} {r : Except Failure o.Result}
    (e : Effect sv s o r s') : Touches sv s o r s' := by
  cases e with
  | refused => exact touches_error o _
  | answered query => exact touches_query query _
  | registered made wrote =>
      obtain ⟨-, -, rfl⟩ := Member.register_eq_ok.1 made
      obtain ⟨fresh, -, rfl, rfl⟩ := Store.insertMember_eq_ok.1 wrote
      exact ⟨fresh, rfl, rfl⟩
  | reprotected present made wrote =>
      obtain ⟨-, key, -, rfl⟩ := Member.changePassphrase_eq_ok.1 made
      obtain rfl := h.member_id _ _ present
      obtain ⟨old, there, -, rfl, rfl⟩ := Store.updateMember_eq_ok.1 wrote
      obtain rfl := Option.some.inj (there.symm.trans present)
      exact ⟨_, present, rfl, rfl⟩
  | founded present made granted wrote =>
      obtain ⟨-, rfl⟩ := Founding.make_eq_ok.1 made
      obtain ⟨member, -, -⟩ := Grant.make_sealedFor granted
      obtain rfl := h.member_id _ _ present
      have filed := Store.filedTogether_of_createCircle wrote
      obtain ⟨-, -, ⟨key, home, -⟩, -, -, -, rfl, -⟩ := Store.createCircle_eq_ok.1 wrote
      exact ⟨member, home, _, filed, key⟩
  | granted held admin within present found opener opened made wrote =>
      -- The grant lands in the circle of the actor's key, which is the one that was asked for.
      have home := h.key_of_grant? held found
      obtain rfl := h.member_id _ _ present
      obtain ⟨-, -, recipient, -, rfl⟩ := Grant.make_eq_ok.1 made
      obtain ⟨-, -, fresh, -, rfl, rfl⟩ := Store.insertGrant_eq_ok.1 wrote
      exact ⟨fresh, ⟨rfl, home, rfl⟩, rfl⟩
  | revoked held admin taken within kept wrote =>
      obtain ⟨-, rfl⟩ := Store.deleteGrant_eq_ok.1 wrote
      exact ⟨_, (h.remove_grantsIn taken).1, rfl⟩
  | relevelled held admin taken within granted kept wrote =>
      have there := (h.remove_grantsIn taken).1
      obtain ⟨old, found, -, rfl, rfl⟩ := Store.updateGrant_eq_ok.1 wrote
      have stored := h.get?_of_mem (Store.mem_grants_of_grant? there).1
      obtain rfl := Option.some.inj (stored.symm.trans found)
      exact ⟨_, there, rfl, rfl⟩
  | @signed _ _ content _ signer key _ _ _ _ present unsigned opened wrote =>
      have own : (key.publicKey sv.suite).toText =
          (signer.reread sv.settings.saltCharset).publicKey := Member.publicKey_of_unlock opened
      obtain ⟨_, -, rfl, rfl⟩ := Store.upsertSignature_eq_ok.1 wrote
      refine ⟨?_, rfl, ⟨signer, present, own⟩, rfl⟩
      show s.signature? (sv.suite.checksum content) (key.publicKey sv.suite).toText = none
      rw [own]
      exact unsigned
  | @verified _ _ _ m _ r _ moment now _ present parsed found success wrote =>
      have there := h.signature?_own found
      have next := Store.upsertSignature_next (w := r.counted moment) now there rfl
      rw [SignedRecord.verify_succeeded success] at wrote ⊢
      obtain ⟨rfl, rfl⟩ := EStateM.Result.ok.inj (next.symm.trans wrote)
      refine ⟨m, r, present, found, rfl, ?_⟩
      rw [← h.signature_key _ r found]
      rfl
  | unverified present parsed found failure =>
      rw [Touches, if_neg (by simp [failure])]

/-- **Operations touch only what they name.**  After every run, an operation that fails leaves the
store as it is.  One that succeeds leaves it as it is but for what it is about: registering files
one new member; changing a passphrase replaces a member's salt and private key; founding a circle
files one circle, one key and one grant; granting files one grant of the member in the circle at the
level; revoking removes the member's grant in the circle; changing a level replaces the level of
that grant; signing files one signature record; and verifying, if it succeeds, replaces the account
of verifications of one record.  All other operations leave the store as it is. -/
theorem touches_only_what_it_names (sv : Service) (run : List Turn) (t : Turn) :
    Touches sv (sv.after run).store t.operation (sv.serve (sv.after run).store t).1
      (sv.serve (sv.after run).store t).2 :=
  (sv.serve_effect _ t).touches (Store.WellFormed.after sv run)

end Service

end CircleVault
