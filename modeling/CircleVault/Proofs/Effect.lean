import CircleVault.Proofs.History
import CircleVault.Proofs.Integrity
import CircleVault.Proofs.TrustLevel

/-!
# What an operation does

`Service.Effect` says once what one operation of the service can come to: which records it found,
which conditions they passed, what was computed from them, and the single write at the end.  An
operation that fails, and one that only looks something up, leaves the store as it is.

`Service.serve_effect` shows that serving any operation has such an effect.  It is a chain of the
rules of `Program.Meets` for each operation, in the order of the operation's lines.  Invariants of
runs are then case analyses of effects.
-/

namespace CircleVault

/-! ## Rules for the parts of operations -/

namespace Program

variable {β : Type} {sv : Service} {clock : Nat → Timestamp} {s : Store}
  {Q : Except Failure β → Store → Prop}

lemma Meets.member {id : MemberId} {f : Member → Program β}
    (goes : ∀ m, s.member? id = some m →
      (f (m.reread sv.settings.saltCharset)).Meets (later clock) s Q)
    (fails : s.member? id = none → Q (.error .memberUnknown) s) :
    (sv.member id >>= f).Meets clock s Q := by
  rw [Service.member, bind_assoc]
  refine .call ?_
  rw [bind_assoc]
  exact .found goes fails

lemma Meets.authorize {actor : MemberId} {circle : CircleId} {required : TrustLevel}
    {f : Grant → Program β}
    (goes : ∀ g, s.grant? actor circle = some g → required ≤ g.level →
      (f g).Meets (later clock) s Q)
    (absent : s.grant? actor circle = none → Q (.error .notTrustee) s)
    (low : ∀ g, s.grant? actor circle = some g → g.level < required →
      Q (.error .levelTooLow) s) :
    (Service.authorize actor circle required >>= f).Meets clock s Q := by
  rw [Service.authorize, bind_assoc]
  refine .call ?_
  rw [bind_assoc]
  refine .found (fun g held => ?_) absent
  rw [bind_assoc]
  exact .require (fun allowed => goes g held (TrustLevel.allows_iff.1 allowed))
    (fun refused => low g held (TrustLevel.allows_eq_false.1 refused))

lemma Meets.keyOf {g : Grant} {f : CircleKey → Program β}
    (goes : ∀ k, s.key? g.key = some k → k.isActive = true → (f k).Meets (later clock) s Q)
    (missing : s.key? g.key = none → Q (.error .grantKeyMissing) s)
    (retired : ∀ k, s.key? g.key = some k → k.isActive = false → Q (.error .keyRetired) s) :
    (Service.keyOf g >>= f).Meets clock s Q := by
  rw [Service.keyOf, bind_assoc]
  refine .call ?_
  rw [bind_assoc]
  refine .found (fun k found => ?_) missing
  rw [bind_assoc, CircleKey.ensureActive]
  cases active : k.isActive with
  | false => exact retired k found active
  | true => exact goes k found active

lemma Meets.secretOf {g : Grant} {passphrase : String} {f : SecretKey → Program β}
    (goes : ∀ holder secret, s.member? g.member = some holder →
      g.unlock sv.suite sv.kdf (holder.reread sv.settings.saltCharset) passphrase = .ok secret →
      (f secret).Meets (later clock) s Q)
    (unknown : s.member? g.member = none → Q (.error .memberUnknown) s)
    (shut : ∀ holder e, s.member? g.member = some holder →
      g.unlock sv.suite sv.kdf (holder.reread sv.settings.saltCharset) passphrase = .error e →
      Q (.error e) s) :
    (sv.secretOf g passphrase >>= f).Meets clock s Q := by
  rw [Service.secretOf, bind_assoc]
  exact .member
    (fun holder found => .of (fun secret => goes holder secret found)
      (fun e => shut holder e found))
    unknown

section Known

/-! Where it is known what a part will find, there is one way to go on. -/

variable {actor : MemberId} {circle : CircleId} {required : TrustLevel} {g : Grant}

lemma Meets.member_found {id : MemberId} {m : Member} {f : Member → Program β}
    (found : s.member? id = some m)
    (goes : (f (m.reread sv.settings.saltCharset)).Meets (later clock) s Q) :
    (sv.member id >>= f).Meets clock s Q := by
  refine .member (fun m' found' => ?_) (fun unknown => ?_)
  · obtain rfl := Option.some.inj (found.symm.trans found')
    exact goes
  · cases found.symm.trans unknown

lemma Meets.authorize_held {f : Grant → Program β} (held : s.grant? actor circle = some g)
    (enough : required ≤ g.level) (goes : (f g).Meets (later clock) s Q) :
    (Service.authorize actor circle required >>= f).Meets clock s Q := by
  refine .authorize (fun g' held' _ => ?_) (fun absent => ?_) (fun g' held' low => ?_)
  · obtain rfl := Option.some.inj (held.symm.trans held')
    exact goes
  · cases held.symm.trans absent
  · obtain rfl := Option.some.inj (held.symm.trans held')
    exact absurd enough low.not_ge

lemma Meets.keyOf_active {k : CircleKey} {f : CircleKey → Program β}
    (found : s.key? g.key = some k) (active : k.isActive = true)
    (goes : (f k).Meets (later clock) s Q) : (Service.keyOf g >>= f).Meets clock s Q := by
  refine .keyOf (fun k' found' _ => ?_) (fun missing => ?_) (fun k' found' retired => ?_)
  · obtain rfl := Option.some.inj (found.symm.trans found')
    exact goes
  · cases found.symm.trans missing
  · obtain rfl := Option.some.inj (found.symm.trans found')
    cases active.symm.trans retired

lemma Meets.secretOf_opened {holder : Member} {secret : SecretKey} {passphrase : String}
    {f : SecretKey → Program β} (found : s.member? g.member = some holder)
    (opened : g.unlock sv.suite sv.kdf (holder.reread sv.settings.saltCharset) passphrase =
      .ok secret)
    (goes : (f secret).Meets (later clock) s Q) :
    (sv.secretOf g passphrase >>= f).Meets clock s Q := by
  refine .secretOf (fun holder' secret' found' opened' => ?_) (fun unknown => ?_)
    (fun holder' e found' shut => ?_)
  · obtain rfl := Option.some.inj (found.symm.trans found')
    obtain rfl := Except.ok.inj (opened.symm.trans opened')
    exact goes
  · cases found.symm.trans unknown
  · obtain rfl := Option.some.inj (found.symm.trans found')
    cases opened.symm.trans shut

end Known

end Program

namespace Service

open Program

/-! ## Effects -/

/-- What serving an operation can come to: its answer, and the store after it. -/
inductive Effect (sv : Service) (s : Store) :
    (o : Operation) → Except Failure o.Result → Store → Prop where
  | refused {o : Operation} {e : Failure} : Effect sv s o (.error e) s
  | answered {o : Operation} {result : o.Result} (query : o.isQuery = true) :
      Effect sv s o (.ok result) s
  | registered {name passphrase : String} {drawn : Member.Draw} {m stored : Member}
      {now : Timestamp} {s' : Store}
      (made : Member.register sv.suite sv.settings sv.kdf name passphrase drawn = .ok m)
      (wrote : s.insertMember now m = .ok stored s') :
      Effect sv s (.registerMember name passphrase drawn) (.ok stored) s'
  | reprotected {id : MemberId} {current next : String} {drawn : Member.Protection}
      {m changed stored : Member} {now : Timestamp} {s' : Store}
      (present : s.member? id = some m)
      (made : (m.reread sv.settings.saltCharset).changePassphrase sv.suite sv.settings sv.kdf
        current next drawn = .ok changed)
      (wrote : s.updateMember now changed = .ok stored s') :
      Effect sv s (.changePassphrase id current next drawn) (.ok stored) s'
  | founded {founder : MemberId} {name : String} {founding : Founding.Draw}
      {granting : Grant.Draw} {owner : Member} {new : Founding} {g : Grant}
      {stored : Store.Founded} {now : Timestamp} {s' : Store}
      (present : s.member? founder = some owner)
      (made : Founding.make name founding = .ok new)
      (granted : Grant.make sv.suite new.secret new.key (owner.reread sv.settings.saltCharset)
        .sysop [] granting = .ok g)
      (wrote : s.createCircle now ⟨new.circle, new.key, g⟩ = .ok stored s') :
      Effect sv s (.createCircle founder name founding granting)
        (.ok (stored.circle, stored.owner)) s'
  | granted {actor : MemberId} {passphrase : String} {circle : CircleId} {target : MemberId}
      {level : TrustLevel} {drawn : Grant.Draw} {own g stored : Grant}
      {recipient holder : Member} {key : CircleKey} {secret : SecretKey} {now : Timestamp}
      {s' : Store}
      (held : s.grant? actor circle = some own) (admin : .admin ≤ own.level)
      (within : level ≤ own.level)
      (present : s.member? target = some recipient)
      (found : s.key? own.key = some key)
      (opener : s.member? own.member = some holder)
      (opened : own.unlock sv.suite sv.kdf (holder.reread sv.settings.saltCharset) passphrase =
        .ok secret)
      (made : Grant.make sv.suite secret key (recipient.reread sv.settings.saltCharset) level
        (s.grantsIn circle) drawn = .ok g)
      (wrote : s.insertGrant now g = .ok stored s') :
      Effect sv s (.addGrant actor passphrase circle target level drawn) (.ok stored) s'
  | revoked {actor : MemberId} {circle : CircleId} {target : MemberId} {own g : Grant}
      {rest : List Grant} {s' : Store}
      (held : s.grant? actor circle = some own) (admin : .admin ≤ own.level)
      (taken : Grant.remove (s.grantsIn circle) target = .ok (g, rest))
      (within : g.level ≤ own.level) (kept : hasSysop rest = true)
      (wrote : s.deleteGrant g.id = .ok () s') :
      Effect sv s (.removeGrant actor circle target) (.ok ()) s'
  | relevelled {actor : MemberId} {circle : CircleId} {target : MemberId} {level : TrustLevel}
      {own g stored : Grant} {rest : List Grant} {now : Timestamp} {s' : Store}
      (held : s.grant? actor circle = some own) (admin : .admin ≤ own.level)
      (taken : Grant.remove (s.grantsIn circle) target = .ok (g, rest))
      (within : g.level ≤ own.level) (granted : level ≤ own.level)
      (kept : hasSysop (g.withLevel level :: rest) = true)
      (wrote : s.updateGrant now (g.withLevel level) = .ok stored s') :
      Effect sv s (.changeLevel actor circle target level) (.ok stored) s'
  | signed {actor : MemberId} {passphrase : String} {content : Bytes}
      {expires : Option Timestamp} {signer : Member} {key : PrivateKey} {stored : SignedRecord}
      {moment now : Timestamp} {s' : Store}
      (present : s.member? actor = some signer)
      (unsigned : s.signature? (sv.suite.checksum content) signer.publicKey = none)
      (opened : (signer.reread sv.settings.saltCharset).unlock sv.suite sv.kdf passphrase =
        .ok key)
      (wrote : s.upsertSignature now (SignedRecord.sign sv.suite key content expires moment) =
        .ok stored s') :
      Effect sv s (.sign actor passphrase content expires) (.ok stored) s'
  | verified {signer : MemberId} {checksum : Checksum} {content : Bytes} {m : Member}
      {key : PublicKey} {r stored : SignedRecord} {moment now : Timestamp} {s' : Store}
      (present : s.member? signer = some m)
      (parsed : m.readPublicKey sv.suite = .ok key)
      (found : s.signature? checksum m.publicKey = some r)
      (success : (r.verify sv.suite key content moment).succeeded = true)
      (wrote : s.upsertSignature now (r.verify sv.suite key content moment).record =
        .ok stored s') :
      Effect sv s (.verify signer checksum content)
        (.ok { r.verify sv.suite key content moment with record := stored }) s'
  | unverified {signer : MemberId} {checksum : Checksum} {content : Bytes} {m : Member}
      {key : PublicKey} {r : SignedRecord} {moment : Timestamp}
      (present : s.member? signer = some m)
      (parsed : m.readPublicKey sv.suite = .ok key)
      (found : s.signature? checksum m.publicKey = some r)
      (failure : (r.verify sv.suite key content moment).succeeded = false) :
      Effect sv s (.verify signer checksum content) (.ok (r.verify sv.suite key content moment)) s

/-! ## One operation -/

section Operations

variable {sv : Service} {clock : Nat → Timestamp} {s : Store}

lemma registerMember_effect (name passphrase : String) (drawn : Member.Draw) :
    (sv.registerMember name passphrase drawn).Meets clock s
      (Effect sv s (.registerMember name passphrase drawn)) := by
  refine .call (.require (fun _ => ?_) (fun _ => .refused))
  refine .of (fun m made => ?_) (fun _ _ => .refused)
  exact .call (.wrote Store.insertMember_spares (fun _ _ wrote => .registered made wrote)
    (fun _ _ => .refused))

lemma changePassphrase_effect (id : MemberId) (current next : String)
    (drawn : Member.Protection) :
    (sv.changePassphrase id current next drawn).Meets clock s
      (Effect sv s (.changePassphrase id current next drawn)) := by
  refine .member (fun m present => ?_) (fun _ => .refused)
  refine .of (fun changed made => ?_) (fun _ _ => .refused)
  exact .call (.wrote Store.updateMember_spares (fun _ _ wrote => .reprotected present made wrote)
    (fun _ _ => .refused))

lemma createCircle_effect (founder : MemberId) (name : String) (founding : Founding.Draw)
    (granting : Grant.Draw) :
    (sv.createCircle founder name founding granting).Meets clock s
      (Effect sv s (.createCircle founder name founding granting)) := by
  refine .member (fun owner present => ?_) (fun _ => .refused)
  refine .call (.require (fun _ => ?_) (fun _ => .refused))
  refine .of (fun new made => ?_) (fun _ _ => .refused)
  refine .of (fun g granted => ?_) (fun _ _ => .refused)
  refine .call (.accepted Store.createCircle_spares (fun stored s' wrote => .result ?_)
    (fun _ _ => .refused))
  exact .founded present made granted wrote

lemma addGrant_effect (actor : MemberId) (passphrase : String) (circle : CircleId)
    (target : MemberId) (level : TrustLevel) (drawn : Grant.Draw) :
    (sv.addGrant actor passphrase circle target level drawn).Meets clock s
      (Effect sv s (.addGrant actor passphrase circle target level drawn)) := by
  refine .authorize (fun own held admin => ?_) (fun _ => .refused) (fun _ _ _ => .refused)
  refine .require (fun within => ?_) (fun _ => .refused)
  refine .member (fun recipient present => ?_) (fun _ => .refused)
  refine .keyOf (fun key found _ => ?_) (fun _ => .refused) (fun _ _ _ => .refused)
  refine .call (.secretOf (fun holder secret opener opened => ?_) (fun _ => .refused)
    (fun _ _ _ _ => .refused))
  refine .of (fun g made => ?_) (fun _ _ => .refused)
  refine .call (.wrote Store.insertGrant_spares (fun stored s' wrote => ?_) (fun _ _ => .refused))
  exact .granted held admin (TrustLevel.allows_iff.1 within) present found opener opened made wrote

lemma removeGrant_effect (actor : MemberId) (circle : CircleId) (target : MemberId) :
    (removeGrant actor circle target).Meets clock s
      (Effect sv s (.removeGrant actor circle target)) := by
  refine .authorize (fun own held admin => ?_) (fun _ => .refused) (fun _ _ _ => .refused)
  refine .call (.of (fun taken htaken => ?_) (fun _ _ => .refused))
  refine .require (fun within => ?_) (fun _ => .refused)
  refine .require (fun kept => ?_) (fun _ => .refused)
  refine .call (.wrote Store.deleteGrant_spares (fun _ s' wrote => ?_) (fun _ _ => .refused))
  exact .revoked held admin htaken (TrustLevel.allows_iff.1 within) kept wrote

lemma changeLevel_effect (actor : MemberId) (circle : CircleId) (target : MemberId)
    (level : TrustLevel) :
    (changeLevel actor circle target level).Meets clock s
      (Effect sv s (.changeLevel actor circle target level)) := by
  refine .authorize (fun own held admin => ?_) (fun _ => .refused) (fun _ _ _ => .refused)
  refine .call (.of (fun taken htaken => ?_) (fun _ _ => .refused))
  refine .require (fun within => ?_) (fun _ => .refused)
  refine .require (fun kept => ?_) (fun _ => .refused)
  refine .call (.wrote Store.updateGrant_spares (fun _ s' wrote => ?_) (fun _ _ => .refused))
  rw [Bool.and_eq_true, TrustLevel.allows_iff, TrustLevel.allows_iff] at within
  exact .relevelled held admin htaken within.1 within.2 kept wrote

lemma sign_effect (actor : MemberId) (passphrase : String) (content : Bytes)
    (expires : Option Timestamp) :
    (sv.sign actor passphrase content expires).Meets clock s
      (Effect sv s (.sign actor passphrase content expires)) := by
  refine .member (fun signer present => ?_) (fun _ => .refused)
  refine .call (.require (fun unsigned => ?_) (fun _ => .refused))
  refine .of (fun key opened => ?_) (fun _ _ => .refused)
  refine .call (.call (.wrote Store.upsertSignature_spares (fun stored s' wrote => ?_)
    (fun _ _ => .refused)))
  exact .signed present (Option.isNone_iff_eq_none.1 unsigned) opened wrote

lemma verify_effect (signer : MemberId) (checksum : Checksum) (content : Bytes) :
    (sv.verify signer checksum content).Meets clock s
      (Effect sv s (.verify signer checksum content)) := by
  refine .member (fun m present => ?_) (fun _ => .refused)
  refine .of (fun key parsed => ?_) (fun _ _ => .refused)
  refine .call (.found (fun r found => ?_) (fun _ => .refused))
  refine .call ?_
  dsimp only
  split
  next success =>
    refine .call (.accepted Store.upsertSignature_spares (fun stored s' wrote => .result ?_)
      (fun _ _ => .refused))
    exact .verified present parsed found success wrote
  next failure =>
    exact .result (.unverified present parsed found (by simpa using failure))

lemma effect_of_unchanged {o : Operation} {r : Except Failure o.Result} {s' : Store}
    (query : o.isQuery = true) (unchanged : s' = s) : Effect sv s o r s' := by
  subst unchanged
  cases r with
  | error e => exact .refused
  | ok result => exact .answered query

lemma encrypt_effect (actor : MemberId) (passphrase : String) (circle : CircleId)
    (plaintext : Bytes) (drawn : Block 16) :
    (sv.encrypt actor passphrase circle plaintext drawn).Meets clock s
      (Effect sv s (.encrypt actor passphrase circle plaintext drawn)) := by
  refine .authorize (fun own _ _ => ?_) (fun _ => .refused) (fun _ _ _ => .refused)
  exact .secretOf (fun _ _ _ _ => .result (.answered rfl)) (fun _ => .refused)
    (fun _ _ _ _ => .refused)

lemma decrypt_effect (actor : MemberId) (passphrase : String) (circle : CircleId)
    (data : Ciphertext) :
    (sv.decrypt actor passphrase circle data).Meets clock s
      (Effect sv s (.decrypt actor passphrase circle data)) := by
  refine .authorize (fun own _ _ => ?_) (fun _ => .refused) (fun _ _ _ => .refused)
  exact .secretOf (fun _ _ _ _ => .done (effect_of_unchanged rfl rfl)) (fun _ => .refused)
    (fun _ _ _ _ => .refused)

lemma circle_unchanged (id : CircleId) (clock : Nat → Timestamp) :
    (circle id).Meets clock s fun _ s' => s' = s := by
  refine .call ?_
  rw [← bind_pure (found _ _)]
  exact .found (fun _ _ => .result rfl) (fun _ => rfl)

lemma circlesOf_unchanged (grants : List Grant) (clock : Nat → Timestamp) :
    (circlesOf grants).Meets clock s fun _ s' => s' = s := by
  induction grants generalizing clock with
  | nil => exact .result rfl
  | cons g rest ih =>
      refine .bind (circle_unchanged g.circle clock) (fun c s' clock' same => ?_) (fun _ _ h => h)
      subst same
      exact .bind (ih clock') (fun _ _ _ same => .result same) (fun _ _ h => h)

end Operations

/-- **Serving an operation has its effect.** -/
theorem serve_effect (sv : Service) (s : Store) (t : Turn) :
    Effect sv s t.operation (sv.serve s t).1 (sv.serve s t).2 := by
  obtain ⟨o, clock⟩ := t
  cases o with
  | registerMember name passphrase drawn => exact registerMember_effect name passphrase drawn
  | changePassphrase id current next drawn => exact changePassphrase_effect id current next drawn
  | createCircle founder name founding granting =>
      exact createCircle_effect founder name founding granting
  | addGrant actor passphrase circle target level drawn =>
      exact addGrant_effect actor passphrase circle target level drawn
  | removeGrant actor circle target => exact removeGrant_effect actor circle target
  | changeLevel actor circle target level => exact changeLevel_effect actor circle target level
  | encrypt actor passphrase circle plaintext drawn =>
      exact encrypt_effect actor passphrase circle plaintext drawn
  | decrypt actor passphrase circle data => exact decrypt_effect actor passphrase circle data
  | sign actor passphrase content expires => exact sign_effect actor passphrase content expires
  | verify signer signed content => exact verify_effect signer signed content
  | member id =>
      refine effect_of_unchanged rfl ?_
      show (sv.member id).Meets clock s fun _ s' => s' = s
      rw [← bind_pure (sv.member id)]
      exact .member (fun _ _ => .result rfl) (fun _ => rfl)
  | circle id => exact effect_of_unchanged rfl (circle_unchanged id clock)
  | listCircles holder =>
      exact effect_of_unchanged rfl (circlesOf_unchanged (s.grantsOf holder) (later clock))
  | listGrants id => exact .answered rfl

/-! ## What stays -/

/-- An operation leaves the records of the kinds that it does not write: members, circles and
signatures. -/
lemma Effect.frame {sv : Service} {s s' : Store} {o : Operation} {r : Except Failure o.Result}
    (e : Effect sv s o r s') :
    (o.writesMember = false → s'.members = s.members) ∧
      (o.writesCircle = false → s'.circles = s.circles) ∧
      (o.writesSignature = false → s'.signatures = s.signatures) := by
  cases e with
  | registered _ wrote =>
      obtain ⟨-, -, rfl, rfl⟩ := Store.insertMember_eq_ok.1 wrote
      exact ⟨nofun, fun _ => rfl, fun _ => rfl⟩
  | reprotected _ _ wrote =>
      obtain ⟨_, -, -, rfl, rfl⟩ := Store.updateMember_eq_ok.1 wrote
      exact ⟨nofun, fun _ => rfl, fun _ => rfl⟩
  | founded _ _ _ wrote =>
      obtain ⟨-, -, -, -, -, -, rfl, rfl⟩ := Store.createCircle_eq_ok.1 wrote
      exact ⟨fun _ => rfl, nofun, fun _ => rfl⟩
  | granted _ _ _ _ _ _ _ _ wrote =>
      obtain ⟨-, -, -, -, rfl, rfl⟩ := Store.insertGrant_eq_ok.1 wrote
      exact ⟨fun _ => rfl, fun _ => rfl, fun _ => rfl⟩
  | revoked _ _ _ _ _ wrote =>
      obtain ⟨-, rfl⟩ := Store.deleteGrant_eq_ok.1 wrote
      exact ⟨fun _ => rfl, fun _ => rfl, fun _ => rfl⟩
  | relevelled _ _ _ _ _ _ wrote =>
      obtain ⟨_, -, -, rfl, rfl⟩ := Store.updateGrant_eq_ok.1 wrote
      exact ⟨fun _ => rfl, fun _ => rfl, fun _ => rfl⟩
  | signed _ _ _ wrote =>
      obtain ⟨_, -, rfl, rfl⟩ := Store.upsertSignature_eq_ok.1 wrote
      exact ⟨fun _ => rfl, fun _ => rfl, nofun⟩
  | verified _ _ _ _ wrote =>
      obtain ⟨_, -, rfl, rfl⟩ := Store.upsertSignature_eq_ok.1 wrote
      exact ⟨fun _ => rfl, fun _ => rfl, nofun⟩
  | _ => exact ⟨fun _ => rfl, fun _ => rfl, fun _ => rfl⟩

/-- An operation that only looks something up leaves the store as it is. -/
lemma Effect.unchanged {sv : Service} {s s' : Store} {o : Operation} {r : Except Failure o.Result}
    (e : Effect sv s o r s') (query : o.isQuery = true) : s' = s := by
  cases e <;> first | rfl | cases query

/-- Circles stay as they were founded. -/
theorem Effect.circle_stays {sv : Service} {s s' : Store} {o : Operation}
    {r : Except Failure o.Result} (e : Effect sv s o r s') {id : CircleId} {c : Circle}
    (present : s.circles.get? id = some c) : s'.circles.get? id = some c := by
  have frame := e.frame.2.1
  cases e with
  | founded _ _ _ wrote =>
      obtain ⟨fresh, -, -, -, -, -, rfl, rfl⟩ := Store.createCircle_eq_ok.1 wrote
      exact Table.get?_insert_of_fresh fresh present
  | refused => exact present
  | answered => exact present
  | _ =>
      rw [frame rfl]
      exact present

end Service

end CircleVault
