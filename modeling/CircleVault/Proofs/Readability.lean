import CircleVault.Proofs.Sealing
import CircleVault.Proofs.Transparent
import CircleVault.Proofs.WellFormed

/-!
# Shared data stays readable

Over whole runs, whatever the members do and whoever fails, two things stay true: every member's
private key opens under the passphrase that the ledger has for the member, and every grant holds the
secret that the ledger has for its circle, sealed for its holder's public key.  `Progress.Readable`
is this invariant, and `Effect.readable` shows that every operation keeps it: a new grant seals what
its actor recovered from an older one, and a new passphrase protects the same private key.

A circle's secret never changes, because a circle is founded once.  So what was encrypted for a
circle is decrypted by every member who holds a grant that allows reading, at any later point
(`shared_data_stays_readable`).
-/

namespace CircleVault

open Store

/-- The passphrases and secrets of the ledger open what the store holds. -/
structure Progress.Readable (sv : Service) (p : Progress) : Prop where
  /-- A member's private key is protected under the member's passphrase. -/
  members : ∀ id m, p.store.members.get? id = some m →
    ∃ passphrase key, p.ledger.passphrase id = some passphrase ∧
      m.Protected sv.suite sv.kdf passphrase key
  /-- A grant holds its circle's secret, sealed for its holder. -/
  grants : ∀ g ∈ p.store.grants.values, ∀ m, p.store.members.get? g.member = some m →
    ∃ secret, p.ledger.secret g.circle = some secret ∧
      g.SealedFor sv.suite m.publicKey secret
  /-- Only circles that are there have a secret. -/
  circles : ∀ c secret, p.ledger.secret c = some secret → p.store.circles.get? c ≠ none

namespace Progress.Readable

variable {sv : Service} {p : Progress} {s' : Store}

lemma start : Progress.start.Readable sv where
  members := by simp [Progress.start, Store.empty]
  grants := by simp [Progress.start, Store.empty, Table.values, Table.empty]
  circles := by simp [Progress.start, Ledger.blank]

/-- A grant opens with the current passphrase of its holder, to its circle's secret. -/
lemma unlock (h : p.Readable sv) (wf : p.store.WellFormed) (trusted : sv.suite.RoundTrips)
    {g : Grant} (mem : g ∈ p.store.grants.values) :
    ∃ m passphrase secret, p.store.members.get? g.member = some m ∧
      p.ledger.passphrase g.member = some passphrase ∧ p.ledger.secret g.circle = some secret ∧
      g.unlock sv.suite sv.kdf (m.reread sv.settings.saltCharset) passphrase =
        .ok ⟨secret, none⟩ := by
  obtain ⟨m, found⟩ := Option.ne_none_iff_exists'.1
    (wf.grant_member g.id g (wf.get?_of_mem mem))
  obtain ⟨passphrase, key, current, safe⟩ := h.members g.member m found
  obtain ⟨secret, drawn, sealing⟩ := h.grants g mem m found
  refine ⟨m, passphrase, secret, found, current, drawn, ?_⟩
  rw [safe.reread]
  exact Grant.unlock_sealed trusted (wf.member_id _ _ found).symm sealing
    (Member.unlock_protected trusted safe)

/-- A member's grant opens with the member's current passphrase. -/
lemma unlock_held (h : p.Readable sv) (wf : p.store.WellFormed) (trusted : sv.suite.RoundTrips)
    {b : MemberId} {c : CircleId} {g : Grant} {passphrase : String}
    (held : p.store.grant? b c = some g) (current : p.ledger.passphrase b = some passphrase) :
    ∃ m secret, p.store.member? g.member = some m ∧ p.ledger.secret c = some secret ∧
      g.unlock sv.suite sv.kdf (m.reread sv.settings.saltCharset) passphrase =
        .ok ⟨secret, none⟩ := by
  obtain ⟨mem, rfl, rfl⟩ := mem_grants_of_grant? held
  obtain ⟨m, passphrase', secret, found, current', known, opens⟩ := h.unlock wf trusted mem
  obtain rfl := Option.some.inj (current'.symm.trans current)
  exact ⟨m, secret, found, known, opens⟩

/-- Members have public keys that can be read, where those that belong to private keys can. -/
lemma readPublicKey (h : p.Readable sv)
    (parses : sv.suite.ParsesKeys) {id : MemberId}
    {m : Member} (found : p.store.member? id = some m) :
    ∃ recipient, m.readPublicKey sv.suite = .ok recipient := by
  obtain ⟨_, key, -, safe⟩ := h.members id m found
  refine ⟨key.publicKey sv.suite, ?_⟩
  exact PublicKey.ofText_eq_ok_iff.2 ⟨safe.own.symm, parses key.seed⟩

/-- Whatever is recovered through a grant is its circle's secret. -/
lemma secret_of_unlock (h : p.Readable sv) (trusted : sv.suite.RoundTrips) {g : Grant} {m : Member}
    (mem : g ∈ p.store.grants.values) (holder : p.store.members.get? g.member = some m)
    {charset : Charset} {passphrase : String} {found : SecretKey}
    (opened : g.unlock sv.suite sv.kdf (m.reread charset) passphrase = .ok found) :
    p.ledger.secret g.circle = some found.bytes := by
  obtain ⟨secret, drawn, sealing⟩ := h.grants g mem m holder
  rw [Grant.eq_of_unlock_sealed (m := m.reread charset) trusted sealing opened, drawn]

/-! ## One write -/

/-- A member's record is written: the grants stay sealed for the public key they were sealed for. -/
lemma putMember (h : p.Readable sv) {id : MemberId} {m : Member} {passphrase : String}
    (safe : ∃ key, m.Protected sv.suite sv.kdf passphrase key)
    (same : ∀ g ∈ p.store.grants.values, g.member = id →
      ∃ m', p.store.members.get? id = some m' ∧ m'.publicKey = m.publicKey)
    (members : s'.members = p.store.members.insert id m) (grants : s'.grants = p.store.grants)
    (circles : s'.circles = p.store.circles) :
    Readable sv ⟨s', { p.ledger with
      passphrase := Function.update p.ledger.passphrase id (some passphrase) }⟩ where
  members id' o found := by
    simp only [members, Table.get?_insert] at found
    by_cases own : id' = id
    · rw [if_pos own, Option.some.injEq] at found
      subst found
      obtain ⟨key, safe⟩ := safe
      exact ⟨passphrase, key, by simp [own], safe⟩
    · rw [if_neg own] at found
      obtain ⟨passphrase', key', current, safe'⟩ := h.members id' o found
      exact ⟨passphrase', key', by simp [own, current], safe'⟩
  grants g mem o found := by
    simp only [grants] at mem
    simp only [members, Table.get?_insert] at found
    by_cases own : g.member = id
    · rw [if_pos own, Option.some.injEq] at found
      subst found
      obtain ⟨m', there, publicKey⟩ := same g mem own
      exact publicKey ▸ h.grants g mem m' (own ▸ there)
    · rw [if_neg own] at found
      exact h.grants g mem o found
  circles c secret drawn := by
    simp only [circles]
    exact h.circles c secret drawn

/-- A grant is written, sealed for its holder; the ledger may learn the secret of a circle that has
no grants yet. -/
lemma putGrant (h : p.Readable sv) {g : Grant} {L : Ledger}
    (sealing : ∀ m, p.store.members.get? g.member = some m →
      ∃ secret, L.secret g.circle = some secret ∧ g.SealedFor sv.suite m.publicKey secret)
    (passphrases : L.passphrase = p.ledger.passphrase)
    (secrets : ∀ o ∈ p.store.grants.values, L.secret o.circle = p.ledger.secret o.circle)
    (circles : ∀ c secret, L.secret c = some secret → s'.circles.get? c ≠ none)
    (members : s'.members = p.store.members)
    {id : GrantId} (grants : s'.grants = p.store.grants.insert id g) : Readable sv ⟨s', L⟩ where
  members id m found := by
    simp only [members] at found
    simp only [passphrases]
    exact h.members id m found
  grants o mem m found := by
    simp only [members] at found
    simp only [grants] at mem
    obtain rfl | mem := Table.mem_values_of_insert mem
    · exact sealing m found
    · simp only [secrets o mem]
      exact h.grants o mem m found
  circles := circles

/-- A circle is founded: the ledger learns its secret, which the owner's grant holds. -/
lemma createCircle (h : p.Readable sv) (wf : p.store.WellFormed) {now : Timestamp}
    {f stored : Founded} (wrote : p.store.createCircle now f = .ok stored s')
    {secret : Block 32} {access : AccessMatrix}
    (sealing : ∀ m, p.store.members.get? f.owner.member = some m →
      f.owner.SealedFor sv.suite m.publicKey secret) :
    Readable sv ⟨s', { p.ledger with
      secret := Function.update p.ledger.secret stored.circle.id (some secret)
      access }⟩ := by
  obtain ⟨fresh, -, ⟨-, home, -⟩, -, -, -, rfl, rfl⟩ := createCircle_eq_ok.1 wrote
  refine h.putGrant (fun m found => ?_) rfl (fun o ho => ?_) (fun c drawn known => ?_) rfl rfl
  · refine ⟨secret, ?_, sealing m found⟩
    simp [home]
  · refine Function.update_of_ne (fun same => ?_) _ _
    exact wf.grant_circle o.id o (wf.get?_of_mem ho) (same ▸ fresh)
  · by_cases new : c = f.circle.id
    · simp [new]
    · simp only [Function.update_of_ne new] at known
      simpa [new] using h.circles c drawn known

end Progress.Readable

/-! ## One operation -/

namespace Service

variable {sv : Service} {p : Progress} {s' : Store} {o : Operation} {r : Except Failure o.Result}

/-- A grant that is made for a stored member is sealed for its holder. -/
lemma sealedFor_holder {s : Store} (wf : s.WellFormed) {id : MemberId} {recipient : Member}
    (found : s.member? id = some recipient) {charset : Charset} {secret : SecretKey}
    {k : CircleKey} {level : TrustLevel} {present : List Grant} {drawn : Grant.Draw} {g : Grant}
    (made : Grant.make sv.suite secret k (recipient.reread charset) level present drawn = .ok g)
    (m : Member) (holder : s.members.get? g.member = some m) :
    g.SealedFor sv.suite m.publicKey secret.bytes := by
  obtain ⟨member, -, sealing⟩ := Grant.make_sealedFor made
  have filed := wf.member_id id recipient found
  have same : g.member = id := member.trans filed
  rw [same, ← member?, found] at holder
  cases holder
  exact sealing

/-- Every operation keeps members and grants readable. -/
theorem Effect.readable (h : p.Readable sv) (wf : p.store.WellFormed)
    (trusted : sv.suite.RoundTrips) (e : Effect sv p.store o r s') :
    Progress.Readable sv ⟨s', p.ledger.note o r⟩ := by
  cases e with
  | refused =>
      rw [p.ledger.note_error]
      exact h
  | answered query =>
      rw [p.ledger.note_query query]
      exact h
  | @registered _ _ drawn _ _ _ _ made wrote =>
      obtain ⟨-, -, rfl⟩ := Member.register_eq_ok.1 made
      obtain ⟨fresh, -, rfl, rfl⟩ := insertMember_eq_ok.1 wrote
      refine h.putMember ?_ (fun g mem own => ?_) rfl rfl rfl
      · exact ⟨⟨drawn.seed⟩, ⟨_, rfl⟩, rfl⟩
      · exact absurd (own ▸ fresh) (wf.grant_member g.id g (wf.get?_of_mem mem))
  | reprotected present made wrote =>
      obtain ⟨own, publicKey, key, safe⟩ := Member.changePassphrase_protected made
      have filed := wf.member_id _ _ present
      obtain rfl := own.trans filed
      obtain ⟨_, -, -, rfl, rfl⟩ := updateMember_eq_ok.1 wrote
      refine h.putMember ?_ (fun g mem holder => ?_) rfl rfl rfl
      · exact ⟨key, safe.protects, safe.own⟩
      · exact ⟨_, present, publicKey.symm⟩
  | founded present made granted wrote =>
      obtain ⟨-, rfl⟩ := Founding.make_eq_ok.1 made
      have sealing := sealedFor_holder wf present granted
      exact h.createCircle wf wrote sealing
  | granted held admin within present found opener opened made wrote =>
      have sealing := sealedFor_holder wf present made
      obtain ⟨-, circle, -⟩ := Grant.make_sealedFor made
      obtain ⟨mem, -, here⟩ := mem_grants_of_grant? held
      -- What the actor's own grant opened to is the secret of the circle that the new one joins.
      have drawn := h.secret_of_unlock trusted mem opener opened
      rw [here, ← wf.key_of_grant? held found, ← circle] at drawn
      obtain ⟨-, -, -, -, rfl, rfl⟩ := insertGrant_eq_ok.1 wrote
      refine h.putGrant (fun m holder => ?_) rfl (fun _ _ => rfl) h.circles rfl rfl
      exact ⟨_, drawn, sealing m holder⟩
  | revoked held admin taken within kept wrote =>
      obtain ⟨-, rfl⟩ := deleteGrant_eq_ok.1 wrote
      exact ⟨h.members, fun g mem => h.grants g (Table.mem_values_of_erase mem), h.circles⟩
  | relevelled held admin taken within granted kept wrote =>
      obtain ⟨_, -, -, rfl, rfl⟩ := updateGrant_eq_ok.1 wrote
      obtain ⟨mem, -, -⟩ := mem_grants_of_grant? (wf.remove_grantsIn taken).1
      have sealing := h.grants _ mem
      -- A level is no part of what a grant is sealed to.
      refine h.putGrant ?_ rfl (fun _ _ => rfl) h.circles rfl rfl
      exact sealing
  | signed present unsigned opened wrote =>
      obtain ⟨_, -, -, rfl⟩ := upsertSignature_eq_ok.1 wrote
      exact ⟨h.members, h.grants, h.circles⟩
  | verified present parsed found success wrote =>
      obtain ⟨_, -, -, rfl⟩ := upsertSignature_eq_ok.1 wrote
      exact ⟨h.members, h.grants, h.circles⟩
  | unverified => exact h

/-- A circle's secret stays what was drawn when the circle was founded. -/
lemma Effect.secret_stays (h : p.Readable sv) (e : Effect sv p.store o r s') {c : CircleId}
    {secret : Block 32} (drawn : p.ledger.secret c = some secret) :
    (p.ledger.note o r).secret c = some secret := by
  cases e with
  | refused => rwa [p.ledger.note_error]
  | answered query => rwa [p.ledger.note_query query]
  | founded present made granted wrote =>
      obtain ⟨fresh, -, -, -, -, -, rfl, -⟩ := createCircle_eq_ok.1 wrote
      have other : c ≠ _ := fun same => h.circles c secret drawn (same ▸ fresh)
      exact (Function.update_of_ne other _ _).trans drawn
  | _ => exact drawn

/-! ## Data -/

section Data

open Program

variable {actor b : MemberId} {c : CircleId} {plaintext : Bytes} {drawn : Block 16}
  {clock : Nat → Timestamp}

/-- What is encrypted for a circle is encrypted under the circle's secret. -/
lemma encrypt_meets (h : p.Readable sv) (trusted : sv.suite.RoundTrips) (passphrase : String)
    (clock : Nat → Timestamp) :
    (sv.encrypt actor passphrase c plaintext drawn).Meets clock p.store fun r _ =>
      ∀ d, r = .ok d → ∃ secret, p.ledger.secret c = some secret ∧
        d = Ciphertext.encrypt sv.suite ⟨secret, none⟩ (.ofBytes drawn) plaintext := by
  refine .authorize (fun own held _ => ?_) (fun _ => nofun) (fun _ _ _ => nofun)
  refine .secretOf (fun holder secret found opened => .result ?_) (fun _ => nofun)
    (fun _ _ _ _ => nofun)
  rintro d ⟨⟩
  obtain ⟨mem, -, circle⟩ := mem_grants_of_grant? held
  exact ⟨secret.bytes, circle ▸ h.secret_of_unlock trusted mem found opened, rfl⟩

/-- Who may read a circle's data has it decrypted under the secret that the own grant opens to. -/
lemma decrypt_of_unlock {s : Store} {own : Grant} {holder : Member} {passphrase : String}
    {secret : SecretKey} (data : Ciphertext) (held : s.grant? actor c = some own)
    (reads : .read ≤ own.level) (found : s.member? own.member = some holder)
    (opened : own.unlock sv.suite sv.kdf (holder.reread sv.settings.saltCharset) passphrase =
      .ok secret) :
    (sv.decrypt actor passphrase c data).Meets clock s fun r _ =>
      r = (data.reread sv.settings.saltCharset).decrypt sv.suite secret :=
  .authorize_held held reads (.secretOf_opened found opened (.done rfl))

/-- Who may write in a circle encrypts under the circle's secret. -/
lemma encrypt_held (h : p.Readable sv) (wf : p.store.WellFormed) (trusted : sv.suite.RoundTrips)
    {g : Grant} {passphrase : String} {secret : Block 32} (held : p.store.grant? b c = some g)
    (writes : .write ≤ g.level) (current : p.ledger.passphrase b = some passphrase)
    (known : p.ledger.secret c = some secret) :
    (sv.encrypt b passphrase c plaintext drawn).Meets clock p.store fun r _ =>
      r = .ok (Ciphertext.encrypt sv.suite ⟨secret, none⟩ (.ofBytes drawn) plaintext) := by
  obtain ⟨m, secret', found, known', opens⟩ := h.unlock_held wf trusted held current
  obtain rfl := Option.some.inj (known'.symm.trans known)
  exact .authorize_held held writes (.secretOf_opened found opens (.result rfl))

/-- Who may read a circle's data decrypts what was encrypted under the circle's secret. -/
lemma decrypt_meets (h : p.Readable sv) (wf : p.store.WellFormed) (trusted : sv.suite.RoundTrips)
    {g : Grant} {passphrase : String} {secret : Block 32} (held : p.store.grant? b c = some g)
    (reads : .read ≤ g.level) (current : p.ledger.passphrase b = some passphrase)
    (known : p.ledger.secret c = some secret) :
    (sv.decrypt b passphrase c
      (Ciphertext.encrypt sv.suite ⟨secret, none⟩ (.ofBytes drawn) plaintext)).Meets clock p.store
      fun r _ => r = .ok plaintext := by
  obtain ⟨m, secret', found, known', opens⟩ := h.unlock_held wf trusted held current
  obtain rfl := Option.some.inj (known'.symm.trans known)
  refine (decrypt_of_unlock _ held reads found opens).trans ?_
  rw [Ciphertext.reread_encrypt, Ciphertext.decrypt_encrypt trusted.openData_sealData]

end Data

/-! ## Runs -/

lemma readable_proceedAll (sv : Service) (trusted : sv.suite.RoundTrips) (wf : p.store.WellFormed)
    (h : p.Readable sv) (run : List Turn) :
    (sv.proceedAll p run).store.WellFormed ∧ (sv.proceedAll p run).Readable sv ∧
      ∀ c secret, p.ledger.secret c = some secret →
        (sv.proceedAll p run).ledger.secret c = some secret := by
  refine proceedAll_invariant (P := fun q => q.store.WellFormed ∧ q.Readable sv ∧
    ∀ c secret, p.ledger.secret c = some secret → q.ledger.secret c = some secret) run ?_
    ⟨wf, h, fun _ _ drawn => drawn⟩
  rintro q t - ⟨wf, h, stays⟩
  have e := sv.serve_effect q.store t
  exact ⟨wf.effect e, e.readable h wf trusted,
    fun c secret drawn => e.secret_stays h (stays c secret drawn)⟩

/-- **Shared data stays readable.**  After every run, what an operation of the run encrypted for a
circle is decrypted by every member who holds a grant in the circle that allows reading, with the
member's current passphrase; and every grant opens with its holder's current passphrase to the
secret that was drawn when its circle was founded. -/
theorem shared_data_stays_readable (sv : Service) (trusted : sv.suite.RoundTrips)
    (run : List Turn) :
    (∀ before actor passphrase c plaintext drawn clock later d,
      run = before ++ ⟨.encrypt actor passphrase c plaintext drawn, clock⟩ :: later →
      (sv.serve (sv.after before).store
        ⟨.encrypt actor passphrase c plaintext drawn, clock⟩).1 = .ok d →
      ∀ b g current clock', (sv.after run).store.grant? b c = some g → .read ≤ g.level →
        (sv.after run).ledger.passphrase b = some current →
        (sv.serve (sv.after run).store ⟨.decrypt b current c d, clock'⟩).1 = .ok plaintext) ∧
    ∀ g ∈ (sv.after run).store.grants.values, ∃ m current secret,
      (sv.after run).store.member? g.member = some m ∧
        (sv.after run).ledger.passphrase g.member = some current ∧
        (sv.after run).ledger.secret g.circle = some secret ∧
        g.unlock sv.suite sv.kdf (m.reread sv.settings.saltCharset) current =
          .ok ⟨secret, none⟩ := by
  have start := readable_proceedAll sv trusted WellFormed.empty Progress.Readable.start
  refine ⟨?_, fun g mem => (start run).2.1.unlock (start run).1 trusted mem⟩
  rintro before actor passphrase c plaintext drawn clock later d rfl encrypted b g current clock'
    held reads mine
  obtain ⟨wf, h, -⟩ := start before
  obtain ⟨secret, known, rfl⟩ :=
    encrypt_meets h trusted passphrase clock d encrypted
  rw [after_append] at held mine ⊢
  obtain ⟨wf', h', stays⟩ := readable_proceedAll sv trusted wf h
    (⟨.encrypt actor passphrase c plaintext drawn, clock⟩ :: later)
  exact decrypt_meets h' wf' trusted held reads mine (stays c secret known)

lemma transparent_roundTrips : Suite.transparent.RoundTrips where
  openData_sealData := Suite.transparent_sound.openData_sealData
  unwrap_wrap := Suite.transparent_sound.unwrap_wrap
  agree_comm := Suite.transparent_sound.agree_comm
  length_wrap key nonce secret := by simp [Suite.transparent, Suite.attach]

open SmallCircle in
/-- Alice encrypts two bytes in her circle. -/
def message : Turn := turn 50 (.encrypt alice "correct horse" club [104, 105] (drawn 16 6))

open SmallCircle in
/-- Bob changes his passphrase, and fails to change Alice's. -/
def changes : List Turn :=
  [turn 60 (.changePassphrase bob "battery staple" "tr0ub4dor&3" (protection 9)),
    turn 70 (.changePassphrase alice "tr0ub4dor&3" "battery staple" (protection 9))]

open SmallCircle in
theorem shared_data_stays_readable_smallCircle :
    ∃ d, (service.serve (service.after founded).store message).1 = .ok d ∧
      (service.serve (service.after (founded ++ message :: changes)).store
        (turn 80 (.decrypt bob "tr0ub4dor&3" club d))).1 = .ok [104, 105] := by
  have encrypts :
      (service.serve (service.after founded).store message).1.toOption.isSome = true := by
    decide +kernel
  have level : ((service.after (founded ++ message :: changes)).store.grant? bob club).map
      Grant.level = some .write := by
    decide +kernel
  have current : (service.after (founded ++ message :: changes)).ledger.passphrase bob =
      some "tr0ub4dor&3" := by
    decide +kernel
  obtain ⟨g, held, writes⟩ := Option.map_eq_some_iff.1 level
  cases encrypted : (service.serve (service.after founded).store message).1 with
  | error e =>
      rw [encrypted] at encrypts
      cases encrypts
  | ok d =>
      have readable := shared_data_stays_readable service transparent_roundTrips
        (founded ++ message :: changes)
      exact ⟨d, rfl, readable.1 founded alice "correct horse" club [104, 105] (drawn 16 6) _ changes
        d rfl encrypted bob g "tr0ub4dor&3" _ held (writes ▸ by decide) current⟩

end Service

end CircleVault
