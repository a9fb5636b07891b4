import CircleVault.Proofs.Calls

/-!
# Entries

The store files records of five kinds, and the writes of each kind follow one rule.  An `Entry` is a
record of any kind, filed under its `Entry.Name`, so that the rule can be said once: every record
that an accepted call is given gets the moment of the write for its `altered`, and for its `added`
what the record in its place has, or, where there is none, the same moment (`Store.stamp`).  Only a
signature record that is the first of its name keeps the `added` that it is given.

`Store.Comes` is all that a call can come to: nothing, a grant removed, or the given entries
stamped and filed, of which an insertion finds none there.  What is said below about entries, and
about entries after any calls in a row, is drawn from it and from nothing else of the store.
-/

namespace CircleVault

/-- A record of the store, of any kind. -/
inductive Entry where
  | member (m : Member)
  | circle (c : Circle)
  | key (k : CircleKey)
  | grant (g : Grant)
  | signature (r : SignedRecord)
deriving DecidableEq

namespace Entry

/-- What an entry is filed under. -/
inductive Name where
  | member (id : MemberId)
  | circle (id : CircleId)
  | key (id : KeyId)
  | grant (id : GrantId)
  | signature (checksum : Checksum) (publicKey : String)
deriving DecidableEq

def name : Entry → Name
  | member m => .member m.id
  | circle c => .circle c.id
  | key k => .key k.id
  | grant g => .grant g.id
  | signature r => .signature r.checksum r.publicKey

def added : Entry → Timestamp
  | member m => m.added
  | circle c => c.added
  | key k => k.added
  | grant g => g.added
  | signature r => r.added

def altered : Entry → Timestamp
  | member m => m.altered
  | circle c => c.altered
  | key k => k.altered
  | grant g => g.altered
  | signature r => r.altered

/-- The entry with other timestamps. -/
def stamped (added altered : Timestamp) : Entry → Entry
  | member m => .member { m with added, altered }
  | circle c => .circle { c with added, altered }
  | key k => .key { k with added, altered }
  | grant g => .grant { g with added, altered }
  | signature r => .signature { r with added, altered }

def isSignature : Entry → Bool
  | signature _ => true
  | _ => false

/-- The `added` of an entry that is the first of its name, written at some moment. -/
def firstAdded (t : Timestamp) : Entry → Timestamp
  | signature r => r.added
  | _ => t

variable (e : Entry) (t t' : Timestamp)

@[simp] lemma name_stamped : (e.stamped t t').name = e.name := by cases e <;> rfl

@[simp] lemma added_stamped : (e.stamped t t').added = t := by cases e <;> rfl

@[simp] lemma altered_stamped : (e.stamped t t').altered = t' := by cases e <;> rfl

@[simp] lemma isSignature_stamped : (e.stamped t t').isSignature = e.isSignature := by
  cases e <;> rfl

end Entry

/-! ## What a call gives and gets back -/

namespace Call

/-- The entries that a call asks to store. -/
def given : Call → List Entry
  | .insertMember m | .updateMember m => [.member m]
  | .insertCircle c => [.circle c]
  | .createCircle f => [.circle f.circle, .key f.key, .grant f.owner]
  | .insertKey k | .updateKey k => [.key k]
  | .insertGrant g | .updateGrant g => [.grant g]
  | .upsertSignature r => [.signature r]
  | _ => []

/-- Whether a call inserts new records. -/
def isInsertion : Call → Bool
  | .insertMember _ | .insertCircle _ | .createCircle _ | .insertKey _ | .insertGrant _ => true
  | _ => false

/-- What an accepted call returns, as entries or names. -/
def ofAccepted {α β : Type} (f : α → List β) : Except StoreFailure α → List β
  | .ok a => f a
  | .error _ => []

/-- The entries that the store returns for a call that it has accepted. -/
def written : (c : Call) → c.Answer → List Entry
  | .insertMember _, a => ofAccepted (fun m => [.member m]) a
  | .updateMember _, a => ofAccepted (fun m => [.member m]) a
  | .insertCircle _, a => ofAccepted (fun c => [.circle c]) a
  | .createCircle _, a =>
      ofAccepted (fun f : Store.Founded => [.circle f.circle, .key f.key, .grant f.owner]) a
  | .insertKey _, a => ofAccepted (fun k => [.key k]) a
  | .updateKey _, a => ofAccepted (fun k => [.key k]) a
  | .insertGrant _, a => ofAccepted (fun g => [.grant g]) a
  | .updateGrant _, a => ofAccepted (fun g => [.grant g]) a
  | .upsertSignature _, a => ofAccepted (fun r => [.signature r]) a
  | _, _ => []

/-- The names whose entries an accepted call removes. -/
def removed : (c : Call) → c.Answer → List Entry.Name
  | .deleteGrant id, a => ofAccepted (fun _ => [.grant id]) a
  | _, _ => []

/-- An insertion is given no signature record. -/
lemma isSignature_given {c : Call} (inserts : c.isInsertion = true) :
    ∀ e ∈ c.given, e.isSignature = false := by
  cases c <;> simp [isInsertion, given, Entry.isSignature] at inserts ⊢

/-- No call is given two entries of one name. -/
lemma nodup_names_given (c : Call) : (c.given.map Entry.name).Nodup := by
  cases c <;> simp [given, Entry.name]

end Call

/-! ## Filing -/

namespace Store

/-- The entry filed under a name. -/
def filed? (s : Store) : Entry.Name → Option Entry
  | .member id => (s.members.get? id).map .member
  | .circle id => (s.circles.get? id).map .circle
  | .key id => (s.keys.get? id).map .key
  | .grant id => (s.grants.get? id).map .grant
  | .signature checksum publicKey => (s.signatures.get? (checksum, publicKey)).map .signature

/-- What looking up the record of an entry finds: a grant by its member and circle, a signature by
its checksum and public key, and any other record by its identifier. -/
def lookup (s : Store) : Entry → Option Entry
  | .member m => (s.member? m.id).map .member
  | .circle c => (s.circle? c.id).map .circle
  | .key k => (s.key? k.id).map .key
  | .grant g => (s.grant? g.member g.circle).map .grant
  | .signature r => (s.signature? r.checksum r.publicKey).map .signature

/-- File an entry under its name. -/
def put (s : Store) : Entry → Store
  | .member m => { s with members := s.members.insert m.id m }
  | .circle c => { s with circles := s.circles.insert c.id c }
  | .key k => { s with keys := s.keys.insert k.id k }
  | .grant g => { s with grants := s.grants.insert g.id g }
  | .signature r => { s with signatures := s.signatures.insert (r.checksum, r.publicKey) r }

def putAll (s : Store) (entries : List Entry) : Store := entries.foldl put s

variable {s s' : Store} {now : Timestamp} {n : Entry.Name} {e : Entry}

/-- Entries of one name are of one kind. -/
lemma isSignature_of_filed {present : Entry} (there : s.filed? e.name = some present) :
    present.isSignature = e.isSignature := by
  cases e <;> obtain ⟨_, -, rfl⟩ := Option.map_eq_some_iff.1 there <;> rfl

lemma filed?_put : (s.put e).filed? n = if n = e.name then some e else s.filed? n := by
  cases e <;> cases n <;> simp [put, filed?, Entry.name] <;> split <;> simp

lemma filed?_putAll_of_not_mem {entries : List Entry} (other : n ∉ entries.map Entry.name) :
    (s.putAll entries).filed? n = s.filed? n := by
  induction entries generalizing s with
  | nil => rfl
  | cons e rest ih =>
      rw [List.map_cons, List.mem_cons, not_or] at other
      show ((s.put e).putAll rest).filed? n = s.filed? n
      rw [ih other.2, filed?_put, if_neg other.1]

lemma filed?_putAll_of_mem {entries : List Entry} (nodup : (entries.map Entry.name).Nodup)
    (mem : e ∈ entries) : (s.putAll entries).filed? e.name = some e := by
  induction entries generalizing s with
  | nil => cases mem
  | cons e' rest ih =>
      rw [List.map_cons, List.nodup_cons] at nodup
      show ((s.put e').putAll rest).filed? e.name = some e
      rcases List.mem_cons.1 mem with rfl | mem
      · rw [filed?_putAll_of_not_mem nodup.1, filed?_put, if_pos rfl]
      · exact ih nodup.2 mem

/-! ## Stamping -/

/-- The `added` that an entry gets when it is written at some moment. -/
def addedFor (s : Store) (t : Timestamp) (e : Entry) : Timestamp :=
  match s.filed? e.name with
  | some present => present.added
  | none => e.firstAdded t

/-- An entry as it is stored at some moment. -/
def stamp (s : Store) (t : Timestamp) (e : Entry) : Entry := e.stamped (s.addedFor t e) t

/-- What a call comes to: the entries written, the names removed, and the store after it. -/
inductive Comes (s : Store) (now : Timestamp) (c : Call) :
    List Entry → List Entry.Name → Store → Prop
  | idle : Comes s now c [] [] s
  | removed (id : GrantId) : Comes s now c [] [.grant id] { s with grants := s.grants.erase id }
  | wrote (fresh : c.isInsertion = true → ∀ e ∈ c.given, s.filed? e.name = none) :
      Comes s now c (c.given.map (s.stamp (s.tick now))) []
        { s.putAll (c.given.map (s.stamp (s.tick now))) with clock := s.tick now }

lemma stamp_of_fresh {t : Timestamp} (fresh : s.filed? e.name = none) :
    s.stamp t e = e.stamped (e.firstAdded t) t := by
  unfold stamp addedFor
  rw [fresh]

lemma stamp_of_present {t : Timestamp} {present : Entry} (there : s.filed? e.name = some present) :
    s.stamp t e = e.stamped present.added t := by
  unfold stamp addedFor
  rw [there]

/-- A signature record that is accepted gets the `added` of the one in its place, or its own. -/
lemma addedFor_signature {r : SignedRecord} {added t : Timestamp}
    (settled : s.signatureAdded r = .ok added) : s.addedFor t (.signature r) = added := by
  unfold signatureAdded at settled
  cases found : s.signatures.get? (r.checksum, r.publicKey) with
  | none =>
      rw [found] at settled
      have absent : s.filed? (Entry.signature r).name = none := Option.map_eq_none_iff.2 found
      unfold addedFor
      rw [absent]
      exact Except.ok.inj settled
  | some present =>
      rw [found] at settled
      have there : s.filed? (Entry.signature r).name = some (.signature present) :=
        Option.map_eq_some_iff.2 ⟨present, found, rfl⟩
      unfold addedFor
      rw [there]
      by_cases next : r.verifications = present.verifications + 1
      · simp only [if_pos next] at settled
        exact Except.ok.inj settled
      · simp only [if_neg next] at settled
        split at settled <;> cases settled

/-! ## What calls come to -/

variable {c : Call}

lemma comes_of_stamped {entries : List Entry}
    (stamped : c.given.map (s.stamp (s.tick now)) = entries)
    (filed : s' = { s.putAll entries with clock := s.tick now })
    (fresh : c.isInsertion = true → ∀ e ∈ c.given, s.filed? e.name = none) :
    s.Comes now c entries [] s' := by
  subst stamped filed
  exact .wrote fresh

/-- A call writes one entry, the first of its name. -/
lemma comes_of_fresh (given : c.given = [e]) (absent : s.filed? e.name = none) :
    s.Comes now c [e.stamped (e.firstAdded (s.tick now)) (s.tick now)] []
      { s.put (e.stamped (e.firstAdded (s.tick now)) (s.tick now)) with clock := s.tick now } := by
  refine comes_of_stamped ?_ rfl ?_
  · rw [given, List.map_singleton, stamp_of_fresh absent]
  · intro _ e' mem
    rw [given, List.mem_singleton] at mem
    rwa [mem]

/-- A call that does not insert writes one entry in the place of another. -/
lemma comes_of_present {present : Entry} (updates : c.isInsertion = false) (given : c.given = [e])
    (there : s.filed? e.name = some present) :
    s.Comes now c [e.stamped present.added (s.tick now)] []
      { s.put (e.stamped present.added (s.tick now)) with clock := s.tick now } := by
  refine comes_of_stamped ?_ rfl ?_
  · rw [given, List.map_singleton, stamp_of_present there]
  · intro inserts
    rw [updates] at inserts
    cases inserts

/-- A refused write comes to nothing, whatever it would have written. -/
lemma comes_settle {α : Type} {w : Write α} {f : α → List Entry} (spares : w.Spares s)
    (accepted : ∀ a s', w = .ok a s' → s.Comes now c (f a) [] s') :
    s.Comes now c (Call.ofAccepted f (settle w).1) [] (settle w).2 := by
  cases w with
  | error e s' =>
      obtain rfl := spares e s' rfl
      exact .idle
  | ok a s' => exact accepted a s' rfl

/-- **Every call comes to what it may.** -/
theorem answer_comes (s : Store) (now : Timestamp) (c : Call) :
    s.Comes now c (c.written (s.answer now c).1) (c.removed (s.answer now c).1)
      (s.answer now c).2 := by
  cases c with
  | insertMember m =>
      refine comes_settle insertMember_spares fun stored s' wrote => ?_
      obtain ⟨fresh, -, rfl, rfl⟩ := insertMember_eq_ok.1 wrote
      have absent : s.filed? (Entry.member m).name = none := Option.map_eq_none_iff.2 fresh
      exact comes_of_fresh rfl absent
  | updateMember m =>
      refine comes_settle updateMember_spares fun stored s' wrote => ?_
      obtain ⟨present, found, -, rfl, rfl⟩ := updateMember_eq_ok.1 wrote
      have there : s.filed? (Entry.member m).name = some (.member present) :=
        Option.map_eq_some_iff.2 ⟨present, found, rfl⟩
      exact comes_of_present rfl rfl there
  | insertCircle c =>
      refine comes_settle insertCircle_spares fun stored s' wrote => ?_
      obtain ⟨fresh, -, rfl, rfl⟩ := insertCircle_eq_ok.1 wrote
      have absent : s.filed? (Entry.circle c).name = none := Option.map_eq_none_iff.2 fresh
      exact comes_of_fresh rfl absent
  | createCircle f =>
      refine comes_settle createCircle_spares fun stored s' wrote => ?_
      obtain ⟨freshCircle, -, -, freshKey, -, freshGrant, rfl, rfl⟩ := createCircle_eq_ok.1 wrote
      have circle : s.filed? (Entry.circle f.circle).name = none :=
        Option.map_eq_none_iff.2 freshCircle
      have key : s.filed? (Entry.key f.key).name = none := Option.map_eq_none_iff.2 freshKey
      have grant : s.filed? (Entry.grant f.owner).name = none := Option.map_eq_none_iff.2 freshGrant
      refine comes_of_stamped ?_ rfl ?_
      · simp only [Call.given, List.map_cons, List.map_nil, stamp_of_fresh circle,
          stamp_of_fresh key, stamp_of_fresh grant]
        rfl
      · simp [Call.given, circle, key, grant]
  | insertKey k =>
      refine comes_settle insertKey_spares fun stored s' wrote => ?_
      obtain ⟨-, fresh, -, rfl, rfl⟩ := insertKey_eq_ok.1 wrote
      have absent : s.filed? (Entry.key k).name = none := Option.map_eq_none_iff.2 fresh
      exact comes_of_fresh rfl absent
  | updateKey k =>
      refine comes_settle updateKey_spares fun stored s' wrote => ?_
      obtain ⟨present, found, -, rfl, rfl⟩ := updateKey_eq_ok.1 wrote
      have there : s.filed? (Entry.key k).name = some (.key present) :=
        Option.map_eq_some_iff.2 ⟨present, found, rfl⟩
      exact comes_of_present rfl rfl there
  | insertGrant g =>
      refine comes_settle insertGrant_spares fun stored s' wrote => ?_
      obtain ⟨-, -, fresh, -, rfl, rfl⟩ := insertGrant_eq_ok.1 wrote
      have absent : s.filed? (Entry.grant g).name = none := Option.map_eq_none_iff.2 fresh
      exact comes_of_fresh rfl absent
  | updateGrant g =>
      refine comes_settle updateGrant_spares fun stored s' wrote => ?_
      obtain ⟨present, found, -, rfl, rfl⟩ := updateGrant_eq_ok.1 wrote
      have there : s.filed? (Entry.grant g).name = some (.grant present) :=
        Option.map_eq_some_iff.2 ⟨present, found, rfl⟩
      exact comes_of_present rfl rfl there
  | deleteGrant id =>
      show s.Comes now _ [] (Call.ofAccepted _ (settle (s.deleteGrant id)).1)
        (settle (s.deleteGrant id)).2
      cases wrote : s.deleteGrant id with
      | error e s' =>
          obtain rfl := deleteGrant_spares e s' wrote
          exact .idle
      | ok u s' =>
          obtain ⟨-, rfl⟩ := deleteGrant_eq_ok.1 wrote
          exact .removed id
  | upsertSignature r =>
      refine comes_settle upsertSignature_spares fun stored s' wrote => ?_
      obtain ⟨added, settled, rfl, rfl⟩ := upsertSignature_eq_ok.1 wrote
      refine comes_of_stamped ?_ rfl nofun
      simp only [Call.given, List.map_cons, List.map_nil, stamp, addedFor_signature settled]
      rfl
  | _ => exact .idle

/-! ## Entries after a call -/

variable {W : List Entry} {R : List Entry.Name}

lemma filed?_clock (s : Store) (t : Timestamp) (n : Entry.Name) :
    { s with clock := t }.filed? n = s.filed? n := by
  cases n <;> rfl

lemma filed?_erase_other {id : GrantId} (other : n ≠ .grant id) :
    { s with grants := s.grants.erase id }.filed? n = s.filed? n := by
  cases n with
  | grant id' =>
      have ne : id' ≠ id := fun same => other (congrArg Entry.Name.grant same)
      simp [filed?, ne]
  | _ => rfl

lemma names_stamped (t : Timestamp) (entries : List Entry) :
    (entries.map (s.stamp t)).map Entry.name = entries.map Entry.name := by
  rw [List.map_map]
  exact List.map_congr_left fun e _ => Entry.name_stamped e _ _

/-- What a call neither writes nor removes stays as it is. -/
lemma Comes.filed?_of_untouched (h : s.Comes now c W R s')
    (unwritten : ∀ e ∈ W, e.name ≠ n) (kept : n ∉ R) : s'.filed? n = s.filed? n := by
  cases h with
  | idle => rfl
  | removed id => exact filed?_erase_other (List.ne_of_not_mem_cons kept)
  | wrote =>
      rw [filed?_clock]
      apply filed?_putAll_of_not_mem
      intro mem
      obtain ⟨e, wrote, same⟩ := List.mem_map.1 mem
      exact unwritten e wrote same

/-- What a call writes is there. -/
lemma Comes.filed?_of_written (h : s.Comes now c W R s') (mem : e ∈ W) :
    s'.filed? e.name = some e := by
  cases h with
  | idle => cases mem
  | removed id => cases mem
  | wrote =>
      have nodup := c.nodup_names_given
      rw [← names_stamped (s.tick now)] at nodup
      rw [filed?_clock]
      exact filed?_putAll_of_mem nodup mem

/-- An entry that is not removed keeps its `added`, whatever is written in its place. -/
lemma Comes.added_stays (h : s.Comes now c W R s') (found : s.filed? n = some e)
    (kept : n ∉ R) : ∃ e', s'.filed? n = some e' ∧ e'.added = e.added := by
  by_cases unwritten : ∀ e' ∈ W, e'.name ≠ n
  · exact ⟨e, (h.filed?_of_untouched unwritten kept).trans found, rfl⟩
  · -- What is written in its place was stamped with the `added` that is there.
    push Not at unwritten
    obtain ⟨e', mem, rfl⟩ := unwritten
    refine ⟨e', h.filed?_of_written mem, ?_⟩
    cases h with
    | idle => cases mem
    | removed id => cases mem
    | wrote =>
        obtain ⟨g, -, rfl⟩ := List.mem_map.1 mem
        have there : s.filed? g.name = some e := by rwa [stamp, Entry.name_stamped] at found
        rw [stamp_of_present there, Entry.added_stamped]

/-- An entry that is filed is found by looking it up. -/
lemma Integrity.lookup_eq (h : s.Integrity) (found : s.filed? e.name = some e) :
    s.lookup e = some e := by
  cases e with
  | grant g =>
      have stored : s.grants.get? g.id = some g := by simpa [filed?, Entry.name] using found
      have granted := h.grant?_eq_some.2 ⟨Table.mem_values_of_get? stored, rfl, rfl⟩
      exact Option.map_eq_some_iff.2 ⟨g, granted, rfl⟩
  | _ => exact found

/-! ## Entries after any calls in a row -/

/-- The entries that the store returns for a call, if it accepts the call. -/
def written (s : Store) (c : Timestamp × Call) : List Entry := c.2.written (s.answer c.1 c.2).1

/-- The names whose entries a call removes, if the store accepts the call. -/
def removed (s : Store) (c : Timestamp × Call) : List Entry.Name :=
  c.2.removed (s.answer c.1 c.2).1

/-- The entries that the store returns for calls, one after another. -/
def writtenAll (s : Store) : List (Timestamp × Call) → List Entry
  | [] => []
  | c :: rest => s.written c ++ (s.answer c.1 c.2).2.writtenAll rest

/-- The names whose entries are removed by calls, one after another. -/
def removedAll (s : Store) : List (Timestamp × Call) → List Entry.Name
  | [] => []
  | c :: rest => s.removed c ++ (s.answer c.1 c.2).2.removedAll rest

variable {calls : List (Timestamp × Call)}

lemma writtenAll_append (calls more : List (Timestamp × Call)) :
    s.writtenAll (calls ++ more) = s.writtenAll calls ++ (s.performAll calls).writtenAll more := by
  induction calls generalizing s with
  | nil => rfl
  | cons c rest ih =>
      rw [List.cons_append, writtenAll, writtenAll, ih, List.append_assoc, performAll_cons]

/-- What is neither written nor removed in the meantime stays as it is. -/
lemma filed?_performAll (unwritten : ∀ e ∈ s.writtenAll calls, e.name ≠ n)
    (kept : n ∉ s.removedAll calls) : (s.performAll calls).filed? n = s.filed? n := by
  induction calls generalizing s with
  | nil => rfl
  | cons c rest ih =>
      simp only [writtenAll, List.forall_mem_append] at unwritten
      simp only [removedAll, List.mem_append, not_or] at kept
      rw [performAll_cons, ih unwritten.2 kept.2]
      exact (s.answer_comes c.1 c.2).filed?_of_untouched unwritten.1 kept.1

/-- An entry that is not removed in the meantime keeps its `added`. -/
lemma added_performAll (found : s.filed? n = some e) (kept : n ∉ s.removedAll calls) :
    ∃ e', (s.performAll calls).filed? n = some e' ∧ e'.added = e.added := by
  induction calls generalizing s e with
  | nil => exact ⟨e, found, rfl⟩
  | cons c rest ih =>
      simp only [removedAll, List.mem_append, not_or] at kept
      obtain ⟨e', there, same⟩ := (s.answer_comes c.1 c.2).added_stays found kept.1
      obtain ⟨e'', last, again⟩ := ih there kept.2
      exact ⟨e'', last, again.trans same⟩

end Store

end CircleVault
