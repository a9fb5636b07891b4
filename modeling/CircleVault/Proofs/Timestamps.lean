import CircleVault.Proofs.Entries
import CircleVault.Proofs.Signatures
import CircleVault.Proofs.SingleWrite

/-!
# The store's timestamps

The wall clock that the store reads may stand still or run backwards, and the records that it is
given may carry any timestamps.  Its own clock goes on with every accepted write, as long as it has
not reached the greatest timestamp, so the moments that it hands out are all different and come in
the order of the writes.

`Store.Timely` is what a call keeps: nothing that was returned or is filed is later than the clock.
From it and from what calls do to entries (`Store.Comes`) follows the contract of the store in all
its parts (`Store.timestamps_kept`): what an accepted write stamps its records with, that everything
else is stored as given, how long the record returned is the one that is looked up, and that an
entry keeps its `added` until it is removed.
-/

namespace CircleVault

namespace Call

lemma ofAccepted_ne_nil {α β : Type} {f : α → List β} {a : Except StoreFailure α}
    (accepted : refusalOf a = none) (some : ∀ x, f x ≠ []) : ofAccepted f a ≠ [] := by
  cases a with
  | error e => cases accepted
  | ok x => exact some x

/-- A call that is accepted returns entries if it is given any. -/
lemma written_ne_nil (c : Call) {a : c.Answer} (accepted : c.refusal? a = none)
    (gives : c.given ≠ []) : c.written a ≠ [] := by
  cases c <;> first
    | exact ofAccepted_ne_nil accepted fun _ => List.cons_ne_nil _ _
    | exact absurd rfl gives

end Call

namespace Store

variable {s s' : Store} {now : Timestamp} {c : Call} {W : List Entry} {R : List Entry.Name}
  {calls : List (Timestamp × Call)}

/-! ## The next moment -/

lemma le_tick (s : Store) (now : Timestamp) : now ≤ s.tick now := by
  unfold tick
  rw [Int64.le_iff_toInt_le, Timestamp.toInt_later]
  exact le_max_left _ _

/-- The store's clock goes on. -/
lemma lt_tick (below : s.clock < .greatest) (now : Timestamp) : s.clock < s.tick now := by
  have following : s.clock.following = s.clock + 1 := by
    unfold Timestamp.following
    apply if_neg
    rintro last
    exact Int64.lt_irrefl (last ▸ below)
  have next := Timestamp.toInt_following s.clock
  rw [Int64.lt_iff_toInt_lt] at below ⊢
  unfold tick
  rw [Timestamp.toInt_later, ← following]
  omega

/-! ## What the clock bounds -/

/-- The store's clock is below the greatest timestamp, all along. -/
def Unexhausted (calls : List (Timestamp × Call)) : Prop :=
  ∀ early late, calls = early ++ late → (Store.empty.performAll early).clock < .greatest

instance (calls : List (Timestamp × Call)) : Decidable (Unexhausted calls) :=
  decidable_of_iff (∀ early ∈ calls.inits, (Store.empty.performAll early).clock < .greatest) <| by
    constructor
    · intro h early late split
      exact h early ((List.mem_inits early calls).2 ⟨late, split.symm⟩)
    · intro h early mem
      obtain ⟨late, split⟩ := (List.mem_inits early calls).1 mem
      exact h early late split.symm

lemma Unexhausted.last (h : Unexhausted calls) :
    (Store.empty.performAll calls).clock < .greatest :=
  h calls [] (List.append_nil calls).symm

lemma Unexhausted.early {more : List (Timestamp × Call)} (h : Unexhausted (calls ++ more)) :
    Unexhausted calls := by
  intro early late split
  apply h early (late ++ more)
  rw [split, List.append_assoc]

/-- After some calls, nothing that was written or is filed is later than the clock. -/
structure Timely (calls : List (Timestamp × Call)) (s : Store) : Prop where
  written : ∀ e ∈ Store.empty.writtenAll calls, e.altered ≤ s.clock
  filed : ∀ n e, s.filed? n = some e → e.isSignature = false → e.added ≤ s.clock

/-- What is written carries the moment of the write, which the clock shows afterwards. -/
lemma Comes.altered_eq (h : s.Comes now c W R s') {e : Entry} (mem : e ∈ W) :
    e.altered = s.tick now ∧ s'.clock = s.tick now := by
  cases h with
  | idle => cases mem
  | removed id => cases mem
  | wrote =>
      obtain ⟨g, -, rfl⟩ := List.mem_map.1 mem
      exact ⟨Entry.altered_stamped g _ _, rfl⟩

lemma Comes.written_eq (h : s.Comes now c W R s') (something : W ≠ []) :
    W = c.given.map (s.stamp (s.tick now)) := by
  cases h with
  | wrote => rfl
  | _ => exact absurd rfl something

/-- A call that is accepted returns what it is given, stamped. -/
lemma written_of_accepted (accepted : c.refusal? (s.answer now c).1 = none) :
    s.written (now, c) = c.given.map (s.stamp (s.tick now)) := by
  by_cases gives : c.given = []
  · have nothing : s.written (now, c) = [] := by
      cases c <;> first | rfl | cases gives
    rw [nothing, gives, List.map_nil]
  · exact (s.answer_comes now c).written_eq (c.written_ne_nil accepted gives)

/-- What is inserted is the first of its name. -/
lemma Comes.added_eq (h : s.Comes now c W R s') (inserts : c.isInsertion = true) {e : Entry}
    (mem : e ∈ W) : e.added = e.altered := by
  cases h with
  | idle => cases mem
  | removed id => cases mem
  | wrote fresh =>
      obtain ⟨g, given, rfl⟩ := List.mem_map.1 mem
      have unsigned := c.isSignature_given inserts g given
      rw [stamp_of_fresh (fresh inserts g given), Entry.added_stamped, Entry.altered_stamped]
      cases g with
      | signature r => cases unsigned
      | _ => rfl

lemma Comes.clock_le (h : s.Comes now c W R s') (below : s.clock < .greatest) :
    s.clock ≤ s'.clock := by
  cases h with
  | wrote => exact Int64.le_of_lt (lt_tick below now)
  | _ => exact Int64.le_refl _

/-- What is filed after a call was written by it, or was filed before. -/
lemma Comes.filed?_cases (h : s.Comes now c W R s') {n : Entry.Name} {e : Entry}
    (found : s'.filed? n = some e) : e ∈ W ∨ s.filed? n = some e := by
  by_cases unwritten : ∀ e' ∈ W, e'.name ≠ n
  · by_cases kept : n ∈ R
    · cases h with
      | removed id =>
          obtain rfl := List.mem_singleton.1 kept
          simp [filed?] at found
      | _ => cases kept
    · exact .inr ((h.filed?_of_untouched unwritten kept).symm.trans found)
  · push Not at unwritten
    obtain ⟨e', mem, rfl⟩ := unwritten
    obtain rfl := Option.some.inj ((h.filed?_of_written mem).symm.trans found)
    exact .inl mem

/-- No entry but a signature's gets an `added` later than its `altered`. -/
lemma Timely.added_le (timely : Timely calls s) (below : s.clock < .greatest)
    (h : s.Comes now c W R s') {e : Entry} (mem : e ∈ W) (unsigned : e.isSignature = false) :
    e.added ≤ s.tick now := by
  cases h with
  | idle => cases mem
  | removed id => cases mem
  | wrote =>
      obtain ⟨g, -, rfl⟩ := List.mem_map.1 mem
      cases found : s.filed? g.name with
      | none =>
          rw [stamp_of_fresh found] at unsigned ⊢
          cases g with
          | signature r => cases unsigned
          | _ => exact Int64.le_refl _
      | some present =>
          -- The `added` comes from what is filed, which the clock bounds before the write.
          rw [stamp_of_present found] at unsigned ⊢
          rw [Entry.isSignature_stamped, ← isSignature_of_filed found] at unsigned
          rw [Entry.added_stamped]
          exact Int64.le_trans (timely.filed _ present found unsigned)
            (Int64.le_of_lt (lt_tick below now))

lemma Timely.empty : Timely [] .empty where
  written := List.forall_mem_nil _
  filed := by
    intro n e found
    cases n <;> cases found

/-- Every call keeps this, as long as the clock can go on. -/
lemma Timely.answer (h : Timely calls (Store.empty.performAll calls)) (c : Timestamp × Call)
    (below : (Store.empty.performAll calls).clock < .greatest) :
    Timely (calls ++ [c]) (Store.empty.performAll (calls ++ [c])) := by
  rw [performAll_append, performAll_cons, performAll_nil]
  have comes := (Store.empty.performAll calls).answer_comes c.1 c.2
  have on := comes.clock_le below
  constructor
  · intro e mem
    rw [writtenAll_append, List.mem_append] at mem
    rcases mem with before | now
    · exact Int64.le_trans (h.written e before) on
    · have mem : e ∈ c.2.written ((Store.empty.performAll calls).answer c.1 c.2).1 := by
        simpa only [writtenAll, Store.written, List.append_nil] using now
      obtain ⟨altered, clock⟩ := comes.altered_eq mem
      rw [altered, clock]
      exact Int64.le_refl _
  · intro n e found unsigned
    rcases comes.filed?_cases found with mem | before
    · rw [(comes.altered_eq mem).2]
      exact h.added_le below comes mem unsigned
    · exact Int64.le_trans (h.filed n e before unsigned) on

lemma timely_performAll (h : Unexhausted calls) :
    Timely calls (Store.empty.performAll calls) := by
  -- From the end of the run: what `Timely` says of the last call is about all writes before it.
  induction calls using List.reverseRecOn with
  | nil => exact .empty
  | append_singleton early c ih => exact (ih h.early).answer c h.early.last

/-! ## The contract -/

/-- **The store keeps its contract on timestamps.**  After any calls, as long as the clock has not
run out, a call that is accepted stamps what it is given with one moment: not before the wall
clock's, and later than every moment stamped before.  An entry that is the first of its name, as all
that are inserted are, gets this moment for its `added` as well, unless it is a signature's, and any
other the `added` that is there; all else is stored as given.  Only a signature may have been added
later than altered.  And an entry keeps its `added` until it is removed, while what was returned is
what is looked up until an entry of that name is written or removed. -/
theorem timestamps_kept (calls : List (Timestamp × Call)) (unexhausted : Unexhausted calls)
    (now : Timestamp) (c : Call) :
    let s := Store.empty.performAll calls
    let s' := (s.answer now c).2
    (c.refusal? (s.answer now c).1 = none →
      ∃ t, now ≤ t ∧ (∀ e ∈ Store.empty.writtenAll calls, e.altered < t) ∧
        s.written (now, c) = c.given.map fun e => e.stamped (s.addedFor t e) t) ∧
    ∀ e ∈ s.written (now, c),
      (c.isInsertion = true → e.added = e.altered) ∧
      (e.isSignature = false → e.added ≤ e.altered) ∧
      ∀ later : List (Timestamp × Call), e.name ∉ s'.removedAll later →
        (∃ e', (s'.performAll later).filed? e.name = some e' ∧ e'.added = e.added) ∧
        ((∀ e' ∈ s'.writtenAll later, e'.name ≠ e.name) →
          (s'.performAll later).lookup e = some e) := by
  intro s s'
  have timely : Timely calls s := timely_performAll unexhausted
  have below : s.clock < .greatest := unexhausted.last
  have comes := s.answer_comes now c
  refine ⟨?_, ?_⟩
  · intro accepted
    refine ⟨s.tick now, s.le_tick now, ?_, ?_⟩
    · intro e before
      exact Int64.lt_of_le_of_lt (timely.written e before) (lt_tick below now)
    · exact written_of_accepted accepted
  · intro e mem
    refine ⟨fun inserts => comes.added_eq inserts mem, ?_, ?_⟩
    · intro unsigned
      rw [(comes.altered_eq mem).1]
      exact timely.added_le below comes mem unsigned
    · intro later kept
      have there := comes.filed?_of_written mem
      refine ⟨added_performAll there kept, ?_⟩
      intro unwritten
      -- Looking up a grant goes by its member and circle, not by its name.
      have integrity : (s'.performAll later).Integrity :=
        (Integrity.answer s now c (Integrity.empty.performAll calls)).performAll later
      apply integrity.lookup_eq
      exact (filed?_performAll unwritten kept).trans there

/-! ## A clock that runs backwards -/

/-- A member with an identifier of one byte, who brings timestamps along. -/
def newcomer (name : String) (b : UInt8) : Member where
  id := ⟨.fit 16 [b]⟩
  name := name
  salt := .ofText .utf8 ""
  privateKey := ⟨.xchacha20Poly1305, .ofText .utf8 "", []⟩
  publicKey := ""
  added := 7
  altered := 8

/-- A member's grant in a circle, both with identifiers of one byte. -/
def ticket (id member circle : UInt8) : Grant where
  id := ⟨.fit 16 [id]⟩
  member := ⟨.fit 16 [member]⟩
  circle := ⟨.fit 16 [circle]⟩
  key := ⟨.fit 16 [circle]⟩
  level := .sysop
  envelope := []
  added := 9
  altered := 9

/-- A circle with its key and the grant of its first member. -/
def venture (name : String) (circle owner grant : UInt8) : Founded where
  circle := ⟨⟨.fit 16 [circle]⟩, name, 3, 4⟩
  key := ⟨⟨.fit 16 [circle]⟩, ⟨.fit 16 [circle]⟩, .xchacha20Poly1305, .active, 5, 6⟩
  owner := ticket grant owner circle

/-- Two members, a circle of the first and a grant for the second, while the wall clock runs
backwards. -/
def backwards : List (Timestamp × Call) :=
  [(100, .insertMember (newcomer "alice" 1)), (40, .createCircle (venture "board" 1 1 1)),
    (30, .insertMember (newcomer "bob" 2)), (20, .insertGrant (ticket 2 2 1))]

/-- The first member is renamed, and the second leaves the circle. -/
def rename : Call := .updateMember (newcomer "alicia" 1)

theorem timestamps_kept_backwards :
    let s := Store.empty.performAll backwards
    let s' := (s.answer 10 rename).2
    let renamed := (Entry.member (newcomer "alicia" 1)).stamped 100 104
    Unexhausted backwards ∧ rename.refusal? (s.answer 10 rename).1 = none ∧
      s.written (10, rename) = [renamed] ∧
      (∃ t, 10 ≤ t ∧ (∀ e ∈ Store.empty.writtenAll backwards, e.altered < t) ∧
        [renamed] = rename.given.map fun e => e.stamped (s.addedFor t e) t) ∧
      renamed.isSignature = false ∧ renamed.added ≤ renamed.altered ∧
      s'.removedAll [(5, .deleteGrant ⟨.fit 16 [2]⟩)] = [.grant ⟨.fit 16 [2]⟩] ∧
      (s'.performAll [(5, .deleteGrant ⟨.fit 16 [2]⟩)]).lookup renamed = some renamed := by
  intro s s' renamed
  have unexhausted : Unexhausted backwards := by decide +kernel
  have wrote : s.written (10, rename) = [renamed] := by decide +kernel
  have left : s'.removedAll [(5, .deleteGrant ⟨.fit 16 [2]⟩)] = [.grant ⟨.fit 16 [2]⟩] := by
    decide +kernel
  obtain ⟨stamped, kept⟩ := timestamps_kept backwards unexhausted 10 rename
  have mem : renamed ∈ s.written (10, rename) := wrote ▸ List.mem_singleton_self renamed
  have accepted : rename.refusal? (s.answer 10 rename).1 = none := by decide +kernel
  obtain ⟨-, ordered, lasting⟩ := kept renamed mem
  refine ⟨unexhausted, accepted, wrote, wrote ▸ stamped accepted, rfl, ordered rfl, left, ?_⟩
  apply (lasting _ ?_).2
  · decide +kernel
  · rw [left]
    decide +kernel

end Store

end CircleVault
