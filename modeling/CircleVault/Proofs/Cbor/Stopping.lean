import CircleVault.Proofs.Cbor

/-!
# Reading stops where an item ends

A reader takes bytes off the front and leaves the rest, so bytes that are appended are left as well:
they change neither what is read nor that it can be read.  This holds of whatever the format allows,
not only of what is written here: of longer heads, indefinite lengths, strings in pieces, bignums,
and of fields that are passed over.

`Stops` says it of a reader, with one rule for each thing that a reader does, so that a reader is
taken apart by a chain of rules in the order of its lines.  It relates two readers, because a loop
has more fuel where there are more bytes.

Together with the reading of what was written this makes the encodings of sealed keys prefix-free
(`SealedKey.encodings_prefixFree`).
-/

namespace CircleVault

namespace Cbor

variable {α β γ : Type}

/-! ## Readers that stop -/

/-- What the first reader makes of some bytes, the second makes of them with any bytes behind, which
only add to what is left. -/
def Stops (more : Bytes → γ → γ) (f g : Bytes → Option γ) : Prop :=
  ∀ ⦃b : Bytes⦄ ⦃r : γ⦄, f b = some r → ∀ t, g (b ++ t) = some (more t r)

/-- Behind a value that is read, the bytes are left. -/
abbrev Reads (f g : Bytes → Option (α × Bytes)) : Prop := Stops (fun t r => (r.1, r.2 ++ t)) f g

/-- Behind an item that is passed over, the bytes are left. -/
abbrev Skips (f g : Bytes → Option Bytes) : Prop := Stops (fun t rest => rest ++ t) f g

/-- Behind something that is read to its end, the bytes are dropped. -/
abbrev Ends (f g : Bytes → Option γ) : Prop := Stops (fun _ r => r) f g

section Rules

variable {more : Bytes → γ → γ}

lemma Stops.result {r : Bytes → γ} (left : ∀ b t, r (b ++ t) = more t (r b)) :
    Stops more (fun b => some (r b)) fun b => some (r b) := by
  rintro b _ ⟨⟩ t
  exact congrArg some (left b t)

lemma Stops.fail {g : Bytes → Option γ} : Stops more (fun _ => none) g := nofun

/-- Read a value, and go on with what is left. -/
lemma Stops.read {f g : Bytes → Option (α × Bytes)} {k l : α × Bytes → Option γ}
    (first : Reads f g) (goes : ∀ a, Stops more (fun b => k (a, b)) fun b => l (a, b)) :
    Stops more (fun b => f b >>= k) fun b => g b >>= l := by
  intro b r h t
  obtain ⟨⟨a, rest⟩, read, h⟩ := Option.bind_eq_some_iff.1 h
  exact Option.bind_eq_some_iff.2 ⟨(a, rest ++ t), first read t, goes a h t⟩

/-- Read a value, and go on with what is left or with all of the bytes. -/
lemma Stops.peek {f g : Bytes → Option (α × Bytes)} {k l : Bytes → α × Bytes → Option γ}
    (first : Reads f g)
    (goes : ∀ {a b rest r}, k b (a, rest) = some r →
      ∀ t, l (b ++ t) (a, rest ++ t) = some (more t r)) :
    Stops more (fun b => f b >>= k b) fun b => g b >>= l b := by
  intro b r h t
  obtain ⟨⟨a, rest⟩, read, h⟩ := Option.bind_eq_some_iff.1 h
  exact Option.bind_eq_some_iff.2 ⟨(a, rest ++ t), first read t, goes h t⟩

/-- Pass over an item, and go on with what is left. -/
lemma Stops.skip {f g k l : Bytes → Option Bytes} (first : Skips f g) (goes : Skips k l) :
    Skips (fun b => f b >>= k) fun b => g b >>= l := by
  intro b r h t
  obtain ⟨rest, skipped, h⟩ := Option.bind_eq_some_iff.1 h
  exact Option.bind_eq_some_iff.2 ⟨rest ++ t, first skipped t, goes h t⟩

/-- Go on with something that is found without the bytes. -/
lemma Stops.given {o : Option α} {k l : α → Bytes → Option γ}
    (goes : ∀ a, o = some a → Stops more (k a) (l a)) :
    Stops more (fun b => o >>= fun a => k a b) fun b => o >>= fun a => l a b := by
  intro b r h t
  obtain ⟨a, there, h⟩ := Option.bind_eq_some_iff.1 h
  exact Option.bind_eq_some_iff.2 ⟨a, there, goes a there h t⟩

lemma Stops.map {f g : Bytes → Option β} {less : Bytes → β → β} (first : Stops less f g)
    {h : β → γ} (left : ∀ t r, h (less t r) = more t (h r)) :
    Stops more (fun b => (f b).map h) fun b => (g b).map h := by
  intro b _ mapped t
  obtain ⟨r, read, rfl⟩ := Option.map_eq_some_iff.1 mapped
  exact Option.map_eq_some_iff.2 ⟨less t r, first read t, left t r⟩

lemma Stops.cond {c : Prop} [Decidable c] {f f' g g' : Bytes → Option γ}
    (yes : c → Stops more f g) (no : ¬c → Stops more f' g') :
    Stops more (fun b => if c then f b else f' b) fun b => if c then g b else g' b := by
  by_cases hc : c
  · simpa only [if_pos hc] using yes hc
  · simpa only [if_neg hc] using no hc

/-- A loop has fuel for the bytes that there are, and more of it with more bytes. -/
lemma Stops.loop {f : Nat → Bytes → Option γ}
    (h : ∀ {fuel fuel'}, fuel ≤ fuel' → Stops more (f fuel) (f fuel')) :
    Stops more (fun b => f (b.length + 1) b) fun b => f (b.length + 1) b := by
  intro b r read t
  exact h (by simp) read t

end Rules

/-- Induction on the rounds of two loops, of which the second has no less fuel. -/
lemma rounds {P : ∀ fuel fuel' : Nat, fuel ≤ fuel' → Prop}
    (out : ∀ fuel', P 0 fuel' (Nat.zero_le fuel'))
    (round : ∀ {fuel fuel'} (le : fuel ≤ fuel'),
      P fuel fuel' le → P (fuel + 1) (fuel' + 1) (Nat.succ_le_succ le))
    {fuel fuel' : Nat} (le : fuel ≤ fuel') : P fuel fuel' le := by
  induction fuel generalizing fuel' with
  | zero => exact out fuel'
  | succ fuel ih =>
      cases fuel' with
      | zero => exact absurd le (Nat.not_succ_le_zero fuel)
      | succ fuel' => exact round (Nat.le_of_succ_le_succ le) (ih _)

/-! ## Heads -/

lemma readBigEndian?_reads (n : Nat) : Reads (readBigEndian? n) (readBigEndian? n) := by
  intro b r h t
  unfold readBigEndian? at h ⊢
  split at h
  next enough =>
    obtain rfl := Option.some.inj h
    rw [if_pos (by rw [List.length_append]; omega), List.take_append_of_le_length enough,
      List.drop_append_of_le_length enough]
  next => cases h

lemma readNumber?_reads (low : Nat) : Reads (readNumber? low) (readNumber? low) := by
  refine .cond (fun _ => .result fun _ _ => rfl) fun _ => ?_
  refine .cond (fun _ => .map (readBigEndian?_reads 1) fun _ _ => rfl) fun _ => ?_
  refine .cond (fun _ => .map (readBigEndian?_reads 2) fun _ _ => rfl) fun _ => ?_
  refine .cond (fun _ => .map (readBigEndian?_reads 4) fun _ _ => rfl) fun _ => ?_
  refine .cond (fun _ => .map (readBigEndian?_reads 8) fun _ _ => rfl) fun _ => ?_
  exact .cond (fun _ => .result fun _ _ => rfl) fun _ => .fail

lemma Head.read?_reads : Reads Head.read? Head.read? := by
  intro b r h t
  cases b with
  | nil => cases h
  | cons x b =>
      have behind : Reads (fun b => read? (x :: b)) fun b => read? (x :: b) := by
        refine .read (readNumber?_reads _) fun v => ?_
        exact .given fun h _ => .result fun _ _ => rfl
      exact behind h t

/-! ## Strings -/

lemma piece?_reads (kind : StringKind) (n : Nat) : Reads (piece? kind n) (piece? kind n) := by
  intro b r h t
  unfold piece? at h ⊢
  split at h
  next whole =>
    obtain ⟨enough, admitted⟩ := whole
    obtain rfl := Option.some.inj h
    rw [List.take_append_of_le_length enough, List.drop_append_of_le_length enough, if_pos]
    exact ⟨by rw [List.length_append]; omega, admitted⟩
  next => cases h

lemma pieces?_reads (kind : StringKind) {fuel fuel' : Nat} (le : fuel ≤ fuel') (level : Nat) :
    Reads (pieces? kind fuel level) (pieces? kind fuel' level) := by
  induction le using rounds generalizing level with
  | out => exact .fail
  | round _ ih =>
      refine .read Head.read?_reads fun h => ?_
      refine .cond (fun _ => ?_) fun _ => ?_
      · exact .cond (fun _ => .result fun _ _ => rfl) fun _ => ih (level - 1)
      · refine .given fun length _ => ?_
        cases length with
        | none => exact ih (level + 1)
        | some n =>
            refine .read (piece?_reads kind n) fun first => ?_
            exact .read (ih level) fun others => .result fun _ _ => rfl

lemma string?_reads (kind : StringKind) (length : Option Nat) :
    Reads (string? kind length) (string? kind length) := by
  cases length with
  | none => exact .loop fun le => pieces?_reads kind le 1
  | some n => exact piece?_reads kind n

/-! ## Integers -/

lemma bignum?_reads : Reads bignum? bignum? := by
  refine .read Head.read?_reads fun h => ?_
  refine .given fun length _ => ?_
  refine .read (string?_reads .bytes length) fun digits => ?_
  exact .cond (fun _ => .result fun _ _ => rfl) fun _ => .fail

lemma integer?_reads {fuel fuel' : Nat} (le : fuel ≤ fuel') :
    Reads (integer? fuel) (integer? fuel') := by
  induction le using rounds with
  | out => exact .fail
  | round _ ih =>
      refine .read Head.read?_reads fun h => ?_
      match h with
      | .positive v => exact .result fun _ _ => rfl
      | .negative v => exact .result fun _ _ => rfl
      | .tag 2 => exact .map bignum?_reads fun _ _ => rfl
      | .tag 3 => exact .map bignum?_reads fun _ _ => rfl
      | .tag 0 | .tag 1 | .tag (_ + 4) => exact ih
      | .bytes _ | .text _ | .array _ | .map _ | .simple _ | .float | .stop => exact .fail

lemma byte?_reads : Reads byte? byte? := by
  refine .read (.loop integer?_reads) fun v => ?_
  exact .cond (fun _ => .result fun _ _ => rfl) fun _ => .fail

/-! ## Sequences of bytes -/

lemma untagged?_reads {fuel fuel' : Nat} (le : fuel ≤ fuel') :
    Reads (untagged? fuel) (untagged? fuel') := by
  induction le using rounds with
  | out => exact .fail
  | round _ ih =>
      refine .read Head.read?_reads fun h => ?_
      cases h with
      | tag v => exact ih
      | _ => exact .result fun _ _ => rfl

lemma next?_reads (length : Option Nat) : Reads (next? length) (next? length) := by
  match length with
  | some 0 => exact .result fun _ _ => rfl
  | some (n + 1) => exact .result fun _ _ => rfl
  | none =>
      -- A head that is no break is left for the item that it begins.
      refine .peek Head.read?_reads fun {h b rest r} made t => ?_
      dsimp only at made ⊢
      split at made
      next stop =>
        obtain rfl := Option.some.inj made
        rw [if_pos stop]
      next goes =>
        obtain rfl := Option.some.inj made
        rw [if_neg goes]

lemma allBytes?_reads {fuel fuel' : Nat} (le : fuel ≤ fuel') (length : Option Nat) :
    Reads (allBytes? fuel length) (allBytes? fuel' length) := by
  induction le using rounds generalizing length with
  | out => exact .fail
  | round _ ih =>
      refine .read (next?_reads length) fun more => ?_
      cases more with
      | none => exact .result fun _ _ => rfl
      | some length =>
          refine .read byte?_reads fun x => ?_
          refine .read (ih length) fun xs => ?_
          exact .result fun _ _ => rfl

lemma someBytes?_reads (n : Nat) (length : Option Nat) :
    Reads (someBytes? n length) (someBytes? n length) := by
  induction n generalizing length with
  | zero => exact .result fun _ _ => rfl
  | succ n ih =>
      refine .read (next?_reads length) fun more => ?_
      refine .given fun length _ => ?_
      refine .read byte?_reads fun x => ?_
      exact .read (ih length) fun xs => .result fun _ _ => rfl

lemma bytes?_reads : Reads bytes? bytes? := by
  refine .read (.loop untagged?_reads) fun h => ?_
  cases h with
  | array length => exact .loop fun le => allBytes?_reads le length
  | bytes length => exact string?_reads .bytes length
  | _ => exact .fail

lemma block?_reads (n : Nat) : Reads (block? n) (block? n) := by
  refine .read (.loop untagged?_reads) fun h => ?_
  cases h with
  | array length =>
      refine .read (someBytes?_reads n length) fun xs => ?_
      exact .given fun k _ => .result fun _ _ => rfl
  | bytes length =>
      refine .read (string?_reads .bytes length) fun xs => ?_
      exact .given fun k _ => .result fun _ _ => rfl
  | _ => exact .fail

/-! ## Keys and items to pass over -/

lemma key?_reads : Reads key? key? := by
  refine .read (.loop untagged?_reads) fun h => ?_
  match h with
  | .text (some n) => exact .cond (fun _ => piece?_reads .text n) fun _ => .fail
  | .bytes (some n) => exact .cond (fun _ => piece?_reads .bytes n) fun _ => .fail
  | .text none | .bytes none | .positive _ | .negative _ | .array _ | .map _ | .tag _ | .simple _
  | .float | .stop => exact .fail

lemma skipMany?_skips {step : Bytes → Option Bytes} (each : Skips step step) {fuel fuel' : Nat}
    (le : fuel ≤ fuel') (length : Option Nat) :
    Skips (skipMany? step fuel length) (skipMany? step fuel' length) := by
  induction le using rounds generalizing length with
  | out => exact .fail
  | round _ ih =>
      refine .read (next?_reads length) fun more => ?_
      cases more with
      | none => exact .result fun _ _ => rfl
      | some length => exact .skip each (ih length)

section Inner

variable {inner : Option (Bytes → Option Bytes)}
  (each : ∀ step, inner = some step → Skips step step)

include each

lemma skipTagged?_skips (tag : Nat) : Skips (skipTagged? inner tag) (skipTagged? inner tag) := by
  have item : Skips (fun b => inner >>= fun step => step b)
      fun b => inner >>= fun step => step b :=
    .given each
  have small (v : Nat) : Skips
      (fun b => if tag = 3 ∧ Nat.pow 2 127 ≤ v then none else some b)
      (fun b => if tag = 3 ∧ Nat.pow 2 127 ≤ v then none else some b) :=
    .cond (fun _ => .fail) fun _ => .result fun _ _ => rfl
  have number (n : Nat) : Skips
      (fun b => readBigEndian? n b >>= fun r =>
        if tag = 3 ∧ Nat.pow 2 127 ≤ r.1 then none else some r.2)
      (fun b => readBigEndian? n b >>= fun r =>
        if tag = 3 ∧ Nat.pow 2 127 ≤ r.1 then none else some r.2) :=
    .read (readBigEndian?_reads n) small
  -- What is no number is passed over from its head on.
  refine .peek Head.read?_reads fun {h b rest r} made t => ?_
  cases h with
  | bytes length =>
      cases length with
      | none => exact item made t
      | some n =>
          dsimp only at made ⊢
          split at made
          next bignum =>
            rw [if_pos bignum]
            exact number n made t
          next other =>
            rw [if_neg other]
            exact item made t
  | _ => exact item made t

lemma skipWith?_skips : Skips (skipWith? inner) (skipWith? inner) := by
  refine .read Head.read?_reads fun h => ?_
  cases h with
  | positive v | negative v | float => exact .result fun _ _ => rfl
  | bytes length => exact .map (string?_reads .bytes length) fun _ _ => rfl
  | text length => exact .map (string?_reads .text length) fun _ _ => rfl
  | array length =>
      refine .given fun step here => ?_
      exact .loop fun le => skipMany?_skips (each step here) le length
  | map length =>
      refine .given fun step here => ?_
      have entry : Skips (fun b => step b >>= step) fun b => step b >>= step :=
        .skip (each step here) (each step here)
      exact .loop fun le => skipMany?_skips entry le length
  | tag v => exact skipTagged?_skips each v
  | simple v => exact .cond (fun _ => .result fun _ _ => rfl) fun _ => .fail
  | stop => exact .fail

end Inner

lemma skip?_skips (depth : Nat) : Skips (skip? depth) (skip? depth) := by
  induction depth with
  | zero => exact skipWith?_skips nofun
  | succ depth ih =>
      refine skipWith?_skips fun step here => ?_
      obtain rfl := Option.some.inj here
      exact ih

end Cbor

/-! ## Sealed keys -/

namespace SealedKey

open Cbor

lemma field?_reads (d : Draft) (key : Bytes) : Reads (d.field? key) (d.field? key) := by
  refine .cond (fun _ => ?_) fun _ => ?_
  · exact .cond (fun _ => .fail) fun _ => .map byte?_reads fun _ _ => rfl
  refine .cond (fun _ => ?_) fun _ => ?_
  · exact .cond (fun _ => .fail) fun _ => .map (block?_reads 32) fun _ _ => rfl
  refine .cond (fun _ => ?_) fun _ => ?_
  · exact .cond (fun _ => .fail) fun _ => .map (block?_reads 12) fun _ _ => rfl
  refine .cond (fun _ => ?_) fun _ => ?_
  · exact .cond (fun _ => .fail) fun _ => .map bytes?_reads fun _ _ => rfl
  exact .map (skip?_skips Draft.maxDepth) fun _ _ => rfl

lemma fields?_ends {fuel fuel' : Nat} (le : fuel ≤ fuel') (length : Option Nat) (d : Draft) :
    Ends (Draft.fields? fuel length d) (Draft.fields? fuel' length d) := by
  induction le using rounds generalizing length d with
  | out => exact .fail
  | round _ ih =>
      refine .read (next?_reads length) fun more => ?_
      cases more with
      | none => exact .result fun _ _ => rfl
      | some length =>
          refine .read key?_reads fun key => ?_
          refine .read (field?_reads d key) fun d => ?_
          exact ih length d

/-- Reading a sealed key ends with its map, in whatever form the map is written. -/
theorem ofCbor?_ends : Ends ofCbor? ofCbor? := by
  refine .read (.loop untagged?_reads) fun h => ?_
  cases h with
  | map length =>
      have fields : Ends (fun b => Draft.fields? (b.length + 1) length .empty b)
          fun b => Draft.fields? (b.length + 1) length .empty b :=
        .loop fun le => fields?_ends le length .empty
      intro b k h t
      obtain ⟨d, read, finished⟩ := Option.bind_eq_some_iff.1 h
      exact Option.bind_eq_some_iff.2 ⟨d, fields read t, finished⟩
  | _ => exact .fail

lemma ofCbor_eq_ok {b : Bytes} {k : SealedKey} : ofCbor b = .ok k ↔ ofCbor? b = some k := by
  rw [ofCbor]
  cases ofCbor? b <;> simp

/-- **The encodings of sealed keys are decodable and prefix-free.**  The encoding of a sealed key is
read as that key with any bytes behind, and no encoding is the beginning of another key's.  Bytes
that are appended to anything that is read, in whatever form it is written, never change what is
read.  A sealed key has an encoding if CBOR can write its length, in eight bytes at most. -/
theorem encodings_prefixFree :
    (∀ k : SealedKey, k.encrypted.length < 2 ^ 64 → ∀ t, ofCbor (k.toCbor ++ t) = .ok k) ∧
    (∀ k k' : SealedKey, k.encrypted.length < 2 ^ 64 → k'.encrypted.length < 2 ^ 64 →
      k ≠ k' → ¬k.toCbor <+: k'.toCbor) ∧
    ∀ (b : Bytes) (k : SealedKey), ofCbor b = .ok k → ∀ t, ofCbor (b ++ t) = .ok k := by
  refine ⟨?_, ?_, ?_⟩
  · intro k short t
    exact ofCbor_eq_ok.2 (ofCbor?_toCbor short t)
  · rintro k k' short short' other ⟨t, whole⟩
    have read := ofCbor?_toCbor short t
    have read' := ofCbor?_toCbor short' []
    rw [List.append_nil, ← whole, read] at read'
    exact other (Option.some.inj read')
  · intro b k read t
    exact ofCbor_eq_ok.2 (ofCbor?_ends (ofCbor_eq_ok.1 read) t)

/-- A sealed key whose encrypted secret is long enough for a length of two bytes. -/
def specimen : SealedKey := ⟨1, .zero 32, .zero 12, List.replicate 300 255⟩

/-- Another sealed key, in a map of indefinite length, with its fields in another order, an unknown
one among them, and their bytes as byte strings, a tagged one among them. -/
def looseForm : Bytes :=
  0xBF :: Cbor.text "nonce" ++ 0x4C :: List.replicate 12 0 ++
    Cbor.text "unknown" ++ [0x9F, 0x01, 0x61, 0x7A, 0xFF] ++
    Cbor.text "encrypted_key" ++ [0xC1, 0x42, 0x01, 0x02] ++
    Cbor.text "ephemeral_public" ++ 0x58 :: 0x20 :: List.replicate 32 0 ++
    Cbor.text "version" ++ [0x18, 0x01, 0xFF]

theorem encodings_prefixFree_specimen :
    ofCbor (specimen.toCbor ++ [0xFF, 0x00]) = .ok specimen ∧
      ¬SealedKey.toCbor ⟨1, .zero 32, .zero 12, [1, 2]⟩ <+: specimen.toCbor ∧
      ofCbor (looseForm ++ specimen.toCbor) = .ok ⟨1, .zero 32, .zero 12, [1, 2]⟩ := by
  obtain ⟨decodable, prefixFree, appended⟩ := encodings_prefixFree
  have size : specimen.encrypted.length = 300 := List.length_replicate
  have short : specimen.encrypted.length < 2 ^ 64 := by omega
  refine ⟨decodable specimen short _, ?_, ?_⟩
  · exact prefixFree _ specimen (by decide) short (by decide)
  · have read : ofCbor? looseForm = some ⟨1, .zero 32, .zero 12, [1, 2]⟩ := by decide +kernel
    exact appended looseForm _ (ofCbor_eq_ok.2 read) specimen.toCbor

end SealedKey

end CircleVault
