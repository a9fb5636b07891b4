import CircleVault.Keys
import CircleVault.Proofs.Base64
import CircleVault.Proofs.Refusal
import Mathlib.Data.Nat.Digits.Lemmas

/-!
# Reading accepts what writing produces

A text that is read is the written form of what it is read as (`Base64.encode_of_decode`), so a byte
string has one text and a text stands for one byte string.  The argument goes group by group, as the
one for reading back: a symbol is the symbol of its value, and where the unused bits are zero the
values are the pieces that the bytes are cut into.

That the written form is standard Base64 is said without mention of groups (`Base64.Spells`): bytes
and symbols are the digits of one number, in base 256 and in base 64, once the bits that the padding
makes up for are appended to it as zeros.  Sizes and number determine the digits, so this is what
reading accepts, and nothing else (`Base64.decode_eq_some_iff_spells`).

A public key keeps the bytes that it was read from, whatever the suite takes for a key, and so keeps
its text.
-/

namespace CircleVault

lemma Block.ofBytes?_eq_some_iff {n : Nat} {b : Bytes} {k : Block n} :
    ofBytes? n b = some k ↔ b = k.toBytes := by
  constructor
  · intro h
    rw [ofBytes?] at h
    split at h
    · obtain rfl := Option.some.inj h
      rfl
    · cases h
  · rintro rfl
    exact ofBytes?_toBytes k

namespace Base64

/-! ## Symbols -/

lemma eq_symbol {c : Char} {v : Nat} (h : value? c = some v) : v < 64 ∧ c = symbol v := by
  have range {a b : Char} (within : a ≤ c ∧ c ≤ b) : a.toNat ≤ c.toNat ∧ c.toNat ≤ b.toNat := within
  rw [value?] at h
  split at h
  · next letter =>
      obtain ⟨low, high⟩ := range letter
      simp only [Char.reduceToNat] at low high
      obtain rfl := Option.some.inj h
      refine ⟨by omega, ?_⟩
      rw [symbol, if_pos (by omega), Nat.add_sub_cancel' low, Char.ofNat_toNat]
  split at h
  · next letter =>
      obtain ⟨low, high⟩ := range letter
      simp only [Char.reduceToNat] at low high
      obtain rfl := Option.some.inj h
      refine ⟨by omega, ?_⟩
      rw [symbol, if_neg (by omega), if_pos (by omega), Nat.add_sub_cancel' (by omega),
        Char.ofNat_toNat]
  split at h
  · next digit =>
      obtain ⟨low, high⟩ := range digit
      simp only [Char.reduceToNat] at low high
      obtain rfl := Option.some.inj h
      refine ⟨by omega, ?_⟩
      rw [symbol, if_neg (by omega), if_neg (by omega), if_pos (by omega), Nat.add_sub_cancel,
        Char.ofNat_toNat]
  split at h
  · next plus =>
      obtain rfl := Option.some.inj h
      exact ⟨by decide, plus⟩
  split at h
  · next slash =>
      obtain rfl := Option.some.inj h
      exact ⟨by decide, slash⟩
  · cases h

lemma toNat_join (hi scale lo : Nat) (h : hi * scale + lo < 256) :
    (join hi scale lo).toNat = hi * scale + lo := by
  rw [join, UInt8.toNat_ofNat_of_lt' h]

/-! ## Groups -/

lemma eq_of_lastOne? {w x : Char} {b : Bytes} (h : lastOne? w x = some b) :
    ∃ a : UInt8, b = [a] ∧ w = symbol (a.toNat / 4) ∧ x = symbol (a.toNat % 4 * 16) := by
  simp only [lastOne?, Option.bind_eq_bind, Option.bind_eq_some_iff] at h
  obtain ⟨w', hw, x', hx, h⟩ := h
  obtain ⟨w_lt, rfl⟩ := eq_symbol hw
  obtain ⟨x_lt, rfl⟩ := eq_symbol hx
  split at h
  · next unused =>
      obtain rfl := Option.some.inj h
      have a := toNat_join w' 4 (x' / 16) (by omega)
      refine ⟨_, rfl, congrArg symbol ?_, congrArg symbol ?_⟩ <;> omega
  · cases h

lemma eq_of_lastTwo? {w x y : Char} {b : Bytes} (h : lastTwo? w x y = some b) :
    ∃ a a' : UInt8, b = [a, a'] ∧ w = symbol (a.toNat / 4) ∧
      x = symbol (a.toNat % 4 * 16 + a'.toNat / 16) ∧ y = symbol (a'.toNat % 16 * 4) := by
  simp only [lastTwo?, Option.bind_eq_bind, Option.bind_eq_some_iff] at h
  obtain ⟨w', hw, x', hx, y', hy, h⟩ := h
  obtain ⟨w_lt, rfl⟩ := eq_symbol hw
  obtain ⟨x_lt, rfl⟩ := eq_symbol hx
  obtain ⟨y_lt, rfl⟩ := eq_symbol hy
  split at h
  · next unused =>
      obtain rfl := Option.some.inj h
      have a := toNat_join w' 4 (x' / 16) (by omega)
      have a' := toNat_join (x' % 16) 16 (y' / 4) (by omega)
      refine ⟨_, _, rfl, congrArg symbol ?_, congrArg symbol ?_, congrArg symbol ?_⟩ <;> omega
  · cases h

lemma eq_of_three? {w x y z : Char} {b : Bytes} (h : three? w x y z = some b) :
    ∃ a a' a'' : UInt8, b = [a, a', a''] ∧ w = symbol (a.toNat / 4) ∧
      x = symbol (a.toNat % 4 * 16 + a'.toNat / 16) ∧
      y = symbol (a'.toNat % 16 * 4 + a''.toNat / 64) ∧ z = symbol (a''.toNat % 64) := by
  simp only [three?, Option.bind_eq_bind, Option.bind_eq_some_iff] at h
  obtain ⟨w', hw, x', hx, y', hy, z', hz, h⟩ := h
  obtain ⟨w_lt, rfl⟩ := eq_symbol hw
  obtain ⟨x_lt, rfl⟩ := eq_symbol hx
  obtain ⟨y_lt, rfl⟩ := eq_symbol hy
  obtain ⟨z_lt, rfl⟩ := eq_symbol hz
  obtain rfl := Option.some.inj h
  have a := toNat_join w' 4 (x' / 16) (by omega)
  have a' := toNat_join (x' % 16) 16 (y' / 4) (by omega)
  have a'' := toNat_join (y' % 4) 64 z' (by omega)
  refine ⟨_, _, _, rfl, congrArg symbol ?_, congrArg symbol ?_, congrArg symbol ?_,
    congrArg symbol ?_⟩ <;> omega

/-! ## Texts -/

/-- A text that is read is the written form of what it is read as. -/
theorem encode_of_decode {t : List Char} {b : Bytes} (h : decode t = some b) : encode b = t := by
  fun_induction decode t generalizing b with
  | case1 =>
      obtain rfl := Option.some.inj h
      rfl
  | case2 w x =>
      obtain ⟨a, rfl, rfl, rfl⟩ := eq_of_lastOne? h
      rfl
  | case3 w x y =>
      obtain ⟨a, a', rfl, rfl, rfl, rfl⟩ := eq_of_lastTwo? h
      rfl
  | case4 => cases h
  | case5 w x y z rest _ ih =>
      simp only [Option.bind_eq_bind, Option.bind_eq_some_iff] at h
      obtain ⟨group, read, others, tail, h⟩ := h
      obtain ⟨a, a', a'', rfl, rfl, rfl, rfl, rfl⟩ := eq_of_three? read
      obtain rfl := Option.some.inj h
      rw [List.cons_append, List.cons_append, List.cons_append, List.nil_append, encode, ih tail]
  | case6 => cases h

theorem decode_eq_some_iff {t : List Char} {b : Bytes} : decode t = some b ↔ encode b = t :=
  ⟨encode_of_decode, fun h => h ▸ decode_encode b⟩

/-! ## The standard -/

/-- The standard alphabet, in the order of the values. -/
def alphabet : List Char :=
  "ABCDEFGHIJKLMNOPQRSTUVWXYZabcdefghijklmnopqrstuvwxyz0123456789+/".toList

lemma symbol_eq {v : Nat} (h : v < 64) : symbol v = alphabet.getD v '=' := by
  have all : ∀ v : Fin 64, symbol v = alphabet.getD v '=' := by decide +kernel
  exact all ⟨v, h⟩

/-- The text of some values and a number of padding signs. -/
def spelling (values : List Nat) (padding : Nat) : List Char :=
  values.map (alphabet.getD · '=') ++ List.replicate padding '='

/-- The bits of some bytes, followed by two zeros for each padding sign, are the bits of some values
of six bits. -/
structure Spells (values : List Nat) (padding : Nat) (b : Bytes) : Prop where
  below : ∀ v ∈ values, v < 64
  padding_lt : padding < 3
  bits : 6 * values.length = 8 * b.length + 2 * padding
  number : Nat.ofDigits 64 values.reverse =
    4 ^ padding * Nat.ofDigits 256 (b.map UInt8.toNat).reverse

/-- One more group in front. -/
lemma Spells.group {values : List Nat} {padding : Nat} {b : Bytes} (h : Spells values padding b)
    (a a' a'' : UInt8) :
    Spells
      (a.toNat / 4 :: (a.toNat % 4 * 16 + a'.toNat / 16) ::
        (a'.toNat % 16 * 4 + a''.toNat / 64) :: (a''.toNat % 64) :: values)
      padding (a :: a' :: a'' :: b) := by
  have a_lt := a.toNat_lt
  have a'_lt := a'.toNat_lt
  have a''_lt := a''.toNat_lt
  have weight : 64 ^ values.length = 4 ^ padding * 256 ^ b.length := by
    rw [show 64 = 2 ^ 6 from rfl, show 4 = 2 ^ 2 from rfl, show 256 = 2 ^ 8 from rfl, ← pow_mul,
      ← pow_mul, ← pow_mul, ← pow_add, h.bits, Nat.add_comm]
  refine ⟨?_, h.padding_lt, ?_, ?_⟩
  · simp only [List.forall_mem_cons]
    exact ⟨by omega, by omega, by omega, by omega, h.below⟩
  · have bits := h.bits
    simp only [List.length_cons]
    omega
  · have group : Nat.ofDigits 64 [a''.toNat % 64, a'.toNat % 16 * 4 + a''.toNat / 64,
        a.toNat % 4 * 16 + a'.toNat / 16, a.toNat / 4] =
        Nat.ofDigits 256 [a''.toNat, a'.toNat, a.toNat] := by
      simp only [Nat.ofDigits_cons, Nat.ofDigits_nil]
      omega
    simp only [List.map_cons, List.reverse_cons, List.append_assoc, List.cons_append,
      List.nil_append]
    rw [Nat.ofDigits_append, Nat.ofDigits_append, h.number, group, List.length_reverse,
      List.length_reverse, List.length_map, weight]
    ring

/-- The written form is standard Base64. -/
lemma exists_spells (b : Bytes) :
    ∃ values padding, Spells values padding b ∧ encode b = spelling values padding := by
  fun_induction encode b with
  | case1 => exact ⟨[], 0, ⟨List.forall_mem_nil _, by omega, rfl, rfl⟩, rfl⟩
  | case2 a =>
      have a_lt := a.toNat_lt
      refine ⟨[a.toNat / 4, a.toNat % 4 * 16], 2, ⟨?_, by omega, rfl, ?_⟩, ?_⟩
      · simp only [List.forall_mem_cons, List.not_mem_nil, false_implies, implies_true, and_true]
        omega
      · simp [Nat.ofDigits_cons]
        omega
      · rw [symbol_eq (by omega), symbol_eq (by omega)]
        rfl
  | case3 a a' =>
      have a_lt := a.toNat_lt
      have a'_lt := a'.toNat_lt
      refine ⟨[a.toNat / 4, a.toNat % 4 * 16 + a'.toNat / 16, a'.toNat % 16 * 4], 1,
        ⟨?_, by omega, rfl, ?_⟩, ?_⟩
      · simp only [List.forall_mem_cons, List.not_mem_nil, false_implies, implies_true, and_true]
        omega
      · simp [Nat.ofDigits_cons]
        omega
      · rw [symbol_eq (by omega), symbol_eq (by omega), symbol_eq (by omega)]
        rfl
  | case4 a a' a'' rest ih =>
      obtain ⟨values, padding, spells, text⟩ := ih
      have a_lt := a.toNat_lt
      have a'_lt := a'.toNat_lt
      have a''_lt := a''.toNat_lt
      refine ⟨_, padding, spells.group a a' a'', ?_⟩
      rw [text, symbol_eq (by omega), symbol_eq (by omega), symbol_eq (by omega),
        symbol_eq (by omega)]
      rfl

/-- Sizes and number leave no choice of the digits. -/
lemma Spells.unique {values values' : List Nat} {padding padding' : Nat} {b : Bytes}
    (h : Spells values padding b) (h' : Spells values' padding' b) :
    values = values' ∧ padding = padding' := by
  have bits := h.bits
  have bits' := h'.bits
  have few := h.padding_lt
  have few' := h'.padding_lt
  obtain rfl : padding = padding' := by omega
  have number := h.number.trans h'.number.symm
  have size : values.reverse.length = values'.reverse.length := by
    rw [List.length_reverse, List.length_reverse]
    omega
  have same := Nat.ofDigits_inj_of_len_eq (by omega) size
    (fun v mem => h.below v (List.mem_reverse.1 mem))
    (fun v mem => h'.below v (List.mem_reverse.1 mem)) number
  exact ⟨List.reverse_injective same, rfl⟩

/-- Reading accepts standard Base64 and nothing else. -/
theorem decode_eq_some_iff_spells {t : List Char} {b : Bytes} :
    decode t = some b ↔
      ∃ values padding, Spells values padding b ∧ t = spelling values padding := by
  rw [decode_eq_some_iff]
  obtain ⟨values, padding, spells, text⟩ := exists_spells b
  rw [text]
  constructor
  · rintro rfl
    exact ⟨values, padding, spells, rfl⟩
  · rintro ⟨values', padding', spells', rfl⟩
    obtain ⟨rfl, rfl⟩ := spells.unique spells'
    rfl

lemma read?_eq_some_iff {t : String} {b : Bytes} : read? t = some b ↔ t = write b := by
  rw [read?, decode_eq_some_iff, write, ← String.toList_inj, String.toList_ofList, eq_comm]

end Base64

namespace Armor

lemma read_eq_ok_iff {t : String} {b : Bytes} : read t = .ok b ↔ t = Base64.write b := by
  rw [← Base64.read?_eq_some_iff, read]
  cases Base64.read? t with
  | none => simp
  | some b' => simp

lemma readBlock_eq_ok_iff {n : Nat} {t : String} {k : Block n} :
    readBlock n t = .ok k ↔ t = Base64.write k.toBytes := by
  constructor
  · intro h
    obtain ⟨b, found, fits⟩ := bind_eq_ok.1 h
    rw [read_eq_ok_iff.1 found]
    split at fits
    · next sized =>
        rw [pure_eq_ok.1 fits, Block.ofBytes?_eq_some_iff.1 sized]
    · cases fits
  · rintro rfl
    exact readBlock_write k

end Armor

namespace PublicKey

lemma ofText_eq_ok_iff {S : Suite} {t : String} {k : PublicKey} :
    ofText S t = .ok k ↔ t = k.toText ∧ S.isPublic k.bytes = true := by
  constructor
  · intro h
    rw [ofText] at h
    split at h
    · next b read =>
        obtain ⟨valid, h⟩ := accept_if_eq_ok.1 h
        obtain rfl := Except.ok.inj h
        exact ⟨Armor.readBlock_eq_ok_iff.1 read, valid⟩
    · cases h
  · rintro ⟨rfl, valid⟩
    simp only [ofText, toText, Armor.readBlock_write, ofBytes, valid, if_true]

lemma toText_inj {k k' : PublicKey} : k.toText = k'.toText ↔ k = k' := by
  constructor
  · intro same
    have again : Armor.readBlock 32 k.toText = .ok k'.bytes := Armor.readBlock_eq_ok_iff.2 same
    have bytes := (Armor.readBlock_write k.bytes).symm.trans again
    exact congrArg PublicKey.mk (Except.ok.inj bytes)
  · rintro rfl
    rfl

end PublicKey

/-- **Armor accepts exactly what it writes**, which is standard Base64: a text has one reading and a
byte string one text, at a fixed size as well, and a public key's text tells the key. -/
theorem Armor.accepts_written (S : Suite) :
    (∀ t b, read t = .ok b ↔ t = Base64.write b) ∧
    (∀ t b, read t = .ok b ↔
      ∃ values padding, Base64.Spells values padding b ∧
        t.toList = Base64.spelling values padding) ∧
    (∀ n t (k : Block n), readBlock n t = .ok k ↔ t = Base64.write k.toBytes) ∧
    (∀ t k, PublicKey.ofText S t = .ok k ↔ t = k.toText ∧ S.isPublic k.bytes = true) ∧
    ∀ k k' : PublicKey, k.toText = k'.toText ↔ k = k' := by
  refine ⟨fun t b => read_eq_ok_iff, fun t b => ?_, fun n t k => readBlock_eq_ok_iff,
    fun t k => PublicKey.ofText_eq_ok_iff, fun k k' => PublicKey.toText_inj⟩
  rw [← Base64.decode_eq_some_iff_spells, read_eq_ok_iff, ← Base64.read?_eq_some_iff, Base64.read?]

end CircleVault
