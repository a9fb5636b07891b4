import CircleVault.Armor
import Mathlib.Tactic.Lemma

/-!
# Reading what was written in Base64

Reading a written form gives back the bytes, so a text that was written stands for its bytes alone.
The argument goes by groups of three bytes: each symbol gives back its value, no symbol is a padding
sign, and the upper and lower parts of neighbouring values join to the bytes they were cut from.
-/

namespace CircleVault

namespace Base64

/-! ## Symbols -/

lemma value?_symbol {v : Nat} (h : v < 64) : value? (symbol v) = some v := by
  have all : ∀ v : Fin 64, value? (symbol v) = some v.1 := by decide
  exact all ⟨v, h⟩

lemma symbol_ne_padding {v : Nat} (h : v < 64) : symbol v ≠ '=' := by
  have all : ∀ v : Fin 64, symbol v ≠ '=' := by decide
  exact all ⟨v, h⟩

lemma join_eq {hi scale lo : Nat} {b : UInt8} (h : hi * scale + lo = b.toNat) :
    join hi scale lo = b := by
  rw [join, h, UInt8.ofNat_toNat]

/-! ## Groups -/

lemma lastOne?_symbols (a : UInt8) :
    lastOne? (symbol (a.toNat / 4)) (symbol (a.toNat % 4 * 16)) = some [a] := by
  have ha := a.toNat_lt
  rw [lastOne?, value?_symbol (by omega), value?_symbol (by omega)]
  simp only [Option.bind_eq_bind, Option.bind_some]
  rw [if_pos (by omega), join_eq (b := a) (by omega)]

lemma lastTwo?_symbols (a b : UInt8) :
    lastTwo? (symbol (a.toNat / 4)) (symbol (a.toNat % 4 * 16 + b.toNat / 16))
      (symbol (b.toNat % 16 * 4)) = some [a, b] := by
  have ha := a.toNat_lt
  have hb := b.toNat_lt
  rw [lastTwo?, value?_symbol (by omega), value?_symbol (by omega), value?_symbol (by omega)]
  simp only [Option.bind_eq_bind, Option.bind_some]
  rw [if_pos (by omega), join_eq (b := a) (by omega), join_eq (b := b) (by omega)]

lemma three?_symbols (a b c : UInt8) :
    three? (symbol (a.toNat / 4)) (symbol (a.toNat % 4 * 16 + b.toNat / 16))
      (symbol (b.toNat % 16 * 4 + c.toNat / 64)) (symbol (c.toNat % 64)) = some [a, b, c] := by
  have ha := a.toNat_lt
  have hb := b.toNat_lt
  have hc := c.toNat_lt
  rw [three?, value?_symbol (by omega), value?_symbol (by omega), value?_symbol (by omega),
    value?_symbol (by omega)]
  simp only [Option.bind_eq_bind, Option.bind_some]
  rw [join_eq (b := a) (by omega), join_eq (b := b) (by omega), join_eq (b := c) (by omega)]

/-! ## Texts -/

theorem decode_encode (b : Bytes) : decode (encode b) = some b := by
  fun_induction encode b with
  | case1 => rfl
  | case2 a =>
      rw [decode, if_pos rfl, if_pos rfl, if_pos rfl]
      exact lastOne?_symbols a
  | case3 a b =>
      have hb := b.toNat_lt
      rw [decode, if_pos rfl, if_pos rfl, if_neg (symbol_ne_padding (by omega))]
      exact lastTwo?_symbols a b
  | case4 a b c rest ih =>
      rw [decode, if_neg (symbol_ne_padding (by omega)), three?_symbols, ih]
      rfl

/-- Reading a written form gives back the bytes. -/
theorem read?_write (b : Bytes) : read? (write b) = some b := by
  rw [read?, write, String.toList_ofList, decode_encode]

end Base64

lemma Armor.readBlock_write {n : Nat} (b : Block n) :
    Armor.readBlock n (Base64.write b.toBytes) = .ok b := by
  simp [Armor.readBlock, Armor.read, Base64.read?_write, bind, Except.bind, pure, Except.pure]

end CircleVault
