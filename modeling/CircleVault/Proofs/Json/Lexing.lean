import CircleVault.Json.Lexer
import Mathlib.Tactic.Lemma
import Mathlib.Tactic.SplitIfs

/-!
# Written tokens are read back

A token is written as a few characters, and the lexer takes exactly these off the front of a text.
For signs, words and strings this holds whatever follows.  A number ends where no digit, point or
exponent follows, so no number may stand directly behind another.  `Token.Legible` says this of a
list of tokens, and `lex_write` that the lexer gives the list back.
-/

namespace CircleVault.Json

/-! ## Strings -/

lemma hexValue?_hexDigit : ∀ v < 16, Bytes.hexValue? (Bytes.hexDigit v) = some v := by
  decide

/-- A control character is read back from its four digits. -/
lemma hex4?_control {v : Nat} (h : v < 32) :
    hex4? '0' '0' (Bytes.hexDigit (v / 16)) (Bytes.hexDigit (v % 16)) = some v := by
  have zero : Bytes.hexValue? '0' = some 0 := by decide
  have high := hexValue?_hexDigit (v / 16) (by omega)
  have low := hexValue?_hexDigit (v % 16) (by omega)
  simp only [hex4?, zero, high, low, Option.bind_eq_bind, Option.bind_some, Option.pure_def,
    Option.some.injEq]
  omega

lemma ofNumber_control {c : Char} (h : c.toNat < 32) :
    Piece.ofNumber c.toNat = .scalar c := by
  have low : ¬(0xD800 ≤ c.toNat ∧ c.toNat < 0xDC00) := by omega
  have high : ¬(0xDC00 ≤ c.toNat ∧ c.toNat < 0xE000) := by omega
  rw [Piece.ofNumber, if_neg low, if_neg high, Char.ofNat_toNat]

/-- What is read of a text with a character in front. -/
def prepend (c : Char) : Option (List Piece × List Char) → Option (List Piece × List Char) :=
  Option.map fun r => (.scalar c :: r.1, r.2)

lemma bind_prepend (c : Char) (read : Option (List Piece × List Char)) :
    (do let (ps, rest) ← read; return (Piece.scalar c :: ps, rest)) = prepend c read := by
  cases read <;> rfl

lemma pieces?_letter {letter c : Char} (h : unescape? letter = some c) (rest : List Char) :
    pieces? ('\\' :: letter :: rest) = prepend c (pieces? rest) := by
  have other : letter ≠ 'u' := by
    rintro rfl
    cases h
  rw [pieces?]
  · simp only [h, Option.bind_eq_bind, Option.bind_some]
    exact bind_prepend c _
  · intro _ _ _ _ _ same
    exact absurd same other

lemma pieces?_control {c : Char} (h : c.toNat < 32) (rest : List Char) :
    pieces? ('\\' :: 'u' :: '0' :: '0' :: Bytes.hexDigit (c.toNat / 16) ::
      Bytes.hexDigit (c.toNat % 16) :: rest) = prepend c (pieces? rest) := by
  rw [pieces?]
  simp only [hex4?_control h, Option.bind_eq_bind, Option.bind_some, ofNumber_control h]
  exact bind_prepend c _

lemma pieces?_plain {c : Char} (quote : c ≠ '"') (backslash : c ≠ '\\')
    (printed : ¬c.toNat < 32) (rest : List Char) :
    pieces? (c :: rest) = prepend c (pieces? rest) := by
  rw [pieces?]
  · rw [if_neg (by simp [printed, backslash])]
    exact bind_prepend c _
  · exact quote
  · intro _ _ _ _ _ same
    exact absurd same backslash
  · intro _ _ same
    exact absurd same backslash

/-- What stands for a character in a string is read as that character. -/
lemma pieces?_escape (c : Char) (rest : List Char) :
    pieces? (escape c ++ rest) = prepend c (pieces? rest) := by
  unfold escape
  split_ifs with quote backslash newline ret tab backspace feed control
  · subst quote
    exact pieces?_letter rfl rest
  · subst backslash
    exact pieces?_letter rfl rest
  · subst newline
    exact pieces?_letter rfl rest
  · subst ret
    exact pieces?_letter rfl rest
  · subst tab
    exact pieces?_letter rfl rest
  · have read : unescape? 'b' = some c := by
      rw [← Char.ofNat_toNat c, backspace]
      rfl
    exact pieces?_letter read rest
  · have read : unescape? 'f' = some c := by
      rw [← Char.ofNat_toNat c, feed]
      rfl
    exact pieces?_letter read rest
  · exact pieces?_control control rest
  · exact pieces?_plain quote backslash control rest

lemma pieces?_quote (cs rest : List Char) :
    pieces? (cs.flatMap escape ++ '"' :: rest) = some (cs.map .scalar, rest) := by
  induction cs with
  | nil => simp [pieces?]
  | cons c cs ih =>
      rw [List.flatMap_cons, List.append_assoc, pieces?_escape, ih]
      rfl

lemma join?_scalar (cs : List Char) : join? (cs.map .scalar) = some cs := by
  induction cs with
  | nil => rfl
  | cons c cs ih => simp [join?, ih]

lemma string?_quote (s : String) (rest : List Char) :
    string? (s.toList.flatMap escape ++ '"' :: rest) = some (.text s, rest) := by
  simp [string?, pieces?_quote, join?_scalar]

/-! ## Numbers -/

/-- What does not go on with the digits, the fraction or the exponent of a number. -/
def EndsNumber (rest : List Char) : Prop :=
  ∀ c ∈ rest.head?, isDigit c = false ∧ c ≠ '.' ∧ c ≠ 'e' ∧ c ≠ 'E'

lemma isDigit_of_mem_toDigits {n : Nat} {c : Char} (h : c ∈ Nat.toDigits 10 n) :
    isDigit c = true :=
  Nat.isDigit_of_mem_toDigits (by omega) (by omega) h

/-- The digits of a number, and what follows them. -/
lemma digits?_toDigits (n : Nat) {rest : List Char} (ends : EndsNumber rest) :
    digits? (Nat.toDigits 10 n ++ rest) = some (Nat.toDigits 10 n, rest) := by
  have all : ∀ c ∈ Nat.toDigits 10 n, isDigit c = true := fun _ => isDigit_of_mem_toDigits
  have stops : rest.takeWhile isDigit = [] ∧ rest.dropWhile isDigit = rest := by
    cases rest with
    | nil => exact ⟨rfl, rfl⟩
    | cons c rest => simp [(ends c rfl).1]
  simp [digits?, List.takeWhile_append_of_pos all, List.dropWhile_append_of_pos all, stops,
    Nat.toDigits_ne_nil]

lemma head?_toDigits_ne_zero {n : Nat} (pos : 0 < n) : (Nat.toDigits 10 n).head? ≠ some '0' := by
  induction n using Nat.strongRecOn with
  | ind n ih =>
      rw [Nat.toDigits_eq_if (by omega)]
      split
      next small =>
        have nonzero : ∀ d < 10, 0 < d → d.digitChar ≠ '0' := by decide
        simpa using nonzero n small pos
      next large =>
        have first := ih (n / 10) (by omega) (by omega)
        rwa [List.head?_append, Option.or_of_isSome (by simp [Nat.toDigits_ne_nil])]

/-- The digits of a number have no zero in front. -/
lemma whole?_toDigits (n : Nat) {rest : List Char} (ends : EndsNumber rest) :
    whole? (Nat.toDigits 10 n ++ rest) = some (Nat.toDigits 10 n, rest) := by
  have unpadded : ¬((Nat.toDigits 10 n).head? = some '0' ∧ (Nat.toDigits 10 n).length ≠ 1) := by
    rintro ⟨zero, long⟩
    cases Nat.eq_zero_or_pos n with
    | inl none => exact long (none ▸ rfl)
    | inr pos => exact head?_toDigits_ne_zero pos zero
  simp [whole?, digits?_toDigits n ends, unpadded]

lemma fraction?_ends {rest : List Char} (ends : EndsNumber rest) :
    fraction? rest = some (false, rest) := by
  cases rest with
  | nil => rfl
  | cons c rest =>
      obtain ⟨-, point, -, -⟩ := ends c rfl
      rw [fraction?]
      intro _ same
      exact point (List.cons.inj same).1

lemma exponent?_ends {rest : List Char} (ends : EndsNumber rest) :
    exponent? rest = some (false, rest) := by
  cases rest with
  | nil => rfl
  | cons c rest =>
      obtain ⟨-, -, lower, upper⟩ := ends c rfl
      rw [exponent?]
      · intro _ same
        exact lower (List.cons.inj same).1
      · intro _ same
        exact upper (List.cons.inj same).1

lemma ofDigits_toDigits (n : Nat) : ofDigits (Nat.toDigits 10 n) = n :=
  Nat.ofDigitChars_toDigits (by omega) (by omega)

/-- Whether an integer fits 64 bits, with a sign or without. -/
def Fits (v : Int) : Prop := -0x8000000000000000 ≤ v ∧ v ≤ 0xFFFFFFFFFFFFFFFF

lemma number?_toDigits {v : Int} (fits : Fits v) {rest : List Char} (ends : EndsNumber rest) :
    number? (v < 0) (Nat.toDigits 10 v.natAbs ++ rest) = some (.int v, rest) := by
  obtain ⟨least, greatest⟩ := fits
  simp only [number?, whole?_toDigits _ ends, fraction?_ends ends, exponent?_ends ends,
    ofDigits_toDigits, Option.bind_eq_bind, Option.bind_some, Option.pure_def, Bool.or_self,
    Bool.false_eq_true, if_false, decide_eq_true_eq, Nat.pow_eq, Option.some.injEq,
    Prod.mk.injEq, and_true]
  split_ifs with negative inside below
  · exact congrArg Token.int (by omega)
  · omega
  · exact congrArg Token.int (by omega)
  · omega

/-! ## Tokens -/

namespace Token

/-- Whether a token is a number. -/
def isInt : Token → Bool
  | int _ => true
  | _ => false

/-- A token that is written in full. -/
def IsPlain : Token → Prop
  | int v => Fits v
  | real => False
  | garbled => False
  | bad => False
  | _ => True

/-- Tokens that are written in full, and no number directly behind another. -/
def Legible : List Token → Prop
  | [] => True
  | t :: ts => t.IsPlain ∧ (t.isInt = true → ∀ t' ∈ ts.head?, t'.isInt = false) ∧ Legible ts

end Token

lemma token?_digit {c : Char} (digit : isDigit c = true) (rest : List Char) :
    token? (c :: rest) = number? false (c :: rest) := by
  have sign : ∀ d, isDigit d = false → c ≠ d := by
    rintro _ plain rfl
    exact absurd digit (by simp [plain])
  rw [token?.eq_def]
  split
  all_goals first
    | rfl
    | next same => exact absurd (List.cons.inj same).1 (sign _ (by decide))

lemma token?_decimal {v : Int} (fits : Fits v) {rest : List Char} (ends : EndsNumber rest) :
    token? (decimal v ++ rest) = some (.int v, rest) := by
  have read := number?_toDigits fits ends
  unfold decimal
  split
  next negative =>
    rw [decide_eq_true negative] at read
    exact read
  next positive =>
    rw [decide_eq_false positive] at read
    cases written : Nat.toDigits 10 v.natAbs with
    | nil => exact absurd written Nat.toDigits_ne_nil
    | cons c cs =>
        have digit : isDigit c = true := isDigit_of_mem_toDigits (n := v.natAbs) (by simp [written])
        rw [List.cons_append, token?_digit digit, ← List.cons_append, ← written]
        exact read

/-- The first token of a text that begins with a written one. -/
lemma token?_write {t : Token} (plain : t.IsPlain) {rest : List Char}
    (ends : t.isInt = true → EndsNumber rest) : token? (t.write ++ rest) = some (t, rest) := by
  cases t with
  | int v => exact token?_decimal plain (ends rfl)
  | text s =>
      have read := string?_quote s rest
      simpa [Token.write, quote, token?] using read
  | bool b => cases b <;> rfl
  | real => cases plain
  | garbled => cases plain
  | bad => cases plain
  | _ => rfl

/-- A written token begins with a character that is no blank, and only a number begins as a number
goes on. -/
lemma write_head {t : Token} (plain : t.IsPlain) :
    ∃ c cs, t.write = c :: cs ∧ isBlank c = false ∧ (t.isInt = false → EndsNumber (c :: cs)) := by
  have sign : ∀ {c : Char} (cs : List Char), isDigit c = false ∧ c ≠ '.' ∧ c ≠ 'e' ∧ c ≠ 'E' →
      EndsNumber (c :: cs) := by
    intro c cs other c' same
    obtain rfl : c = c' := by simpa using same
    exact other
  cases t with
  | int v =>
      show ∃ c cs, decimal v = c :: cs ∧ _
      unfold decimal
      split
      · exact ⟨'-', _, rfl, by decide, nofun⟩
      · cases written : Nat.toDigits 10 v.natAbs with
        | nil => exact absurd written Nat.toDigits_ne_nil
        | cons c cs =>
            have digit : isDigit c = true :=
              isDigit_of_mem_toDigits (n := v.natAbs) (by simp [written])
            have blank : ∀ d, isDigit d = false → c ≠ d := by
              rintro _ plain rfl
              exact absurd digit (by simp [plain])
            have plain : isBlank c = false := by
              simp [isBlank, blank ' ' (by decide), blank '\t' (by decide),
                blank '\n' (by decide), blank '\r' (by decide)]
            exact ⟨c, cs, rfl, plain, nofun⟩
  | bool b =>
      cases b with
      | true => exact ⟨_, _, rfl, by decide, fun _ => sign _ (by decide)⟩
      | false => exact ⟨_, _, rfl, by decide, fun _ => sign _ (by decide)⟩
  | real => cases plain
  | garbled => cases plain
  | bad => cases plain
  | _ => exact ⟨_, _, rfl, by decide, fun _ => sign _ (by decide)⟩

/-- **Legible tokens are read back.** -/
theorem lexWith_write {ts : List Token} (legible : Token.Legible ts) {fuel : Nat}
    (enough : (ts.flatMap Token.write).length < fuel) :
    lexWith fuel (ts.flatMap Token.write) = ts := by
  induction ts generalizing fuel with
  | nil =>
      cases fuel with
      | zero => cases enough
      | succ fuel => rfl
  | cons t ts ih =>
      obtain ⟨plain, spaced, legible⟩ := legible
      obtain ⟨c, cs, written, visible, -⟩ := write_head plain
      have ends : t.isInt = true → EndsNumber (ts.flatMap Token.write) := by
        intro number
        cases ts with
        | nil => nofun
        | cons t' ts =>
            obtain ⟨c', cs', written', -, ends⟩ := write_head legible.1
            have other := ends (spaced number t' rfl)
            intro d first
            apply other d
            simpa [written'] using first
      have read := token?_write plain ends
      rw [List.flatMap_cons] at enough ⊢
      cases fuel with
      | zero => cases enough
      | succ fuel =>
          have shorter : (ts.flatMap Token.write).length < fuel := by
            rw [List.length_append, written, List.length_cons] at enough
            omega
          rw [written, List.cons_append] at read ⊢
          rw [lexWith, List.dropWhile_cons_of_neg (by simp [visible])]
          simp only [read, ih legible shorter]

/-- The lexer gives back the tokens of a text that was written. -/
theorem lex_write {ts : List Token} (legible : Token.Legible ts) :
    lex (ts.flatMap Token.write) = ts :=
  lexWith_write legible (Nat.lt_succ_self _)

end CircleVault.Json
