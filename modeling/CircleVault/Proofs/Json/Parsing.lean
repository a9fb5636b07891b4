import CircleVault.Json.Parser
import CircleVault.Proofs.Json.Lexing

/-!
# Written values are read back

A value is plain if it has none of the leaves that only a faulty text leaves behind, and its
integers fit 64 bits.  The tokens of a plain value are legible (`legible_tokens`), and the tree that
is built from them is the value again, whatever tokens follow (`value_tokens`).  So a plain value
comes back from its text, and nothing is left of the text (`parse_render`).

The lemmas come in threes, one for values, one for the further items of an array and one for the
further fields of an object, as the functions do.
-/

namespace CircleVault.Json

mutual

/-- A value that has a text. -/
def IsPlain : Json → Prop
  | null => True
  | bool _ => True
  | int v => Fits v
  | text _ => True
  | array xs => ArePlain xs
  | object fs => FieldsPlain fs
  | real => False
  | garbled => False
  | misnamed _ => False
  | broken => False

def ArePlain : List Json → Prop
  | [] => True
  | x :: xs => IsPlain x ∧ ArePlain xs

def FieldsPlain : List (String × Json) → Prop
  | [] => True
  | (_, x) :: fs => IsPlain x ∧ FieldsPlain fs

end

lemma arePlain_iff {xs : List Json} : ArePlain xs ↔ ∀ x ∈ xs, x.IsPlain := by
  induction xs with
  | nil => simp [ArePlain]
  | cons x xs ih => simp [ArePlain, ih]

/-! ## Tokens of a value -/

/-- Tokens that may stand behind a value. -/
structure Follow (rest : List Token) : Prop where
  legible : Token.Legible rest
  noInt : ∀ t ∈ rest.head?, t.isInt = false

/-- A sign, a word or a string in front of legible tokens. -/
lemma Token.Legible.cons {t : Token} {ts : List Token} (h : Token.Legible ts)
    (plain : t.IsPlain := by trivial) (sign : t.isInt = false := by rfl) :
    Token.Legible (t :: ts) :=
  ⟨plain, fun number => by simp [sign] at number, h⟩

lemma Follow.cons {t : Token} {ts : List Token} (h : Token.Legible ts)
    (plain : t.IsPlain := by trivial) (sign : t.isInt = false := by rfl) : Follow (t :: ts) :=
  ⟨h.cons plain sign, fun t' first => by
    obtain rfl : t = t' := by simpa using first
    exact sign⟩

mutual

lemma legible_tokens {rest : List Token} (follow : Follow rest) :
    ∀ j : Json, j.IsPlain → Token.Legible (j.tokens ++ rest)
  | .null, _ => follow.legible.cons
  | .bool _, _ => follow.legible.cons
  | .int _, fits => ⟨fits, fun _ => follow.noInt, follow.legible⟩
  | .text _, _ => follow.legible.cons
  | .array [], _ => follow.legible.cons.cons
  | .array (x :: xs), ⟨plain, plains⟩ => by
      have items := follow_itemTokens follow xs plains
      have first := legible_tokens items x plain
      simpa [tokens] using first.cons (t := .openBracket)
  | .object [], _ => follow.legible.cons.cons
  | .object ((k, x) :: fs), ⟨plain, plains⟩ => by
      have fields := follow_fieldTokens follow fs plains
      have first := legible_tokens fields x plain
      have named := first.cons (t := .colon)
      have titled := named.cons (t := .text k)
      simpa [tokens] using titled.cons (t := .openBrace)

lemma follow_itemTokens {rest : List Token} (follow : Follow rest) :
    ∀ xs : List Json, ArePlain xs → Follow (itemTokens xs ++ rest)
  | [], _ => .cons follow.legible
  | x :: xs, ⟨plain, plains⟩ => by
      have items := follow_itemTokens follow xs plains
      have first := legible_tokens items x plain
      simpa [itemTokens] using Follow.cons (t := .comma) first

lemma follow_fieldTokens {rest : List Token} (follow : Follow rest) :
    ∀ fs : List (String × Json), FieldsPlain fs → Follow (fieldTokens fs ++ rest)
  | [], _ => .cons follow.legible
  | (k, x) :: fs, ⟨plain, plains⟩ => by
      have fields := follow_fieldTokens follow fs plains
      have first := legible_tokens fields x plain
      have named := first.cons (t := .colon)
      have titled := named.cons (t := .text k)
      simpa [fieldTokens] using Follow.cons (t := .comma) titled

end

/-! ## The tree of the tokens -/

/-- The tokens of a value do not begin with the end of an array. -/
lemma tokens_head {j : Json} (plain : j.IsPlain) :
    ∃ t ts, j.tokens = t :: ts ∧ t ≠ .closeBracket := by
  cases j with
  | array xs => cases xs <;> exact ⟨_, _, rfl, nofun⟩
  | object fs =>
      cases fs with
      | nil => exact ⟨_, _, rfl, nofun⟩
      | cons f fs => exact ⟨_, _, rfl, nofun⟩
  | real => cases plain
  | garbled => cases plain
  | misnamed x => cases plain
  | broken => cases plain
  | _ => exact ⟨_, _, rfl, nofun⟩

lemma itemTokens_length_pos (xs : List Json) : 0 < (itemTokens xs).length := by
  cases xs <;> simp [itemTokens]

lemma fieldTokens_length_pos (fs : List (String × Json)) : 0 < (fieldTokens fs).length := by
  cases fs <;> simp [fieldTokens]

-- The fuel bounds the nesting of the calls: one for a value, and one more for each item or field
-- before the one that is read.  Every call is paid for by a token of its own.
mutual

theorem value_tokens (rest : List Token) : ∀ (fuel : Nat) (j : Json), j.IsPlain →
    j.tokens.length ≤ fuel → value fuel (j.tokens ++ rest) = (j, rest)
  | 0, j, plain, enough => by
      obtain ⟨t, ts, written, -⟩ := tokens_head plain
      simp [written] at enough
  | fuel + 1, .null, _, _ => rfl
  | fuel + 1, .bool _, _, _ => rfl
  | fuel + 1, .int _, _, _ => rfl
  | fuel + 1, .text _, _, _ => rfl
  | fuel + 1, .array [], _, _ => rfl
  | fuel + 1, .array (x :: xs), ⟨plain, plains⟩, enough => by
      have paid : x.tokens.length + (itemTokens xs).length ≤ fuel := by
        simpa [tokens] using enough
      have read := items_tokens rest fuel x xs plain plains paid
      obtain ⟨t, ts, written, opens⟩ := tokens_head plain
      have array : (Json.array (x :: xs)).tokens ++ rest =
          .openBracket :: (x.tokens ++ (itemTokens xs ++ rest)) := by
        simp [tokens]
      rw [array, value]
      · rw [read]
      · intro rest' closed
        rw [written] at closed
        exact opens (List.cons.inj closed).1
  | fuel + 1, .object [], _, _ => rfl
  | fuel + 1, .object ((k, x) :: fs), ⟨plain, plains⟩, enough => by
      have paid : x.tokens.length + (fieldTokens fs).length ≤ fuel := by
        simp [tokens] at enough
        omega
      have read := fields_tokens rest fuel k x fs plain plains paid
      have object : (Json.object ((k, x) :: fs)).tokens ++ rest =
          .openBrace :: .text k :: .colon :: (x.tokens ++ (fieldTokens fs ++ rest)) := by
        simp [tokens]
      rw [object, value]
      · rw [read]
      · nofun

theorem items_tokens (rest : List Token) : ∀ (fuel : Nat) (x : Json) (xs : List Json),
    x.IsPlain → ArePlain xs → x.tokens.length + (itemTokens xs).length ≤ fuel →
      items fuel (x.tokens ++ (itemTokens xs ++ rest)) = (x :: xs, rest)
  | 0, x, xs, plain, plains, enough => by
      have := itemTokens_length_pos xs
      omega
  | fuel + 1, x, xs, plain, plains, enough => by
      have pos := itemTokens_length_pos xs
      have first := value_tokens (itemTokens xs ++ rest) fuel x plain (by omega)
      rw [items, first]
      cases xs with
      | nil => rfl
      | cons y ys =>
          have paid : y.tokens.length + (itemTokens ys).length ≤ fuel := by
            simp [itemTokens] at enough
            omega
          have others := items_tokens rest fuel y ys plains.1 plains.2 paid
          simp [itemTokens, others]

theorem fields_tokens (rest : List Token) : ∀ (fuel : Nat) (k : String) (x : Json)
    (fs : List (String × Json)), x.IsPlain → FieldsPlain fs →
      x.tokens.length + (fieldTokens fs).length ≤ fuel →
        fields fuel (.text k :: .colon :: (x.tokens ++ (fieldTokens fs ++ rest))) =
          ((k, x) :: fs, rest)
  | 0, k, x, fs, plain, plains, enough => by
      have := fieldTokens_length_pos fs
      omega
  | fuel + 1, k, x, fs, plain, plains, enough => by
      have pos := fieldTokens_length_pos fs
      have first := value_tokens (fieldTokens fs ++ rest) fuel x plain (by omega)
      rw [fields, first]
      cases fs with
      | nil => rfl
      | cons f fs =>
          obtain ⟨k', y⟩ := f
          have paid : y.tokens.length + (fieldTokens fs).length ≤ fuel := by
            simp [fieldTokens] at enough
            omega
          have others := fields_tokens rest fuel k' y fs plains.1 plains.2 paid
          simp [fieldTokens, Token.entitle, others]

end

/-- **A plain value is read back from its text**, and nothing of the text is left. -/
theorem parse_render {j : Json} (plain : j.IsPlain) : parse j.render = ⟨j, true⟩ := by
  have nothing : Follow [] := ⟨trivial, nofun⟩
  have legible : Token.Legible j.tokens := by simpa using legible_tokens nothing j plain
  have lexed : lex j.render.toList = j.tokens := by
    rw [render, String.toList_ofList]
    exact lex_write legible
  have read := value_tokens [] (2 * j.tokens.length + 2) j plain (by omega)
  rw [List.append_nil] at read
  simp [parse, lexed, read]

end CircleVault.Json
