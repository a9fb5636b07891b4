import CircleVault.Proofs.Armor
import CircleVault.Salt

/-!
# What a salt's text stands for

A salt keeps the text that it was read from, and its bytes are found in one of two ways.  Base64 of
sixteen bytes stands for these bytes, whatever the charset.  Any other text is free-form: it stands
for the first sixteen of its bytes in the charset, with zeros where there are fewer.  `Salt.Stands`
says this about a text without decoding anything, so that it also says which texts are not Base64
of sixteen bytes: those that decode to another number of bytes, those whose unused bits are not
zero, and those with a character outside the alphabet, even if they have the right size.

The charset matters for free-form text alone, and only where the text leaves ASCII.
-/

namespace CircleVault

/-! ## Charsets -/

namespace Charset

/-- A text has certain bytes in a charset.  In Latin-1 each character has one byte, of the
character's number or, for a character outside the charset, of a question mark's. -/
def Encodes : Charset → String → Bytes → Prop
  | utf8, t, b => b.toByteArray = t.toUTF8
  | latin1, t, b =>
      b.map UInt8.toNat = t.toList.map fun ch => if ch.toNat ≤ 0xFF then ch.toNat else '?'.toNat

lemma toByteArray_utf8 (t : String) : (Text.utf8 t).toByteArray = t.toUTF8 :=
  String.utf8Encode_toList

lemma toByteArray_injective {b b' : Bytes} (same : b.toByteArray = b'.toByteArray) : b = b' := by
  have data := congrArg (fun a : ByteArray => a.data.toList) same
  simpa using data

lemma toNat_latin1Byte (ch : Char) :
    (latin1Byte ch).toNat = if ch.toNat ≤ 0xFF then ch.toNat else '?'.toNat := by
  unfold latin1Byte
  by_cases low : ch.toNat < 256
  · rw [if_pos low, if_pos (by omega), UInt8.toNat_ofNat_of_lt' low]
  · rw [if_neg low, if_neg (by omega)]
    rfl

/-- Encoding gives the bytes that a text has in the charset, and there are no others. -/
lemma encodes_iff {c : Charset} {t : String} {b : Bytes} : c.Encodes t b ↔ b = c.encode t := by
  cases c with
  | utf8 =>
      constructor
      · intro usual
        apply toByteArray_injective
        exact usual.trans (toByteArray_utf8 t).symm
      · rintro rfl
        exact toByteArray_utf8 t
  | latin1 =>
      have numbers : (latin1.encode t).map UInt8.toNat =
          t.toList.map fun ch => if ch.toNat ≤ 0xFF then ch.toNat else '?'.toNat := by
        simp only [encode, List.map_map]
        exact List.map_congr_left fun ch _ => toNat_latin1Byte ch
      constructor
      · intro each
        apply List.map_injective_iff.2 fun x y => UInt8.toNat_inj.1
        exact each.trans numbers.symm
      · rintro rfl
        exact numbers

/-- A text in ASCII. -/
def IsAscii (t : String) : Prop := ∀ ch ∈ t.toList, ch.toNat < 128

instance (t : String) : Decidable (IsAscii t) :=
  List.decidableBAll (fun ch : Char => ch.toNat < 128) t.toList

lemma utf8_of_isAscii {t : String} (ascii : IsAscii t) :
    Text.utf8 t = t.toList.map latin1Byte := by
  unfold Text.utf8
  rw [List.map_eq_flatMap]
  apply List.flatMap_congr
  intro ch mem
  have low := ascii ch mem
  have single : ch.utf8Size = 1 := by
    rw [Char.utf8Size_eq_one_iff, UInt32.le_iff_toNat_le]
    exact Nat.le_of_lt_succ low
  rw [String.utf8EncodeChar_eq_singleton single, latin1Byte, if_pos (by omega)]
  rfl

/-- In ASCII the charsets agree. -/
lemma encode_of_isAscii {t : String} (ascii : IsAscii t) (c c' : Charset) :
    c.encode t = c'.encode t := by
  have same : utf8.encode t = latin1.encode t := utf8_of_isAscii ascii
  cases c <;> cases c' <;> simp [same]

lemma utf8ByteSize_of_isAscii {t : String} (ascii : IsAscii t) :
    t.utf8ByteSize = t.toList.length := by
  have size := congrArg ByteArray.size (toByteArray_utf8 t)
  rw [utf8_of_isAscii ascii] at size
  simpa using size.symm

end Charset

/-! ## Canonical texts -/

lemma Block.toBytes_fit (n : Nat) (b : Bytes) :
    (fit n b).toBytes = b.take n ++ List.replicate (n - b.length) 0 := by
  simp [fit, List.take_append]

namespace Base64

lemma isAscii_spelling {values : List Nat} (padding : Nat) (below : ∀ v ∈ values, v < 64) :
    ∀ ch ∈ spelling values padding, ch.toNat < 128 := by
  -- The alphabet is a string, so its letters are looked at one by one.
  have letters : ∀ v : Fin 64, (alphabet.getD v '=').toNat < 128 := by decide +kernel
  intro ch mem
  rcases List.mem_append.1 mem with letter | sign
  · obtain ⟨v, listed, rfl⟩ := List.mem_map.1 letter
    exact letters ⟨v, below v listed⟩
  · rw [List.eq_of_mem_replicate sign]
    decide

/-- Sixteen bytes are written in 24 characters, each of one byte. -/
lemma utf8ByteSize_write (b : Block 16) : (write b.toBytes).utf8ByteSize = Salt.textSize := by
  obtain ⟨values, padding, spells, text⟩ := exists_spells b.toBytes
  have bits := spells.bits
  have few := spells.padding_lt
  rw [b.length_toBytes] at bits
  have ascii : Charset.IsAscii (write b.toBytes) := by
    unfold Charset.IsAscii write
    rw [String.toList_ofList, text]
    exact isAscii_spelling padding spells.below
  rw [Charset.utf8ByteSize_of_isAscii ascii, write, String.toList_ofList, text]
  simp only [spelling, List.length_append, List.length_map, List.length_replicate, Salt.textSize]
  omega

end Base64

namespace Salt

/-- A text is canonical exactly if it is the Base64 of some sixteen bytes: none of these is turned
away by its size. -/
lemma canonical?_eq_some_iff {t : String} {b : Block 16} :
    canonical? t = some b ↔ t = Base64.write b.toBytes := by
  unfold canonical?
  simp only [Option.ite_none_right_eq_some, Option.bind_eq_bind, Option.bind_eq_some_iff,
    Base64.read?_eq_some_iff, Block.ofBytes?_eq_some_iff]
  constructor
  · rintro ⟨-, bytes, rfl, rfl⟩
    rfl
  · rintro rfl
    exact ⟨Base64.utf8ByteSize_write b, _, rfl, rfl⟩

lemma canonical?_eq_none_iff {t : String} :
    canonical? t = none ↔ ∀ b : Block 16, t ≠ Base64.write b.toBytes := by
  rw [Option.eq_none_iff_forall_ne_some]
  simp only [ne_eq, canonical?_eq_some_iff]

/-- The text of sixteen bytes gives them back, whatever the charset. -/
lemma reread_ofBytes (c : Charset) (b : Block 16) : (ofBytes b).reread c = ofBytes b := by
  have read : canonical? (ofBytes b).text = some b := canonical?_eq_some_iff.2 rfl
  rw [reread, ofText, read, Option.getD_some]
  rfl

/-- A text stands for sixteen bytes: it is their Base64, or it is not Base64 of any sixteen bytes
and its own bytes in the charset begin with them, as far as they go. -/
inductive Stands (c : Charset) (t : String) (b : Block 16) : Prop
  | canonical (written : t = Base64.write b.toBytes)
  | freeForm (encoded : Bytes) (unwritten : ∀ b' : Block 16, t ≠ Base64.write b'.toBytes)
      (encodes : c.Encodes t encoded)
      (cut : b.toBytes = encoded.take 16 ++ List.replicate (16 - encoded.length) 0)

lemma stands_iff {c : Charset} {t : String} {b : Block 16} :
    Stands c t b ↔ b = (ofText c t).bytes := by
  unfold ofText legacy
  cases read : canonical? t with
  | some b' =>
      have written := canonical?_eq_some_iff.1 read
      rw [Option.getD_some]
      constructor
      · intro h
        cases h with
        | canonical written' =>
            exact Option.some.inj ((canonical?_eq_some_iff.2 written').symm.trans read)
        | freeForm _ unwritten => exact absurd written (unwritten b')
      · rintro rfl
        exact .canonical written
  | none =>
      have unwritten := canonical?_eq_none_iff.1 read
      rw [Option.getD_none, Block.ext_iff, Block.toBytes_fit]
      constructor
      · intro h
        cases h with
        | canonical written => exact absurd written (unwritten b)
        | freeForm encoded _ encodes cut => rw [cut, Charset.encodes_iff.1 encodes]
      · intro cut
        exact .freeForm (c.encode t) unwritten (Charset.encodes_iff.2 rfl) cut

/-- **A salt stands for what its text says.**  It keeps the text, and its bytes are the ones that
the text stands for.  No two blocks have one Base64 text, which takes 24 bytes, so looking at the
size of a text first turns none away.  The text of sixteen bytes gives them back in either charset,
and a text in ASCII gives one salt in all charsets. -/
theorem ofText_stands :
    (∀ c t, (ofText c t).text = t ∧ ∀ b, b = (ofText c t).bytes ↔ Stands c t b) ∧
    (∀ b b' : Block 16, Base64.write b.toBytes = Base64.write b'.toBytes ↔ b = b') ∧
    (∀ b : Block 16, (ofBytes b).text.utf8ByteSize = textSize) ∧
    (∀ c b, ofText c (ofBytes b).text = ofBytes b) ∧
    ∀ t, Charset.IsAscii t → ∀ c c', ofText c t = ofText c' t := by
  refine ⟨fun c t => ⟨rfl, fun b => stands_iff.symm⟩, ?_, Base64.utf8ByteSize_write,
    reread_ofBytes, ?_⟩
  · intro b b'
    constructor
    · intro same
      have read := canonical?_eq_some_iff.2 same
      exact Option.some.inj ((canonical?_eq_some_iff.2 rfl).symm.trans read)
    · rintro rfl
      rfl
  · intro t ascii c c'
    rw [ofText, ofText, legacy, legacy, Charset.encode_of_isAscii ascii c c']

/-- A text of 24 bytes in UTF-8, as many as Base64 of sixteen bytes takes, whose first sixteen end
inside a character that Latin-1 lacks. -/
def euros : String := "€€€€€€€€"

theorem ofText_stands_euros :
    euros.utf8ByteSize = textSize ∧
      Stands .utf8 euros (.fit 16 [0xE2, 0x82, 0xAC, 0xE2, 0x82, 0xAC, 0xE2, 0x82, 0xAC, 0xE2, 0x82,
        0xAC, 0xE2, 0x82, 0xAC, 0xE2]) ∧
      Stands .latin1 euros (.fit 16 [63, 63, 63, 63, 63, 63, 63, 63]) ∧
      Charset.IsAscii "0f8fad5b-d9cb-469f-a165-70867728950e" ∧
      ofText .utf8 "0f8fad5b-d9cb-469f-a165-70867728950e" =
        ofText .latin1 "0f8fad5b-d9cb-469f-a165-70867728950e" := by
  obtain ⟨stands, -, -, -, ascii⟩ := ofText_stands
  have plain : Charset.IsAscii "0f8fad5b-d9cb-469f-a165-70867728950e" := by decide +kernel
  refine ⟨by decide +kernel, ?_, ?_, plain, ascii _ plain .utf8 .latin1⟩
  · apply ((stands .utf8 euros).2 _).1
    decide +kernel
  · apply ((stands .latin1 euros).2 _).1
    decide +kernel

end Salt

end CircleVault
