import CircleVault.SealedKey.Cbor
import Mathlib.Algebra.Group.Nat.Defs
import Mathlib.Tactic.Lemma

/-!
# Reading what was written in CBOR

Each reader gives back what the writer of its kind wrote, and leaves what follows.  Heads come
first: a written head is read with the kind and the number it was written for, whichever of the five
widths the number took.  Numbers, texts and arrays of bytes follow.
-/

namespace CircleVault

namespace Cbor

/-! ## Digits -/

lemma toNatLE_ofNatLE {n v : Nat} (h : v < 256 ^ n) : Bytes.toNatLE (Bytes.ofNatLE n v) = v := by
  induction n generalizing v with
  | zero => simp_all [Bytes.ofNatLE, Bytes.toNatLE]
  | succ n ih =>
      have rest := ih (v := v / 256) (by rw [Nat.pow_succ] at h; omega)
      simp only [Bytes.ofNatLE, Bytes.toNatLE, List.foldr_cons] at rest ⊢
      rw [rest, UInt8.toNat_ofNat']
      omega

lemma readBigEndian?_bigEndian {n v : Nat} (h : v < 256 ^ n) (t : Bytes) :
    readBigEndian? n (bigEndian n v ++ t) = some (v, t) := by
  have size : (bigEndian n v).length = n := by simp [bigEndian]
  rw [readBigEndian?, if_pos (by simp [size]), List.take_left' size, List.drop_left' size,
    bigEndian, List.reverse_reverse, toNatLE_ofNatLE h]

/-! ## Heads -/

lemma toNat_first {kind low : Nat} (hk : kind < 8) (hl : low < 32) :
    (UInt8.ofNat (32 * kind + low)).toNat = 32 * kind + low := by
  rw [UInt8.toNat_ofNat', Nat.mod_eq_of_lt (by omega)]

/-- A head whose first byte announces a number is read with it. -/
lemma read?_first {kind low v : Nat} {h : Head} {b t : Bytes} (hk : kind < 8) (hl : low < 32)
    (number : readNumber? low b = some (some v, t)) (made : Head.make? kind low (some v) = some h) :
    Head.read? (UInt8.ofNat (32 * kind + low) :: b) = some (h, t) := by
  have hlow : (32 * kind + low) % 32 = low := by omega
  have hkind : (32 * kind + low) / 32 = kind := by omega
  simp only [Head.read?, toNat_first hk hl, hlow, hkind, number, made, Option.bind_eq_bind,
    Option.bind_some]

/-- A written head is read with its number, whatever its width. -/
lemma read?_head {kind v : Nat} {h : Head} (hk : kind < 8) (hv : v < 2 ^ 64)
    (made : ∀ low, Head.make? kind low (some v) = some h) (t : Bytes) :
    Head.read? (head kind v ++ t) = some (h, t) := by
  have wide (n : Nat) (fits : v < 256 ^ n) := readBigEndian?_bigEndian fits t
  simp only [head]
  split
  next small => exact read?_first hk (by omega) (by simp [readNumber?, small]) (made v)
  split
  next one =>
    exact read?_first hk (by decide) (by simp [readNumber?, wide 1 (by omega)]) (made 24)
  split
  next two =>
    exact read?_first hk (by decide) (by simp [readNumber?, wide 2 (by omega)]) (made 25)
  split
  next four =>
    exact read?_first hk (by decide) (by simp [readNumber?, wide 4 (by omega)]) (made 26)
  next =>
    exact read?_first hk (by decide) (by simp [readNumber?, wide 8 (by omega)]) (made 27)

lemma read?_number {v : Nat} (hv : v < 2 ^ 64) (t : Bytes) :
    Head.read? (number v ++ t) = some (.positive v, t) :=
  read?_head (by decide) hv (fun _ => rfl) t

lemma untagged?_head {kind v : Nat} {h : Head} (hk : kind < 8) (hv : v < 2 ^ 64)
    (made : ∀ low, Head.make? kind low (some v) = some h) (untagged : ∀ tag, h ≠ .tag tag)
    (fuel : Nat) (t : Bytes) : untagged? (fuel + 1) (head kind v ++ t) = some (h, t) := by
  rw [untagged?, read?_head hk hv made]
  cases h <;> simp_all

/-! ## Arrays of bytes -/

lemma byte?_number (x : UInt8) (t : Bytes) : byte? (number x.toNat ++ t) = some (x, t) := by
  have hx := x.toNat_lt
  simp only [byte?, integer?, read?_number (show x.toNat < 2 ^ 64 by omega), Option.bind_eq_bind,
    Option.bind_some]
  rw [if_pos (by omega), Int.toNat_natCast, UInt8.ofNat_toNat]

/-- The numbers of an array of bytes. -/
def numbers (b : Bytes) : Bytes := b.flatMap fun x => number x.toNat

lemma byteArray_eq (b : Bytes) : byteArray b = head 4 b.length ++ numbers b := rfl

lemma allBytes?_numbers (b : Bytes) {fuel : Nat} (h : b.length < fuel) (t : Bytes) :
    allBytes? fuel (some b.length) (numbers b ++ t) = some (b, t) := by
  induction b generalizing fuel with
  | nil =>
      obtain ⟨fuel, rfl⟩ := Nat.exists_eq_succ_of_ne_zero (Nat.ne_of_gt h)
      rfl
  | cons x b ih =>
      obtain ⟨fuel, rfl⟩ := Nat.exists_eq_succ_of_ne_zero (Nat.ne_of_gt (Nat.zero_lt_of_lt h))
      have rest := @ih fuel (by simpa using h)
      rw [numbers] at rest ⊢
      simp only [allBytes?, List.length_cons, next?, List.flatMap_cons, List.append_assoc,
        Option.bind_eq_bind, Option.bind_some, byte?_number, rest]

lemma someBytes?_numbers (b : Bytes) (t : Bytes) :
    someBytes? b.length (some b.length) (numbers b ++ t) = some (b, t) := by
  induction b with
  | nil => rfl
  | cons x b ih =>
      rw [numbers] at ih ⊢
      simp only [someBytes?, List.length_cons, next?, List.flatMap_cons, List.append_assoc,
        Option.bind_eq_bind, Option.bind_some, byte?_number, ih]

lemma one_le_length_head (kind v : Nat) : 1 ≤ (head kind v).length := by
  simp only [head]
  repeat' split
  all_goals simp

lemma length_le_numbers (b : Bytes) : b.length ≤ (numbers b).length := by
  induction b with
  | nil => simp
  | cons x b ih =>
      have := one_le_length_head 0 x.toNat
      simp only [numbers, List.flatMap_cons, List.length_append, List.length_cons, number] at ih ⊢
      omega

lemma bytes?_byteArray {b : Bytes} (h : b.length < 2 ^ 64) (t : Bytes) :
    bytes? (byteArray b ++ t) = some (b, t) := by
  have enough := length_le_numbers b
  rw [bytes?, byteArray_eq, List.append_assoc,
    untagged?_head (h := .array (some b.length)) (by decide) h (fun _ => rfl) nofun]
  exact allBytes?_numbers b (by rw [List.length_append]; omega) t

lemma block?_byteArray {n : Nat} (hn : n < 2 ^ 64) (k : Block n) (t : Bytes) :
    block? n (byteArray k.toBytes ++ t) = some (k, t) := by
  have whole := someBytes?_numbers k.toBytes t
  rw [k.length_toBytes] at whole
  rw [block?, byteArray_eq, List.append_assoc, k.length_toBytes,
    untagged?_head (h := .array (some n)) (by decide) hn (fun _ => rfl) nofun]
  simp only [Option.bind_eq_bind, Option.bind_some, whole]
  rw [List.take_of_length_le (by simp), Block.ofBytes?_toBytes, Option.bind_some]

/-! ## Keys -/

lemma ofUtf8?_utf8 (s : String) : Text.ofUtf8? (Text.utf8 s) = some s := by
  have bytes : (Text.utf8 s).toByteArray = s.toByteArray := String.utf8Encode_toList
  rw [Text.ofUtf8?, bytes, String.fromUTF8?, dif_pos s.isValidUTF8]
  rfl

lemma key?_text {s : String} (h : (Text.utf8 s).length ≤ maxKeyLength) (t : Bytes) :
    key? (text s ++ t) = some (Text.utf8 s, t) := by
  have hv : (Text.utf8 s).length < 2 ^ 64 := by
    rw [maxKeyLength] at h
    omega
  have piece : piece? .text (Text.utf8 s).length (Text.utf8 s ++ t) = some (Text.utf8 s, t) := by
    rw [piece?, List.take_left, List.drop_left, if_pos]
    simp [StringKind.admits, ofUtf8?_utf8]
  rw [key?, text, List.append_assoc,
    untagged?_head (h := .text (some (Text.utf8 s).length)) (by decide) hv (fun _ => rfl) nofun]
  simp only [Option.bind_eq_bind, Option.bind_some, if_pos h, piece]

end Cbor

/-! ## Sealed keys -/

namespace SealedKey

open Cbor

/-! A field is read where none of its name has been read before. -/

lemma field?_version {d : Draft} (unset : d.version = none) (v : UInt8) (t : Bytes) :
    d.field? (Text.utf8 "version") (number v.toNat ++ t) =
      some ({ d with version := some v }, t) := by
  rw [Draft.field?, if_pos rfl, unset, byte?_number]
  rfl

lemma field?_ephemeral {d : Draft} (unset : d.ephemeral = none) (k : Block 32) (t : Bytes) :
    d.field? (Text.utf8 "ephemeral_public") (byteArray k.toBytes ++ t) =
      some ({ d with ephemeral := some k }, t) := by
  rw [Draft.field?, if_neg (by decide), if_pos rfl, unset, block?_byteArray (by decide)]
  rfl

lemma field?_nonce {d : Draft} (unset : d.nonce = none) (k : Block 12) (t : Bytes) :
    d.field? (Text.utf8 "nonce") (byteArray k.toBytes ++ t) =
      some ({ d with nonce := some k }, t) := by
  rw [Draft.field?, if_neg (by decide), if_neg (by decide), if_pos rfl, unset,
    block?_byteArray (by decide)]
  rfl

lemma field?_encrypted {d : Draft} (unset : d.encrypted = none) {b : Bytes}
    (h : b.length < 2 ^ 64) (t : Bytes) :
    d.field? (Text.utf8 "encrypted_key") (byteArray b ++ t) =
      some ({ d with encrypted := some b }, t) := by
  rw [Draft.field?, if_neg (by decide), if_neg (by decide), if_neg (by decide), if_pos rfl, unset,
    bytes?_byteArray h]
  rfl

/-- A field is read, and the ones after it follow. -/
lemma fields?_field {name : String} {d d' : Draft} {v t : Bytes}
    (short : (Text.utf8 name).length ≤ maxKeyLength)
    (field : d.field? (Text.utf8 name) (v ++ t) = some (d', t)) (fuel n : Nat) :
    Draft.fields? (fuel + 1) (some (n + 1)) d (text name ++ (v ++ t)) =
      Draft.fields? fuel (some n) d' t := by
  simp only [Draft.fields?, next?, Option.bind_eq_bind, Option.bind_some, key?_text short, field]

/-- Reading the encoding of a sealed key gives it back, whatever follows. -/
theorem ofCbor?_toCbor {k : SealedKey} (h : k.encrypted.length < 2 ^ 64) (t : Bytes) :
    ofCbor? (k.toCbor ++ t) = some k := by
  rw [ofCbor?, toCbor, mapHead]
  simp only [List.append_assoc]
  rw [untagged?_head (h := .map (some 4)) (by decide) (by decide) (fun _ => rfl) nofun]
  simp only [Option.bind_eq_bind, Option.bind_some]
  -- The name of the first field alone is longer than the number of fields.
  obtain ⟨fuel, hfuel⟩ : ∃ fuel, (text "version" ++ (number k.version.toNat ++
      (text "ephemeral_public" ++ (byteArray k.ephemeral.toBytes ++ (text "nonce" ++
      (byteArray k.nonce.toBytes ++ (text "encrypted_key" ++
      (byteArray k.encrypted ++ t)))))))).length + 1 = fuel + 5 := by
    have first : (text "version").length = 8 := by decide
    refine ⟨_, (Nat.sub_add_cancel ?_).symm⟩
    rw [List.length_append, first]
    omega
  rw [hfuel, fields?_field (by decide) (field?_version rfl k.version _),
    fields?_field (by decide) (field?_ephemeral rfl k.ephemeral _),
    fields?_field (by decide) (field?_nonce rfl k.nonce _),
    fields?_field (by decide) (field?_encrypted rfl h t)]
  rfl

theorem ofCbor_toCbor {k : SealedKey} (h : k.encrypted.length < 2 ^ 64) :
    ofCbor k.toCbor = .ok k := by
  have read := ofCbor?_toCbor h []
  rw [List.append_nil] at read
  rw [ofCbor, read]

end SealedKey

end CircleVault
