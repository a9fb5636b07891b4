import CircleVault.Json.Records
import CircleVault.Json.Settings
import CircleVault.Proofs.Base64
import CircleVault.Proofs.Json.Parsing
import CircleVault.Proofs.Refusal
import CircleVault.Table

/-!
# Written forms are decoded

`Decodes` says that a decoder takes a plain value to what the value was written for.  It holds of
every kind of field that a record has: texts, identifiers, byte strings in Base64 and as numbers,
integers of every width, names and what may be missing.

An object is decoded where its fields are those of the layout, in their order, and a value that may
stand in each (`Fills`).  What comes of its slots is then every value once (`slots_object`), and a
record is put together from them as it was taken apart.
-/

namespace CircleVault

/-! ## Identifiers -/

namespace Bytes

lemma length_hexDigits (b : Bytes) : (hexDigits b).length = 2 * b.length := by
  induction b with
  | nil => rfl
  | cons x b ih =>
      simp only [hexDigits, List.flatMap_cons, List.length_append, List.length_cons,
        List.length_nil] at ih ⊢
      omega

lemma ofHexDigits?_hexDigits (b : Bytes) : ofHexDigits? (hexDigits b) = some b := by
  induction b with
  | nil => rfl
  | cons x b ih =>
      have small : x.toNat < 256 := x.toNat_lt
      have high := Json.hexValue?_hexDigit (x.toNat / 16) (by omega)
      have low := Json.hexValue?_hexDigit (x.toNat % 16) (by omega)
      have halves : 16 * (x.toNat / 16) + x.toNat % 16 = x.toNat := by omega
      have first : hexDigits (x :: b) =
          hexDigit (x.toNat / 16) :: hexDigit (x.toNat % 16) :: hexDigits b := rfl
      rw [first, ofHexDigits?]
      simp only [high, low, ih, halves, Option.bind_eq_bind, Option.bind_some, Option.pure_def,
        UInt8.ofNat_toNat]

end Bytes

namespace Id

variable {kind : RecordKind}

/-- Digits in five groups, with hyphens between the groups. -/
lemma ofHyphenated?_groups {a b c d e : List Char} (ha : a.length = 8) (hb : b.length = 4)
    (hc : c.length = 4) (hd : d.length = 4) (he : e.length = 12) :
    (ofHyphenated? (a ++ '-' :: b ++ '-' :: c ++ '-' :: d ++ '-' :: e) : Option (Id kind)) =
      ofDigits? (a ++ b ++ c ++ d ++ e) := by
  simp [ofHyphenated?, List.drop_append, List.drop_eq_nil_of_le, ha, hb, hc, hd, he]

/-- A group of digits, and those behind it. -/
lemma take_append_drop_add (m n : Nat) (d : List Char) :
    (d.drop m).take n ++ d.drop (m + n) = d.drop m := by
  rw [← List.drop_drop, List.take_append_drop]

/-- An identifier is read back from its text. -/
lemma ofText?_toText (id : Id kind) : ofText? id.toText = some id := by
  have total : (Bytes.hexDigits id.bytes.toBytes).length = 32 := by
    rw [Bytes.length_hexDigits, Block.length_toBytes]
  have size : id.digits.length = 36 := by
    simp [digits, total]
  have read : (ofDigits? (Bytes.hexDigits id.bytes.toBytes) : Option (Id kind)) = some id := by
    simp [ofDigits?, Bytes.ofHexDigits?_hexDigits]
  rw [ofText?, toText]
  simp only [String.toList_ofList, size]
  rw [digits, ofHyphenated?_groups (by simp [total]) (by simp [total]) (by simp [total])
    (by simp [total]) (by simp [total])]
  generalize Bytes.hexDigits id.bytes.toBytes = d at read ⊢
  have groups := take_append_drop_add 0 8 d
  simp only [List.drop_zero, Nat.zero_add] at groups
  rw [← take_append_drop_add 8 4 d, ← take_append_drop_add 12 4 d, ← take_append_drop_add 16 4 d,
    ← List.append_assoc, ← List.append_assoc, ← List.append_assoc] at groups
  rw [groups, read]

end Id

namespace Json

/-! ## Values -/

/-- A decoder takes a plain value to what it was written for. -/
structure Decodes {α : Type} (decode : Json → Decoded α) (j : Json) (a : α) : Prop where
  plain : j.IsPlain
  decoded : decode j = .ok a

/-- What is decoded from a plain value is read from its text. -/
theorem Decodes.ofText {α : Type} {decode : Json → Decoded α} {j : Json} {a : α}
    (h : Decodes decode j a) : ofText decode j.render = .ok a := by
  have parsed := parse_render h.plain
  simp [Json.ofText, parsed, h.decoded, ok_bind]

lemma decodes_text (s : String) : Decodes asText (.text s) s := ⟨trivial, rfl⟩

lemma decodes_id {kind : RecordKind} (id : Id kind) : Decodes Id.ofJson id.toJson id := by
  refine ⟨trivial, ?_⟩
  simp [Id.ofJson, Id.toJson, asText, ok_bind, Id.ofText?_toText, pure, Except.pure]

lemma decodes_bytes (b : Bytes) : Decodes Bytes.ofJson b.toJson b := by
  refine ⟨trivial, ?_⟩
  simp [Bytes.ofJson, Bytes.toJson, asText, ok_bind, refuse, Armor.read, Base64.read?_write,
    Except.mapError]

lemma decodes_block {n : Nat} (b : Block n) : Decodes (Block.ofJson n) b.toJson b := by
  refine ⟨trivial, ?_⟩
  simp [Block.ofJson, Block.toJson, Bytes.toJson, asText, ok_bind, refuse, Armor.readBlock_write,
    Except.mapError]

/-- An integer within the bounds of its type is within those of the text. -/
lemma decodes_integer {least greatest v : Int} (low : -0x8000000000000000 ≤ least)
    (high : greatest ≤ 0xFFFFFFFFFFFFFFFF)
    (bounds : least ≤ v ∧ v ≤ greatest) : Decodes (asIntegerIn least greatest) (.int v) v := by
  refine ⟨⟨by omega, by omega⟩, ?_⟩
  rw [asIntegerIn, if_pos bounds]

lemma Decodes.map {α β : Type} {decode : Json → Decoded α} {j : Json} {a : α} {b : β} {f : α → β}
    (h : Decodes decode j a) (value : f a = b) : Decodes (fun j => (decode j).map f) j b :=
  ⟨h.plain, by simp [h.decoded, Except.map, value]⟩

lemma decodes_timestamp (t : Timestamp) : Decodes Timestamp.ofJson t.toJson t := by
  have least := t.le_toInt
  have greatest := t.toInt_lt
  refine Decodes.map (decodes_integer (by decide) (by decide) ⟨?_, ?_⟩) t.ofInt_toInt
  · omega
  · omega

lemma decodes_uint64 (v : UInt64) : Decodes asUInt64 (.int v.toNat) v := by
  have greatest := v.toNat_lt
  refine Decodes.map (decodes_integer (by decide) (by decide) ⟨?_, ?_⟩) (by simp)
  · omega
  · omega

lemma decodes_uint32 (v : UInt32) : Decodes asUInt32 (.int v.toNat) v := by
  have greatest := v.toNat_lt
  refine Decodes.map (decodes_integer (by decide) (by decide) ⟨?_, ?_⟩) (by simp)
  · omega
  · omega

lemma decodes_byte (v : UInt8) : Decodes asByte (.int v.toNat) v := by
  have greatest := v.toNat_lt
  refine Decodes.map (decodes_integer (by decide) (by decide) ⟨?_, ?_⟩) (by simp)
  · omega
  · omega

/-- Names that are all different stand for what they name. -/
lemma decodes_named {α : Type} {all : List α} {name : α → String} {a : α} (listed : a ∈ all)
    (distinct : ∀ b ∈ all, name b = name a → b = a) :
    Decodes (asNamed all name) (.text (name a)) a := by
  refine ⟨trivial, ?_⟩
  cases found : all.find? fun b => name b = name a with
  | none =>
      have absent := List.find?_eq_none.1 found a listed
      simp at absent
  | some b =>
      have same : name b = name a := by simpa using List.find?_some found
      obtain rfl := distinct b (List.mem_of_find?_eq_some found) same
      simp [asNamed, found]

lemma decodes_option {α : Type} {decode : Json → Decoded α} {encode : α → Json} {o : Option α}
    (each : ∀ a, Decodes decode (encode a) a) (present : ∀ a, encode a ≠ .null) :
    Decodes (asOption decode) (ofOption encode o) o := by
  cases o with
  | none => exact ⟨trivial, rfl⟩
  | some a =>
      refine ⟨(each a).plain, ?_⟩
      show asOption decode (encode a) = _
      rw [asOption, (each a).decoded]
      · rfl
      · exact present a

lemma decodes_list {α : Type} {decode : Json → Decoded α} {encode : α → Json}
    (each : ∀ a, Decodes decode (encode a) a) (items : List α) :
    Decodes (asList decode) (.array (items.map encode)) items := by
  refine ⟨?_, ?_⟩
  · show ArePlain _
    rw [arePlain_iff]
    simpa using fun a _ => (each a).plain
  · show (items.map encode).mapM decode = .ok items
    induction items with
    | nil => rfl
    | cons a items ih =>
        simp [(each a).decoded, ih, ok_bind, pure, Except.pure]

lemma decodes_numbers (b : Bytes) : Decodes (asList asByte) (Bytes.toNumbers b) b :=
  decodes_list decodes_byte b

lemma decodes_numberBlock {n : Nat} (b : Block n) :
    Decodes (asBlock n) (Bytes.toNumbers b.toBytes) b := by
  have numbers := decodes_numbers b.toBytes
  refine ⟨numbers.plain, ?_⟩
  simp [asBlock, numbers.decoded, ok_bind]

/-! ## Objects -/

/-- A value that may stand in a field. -/
def Field.Accepts (f : Field) (j : Json) : Prop := j.IsPlain ∧ f.check j = .ok ()

lemma Decodes.accepted {α : Type} {decode : Json → Decoded α} {j : Json} {a : α}
    (h : Decodes decode j a) (name : String) : (field name decode).Accepts j :=
  ⟨h.plain, by simp [field, h.decoded, Except.map]⟩

/-- Fields of an object that are those of a layout, in their order. -/
def Fills : List Field → List (String × Json) → Prop
  | [], [] => True
  | f :: layout, (k, x) :: fs => k = f.name ∧ f.Accepts x ∧ Fills layout fs
  | _, _ => False

lemma Fills.plain {layout : List Field} {fs : List (String × Json)} (h : Fills layout fs) :
    FieldsPlain fs := by
  induction layout generalizing fs with
  | nil =>
      cases fs with
      | nil => trivial
      | cons _ _ => cases h
  | cons f layout ih =>
      cases fs with
      | nil => cases h
      | cons e fs =>
          obtain ⟨-, accepts, rest⟩ := h
          exact ⟨accepts.1, ih rest⟩

/-- Names that are all different find their fields. -/
lemma find?_field {layout : List Field} (distinct : (layout.map Field.name).Nodup) {f : Field}
    (listed : f ∈ layout) : layout.find? (fun g => g.name = f.name) = some f := by
  induction layout with
  | nil => cases listed
  | cons g layout ih =>
      rw [List.map_cons, List.nodup_cons] at distinct
      obtain rfl | later := List.mem_cons.1 listed
      · simp
      · have other : g.name ≠ f.name := by
          intro same
          exact distinct.1 (same ▸ List.mem_map_of_mem later)
        rw [List.find?_cons_of_neg (by simpa using other), ih distinct.2 later]

/-- The fields of a layout are accepted one after another, from any point on. -/
lemma scan_fills {layout : List Field} (distinct : (layout.map Field.name).Nodup)
    {ahead : List Field} {fs : List (String × Json)} (h : Fills ahead fs) (seen : List String)
    (listed : ∀ f ∈ ahead, f ∈ layout) (once : (ahead.map Field.name).Nodup)
    (unseen : ∀ f ∈ ahead, f.name ∉ seen) : scan layout seen fs = .ok () := by
  induction ahead generalizing fs seen with
  | nil =>
      cases fs with
      | nil => rfl
      | cons _ _ => cases h
  | cons f ahead ih =>
      cases fs with
      | nil => cases h
      | cons e fs =>
          obtain ⟨k, x⟩ := e
          obtain ⟨rfl, ⟨plain, checked⟩, rest⟩ := h
          rw [List.map_cons, List.nodup_cons] at once
          have found := find?_field distinct (listed f List.mem_cons_self)
          have fresh : ∀ g ∈ ahead, g.name ∉ f.name :: seen := by
            intro g later seen
            obtain same | before := List.mem_cons.1 seen
            · exact once.1 (same ▸ List.mem_map_of_mem later)
            · exact unseen g (List.mem_cons_of_mem f later) before
          have others := ih rest (f.name :: seen)
            (fun g later => listed g (List.mem_cons_of_mem f later)) once.2 fresh
          rw [scan]
          · simp only [found, if_neg (unseen f List.mem_cons_self), checked, others]
          · rintro y rfl
            cases plain

/-- Every name of the layout finds the value in its place. -/
lemma lookup_fills {layout : List Field} {fs : List (String × Json)} (h : Fills layout fs)
    (distinct : (layout.map Field.name).Nodup) :
    layout.map (fun f => fs.lookup f.name) = fs.map fun e => some e.2 := by
  induction layout generalizing fs with
  | nil =>
      cases fs with
      | nil => rfl
      | cons _ _ => cases h
  | cons f layout ih =>
      cases fs with
      | nil => cases h
      | cons e fs =>
          obtain ⟨k, x⟩ := e
          obtain ⟨rfl, -, rest⟩ := h
          rw [List.map_cons, List.nodup_cons] at distinct
          have others : layout.map (fun g => ((f.name, x) :: fs).lookup g.name) =
              layout.map fun g => fs.lookup g.name := by
            refine List.map_congr_left fun g later => ?_
            have other : g.name ≠ f.name := by
              intro same
              exact distinct.1 (same ▸ List.mem_map_of_mem later)
            rw [Table.lookup_cons_eq, if_neg other]
          rw [List.map_cons, others, ih rest distinct.2, List.lookup_cons_self, List.map_cons]

/-- **An object gives every value of its fields once.** -/
theorem slots_object {layout : List Field} {fs : List (String × Json)}
    (distinct : (layout.map Field.name).Nodup) (h : Fills layout fs) :
    slots layout (.object fs) = .ok (fs.map fun e => some e.2) := by
  have scanned := scan_fills distinct h [] (fun f listed => listed) distinct (by simp)
  simp [slots, scanned, lookup_fills h distinct, Except.map]

/-- A record is decoded from an object of its fields, if it is put together from their values. -/
lemma decodes_object {α : Type} {decode : Json → Decoded α} {fs : List (String × Json)} {a : α}
    (layout : List Field) (distinct : (layout.map Field.name).Nodup)
    (fills : Fills layout fs)
    (built : slots layout (.object fs) = .ok (fs.map fun e => some e.2) →
      decode (.object fs) = .ok a) : Decodes decode (.object fs) a :=
  ⟨fills.plain, built (slots_object distinct fills)⟩

end Json

end CircleVault
