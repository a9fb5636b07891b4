import CircleVault.Cbor
import CircleVault.SealedKey

/-!
# Sealed keys in CBOR

A grant holds its sealed key as bytes: a CBOR map of four fields, the byte strings among them as
arrays of numbers.  Reading takes the fields in any order, passes over unknown ones, refuses a
field that occurs twice, and stops at the end of the map, whatever follows it.
-/

namespace CircleVault.SealedKey

def toCbor (k : SealedKey) : Bytes :=
  Cbor.mapHead 4 ++
    (Cbor.text "version" ++ Cbor.number k.version.toNat) ++
    (Cbor.text "ephemeral_public" ++ Cbor.byteArray k.ephemeral.toBytes) ++
    (Cbor.text "nonce" ++ Cbor.byteArray k.nonce.toBytes) ++
    (Cbor.text "encrypted_key" ++ Cbor.byteArray k.encrypted)

structure Draft where
  version : Option UInt8
  ephemeral : Option (Block 32)
  nonce : Option (Block 12)
  encrypted : Option Bytes

namespace Draft

def empty : Draft := ⟨none, none, none, none⟩

/-- The sealed key, if every field has been read. -/
def finish? (d : Draft) : Option SealedKey := do
  return ⟨← d.version, ← d.ephemeral, ← d.nonce, ← d.encrypted⟩

/-- How many levels of items an unknown field may have. -/
def maxDepth : Nat := 255

/-- Read the value of a field. -/
def field? (d : Draft) (key b : Bytes) : Option (Draft × Bytes) :=
  if key = Text.utf8 "version" then
    if d.version.isSome then none
    else (Cbor.byte? b).map fun (v, rest) => ({ d with version := some v }, rest)
  else if key = Text.utf8 "ephemeral_public" then
    if d.ephemeral.isSome then none
    else (Cbor.block? 32 b).map fun (v, rest) => ({ d with ephemeral := some v }, rest)
  else if key = Text.utf8 "nonce" then
    if d.nonce.isSome then none
    else (Cbor.block? 12 b).map fun (v, rest) => ({ d with nonce := some v }, rest)
  else if key = Text.utf8 "encrypted_key" then
    if d.encrypted.isSome then none
    else (Cbor.bytes? b).map fun (v, rest) => ({ d with encrypted := some v }, rest)
  else (Cbor.skip? maxDepth b).map fun rest => (d, rest)

/-- Read the fields of a map. -/
def fields? : Nat → Option Nat → Draft → Bytes → Option Draft
  | 0, _, _, _ => none
  | fuel + 1, length, d, b => do
      let (more, b) ← Cbor.next? length b
      match more with
      | none => some d
      | some length =>
          let (key, b) ← Cbor.key? b
          let (d, b) ← d.field? key b
          fields? fuel length d b

end Draft

/-- The sealed key that some bytes begin with, if they do. -/
def ofCbor? (b : Bytes) : Option SealedKey := do
  let (h, rest) ← Cbor.untagged? (b.length + 1) b
  match h with
  | .map length => (← Draft.fields? (rest.length + 1) length .empty rest).finish?
  | _ => none

/-- The sealed key that some bytes begin with. -/
def ofCbor (b : Bytes) : Except Failure SealedKey :=
  match ofCbor? b with
  | some k => .ok k
  | none => .error .envelopeUnreadable

end CircleVault.SealedKey
