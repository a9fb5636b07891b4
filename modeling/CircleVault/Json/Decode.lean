import CircleVault.Failure
import CircleVault.Json.Parser

/-!
# From JSON values to records

What a value stands for is decided by the type that is expected.  A record is an object whose
fields may come in any order, with unknown ones passed over and none twice, or an array of its
fields in their order.  A plain name may also be the only key of an object whose value is null.

Faults are reported in the order in which they stand in the text: the fields of a record are looked
at one after another as they come, and what is missing shows only at the end.  A fault of the text
itself is a `malformed` value; a field whose content is refused by a rule of this library carries
the rule's failure.
-/

namespace CircleVault.Json

/-- Why a text does not yield the expected value. -/
inductive Mishap where
  /-- The text is not JSON, or not of the expected shape. -/
  | malformed
  /-- The content of a field was refused. -/
  | refused (cause : Failure)
deriving DecidableEq

/-- A value that was expected, or the first fault. -/
abbrev Decoded (α : Type) := Except Mishap α

/-- A type with a written form. -/
class Written (α : Type) where
  encode : α → Json
  decode : Json → Decoded α

/-! ## Plain values -/

def asText : Json → Decoded String
  | .text s => .ok s
  | _ => .error .malformed

def asIntegerIn (least greatest : Int) : Json → Decoded Int
  | .int v => if least ≤ v ∧ v ≤ greatest then .ok v else .error .malformed
  | _ => .error .malformed

def asInt64 (j : Json) : Decoded Int64 :=
  (asIntegerIn (-0x8000000000000000) 0x7FFFFFFFFFFFFFFF j).map Int64.ofInt

def asUInt64 (j : Json) : Decoded UInt64 :=
  (asIntegerIn 0 0xFFFFFFFFFFFFFFFF j).map fun v => UInt64.ofNat v.toNat

def asUInt32 (j : Json) : Decoded UInt32 :=
  (asIntegerIn 0 0xFFFFFFFF j).map fun v => UInt32.ofNat v.toNat

def asByte (j : Json) : Decoded UInt8 :=
  (asIntegerIn 0 255 j).map fun v => UInt8.ofNat v.toNat

def asOption {α : Type} (decode : Json → Decoded α) : Json → Decoded (Option α)
  | .null => .ok none
  | j => (decode j).map some

def asList {α : Type} (decode : Json → Decoded α) : Json → Decoded (List α)
  | .array xs => xs.mapM decode
  | _ => .error .malformed

def asBlock (n : Nat) (j : Json) : Decoded (Block n) := do
  let xs ← asList asByte j
  match Block.ofBytes? n xs with
  | some k => .ok k
  | none => .error .malformed

/-- One of some named values: its name, or an object that maps the name to null. -/
def asNamed {α : Type} (all : List α) (name : α → String) (j : Json) : Decoded α :=
  let find (s : String) : Decoded α :=
    match all.find? fun a => name a = s with
    | some a => .ok a
    | none => .error .malformed
  match j with
  | .text s => find s
  | .object [(s, .null)] => find s
  | _ => .error .malformed

/-! ## Records -/

/-- A field of a record: its name, and whether a value may stand in it. -/
structure Field where
  name : String
  check : Json → Decoded Unit

/-- The field of the given name for values that can be decoded. -/
def field {α : Type} (name : String) (decode : Json → Decoded α) : Field :=
  ⟨name, fun j => (decode j).map fun _ => ()⟩

/-- Look at the fields of an object in turn, given the names already seen. -/
def scan (layout : List Field) : List String → List (String × Json) → Decoded Unit
  | _, [] => .ok ()
  | _, (_, .misnamed _) :: _ => .error .malformed
  | seen, (k, x) :: rest =>
      match layout.find? fun f => f.name = k with
      | none => if x.isIntact then scan layout seen rest else .error .malformed
      | some f =>
          if k ∈ seen then .error .malformed
          else
            match f.check x with
            | .ok () => scan layout (k :: seen) rest
            | .error e => .error e

/-- Put the items of an array into the fields of a record, as far as they go. -/
def fill : List Field → List Json → Decoded (List (Option Json))
  | layout, [] => .ok (layout.map fun _ => none)
  | [], _ :: _ => .error .malformed
  | f :: layout, x :: rest =>
      match f.check x with
      | .ok () => (fill layout rest).map (some x :: ·)
      | .error e => .error e

/-- The value of each field of a record, in the order of the layout, where there is one. -/
def slots (layout : List Field) : Json → Decoded (List (Option Json))
  | .array xs => fill layout xs
  | .object fs => (scan layout [] fs).map fun _ => layout.map fun f => fs.lookup f.name
  | _ => .error .malformed

/-- The content of a field that must be there. -/
def required {α : Type} (decode : Json → Decoded α) : Option Json → Decoded α
  | some j => decode j
  | none => .error .malformed

/-- The content of a field that may be missing or null. -/
def optional {α : Type} (decode : Json → Decoded α) : Option Json → Decoded (Option α)
  | some j => asOption decode j
  | none => .ok none

/-- The content of a field that has a default. -/
def withDefault {α : Type} (fallback : α) (decode : Json → Decoded α) : Option Json → Decoded α
  | some j => decode j
  | none => .ok fallback

/-! ## Texts -/

/-- The value that a whole text writes. -/
def ofText {α : Type} (decode : Json → Decoded α) (text : String) : Decoded α := do
  let document := parse text
  let a ← decode document.value
  if document.isWhole then .ok a else .error .malformed

/-- The value of a type with a written form that a whole text writes. -/
def read {α : Type} [Written α] (text : String) : Decoded α := ofText Written.decode text

def write {α : Type} [Written α] (a : α) : String := (Written.encode a).render

end CircleVault.Json
