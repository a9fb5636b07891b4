import CircleVault.Json.Decode

/-!
# Requests

A request is a JSON object whose fields are looked up by name.  A `Request α` reads some of the
fields; a field that is null counts as missing.  Byte strings stand in requests as hexadecimal
text, records in their own form.  A record that is missing is read as null, so that it is the record
and not the field that is at fault.
-/

namespace CircleVault

/-- Why a request cannot be read. -/
inductive Request.Flaw where
  /-- A field is missing, or is not what it must be. -/
  | field (name expected : String)
  /-- A record in the request is not in its form. -/
  | record (cause : Json.Mishap)

/-- A reading of a request. -/
abbrev Request := ReaderT Json (Except Request.Flaw)

/-- The text of a flaw in a field. -/
def Request.Flaw.message (name expected : String) : String :=
  "field '" ++ name ++ "' must be " ++ expected

namespace Request

/-- The content of a field, if there is any. -/
def field? (name : String) : Request (Option Json) := do
  match ← read with
  | .object fields =>
      match fields.lookup name with
      | some .null => return none
      | content => return content
  | _ => return none

/-- A field that may be missing. -/
def optional {α : Type} (expected : String) (decode : Json → Option α) (name : String) :
    Request (Option α) := do
  match ← field? name with
  | none => return none
  | some j =>
      match decode j with
      | some a => return some a
      | none => throw (.field name expected)

/-- A field that must be there. -/
def required {α : Type} (expected : String) (decode : Json → Option α) (name : String) :
    Request α := do
  match ← optional expected decode name with
  | some a => return a
  | none => throw (.field name expected)

def text? (j : Json) : Option String := (Json.asText j).toOption

/-- The bytes that a JSON value writes in hexadecimal. -/
def bytes? (j : Json) : Option Bytes := (text? j).bind Bytes.ofHex?

def int? : Json → Option Int
  | .int v => some v
  | _ => none

def nat? : Json → Option Nat
  | .int v => v.toNat?
  | _ => none

def bool? : Json → Option Bool
  | .bool b => some b
  | _ => none

def items? : Json → Option (List Json)
  | .array xs => some xs
  | _ => none

def text : String → Request String := required "a string" text?

def optText : String → Request (Option String) := optional "a string" text?

def bytes : String → Request Bytes := required "a hex string" bytes?

def optBytes : String → Request (Option Bytes) := optional "a hex string" bytes?

def block (n : Nat) : String → Request (Block n) :=
  required (toString n ++ " bytes in hex") fun j => (bytes? j).bind (Block.ofBytes? n)

def int : String → Request Int := required "an integer" int?

def nat : String → Request Nat := required "an unsigned integer" nat?

def optNat : String → Request (Option Nat) := optional "an unsigned integer" nat?

def optByte : String → Request (Option UInt8) :=
  optional "a byte" fun j => (Json.asByte j).toOption

def int64 : String → Request Int64 := required "an integer" fun j => (Json.asInt64 j).toOption

def optInt64 : String → Request (Option Int64) :=
  optional "an integer" fun j => (Json.asInt64 j).toOption

def optBool : String → Request (Option Bool) := optional "a boolean" bool?

def items : String → Request (List Json) := required "an array" items?

/-- The value whose written form is given. -/
def written {α : Type} [Json.Written α] (j : Json) : Request α :=
  match Json.Written.decode j with
  | .ok a => return a
  | .error e => throw (.record e)

/-- A value in its written form. -/
def record {α : Type} [Json.Written α] (name : String) : Request α := do
  written ((← field? name).getD .null)

def optRecord {α : Type} [Json.Written α] (name : String) : Request (Option α) := do
  (← field? name).mapM written

end Request

end CircleVault
