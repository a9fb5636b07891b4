import CircleVault.Bytes

/-!
# Identifiers

Members, circles, circle keys and grants are named by UUIDs.  The kind of record is part of an
identifier's type, so one kind of identifier is never passed where another is expected.

An identifier is written in lower case with hyphens.  It is read in that form, without the
hyphens, in braces or as a URN, with letters of either case.
-/

namespace CircleVault

inductive RecordKind where
  | member
  | circle
  | key
  | grant
deriving DecidableEq, Repr

namespace RecordKind

def word : RecordKind → String
  | member => "member"
  | circle => "circle"
  | key => "key"
  | grant => "trustee"

/-- The name of this kind's identifiers. -/
def label : RecordKind → String
  | member => "MemberId"
  | circle => "CircleId"
  | key => "KeyId"
  | grant => "TrusteeId"

def all : List RecordKind := [member, circle, key, grant]

end RecordKind

/-- The identifier of a record of one kind. -/
structure Id (kind : RecordKind) where
  bytes : Block 16
deriving DecidableEq, Inhabited

abbrev MemberId := Id .member
abbrev CircleId := Id .circle
abbrev KeyId := Id .key
abbrev GrantId := Id .grant

namespace Id

variable {kind : RecordKind}

/-- The random UUID made of sixteen drawn bytes: four bits give the version, two the variant. -/
def random (drawn : Block 16) : Id kind :=
  ⟨⟨drawn.toBytes.mapIdx fun i b =>
      if i = 6 then b &&& 0x0F ||| 0x40 else if i = 8 then b &&& 0x3F ||| 0x80 else b,
    by simp⟩⟩

/-- The hexadecimal digits, in groups of 8, 4, 4, 4 and 12 joined by hyphens. -/
def digits (id : Id kind) : List Char :=
  let d := Bytes.hexDigits id.bytes.toBytes
  d.take 8 ++ '-' :: (d.drop 8).take 4 ++ '-' :: (d.drop 12).take 4 ++
    '-' :: (d.drop 16).take 4 ++ '-' :: d.drop 20

def toText (id : Id kind) : String := String.ofList id.digits

/-- The written form, labelled with the kind. -/
def labelled (id : Id kind) : String := kind.label ++ "(" ++ id.toText ++ ")"

/-- Sixteen bytes from 32 hexadecimal digits. -/
def ofDigits? (d : List Char) : Option (Id kind) := do
  let b ← Bytes.ofHexDigits? d
  let k ← Block.ofBytes? 16 b
  return ⟨k⟩

/-- Sixteen bytes from five groups of digits joined by hyphens. -/
def ofHyphenated? (cs : List Char) : Option (Id kind) :=
  if cs.length = 36 ∧ [8, 13, 18, 23].all (fun i => cs[i]? = some '-') then
    ofDigits? (cs.take 8 ++ (cs.drop 9).take 4 ++ (cs.drop 14).take 4 ++ (cs.drop 19).take 4 ++
      cs.drop 24)
  else none

/-- What stands in front of an identifier that is written as a URN, in letters of either case. -/
def urnPrefix : List Char := "urn:uuid:".toList

/-- The identifier that a text writes, in any of the four accepted forms, which differ in their
length. -/
def ofText? (text : String) : Option (Id kind) :=
  let cs := text.toList
  match cs.length with
  | 32 => ofDigits? cs
  | 36 => ofHyphenated? cs
  | 38 =>
      if cs.head? = some '\x7b' ∧ cs.getLast? = some '\x7d' then ofHyphenated? (cs.drop 1).dropLast
      else none
  | 45 => if (cs.take 9).map Char.toLower = urnPrefix then ofHyphenated? (cs.drop 9) else none
  | _ => none

end Id

end CircleVault
