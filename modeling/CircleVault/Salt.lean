import CircleVault.Base64
import CircleVault.Settings

/-!
# Salts

A salt is sixteen bytes of initialization material, together with the text that it was read from.
Its canonical text is Base64.  Older records carry free-form text instead, typically a UUID: the
bytes of such a salt are the text's bytes in the configured charset, cut off or filled up with
zeros.
-/

namespace CircleVault

/-- Sixteen bytes of initialization material and the text they were read from. -/
structure Salt where
  text : String
  bytes : Block 16
deriving DecidableEq

namespace Salt

def size : Nat := 16

/-- The number of characters in a canonical salt, which are bytes as well. -/
def textSize : Nat := 24

/-- The salt of sixteen bytes, with its canonical text. -/
def ofBytes (bytes : Block 16) : Salt := ⟨Base64.write bytes.toBytes, bytes⟩

/-- The bytes behind a canonical text.  A text of another size is not decoded at all. -/
def canonical? (text : String) : Option (Block 16) :=
  if text.utf8ByteSize = textSize then do
    let bytes ← Base64.read? text
    Block.ofBytes? 16 bytes
  else none

/-- The bytes of a free-form text. -/
def legacy (charset : Charset) (text : String) : Block 16 := Block.fit 16 (charset.encode text)

/-- The salt that a text stands for: canonical text first, free-form text otherwise. -/
def ofText (charset : Charset) (text : String) : Salt :=
  ⟨text, (canonical? text).getD (legacy charset text)⟩

/-- The salt that the text stands for under another charset. -/
def reread (charset : Charset) (salt : Salt) : Salt := ofText charset salt.text

def labelled (salt : Salt) : String := "Salt(" ++ salt.text ++ ")"

end Salt

end CircleVault
