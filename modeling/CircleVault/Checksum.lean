import CircleVault.Bytes

/-!
# Checksums

Signed content is known by its checksum, a digest of 32 bytes.  This module holds the value and
its textual forms; which digest it is belongs to the cipher suite.
-/

namespace CircleVault

/-- The digest of some content. -/
structure Checksum where
  bytes : Block 32
deriving DecidableEq, Inhabited

namespace Checksum

def toHex (c : Checksum) : String := c.bytes.toHex

/-- The first eight bytes, labelled. -/
def labelled (c : Checksum) : String :=
  "Checksum(" ++ Bytes.toHex (c.bytes.toBytes.take 8) ++ ")"

end Checksum

end CircleVault
