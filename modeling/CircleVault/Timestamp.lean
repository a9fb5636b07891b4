/-!
# Timestamps

Times are counted in milliseconds since the start of 1970, in 64 bits with a sign.
-/

namespace CircleVault

/-- Milliseconds since the start of 1970. -/
abbrev Timestamp := Int64

namespace Timestamp

def day : Timestamp := 24 * 60 * 60 * 1000

def greatest : Timestamp := Int64.maxValue

def later (a b : Timestamp) : Timestamp := if a < b then b else a

/-- The timestamp after this one, as long as there is one. -/
def following (t : Timestamp) : Timestamp := if t = greatest then t else t + 1

end Timestamp

end CircleVault
