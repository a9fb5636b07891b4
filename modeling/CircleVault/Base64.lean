import CircleVault.Bytes

/-!
# Base64

Binary fields cross textual boundaries as standard Base64 with padding.  Reading is strict: the
padding must be there, the unused low bits of the last symbol must be zero, and no character
outside the alphabet is skipped.  A text is therefore accepted only if it is the one text that
writing produces, and comparing written forms is comparing bytes.
-/

namespace CircleVault.Base64

/-- The symbol of a value below 64. -/
def symbol (v : Nat) : Char :=
  if v < 26 then Char.ofNat (65 + v)
  else if v < 52 then Char.ofNat (71 + v)
  else if v < 62 then Char.ofNat (v - 4)
  else if v = 62 then '+'
  else '/'

def value? (c : Char) : Option Nat :=
  if 'A' ≤ c ∧ c ≤ 'Z' then some (c.toNat - 65)
  else if 'a' ≤ c ∧ c ≤ 'z' then some (c.toNat - 71)
  else if '0' ≤ c ∧ c ≤ '9' then some (c.toNat + 4)
  else if c = '+' then some 62
  else if c = '/' then some 63
  else none

/-- Three bytes as four symbols; one or two bytes at the end are padded to four. -/
def encode : Bytes → List Char
  | [] => []
  | [a] => [symbol (a.toNat / 4), symbol (a.toNat % 4 * 16), '=', '=']
  | [a, b] =>
      [symbol (a.toNat / 4), symbol (a.toNat % 4 * 16 + b.toNat / 16),
        symbol (b.toNat % 16 * 4), '=']
  | a :: b :: c :: rest =>
      symbol (a.toNat / 4) :: symbol (a.toNat % 4 * 16 + b.toNat / 16) ::
        symbol (b.toNat % 16 * 4 + c.toNat / 64) :: symbol (c.toNat % 64) :: encode rest

/-- The byte made of two neighbouring symbols: `hi` shifted up by the `scale` that leaves room
for the upper part `lo` of the next symbol. -/
def join (hi scale lo : Nat) : UInt8 := UInt8.ofNat (hi * scale + lo)

/-- The byte behind a final group with two padding signs, if its unused bits are zero. -/
def lastOne? (w x : Char) : Option Bytes := do
  let w ← value? w
  let x ← value? x
  if x % 16 = 0 then some [join w 4 (x / 16)] else none

/-- The two bytes behind a final group with one padding sign, if its unused bits are zero. -/
def lastTwo? (w x y : Char) : Option Bytes := do
  let w ← value? w
  let x ← value? x
  let y ← value? y
  if y % 4 = 0 then some [join w 4 (x / 16), join (x % 16) 16 (y / 4)] else none

/-- The three bytes behind a full group. -/
def three? (w x y z : Char) : Option Bytes := do
  let w ← value? w
  let x ← value? x
  let y ← value? y
  let z ← value? z
  some [join w 4 (x / 16), join (x % 16) 16 (y / 4), join (y % 4) 64 z]

/-- The bytes that a text is the written form of, if it is one. -/
def decode : List Char → Option Bytes
  | [] => some []
  | w :: x :: y :: z :: rest =>
      if z = '=' then
        if rest = [] then
          if y = '=' then lastOne? w x else lastTwo? w x y
        else none
      else do
        let group ← three? w x y z
        let others ← decode rest
        some (group ++ others)
  | _ => none

def write (b : Bytes) : String := String.ofList (encode b)

/-- The bytes that a text is the written form of, if it is one. -/
def read? (text : String) : Option Bytes := decode text.toList

end CircleVault.Base64
