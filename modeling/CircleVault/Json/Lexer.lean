import CircleVault.Json

/-!
# Reading JSON: tokens

Blanks between tokens are spaces, tabs and line ends.  At the first thing that is no token the
list of tokens ends with `Token.bad`.
-/

namespace CircleVault.Json

/-! ## Strings -/

/-- A piece of a string: a character, or half of a surrogate pair. -/
inductive Piece where
  | scalar (c : Char)
  | high (v : Nat)
  | low (v : Nat)
deriving DecidableEq

/-- The piece that four hexadecimal digits stand for. -/
def Piece.ofNumber (v : Nat) : Piece :=
  if 0xD800 ≤ v ∧ v < 0xDC00 then .high (v - 0xD800)
  else if 0xDC00 ≤ v ∧ v < 0xE000 then .low (v - 0xDC00)
  else .scalar (Char.ofNat v)

/-- The number that four hexadecimal digits write. -/
def hex4? (a b c d : Char) : Option Nat := do
  let a ← Bytes.hexValue? a
  let b ← Bytes.hexValue? b
  let c ← Bytes.hexValue? c
  let d ← Bytes.hexValue? d
  return 4096 * a + 256 * b + 16 * c + d

/-- The character behind a backslash and the given letter. -/
def unescape? (c : Char) : Option Char :=
  match c with
  | '"' => some '"'
  | '\\' => some '\\'
  | '/' => some '/'
  | 'b' => some (Char.ofNat 8)
  | 'f' => some (Char.ofNat 12)
  | 'n' => some '\n'
  | 'r' => some '\r'
  | 't' => some '\t'
  | _ => none

/-- The pieces of a string up to its closing quote, and what follows. -/
def pieces? : List Char → Option (List Piece × List Char)
  | [] => none
  | '"' :: rest => some ([], rest)
  | '\\' :: 'u' :: a :: b :: c :: d :: rest => do
      let v ← hex4? a b c d
      let (ps, rest) ← pieces? rest
      return (.ofNumber v :: ps, rest)
  | '\\' :: c :: rest => do
      let c ← unescape? c
      let (ps, rest) ← pieces? rest
      return (.scalar c :: ps, rest)
  | c :: rest =>
      if c.toNat < 32 ∨ c = '\\' then none
      else do
        let (ps, rest) ← pieces? rest
        return (.scalar c :: ps, rest)

/-- The characters of some pieces, if every half of a pair has its other half. -/
def join? : List Piece → Option (List Char)
  | [] => some []
  | .scalar c :: ps => (join? ps).map (c :: ·)
  | .high h :: .low l :: ps =>
      (join? ps).map (Char.ofNat (0x10000 + 1024 * h + l) :: ·)
  | _ => none

/-- The token of a string whose opening quote has been read. -/
def string? (cs : List Char) : Option (Token × List Char) := do
  let (ps, rest) ← pieces? cs
  match join? ps with
  | some s => some (.text (String.ofList s), rest)
  | none => some (.garbled, rest)

/-! ## Numbers -/

def isDigit (c : Char) : Bool := '0' ≤ c && c ≤ '9'

/-- The number that decimal digits write. -/
def ofDigits (cs : List Char) : Nat := cs.foldl (fun v c => 10 * v + (c.toNat - 48)) 0

/-- One or more digits, and what follows. -/
def digits? (cs : List Char) : Option (List Char × List Char) :=
  let ds := cs.takeWhile isDigit
  if ds = [] then none else some (ds, cs.dropWhile isDigit)

/-- The digits before a point or an exponent: no zero stands in front of others. -/
def whole? (cs : List Char) : Option (List Char × List Char) := do
  let (ds, rest) ← digits? cs
  if ds.head? = some '0' ∧ ds.length ≠ 1 then none else some (ds, rest)

/-- What follows an optional fraction, and whether there was one. -/
def fraction? (cs : List Char) : Option (Bool × List Char) :=
  match cs with
  | '.' :: rest => (digits? rest).map fun (_, rest) => (true, rest)
  | _ => some (false, cs)

/-- What follows the sign of an exponent. -/
def afterSign : List Char → List Char
  | '+' :: rest => rest
  | '-' :: rest => rest
  | cs => cs

/-- What follows an optional exponent, and whether there was one. -/
def exponent? (cs : List Char) : Option (Bool × List Char) :=
  match cs with
  | 'e' :: rest => (digits? (afterSign rest)).map fun (_, rest) => (true, rest)
  | 'E' :: rest => (digits? (afterSign rest)).map fun (_, rest) => (true, rest)
  | _ => some (false, cs)

/-- The token of a number, given whether a minus sign precedes the digits.  It is an integer if it
has neither fraction nor exponent and fits 64 bits; minus zero is none. -/
def number? (minus : Bool) (cs : List Char) : Option (Token × List Char) := do
  let (ds, rest) ← whole? cs
  let (hasFraction, rest) ← fraction? rest
  let (hasExponent, rest) ← exponent? rest
  let v := ofDigits ds
  let token : Token :=
    if hasFraction || hasExponent then .real
    else if minus then (if 0 < v ∧ v ≤ Nat.pow 2 63 then .int (-(v : Int)) else .real)
    else if v < Nat.pow 2 64 then .int v
    else .real
  return (token, rest)

/-! ## Tokens -/

/-- Whether a character is blank between tokens. -/
def isBlank (c : Char) : Bool := c = ' ' || c = '\t' || c = '\n' || c = '\r'

/-- The first token of a text that does not begin with a blank. -/
def token? : List Char → Option (Token × List Char)
  | '\x7b' :: rest => some (.openBrace, rest)
  | '\x7d' :: rest => some (.closeBrace, rest)
  | '[' :: rest => some (.openBracket, rest)
  | ']' :: rest => some (.closeBracket, rest)
  | ':' :: rest => some (.colon, rest)
  | ',' :: rest => some (.comma, rest)
  | 'n' :: 'u' :: 'l' :: 'l' :: rest => some (.null, rest)
  | 't' :: 'r' :: 'u' :: 'e' :: rest => some (.bool true, rest)
  | 'f' :: 'a' :: 'l' :: 's' :: 'e' :: rest => some (.bool false, rest)
  | '"' :: rest => string? rest
  | '-' :: rest => number? true rest
  | cs => number? false cs

/-- The tokens of a text, as long as the fuel lasts. -/
def lexWith : Nat → List Char → List Token
  | 0, _ => []
  | fuel + 1, cs =>
      match cs.dropWhile isBlank with
      | [] => []
      | cs =>
          match token? cs with
          | some (t, rest) => t :: lexWith fuel rest
          | none => [.bad]

def lex (cs : List Char) : List Token := lexWith (cs.length + 1) cs

end CircleVault.Json
