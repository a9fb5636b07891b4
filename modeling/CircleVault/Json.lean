import CircleVault.Text

/-!
# JSON values

The values that records are written as.  Numbers are integers, because no record holds any other;
object fields keep their order, which is the order in which a record lists its fields.

A text that is read may fall short in four ways, and each has a place in the tree of what was
read: a number that is no integer of 64 bits (`real`), a string that holds half of a surrogate pair
(`garbled`), such a string as the name of a field (`misnamed`), and the point at which the text
stops being JSON (`broken`).  A `broken` leaf is the last thing in its array or object, so whoever
walks the tree in order meets the faults of a text in the order in which they stand in it.
-/

namespace CircleVault

/-- A JSON value, or what could be read of one. -/
inductive Json where
  | null
  | bool (b : Bool)
  | int (v : Int)
  | text (s : String)
  | array (items : List Json)
  | object (fields : List (String × Json))
  | real
  | garbled
  /-- A value that stands in a field under a garbled name. -/
  | misnamed (x : Json)
  | broken
deriving Inhabited

namespace Json

/-! ## Tokens -/

/-- The words and signs of JSON. -/
inductive Token where
  | openBrace
  | closeBrace
  | openBracket
  | closeBracket
  | colon
  | comma
  | null
  | bool (b : Bool)
  | int (v : Int)
  | text (s : String)
  | real
  | garbled
  | bad
deriving DecidableEq

/-- A string's escape for one character, or the character itself. -/
def escape (c : Char) : List Char :=
  if c = '"' then ['\\', '"']
  else if c = '\\' then ['\\', '\\']
  else if c = '\n' then ['\\', 'n']
  else if c = '\r' then ['\\', 'r']
  else if c = '\t' then ['\\', 't']
  else if c.toNat = 8 then ['\\', 'b']
  else if c.toNat = 12 then ['\\', 'f']
  else if c.toNat < 32 then
    ['\\', 'u', '0', '0', Bytes.hexDigit (c.toNat / 16), Bytes.hexDigit (c.toNat % 16)]
  else [c]

def quote (s : String) : List Char := '"' :: s.toList.flatMap escape ++ ['"']

def decimal (v : Int) : List Char :=
  if v < 0 then '-' :: Nat.toDigits 10 v.natAbs else Nat.toDigits 10 v.natAbs

/-- The written form of a token; nothing for what has none. -/
def Token.write : Token → List Char
  | openBrace => ['\x7b']
  | closeBrace => ['\x7d']
  | openBracket => ['[']
  | closeBracket => [']']
  | colon => [':']
  | comma => [',']
  | null => ['n', 'u', 'l', 'l']
  | bool true => ['t', 'r', 'u', 'e']
  | bool false => ['f', 'a', 'l', 's', 'e']
  | int v => decimal v
  | text s => quote s
  | real => []
  | garbled => []
  | bad => []

/-! ## Writing -/

mutual

def tokens : Json → List Token
  | null => [.null]
  | bool b => [.bool b]
  | int v => [.int v]
  | text s => [.text s]
  | array [] => [.openBracket, .closeBracket]
  | array (x :: xs) => .openBracket :: tokens x ++ itemTokens xs
  | object [] => [.openBrace, .closeBrace]
  | object ((k, x) :: fs) => .openBrace :: .text k :: .colon :: tokens x ++ fieldTokens fs
  | real => [.real]
  | garbled => [.garbled]
  | misnamed x => .garbled :: tokens x
  | broken => [.bad]

/-- The tokens of the further items of an array, and of its end. -/
def itemTokens : List Json → List Token
  | [] => [.closeBracket]
  | x :: xs => .comma :: tokens x ++ itemTokens xs

/-- The tokens of the further fields of an object, and of its end. -/
def fieldTokens : List (String × Json) → List Token
  | [] => [.closeBrace]
  | (k, x) :: fs => .comma :: .text k :: .colon :: tokens x ++ fieldTokens fs

end

/-- The written form, without any blanks. -/
def render (j : Json) : String := String.ofList (j.tokens.flatMap Token.write)

/-! ## Intactness -/

mutual

/-- Whether the text of a value was JSON to its end. -/
def isIntact : Json → Bool
  | broken => false
  | array xs => areIntact xs
  | object fs => fieldsIntact fs
  | misnamed x => isIntact x
  | _ => true

def areIntact : List Json → Bool
  | [] => true
  | x :: xs => isIntact x && areIntact xs

def fieldsIntact : List (String × Json) → Bool
  | [] => true
  | (_, x) :: fs => isIntact x && fieldsIntact fs

end

end Json

end CircleVault
