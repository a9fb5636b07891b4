import CircleVault.Json.Lexer

/-!
# Reading JSON: values

The tree is built from the tokens in order.  Where they do not go on as JSON must, the tree gets a
`broken` leaf and the rest is dropped.
-/

namespace CircleVault.Json

/-- The field that a value makes under a name, if the name is a string. -/
def Token.entitle (x : Json) : Token → Option (String × Json)
  | .text k => some (k, x)
  | .garbled => some ("", .misnamed x)
  | _ => none

mutual

/-- The first value of some tokens, and the tokens after it. -/
def value : Nat → List Token → Json × List Token
  | 0, _ => (.broken, [])
  | fuel + 1, ts =>
      match ts with
      | .null :: rest => (.null, rest)
      | .bool b :: rest => (.bool b, rest)
      | .int v :: rest => (.int v, rest)
      | .text s :: rest => (.text s, rest)
      | .real :: rest => (.real, rest)
      | .garbled :: rest => (.garbled, rest)
      | .openBracket :: .closeBracket :: rest => (.array [], rest)
      | .openBracket :: rest =>
          let (xs, rest) := items fuel rest
          (.array xs, rest)
      | .openBrace :: .closeBrace :: rest => (.object [], rest)
      | .openBrace :: rest =>
          let (fs, rest) := fields fuel rest
          (.object fs, rest)
      | _ => (.broken, [])

/-- The items of an array up to its end. -/
def items : Nat → List Token → List Json × List Token
  | 0, _ => ([.broken], [])
  | fuel + 1, ts =>
      let (x, rest) := value fuel ts
      match rest with
      | .comma :: rest =>
          let (xs, rest) := items fuel rest
          (x :: xs, rest)
      | .closeBracket :: rest => ([x], rest)
      | _ => ([x, .broken], [])

/-- The fields of an object up to its end. -/
def fields : Nat → List Token → List (String × Json) × List Token
  | 0, _ => ([("", .broken)], [])
  | fuel + 1, ts =>
      match ts with
      | name :: .colon :: rest =>
          let (x, rest) := value fuel rest
          match name.entitle x with
          | none => ([("", .broken)], [])
          | some field =>
              match rest with
              | .comma :: rest =>
                  let (fs, rest) := fields fuel rest
                  (field :: fs, rest)
              | .closeBrace :: rest => ([field], rest)
              | _ => ([field, ("", .broken)], [])
      | _ => ([("", .broken)], [])

end

/-- A text that has been read: its first value, and whether that is all. -/
structure Document where
  value : Json
  /-- Whether nothing but blanks follows it. -/
  isWhole : Bool

def parse (text : String) : Document :=
  let ts := lex text.toList
  let (v, rest) := value (2 * ts.length + 2) ts
  ⟨v, rest.isEmpty⟩

end CircleVault.Json
