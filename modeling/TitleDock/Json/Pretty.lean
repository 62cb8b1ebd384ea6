import TitleDock.Json.Value

/-! JSON laid out for people: one item or member to a line, indented by two spaces for every level.
Empty arrays and objects stay on one line. -/

namespace TitleDock.Json

def lineBreak (depth : Nat) : Bytes :=
  0x0A :: List.replicate (2 * depth) 0x20

mutual

def pretty (depth : Nat) : Json → Bytes
  | .array (v :: vs) =>
    0x5B :: lineBreak (depth + 1) ++ pretty (depth + 1) v ++ prettyItems depth vs
  | .object ((key, v) :: ms) =>
    0x7B :: lineBreak (depth + 1) ++ Token.spelling (.string key) ++ [0x3A, 0x20] ++
      pretty (depth + 1) v ++ prettyMembers depth ms
  | .array [] => [0x5B, 0x5D]
  | .object [] => [0x7B, 0x7D]
  | .null => Token.spelling .null
  | .bool b => Token.spelling (.bool b)
  | .number lexeme => Token.spelling (.number lexeme)
  | .string gs => Token.spelling (.string gs)

def prettyItems (depth : Nat) : List Json → Bytes
  | [] => lineBreak depth ++ [0x5D]
  | v :: vs => 0x2C :: lineBreak (depth + 1) ++ pretty (depth + 1) v ++ prettyItems depth vs

def prettyMembers (depth : Nat) : List (List Glyph × Json) → Bytes
  | [] => lineBreak depth ++ [0x7D]
  | (key, v) :: ms =>
    0x2C :: lineBreak (depth + 1) ++ Token.spelling (.string key) ++ [0x3A, 0x20] ++
      pretty (depth + 1) v ++ prettyMembers depth ms

end

end TitleDock.Json
