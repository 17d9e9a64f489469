import DeviceLink.Json.Basic
import DeviceLink.Number.Layout
/-!
# Writing JSON text

Compact text: no blanks, members in the order of the tree, only what must be escaped is escaped.
-/
namespace DeviceLink

namespace Number

def intText (n : Int) : String := toString n

/-- Text of a number; a double that is not finite has none of its own and is written as null. -/
def render : Number → String
  | .int n => intText n
  | .real x => (standard.finite? x).getD "null"

end Number

namespace Json

/-- Escapes quotes, backslashes and the controls below U+0020, nothing else. -/
def escapeChar (c : Char) : List Char :=
  if c = '"' then ['\\', '"']
  else if c = '\\' then ['\\', '\\']
  else if 0x20 ≤ c.toNat then [c]
  else if c.toNat = 0x08 then ['\\', 'b']
  else if c.toNat = 0x09 then ['\\', 't']
  else if c.toNat = 0x0A then ['\\', 'n']
  else if c.toNat = 0x0C then ['\\', 'f']
  else if c.toNat = 0x0D then ['\\', 'r']
  else ['\\', 'u', '0', '0', Hex.digit (c.toNat / 16), Hex.digit (c.toNat % 16)]

def quote (s : String) : String :=
  String.ofList ('"' :: s.toList.flatMap escapeChar ++ ['"'])

/-- The compact text of a value. -/
def render : Json → String
  | .null => "null"
  | .bool true => "true"
  | .bool false => "false"
  | .number n => n.render
  | .string s => quote s
  | .array items => "[" ++ renderItems items ++ "]"
  | .object members => "\x7b" ++ renderMembers members ++ "\x7d"
where
  renderItems : List Json → String
    | [] => ""
    | [j] => render j
    | j :: rest => render j ++ "," ++ renderItems rest
  renderMembers : List (String × Json) → String
    | [] => ""
    | [(k, j)] => quote k ++ ":" ++ render j
    | (k, j) :: rest => quote k ++ ":" ++ render j ++ "," ++ renderMembers rest

end Json
end DeviceLink
