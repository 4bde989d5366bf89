import Admissorium.JavaScript.Text

/-!
# `JSON.stringify`

Compact form, as every caller in the program asks for. `undefined` has no JSON
text: it is dropped from objects and written `null` in arrays.
-/
namespace Admissorium.JavaScript
set_option autoImplicit false

namespace Json

def hexDigit (n : Nat) : Char := if n < 10 then Char.ofNat (48 + n) else Char.ofNat (87 + n)

def escapeChar (c : Char) : List Char :=
  if c = '"' then ['\\', '"']
  else if c = '\\' then ['\\', '\\']
  else if c = '\u0008' then ['\\', 'b']
  else if c = '\u000c' then ['\\', 'f']
  else if c = '\n' then ['\\', 'n']
  else if c = '\r' then ['\\', 'r']
  else if c = '\t' then ['\\', 't']
  else if c.toNat < 32 then ['\\', 'u', '0', '0', hexDigit (c.toNat / 16), hexDigit (c.toNat % 16)]
  else [c]

/-- A string as a JSON literal. -/
def quote (s : String) : String :=
  String.ofList ('"' :: s.toList.flatMap escapeChar ++ ['"'])

mutual
/-- `JSON.stringify(value)`; `none` stands for the `undefined` it returns. -/
def stringify (rt : Runtime) : Value → Option String
  | .undefined => none
  | .null => some "null"
  | .bool b => some (if b then "true" else "false")
  | .num q => some (rt.numberToString q)
  | .str s => some (quote s)
  | .arr items => some ("[" ++ ",".intercalate (elements rt items) ++ "]")
  | .obj fields => some ("\x7b" ++ ",".intercalate (members rt fields) ++ "\x7d")

def elements (rt : Runtime) : List Value → List String
  | [] => []
  | v :: rest => (stringify rt v).getD "null" :: elements rt rest

def members (rt : Runtime) : List (String × Value) → List String
  | [] => []
  | (key, v) :: rest =>
      match stringify rt v with
      | some text => (quote key ++ ":" ++ text) :: members rt rest
      | none => members rt rest
end

end Json
end Admissorium.JavaScript
