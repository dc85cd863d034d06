import Erc4337.Text.Hex
/-!
JSON documents. A number keeps the digits it was written with, and an object keeps its members
in the order written, duplicates included, so that a document read and written again is the
same text up to blanks. Writing escapes the quote, the backslash and control characters, and
optionally `<`, `>` and `&` for documents that may land in HTML.
-/
namespace Erc4337

inductive Json where
  | null
  | bool (b : Bool)
  | num (literal : String)
  | str (s : String)
  | arr (items : List Json)
  | obj (members : List (String × Json))
  deriving Inhabited

namespace Json

def nat (n : Nat) : Json := .num (toString n)

def int (n : Int) : Json := .num (toString n)

def get? (j : Json) (key : String) : Option Json :=
  match j with
  | .obj ms => (ms.reverse.find? (·.1 == key)).map (·.2)
  | _ => none

def has (j : Json) (key : String) : Bool := (j.get? key).isSome

def escapeChar (html : Bool) (c : Char) : List Char :=
  if c = '"' then ['\\', '"']
  else if c = '\\' then ['\\', '\\']
  else if c = '\n' then ['\\', 'n']
  else if c = '\r' then ['\\', 'r']
  else if c = '\t' then ['\\', 't']
  else if c.toNat < 0x20 ∨ (html ∧ (c = '<' ∨ c = '>' ∨ c = '&')) then
    '\\' :: 'u' :: Hex.paddedDigits 4 c.toNat
  else if c.toNat = 0x2028 ∨ c.toNat = 0x2029 then '\\' :: 'u' :: Hex.paddedDigits 4 c.toNat
  else [c]

def quote (html : Bool) (s : String) : String :=
  String.ofList ('"' :: s.toList.flatMap (escapeChar html) ++ ['"'])

mutual
def render (html : Bool) : Json → String
  | .null => "null"
  | .bool b => if b then "true" else "false"
  | .num l => l
  | .str s => quote html s
  | .arr items => "[" ++ ",".intercalate (renderItems html items) ++ "]"
  | .obj members => "\x7b" ++ ",".intercalate (renderMembers html members) ++ "\x7d"

def renderItems (html : Bool) : List Json → List String
  | [] => []
  | j :: js => render html j :: renderItems html js

def renderMembers (html : Bool) : List (String × Json) → List String
  | [] => []
  | (k, v) :: ms => (quote html k ++ ":" ++ render html v) :: renderMembers html ms
end

def compact (j : Json) : String := render true j

def plain (j : Json) : String := render false j

def kind : Json → String
  | .null => "null"
  | .bool _ => "bool"
  | .num _ => "number"
  | .str _ => "string"
  | .arr _ => "array"
  | .obj _ => "object"

end Json

end Erc4337
