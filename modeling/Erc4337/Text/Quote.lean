import Erc4337.Text.Hex
import Erc4337.Text.Utf8
/-!
Quoted text: a string between double quotes with backslash escapes, as error messages quote
the values they refuse. Printable characters stand as they are; the quote and the backslash
are escaped; the seven C control escapes are used where they exist; other controls are written
`\xNN`, and other unprintable characters `\uNNNN` or `\UNNNNNNNN`.
-/
namespace Erc4337.Quote

def isUnprintable (c : Char) : Bool :=
  let n := c.toNat
  n < 0x20 || (0x7f ≤ n && n ≤ 0x9f) || n == 0xa0 || n == 0xad ||
  (0x600 ≤ n && n ≤ 0x605) || n == 0x61c || n == 0x6dd || n == 0x70f || n == 0x1680 ||
  n == 0x180e || (0x2000 ≤ n && n ≤ 0x200f) || (0x2028 ≤ n && n ≤ 0x202f) ||
  (0x205f ≤ n && n ≤ 0x2064) || (0x2066 ≤ n && n ≤ 0x206f) || n == 0x3000 ||
  (0xe000 ≤ n && n ≤ 0xf8ff) || n == 0xfeff || (0xfff9 ≤ n && n ≤ 0xfffb) ||
  n == 0xfffe || n == 0xffff || 0xf0000 ≤ n

def escapeChar (q : Char) (c : Char) : List Char :=
  if c = q ∨ c = '\\' then ['\\', c]
  else if c = '\x07' then ['\\', 'a']
  else if c = '\x08' then ['\\', 'b']
  else if c = '\x0c' then ['\\', 'f']
  else if c = '\n' then ['\\', 'n']
  else if c = '\r' then ['\\', 'r']
  else if c = '\t' then ['\\', 't']
  else if c = '\x0b' then ['\\', 'v']
  else if !isUnprintable c then [c]
  else if c.toNat < 0x20 ∨ c.toNat = 0x7f then '\\' :: 'x' :: Hex.paddedDigits 2 c.toNat
  else if c.toNat < 0x10000 then '\\' :: 'u' :: Hex.paddedDigits 4 c.toNat
  else '\\' :: 'U' :: Hex.paddedDigits 8 c.toNat

def quote (s : String) : String :=
  String.ofList ('"' :: s.toList.flatMap (escapeChar '"') ++ ['"'])

def quoteChar (c : Char) : String :=
  String.ofList ('\'' :: escapeChar '\'' c ++ ['\''])

def escapeBytes : List UInt8 → List Char
  | [] => []
  | b :: rest =>
    match h : Utf8.decodeOne (b :: rest) with
    | some (c, r) =>
      have : r.length < (b :: rest).length := Utf8.decodeOneShortens h
      escapeChar '"' c ++ escapeBytes r
    | none => '\\' :: 'x' :: Hex.paddedDigits 2 b.toNat ++ escapeBytes rest
termination_by bs => bs.length
decreasing_by
  all_goals (try simp only [List.length_cons] at *)
  all_goals omega

def quoteBytes (b : List UInt8) : String := String.ofList ('"' :: escapeBytes b ++ ['"'])

end Erc4337.Quote
