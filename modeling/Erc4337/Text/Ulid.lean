import Erc4337.Arith
/-!
ULIDs: 128-bit identifiers written as 26 characters of Crockford's base 32, most significant
first, so the first character is below `8`. Bundle identifiers are ULIDs. Since they differ
from run to run, texts that show them can have every ULID-shaped word replaced by `<ulid>`.
-/
namespace Erc4337.Ulid

def alphabet : List Char := "0123456789ABCDEFGHJKMNPQRSTVWXYZ".toList

def encode (n : Nat) : String :=
  String.ofList ((List.range 26).reverse.map fun i => alphabet.getD (n / 32 ^ i % 32) '0')

def isWordChar (c : Char) : Bool := c.isAlphanum || c == '_'

def isDigit (c : Char) : Bool := alphabet.contains c

def isUlid (cs : List Char) : Bool :=
  match cs with
  | c :: rest => cs.length == 26 && '0' ≤ c && c ≤ '7' && rest.all isDigit
  | [] => false

def maskFrom (prev : Option Char) : List Char → List Char
  | [] => []
  | c :: rest =>
    let word := (c :: rest).take 26
    if (prev.all (!isWordChar ·)) && isUlid word && ((rest.drop 25).head?.all (!isWordChar ·)) then
      "<ulid>".toList ++ maskFrom word.getLast? (rest.drop 25)
    else c :: maskFrom (some c) rest
termination_by cs => cs.length

def mask (s : String) : String := String.ofList (maskFrom none s.toList)

end Erc4337.Ulid
