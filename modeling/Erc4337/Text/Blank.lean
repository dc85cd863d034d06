import Erc4337.Arith
/-!
White space as Unicode defines it: the ASCII blanks and controls tab to carriage return, the
next-line and no-break spaces, and the spaces of the separator class with the line and
paragraph separators.
-/
namespace Erc4337.Blank

def isWhite (c : Char) : Bool :=
  let n := c.toNat
  (9 ≤ n && n ≤ 13) || n == 32 || n == 0x85 || n == 0xa0 || n == 0x1680 ||
    (0x2000 ≤ n && n ≤ 0x200a) || n == 0x2028 || n == 0x2029 || n == 0x202f || n == 0x205f ||
    n == 0x3000

def trim (s : String) : String :=
  String.ofList ((s.toList.dropWhile isWhite).reverse.dropWhile isWhite).reverse

def words (s : String) : List String :=
  ((s.toList.splitBy fun a b => isWhite a == isWhite b).filter fun w => !w.all isWhite).map String.ofList

end Erc4337.Blank
