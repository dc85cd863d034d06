import Erc4337.Text.Float64
import Erc4337.Text.Quote
/-!
Filling a template with values, verb by verb.

A template is text with directives: `%`, then flags (`#0+- `), an optional width, an optional
precision after a point, either of them `*` to take it from the values, an optional `[n]`
choosing the value, and a verb. Values are texts, 64-bit integers, binary64 numbers, truth
values and nil. Each verb applies to the kinds it knows: `v` to all, `s q x X` to texts,
`d b o O x X c q U` to integers, `e E f F g G b` to numbers, `t` to truth values, `T` to all
(their type names). A verb that does not fit its value is written `%!verb(type=value)`; a verb
with no value left is `%!verb(MISSING)`; values left over are listed at the end as
`%!(EXTRA type=value, …)`.

Widths count characters and pad with blanks on the left, on the right with `-`, or with zeros
after any sign with `0`.
-/
namespace Erc4337.Printf

inductive Arg where
  | text (s : String)
  | int (n : Int)
  | float (v : Float64.Value)
  | bool (b : Bool)
  | nil
  deriving Inhabited

def Arg.typeName : Arg → String
  | .text _ => "string"
  | .int _ => "int64"
  | .float _ => "float64"
  | .bool _ => "bool"
  | .nil => "<nil>"

structure Flags where
  sharp : Bool := false
  zero : Bool := false
  plus : Bool := false
  minus : Bool := false
  space : Bool := false
  sharpV : Bool := false
  width : Option Nat := none
  prec : Option Nat := none
  deriving Inhabited

def fill (n : Nat) (c : Char) : String := String.ofList (List.replicate n c)

def Flags.pad (f : Flags) (s : String) : String :=
  match f.width with
  | none => s
  | some w =>
    if w ≤ s.length then s
    else if f.minus then s ++ fill (w - s.length) ' '
    else fill (w - s.length) (if f.zero then '0' else ' ') ++ s

def Flags.padBlank (f : Flags) (s : String) : String := { f with zero := false }.pad s

def digitsIn (base : Nat) (upper : Bool) (n : Nat) : List Char :=
  (Nat.toDigits base n).map fun c => if upper then c.toUpper else c

def integerText (f : Flags) (n : Int) (base : Nat) (upper : Bool) (verbO : Bool) : String :=
  let neg := n < 0
  let u := n.natAbs
  if f.prec == some 0 && u == 0 then f.padBlank ""
  else
    let minDigits := match f.prec with
      | some p => p
      | none =>
        match f.width with
        | some w => if f.zero && !f.minus then (if neg || f.plus || f.space then w - 1 else w) else 0
        | none => 0
    let ds := digitsIn base upper u
    let ds := List.replicate (minDigits - ds.length) '0' ++ ds
    let ds := if f.sharp then
        match base with
        | 2 => '0' :: 'b' :: ds
        | 8 => if ds.head? == some '0' then ds else '0' :: ds
        | 16 => '0' :: (if upper then 'X' else 'x') :: ds
        | _ => ds
      else ds
    let ds := if verbO then '0' :: 'o' :: ds else ds
    let ds := if neg then '-' :: ds else if f.plus then '+' :: ds else if f.space then ' ' :: ds else ds
    f.padBlank (String.ofList ds)

def unsigned (n : Int) : Nat := (n % 2 ^ 64).toNat

def runeOf (u : Nat) : Char :=
  if u > 0x10ffff || (0xd800 ≤ u && u < 0xe000) then Char.ofNat 0xfffd else Char.ofNat u

def escapeAscii (q : Char) (c : Char) : List Char :=
  if c.toNat < 0x80 then Quote.escapeChar q c
  else if c.toNat < 0x10000 then '\\' :: 'u' :: Hex.paddedDigits 4 c.toNat
  else '\\' :: 'U' :: Hex.paddedDigits 8 c.toNat

def quoteRune (ascii : Bool) (c : Char) : String :=
  String.ofList ('\'' :: (if ascii then escapeAscii '\'' c else Quote.escapeChar '\'' c) ++ ['\''])

def unicodeText (f : Flags) (u : Nat) : String :=
  let prec := match f.prec with
    | some p => if p > 4 then p else 4
    | none => 4
  let ds := digitsIn 16 true u
  let ds := List.replicate (prec - ds.length) '0' ++ ds
  let tail := if f.sharp && u ≤ 0x10ffff && !(0xd800 ≤ u && u < 0xe000) && !Quote.isUnprintable (Char.ofNat u)
    then [' ', '\'', Char.ofNat u, '\''] else []
  f.padBlank (String.ofList ('U' :: '+' :: ds ++ tail))

def sciLayout (d : Float64.Decimal) (prec : Nat) (e : Char) : String :=
  let first := (d.digits.head?.map Float64.digitChar).getD '0'
  let rest := (d.digits.drop 1).map Float64.digitChar
  let frac := (rest.take prec) ++ List.replicate (prec - rest.length) '0'
  let x : Int := if d.digits.isEmpty then 0 else d.point - 1
  String.ofList (first :: (if prec > 0 then '.' :: frac else [])) ++ String.ofList [e] ++ Float64.expText x

def plainLayout (d : Float64.Decimal) (prec : Nat) : String :=
  let digitAt := fun (i : Int) =>
    if 0 ≤ i ∧ i < d.digits.length then Float64.digitChar (d.digits.getD i.toNat 0) else '0'
  let whole := if d.point > 0 then
      String.ofList ((List.range d.point.toNat).map fun (i : Nat) => digitAt (i : Int))
    else "0"
  if prec = 0 then whole
  else whole ++ "." ++ String.ofList ((List.range prec).map fun (i : Nat) => digitAt (d.point + (i : Int)))

def generalLayout (fin : Float64.Finite) (prec : Option Nat) (e : Char) : String :=
  let shortest := prec.isNone
  let d := match prec with
    | none => if fin.mant = 0 then ⟨[], 0⟩ else Float64.shortest fin
    | some p => Float64.roundDigits fin (if p = 0 then 1 else p)
  let nd := d.digits.length
  let p : Int := match prec with
    | none => nd
    | some p => if p = 0 then 1 else p
  let eprec : Int := if shortest then 6 else if p > nd ∧ nd ≥ d.point then nd else p
  let x := d.point - 1
  if x < -4 ∨ x ≥ eprec then
    let p := if p > nd then nd else p
    sciLayout d (p - 1).toNat e
  else
    let p := if p > d.point then (nd : Int) else p
    plainLayout d (max (p - d.point) 0).toNat

def floatBody (f : Flags) (v : Float64.Value) (verb : Char) : String :=
  match v with
  | .nan => "+NaN"
  | .inf neg => if neg then "-Inf" else "+Inf"
  | .finite fin =>
    let body := match verb with
      | 'e' | 'E' =>
        let p := f.prec.getD 6
        sciLayout (Float64.roundDigits fin (p + 1)) p verb
      | 'f' | 'F' =>
        let p := f.prec.getD 6
        plainLayout (if fin.mant = 0 then ⟨[], 0⟩ else Float64.roundTo fin (-(p : Int))) p
      | 'G' => generalLayout fin f.prec 'E'
      | 'b' =>
        if fin.mant = 0 then "0p-1074"
        else toString fin.mant ++ "p" ++ (if fin.exp ≥ 0 then "+" else "-") ++ toString fin.exp.natAbs
      | _ => generalLayout fin f.prec 'e'
    (if fin.neg then "-" else "+") ++ body

def floatText (f : Flags) (v : Float64.Value) (verb : Char) : String :=
  let num := (floatBody f v verb).toList
  let (sign, digits) := match num with
    | c :: rest => (if f.space && c = '+' && !f.plus then ' ' else c, rest)
    | [] => ('+', [])
  match digits with
  | 'I' :: _ => f.padBlank (String.ofList (sign :: digits))
  | 'N' :: _ => f.padBlank (String.ofList (if !f.space && !f.plus then digits else sign :: digits))
  | _ =>
    if f.plus || sign != '+' then
      match f.width with
      | some w =>
        if f.zero && !f.minus && w > digits.length + 1 then
          String.ofList [sign] ++ fill (w - (digits.length + 1)) '0' ++ String.ofList digits
        else f.pad (String.ofList (sign :: digits))
      | none => String.ofList (sign :: digits)
    else f.pad (String.ofList digits)

def truncated (f : Flags) (s : String) : String :=
  match f.prec with
  | some p => String.ofList (s.toList.take p)
  | none => s

def hexBytes (f : Flags) (s : String) (upper : Bool) : String :=
  let bytes := s.toUTF8.toList
  let bytes := match f.prec with
    | some p => bytes.take p
    | none => bytes
  if bytes.isEmpty then (match f.width with | some w => fill w (if f.zero then '0' else ' ') | none => "")
  else
    let two := fun (b : UInt8) => String.ofList (digitsIn 16 upper b.toNat |> fun ds => List.replicate (2 - ds.length) '0' ++ ds)
    let pre := if upper then "0X" else "0x"
    let body := if f.space then
        " ".intercalate (bytes.map fun b => (if f.sharp then pre else "") ++ two b)
      else (if f.sharp then pre else "") ++ String.join (bytes.map two)
    f.pad body

def canBackquote (s : String) : Bool :=
  s.all fun c => c != '`' && c.toNat != 0xfeff && (c == '\t' || !(c.toNat < 0x20 || c.toNat == 0x7f))

def quoteText (f : Flags) (s : String) : String :=
  let s := truncated f s
  if f.sharp && canBackquote s then f.pad ("`" ++ s ++ "`")
  else if f.plus then f.pad (String.ofList ('"' :: s.toList.flatMap (escapeAscii '"') ++ ['"']))
  else f.pad (Quote.quote s)

mutual
def argText (f : Flags) (a : Arg) (verb : Char) : String :=
  match a, verb with
  | .nil, 'v' | .nil, 'T' => f.pad "<nil>"
  | .nil, _ => "%!" ++ String.ofList [verb] ++ "(<nil>)"
  | a, 'T' => f.pad a.typeName
  | .bool b, 'v' | .bool b, 't' => f.pad (if b then "true" else "false")
  | .int n, 'v' | .int n, 'd' => integerText f n 10 false false
  | .int n, 'b' => integerText f n 2 false false
  | .int n, 'o' => integerText f n 8 false false
  | .int n, 'O' => integerText f n 8 false true
  | .int n, 'x' => integerText f n 16 false false
  | .int n, 'X' => integerText f n 16 true false
  | .int n, 'c' => f.pad (String.ofList [runeOf (unsigned n)])
  | .int n, 'q' => f.pad (quoteRune f.plus (runeOf (unsigned n)))
  | .int n, 'U' => unicodeText f (unsigned n)
  | .float v, 'v' => floatText f v 'g'
  | .float v, 'b' | .float v, 'g' | .float v, 'G' | .float v, 'e' | .float v, 'E'
  | .float v, 'f' | .float v, 'F' => floatText f v verb
  | .text s, 'v' => if f.sharpV then quoteText { f with sharp := false } s else f.pad (truncated f s)
  | .text s, 's' => f.pad (truncated f s)
  | .text s, 'q' => quoteText f s
  | .text s, 'x' => hexBytes f s false
  | .text s, 'X' => hexBytes f s true
  | a, _ => badVerb f a verb

def badVerb (f : Flags) (a : Arg) (verb : Char) : String :=
  "%!" ++ String.ofList [verb] ++ "(" ++ a.typeName ++ "=" ++ plainArg f a ++ ")"

def plainArg (f : Flags) (a : Arg) : String :=
  match a with
  | .nil => f.pad "<nil>"
  | .bool b => f.pad (if b then "true" else "false")
  | .int n => integerText f n 10 false false
  | .float v => floatText f v 'g'
  | .text s => if f.sharpV then quoteText { f with sharp := false } s else f.pad (truncated f s)
end

def number (cs : List Char) : Option Nat × List Char :=
  let ds := cs.takeWhile Char.isDigit
  if ds.isEmpty then (none, cs)
  else
    let (n, big) := ds.foldl (fun (acc, big) c => (acc * 10 + (c.toNat - 48), big || acc > 1000000)) (0, false)
    if big then (none, []) else (some n, cs.drop ds.length)

def intArg (args : List Arg) (i : Nat) : Option Int × Nat :=
  match args[i]? with
  | some (.int n) => (if n > 1000000 || n < -1000000 then none else some n, i + 1)
  | some _ => (none, i + 1)
  | none => (none, i)

def argIndex (cs : List Char) (count : Nat) : Option (Option Nat × Bool × List Char) :=
  match cs with
  | '[' :: rest =>
    match rest.findIdx? (· == ']') with
    | none => some (none, false, rest)
    | some j =>
      let inside := rest.take j
      let after := rest.drop (j + 1)
      if cs.length < 3 then some (none, false, rest)
      else if !inside.isEmpty && inside.all Char.isDigit && inside.length ≤ 7 then
        let n := inside.foldl (fun acc c => acc * 10 + (c.toNat - 48)) 0
        if 1 ≤ n && n ≤ count then some (some (n - 1), true, after) else some (none, true, after)
      else some (none, false, after)
  | _ => none

structure Cursor where
  next : Nat := 0
  reordered : Bool := false
  good : Bool := true

def Cursor.index (c : Cursor) (cs : List Char) (count : Nat) : Cursor × List Char × Bool :=
  match argIndex cs count with
  | none => (c, cs, false)
  | some (some i, ok, rest) => ({ c with next := i, reordered := true }, rest, ok)
  | some (none, ok, rest) => ({ c with reordered := true, good := false }, rest, ok)

def flagsOf : List Char → Flags → Flags × List Char
  | '#' :: rest, f => flagsOf rest { f with sharp := true }
  | '0' :: rest, f => flagsOf rest { f with zero := !f.minus }
  | '+' :: rest, f => flagsOf rest { f with plus := true }
  | '-' :: rest, f => flagsOf rest { f with minus := true, zero := false }
  | ' ' :: rest, f => flagsOf rest { f with space := true }
  | cs, f => (f, cs)

def directive (args : List Arg) (c : Cursor) (cs : List Char) : String × Cursor × List Char :=
  let count := args.length
  let c := { c with good := true }
  let (f, cs) := flagsOf cs {}
  let (c, cs, afterIndex) := c.index cs count
  let (f, c, cs, out, afterIndex) :=
    match cs with
    | '*' :: rest =>
      let (w, next) := intArg args c.next
      let c := { c with next }
      match w with
      | none => (f, c, rest, "%!(BADWIDTH)", false)
      | some w =>
        if w < 0 then ({ f with width := some w.natAbs, minus := true, zero := false }, c, rest, "", false)
        else ({ f with width := some w.toNat }, c, rest, "", false)
    | _ =>
      let (w, rest) := number cs
      let c := if afterIndex && w.isSome then { c with good := false } else c
      ({ f with width := w }, c, rest, "", afterIndex)
  let (f, c, cs, out, afterIndex) :=
    match cs with
    | '.' :: rest@(_ :: _) =>
      let c := if afterIndex then { c with good := false } else c
      let (c, rest, afterIndex) := c.index rest count
      match rest with
      | '*' :: more =>
        let (p, next) := intArg args c.next
        let c := { c with next }
        match p with
        | some p => if p < 0 then ({ f with prec := none }, c, more, out ++ "%!(BADPREC)", false)
          else ({ f with prec := some p.toNat }, c, more, out, false)
        | none => ({ f with prec := none }, c, more, out ++ "%!(BADPREC)", false)
      | _ =>
        let (p, more) := number rest
        ({ f with prec := some (p.getD 0) }, c, more, out, afterIndex)
    | _ => (f, c, cs, out, afterIndex)
  let (c, cs, _) := if !afterIndex then c.index cs count else (c, cs, afterIndex)
  match cs with
  | [] => (out ++ "%!(NOVERB)", c, [])
  | verb :: rest =>
    if verb = '%' then (out ++ "%", c, rest)
    else if !c.good then (out ++ "%!" ++ String.ofList [verb] ++ "(BADINDEX)", c, rest)
    else
      match args[c.next]? with
      | none => (out ++ "%!" ++ String.ofList [verb] ++ "(MISSING)", c, rest)
      | some a =>
        let f := if verb = 'v' then { f with sharpV := f.sharp, sharp := false, plus := false } else f
        (out ++ argText f a verb, { c with next := c.next + 1 }, rest)

def fillWith (args : List Arg) : Nat → Cursor → List Char → String × Cursor
  | 0, c, _ => ("", c)
  | _ + 1, c, [] => ("", c)
  | fuel + 1, c, cs =>
    let lit := cs.takeWhile (· != '%')
    match cs.dropWhile (· != '%') with
    | [] => (String.ofList lit, c)
    | _ :: rest =>
      let (out, c, rest) := directive args c rest
      let (more, c) := fillWith args fuel c rest
      (String.ofList lit ++ out ++ more, c)

def extras (args : List Arg) (c : Cursor) : String :=
  if c.reordered || c.next ≥ args.length then ""
  else "%!(EXTRA " ++ ", ".intercalate ((args.drop c.next).map fun a =>
    match a with
    | .nil => "<nil>"
    | a => a.typeName ++ "=" ++ plainArg {} a) ++ ")"

def sprintf (template : String) (args : List Arg) : String :=
  let cs := template.toList
  let (out, c) := fillWith args (cs.length + 1) {} cs
  out ++ extras args c

def sprint (a : Arg) : String := plainArg {} a

end Erc4337.Printf
