import Erc4337.Json.Value
import Erc4337.Text.Quote
import Erc4337.Text.Utf8
/-!
Reading JSON text. The grammar is RFC 8259 with blanks limited to space, tab, carriage return
and line feed, and nesting limited to 10000 levels. A refused text names the first character
that cannot continue a document and what was expected there, or says that the text ended early;
the character is shown as its first UTF-8 byte read as a Latin-1 character, quoted with escapes.
Escapes in strings are decoded, a surrogate pair to one character and a lone surrogate to
U+FFFD.
-/
namespace Erc4337.Json

inductive SyntaxError where
  | unexpectedEnd
  | invalidChar (c : Char) (context : String) (left : Nat)
  deriving DecidableEq, Inhabited

def maxDepth : Nat := 10000

def SyntaxError.message : SyntaxError → String
  | .unexpectedEnd => "unexpected end of JSON input"
  | .invalidChar c ctx _ =>
    let b := Utf8.firstByte c
    let shown := if b = 0x27 then "'\\''" else if b = 0x22 then "'\"'"
      else Quote.quoteChar (Char.ofNat b)
    "invalid character " ++ shown ++ " " ++ ctx

def isBlank (c : Char) : Bool := c = ' ' || c = '\t' || c = '\r' || c = '\n'

def skipBlank : List Char → List Char
  | c :: cs => if isBlank c then skipBlank cs else c :: cs
  | [] => []

abbrev Result (α : Type) := Except SyntaxError (α × List Char)

def hex4 : List Char → Result Nat
  | a :: b :: c :: d :: rest =>
    match Hex.digitVal? a, Hex.digitVal? b, Hex.digitVal? c, Hex.digitVal? d with
    | some x, some y, some z, some w => .ok (((x * 16 + y) * 16 + z) * 16 + w, rest)
    | none, _, _, _ => .error (.invalidChar a "in \\u hexadecimal character escape" (rest.length + 4))
    | _, none, _, _ => .error (.invalidChar b "in \\u hexadecimal character escape" (rest.length + 3))
    | _, _, none, _ => .error (.invalidChar c "in \\u hexadecimal character escape" (rest.length + 2))
    | _, _, _, none => .error (.invalidChar d "in \\u hexadecimal character escape" (rest.length + 1))
  | cs =>
    match cs.dropWhile Hex.isDigit with
    | c :: more => .error (.invalidChar c "in \\u hexadecimal character escape" (more.length + 1))
    | [] => .error .unexpectedEnd

def isSurrogate (n : Nat) : Bool := 0xd800 ≤ n && n < 0xe000

def escapedUnit (n : Nat) (rest : List Char) : Char × List Char :=
  if isSurrogate n then
    match rest with
    | '\\' :: 'u' :: more =>
      match hex4 more with
      | .ok (m, after) =>
        if n < 0xdc00 && 0xdc00 ≤ m && m < 0xe000 then
          (Char.ofNat (0x10000 + (n - 0xd800) * 0x400 + (m - 0xdc00)), after)
        else (Char.ofNat 0xfffd, rest)
      | .error _ => (Char.ofNat 0xfffd, rest)
    | _ => (Char.ofNat 0xfffd, rest)
  else (Char.ofNat n, rest)

def stringBody : Nat → List Char → List Char → Result String
  | 0, _, _ => .error .unexpectedEnd
  | _ + 1, _, [] => .error .unexpectedEnd
  | fuel + 1, acc, c :: rest =>
    if c = '"' then .ok (String.ofList acc.reverse, rest)
    else if c = '\\' then
      match rest with
      | [] => .error .unexpectedEnd
      | e :: more =>
        if e = 'u' then
          match hex4 more with
          | .error err => .error err
          | .ok (n, after) =>
            -- a failed second escape of a pair is read again on its own
            let (ch, after') := escapedUnit n after
            if after'.length < more.length then stringBody fuel (ch :: acc) after'
            else .error .unexpectedEnd
        else
          let simple : Option Char :=
            if e = '"' then some '"' else if e = '\\' then some '\\' else if e = '/' then some '/'
            else if e = 'b' then some '\x08' else if e = 'f' then some '\x0c'
            else if e = 'n' then some '\n' else if e = 'r' then some '\r'
            else if e = 't' then some '\t' else none
          match simple with
          | some ch => stringBody fuel (ch :: acc) more
          | none => .error (.invalidChar e "in string escape code" (more.length + 1))
    else if c.toNat < 0x20 then .error (.invalidChar c "in string literal" (rest.length + 1))
    else stringBody fuel (c :: acc) rest

def parseString (cs : List Char) : Result String := stringBody (cs.length + 1) [] cs

def isDigit (c : Char) : Bool := '0' ≤ c && c ≤ '9'

def digits (cs : List Char) : List Char × List Char := (cs.takeWhile isDigit, cs.dropWhile isDigit)

def parseNumber (cs : List Char) : Result String :=
  let (neg, afterSign) := match cs with
    | '-' :: r => (['-'], r)
    | r => ([], r)
  let intPart : Except SyntaxError (List Char × List Char) :=
    match afterSign with
    | '0' :: r => .ok (['0'], r)
    | c :: r =>
      if isDigit c then let (ds, r') := digits r; .ok (c :: ds, r')
      else .error (.invalidChar c "in numeric literal" (r.length + 1))
    | [] => .error .unexpectedEnd
  match intPart with
  | .error e => .error e
  | .ok (ip, r1) =>
    let frac : Except SyntaxError (List Char × List Char) :=
      match r1 with
      | '.' :: r =>
        match r with
        | c :: _ =>
          if isDigit c then let (ds, r') := digits r; .ok ('.' :: ds, r')
          else .error (.invalidChar c "after decimal point in numeric literal" r.length)
        | [] => .error .unexpectedEnd
      | r => .ok ([], r)
    match frac with
    | .error e => .error e
    | .ok (fp, r2) =>
      let expo : Except SyntaxError (List Char × List Char) :=
        match r2 with
        | e :: r =>
          if e = 'e' || e = 'E' then
            let (sgn, r') := match r with
              | '+' :: t => (['+'], t)
              | '-' :: t => (['-'], t)
              | t => ([], t)
            match r' with
            | c :: _ =>
              if isDigit c then let (ds, r'') := digits r'; .ok (e :: sgn ++ ds, r'')
              else .error (.invalidChar c "in exponent of numeric literal" r'.length)
            | [] => .error .unexpectedEnd
          else .ok ([], e :: r)
        | [] => .ok ([], [])
      match expo with
      | .error e => .error e
      | .ok (ep, r3) => .ok (String.ofList (neg ++ ip ++ fp ++ ep), r3)

def literalRest (word : String) (expected : List Char) (cs : List Char) : Except SyntaxError (List Char) :=
  match expected, cs with
  | [], rest => .ok rest
  | _ :: _, [] => .error .unexpectedEnd
  | e :: es, c :: rest =>
    if c = e then literalRest word es rest
    else .error (.invalidChar c ("in literal " ++ word ++ " (expecting " ++ Quote.quoteChar e ++ ")") (rest.length + 1))

def withValue (v : Json) : Except SyntaxError (List Char) → Result Json
  | .ok r => .ok (v, r)
  | .error e => .error e

mutual
def parseValue : Nat → Nat → List Char → Result Json
  | 0, _, _ => .error .unexpectedEnd
  | fuel + 1, depth, cs =>
    match skipBlank cs with
    | [] => .error .unexpectedEnd
    | c :: rest =>
      if c = '\x7b' then
        if depth + 1 > maxDepth then .error (.invalidChar c "exceeded max depth" (rest.length + 1))
        else
          match skipBlank rest with
          | '\x7d' :: r => .ok (.obj [], r)
          | '"' :: r => parseMembers fuel (depth + 1) [] r
          | d :: r => .error (.invalidChar d "looking for beginning of object key string" (r.length + 1))
          | [] => .error .unexpectedEnd
      else if c = '[' then
        if depth + 1 > maxDepth then .error (.invalidChar c "exceeded max depth" (rest.length + 1))
        else
          match skipBlank rest with
          | ']' :: r => .ok (.arr [], r)
          | _ => parseItems fuel (depth + 1) [] rest
      else if c = '"' then
        match parseString rest with
        | .ok (s, r) => .ok (.str s, r)
        | .error e => .error e
      else if c = '-' || isDigit c then
        match parseNumber (c :: rest) with
        | .ok (l, r) => .ok (.num l, r)
        | .error e => .error e
      else if c = 't' then withValue (.bool true) (literalRest "true" ['r', 'u', 'e'] rest)
      else if c = 'f' then withValue (.bool false) (literalRest "false" ['a', 'l', 's', 'e'] rest)
      else if c = 'n' then withValue .null (literalRest "null" ['u', 'l', 'l'] rest)
      else .error (.invalidChar c "looking for beginning of value" (rest.length + 1))

def parseItems : Nat → Nat → List Json → List Char → Result Json
  | 0, _, _, _ => .error .unexpectedEnd
  | fuel + 1, depth, acc, cs =>
    match parseValue fuel depth cs with
    | .error e => .error e
    | .ok (v, r) =>
      match skipBlank r with
      | ',' :: r' => parseItems fuel depth (v :: acc) r'
      | ']' :: r' => .ok (.arr (v :: acc).reverse, r')
      | d :: r5 => .error (.invalidChar d "after array element" (r5.length + 1))
      | [] => .error .unexpectedEnd

def parseMembers : Nat → Nat → List (String × Json) → List Char → Result Json
  | 0, _, _, _ => .error .unexpectedEnd
  | fuel + 1, depth, acc, cs =>
    match parseString cs with
    | .error e => .error e
    | .ok (k, r) =>
      match skipBlank r with
      | ':' :: r' =>
        match parseValue fuel depth r' with
        | .error e => .error e
        | .ok (v, r'') =>
          match skipBlank r'' with
          | ',' :: r3 =>
            match skipBlank r3 with
            | '"' :: r4 => parseMembers fuel depth ((k, v) :: acc) r4
            | d :: r4 => .error (.invalidChar d "looking for beginning of object key string" (r4.length + 1))
            | [] => .error .unexpectedEnd
          | '\x7d' :: r3 => .ok (.obj ((k, v) :: acc).reverse, r3)
          | d :: r3 => .error (.invalidChar d "after object key:value pair" (r3.length + 1))
          | [] => .error .unexpectedEnd
      | d :: r' => .error (.invalidChar d "after object key" (r'.length + 1))
      | [] => .error .unexpectedEnd
end

def parse (s : String) : Except SyntaxError Json :=
  let cs := s.toList
  match parseValue (cs.length + 1) 0 cs with
  | .error e => .error e
  | .ok (v, rest) =>
    match skipBlank rest with
    | [] => .ok v
    | d :: r => .error (.invalidChar d "after top-level value" (r.length + 1))

end Erc4337.Json
