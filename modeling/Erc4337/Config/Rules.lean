import Erc4337.Text.Hex
/-!
Field rules of the configuration: `url` (a scheme and a host, or an opaque part, or a
fragment, by the URL grammar of RFC 3986 as web clients read it), `eth_addr` (`0x` and 40 hex
digits), `numeric` (an optional sign, digits, and an optional fraction with digits) and `oneof`.
-/
namespace Erc4337.Rules

def isAlpha (c : Char) : Bool := ('a' ≤ c ∧ c ≤ 'z') ∨ ('A' ≤ c ∧ c ≤ 'Z')
def isDigit (c : Char) : Bool := '0' ≤ c ∧ c ≤ '9'

def scheme (cs : List Char) : Option (List Char × List Char) :=
  let rec go : List Char → List Char → Option (List Char × List Char)
    | [], _ => some ([], cs)
    | c :: rest, acc =>
      if isAlpha c then go rest (c :: acc)
      else if isDigit c ∨ c = '+' ∨ c = '-' ∨ c = '.' then
        if acc.isEmpty then some ([], cs) else go rest (c :: acc)
      else if c = ':' then
        if acc.isEmpty then none else some (acc.reverse, rest)
      else some ([], cs)
  go cs []

def escapesValid : List Char → Bool
  | [] => true
  | '%' :: a :: b :: rest => Hex.isDigit a && Hex.isDigit b && escapesValid rest
  | '%' :: _ => false
  | _ :: rest => escapesValid rest

def hostChar (c : Char) : Bool :=
  isAlpha c || isDigit c || c.toNat ≥ 0x80 || "-_.~!$&'()*+,;=:[]<>\"%".toList.contains c

def validPort (cs : List Char) : Bool :=
  match cs with
  | [] => true
  | ':' :: ds => ds.all isDigit
  | _ => false

def host (authority : List Char) : Option (List Char) :=
  let h := match (authority.reverse.findIdx? (· = '@')) with
    | some i => authority.drop (authority.length - i)
    | none => authority
  let portOk :=
    if h.head? = some '[' then
      match h.reverse.findIdx? (· = ']') with
      | some i => validPort (h.drop (h.length - i))
      | none => false
    else match h.reverse.findIdx? (· = ':') with
      | some i => validPort (h.drop (h.length - i - 1))
      | none => true
  if portOk && h.all hostChar && escapesValid h then some h else none

def isUrl (s : String) : Bool :=
  let cs := s.toList.map Char.toLower
  if cs.isEmpty then false
  else if cs.any (fun c => c.toNat < 0x20 ∨ c.toNat = 0x7f) then false
  else
    let beforeFrag := cs.takeWhile (· != '#')
    let frag := cs.drop (beforeFrag.length + 1)
    if !escapesValid frag then false
    else match scheme beforeFrag with
      | none => false
      | some (sch, rest) =>
        let isFile := "file:/".toList.isPrefixOf cs
        let rest := rest.takeWhile (· != '?')
        if sch.isEmpty then false
        else if !("/".toList.isPrefixOf rest) then
          escapesValid rest && (!rest.isEmpty || !frag.isEmpty || isFile)
        else if "//".toList.isPrefixOf rest then
          let auth := (rest.drop 2).takeWhile (· != '/')
          let path := (rest.drop 2).drop auth.length
          match host auth with
          | none => false
          | some h => escapesValid path && (!h.isEmpty || !frag.isEmpty || isFile)
        else escapesValid rest && (!frag.isEmpty || isFile)

def isEthAddr (s : String) : Bool :=
  match s.toList with
  | '0' :: 'x' :: ds => ds.length == 40 && ds.all Hex.isDigit
  | _ => false

def isNumeric (s : String) : Bool :=
  let body := match s.toList with
    | '-' :: r | '+' :: r => r
    | r => r
  let ip := body.takeWhile isDigit
  let rest := body.drop ip.length
  !ip.isEmpty && (rest.isEmpty || (rest.head? == some '.' && rest.length > 1 && (rest.drop 1).all isDigit))

end Erc4337.Rules
