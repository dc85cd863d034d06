import Erc4337.Service.State
import Erc4337.Text.Float64
import Erc4337.Json.Value
/-!
The operator's view of a running service: clearing the pool or the reputation, and
overwriting reputation counters from loosely typed entries such as a JSON document yields.

An entry is read leniently. Its members are matched to `address`, `opsSeen` and `opsIncluded`
ignoring case. Counters may be numbers (cut to whole numbers), booleans (one or zero) or texts
in Go integer syntax (`0x`, `0o`, `0b` and `0` prefixes and digit separators allowed; the empty
text is zero). An address is `0x` and forty hex digits; a list of small numbers is taken as its
bytes. Every problem of an entry is reported at once, sorted; an entry without an address is
refused.
-/
namespace Erc4337.Service

mutual
def goText : Json → String
  | .null => "<nil>"
  | .bool b => if b then "true" else "false"
  | .num l => Float64.text (Float64.ofLiteral l)
  | .str s => s
  | .arr items => "[" ++ " ".intercalate (goTexts items) ++ "]"
  | .obj ms => "map[" ++ " ".intercalate (((goMembers ms).mergeSort fun a c => decide (a.1 ≤ c.1)).map (·.2)) ++ "]"

def goTexts : List Json → List String
  | [] => []
  | j :: js => goText j :: goTexts js

def goMembers : List (String × Json) → List (String × String)
  | [] => []
  | (k, v) :: ms => (k, k ++ ":" ++ goText v) :: goMembers ms
end

def goType : Json → String
  | .null => "<nil>"
  | .bool _ => "bool"
  | .num _ => "float64"
  | .str _ => "string"
  | .arr _ => "[]interface {}"
  | .obj _ => "map[string]interface {}"

def lowerByte (c : Char) : Char := if 'A' ≤ c ∧ c ≤ 'Z' then Char.ofNat (c.toNat + 32) else c

def digitValue (c : Char) : Option Nat :=
  let c := lowerByte c
  if '0' ≤ c ∧ c ≤ '9' then some (c.toNat - 48)
  else if 'a' ≤ c ∧ c ≤ 'z' then some (c.toNat - 87)
  else none

def separatorsOk (s : List Char) : Bool :=
  let s := match s with
    | c :: rest => if c = '-' ∨ c = '+' then rest else s
    | [] => []
  let (start, hex, rest) := match s with
    | '0' :: b :: rest =>
      if lowerByte b = 'b' ∨ lowerByte b = 'o' ∨ lowerByte b = 'x' then ('0', lowerByte b == 'x', rest)
      else ('^', false, s)
    | _ => ('^', false, s)
  let final := rest.foldl (fun (saw : Char) c =>
    if saw = '?' then '?'
    else if ('0' ≤ c && c ≤ '9') || (hex && 'a' ≤ lowerByte c && lowerByte c ≤ 'f') then '0'
    else if c = '_' then (if saw = '0' then '_' else '?')
    else if saw = '_' then '?'
    else '!') start
  final != '?' && final != '_'

def parseUint (s : String) (bits : Nat) : Except String Nat := do
  let fail := fun (why : String) => "strconv.ParseUint: parsing " ++ Quote.quote s ++ ": " ++ why
  let cs := s.toList
  if cs.isEmpty then throw (fail "invalid syntax")
  let (base, body) : Nat × List Char := match cs with
    | '0' :: b :: rest =>
      if cs.length ≥ 3 ∧ lowerByte b = 'b' then (2, rest)
      else if cs.length ≥ 3 ∧ lowerByte b = 'o' then (8, rest)
      else if cs.length ≥ 3 ∧ lowerByte b = 'x' then (16, rest)
      else (8, b :: rest)
    | ['0'] => (8, [])
    | _ => (10, cs)
  let maxVal := 2 ^ bits - 1
  let mut n := 0
  let mut separators := false
  for c in body do
    if c = '_' then
      separators := true
      continue
    match digitValue c with
    | none => throw (fail "invalid syntax")
    | some d =>
      if d ≥ base then throw (fail "invalid syntax")
      if n * base + d > maxVal then throw (fail "value out of range")
      n := n * base + d
  if separators && !separatorsOk cs then throw (fail "invalid syntax")
  return n

def looseUint (name : String) (bits : Nat) (v : Json) : Except String (Option Nat) :=
  match v with
  | .null => .ok none
  | .num l => .ok (some (Float64.toU64 (Float64.ofLiteral l) % 2 ^ bits))
  | .bool b => .ok (some (if b then 1 else 0))
  | .str s =>
    match parseUint (if s.isEmpty then "0" else s) bits with
    | .ok n => .ok (some n)
    | .error e => .error ("cannot parse '" ++ name ++ "' as uint: " ++ e)
  | other => .error ("'" ++ name ++ "' expected type 'uint" ++ toString bits ++ "', got unconvertible type '" ++
      goType other ++ "', value: '" ++ goText other ++ "'")

def isHexAddress (s : String) : Bool :=
  let cs := match s.toList with
    | '0' :: x :: rest => if x = 'x' ∨ x = 'X' then rest else s.toList
    | other => other
  cs.length = 40 && cs.all fun c => (digitValue c).any (· < 16)

def addressBytes (items : List Json) : List String × List (Nat × Nat) :=
  items.zipIdx.foldl (fun (errs, set) (v, i) =>
    match looseUint ("address[" ++ toString i ++ "]") 8 v with
    | .ok (some b) => (errs, set ++ [(i, b)])
    | .ok none => (errs, set)
    | .error e => (errs ++ [e], set)) ([], [])

def looseAddress (v : Json) : List String × Option Address :=
  match v with
  | .null => ([], none)
  | .str s =>
    if isHexAddress s then ([], some (Address.ofTextLoose (if s.startsWith "0x" || s.startsWith "0X" then s else "0x" ++ s)))
    else (["error decoding 'address': invalid address " ++ Quote.quote s], none)
  | .arr items =>
    if items.length > 20 then
      (["'address': expected source data to have length less or equal to 20, got " ++ toString items.length], none)
    else
      let (errs, set) := addressBytes items
      (errs, some (Address.ofBytes ((List.range 20).map fun i => ((set.lookup i).getD 0).toUInt8)))
  | .obj [] => ([], some .zero)
  | other =>
    let (errs, set) := addressBytes [other]
    (errs, some (Address.ofBytes ((List.range 20).map fun i => ((set.lookup i).getD 0).toUInt8)))

def lookupField (ms : List (String × Json)) (name : String) : Option Json :=
  match (ms.reverse.find? (·.1 == name)) with
  | some (_, v) => some v
  | none => (ms.find? fun (k, _) => k.toList.map lowerByte == name.toList.map lowerByte).map (·.2)

def decodingError (errs : List String) : String :=
  toString errs.length ++ " error(s) decoding:\n\n" ++
    "\n".intercalate ((errs.map ("* " ++ ·)).mergeSort fun a c => decide (a ≤ c))

def looseEntry (ms : List (String × Json)) : Except String (Address × Reputation.Counters) := do
  let (addrErrs, addr) := looseAddress ((lookupField ms "address").getD .null)
  let counter := fun (name : String) =>
    match looseUint name 64 ((lookupField ms name).getD .null) with
    | .ok v => ([], v.getD 0)
    | .error e => ([e], 0)
  let (seenErrs, seen) := counter "opsSeen"
  let (inclErrs, incl) := counter "opsIncluded"
  let errs := addrErrs ++ seenErrs ++ inclErrs
  if !errs.isEmpty then throw (decodingError errs)
  let a := addr.getD .zero
  if a.isZero then throw "address is required"
  return (a, { opsSeen := seen.toUInt64, opsIncluded := incl.toUInt64 })

def looseEntries (raw : List (List (String × Json))) : Except Fault (List (Address × Reputation.Counters)) :=
  raw.zipIdx.mapM fun (ms, i) =>
    (looseEntry ms).mapError fun e =>
      Fault.ofRpc ⟨RpcError.invalidFields, "reputation entry " ++ toString i ++ ": " ++ e, []⟩

section
variable {n : Type → Type} [Monad n] [MonadStateOf Service n]

def clearMempool : n Unit := do
  modifyPool (·.clear)
  log .info "mempool cleared" []

def clearReputation : n Unit := do
  modifyRep (·.clear)
  log .info "reputation cleared" []

def setReputation (raw : List (List (String × Json))) : n (Except Fault Unit) := do
  match looseEntries raw with
  | .error e => return .error e
  | .ok es =>
    modifyRep (·.setReputation es)
    log .info "reputation overwritten" ["entries", toString es.length]
    return .ok ()

end

end Erc4337.Service
