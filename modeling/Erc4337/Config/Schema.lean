import Erc4337.Config.Yaml
/-!
Reading YAML nodes into typed records. A plain scalar is resolved to null, a boolean, an
integer, a float or a string by the YAML 1.1 rules (`yes`/`no`/`on`/`off` are booleans, `0x`,
`0o`, `0b` and a leading `0` choose a base, underscores are ignored, out-of-range integers
become floats); a quoted scalar is always a string, and null leaves a field at its zero value.
A text field takes any scalar as its text. A value of the wrong kind, an unknown key, or a key
given twice is an error, and all errors of a document are reported together, each with its
line.
-/
namespace Erc4337.Yaml

inductive Kind where
  | text (typeName : String)
  | u64
  | int
  | flag
  | texts
  | record (typeName : String) (fields : List (String × Kind))

inductive Val where
  | text (s : String)
  | nat (n : Nat)
  | int (i : Int)
  | flag (b : Bool)
  | texts (l : List String)
  | record (fields : List (String × Val))
  deriving Inhabited

inductive Scalar where
  | null
  | bool (b : Bool)
  | int (i : Int)
  | float (f : Float)
  | str

def digitsIn (base : Nat) (cs : List Char) : Option Nat :=
  if cs.isEmpty then none
  else cs.foldlM (fun acc c => match Hex.digitVal? c with
    | some d => if d < base then some (acc * base + d) else none
    | none => none) 0

def intOf? (cs : List Char) : Option Int :=
  let (neg, body) := match cs with
    | '-' :: r => (true, r)
    | '+' :: r => (false, r)
    | r => (false, r)
  let mag := match body with
    | '0' :: 'x' :: ds | '0' :: 'X' :: ds => digitsIn 16 ds
    | '0' :: 'o' :: ds | '0' :: 'O' :: ds => digitsIn 8 ds
    | '0' :: 'b' :: ds | '0' :: 'B' :: ds => digitsIn 2 ds
    | ['0'] => some 0
    | '0' :: ds => digitsIn 8 ds
    | ds => digitsIn 10 ds
  mag.map fun m => if neg then -(m : Int) else m

def isDigit (c : Char) : Bool := '0' ≤ c ∧ c ≤ '9'

def isFloatText (cs : List Char) : Bool :=
  let body := match cs with
    | '-' :: r | '+' :: r => r
    | r => r
  let mantissa := body.takeWhile fun c => isDigit c ∨ c = '.'
  let rest := body.drop mantissa.length
  let intPart := mantissa.takeWhile isDigit
  let afterInt := mantissa.drop intPart.length
  let okMantissa : Bool :=
    (!intPart.isEmpty && (afterInt.isEmpty || (afterInt.head? == some '.' && (afterInt.drop 1).all isDigit))) ||
    (intPart.isEmpty && afterInt.head? == some '.' && !(afterInt.drop 1).isEmpty && (afterInt.drop 1).all isDigit)
  let okExp : Bool := match rest with
    | [] => true
    | e :: r => (e == 'e' || e == 'E') &&
      (match r with
       | '-' :: ds | '+' :: ds => !ds.isEmpty && ds.all isDigit
       | ds => !ds.isEmpty && ds.all isDigit)
  okMantissa && okExp

def floatOf (cs : List Char) : Float :=
  let (neg, body) := match cs with
    | '-' :: r => (true, r)
    | '+' :: r => (false, r)
    | r => (false, r)
  let mantissa := body.takeWhile fun c => isDigit c ∨ c = '.'
  let expPart := body.drop (mantissa.length + 1)
  let ip := mantissa.takeWhile isDigit
  let fp := (mantissa.drop (ip.length + 1))
  let digits := (ip ++ fp).foldl (fun a c => a * 10 + (c.toNat - 48)) 0
  let e : Int := (match expPart with
    | '-' :: ds => -((ds.foldl (fun a c => a * 10 + (c.toNat - 48)) 0 : Nat) : Int)
    | '+' :: ds => ((ds.foldl (fun a c => a * 10 + (c.toNat - 48)) 0 : Nat) : Int)
    | ds => ((ds.foldl (fun a c => a * 10 + (c.toNat - 48)) 0 : Nat) : Int)) - fp.length
  let v := if e ≥ 0 then Float.ofScientific digits false e.toNat else Float.ofScientific digits true e.natAbs
  if neg then -v else v

def nullWords : List String := ["", "~", "null", "Null", "NULL"]
def trueWords : List String := ["y", "Y", "yes", "Yes", "YES", "on", "On", "ON", "true", "True", "TRUE"]
def falseWords : List String := ["n", "N", "no", "No", "NO", "off", "Off", "OFF", "false", "False", "FALSE"]

def resolve (value : String) (quoted : Bool) : Scalar :=
  if quoted then .str
  else if nullWords.contains value then .null
  else if trueWords.contains value then .bool true
  else if falseWords.contains value then .bool false
  else if value = ".inf" ∨ value = ".Inf" ∨ value = ".INF" ∨ value = "+.inf" ∨ value = "+.Inf" ∨ value = "+.INF" then .float (1 / 0)
  else if value = "-.inf" ∨ value = "-.Inf" ∨ value = "-.INF" then .float (-1 / 0)
  else if value = ".nan" ∨ value = ".NaN" ∨ value = ".NAN" then .float (0 / 0)
  else
    match value.toList with
    | c :: _ =>
      if isDigit c ∨ c = '+' ∨ c = '-' then
        let plain := value.toList.filter (· != '_')
        match intOf? plain with
        | some i =>
          if -(2 ^ 63 : Int) ≤ i ∧ i < 2 ^ 64 then .int i
          else if isFloatText plain then .float (floatOf plain) else .str
        | none => if isFloatText plain then .float (floatOf plain) else .str
      else if c = '.' then
        if isFloatText value.toList then .float (floatOf value.toList) else .str
      else .str
    | [] => .null

def tagOf : Scalar → String
  | .null => "!!null"
  | .bool _ => "!!bool"
  | .int _ => "!!int"
  | .float _ => "!!float"
  | .str => "!!str"

def floatToU64 (f : Float) : Nat :=
  if f < 9223372036854775808.0 then
    let i : Int := if f ≥ 0 then f.toUInt64.toNat else -((-f).toUInt64.toNat : Int)
    if f < -9223372036854775808.0 then 2 ^ 63 else (i % 2 ^ 64).toNat
  else
    let r := f - 9223372036854775808.0
    if r < 9223372036854775808.0 then r.toUInt64.toNat + 2 ^ 63 else 2 ^ 63

def floatToI64 (f : Float) : Int :=
  if f < 9223372036854775808.0 ∧ f ≥ -9223372036854775808.0 then
    if f ≥ 0 then f.toUInt64.toNat else -((-f).toUInt64.toNat : Int)
  else -(2 ^ 63)

def Kind.typeName : Kind → String
  | .text t => t
  | .u64 => "uint64"
  | .int => "int"
  | .flag => "bool"
  | .texts => "[]string"
  | .record t _ => t

mutual
def Kind.zero : Kind → Val
  | .text _ => .text ""
  | .u64 => .nat 0
  | .int => .int 0
  | .flag => .flag false
  | .texts => .texts []
  | .record _ fs => .record (zeros fs)

def zeros : List (String × Kind) → List (String × Val)
  | [] => []
  | (n, k) :: rest => (n, k.zero) :: zeros rest
end

def mismatch (n : Node) (target : String) : String :=
  match n with
  | .scalar v q l =>
    let shown := if v.length > 10 then String.ofList (v.toList.take 7) ++ "..." else v
    "line " ++ toString (l + 1) ++ ": cannot unmarshal " ++ tagOf (resolve v q) ++ " `" ++ shown ++ "` into " ++ target
  | .seq _ l => "line " ++ toString (l + 1) ++ ": cannot unmarshal !!seq into " ++ target
  | .map _ l => "line " ++ toString (l + 1) ++ ": cannot unmarshal !!map into " ++ target

def scalarInto (k : Kind) (n : Node) (v : String) (q : Bool) : Option Val × List String :=
  let fail := (none, [mismatch n k.typeName])
  match resolve v q with
  | .null => (some k.zero, [])
  | r =>
    match k, r with
    | .text _, _ => (some (.text v), [])
    | .u64, .int i => if i ≥ 0 ∧ i < 2 ^ 64 then (some (.nat i.toNat), []) else fail
    | .u64, .float f => if f ≤ 18446744073709551615.0 then (some (.nat (floatToU64 f)), []) else fail
    | .int, .int i => if i < 2 ^ 63 then (some (.int i), []) else fail
    | .int, .float f => if f ≤ 9223372036854775807.0 then (some (.int (floatToI64 f)), []) else fail
    | .flag, .bool b => (some (.flag b), [])
    | _, _ => fail

mutual
def decode : Nat → Kind → Node → Option Val × List String
  | 0, _, _ => (none, [])
  | fuel + 1, k, n =>
    match n with
    | .scalar v q _ => scalarInto k n v q
    | .seq items _ =>
      match k with
      | .texts =>
        let (vals, errs) := decodeTexts fuel items
        (some (.texts vals), errs)
      | _ => (none, [mismatch n k.typeName])
    | .map pairs _ =>
      match k with
      | .record t fs =>
        let (vals, errs) := decodeFields fuel t fs pairs (zeros fs) []
        (some (.record vals), errs)
      | _ => (none, [mismatch n k.typeName])

def decodeTexts : Nat → List Node → List String × List String
  | 0, _ => ([], [])
  | _, [] => ([], [])
  | fuel + 1, n :: rest =>
    let (v, e1) := decode fuel (.text "string") n
    let (vs, e2) := decodeTexts fuel rest
    let s := match v with
      | some (.text s) => s
      | _ => ""
    (s :: vs, e1 ++ e2)

def decodeFields : Nat → String → List (String × Kind) → List (Node × Node) → List (String × Val) →
    List String → List (String × Val) × List String
  | 0, _, _, _, vals, _ => (vals, [])
  | _, _, _, [], vals, _ => (vals, [])
  | fuel + 1, t, fs, (key, value) :: rest, vals, done =>
    let name := match key with
      | .scalar v _ _ => v
      | _ => ""
    match fs.lookup name with
    | none =>
      let (vs, errs) := decodeFields fuel t fs rest vals done
      (vs, ("line " ++ toString (key.line + 1) ++ ": field " ++ name ++ " not found in type " ++ t) :: errs)
    | some k =>
      if done.contains name then
        let (vs, errs) := decodeFields fuel t fs rest vals done
        (vs, ("line " ++ toString (key.line + 1) ++ ": field " ++ name ++ " already set in type " ++ t) :: errs)
      else
        let (v, e1) := decode fuel k value
        let vals' := match v with
          | some x => vals.map fun (n', old) => if n' = name then (n', x) else (n', old)
          | none => vals
        let (vs, e2) := decodeFields fuel t fs rest vals' (name :: done)
        (vs, e1 ++ e2)
end

def decodeDoc (k : Kind) : Option Node → Except String Val
  | none => .ok k.zero
  | some n =>
    let (v, errs) := decode (4 * 1000000) k n
    if errs.isEmpty then .ok (v.getD k.zero)
    else .error ("yaml: unmarshal errors:\n  " ++ "\n  ".intercalate errs)

def Val.field (v : Val) (name : String) : Val :=
  match v with
  | .record fs => (fs.lookup name).getD (.text "")
  | _ => .text ""

def Val.str (v : Val) : String := match v with | .text s => s | _ => ""
def Val.natVal (v : Val) : Nat := match v with | .nat n => n | _ => 0
def Val.intVal (v : Val) : Int := match v with | .int i => i | _ => 0
def Val.flagVal (v : Val) : Bool := match v with | .flag b => b | _ => false
def Val.list (v : Val) : List String := match v with | .texts l => l | _ => []

end Erc4337.Yaml
