import Erc4337.Json.Decode
/-!
Reading documents into fixed record types, member by member in document order, the last of a
repeated member winning and unknown members skipped.

Two kinds of failure differ in what they stop. A value that a field's own reader refuses (a
hex field given something that is not well-formed hex text) stops the reading at once. A value
of the wrong kind for a plain field (a number for a text, a fraction or a negative number for a
counter) leaves the field as it was; reading goes on, and the first such value is reported at
the end, with the record it stood in and the member names that lead to it. A null leaves a
plain field as it was.
-/
namespace Erc4337.Json

structure Place where
  record : String := ""
  members : List String := []

def Place.typeError (p : Place) (found type : String) : String :=
  if p.record.isEmpty && p.members.isEmpty then
    "json: cannot unmarshal " ++ found ++ " into Go value of type " ++ type
  else
    "json: cannot unmarshal " ++ found ++ " into Go struct field " ++ p.record ++ "." ++
      ".".intercalate p.members ++ " of type " ++ type

abbrev Typed := StateT (Option String) (Except String)

def remember (e : String) : Typed Unit := modify fun s => s.orElse fun _ => some e

def Typed.result {α : Type} (x : Typed α) : Except String α :=
  match x.run none with
  | .error e => .error e
  | .ok (a, none) => .ok a
  | .ok (_, some e) => .error e

def textAt (p : Place) (cur : String) : Json → Typed String
  | .str s => pure s
  | .null => pure cur
  | v => do
    remember (p.typeError v.kind "string")
    pure cur

def counterOf? (l : String) : Option Nat :=
  if !l.isEmpty && l.all Char.isDigit then
    let n := l.foldl (fun acc c => acc * 10 + (c.toNat - 48)) 0
    if n < 2 ^ 64 then some n else none
  else none

def counterAt (p : Place) (cur : Nat) : Json → Typed Nat
  | .num l =>
    match counterOf? l with
    | some n => pure n
    | none => do
      remember (p.typeError ("number " ++ l) "uint64")
      pure cur
  | .null => pure cur
  | v => do
    remember (p.typeError v.kind "uint64")
    pure cur

def fixedAt (type : String) (n : Nat) (v : Json) : Typed (List UInt8) :=
  match hexString type (HexCodec.fixed type n) v with
  | .ok bs => pure bs
  | .error e => throw e.message

def fieldsOf (fields : List String) (ms : List (String × Json)) : List (String × Json) :=
  ms.filterMap fun (k, v) => (matchField fields k).map (·, v)

def listAt {α : Type} (p : Place) (type : String) (item : Json → Typed α) (cur : List α) :
    Json → Typed (List α)
  | .arr vs => vs.mapM item
  | .null => pure []
  | v => do
    remember (p.typeError v.kind type)
    pure cur

def recordDoc {α : Type} (type : String) (fields : List String) (zero : α)
    (fill : α → String × Json → Typed α) (text : String) : Except String α :=
  match parse text with
  | .error e => .error e.message
  | .ok (.obj ms) => ((fieldsOf fields ms).foldlM fill zero).result
  | .ok .null => .ok zero
  | .ok v => (do remember (Place.typeError {} v.kind type); pure zero : Typed α).result

end Erc4337.Json
