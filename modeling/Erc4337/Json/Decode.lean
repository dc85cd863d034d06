import Erc4337.Json.Parse
import Erc4337.Eth.HexCodec
/-!
Reading documents into typed values. A value of the wrong kind is refused with the kind found
and the type wanted; a hex field refuses with its codec error, reported as a kind of value
that cannot be read unless it is the length error, which is reported as it is. Members are
matched to fields by exact name first and then without regard to case, where the long s and
the Kelvin sign count as `s` and `k`.
-/
namespace Erc4337.Json

inductive DecodeError where
  | malformed (e : SyntaxError)
  | mismatch (found : String) (target : String)
  | hex (e : HexError) (target : String)
  | other (message : String)
  deriving Inhabited

def DecodeError.message : DecodeError → String
  | .malformed e => e.message
  | .mismatch found target => "json: cannot unmarshal " ++ found ++ " into Go value of type " ++ target
  | .hex e target =>
    if e.isDecodeKind then "json: cannot unmarshal " ++ e.message ++ " into Go value of type " ++ target
    else e.message
  | .other m => m

def foldName (s : String) : String :=
  String.ofList <| s.toList.map fun c =>
    if 'a' ≤ c ∧ c ≤ 'z' then Char.ofNat (c.toNat - 32)
    else if c.toNat = 0x17f then 'S'
    else if c.toNat = 0x212a then 'K'
    else c

def matchField (fields : List String) (key : String) : Option String :=
  if fields.contains key then some key
  else fields.find? (fun f => foldName f == foldName key)

def hexString {α : Type} (target : String) (codec : String → Except HexError α) :
    Json → Except DecodeError α
  | .str s => (codec s).mapError (DecodeError.hex · target)
  | _ => .error (.mismatch "non-string" target)

def parseDoc (s : String) : Except DecodeError Json := (parse s).mapError .malformed

end Erc4337.Json
