import Erc4337.Http.Message
import Erc4337.Json.Stream
import Erc4337.Json.Decode
import Erc4337.UserOp.Wire
import Erc4337.Text.Float64
/-!
Binding a request body to the value a handler wants: a user operation in wire form, or a list
of loosely typed objects.

An empty body binds nothing and leaves the value empty. A JSON body (a media type starting
with `application/json`) is read as a stream: its first document only, then decoded. A value of
the wrong kind is refused with the kind found, the type wanted and the byte offset where the
decoder stood: just past the opening bracket of an array or object, just past the end of any
other value. A form body binds no field of either target, but a non-empty form cannot fill a
list. A number in a list of objects that no binary64 value reaches is refused as a float, at
one past the character after it, unless an item of the wrong kind stands before it or holds it.
An XML body without an element ends the stream at once. Any other media type is
unsupported. Every failure is reported with its status code and, when it has one, the
underlying error.
-/
namespace Erc4337.Http

inductive BindError where
  | unsupportedMedia
  | stream (e : Json.StreamError)
  | mismatch (found : String) (target : String) (offset : Nat)
  | decode (e : Json.DecodeError)
  | form (message : String)
  deriving Inhabited

namespace BindError

def failed (m : String) : String := "code=400, message=" ++ m ++ ", internal=" ++ m

def typeError (found target : String) (offset : Nat) : String :=
  "code=400, message=Unmarshal type error: expected=" ++ target ++ ", got=" ++ found ++
    ", field=, offset=" ++ toString offset ++ ", internal=json: cannot unmarshal " ++ found ++
    " into Go value of type " ++ target

def message : BindError → String
  | .unsupportedMedia => "code=415, message=Unsupported Media Type"
  | .stream (.malformed e offset) =>
    "code=400, message=Syntax error: offset=" ++ toString offset ++ ", error=" ++ e.message ++
      ", internal=" ++ e.message
  | .stream e => failed e.message
  | .mismatch found target offset => typeError found target offset
  | .decode (.mismatch found target) => typeError found target 0
  | .decode (.hex e target) => if e.isDecodeKind then typeError e.message target 0 else failed e.message
  | .decode e => failed e.message
  | .form m => failed m

end BindError

inductive Media where
  | json
  | xml
  | form
  | multipart
  | other
  deriving DecidableEq

def mediaOf (contentType : String) : Media :=
  if contentType.startsWith "application/json" then .json
  else if contentType.startsWith "application/xml" || contentType.startsWith "text/xml" then .xml
  else if contentType.startsWith "application/x-www-form-urlencoded" then .form
  else if contentType.startsWith "multipart/form-data" then .multipart
  else .other

def baseType (contentType : String) : String :=
  ((contentType.splitOn ";").headD "").trimAscii.toString.toLower

def formValues (r : Request) (media : Media) : Except String (List (String × String)) := do
  if media = .multipart then
    let params := (r.contentType.splitOn ";").drop 1
    if !params.any (fun p => p.trimAscii.toString.toLower.startsWith "boundary=") then
      throw "no multipart boundary param in Content-Type"
    return (parseQuery r.rawQuery).1
  let (fromBody, bodyErr) :=
    if baseType r.contentType == "application/x-www-form-urlencoded" then parseQuery r.body else ([], none)
  let (fromQuery, queryErr) := parseQuery r.rawQuery
  match bodyErr.orElse fun _ => queryErr with
  | some e => throw e
  | none => return fromBody ++ fromQuery

def mismatchOffset (l : Json.Leading) : Nat :=
  match l.value with
  | .arr _ | .obj _ => l.start + 1
  | _ => l.stop

def bindWire (r : Request) : Except BindError Wire :=
  if r.body.isEmpty then .ok {}
  else
    match mediaOf r.contentType with
    | .json =>
      match Json.readFirst r.body with
      | .error e => .error (.stream e)
      | .ok l =>
        match l.value with
        | .obj _ | .null => (Wire.ofJson l.value).mapError .decode
        | v => .error (.mismatch v.kind "userop.Wire" (mismatchOffset l))
    | .xml => if r.body.contains '<' then .ok {} else .error (.stream .empty)
    | .form | .multipart =>
      match formValues r (mediaOf r.contentType) with
      | .error e => .error (.form e)
      | .ok _ => .ok {}
    | .other => .error .unsupportedMedia

def objectItem (l : Json.Leading) : Except BindError (List (String × Json)) :=
  match l.value with
  | .obj ms => .ok ms
  | .null => .ok []
  | v => .error (.mismatch v.kind "map[string]interface {}" (mismatchOffset l))

def numberChar (c : Char) : Bool :=
  ('0' ≤ c && c ≤ '9') || c = '.' || c = 'e' || c = 'E' || c = '+' || c = '-'

def firstOverflow (cs : List Char) : Option (String × Nat) :=
  go (cs.length + 1) 0 false cs
where
  go : Nat → Nat → Bool → List Char → Option (String × Nat)
    | 0, _, _, _ => none
    | _ + 1, _, _, [] => none
    | fuel + 1, pos, true, c :: rest =>
      if c = '\\' then
        match rest with
        | e :: more => go fuel (pos + 1 + e.utf8Size) true more
        | [] => none
      else go fuel (pos + c.utf8Size) (c ≠ '"') rest
    | fuel + 1, pos, false, c :: rest =>
      if c = '"' then go fuel (pos + 1) true rest
      else if c = '-' || ('0' ≤ c && c ≤ '9') then
        let lit := c :: rest.takeWhile numberChar
        match Float64.ofLiteral (String.ofList lit) with
        | .inf _ => some (String.ofList lit, pos)
        | _ => go fuel (pos + lit.length) false (rest.dropWhile numberChar)
      else go fuel (pos + c.utf8Size) false rest

def bindObjects (r : Request) : Except BindError (List (List (String × Json))) :=
  if r.body.isEmpty then .ok []
  else
    match mediaOf r.contentType with
    | .json =>
      match Json.readFirst r.body with
      | .error e => .error (.stream e)
      | .ok l =>
        match l.value with
        | .null => .ok []
        | .arr _ =>
          let items := Json.itemSpans (l.start + 1) ((Json.skipBlank r.body.toList).drop 1)
          let misfit := items.find? fun i => match i.value with
            | .obj _ | .null => false
            | _ => true
          match (firstOverflow r.body.toList).filter (·.2 < l.stop) with
          | some (lit, start) =>
            if misfit.all (start < ·.start) then
              .error (.mismatch ("number " ++ lit) "float64" (start + lit.length + 1))
            else items.mapM objectItem
          | none => items.mapM objectItem
        | v => .error (.mismatch v.kind "[]map[string]interface {}" (mismatchOffset l))
    | .xml => if r.body.contains '<' then .ok [] else .error (.stream .empty)
    | .form | .multipart =>
      match formValues r (mediaOf r.contentType) with
      | .error e => .error (.form e)
      | .ok [] => .ok []
      | .ok _ => .error (.form "binding element must be a struct")
    | .other => .error .unsupportedMedia

end Erc4337.Http
