import Erc4337.Json.Value
import Erc4337.Text.Url
import Erc4337.Text.Utf8
/-!
Requests to and responses from the service's HTTP surface.

A request names its method, its target (a path, then `?` and a query if it has one), its body
and the media type of the body. A query is a list of `key=value` pairs joined by `&`, each side
percent-escaped with `+` for a blank; a pair holding `;` or a bad escape is skipped, and the
first such problem is remembered. A response is a status and a body that is either a JSON
document or plain text.
-/
namespace Erc4337.Http

structure Request where
  method : String
  target : String
  body : String := ""
  contentType : String := ""
  deriving Inhabited

inductive Body where
  | json (j : Json)
  | text (s : String)
  deriving Inhabited

structure Response where
  status : Nat
  body : Body
  deriving Inhabited

def Body.render : Body → String
  | .json j => j.compact ++ "\n"
  | .text s => s

namespace Request

def path (r : Request) : String := (r.target.splitOn "?").headD ""

def rawQuery (r : Request) : String := "?".intercalate ((r.target.splitOn "?").drop 1)

end Request

def unescapeComponent (s : String) : Except String String :=
  (Url.unescape .queryComponent (Url.bytesOf s)).map Utf8.decodeLossy

def parseQuery (q : String) : List (String × String) × Option String :=
  (q.splitOn "&").foldl (fun (acc, err) part =>
    if part.isEmpty then (acc, err)
    else if part.contains ';' then (acc, err.orElse fun _ => some "invalid semicolon separator in query")
    else
      let (k, v) := match part.splitOn "=" with
        | k :: rest => (k, "=".intercalate rest)
        | [] => ("", "")
      match unescapeComponent k, unescapeComponent v with
      | .ok k, .ok v => (acc ++ [(k, v)], err)
      | .error e, _ => (acc, err.orElse fun _ => some e)
      | _, .error e => (acc, err.orElse fun _ => some e)) ([], none)

def Request.queryParam (r : Request) (name : String) : String :=
  (((parseQuery r.rawQuery).1.find? (·.1 == name)).map (·.2)).getD ""

def parseBool? (s : String) : Option Bool :=
  if ["1", "t", "T", "TRUE", "true", "True"].contains s then some true
  else if ["0", "f", "F", "FALSE", "false", "False"].contains s then some false
  else none

end Erc4337.Http
