import Erc4337.Client.Report
import Erc4337.Json.Fields
/-!
The status report against a simulated host. The host `bundler.oracle` answers each path from a
table of canned replies (status 200, an empty body and a JSON media type unless given), and a
path it does not know with a plain-text not-found page; any other host cannot be reached.
-/
namespace Erc4337.Sim
open Client

def cannedReply (route : Json) : Reply :=
  { status := ((route.get? "status").bind Json.int?).getD 200 |>.toNat
    contentType := match route.get? "contentType" with
      | some (.str t) => t
      | _ => "application/json"
    body := Json.text route "body" }

def cannedFetch (host : String) (routes : Json) (path : String) : Except String Reply :=
  if host != "bundler.oracle" then
    .error ("Get \"http://" ++ host ++ path ++ "\": no route to host " ++ host)
  else
    match routes.get? path with
    | some route => .ok (cannedReply route)
    | none => .ok { status := 404, contentType := "text/plain; charset=utf-8", body := "404 page not found\n" }

def reportJson (r : String × Option String) : Json :=
  .obj ([("output", .str r.1)] ++
    match r.2 with
    | some e => [("error", .obj [("error", .str "Error"), ("message", .str e)])]
    | none => [])

def runStatus (req : Json) : Json :=
  let host := match req.get? "host" with
    | some (.str h) => h
    | _ => "bundler.oracle"
  let routes := (req.get? "routes").getD (.obj [])
  reportJson (Id.run (report fun path => pure (cannedFetch host routes path)))

end Erc4337.Sim
