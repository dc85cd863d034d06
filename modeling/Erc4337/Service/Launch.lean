import Erc4337.Config.Basic
import Erc4337.Node.Memory
import Erc4337.Text.Url
import Erc4337.Text.Utf8
/-!
Launching a bundler from its configuration file: the file is read and checked, the node named
by `eth_rpc_url` is dialled and asked for its chain id, and the service then runs until it is
told to stop. Only the first two stages can fail, each with its own prefix.

Dialling depends on the scheme of the URL: HTTP needs no connection until the first request, a
unix socket (no scheme) is connected at once, and any scheme without a transport is refused.
A request over HTTP reaches the node only when its host is one the network routes.
-/
namespace Erc4337.Service

inductive Endpoint where
  | http (host : String)
  | websocket (hostname : String)
  | socket (path : String)
  | stdio
  deriving Inhabited

def Endpoint.ofUrl (url : String) : Except String Endpoint := do
  let u ← Url.parse url
  match Utf8.decodeLossy u.scheme with
  | "http" | "https" => pure (.http (Utf8.decodeLossy u.host))
  | "ws" | "wss" => pure (.websocket (Utf8.decodeLossy u.hostname))
  | "stdio" => pure .stdio
  | "" => pure (.socket url)
  | other => throw ("no known transport for URL scheme " ++ Quote.quote other)

def Endpoint.connect : Endpoint → Except String Unit
  | .socket path => .error ("dial unix " ++ path ++ ": connect: no such file or directory")
  | .websocket host => .error ("dial tcp: lookup " ++ host ++ ": no such host")
  | _ => .ok ()

def chainIdAt (routes : String → Bool) (url : String) : Endpoint → Node.NodeM (Except Fault Int)
  | .http host =>
    if routes host then Node.chainId
    else pure (.error (.plain ("Post " ++ Quote.quote url ++ ": no route to host " ++ host)))
  | _ => pure (.error (.plain "EOF"))

def launch (routes : String → Bool) (path : String) (contents : Option String) :
    Node.NodeM (Except Fault Unit) := do
  match Config.load path contents with
  | .error f => return .error (f.wrap ("failed to parse config file " ++ path ++ ", make sure it exists and is valid yaml"))
  | .ok cfg =>
    let failed := fun (f : Fault) => Fault.wrap "cannot initialize bundler from config" f
    let url := cfg.ethRpcUrl
    match Endpoint.ofUrl url >>= fun e => e.connect.map fun _ => e with
    | .error e => return .error (failed (.plain ("cannot dial " ++ url ++ ": " ++ e)))
    | .ok endpoint =>
      match ← chainIdAt routes url endpoint with
      | .error e => return .error (failed (e.wrap "cannot get chain id"))
      | .ok _ => return .ok ()

end Erc4337.Service
