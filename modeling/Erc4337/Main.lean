import Erc4337.Cli.Bundler
import Erc4337.Cli.Scripts
import Erc4337.Service.Launch
import Erc4337.Service.Lifecycle
import Erc4337.Client.Report
/-!
The `ap-bundler` executable: the command line read from the process arguments, its texts written
to the two standard streams, and an exit status of one when a command fails.

This build reaches no network: a launch fails when it asks the node for its chain id, the
status report fails at its first query, and the console cannot be attached.
-/
namespace Erc4337.Main
open Cli

def unreachable (url path : String) : Except String Client.Reply :=
  let host := match Url.parse url with
    | .ok u => Utf8.decodeLossy u.host
    | .error _ => ""
  .error ("Get " ++ Quote.quote (url ++ path) ++ ": no route to host " ++ host)

def perform (path : String → IO (Option String)) : Action → IO (String × String × Bool)
  | .version => return (Service.version ++ " (" ++ Service.commit ++ ")\n", "", false)
  | .launch config => do
    let contents ← path config
    let (r, _) := (Service.launch (fun _ => false) config contents).run {}
    match r with
    | .ok () => return ("", "", false)
    | .error f => return ("", "bundler exited: " ++ f.message ++ "\n", true)
  | .report url =>
    let (out, failure) := Id.run (Client.report fun p => pure (unreachable url p))
    match failure with
    | some e => return (out, "❌ " ++ e ++ "\n", true)
    | none => return (out, "", false)
  | .attach socket =>
    return ("", "❌ cannot connect to " ++ socket ++ ": dial unix " ++ socket ++
      ": connect: no such file or directory\n", true)
  | .script shell descriptions => return (Cli.completionScript shell Cli.programName descriptions, "", false)

def readConfig (path : String) : IO (Option String) := do
  try
    return some (← IO.FS.readFile path)
  catch _ =>
    return none

end Erc4337.Main

def main (args : List String) : IO UInt32 := do
  let o := Erc4337.Cli.bundlerProgram.execute args
  let stdout ← IO.getStdout
  let stderr ← IO.getStderr
  stdout.putStr o.out
  stderr.putStr o.err
  let (out, err, failed) ← match o.runs.bind fun (c, parsed) => Erc4337.Cli.actionOf c parsed with
    | some a => Erc4337.Main.perform Erc4337.Main.readConfig a
    | none => pure ("", "", false)
  stdout.putStr out
  stderr.putStr err
  stdout.flush
  return if o.error.isSome || failed then 1 else 0
