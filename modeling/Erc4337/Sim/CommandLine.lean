import Erc4337.Cli.Bundler
import Erc4337.Cli.Scripts
import Erc4337.Service.Lifecycle
import Erc4337.Json.Fields
/-!
The bundler's command line run on a list of arguments, reporting what it wrote to its two
streams and the error it returned. The commands that start a bundler, query one over the network
or attach to its console are refused unless help is asked for, since their bodies leave the
process; `version` prints the version and commit, and a shell's command prints its completion
script.
-/
namespace Erc4337.Sim
open Cli

def asksHelp (args : List String) : Bool :=
  args.any fun a => a == "-h" || a == "--help" || a == "help" || a.startsWith requestName

def runCommandLine (req : Json) : Except String Json := do
  let args ← (Json.items req "args").mapM fun a => match a with
    | .str s => pure s
    | _ => throw "args must be strings"
  if !asksHelp args then
    if let some a := args.find? (["run", "status", "repl"].contains ·) then
      throw ("command " ++ Quote.quote a ++ " leaves the process and is not run here")
  let o := bundlerProgram.execute args
  let out := match o.runs.bind fun (c, parsed) => actionOf c parsed with
    | some .version => o.out ++ Service.version ++ " (" ++ Service.commit ++ ")\n"
    | some (.script shell descriptions) => o.out ++ completionScript shell programName descriptions
    | _ => o.out
  pure (.obj ([("stdout", .str out), ("stderr", .str o.err)] ++ match o.error with
    | some e => [("error", (Fault.plain e).report)]
    | none => []))

end Erc4337.Sim
