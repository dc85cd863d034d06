import Erc4337.Cli.Execute
/-!
The bundler's command line: `run` starts a bundler from its configuration file, `status` prints
a report of a running one, `repl` attaches to its console, and `version` prints the version.
Every command reads the configuration path; `status` and `repl` also take the address they
reach. `completion` groups the scripts that complete the command line in four shells, and
`help` and the hidden completion request are the built-in commands.
-/
namespace Erc4337.Cli

def programName : String := "ap-bundler"

def configFlag : Flag :=
  { name := "config", short := "c", usage := "Path to config file", default := "./config/bundler.yaml" }

def shells : List String := ["bash", "fish", "powershell", "zsh"]

def shellLong : String → String
  | "bash" =>
    "Generate the autocompletion script for the bash shell.\n\n" ++
    "This script depends on the \x27bash-completion\x27 package.\n" ++
    "If it is not installed already, you can install it via your OS\x27s package manager.\n\n" ++
    "To load completions in your current shell session:\n\n" ++
    "\tsource <(" ++ programName ++ " completion bash)\n\n" ++
    "To load completions for every new session, execute once:\n\n" ++
    "#### Linux:\n\n" ++
    "\t" ++ programName ++ " completion bash > /etc/bash_completion.d/" ++ programName ++ "\n\n" ++
    "#### macOS:\n\n" ++
    "\t" ++ programName ++ " completion bash > $(brew --prefix)/etc/bash_completion.d/" ++ programName ++ "\n\n" ++
    "You will need to start a new shell for this setup to take effect.\n"
  | "zsh" =>
    "Generate the autocompletion script for the zsh shell.\n\n" ++
    "If shell completion is not already enabled in your environment you will need\n" ++
    "to enable it.  You can execute the following once:\n\n" ++
    "\techo \"autoload -U compinit; compinit\" >> ~/.zshrc\n\n" ++
    "To load completions in your current shell session:\n\n" ++
    "\tsource <(" ++ programName ++ " completion zsh)\n\n" ++
    "To load completions for every new session, execute once:\n\n" ++
    "#### Linux:\n\n" ++
    "\t" ++ programName ++ " completion zsh > \"$\x7bfpath[1]\x7d/_" ++ programName ++ "\"\n\n" ++
    "#### macOS:\n\n" ++
    "\t" ++ programName ++ " completion zsh > $(brew --prefix)/share/zsh/site-functions/_" ++ programName ++ "\n\n" ++
    "You will need to start a new shell for this setup to take effect.\n"
  | "fish" =>
    "Generate the autocompletion script for the fish shell.\n\n" ++
    "To load completions in your current shell session:\n\n" ++
    "\t" ++ programName ++ " completion fish | source\n\n" ++
    "To load completions for every new session, execute once:\n\n" ++
    "\t" ++ programName ++ " completion fish > ~/.config/fish/completions/" ++ programName ++ ".fish\n\n" ++
    "You will need to start a new shell for this setup to take effect.\n"
  | _ =>
    "Generate the autocompletion script for powershell.\n\n" ++
    "To load completions in your current shell session:\n\n" ++
    "\t" ++ programName ++ " completion powershell | Out-String | Invoke-Expression\n\n" ++
    "To load completions for every new session, add the output of the above command\n" ++
    "to your powershell profile.\n"

def shellCommand (shell : String) : Command :=
  { path := ["completion", shell], use := shell, short := "Generate the autocompletion script for " ++ shell
    long := shellLong shell, runnable := true, arity := .none, flagsInUseLine := false, offer := .noFiles
    flags := [{ name := "no-descriptions", usage := "disable completion descriptions", switch := true, default := "false" }] }

def bundlerProgram : Program where
  root :=
    { path := [], use := programName, short := "AP ERC-4337 bundler"
      long := "AP bundler CLI to run and inspect an ERC-4337 bundler.\n\n" ++
        "Such as \"ap-bundler run\" or \"ap-bundler status\" and so on\n"
      persistent := [configFlag] }
  commands :=
    [{ path := ["repl"], use := "repl", short := "Attach to a running bundler console"
       long := "Connect stdin and stdout to the bundler\x27s unix socket console", runnable := true
       flags := [{ name := "socket", usage := "bundler console socket", default := "/tmp/ap-bundler.sock" }] },
     { path := ["run"], use := "run", short := "Run bundler", runnable := true
       long := "Initialize and run the bundler until interrupted.\n\n" ++
         "Use --config=path-to-your-config-file. default is=./config/bundler.yaml " },
     { path := ["status"], use := "status", short := "Display bundler status", runnable := true
       long := "Display status information about a running bundler through its HTTP API"
       flags := [{ name := "url", usage := "bundler HTTP address", default := "http://localhost:4338" }] },
     { path := ["version"], use := "version", short := "get version", long := "get version of the binary"
       runnable := true },
     { path := ["help"], use := "help [command]", short := "Help about any command", runnable := true
       long := "Help provides help for any command in the application.\n" ++
         "Simply type " ++ programName ++ " help [path to command] for full details."
       offer := .helpTopics },
     { path := ["completion"], use := "completion"
       short := "Generate the autocompletion script for the specified shell"
       long := "Generate the autocompletion script for " ++ programName ++ " for the specified shell.\n" ++
         "See each sub-command\x27s help for details on how to use the generated script.\n"
       arity := .none, offer := .noFiles },
     { path := [requestName], use := requestName ++ " [command-line]", aliases := ["__completeNoDesc"]
       short := "Request shell completion choices for the specified command-line"
       long := requestName ++ " is a special command that is used by the shell completion logic\n" ++
         "to request completion choices for the specified command-line."
       runnable := true, hidden := true, arity := .atLeast 1, flagsInUseLine := false, parsesFlags := false }] ++
    shells.map shellCommand

inductive Action where
  | launch (configPath : String)
  | report (url : String)
  | attach (socket : String)
  | version
  | script (shell : String) (descriptions : Bool)
  deriving Inhabited

def actionOf (c : Command) (parsed : Parsed) : Option Action :=
  match c.path with
  | ["run"] => some (.launch (parsed.value configFlag))
  | ["status"] => some (.report (((c.flags.find? (·.name == "url")).map parsed.value).getD ""))
  | ["repl"] => some (.attach (((c.flags.find? (·.name == "socket")).map parsed.value).getD ""))
  | ["version"] => some .version
  | ["completion", shell] =>
    some (.script shell (parseBool? (((c.flags.find? (·.name == "no-descriptions")).map parsed.value).getD "false") != some true))
  | _ => none

end Erc4337.Cli
