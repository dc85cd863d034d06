import Erc4337.Cli.Usage
import Erc4337.Text.Blank
import Erc4337.Text.Printf
/-!
Running a command line against a program.

The command is found first: the arguments that are not flags (nor values of flags that take
one) name commands from the root down, as far as they match. At the root, a leftover argument is
an unknown command, reported with the commands whose names are close to it (an edit distance of
at most two, ignoring case) or start with it. The command then reads its flags; a failure is
reported with its usage text. Help is shown when asked for and for a command that does not run;
otherwise the command checks its arguments and runs.

Two commands are built in. `help` shows the help of the command its arguments name. The hidden
completion request lists what may follow a partial command line: flag names when the last word
starts with `-`, otherwise the commands below the command named so far, then a directive line.
It exists only while it is the command being run.
-/
namespace Erc4337.Cli
open Program

def takesNext (fs : List Flag) (s : String) : Bool :=
  let plain := !s.contains '='
  let needs := fun (f : Option Flag) => match f with
    | some f => f.standalone.isEmpty
    | none => true
  (s.startsWith "--" && plain && needs (lookup fs (String.ofList (s.toList.drop 2)))) ||
  (s.startsWith "-" && plain && s.utf8ByteSize == 2 &&
    needs ((s.toUTF8.toList.drop 1).head?.bind (lookupShort fs)))

def stripFlags (fs : List Flag) : List String → List String
  | [] => []
  | s :: rest =>
    if s == "--" then []
    else if takesNext fs s then
      match rest with
      | _ :: more => if more.isEmpty then [] else stripFlags fs more
      | [] => []
    else if s != "" && !s.startsWith "-" then s :: stripFlags fs rest
    else stripFlags fs rest

def dropFirst (fs : List Flag) (x : String) : List String → List String
  | [] => []
  | s :: rest =>
    if s == "--" then s :: rest
    else if takesNext fs s then
      match rest with
      | v :: more => s :: v :: dropFirst fs x more
      | [] => [s]
    else if !s.startsWith "-" && s == x then rest
    else s :: dropFirst fs x rest

def distance (s t : List UInt8) : Nat :=
  let first := List.range (t.length + 1)
  let last := s.zipIdx.foldl (fun (prev : List Nat) (a, i) =>
    let row := (t.zip (prev.zip (prev.drop 1))).foldl (fun (row : List Nat) (b, diag, up) =>
      let left := row.getLastD 0
      row ++ [if a == b then diag else min (min up left) diag + 1]) [i + 1]
    row) first
  last.getLastD 0

def lowerBytes (s : String) : List UInt8 := s.toLower.toUTF8.toList

def Program.suggestionsFor (p : Program) (typed : String) : List String :=
  ((p.children p.root).filter p.available).filterMap fun c =>
    if distance (lowerBytes typed) (lowerBytes c.name) ≤ 2 || c.name.toLower.startsWith typed.toLower then some c.name
    else none

def Program.suggestionText (p : Program) (typed : String) : String :=
  match p.suggestionsFor typed with
  | [] => ""
  | ss => "\n\nDid you mean this?\n" ++ String.join (ss.map fun s => "\t" ++ s ++ "\n")

structure Found where
  command : Command
  args : List String
  calledAs : String := ""
  error : Option String := none
  deriving Inhabited

def Program.findNext (p : Program) (c : Command) (next : String) : Option Command :=
  (p.children c).find? fun d => d.name == next || d.aliases.contains next

def Program.descend (p : Program) : Nat → Command → String → List String → Found
  | 0, c, called, args => { command := c, args, calledAs := called }
  | fuel + 1, c, called, args =>
    let fs := p.flagsOf c
    match stripFlags fs args with
    | [] => { command := c, args, calledAs := called }
    | next :: _ =>
      match p.findNext c next with
      | some d => p.descend fuel d next (dropFirst fs next args)
      | none => { command := c, args, calledAs := called }

def Program.find (p : Program) (args : List String) : Found :=
  let found := p.descend (p.commands.length + 1) p.root "" args
  let c := found.command
  let left := stripFlags (p.flagsOf c) found.args
  match c.arity, left with
  | .legacy, typed :: _ =>
    if c.path.isEmpty && !(p.children c).isEmpty then
      { found with error := some ("unknown command " ++ Quote.quote typed ++ " for " ++
          Quote.quote (p.commandPath c) ++ p.suggestionText typed) }
    else found
  | _, _ => found

def requestName : String := "__complete"

def Program.isRequest (c : Command) : Bool := c.path == [requestName]

def Program.forArgs (p : Program) (args : List String) : Program :=
  let found := p.find args
  if found.error.isNone && Program.isRequest found.command then p
  else { p with commands := p.commands.filter fun c => !Program.isRequest c }

def directiveName (d : Nat) : String :=
  let names := [(1, "ShellCompDirectiveError"), (2, "ShellCompDirectiveNoSpace"), (4, "ShellCompDirectiveNoFileComp"),
    (8, "ShellCompDirectiveFilterFileExt"), (16, "ShellCompDirectiveFilterDirs"), (32, "ShellCompDirectiveKeepOrder")]
  if d ≥ 64 then "ERROR: unexpected ShellCompDirective value: " ++ toString d
  else match names.filter fun (bit, _) => d / bit % 2 == 1 with
    | [] => "ShellCompDirectiveDefault"
    | on => ", ".intercalate (on.map (·.2))

def isFlagArg (a : String) : Bool :=
  let b := a.toUTF8.toList
  (b.length ≥ 3 && b[1]? == some 45) || (b.length ≥ 2 && b[0]? == some 45 && b[1]? != some 45)

def Program.findFlag (p : Program) (c : Command) (name : List UInt8) : Option Flag :=
  let fs := p.flagsOf c
  match name with
  | [b] => lookupShort fs b
  | _ => lookup fs (Utf8.decodeLossy name)

def equalsAt (b : List UInt8) : Option Nat := b.idxOf? 61

structure Target where
  flag : Option Flag := none
  args : List String
  word : String
  unknown : Bool := false

def Program.flagTarget (p : Program) (c : Command) (args : List String) (last : String) : Target :=
  let lb := last.toUTF8.toList
  if !c.parsesFlags then { args, word := last } else
  let (name, word, equals) : List UInt8 × String × Bool :=
    if lb.head? == some 45 then
      match equalsAt lb with
      | some i =>
        let name := if (lb.take i).take 2 == [45, 45] then (lb.take i).drop 2 else (lb.take i).drop (i - 1)
        (name, Utf8.decodeLossy (lb.drop (i + 1)), true)
      | none => ([], last, false)
    else ([], last, false)
  if lb.head? == some 45 && !equals then { args, word := last }
  else
    let (name, trimmed) : List UInt8 × List String :=
      if !name.isEmpty then (name, args)
      else match args.getLast? with
        | some prev =>
          let pb := prev.toUTF8.toList
          if isFlagArg prev && (equalsAt pb).isNone then
            ((if pb.take 2 == [45, 45] then pb.drop 2 else pb.drop (pb.length - 1)), args.dropLast)
          else ([], args)
        | none => ([], args)
    if name.isEmpty then { args := trimmed, word }
    else match p.findFlag c name with
      | none => { args, word := last, unknown := true }
      | some f =>
        if !equals && !f.standalone.isEmpty then { args, word }
        else { flag := some f, args := trimmed, word }

def Program.completions (p : Program) (words : List String) : List String × Nat :=
  let last := words.getLastD ""
  let found := p.find words.dropLast
  if found.error.isSome then ([], 0)
  else
    let c := found.command
    let fs := p.flagsOf c
    let t := p.flagTarget c found.args last
    let parsedArgs := if c.parsesFlags then parseFlags fs t.args else .ok { args := t.args }
    match parsedArgs with
    | .error _ => ([], 0)
    | .ok parsed =>
      let withDash := if !c.parsesFlags then t.args.length else match parseFlags fs (t.args ++ ["--"]) with
        | .ok q => q.args.length
        | .error _ => 0
      let flagCompletion := !(withDash > parsed.args.length)
      if t.unknown && flagCompletion then ([], 0)
      else if parsed.changed "help" then ([], 4)
      else
        let flag := if t.unknown then none else t.flag
        let toComplete := if t.unknown then last else t.word
        let finalArgs := parsed.args
        if flag.isNone && toComplete.startsWith "-" && !toComplete.contains '=' && flagCompletion then
          let offer := fun (f : Flag) =>
            if parsed.changed f.name then []
            else (if ("--" ++ f.name).startsWith toComplete then ["--" ++ f.name ++ "\t" ++ f.usage] else []) ++
              (if !f.short.isEmpty && ("-" ++ f.short).startsWith toComplete then ["-" ++ f.short ++ "\t" ++ f.usage] else [])
          let names := (byName (p.inheritedFlags c)).flatMap offer ++ (byName (localFlags c)).flatMap offer
          (names, if names.length == 1 && (names.headD "").endsWith "=" then 2 else 4)
        else
          let below := fun (cmd : Command) (word : String) =>
            ((p.children cmd).filter fun s => p.available s || (cmd.path.isEmpty && s.isHelp)).filterMap fun s =>
              if s.name.startsWith word then some (s.name ++ "\t" ++ s.short) else none
          let (subs, directive) :=
            if flag.isNone then
              let ownChanged := (c.flags ++ [helpFlag c]).any fun f => parsed.changed f.name
              if finalArgs.isEmpty && !ownChanged then
                let listed := (p.children c).filter fun s => p.available s || (c.path.isEmpty && s.isHelp)
                (below c toComplete, if listed.isEmpty then 0 else 4)
              else ([], 0)
            else ([], 0)
          if flag.isSome && flagCompletion then (subs, directive)
          else match c.offer with
            | .nothing => (subs, directive)
            | .noFiles => (subs, 4)
            | .helpTopics =>
              let target := p.find finalArgs
              if target.error.isSome then (subs, 4) else (subs ++ below target.command toComplete, 4)

def Program.completionText (p : Program) (descriptions : Bool) (words : List String) : String × String :=
  let (comps, directive) := p.completions words
  let lines := comps.map fun comp =>
    let comp := if descriptions then comp else (comp.splitOn "\t").headD ""
    Blank.trim ((comp.splitOn "\n").headD "") ++ "\n"
  (String.join lines ++ ":" ++ toString directive ++ "\n",
    "Completion ended with directive: " ++ directiveName directive ++ "\n")

structure Outcome where
  out : String := ""
  err : String := ""
  error : Option String := none
  runs : Option (Command × Parsed) := none
  deriving Inhabited

def topicList (args : List String) : String :=
  "[" ++ " ".intercalate (args.map fun a => if Printf.canBackquote a then "\x60" ++ a ++ "\x60" else Quote.quote a) ++ "]"

def Program.failure (p : Program) (c : Command) (message : String) : Outcome :=
  { err := "Error: " ++ message ++ "\n", out := p.usage c ++ "\n", error := some message }

def checkArity (p : Program) (c : Command) (args : List String) : Option String :=
  match c.arity, args with
  | .none, a :: _ => some ("unknown command " ++ Quote.quote a ++ " for " ++ Quote.quote (p.commandPath c))
  | .atLeast n, _ =>
    if args.length < n then some ("requires at least " ++ toString n ++ " arg(s), only received " ++ toString args.length)
    else none
  | _, _ => none

def Program.runFound (p : Program) (found : Found) : Outcome :=
  let c := found.command
  if !c.parsesFlags then
    match checkArity p c found.args with
    | some e => p.failure c e
    | none =>
      if Program.isRequest c then
        let (out, err) := p.completionText (found.calledAs == requestName) found.args
        { out, err }
      else { runs := some (c, { args := found.args }) }
  else
    match parseFlags (p.flagsOf c) found.args with
    | .error .help => { out := p.help c }
    | .error (.failed m) => p.failure c m
    | .ok parsed =>
      if parseBool? (parsed.value (helpFlag c)) == some true || !c.runnable then { out := p.help c }
      else match checkArity p c parsed.args with
        | some e => p.failure c e
        | none =>
          if c.isHelp then
            let target := p.find parsed.args
            if target.error.isSome then
              { out := "Unknown help topic " ++ topicList parsed.args ++ "\n" ++ p.usage p.root }
            else { out := p.help target.command }
          else { runs := some (c, parsed) }

def Program.execute (p : Program) (args : List String) : Outcome :=
  let p := p.forArgs args
  let found := p.find args
  match found.error with
  | some e =>
    { err := "Error: " ++ e ++ "\nRun \x27" ++ p.commandPath found.command ++ " --help\x27 for usage.\n", error := some e }
  | none => p.runFound found

end Erc4337.Cli
