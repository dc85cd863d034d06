import Erc4337.Text.Quote
/-!
A command-line program as a tree of commands. Each command has a usage line whose first word is
its name, a short and a long description, its own flags and the flags it passes down to every
command below it. A command either runs or only groups the commands below it.

The tree is kept as a flat list keyed by each command's path of names from the root, and the
commands below one command are listed in the order of their names. Every command also has a
`help` switch of its own, unless a flag of that name is already there.
-/
namespace Erc4337.Cli

structure Flag where
  name : String
  short : String := ""
  usage : String
  switch : Bool := false
  default : String := ""
  deriving Inhabited

def Flag.standalone (f : Flag) : String := if f.switch then "true" else ""

inductive Arity where
  | legacy
  | none
  | atLeast (n : Nat)
  deriving Inhabited, DecidableEq

inductive Offer where
  | nothing
  | noFiles
  | helpTopics
  deriving Inhabited, DecidableEq

structure Command where
  path : List String
  use : String
  short : String := ""
  long : String := ""
  runnable : Bool := false
  hidden : Bool := false
  aliases : List String := []
  arity : Arity := .legacy
  flagsInUseLine : Bool := true
  parsesFlags : Bool := true
  flags : List Flag := []
  persistent : List Flag := []
  offer : Offer := .nothing
  deriving Inhabited

def Command.name (c : Command) : String := (c.use.splitOn " ").headD ""

def Command.isHelp (c : Command) : Bool := c.path == ["help"]

structure Program where
  root : Command
  commands : List Command
  deriving Inhabited

namespace Program

def all (p : Program) : List Command := p.root :: p.commands

def children (p : Program) (c : Command) : List Command :=
  (p.commands.filter fun d => d.path.length == c.path.length + 1 && d.path.take c.path.length == c.path).mergeSort
    fun a b => decide (a.name ≤ b.name)

def commandPath (p : Program) (c : Command) : String := " ".intercalate (p.root.name :: c.path)

def ancestors (p : Program) (c : Command) : List Command :=
  (List.range c.path.length).reverse.filterMap fun n => p.all.find? (·.path == c.path.take n)

def helpFlag (c : Command) : Flag :=
  { name := "help", short := "h", switch := true, default := "false"
    usage := "help for " ++ (if c.name.isEmpty then "this command" else c.name) }

def distinct (fs : List Flag) : List Flag :=
  fs.foldl (fun acc f => if acc.any (·.name == f.name) then acc else acc ++ [f]) []

def byName (fs : List Flag) : List Flag := fs.mergeSort fun a b => decide (a.name ≤ b.name)

def localFlags (c : Command) : List Flag := distinct (c.flags ++ c.persistent ++ [helpFlag c])

def inheritedFlags (p : Program) (c : Command) : List Flag :=
  let own := localFlags c
  (distinct ((p.ancestors c).flatMap (·.persistent))).filter fun f => !own.any (·.name == f.name)

def flagsOf (p : Program) (c : Command) : List Flag := localFlags c ++ p.inheritedFlags c

def lookup (fs : List Flag) (name : String) : Option Flag := fs.find? (·.name == name)

def lookupShort (fs : List Flag) (b : UInt8) : Option Flag := fs.find? fun f => f.short.toUTF8.toList == [b]

def availableWithin (p : Program) : Nat → Command → Bool
  | 0, _ => false
  | fuel + 1, c => !c.hidden && !c.isHelp && (c.runnable || (p.children c).any (p.availableWithin fuel))

def available (p : Program) (c : Command) : Bool := p.availableWithin (p.commands.length + 1) c

def hasAvailableChildren (p : Program) (c : Command) : Bool := (p.children c).any p.available

end Program

end Erc4337.Cli
