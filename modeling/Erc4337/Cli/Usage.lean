import Erc4337.Cli.Flags
/-!
The usage and help texts of a command.

The usage text has the usage line (for a command that runs) and the `[command]` line (for one
with commands below it to show); the aliases; the commands below it, each name padded to the
longest name among them and at least eleven columns; the flags the command defines; the flags
it inherits; and a pointer to the help of the commands below it. The help text is the long
description (or else the short one) without trailing blanks, then the usage text when the
command runs or has commands below it.
-/
namespace Erc4337.Cli
open Program

def trimEnd (s : String) : String := String.ofList (s.toList.reverse.dropWhile Char.isWhitespace).reverse

def rpad (s : String) (n : Nat) : String := s ++ spaces (n - s.length)

namespace Program

def useLine (p : Program) (c : Command) : String :=
  let line := match p.ancestors c with
    | parent :: _ => p.commandPath parent ++ " " ++ c.use
    | [] => c.use
  if c.flagsInUseLine && !(line.splitOn "[flags]").length > 1 then line ++ " [flags]" else line

def namePadding (p : Program) (parent : Command) : Nat :=
  max 11 ((p.children parent).foldl (fun w c => max w c.name.utf8ByteSize) 0)

def usage (p : Program) (c : Command) : String :=
  let subs := p.children c
  let shown := p.hasAvailableChildren c
  let own := localFlags c
  let inherited := p.inheritedFlags c
  "Usage:" ++
  (if c.runnable then "\n  " ++ p.useLine c else "") ++
  (if shown then "\n  " ++ p.commandPath c ++ " [command]" else "") ++
  (if c.aliases.isEmpty then "" else "\n\nAliases:\n  " ++ ", ".intercalate (c.name :: c.aliases)) ++
  (if shown then
    "\n\nAvailable Commands:" ++ String.join ((subs.filter fun s => p.available s || s.name == "help").map
      fun s => "\n  " ++ rpad s.name (p.namePadding c) ++ " " ++ s.short)
   else "") ++
  (if own.isEmpty then "" else "\n\nFlags:\n" ++ trimEnd (flagTable own)) ++
  (if inherited.isEmpty then "" else "\n\nGlobal Flags:\n" ++ trimEnd (flagTable inherited)) ++
  (if shown then "\n\nUse \"" ++ p.commandPath c ++ " [command] --help\" for more information about a command." else "") ++
  "\n"

def help (p : Program) (c : Command) : String :=
  let about := if c.long.isEmpty then c.short else c.long
  (if about.isEmpty then "" else trimEnd about ++ "\n\n") ++
  (if c.runnable || !(p.children c).isEmpty then p.usage c else "")

end Program

end Erc4337.Cli
