import Erc4337.Cli.Command
import Erc4337.Text.Utf8
/-!
Reading flags from arguments, and the table of flags a usage text shows.

An argument that does not start with `-`, or is `-` alone, is kept as a positional argument;
`--` keeps everything after it. A long flag is `--name`, `--name=value` or `--name value`; a
switch needs no value. A short argument is a run of one-letter flags read from the left, where a
flag that needs a value takes the rest of the run (after an optional `=`) or the next argument.
A switch accepts the truth values Go's parser knows. The first failure stops the reading; asking
for help with an undefined `help` flag is a failure of its own.
-/
namespace Erc4337.Cli
open Program

inductive FlagError where
  | help
  | failed (message : String)
  deriving Inhabited

structure Parsed where
  set : List (String × String) := []
  args : List String := []
  dash : Option Nat := none
  deriving Inhabited

def Parsed.changed (p : Parsed) (name : String) : Bool := p.set.any (·.1 == name)

def Parsed.value (p : Parsed) (f : Flag) : String := (p.set.reverse.lookup f.name).getD f.default

def parseBool? : String → Option Bool
  | "1" | "t" | "T" | "TRUE" | "true" | "True" => some true
  | "0" | "f" | "F" | "FALSE" | "false" | "False" => some false
  | _ => none

def Flag.display (f : Flag) : String :=
  if f.short.isEmpty then "--" ++ f.name else "-" ++ f.short ++ ", --" ++ f.name

def assign (f : Flag) (value : String) (p : Parsed) : Except FlagError Parsed :=
  if f.switch && (parseBool? value).isNone then
    .error (.failed ("invalid argument " ++ Quote.quote value ++ " for " ++ Quote.quote f.display ++
      " flag: strconv.ParseBool: parsing " ++ Quote.quote value ++ ": invalid syntax"))
  else .ok { p with set := p.set ++ [(f.name, value)] }

def longFlag (fs : List Flag) (s : String) (rest : List String) (p : Parsed) :
    Except FlagError (List String × Parsed) := do
  let name := String.ofList (s.toList.drop 2)
  if name.isEmpty || name.startsWith "-" || name.startsWith "=" then
    throw (.failed ("bad flag syntax: " ++ s))
  let (key, given) := match name.splitOn "=" with
    | k :: v :: more => (k, some ("=".intercalate (v :: more)))
    | _ => (name, none)
  match lookup fs key with
  | none => if key == "help" then throw .help else throw (.failed ("unknown flag: --" ++ key))
  | some f =>
    match given with
    | some v => return (rest, ← assign f v p)
    | none =>
      if !f.standalone.isEmpty then return (rest, ← assign f f.standalone p)
      match rest with
      | v :: more => return (more, ← assign f v p)
      | [] => throw (.failed ("flag needs an argument: " ++ s))

def shortFlags (fs : List Flag) : List UInt8 → List String → Parsed → Except FlagError (List String × Parsed)
  | [], rest, p => .ok (rest, p)
  | c :: cs, rest, p => do
    if String.ofList ((c :: cs).map fun b => Char.ofNat b.toNat) |>.startsWith "test." then return (rest, p)
    let run := Utf8.decodeLossy (c :: cs)
    match lookupShort fs c with
    | none =>
      if c == 104 then throw .help
      throw (.failed ("unknown shorthand flag: " ++ Quote.quoteChar (Char.ofNat c.toNat) ++ " in -" ++ run))
    | some f =>
      match cs with
      | 61 :: v@(_ :: _) => return (rest, ← assign f (Utf8.decodeLossy v) p)
      | _ =>
        if !f.standalone.isEmpty then shortFlags fs cs rest (← assign f f.standalone p)
        else if !cs.isEmpty then return (rest, ← assign f (Utf8.decodeLossy cs) p)
        else match rest with
          | v :: more => return (more, ← assign f v p)
          | [] => throw (.failed ("flag needs an argument: " ++ Quote.quoteChar (Char.ofNat c.toNat) ++ " in -" ++ run))

def parseWithin (fs : List Flag) : Nat → List String → Parsed → Except FlagError Parsed
  | 0, _, p => .ok p
  | _ + 1, [], p => .ok p
  | fuel + 1, s :: rest, p =>
    match s.toList with
    | '-' :: '-' :: [] => .ok { p with dash := some p.args.length, args := p.args ++ rest }
    | '-' :: '-' :: _ => do
      let (rest, p) ← longFlag fs s rest p
      parseWithin fs fuel rest p
    | '-' :: _ :: _ => do
      let (rest, p) ← shortFlags fs (s.toUTF8.toList.drop 1) rest p
      parseWithin fs fuel rest p
    | _ => parseWithin fs fuel rest { p with args := p.args ++ [s] }

def parseFlags (fs : List Flag) (args : List String) : Except FlagError Parsed :=
  parseWithin fs args.length args {}

def spaces (n : Nat) : String := String.ofList (List.replicate n ' ')

def Flag.row (f : Flag) : String × String :=
  let head := if f.short.isEmpty then "      --" ++ f.name else "  -" ++ f.short ++ ", --" ++ f.name
  let head := if f.switch then head else head ++ " string"
  let dflt := if f.switch then (if f.default == "false" then "" else " (default " ++ f.default ++ ")")
    else if f.default.isEmpty then "" else " (default " ++ Quote.quote f.default ++ ")"
  (head, f.usage ++ dflt)

def flagTable (fs : List Flag) : String :=
  let rows := (byName fs).map Flag.row
  let width := rows.foldl (fun w (h, _) => max w (h.utf8ByteSize + 1)) 0
  String.join (rows.map fun (h, u) => h ++ " " ++ spaces (width - h.utf8ByteSize) ++ " " ++ u ++ "\n")

end Erc4337.Cli
