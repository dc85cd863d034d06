import Erc4337.Log.Record
import Erc4337.Text.Printf
import Erc4337.Text.Ulid
import Erc4337.Json.Fields
/-!
A logging session: calls on a root logger and the loggers derived from it.

The root records, or discards everything. Leveled calls take a message and key/value tags;
their `f` forms fill a template with values and take no tags. Deriving a logger adds tags and
names the new logger by its index. A recording logger can list every record written through
it or its relatives and say whether one has a level and message; a discarding one cannot.

Values are texts, truth values, nil and numbers: a number written as an integer that fits in
64 bits is an integer, any other a binary64 number. Tags are kept as the values print.
-/
namespace Erc4337.Sim
open Printf

def recordJson (r : Log.Record) : Json :=
  .obj [("level", .str r.level.name), ("msg", .str (Ulid.mask r.msg)), ("kv", .arr (r.kv.map (.str ∘ Ulid.mask)))]

def int64Of? (l : String) : Option Int :=
  let (neg, ds) := match l.toList with
    | '-' :: rest => (true, rest)
    | cs => (false, cs)
  if ds.isEmpty || !ds.all Char.isDigit then none
  else
    let n : Int := ds.foldl (fun acc c => acc * 10 + (c.toNat - 48)) 0
    let n := if neg then -n else n
    if -(2 ^ 63) ≤ n ∧ n < 2 ^ 63 then some n else none

def argOf : Json → Except String Arg
  | .str s => .ok (.text s)
  | .bool b => .ok (.bool b)
  | .null => .ok .nil
  | .num l =>
    match int64Of? l with
    | some n => .ok (.int n)
    | none => .ok (.float (Float64.ofLiteral l))
  | _ => .error "log values must be strings, numbers, booleans or null"

def levelOfMethod : String → Option Log.Level
  | "Info" | "Infof" => some .info
  | "Debug" | "Debugf" => some .debug
  | "Warn" | "Warnf" => some .warn
  | "Error" | "Errorf" => some .error
  | "Fatal" | "Fatalf" => some .fatal
  | _ => none

structure LogSession where
  loggers : Array Log.Logger
  journal : Array Log.Record := #[]

def LogSession.call (s : LogSession) (c : Json) : Except String (Json × LogSession) := do
  let on := ((c.get? "on").bind Json.int?).getD 0
  let some logger := (if on < 0 then none else s.loggers[on.toNat]?)
    | throw ("no logger " ++ toString on)
  let kv ← (Json.items c "kv").mapM argOf
  let args ← (Json.items c "args").mapM argOf
  let method := Json.text c "method"
  match method, levelOfMethod method with
  | "With", _ =>
    let child := if logger.recording then logger.with (kv.map sprint) else logger
    return (.obj [("logger", Json.nat s.loggers.size)], { s with loggers := s.loggers.push child })
  | "Records", _ =>
    if !logger.recording then throw "Records needs a recorder"
    return (.arr (s.journal.toList.map recordJson), s)
  | "Has", _ =>
    if !logger.recording then throw "Has needs a recorder"
    let found := match Log.Level.ofName? (Json.text c "level") with
      | some level => Log.has s.journal level (Json.text c "msg")
      | none => false
    return (.bool found, s)
  | m, some level =>
    let journal := if m.endsWith "f" then
        logger.write s.journal level (sprintf (Json.text c "format") args) []
      else logger.write s.journal level (Json.text c "msg") (kv.map sprint)
    return (.null, { s with journal })
  | m, none => throw ("unknown logger method " ++ Quote.quote m)

def runLogging (req : Json) : Except String Json := do
  let root ← match Json.text req "kind" with
    | "" | "recorder" => pure Log.Logger.recorder
    | "noop" | "nil" => pure Log.Logger.discard
    | k => throw ("unknown logger kind " ++ Quote.quote k)
  let (answers, _) ← (Json.items req "calls").foldlM (fun (acc, s) c => do
    let (a, s) ← s.call c
    pure (acc.push a, s)) ((#[] : Array Json), ({ loggers := #[root] } : LogSession))
  return .arr answers.toList

end Erc4337.Sim
