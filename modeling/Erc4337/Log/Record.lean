import Erc4337.Arith
/-!
Log records. A record has a level, a message and key/value tags already printed as text. A
recording logger keeps its tags and writes into a journal it shares with the loggers derived
from it, each derived logger putting its own tags before those of the call. A discarding logger
keeps nothing.
-/
namespace Erc4337.Log

inductive Level where
  | debug
  | info
  | warn
  | error
  | fatal
  deriving DecidableEq, Inhabited

def Level.name : Level → String
  | .debug => "debug"
  | .info => "info"
  | .warn => "warn"
  | .error => "error"
  | .fatal => "fatal"

def Level.ofName? : String → Option Level
  | "debug" => some .debug
  | "info" => some .info
  | "warn" => some .warn
  | "error" => some .error
  | "fatal" => some .fatal
  | _ => none

structure Record where
  level : Level
  msg : String
  kv : List String := []
  deriving Inhabited

structure Logger where
  recording : Bool
  tags : List String := []
  deriving Inhabited

def Logger.discard : Logger := { recording := false }

def Logger.recorder : Logger := { recording := true }

def Logger.with (l : Logger) (kv : List String) : Logger := { l with tags := l.tags ++ kv }

def Logger.write (l : Logger) (journal : Array Record) (level : Level) (msg : String) (kv : List String) :
    Array Record :=
  if l.recording then journal.push { level, msg, kv := l.tags ++ kv } else journal

def has (journal : Array Record) (level : Level) (msg : String) : Bool :=
  journal.any fun r => r.level = level && r.msg == msg

theorem discardWritesNothing (journal : Array Record) (level : Level) (msg : String) (kv : List String) :
    Logger.discard.write journal level msg kv = journal := rfl

end Erc4337.Log
