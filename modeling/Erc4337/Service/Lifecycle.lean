import Erc4337.Service.Admission
import Erc4337.Service.Inclusion
import Erc4337.Bundle.Submitter
import Erc4337.Text.Url
import Erc4337.Text.Duration
/-!
Starting and stopping the service, and the bodies of its periodic jobs.

Starting logs the version, sets up error reporting when a DSN is configured, schedules the
hourly reputation decay, schedules the auto-bundling job (which needs a positive interval; the
start fails otherwise), opens the console socket when a path is configured and the HTTP surface
when an address is, and marks the service running. Stopping marks it shut down, closes the
console, releases every bundle still waiting for a receipt and stops the decay.

The auto-bundling job sends a bundle when the pool is not empty, taking every pending entry
when the pool is overloaded, and tracks it; a failure is only logged. The uptime job adds ten
seconds to the uptime counter.
-/
namespace Erc4337.Service

def version : String := "0.1.0"

def commit : String := "unknown"

def dsnProblem (dsn : String) : Option String :=
  match Url.parse dsn with
  | .error e => some ("invalid url: " ++ e)
  | .ok u =>
    let http := Url.bytesOf "http"
    let https := Url.bytesOf "https"
    if u.scheme != http && u.scheme != https then some "invalid scheme"
    else if ((u.user.map (·.1)).getD []).isEmpty then some "empty username"
    else if u.hostname.isEmpty then some "empty host"
    else if !u.port.isEmpty && (u.port.foldl (fun acc c => acc * 10 + (c - 48).toNat) 0) ≥ 2 ^ 63 then
      some "invalid port"
    else if u.path.isEmpty || u.path == [47] then some "empty project id"
    else if ((u.path.drop 1).splitOn 47).getLast?.all (·.isEmpty) then some "empty project id"
    else none

section
variable {n : Type → Type} [Monad n] [MonadStateOf Service n]

def startDecay : n Unit := do
  if (← getThe Service).rep.running then return
  modifyRep fun r => { r with running := true }
  log .info "reputation decay scheduled" ["interval", Duration.format (3600 * Duration.second)]

def stopDecay : n Unit := modifyRep fun r => { r with running := false }

def startSentry : n Bool := do
  let cfg ← config
  if cfg.sentryDsn.isEmpty then
    log .info "sentry_dsn not set, Sentry integration is disabled." []
    return false
  match dsnProblem cfg.sentryDsn with
  | some e =>
    log .error ("Sentry initialization failed: [Sentry] DsnParseError: " ++ e) []
    return false
  | none =>
    log .info ("Sentry initialized for environment: " ++ cfg.environment) []
    return true

def intervalProblem (interval : Int) : Option String :=
  if interval = 0 then some "gocron: DurationJob: time interval is 0"
  else if interval < 0 then some "gocron: DurationJob: time interval must be greater than 0"
  else none

def start : n (Except Fault Unit) := do
  log .info ("Starting bundler " ++ version) []
  let sentryOn ← startSentry
  modifyThe Service fun s => { s with sentryOn }
  startDecay
  log .info "Starting auto bundler" []
  let cfg ← config
  if let some e := intervalProblem cfg.autoBundleInterval then
    return .error (.plain ("failed to schedule auto bundling: " ++ e))
  modifyThe Service fun s => { s with autoBundler := true }
  log .info "Starting repl" []
  if cfg.socketPath.isEmpty then
    log .warn "repl disabled" ["socket", cfg.socketPath, "err", "no socket_path configured"]
  else
    modifyThe Service fun s => { s with replOpen := true }
  log .info "Starting http server" []
  if cfg.httpBindAddress.isEmpty then
    log .info "HTTP server disabled: no http_bind_address configured" []
  else
    log .info "HTTP server listening" ["address", cfg.httpBindAddress]
    modifyThe Service fun s => { s with httpOpen := true }
  modifyThe Service fun s => { s with phase := .running }
  return .ok ()

def stop : n Unit := do
  modifyThe Service fun s => { s with phase := .shutdown, replOpen := false, httpOpen := false }
  abandonInflight
  stopDecay

def recordUptime : n Unit := metric (.uptime 10000)

end

section
variable {m : Type → Type} [Monad m]

def sendNextBundle (b : Backend m) (drainAll : Bool) : SvcE m Submission := do
  let sub ← Bundle.sendNext b drainAll
  if !sub.isEmpty then track sub
  return sub

def autoBundle (b : Backend m) : SvcM m Unit := do
  let pool := (← get).pool
  if pool.size == 0 then return
  match ← (sendNextBundle b pool.isOverloaded).run with
  | .error e => log .error "auto bundle failed" ["err", e.message]
  | .ok _ => pure ()

end

end Erc4337.Service
