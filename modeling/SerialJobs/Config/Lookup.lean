import SerialJobs.Config
import SerialJobs.Text.Blank

/-!
# Configuration from named settings

Five settings, asked for one after the other. A setting that is absent or blank keeps the default.
The first setting that is no number within its bound ends the reading, and names itself in the
error; a configuration whose five settings are numbers must also be without fault.
-/

namespace SerialJobs
namespace Config

/-- A setting that a configuration may be given by. -/
inductive Setting
  | pollIntervalMillis
  | heartbeatSeconds
  /-- The job timeout in seconds; zero means none. -/
  | jobTimeoutSeconds
  | statusErrorLimit
  | shutdownTimeoutSeconds
deriving DecidableEq, Repr

namespace Setting

/-- The name under which a setting is looked up. -/
def key : Setting → String
  | pollIntervalMillis => "SCAN_MANAGER_POLL_INTERVAL_MS"
  | heartbeatSeconds => "SCAN_MANAGER_HEARTBEAT_SECS"
  | jobTimeoutSeconds => "SCAN_MANAGER_JOB_TIMEOUT_SECS"
  | statusErrorLimit => "SCAN_MANAGER_STATUS_ERROR_LIMIT"
  | shutdownTimeoutSeconds => "SCAN_MANAGER_SHUTDOWN_TIMEOUT_SECS"

/-- The settings in the order in which they are asked for. -/
def order : List Setting :=
  [pollIntervalMillis, heartbeatSeconds, jobTimeoutSeconds, statusErrorLimit,
    shutdownTimeoutSeconds]

/-- The greatest number that a setting may have. -/
def bound : Setting → Nat
  | statusErrorLimit => UInt32.size - 1
  | _ => UInt64.size - 1

/-- A configuration with one setting changed to a number. -/
def apply (c : Config) (n : Nat) : Setting → Config
  | pollIntervalMillis => { c with pollInterval := .ofMillis (UInt64.ofNat n) }
  | heartbeatSeconds => { c with heartbeatInterval := .ofSeconds (UInt64.ofNat n) }
  | jobTimeoutSeconds =>
    { c with jobTimeout := if n = 0 then none else some (.ofSeconds (UInt64.ofNat n)) }
  | statusErrorLimit => { c with statusErrorLimit := UInt32.ofNat n }
  | shutdownTimeoutSeconds => { c with shutdownTimeout := .ofSeconds (UInt64.ofNat n) }

/-- The number in the text of a setting; `none` for a blank text. -/
def read (s : Setting) (raw : String) : Except Text.NumeralError (Option Nat) :=
  match Text.trim raw.toList with
  | [] => .ok none
  | cs => (Text.readNumber s.bound cs).map some

/-- The error of a setting whose text is no number. -/
def refusal (s : Setting) (raw : String) (e : Text.NumeralError) : ManagerError :=
  .configuration ("invalid value '" ++ raw ++ "' for " ++ s.key ++ ": " ++ e.message)

end Setting

/-- Reads the given settings into a configuration. The keys asked for come with the result. -/
def readSettings (lookup : String → Option String) :
    List Setting → Config → List String × Except ManagerError Config
  | [], c => ([], .ok c)
  | s :: ss, c =>
    match lookup s.key with
    | none =>
      let (asked, result) := readSettings lookup ss c
      (s.key :: asked, result)
    | some raw =>
      match s.read raw with
      | .ok none =>
        let (asked, result) := readSettings lookup ss c
        (s.key :: asked, result)
      | .ok (some n) =>
        let (asked, result) := readSettings lookup ss (s.apply c n)
        (s.key :: asked, result)
      | .error e => ([s.key], .error (s.refusal raw e))

/-- The configuration that a lookup gives, with the keys that were asked for. -/
def fromLookup (lookup : String → Option String) : List String × Except ManagerError Config :=
  let (asked, result) := readSettings lookup Setting.order {}
  (asked, do
    let c ← result
    c.validate
    .ok c)

end Config
end SerialJobs
