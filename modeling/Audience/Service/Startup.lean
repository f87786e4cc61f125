import Audience.Http.Server
import Audience.Service.LogFilter
import Audience.Service.Settings

/-!
The start of the service from its environment. Each setting has a variable of its own; one that is unset or
cannot be read leaves the setting as it is. The service says what it starts with in log lines, which a filter
may hide, and in a banner.
-/

namespace Audience

/-- The values of the variables that are set. -/
abbrev Environment := String → Option String

namespace Environment

/-- The variables that are looked at. -/
def names : List String :=
  ["RUST_LOG", "SEGMENTO_HOST", "SEGMENTO_PORT", "SEGMENTO_PROJECT", "SEGMENTO_DATASET", "SEGMENTO_BQ_ENDPOINT",
    "SEGMENTO_BQ_TOKEN", "SEGMENTO_BQ_TIMEOUT_SECS", "SEGMENTO_CACHE_TTL_SECS", "SEGMENTO_CACHE_MAX_ENTRIES",
    "SEGMENTO_CACHE_SWEEP_SECS", "SEGMENTO_DEDUP_COLUMN", "SEGMENTO_TIEBREAK_COLUMN",
    "SEGMENTO_REMINDER_COMPANION", "SEGMENTO_DEFAULT_COMPANION"]

/-- The text of a variable. -/
def textD (env : Environment) (name default : String) : String := (env name).getD default

/-- The natural number of a variable, up to a limit. -/
def numberD (env : Environment) (name : String) (limit default : Nat) : Nat :=
  ((env name).bind fun s => (Reading.natural limit s.toList).toOption).getD default

/-- The number of 64 bits of a variable. -/
def wordD (env : Environment) (name : String) (default : UInt64) : UInt64 :=
  .ofNat (env.numberD name (UInt64.size - 1) default.toNat)

/-- The token that requests to the warehouse carry. A blank one counts as missing. -/
def token? (env : Environment) : Option String :=
  (env "SEGMENTO_BQ_TOKEN").filter fun t => Text.trim t != ""

/-- The remote warehouse. -/
def warehouse (env : Environment) : RemoteWarehouse :=
  let d : RemoteWarehouse := {}
  { project := env.textD "SEGMENTO_PROJECT" d.project
    dataset := env.textD "SEGMENTO_DATASET" d.dataset
    endpoint := env.textD "SEGMENTO_BQ_ENDPOINT" d.endpoint
    token := env.token?
    timeout := Settings.milliseconds (env.wordD "SEGMENTO_BQ_TIMEOUT_SECS" 30) }

/-- The names in the statements. -/
def templates (env : Environment) : QueryTemplates :=
  let d : QueryTemplates := {}
  { dedupColumn := env.textD "SEGMENTO_DEDUP_COLUMN" d.dedupColumn
    tiebreakColumn := env.textD "SEGMENTO_TIEBREAK_COLUMN" d.tiebreakColumn
    reminderCompanion := env.textD "SEGMENTO_REMINDER_COMPANION" d.reminderCompanion
    defaultCompanion := env.textD "SEGMENTO_DEFAULT_COMPANION" d.defaultCompanion }

/-- The settings of the service. -/
def settings (env : Environment) : Settings :=
  let d : Settings := {}
  { host := env.textD "SEGMENTO_HOST" d.host
    portNumber := .ofNat (env.numberD "SEGMENTO_PORT" (UInt16.size - 1) d.portNumber.toNat)
    warehouse := env.warehouse
    maxEntries := env.wordD "SEGMENTO_CACHE_MAX_ENTRIES" d.maxEntries
    timeToLive := env.wordD "SEGMENTO_CACHE_TTL_SECS" d.timeToLive
    sweepInterval := env.wordD "SEGMENTO_CACHE_SWEEP_SECS" d.sweepInterval
    templates := env.templates }

end Environment

namespace Startup

/-- The source of the log lines. -/
def source : String := "segmento"

/-- A log line. -/
structure LogLine where
  level : LogLevel
  message : String
deriving DecidableEq, Repr

/-- The line as it is shown, without its time. -/
def LogLine.text (l : LogLine) : String := l.level.name ++ " " ++ source ++ ": " ++ l.message

/-- The warning about requests without a token. -/
def tokenWarning (w : RemoteWarehouse) : List LogLine :=
  if w.token.isSome then []
  else [⟨.warn, "  SEGMENTO_BQ_TOKEN is not set; warehouse requests will be unauthenticated"⟩]

/-- The log lines that tell the settings. -/
def settingLines (s : Settings) : List LogLine :=
  [⟨.info, "Segmento configuration:"⟩,
    ⟨.info, s!"  Host: {s.host}:{s.portNumber}"⟩,
    ⟨.info, s!"  Warehouse: {s.warehouse.project}.{s.warehouse.dataset} via {s.warehouse.endpoint}"⟩] ++
  tokenWarning s.warehouse ++
  [⟨.info, s!"  Query cache: {s.maxEntries} entries, TTL {s.timeToLive} seconds"⟩,
    ⟨.info, s!"  Cache sweep interval: {s.sweepInterval} seconds"⟩,
    ⟨.info, "  Companion tables: " ++ s.templates.reminderCompanion ++ "_m0/" ++
      s.templates.reminderCompanion ++ "_m1 (reminders), " ++ s.templates.defaultCompanion ++ " (default)"⟩]

/-- The lines of the banner. -/
def banner : List String :=
  ["",
    "  ____                                  _",
    " / ___|  ___  __ _ _ __ ___   ___ _ __ | |_ ___",
    " \\___ \\ / _ \\/ _` | '_ ` _ \\ / _ \\ '_ \\| __/ _ \\",
    "  ___) |  __/ (_| | | | | | |  __/ | | | || (_) |",
    " |____/ \\___|\\__, |_| |_| |_|\\___|_| |_|\\__\\___/",
    "             |___/",
    "",
    " Filter-to-SQL Segments with Result Caching",
    " Version: " ++ Http.version,
    ""]

/-- What the service prints when it starts. -/
def output (env : Environment) : List String :=
  let limit := logLimit (env "RUST_LOG") source
  let shown := (settingLines env.settings).filter fun l => l.level.rank ≤ limit
  shown.map LogLine.text ++ banner

/-- The cause as it is shown when the program ends. -/
def shownCause : StartError → String
  | .settings (.zero setting) => "Zero(\"" ++ setting ++ "\")"
  | .address => "AddrParseError(Socket)"

/-- What the program prints at its end when the service does not start. -/
def failureText (e : StartError) : String := "Error: " ++ shownCause e

end Startup

end Audience
