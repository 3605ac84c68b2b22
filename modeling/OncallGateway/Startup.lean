import OncallGateway.Lib.Fallible
import OncallGateway.Lib.Layers
import OncallGateway.MigrationRuns
import OncallGateway.SchemaSnapshot

/-! # Starting the gateway

`run` reads its environment, opens the pool of connections, lets `Runner.Run` bring the schema
up to date and only then serves requests, until it is told to stop.  `Prepare` and `Open` close
the pool where they fail, and `run` closes it when it ends.

The calls are those on the pool, on the one connection that migrates, and on the server.
`Snapshot` is here the three queries that it makes, in the place of one call of the runner
(`migrationHandler`).  What the libraries make of texts is a parameter, of the errors of the
server only whether they are `http.ErrServerClosed` is looked at, and the logger is left out.
-/

namespace OncallGateway

/-! ## Configuration -/

/-- What `url.Parse` finds. -/
structure ParsedURL where
  scheme : ByteString
  host : ByteString
  rawQuery : ByteString

/-- Which servers a connection is accepted from: `ValidateConnect`. -/
inductive ValidateConnect where
  | anyServer
  | readWrite
deriving DecidableEq

/-- `pgxpool.Config`, with the text it was read from.  Durations are in nanoseconds. -/
structure PoolConfig where
  connString : ByteString
  connectTimeout : Int
  validateConnect : ValidateConnect
  dialTimeout : Option Int

/-- What the libraries make of texts; of an error only its presence is looked at. -/
structure StartupLibrary where
  trimSpace : ByteString → ByteString
  parseURL : ByteString → Except Unit ParsedURL
  parseQuery : ByteString → Except Unit (ByteString → Option (List ByteString))
  parseConfig : ByteString → Except Unit PoolConfig
  parseDuration : ByteString → Except Unit Int

/-- The kinds of error that a gateway may fail with before it serves. -/
inductive StartupErrorKind where
  | errConfigMissing
  | errConfigInvalid
  | errConnect
  | migration (kind : MigrationErrorKind)
deriving DecidableEq

/-- What `run` may return: a `*SafeError`, or an error of the server. -/
inductive GatewayError where
  | safe (kind : StartupErrorKind) (operation : String)
  | server (message : String)
deriving DecidableEq

def second : Int := 1000000000

/-- `DefaultConnectTimeout`. -/
def defaultConnectTimeout : Int := 5 * second

/-- `MaximumConnectTimeout`. -/
def maximumConnectTimeout : Int := 30 * second

/-- `DefaultStartupTimeout`. -/
def defaultStartupTimeout : Int := 120 * second

/-- `MaximumStartupTimeout`. -/
def maximumStartupTimeout : Int := 600 * second

/-- `requiredTargetSessionAttrs`. -/
def requiredTargetSessionAttrs : ByteString := .ascii "read-write"

/-- `requiredSSLMode`. -/
def requiredSSLMode : ByteString := .ascii "verify-full"

def errConfiguration : GatewayError := .safe .errConfigInvalid "configuration"

def errStartupTimeout : GatewayError := .safe .errConfigInvalid "startup timeout"

/-- `ParsePoolConfig`. -/
def parsePoolConfig (lib : StartupLibrary) (databaseURL : ByteString) :
    Except GatewayError PoolConfig := do
  .refuseIf (lib.trimSpace databaseURL = []) (.safe .errConfigMissing "configuration")
  let parsedURL ← (lib.parseURL databaseURL).relabel errConfiguration
  .refuseIf ((parsedURL.scheme ≠ .ascii "postgres" ∧ parsedURL.scheme ≠ .ascii "postgresql") ∨
    parsedURL.host = []) errConfiguration
  let query ← (lib.parseQuery parsedURL.rawQuery).relabel errConfiguration
  .refuseIf (∃ values ∈ query (.ascii "target_session_attrs"),
    values ≠ [requiredTargetSessionAttrs]) errConfiguration
  .refuseIf ((query (.ascii "sslmode")).getD [] ≠ [requiredSSLMode]) errConfiguration
  let config ← (lib.parseConfig databaseURL).relabel errConfiguration
  let config := { config with validateConnect := .readWrite }
  let config :=
    if config.connectTimeout = 0 then
      { config with
        connectTimeout := defaultConnectTimeout
        dialTimeout := some defaultConnectTimeout }
    else config
  .refuseIf (config.connectTimeout < 0 ∨ config.connectTimeout > maximumConnectTimeout)
    errConfiguration
  return config

/-- `ParseStartupTimeout`. -/
def parseStartupTimeout (lib : StartupLibrary) (value : ByteString) : Except GatewayError Int :=
  if lib.trimSpace value = [] then .ok defaultStartupTimeout
  else do
    let timeout ← (lib.parseDuration value).relabel errStartupTimeout
    .refuseIf (timeout ≤ 0 ∨ timeout > maximumStartupTimeout) errStartupTimeout
    return timeout

/-- What the gateway asks of the URL of its database: PostgreSQL, with the certificate of the
server verified, and no other target than a server that can be written to. -/
structure URLAdmitted (lib : StartupLibrary) (parsedURL : ParsedURL)
    (query : ByteString → Option (List ByteString)) : Prop where
  scheme : parsedURL.scheme = .ascii "postgres" ∨ parsedURL.scheme = .ascii "postgresql"
  host : parsedURL.host ≠ []
  parsed : lib.parseQuery parsedURL.rawQuery = .ok query
  sslmode : query (.ascii "sslmode") = some [requiredSSLMode]
  target : ∀ values, query (.ascii "target_session_attrs") = some values →
    values = [requiredTargetSessionAttrs]

/-- What it asks of a configuration that it opens a pool with. -/
structure PoolConfig.Admitted (lib : StartupLibrary) (config : PoolConfig) : Prop where
  url : ∃ databaseURL parsedURL query parsed, lib.parseURL databaseURL = .ok parsedURL ∧
    URLAdmitted lib parsedURL query ∧ lib.parseConfig databaseURL = .ok parsed ∧
    config.connString = parsed.connString
  readWrite : config.validateConnect = .readWrite
  timeout : 0 < config.connectTimeout ∧ config.connectTimeout ≤ maximumConnectTimeout

variable {lib : StartupLibrary}

/-- **A configuration that is accepted is admitted.** -/
theorem parsePoolConfig_admitted {databaseURL : ByteString} {config : PoolConfig}
    (h : parsePoolConfig lib databaseURL = .ok config) :
    config.Admitted lib := by
  simp only [parsePoolConfig, Except.bind_eq_ok, Except.refuseIf_eq_ok, Except.relabel_eq_ok,
    Except.pure_eq_ok, exists_const] at h
  obtain ⟨-, parsedURL, hparsedURL, haddress, query, hquery, htarget, hsslmode, parsed, hparsed,
    hbounds, hconfig⟩ := h
  have hadmitted : URLAdmitted lib parsedURL query := by
    rw [not_or, not_and_or, not_not, not_not] at haddress
    refine ⟨haddress.1, haddress.2, hquery, ?_, fun values hvalues => ?_⟩
    · rw [not_not] at hsslmode
      cases hmode : query (.ascii "sslmode") with
      | none => simp [hmode] at hsslmode
      | some values => exact congrArg some (by simpa [hmode] using hsslmode)
    · by_contra hne
      exact htarget ⟨values, hvalues, hne⟩
  have hdefault : 0 < defaultConnectTimeout := by decide
  rw [hconfig, not_or, not_lt, not_lt] at hbounds
  by_cases hzero : parsed.connectTimeout = 0
  · rw [if_pos hzero] at hconfig
    subst hconfig
    exact ⟨⟨databaseURL, parsedURL, query, parsed, hparsedURL, hadmitted, hparsed, rfl⟩, rfl,
      hdefault, hbounds.2⟩
  · rw [if_neg hzero] at hconfig
    subst hconfig
    exact ⟨⟨databaseURL, parsedURL, query, parsed, hparsedURL, hadmitted, hparsed, rfl⟩, rfl,
      lt_of_le_of_ne hbounds.1 (Ne.symm hzero), hbounds.2⟩

/-- The time for the start is bounded. -/
theorem parseStartupTimeout_bounded {value : ByteString} {timeout : Int}
    (h : parseStartupTimeout lib value = .ok timeout) :
    0 < timeout ∧ timeout ≤ maximumStartupTimeout := by
  have hdefault : 0 < defaultStartupTimeout ∧ defaultStartupTimeout ≤ maximumStartupTimeout := by
    decide
  unfold parseStartupTimeout at h
  split at h
  · cases h
    exact hdefault
  · simp only [Except.bind_eq_ok, Except.refuseIf_eq_ok, Except.relabel_eq_ok, Except.pure_eq_ok,
      exists_const] at h
    obtain ⟨_, -, hbounds, rfl⟩ := h
    rwa [not_or, not_le, not_lt] at hbounds

/-! ## The program -/

/-- The variables of the environment that are read. -/
inductive EnvironmentVariable where
  /-- `MS_ONCALL_GATEWAY_DATABASE_URL`. -/
  | databaseURL
  /-- `MS_ONCALL_GATEWAY_DATABASE_STARTUP_TIMEOUT`. -/
  | databaseStartupTimeout
  /-- `MS_ONCALL_GATEWAY_LISTEN_ADDR`. -/
  | listenAddr

/-- What the gateway calls. -/
inductive GatewayCall where
  /-- `context.WithTimeout` for the start. -/
  | startupContext (timeout : Int)
  | newPool (config : PoolConfig)
  | ping
  | closePool
  /-- The calls of the runner, except the snapshot. -/
  | session (call : MigrationCall)
  /-- The three queries of `Snapshot`. -/
  | tableExists
  | columns
  | records
  /-- `ListenAndServe`, in a goroutine of its own. -/
  | listen (address : ByteString)
  /-- The `select` of `serveHTTP`. -/
  | await
  | shutdown
  /-- The receive from `serverError` after the shutdown. -/
  | serverError

/-- What the `select` takes first: the end of the server, by `http.ErrServerClosed` or not, or
that of the context. -/
inductive Awaited where
  | server (closed : Bool)
  | done

/-- What they answer; of the shutdown, whether it has failed. -/
def GatewayCall.Answer (ν : Type) : GatewayCall → Type
  | .startupContext _ | .closePool | .listen _ => Unit
  | .newPool _ | .ping => Option (GoError ν)
  | .session call => call.Answer ν
  | .tableExists => Except (GoError ν) Bool
  | .columns => Except (GoError ν) (QueriedRows (GoError ν) ColumnRow)
  | .records => Except (GoError ν) (QueriedRows (GoError ν) AppliedMigration)
  | .await => Awaited
  | .shutdown | .serverError => Bool

abbrev GatewayProg (ν : Type) := Prog GatewayCall (GatewayCall.Answer ν)

/-- How a gateway ends. -/
inductive GatewayOutcome where
  | exited (err : Option GatewayError)
  | panicked
  | died
deriving DecidableEq

section
variable {ν : Type}

/-- `openWithFactory`. -/
def openPool (config : PoolConfig) : GatewayProg ν (Option GatewayError) := do
  match ← Prog.request (GatewayCall.newPool config) with
  | some _ => return some (.safe .errConnect "connection")
  | none =>
    match ← Prog.request GatewayCall.ping with
    | some _ =>
      let _ ← Prog.request GatewayCall.closePool
      return some (.safe .errConnect "connection")
    | none => return none

/-- `metadataColumnsComplete`. -/
def metadataColumnsComplete : GatewayProg ν (Except (GoError ν) Bool) := do
  match ← Prog.request GatewayCall.columns with
  | .error err => return .error err
  | .ok queried => return columnsComplete queried

/-- `Snapshot`. -/
def metadataSnapshot : GatewayProg ν (Except (GoError ν) MetadataSnapshot) := do
  match ← Prog.request GatewayCall.tableExists with
  | .error err => return .error err
  | .ok false => return .ok ⟨false, false, []⟩
  | .ok true =>
    match ← metadataColumnsComplete with
    | .error err => return .error err
    | .ok false => return .ok ⟨true, false, []⟩
    | .ok true =>
      match ← Prog.request GatewayCall.records with
      | .error err => return .error err
      | .ok queried => return snapshotRecords queried

/-- The calls of the runner, as the gateway carries them out. -/
def migrationHandler : (call : MigrationCall) → GatewayProg ν (call.Answer ν)
  | .snapshot => metadataSnapshot
  | call => Prog.request (GatewayCall.session call)

/-- The error of a run of the migrations, as that of the gateway. -/
def MigrationError.gatewayError (err : MigrationError) : GatewayError :=
  .safe (.migration err.kind) err.operation

/-- How `Prepare` ends: with a pool, with an error, or by a panic of the runner. -/
inductive Prepared where
  | ready
  | failed (err : GatewayError)
  | panicked

/-- `serveHTTP`. -/
def serveHTTP (address : ByteString) : GatewayProg ν (Option GatewayError) := do
  let _ ← Prog.request (GatewayCall.listen address)
  match ← Prog.request GatewayCall.await with
  | .server closed => return if closed then none else some (.server "http server failed")
  | .done =>
    let failed : Bool ← Prog.request GatewayCall.shutdown
    if failed then return some (.server "http server shutdown failed")
    else
      let closed : Bool ← Prog.request GatewayCall.serverError
      return if closed then none else some (.server "http server failed")

variable [ErrorGraph ν]

/-- `Prepare`. -/
def prepareDatabase (lib : StartupLibrary) (migrations : List Migration)
    (databaseURL : ByteString) : GatewayProg ν Prepared :=
  match parsePoolConfig lib databaseURL with
  | .error err => return .failed err
  | .ok config => do
    match ← openPool config with
    | some err => return .failed err
    | none =>
      match ← (runMigrations migrations).expand migrationHandler with
      | .returned none => return .ready
      | .returned (some err) =>
        let _ ← Prog.request GatewayCall.closePool
        return .failed err.gatewayError
      | _ => return .panicked

/-- `DefaultListenAddress`. -/
def defaultListenAddress : ByteString := .ascii "127.0.0.1:8080"

/-- `run`; the deferred close runs after the server. -/
def runGateway (lib : StartupLibrary) (migrations : List Migration)
    (getenv : EnvironmentVariable → ByteString) : GatewayProg ν GatewayOutcome :=
  match parseStartupTimeout lib (getenv .databaseStartupTimeout) with
  | .error err => return .exited (some err)
  | .ok timeout => do
    let _ ← Prog.request (GatewayCall.startupContext timeout)
    match ← prepareDatabase lib migrations (getenv .databaseURL) with
    | .failed err => return .exited (some err)
    | .panicked => return .panicked
    | .ready =>
      let address := if getenv .listenAddr = [] then defaultListenAddress else getenv .listenAddr
      let err ← serveHTTP address
      let _ ← Prog.request GatewayCall.closePool
      return .exited err

end

end OncallGateway
