import RemoteSigner.Http.Address
import RemoteSigner.Keys.Loader
import RemoteSigner.Keys.Proxy
import RemoteSigner.Protection.Pruning

/-!
# Settings

Every setting has a default, so that an empty document is a whole
configuration. Values that cannot go together are found before anything
starts; the first fault in a fixed order is told.
-/

namespace RemoteSigner

/-- Settings of the interface. -/
structure ServerSettings where
  listen : ListenAddress := .loopback 9000
deriving DecidableEq, Repr

/-- Settings of the loading of keys. -/
structure KeySettings where
  directory : FilePath := "keys"
  ext : String := "toml"
  parallelism : Option Nat := none
  minBatchSize : Nat := 20
  decodeTimeoutSeconds : Nat := 30
  proxyDirectory : Option FilePath := none
  proxyPasswordFile : Option FilePath := none
deriving DecidableEq, Repr

/-- Settings of the network. -/
structure NetworkSettings where
  genesisForkVersion : Version := .zero 4
  slotsPerEpoch : UInt64 := 32
deriving DecidableEq

/-- Settings of slashing protection. -/
structure ProtectionSettings where
  enabled : Bool := true
  database : FilePath := "slashing-protection.db"
  poolSize : Nat := 4
  statementTimeoutMillis : Nat := 5000
  pruningEnabled : Bool := false
  pruningAtBoot : Bool := true
  pruningIntervalSeconds : Nat := 86400
  pruningEpochsToKeep : UInt64 := 10000
deriving DecidableEq, Repr

/-- All settings. -/
structure Settings where
  server : ServerSettings := {}
  keys : KeySettings := {}
  network : NetworkSettings := {}
  protection : ProtectionSettings := {}
  keyManagerEnabled : Bool := false
deriving DecidableEq

/-- Why settings cannot be had or used. -/
inductive SettingsError where
  | unreadable (path : FilePath) (error : FileError)
  | malformed (path : FilePath) (detail : String)
  | variable (name detail : String)
  | invalid (detail : String)
deriving DecidableEq, Repr

namespace SettingsError

/-- The wording of an error. -/
def message : SettingsError → String
  | .unreadable path e => "failed to read config file " ++ path ++ ": " ++ e.detail
  | .malformed path detail => "invalid config file " ++ path ++ ": " ++ detail
  | .variable name detail => "invalid value for " ++ name ++ ": " ++ detail
  | .invalid detail => "invalid configuration: " ++ detail

/-- The wordings of the causes beneath an error, outermost first. -/
def causes : SettingsError → List String
  | .unreadable _ e => [e.detail]
  | .malformed _ detail => [detail]
  | _ => []

end SettingsError

namespace Settings

/-- The checks of settings in order: what must not hold, and what is told if it
does. -/
def faults (s : Settings) : List (Bool × String) :=
  let k := s.keys
  let p := s.protection
  [ (k.ext.isEmpty, "keys.extension must not be empty"),
    (k.parallelism == some 0, "keys.parallelism must be positive"),
    (k.minBatchSize == 0, "keys.min_batch_size must be positive"),
    (k.decodeTimeoutSeconds == 0, "keys.decode_timeout_secs must be positive"),
    (k.proxyDirectory.isSome != k.proxyPasswordFile.isSome,
      "keys.proxy_directory and keys.proxy_password_file go together"),
    (s.network.slotsPerEpoch == 0, "network.slots_per_epoch must be positive"),
    (p.poolSize == 0, "slashing_protection.pool_size must be positive"),
    (p.pruningEnabled && !p.enabled, "pruning needs slashing protection enabled"),
    (p.pruningEnabled && p.pruningIntervalSeconds == 0,
      "slashing_protection.pruning_interval_secs must be positive"),
    (p.pruningEnabled && p.pruningEpochsToKeep == 0,
      "slashing_protection.pruning_epochs_to_keep must be positive")]

/-- Check settings. -/
def validate (s : Settings) : Except SettingsError Unit :=
  match s.faults.find? (·.1) with
  | some (_, detail) => .error (.invalid detail)
  | none => .ok ()

/-- How keys are loaded. -/
def loader (s : Settings) : LoaderConfig :=
  ⟨s.keys.directory, s.keys.ext, s.keys.parallelism, s.keys.minBatchSize,
    s.keys.decodeTimeoutSeconds⟩

/-- Where proxy keys are, if there are any. -/
def proxies (s : Settings) : Option ProxyConfig := do
  pure ⟨← s.keys.proxyDirectory, ← s.keys.proxyPasswordFile⟩

/-- How the protection database is pruned. -/
def pruning (s : Settings) : PruningConfig :=
  ⟨s.protection.pruningEpochsToKeep, s.network.slotsPerEpoch,
    s.protection.pruningIntervalSeconds * 1000, s.protection.pruningAtBoot⟩

/-- How often an operation on the database is attempted. -/
def maxAttempts : Nat := 5

end Settings

end RemoteSigner
