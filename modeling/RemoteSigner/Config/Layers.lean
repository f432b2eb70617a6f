import RemoteSigner.Config.Basic

/-!
# Where settings come from

A document sets values over the defaults, variables of the environment over
those, and flags of the command line over all. A document may not name a
setting that does not exist. Of several variables the last counts; those before
a faulty one stay in force.
-/

namespace RemoteSigner

/-- A setting of a section: its name and how a value is put in place. -/
structure Setting (α : Type) where
  name : String
  put : Nat → Json.Reading → α → Except Json.DecodeError α

namespace Setting

/-- A setting with a decoder of its values. -/
def of {α β : Type} (name : String) (decode : Json.Decoder β) (put : β → α → α) : Setting α where
  name := name
  put depth r a := (decode depth r).map fun b => put b a

/-- Put the values of named members in place. -/
def putMembers {α : Type} (settings : List (Setting α)) (depth : Nat) :
    List (Json.Reading.Key × Json.Reading) → α → Except Json.DecodeError α
  | [], a => .ok a
  | (.error e, _) :: _, _ => .error (.grammar e)
  | (.ok name, r) :: rest, a =>
      match settings.find? (·.name == name) with
      | none => .error (.refused ("unknown field `" ++ name ++ "`"))
      | some setting => do putMembers settings depth rest (← setting.put depth r a)

/-- Put values in place in the order of the settings. -/
def putItems {α : Type} (depth : Nat) :
    List (Setting α) → List Json.Reading → α → Except Json.DecodeError α
  | setting :: settings, r :: rest, a => do
      putItems depth settings rest (← setting.put depth r a)
  | _, _, a => .ok a

/-- A section of settings over `start`, from a table or from an array of its
values in order. -/
def table {α : Type} (expecting : String) (settings : List (Setting α)) (start : α) :
    Json.Decoder α := fun depth r =>
  match r with
  | .record members _ => putMembers settings depth members start
  | .list items _ => putItems depth settings items start
  | r => .error (Json.Decoder.mismatch expecting r)

end Setting

namespace ListenAddress

/-- Read an address or tell the fault. -/
def parse (text : String) : Except String ListenAddress :=
  match parse? text with
  | some a => .ok a
  | none => .error "invalid socket address syntax"

end ListenAddress

namespace Settings

open Setting

/-- A 64-bit number. -/
def word : Json.Decoder Nat :=
  .natural RemoteSigner.Numeral.maxUInt64 "u64"

/-- A 64-bit number of the domain. -/
def uint64 : Json.Decoder UInt64 := fun depth r =>
  (word depth r).map UInt64.ofNat

/-- The settings of the interface. -/
def serverSettings : List (Setting ServerSettings) := [
  .of "listen" (.textWith ListenAddress.parse) fun v s => { s with listen := v }]

/-- The settings of the loading of keys. -/
def keySettings : List (Setting KeySettings) := [
  .of "directory" .text fun v s => { s with directory := v },
  .of "extension" .text fun v s => { s with ext := v },
  .of "parallelism" word fun v s => { s with parallelism := some v },
  .of "min_batch_size" word fun v s => { s with minBatchSize := v },
  .of "decode_timeout_secs" word fun v s => { s with decodeTimeoutSeconds := v },
  .of "proxy_directory" .text fun v s => { s with proxyDirectory := some v },
  .of "proxy_password_file" .text fun v s => { s with proxyPasswordFile := some v }]

/-- The settings of the network. -/
def networkSettings : List (Setting NetworkSettings) := [
  .of "genesis_fork_version" FixedBytes.decode fun v s => { s with genesisForkVersion := v },
  .of "slots_per_epoch" uint64 fun v s => { s with slotsPerEpoch := v }]

/-- The settings of slashing protection. -/
def protectionSettings : List (Setting ProtectionSettings) := [
  .of "enabled" .boolean fun v s => { s with enabled := v },
  .of "database" .text fun v s => { s with database := v },
  .of "pool_size" word fun v s => { s with poolSize := v },
  .of "statement_timeout_ms" word fun v s => { s with statementTimeoutMillis := v },
  .of "pruning_enabled" .boolean fun v s => { s with pruningEnabled := v },
  .of "pruning_at_boot" .boolean fun v s => { s with pruningAtBoot := v },
  .of "pruning_interval_secs" word fun v s => { s with pruningIntervalSeconds := v },
  .of "pruning_epochs_to_keep" uint64 fun v s => { s with pruningEpochsToKeep := v }]

/-- The settings of the key manager. -/
def keyManagerSettings : List (Setting Bool) := [
  .of "enabled" .boolean fun v _ => v]

/-- The sections of a document. -/
def sections : List (Setting Settings) := [
  .of "server" (Setting.table "settings of the interface" serverSettings {}) fun v s =>
    { s with server := v },
  .of "keys" (Setting.table "settings of keys" keySettings {}) fun v s => { s with keys := v },
  .of "network" (Setting.table "settings of the network" networkSettings {}) fun v s =>
    { s with network := v },
  .of "slashing_protection" (Setting.table "settings of slashing protection" protectionSettings {})
    fun v s => { s with protection := v },
  .of "key_manager" (Setting.table "settings of the key manager" keyManagerSettings false)
    fun v s => { s with keyManagerEnabled := v }]

/-- Read a document. -/
def ofText? (text : String) : Option Settings :=
  Toml.decode? (Setting.table "settings" sections {}) text

/-- Read the document in a file. -/
def ofFile (disk : Disk) (path : FilePath) : Except SettingsError Settings :=
  match disk.readText path with
  | .error e => .error (.unreadable path e)
  | .ok text =>
      match ofText? text with
      | some s => .ok s
      | none => .error (.malformed path "TOML parse error")

/-- The value of a number, or the fault of its text. -/
def numberOf (text : String) : Except String Nat :=
  (RemoteSigner.Numeral.decode RemoteSigner.Numeral.maxUInt64 text).mapError (·.message)

/-- The value of a truth value, or the fault of its text. -/
def truthOf (text : String) : Except String Bool :=
  match RemoteSigner.Numeral.decodeBool text with
  | some b => .ok b
  | none => .error "provided string was not `true` or `false`"

/-- The variables by the part of their names behind the mark. -/
def variableTable : List (String × (String → Settings → Except String Settings)) := [
  ("LISTEN", fun v s => do pure { s with server := ⟨← ListenAddress.parse v⟩ }),
  ("KEYS_DIRECTORY", fun v s => .ok { s with keys := { s.keys with directory := v } }),
  ("KEYS_PARALLELISM", fun v s => do
    pure { s with keys := { s.keys with parallelism := some (← numberOf v) } }),
  ("GENESIS_FORK_VERSION", fun v s => do
    let version ← (FixedBytes.ofHex v).mapError CoreError.message
    pure { s with network := { s.network with genesisForkVersion := version } }),
  ("SLOTS_PER_EPOCH", fun v s => do
    pure { s with network := { s.network with slotsPerEpoch := UInt64.ofNat (← numberOf v) } }),
  ("SLASHING_PROTECTION_ENABLED", fun v s => do
    pure { s with protection := { s.protection with enabled := ← truthOf v } }),
  ("SLASHING_PROTECTION_DATABASE", fun v s =>
    .ok { s with protection := { s.protection with database := v } }),
  ("PRUNING_ENABLED", fun v s => do
    pure { s with protection := { s.protection with pruningEnabled := ← truthOf v } }),
  ("KEY_MANAGER_ENABLED", fun v s => do pure { s with keyManagerEnabled := ← truthOf v })]

/-- The mark in front of the names of variables. -/
def variableMark : String := "VIGIL_"

/-- Apply a variable; others than those known change nothing. -/
def applyVariable (name value : String) (s : Settings) : Except SettingsError Settings :=
  match (name.toList.splitAt variableMark.length) with
  | (mark, key) =>
      if String.ofList mark = variableMark then
        match variableTable.lookup (String.ofList key) with
        | none => .ok s
        | some apply => (apply value s).mapError (.variable name)
      else .ok s

/-- Apply variables in order up to the first faulty one. -/
def applyVariables : List (String × String) → Settings → Except SettingsError Unit × Settings
  | [], s => (.ok (), s)
  | (name, value) :: rest, s =>
      match applyVariable name value s with
      | .ok s => applyVariables rest s
      | .error e => (.error e, s)

end Settings

/-- The flags of serving the signer. -/
structure RunFlags where
  listen : Option ListenAddress := none
  keyDirectory : Option FilePath := none
  database : Option FilePath := none
  unprotected : Bool := false
  keyManager : Bool := false
deriving DecidableEq, Repr

/-- Apply flags over settings. -/
def RunFlags.apply (f : RunFlags) (s : Settings) : Settings where
  server := ⟨f.listen.getD s.server.listen⟩
  keys := { s.keys with directory := f.keyDirectory.getD s.keys.directory }
  network := s.network
  protection := { s.protection with
    database := f.database.getD s.protection.database
    enabled := s.protection.enabled && !f.unprotected
    pruningEnabled := s.protection.pruningEnabled && !f.unprotected }
  keyManagerEnabled := s.keyManagerEnabled || f.keyManager

end RemoteSigner
