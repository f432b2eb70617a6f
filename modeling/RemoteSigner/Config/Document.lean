import RemoteSigner.Config.Basic

/-!
# Settings as a document

What settings come to, for showing: the settings of each part, and what the
parts that load, store and prune make of them.
-/

namespace RemoteSigner.Settings

/-- A number in digits. -/
def digits (n : Nat) : Json :=
  .text (Numeral.encode n)

/-- The members of the document, of which each stands for one part. -/
def members (s : Settings) : List (String × Json) := [
  ("server", .record [("listen", .text s.server.listen.toText)]),
  ("network", .record [("genesis_fork_version", s.network.genesisForkVersion.toJson),
    ("slots_per_epoch", digits s.network.slotsPerEpoch.toNat)]),
  ("key_manager", .boolean s.keyManagerEnabled),
  ("slashing_protection", .record [("enabled", .boolean s.protection.enabled),
    ("pruning_enabled", .boolean s.protection.pruningEnabled)]),
  ("loader", .record [("directory", .text s.loader.directory),
    ("extension", .text s.loader.extension),
    ("parallelism", (s.loader.parallelism.map digits).getD .null),
    ("min_batch_size", digits s.loader.minBatchSize),
    ("decode_timeout_secs", digits s.loader.decodeTimeoutSeconds)]),
  ("store", .record [("path", .text s.protection.database),
    ("pool_size", digits s.protection.poolSize),
    ("busy_timeout_ms", digits s.protection.statementTimeoutMillis),
    ("max_attempts", .count maxAttempts)]),
  ("pruning", .record [("epochs_to_keep", digits s.pruning.epochsToKeep.toNat),
    ("slots_per_epoch", digits s.pruning.slotsPerEpoch.toNat),
    ("interval_secs", digits (s.pruning.intervalMillis / 1000)),
    ("at_boot", .boolean s.pruning.atBoot)])]

/-- The document of settings. -/
def toJson (s : Settings) : Json :=
  .record s.members

end RemoteSigner.Settings
