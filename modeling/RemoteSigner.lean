import RemoteSigner.Bytes.Base64
import RemoteSigner.Bytes.BigEndian
import RemoteSigner.Bytes.Fixed
import RemoteSigner.Bytes.Hex
import RemoteSigner.Chain.Attestation
import RemoteSigner.Chain.Block
import RemoteSigner.Chain.Container
import RemoteSigner.Chain.Domain
import RemoteSigner.Chain.Fork
import RemoteSigner.Chain.SyncCommittee
import RemoteSigner.Chain.Validator
import RemoteSigner.Cipher.Aes128
import RemoteSigner.Command.Arguments
import RemoteSigner.Command.Execution
import RemoteSigner.Command.Report
import RemoteSigner.CommitBoost.Request
import RemoteSigner.CommitBoost.Signing
import RemoteSigner.Config.Basic
import RemoteSigner.Config.Document
import RemoteSigner.Config.Layers
import RemoteSigner.Curve.Bls12381
import RemoteSigner.Curve.Field
import RemoteSigner.Curve.Point
import RemoteSigner.Curve.Secp256k1
import RemoteSigner.Custody
import RemoteSigner.Daemon
import RemoteSigner.Decimal.Binary64
import RemoteSigner.Error
import RemoteSigner.Error.Document
import RemoteSigner.Files.Disk
import RemoteSigner.Files.Error
import RemoteSigner.Files.Path
import RemoteSigner.Hash.Hmac
import RemoteSigner.Hash.Sha256
import RemoteSigner.Http.Address
import RemoteSigner.Http.Error
import RemoteSigner.Http.Message
import RemoteSigner.Http.Service
import RemoteSigner.Json.Decode
import RemoteSigner.Json.Document
import RemoteSigner.Json.Grammar
import RemoteSigner.Json.Number
import RemoteSigner.Json.Reading
import RemoteSigner.Json.Token
import RemoteSigner.Kdf.Scrypt
import RemoteSigner.KeyManager.Delete
import RemoteSigner.KeyManager.Import
import RemoteSigner.KeyManager.Request
import RemoteSigner.KeyType
import RemoteSigner.Keys.Error
import RemoteSigner.Keys.KeystoreFiles
import RemoteSigner.Keys.Loader
import RemoteSigner.Keys.Metadata
import RemoteSigner.Keys.Proxy
import RemoteSigner.Keys.Registry
import RemoteSigner.Keys.Signer
import RemoteSigner.Keys.Source
import RemoteSigner.Keys.Vault
import RemoteSigner.Keystore.Document
import RemoteSigner.Keystore.Encryption
import RemoteSigner.Keystore.Password
import RemoteSigner.Keystore.Suite
import RemoteSigner.Main
import RemoteSigner.Proofs.Bytes.Fixed
import RemoteSigner.Proofs.Bytes.Hex
import RemoteSigner.Proofs.Chain.Binding
import RemoteSigner.Proofs.Chain.Restoring
import RemoteSigner.Proofs.Chain.Schema
import RemoteSigner.Proofs.CommitBoost.Persistence
import RemoteSigner.Proofs.Decimal.Rounding
import RemoteSigner.Proofs.Decimal.Shortest
import RemoteSigner.Proofs.Files.Gains
import RemoteSigner.Proofs.Files.PathOrder
import RemoteSigner.Proofs.Files.Within
import RemoteSigner.Proofs.Files.Writing
import RemoteSigner.Proofs.Json.Compact
import RemoteSigner.Proofs.Json.Decoding
import RemoteSigner.Proofs.Json.Double
import RemoteSigner.Proofs.Json.Legible
import RemoteSigner.Proofs.Json.Number
import RemoteSigner.Proofs.Json.Numeral
import RemoteSigner.Proofs.Json.Printing
import RemoteSigner.Proofs.Json.Rereading
import RemoteSigner.Proofs.Json.Restoring
import RemoteSigner.Proofs.Json.RoundTrip
import RemoteSigner.Proofs.Json.Scaling
import RemoteSigner.Proofs.Json.Token
import RemoteSigner.Proofs.KeyManager.Accounts
import RemoteSigner.Proofs.KeyManager.Bystanders
import RemoteSigner.Proofs.KeyManager.Deleted
import RemoteSigner.Proofs.KeyManager.Deleting
import RemoteSigner.Proofs.KeyManager.Handover
import RemoteSigner.Proofs.KeyManager.Imported
import RemoteSigner.Proofs.KeyManager.Importing
import RemoteSigner.Proofs.KeyManager.Moves
import RemoteSigner.Proofs.KeyManager.Traces
import RemoteSigner.Proofs.Keys.Attachment
import RemoteSigner.Proofs.Keys.Deletion
import RemoteSigner.Proofs.Keys.Description
import RemoteSigner.Proofs.Keys.Loading
import RemoteSigner.Proofs.Keys.Proxies
import RemoteSigner.Proofs.Keys.ProxyFiles
import RemoteSigner.Proofs.Keys.Reload
import RemoteSigner.Proofs.Keys.Removal
import RemoteSigner.Proofs.Keys.Returning
import RemoteSigner.Proofs.Keys.Schedule
import RemoteSigner.Proofs.Keys.Storing
import RemoteSigner.Proofs.Keys.Undoing
import RemoteSigner.Proofs.Keystore.Encryption
import RemoteSigner.Proofs.Keystore.RoundTrip
import RemoteSigner.Proofs.Lists
import RemoteSigner.Proofs.Outcome
import RemoteSigner.Proofs.Protection.Acceptance
import RemoteSigner.Proofs.Protection.Columns
import RemoteSigner.Proofs.Protection.Confinement
import RemoteSigner.Proofs.Protection.Database
import RemoteSigner.Proofs.Protection.Decision
import RemoteSigner.Proofs.Protection.Edits
import RemoteSigner.Proofs.Protection.Enabling
import RemoteSigner.Proofs.Protection.Exact
import RemoteSigner.Proofs.Protection.Exporting
import RemoteSigner.Proofs.Protection.Faults
import RemoteSigner.Proofs.Protection.ImportedHistory
import RemoteSigner.Proofs.Protection.Importing
import RemoteSigner.Proofs.Protection.Lookup
import RemoteSigner.Proofs.Protection.Newest
import RemoteSigner.Proofs.Protection.Operation
import RemoteSigner.Proofs.Protection.Pruning
import RemoteSigner.Proofs.Protection.Reimporting
import RemoteSigner.Proofs.Protection.Resigning
import RemoteSigner.Proofs.Protection.Retention
import RemoteSigner.Proofs.Protection.Retrying
import RemoteSigner.Proofs.Protection.RoundTrip
import RemoteSigner.Proofs.Protection.Run
import RemoteSigner.Proofs.Protection.Settings
import RemoteSigner.Proofs.Protection.Signing
import RemoteSigner.Proofs.Protection.Slashing
import RemoteSigner.Proofs.Protection.Stored
import RemoteSigner.Proofs.Protection.Transfer
import RemoteSigner.Proofs.Protection.Twin
import RemoteSigner.Proofs.Protection.TwinRun
import RemoteSigner.Proofs.Protection.UnseenPruning
import RemoteSigner.Proofs.Protection.Validator
import RemoteSigner.Proofs.SignerId
import RemoteSigner.Proofs.Signing.Custody
import RemoteSigner.Proofs.Signing.Discipline
import RemoteSigner.Proofs.Signing.NoBypass
import RemoteSigner.Proofs.Signing.RoundTrip
import RemoteSigner.Proofs.Signing.Separation
import RemoteSigner.Proofs.Signing.Specification
import RemoteSigner.Proofs.Ssz.Binding
import RemoteSigner.Proofs.Ssz.BitEncoding
import RemoteSigner.Proofs.Ssz.Bitlist
import RemoteSigner.Proofs.Ssz.Packing
import RemoteSigner.Proofs.Ssz.Schema
import RemoteSigner.Proofs.Ssz.Tree
import RemoteSigner.Proofs.Tasks
import RemoteSigner.Proofs.Text.Numeral
import RemoteSigner.Proofs.Text.Utf8
import RemoteSigner.Proofs.Toml.Lines
import RemoteSigner.Protection.Database
import RemoteSigner.Protection.Decision
import RemoteSigner.Protection.Document
import RemoteSigner.Protection.Engine
import RemoteSigner.Protection.Error
import RemoteSigner.Protection.Interchange
import RemoteSigner.Protection.Pruner
import RemoteSigner.Protection.Pruning
import RemoteSigner.Protection.Record
import RemoteSigner.Protection.Transaction
import RemoteSigner.SignerId
import RemoteSigner.Signing.Artifact
import RemoteSigner.Signing.Authorization
import RemoteSigner.Signing.Error
import RemoteSigner.Signing.SigningRoot
import RemoteSigner.Ssz.Bits
import RemoteSigner.Ssz.Merkle
import RemoteSigner.Tasks
import RemoteSigner.Text.Blank
import RemoteSigner.Text.CombiningClassTable
import RemoteSigner.Text.Compatibility
import RemoteSigner.Text.DecompositionTable
import RemoteSigner.Text.Numeral
import RemoteSigner.Text.Utf8
import RemoteSigner.Toml.Document
import RemoteSigner.Toml.Printer
import RemoteSigner.Toml.Token
import RemoteSigner.Toml.Value
