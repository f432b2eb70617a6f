import RemoteSigner.Keys.Metadata

/-!
# Secrets in vaults

A description of a key may only say where in a vault the secret is. Providers
turn it into the secret, one for each kind of vault; a kind without provider
fails on its own. A provider may also never answer.
-/

namespace RemoteSigner

/-- What a provider answers. -/
inductive Fetched where
  | answer (secret : Except KeyError String)
  /-- Nothing, for as long as anyone waits. -/
  | silence

/-- Something that reads secrets out of a vault. -/
abbrev SecretProvider := SigningMetadata → Fetched

/-- The providers by the kind of vault that they serve. -/
structure SecretProviders where
  entries : List (String × SecretProvider)

namespace SecretProviders

/-- Add a provider; it takes the place of one that served the kind before. -/
def register (kind : String) (provider : SecretProvider) (ps : SecretProviders) :
    SecretProviders :=
  ⟨(kind, provider) :: ps.entries⟩

/-- Fetch the secret that a description names. -/
def fetch (ps : SecretProviders) (m : SigningMetadata) : Fetched :=
  match ps.entries.lookup m.source.kind with
  | none => .answer (.error (.missingProvider m.source.kind))
  | some provider => provider m

end SecretProviders

namespace Hashicorp

/-- A request to a vault server. -/
structure Request where
  url : String
  token : String
  timeoutMillis : Nat
deriving DecidableEq, Repr

/-- The reply of a vault server. -/
structure Reply where
  /-- The status with its name. -/
  status : String
  isSuccess : Bool
  body : Bytes

/-- The address of a secret. -/
def url (s : HashicorpSecret) : String :=
  (if s.tlsEnabled then "https" else "http") ++ "://" ++ s.serverHost ++ ":" ++
    Numeral.encode s.serverPort ++ "/" ++
    String.ofList (s.keyPath.toList.dropWhile (· = '/'))

/-- The secret in the body of a reply: the string under the key in the inner
of two `data` objects. -/
def secretOf (body : Json) (keyName : String) : Except KeyError String :=
  let found := do
    let outer ← body.sorted.member? "data"
    let inner ← outer.member? "data"
    (← inner.member? keyName).text?
  match found with
  | some secret => .ok secret
  | none => .error (.vault ("secret field " ++ keyName ++ " not found in response"))

/-- The secret in a reply. -/
def secretOfReply (s : HashicorpSecret) (reply : Reply) : Except KeyError String :=
  if !reply.isSuccess then
    .error (.vault ("vault returned " ++ reply.status ++ " for " ++ url s))
  else
    match Json.Decoder.document.ofBytes reply.body with
    | .error e => .error (.vault ("malformed vault response: " ++ e.message))
    | .ok body => secretOf body s.keyName

/-- The provider for such vaults, given a way to send requests. An address
without a host is never asked. -/
def provider (send : Request → Except String Reply) : SecretProvider := fun m =>
  .answer <|
    match m.source with
    | .hashicorp s =>
        let outcome :=
          if s.serverHost.isEmpty then .error "builder error"
          else send ⟨url s, s.token, s.timeoutMillis⟩
        match outcome with
        | .error detail => .error (.vault ("request to " ++ url s ++ " failed: " ++ detail))
        | .ok reply => secretOfReply s reply
    | source => .error (.vault ("hashicorp provider cannot read " ++ source.kind ++ " metadata"))

/-- Sending where there is no network. -/
def unreachable (_ : Request) : Except String Reply :=
  .error "error sending request"

end Hashicorp

/-- The providers at hand without any configuration. -/
def SecretProviders.standard : SecretProviders :=
  ⟨[("hashicorp", Hashicorp.provider Hashicorp.unreachable)]⟩

end RemoteSigner
