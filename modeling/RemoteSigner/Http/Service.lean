import RemoteSigner.CommitBoost.Signing
import RemoteSigner.Http.Error
import RemoteSigner.Http.Message
import RemoteSigner.KeyManager.Delete
import RemoteSigner.Signing.Authorization

/-!
# The interface of the signer

Every path has its methods; anything else is refused before it is looked at.
Handlers read bodies themselves, so a malformed body is an error of the
request like any other.
-/

namespace RemoteSigner.Http

/-- What the interface is made of. -/
structure Service where
  network : Network
  keyManager : Option KeyManager
  mint : Option Custody.ProxyMint

/-- The paths of the interface. -/
inductive Route where
  | upcheck
  | healthcheck
  | reload
  | publicKeys
  /-- Signing with the key that a part of the path names, still escaped. -/
  | sign (identifier : String)
  | keystores
  | moduleKeys
  | moduleSign
  | moduleProxy
deriving DecidableEq, Repr

/-- The paths that stand for one route. -/
def Route.fixed : List (String × Route) := [
  ("/upcheck", .upcheck), ("/healthcheck", .healthcheck), ("/reload", .reload),
  ("/api/v1/eth2/publicKeys", .publicKeys), ("/eth/v1/keystores", .keystores),
  ("/signer/v1/get_pubkeys", .moduleKeys), ("/signer/v1/request_signature", .moduleSign),
  ("/signer/v1/generate_proxy_key", .moduleProxy)]

/-- The route of a path. -/
def Route.ofPath? (path : String) : Option Route :=
  match fixed.lookup path with
  | some route => some route
  | none =>
      match path.splitOn "/" with
      | ["", "api", "v1", "eth2", "sign", identifier] =>
          if identifier.isEmpty then none else some (.sign identifier)
      | _ => none

/-- The methods of a route. -/
def Route.methods : Route → List String
  | .upcheck | .healthcheck | .publicKeys | .moduleKeys => ["GET", "HEAD"]
  | .reload | .sign _ | .moduleSign | .moduleProxy => ["POST"]
  | .keystores => ["GET", "HEAD", "POST", "DELETE"]

/-- What comes of a request: the response, the custody after it, and whether
keys are to be loaded in the background. -/
structure Served where
  response : Response
  custody : Custody
  reloads : Bool

namespace Served

/-- A response that changes nothing. -/
def only (response : Response) (c : Custody) : Served :=
  ⟨response, c, false⟩

/-- The response of a handler. -/
def ofResult {α : Type} (render : α → Response) (outcome : Except ApiError α × Custody) : Served :=
  match outcome with
  | (.ok a, c) => only (render a) c
  | (.error e, c) => only (.json e.status e.toJson) c

end Served

/-- The longest body in bytes. -/
def bodyLimit : Nat := 2097152

/-- The response to a body that is too long. -/
def bodyTooLong : Response :=
  .plain 413 "Failed to buffer the request body: length limit exceeded"

/-- Read a body. -/
def readBody {α : Type} (decode : Json.Decoder α) (body : Bytes) : Except ApiError α :=
  (decode.ofBytes body).mapError .badBody

/-- A word for how a check went. -/
def statusWord (ok : Bool) : Json :=
  .text (if ok then "UP" else "DOWN")

/-- The report on health: whether the last load went without errors, and whether
the protection database answers. -/
def health (c : Custody) : Response :=
  let keysOk := c.registry.lastErrors = 0
  let keysCheck : Json := .record [("id", .text "keys-check"), ("status", statusWord keysOk),
    ("data", .record [("keys_loaded", .count c.snapshot.signers.length),
      ("error_count", .count c.registry.lastErrors)])]
  let databaseOk := c.protection.all (·.isHealthy)
  let databaseCheck := (c.protection.map fun _ =>
    Json.record [("id", .text "slashing-protection-db-health-check"),
      ("status", statusWord databaseOk)]).toList
  let ok := keysOk && databaseOk
  .json (if ok then 200 else 503)
    (.record [("status", statusWord ok), ("checks", .list (keysCheck :: databaseCheck))])

/-- The encoding that a query asks for, or the fault of asking twice. -/
def encodingOf (query : String) : Except Response SignatureEncoding :=
  match (queryParts query).filter (·.1 = "encoding") with
  | [] => .ok .hex
  | [(_, value)] => .ok (if Text.sameIgnoringCase value "base64" then .base64 else .hex)
  | _ => .error (.plain 400 "Failed to deserialize query string: duplicate field `encoding`")

/-- Whether a text contains another. -/
def contains (text part : String) : Bool :=
  (text.splitOn part).length > 1

/-- Whether a client accepts documents. A header that is not plain text does not
count. -/
def acceptsJson (r : Request) : Bool :=
  (r.header? "accept").any fun value =>
    value.toList.all (fun c => c = '\t' || (' ' ≤ c && c ≤ '~')) &&
      contains value "application/json"

/-- The response with a signature: a document if the client accepts one. -/
def signatureResponse (r : Request) (text : String) : Response :=
  if acceptsJson r then
    .json 200 (.record [("signature", .text text)])
  else .plain 200 text

namespace Service

/-- Sign with the key that the path names. -/
def sign (s : Service) (c : Custody) (r : Request) (segment : String) : Served :=
  match Utf8.decode? (unescape segment.toList) with
  | none => .only (.plain 400 "Invalid URL: Invalid UTF-8 in `identifier`") c
  | some identifier =>
      match encodingOf r.query with
      | .error response => .only response c
      | .ok encoding =>
          if bodyLimit < r.body.length then .only bodyTooLong c
          else
            .ofResult (fun (g : Signature) => signatureResponse r (g.toText encoding)) <|
              match readBody SigningRequest.decode r.body with
              | .error e => (.error e, c)
              | .ok request =>
                  let (result, c) := c.sign s.network identifier request
                  (result.mapError .signing, c)

/-- A handler of a route of the key manager. -/
def managed (s : Service) (c : Custody) (f : KeyManager → Except ApiError Json × Custody) :
    Served :=
  .ofResult (.json 200) <|
    match s.keyManager with
    | none => (.error (.disabled "key manager"), c)
    | some m => f m

/-- Sign for a module. -/
def moduleSign (s : Service) (c : Custody) (r : Request) : Except ApiError Json := do
  let request ← readBody ModuleSignRequest.decode r.body
  let signature ← (c.signForModule s.network.genesisForkVersion request).mapError .signing
  pure (.text signature.toHex)

/-- Generate a proxy key. -/
def moduleProxy (s : Service) (entropy : ProxyEntropy) (c : Custody) (r : Request) :
    Except ApiError Json × Custody :=
  if s.mint.isNone then (.error (.disabled "proxy key generation"), c)
  else
    match readBody ProxyKeyRequest.decode r.body with
    | .error e => (.error e, c)
    | .ok request =>
        let (result, c) := c.generateProxy s.network.genesisForkVersion s.mint entropy request
        ((result.mapError ApiError.signing).map SignedDelegation.toJson, c)

/-- Import keystores. -/
def importKeys (c : Custody) (r : Request) (m : KeyManager) : Except ApiError Json × Custody :=
  match readBody ImportRequest.decode r.body with
  | .error e => (.error e, c)
  | .ok request =>
      let (result, c) := c.importKeys m request
      ((result.mapError ApiError.signing).map ImportResponse.toJson, c)

/-- Delete keys. -/
def deleteKeys (c : Custody) (r : Request) (m : KeyManager) : Except ApiError Json × Custody :=
  match readBody DeleteRequest.decode r.body with
  | .error e => (.error e, c)
  | .ok request =>
      let (response, c) := c.deleteKeys m request
      (.ok response.toJson, c)

/-- Handle a request whose method belongs to its route. -/
def handle (s : Service) (entropy : ProxyEntropy) (c : Custody) (r : Request) : Route → Served
  | .upcheck => .only (.plain 200 "OK") c
  | .healthcheck => .only (health c) c
  | .reload => ⟨.bare 200, c, true⟩
  | .publicKeys => .only (.json 200 (.list (c.snapshot.identifiers.map SignerId.toJson))) c
  | .sign segment => s.sign c r segment
  | .moduleKeys => .only (.json 200 (KeyMapping.listToJson c.snapshot.keyMappings)) c
  | .moduleSign =>
      if bodyLimit < r.body.length then .only bodyTooLong c
      else .ofResult (.json 200) (s.moduleSign c r, c)
  | .moduleProxy =>
      if bodyLimit < r.body.length then .only bodyTooLong c
      else .ofResult (.json 200) (s.moduleProxy entropy c r)
  | .keystores =>
      if r.method = "GET" ∨ r.method = "HEAD" then
        s.managed c fun _ => (.ok (keystoreListToJson c.snapshot.identifiers), c)
      else if bodyLimit < r.body.length then .only bodyTooLong c
      else if r.method = "POST" then s.managed c (importKeys c r)
      else s.managed c (deleteKeys c r)

/-- Answer a request. Questions about what is allowed across origins are
answered for every path; a question for the head of a response gets no body. The
random bytes are for a proxy, should one be generated. -/
def respond (s : Service) (entropy : ProxyEntropy) (c : Custody) (r : Request) : Served :=
  if r.method = "OPTIONS" then .only (.bare 200) c
  else
    match Route.ofPath? r.path with
    | none => .only (.bare 404) c
    | some route =>
        if route.methods.contains r.method then
          let served := s.handle entropy c r route
          if r.method = "HEAD" then { served with response := { served.response with body := "" } }
          else served
        else .only (.bare 405) c

end Service

end RemoteSigner.Http
