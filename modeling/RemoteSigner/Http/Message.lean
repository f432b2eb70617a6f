import RemoteSigner.Json.Decode

/-!
# Requests and responses

What the interface needs of HTTP: the target of a request split into path and
query, its headers and its body, and responses with the type of their content.
-/

namespace RemoteSigner.Http

/-- A request. -/
structure Request where
  method : String
  path : String
  query : String
  headers : List (String × String)
  body : Bytes

/-- A response. -/
structure Response where
  status : Nat
  contentType : Option String
  body : String
deriving DecidableEq, Repr

namespace Request

/-- The path and the query of a target. What follows a hash sign does not count. -/
def splitTarget (target : String) : String × String :=
  let cs := target.toList.takeWhile (· ≠ '#')
  (String.ofList (cs.takeWhile (· ≠ '?')), String.ofList ((cs.dropWhile (· ≠ '?')).drop 1))

/-- The path of a target that may name its host. -/
def pathOf (path : String) : String :=
  match path.splitOn "://" with
  | [_, rest] => String.ofList (rest.toList.dropWhile (· ≠ '/'))
  | _ => path

/-- A request for a target. -/
def of (method target : String) (headers : List (String × String)) (body : Bytes) : Request :=
  let (path, query) := splitTarget target
  ⟨method, pathOf path, query, headers, body⟩

/-- The first value of a header. -/
def header? (r : Request) (name : String) : Option String :=
  (r.headers.find? fun h => Text.sameIgnoringCase h.1 name).map (·.2)

end Request

namespace Response

/-- A response without content. -/
def bare (status : Nat) : Response :=
  ⟨status, none, ""⟩

/-- A response with text. -/
def plain (status : Nat) (body : String) : Response :=
  ⟨status, some "text/plain; charset=utf-8", body⟩

/-- A response with a document. -/
def json (status : Nat) (body : Json) : Response :=
  ⟨status, some "application/json", body.compact⟩

end Response

/-- The bytes of a text with percent escapes; what is no escape stands for
itself. -/
def unescape : List Char → Bytes
  | '%' :: a :: b :: rest =>
      match Hex.value? a, Hex.value? b with
      | some high, some low => UInt8.ofNat (16 * high + low) :: unescape rest
      | _, _ => Utf8.encode "%" ++ unescape (a :: b :: rest)
  | c :: rest => Utf8.encode (String.singleton c) ++ unescape rest
  | [] => []

/-- The text of bytes, with a replacement for what is not UTF-8. -/
def lossyText (bytes : Bytes) : String :=
  String.ofList ((Utf8.symbols bytes).map fun c => c.getD '\ufffd')

/-- The name and value of a part of a query. -/
def queryPart (part : String) : String × String :=
  let decode (cs : List Char) : String :=
    lossyText (unescape (cs.map fun c => if c = '+' then ' ' else c))
  let cs := part.toList
  (decode (cs.takeWhile (· ≠ '=')), decode ((cs.dropWhile (· ≠ '=')).drop 1))

/-- The parts of a query. -/
def queryParts (query : String) : List (String × String) :=
  ((query.splitOn "&").filter (· ≠ "")).map queryPart

end RemoteSigner.Http
