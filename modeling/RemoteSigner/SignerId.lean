import RemoteSigner.Bytes.Fixed

/-!
# Signer identifiers

A signer is named by its public key. Names arrive in any case, with or without
`0x` and with blanks around them; the key they name is kept as bytes, so two
spellings of one key are one identifier.
-/

namespace RemoteSigner

/-- The public key that names a signer. -/
structure SignerId where
  key : Bytes
deriving DecidableEq

namespace SignerId

/-- Remove blanks and `0x` from the front as long as there are any, and blanks
from the end. Each round that goes on removes a marker. -/
def strip (cs : List Char) : List Char :=
  match _h : Text.trim cs with
  | '0' :: 'x' :: rest => strip rest
  | trimmed => trimmed
termination_by cs.length
decreasing_by
  have h₁ : (Text.trim cs).length ≤ cs.length := by
    unfold Text.trim
    have a := (List.dropWhile_suffix (p := Text.isBlank) (l := cs)).length_le
    have b := (List.dropWhile_suffix (p := Text.isBlank)
      (l := (cs.dropWhile Text.isBlank).reverse)).length_le
    simp only [List.length_reverse] at b ⊢
    omega
  rw [_h] at h₁
  simp only [List.length_cons] at h₁
  omega

/-- The normal form of a spelling: small letters, no blanks around, no `0x`. -/
def normalize (raw : String) : String :=
  String.ofList (strip (Text.lower raw.toList))

/-- Read a spelling with at most one `0x`. -/
def parse (raw : String) : Except CoreError SignerId :=
  let digits := Text.dropMarker (Text.lower (Text.trim raw.toList))
  if digits.isEmpty then .error (.invalid "empty signer identifier")
  else
    match Hex.decodeChars digits with
    | .ok key => .ok ⟨key⟩
    | .error _ =>
        .error (.invalid ("signer identifier is not an even-length hex string: " ++ raw))

/-- The digits of the key. -/
def text (id : SignerId) : String :=
  Hex.encode id.key

/-- The digits of the key behind `0x`. -/
def marked (id : SignerId) : String :=
  Hex.encodeMarked id.key

/-- Identifiers are ordered as their texts are. -/
def before (a b : SignerId) : Bool :=
  a.key < b.key

/-- Put an identifier into a sorted list without repetition. -/
def insert (id : SignerId) : List SignerId → List SignerId
  | [] => [id]
  | a :: rest =>
      if id.before a then id :: a :: rest
      else if id = a then a :: rest
      else a :: insert id rest

/-- The sorted list of the given identifiers without repetition. -/
def sorted (ids : List SignerId) : List SignerId :=
  ids.foldr insert []

/-- The document of an identifier. -/
def toJson (id : SignerId) : Json :=
  .text id.marked

/-- Decode an identifier. -/
def decode : Json.Decoder SignerId :=
  .textWith fun s => (parse s).mapError CoreError.message

end SignerId

end RemoteSigner
