import PyKMIP.Attributes
import PyKMIP.Lib.Base64

/-!
# The Barbican back end

Barbican maps the references of secrets to payloads.  The server stores a key
as Base64 text and keeps the reference, encoded in UTF-8, in the value column.
-/

namespace PyKMIP

/-- `text.encode('utf-8')`. -/
def encodeUtf8 (text : String) : Bytes := text.toByteArray.data.toList

/-- `str(value, 'utf-8')`. -/
def decodeUtf8 (value : Bytes) : Option String :=
  String.fromUTF8? ⟨value.toArray⟩

theorem decodeUtf8_encodeUtf8 (text : String) :
    decodeUtf8 (encodeUtf8 text) = some text := by
  unfold decodeUtf8 encodeUtf8 String.fromUTF8?
  rw [Array.toArray_toList]
  exact dif_pos text.isValidUTF8

theorem encodeUtf8_injective {left right : String}
    (same : encodeUtf8 left = encodeUtf8 right) : left = right := by
  have decoded := decodeUtf8_encodeUtf8 left
  rw [same, decodeUtf8_encodeUtf8] at decoded
  exact (Option.some.inj decoded).symm

structure Secret where
  secretRef : String
  payload : List Char
deriving DecidableEq, Repr

abbrev Barbican := List Secret

/-- `url.split('/')[-1]`. -/
def secretId (url : String) : List Char :=
  (url.toList.splitOn '/').getLastD []

namespace Barbican

def getSecret (barbican : Barbican) (id : List Char) : Option Secret :=
  barbican.find? fun secret => secretId secret.secretRef = id

/-- `create_secret` once the service has answered with a reference. -/
def createSecret (barbican : Barbican) (secretRef : String) (payload : Bytes) :
    Barbican :=
  barbican ++ [{ secretRef := secretRef, payload := Base64.encode payload }]

def padded (payload : List Char) : List Char :=
  if payload.length % 4 = 0 then payload
  else payload ++ List.replicate (4 - payload.length % 4) '='

/-- `retrive_secret` while the service is available; every failure inside it is
raised again as a `RuntimeError`. -/
def retriveSecret (barbican : Barbican) (url : Bytes) : Except PyError Bytes :=
  let retrieved := do
    let text ← decodeUtf8 url
    let secret ← barbican.getSecret (secretId text)
    guard (secret.payload ≠ [])
    Base64.decode (padded secret.payload)
  match retrieved with
  | some value => .ok value
  | none => .error (.python .runtimeError)

theorem padded_encode (payload : Bytes) :
    padded (Base64.encode payload) = Base64.encode payload :=
  if_pos (Base64.four_dvd_length_encode payload)

end Barbican

end PyKMIP
