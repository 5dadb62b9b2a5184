import PyKMIP.Engine.State

/-!
# Query and DiscoverVersions

The two operations that tell a client what the server supports.
-/

namespace PyKMIP

open StatefulExcept

/-- The versions that the server lists, newest first. -/
def protocolVersions : List ProtocolVersion :=
  [⟨2, 0⟩, ⟨1, 4⟩, ⟨1, 3⟩, ⟨1, 2⟩, ⟨1, 1⟩, ⟨1, 0⟩]

def serverVersion : String := "0.11.0.dev1"

/-- The operations that Query reports under a protocol version. -/
def queriedOperations (version : ProtocolVersion) : List Operation :=
  [.create, .createKeyPair, .register, .deriveKey, .locate, .get, .getAttributes,
      .getAttributeList, .activate, .revoke, .destroy, .query] ++
    (if (⟨1, 1⟩ : ProtocolVersion) ≤ version then [.discoverVersions] else []) ++
    (if (⟨1, 2⟩ : ProtocolVersion) ≤ version then
      [.encrypt, .decrypt, .sign, .signatureVerify, .mac] else [])

def processQuery (queryFunctions : List QueryFunction) :
    EngineM ResponsePayload := do
  kmipVersionSupported ⟨1, 0⟩ "Query"
  -- the property of an empty list is None, in which nothing can be looked up
  raiseIf (queryFunctions = []) (.python .typeError)
  let state ← get
  return .query
    (if QueryFunction.queryOperations ∈ queryFunctions then
      queriedOperations state.protocolVersion else [])
    (if QueryFunction.queryServerInformation ∈ queryFunctions then
      some ("PyKMIP " ++ serverVersion ++ " Software Server") else none)

def processDiscoverVersions (requested : List ProtocolVersion) :
    EngineM ResponsePayload := do
  kmipVersionSupported ⟨1, 1⟩ "DiscoverVersions"
  return .discoverVersions
    (if requested = [] then protocolVersions
      else requested.filter fun version => version ∈ protocolVersions)

end PyKMIP
