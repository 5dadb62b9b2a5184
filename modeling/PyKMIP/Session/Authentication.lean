import PyKMIP.PolicyFiles

/-!
# Authentication

The session asks the enabled SLUGS services in the order of the configuration
for the client that its certificate names.  Without an enabled service the
certificate alone decides.
-/

namespace PyKMIP

/-- The exceptions that authentication raises, most of them for itself. -/
inductive AuthenticationError where
  | permissionDenied (message : String)
  | configurationError (message : String)
  | requestException
  | jsonDecodeError
  | attributeError
deriving DecidableEq, Repr

/-- A client identity: the user, and what the `groups` of an answer hold; the
groups of a certificate are `None`. -/
structure SessionIdentity where
  user : String
  groups : Json

section Certificates

structure Certificate where
  commonNames : List String
  /-- The purposes of the extended key usage extension. -/
  extendedKeyUsage : Option (List String) := none

def getClientIdentityFromCertificate (certificate : Certificate) :
    Except AuthenticationError String :=
  match certificate.commonNames with
  | [clientId] => .ok clientId
  | _ :: _ :: _ =>
      .error (.permissionDenied "Multiple client identities found.")
  | [] =>
      .error (.permissionDenied
        ("The certificate does not define any subject common names. " ++
          "Client identity unavailable."))

end Certificates

section Slugs

/-- An HTTP response; the body is there when it is JSON. -/
structure HttpResponse where
  statusCode : Nat
  body : Option Json := none

/-- What a service answers to the query for the user and to the query for its
groups.  A query without an answer raises an exception. -/
structure SlugsService where
  users : Option HttpResponse := none
  groups : Option HttpResponse := none

structure SLUGSConnector where
  url : Option String := none
  usersUrl : Option String := none
  groupsUrl : Option String := none

def SLUGSConnector.ofUrl : Option String → SLUGSConnector
  | none => {}
  | some value =>
      let url := 
        if value.toList.getLast? = some '/' then value else value ++ "/"
      let usersUrl := url ++ "users/\x7b\x7d"
      { url := some url
        usersUrl := some usersUrl
        groupsUrl := some (usersUrl ++ "/groups") }

/-- `response.json().get('groups')`. -/
def HttpResponse.groups (response : HttpResponse) :
    Except AuthenticationError Json :=
  match response.body with
  | none => .error .jsonDecodeError
  | some (.object members) =>
      .ok (((Dict.ofPairs members).get "groups").getD .null)
  | some _ => .error .attributeError

def SLUGSConnector.authenticate (connector : SLUGSConnector)
    (service : SlugsService) (connectionCertificate : Certificate) :
    Except AuthenticationError SessionIdentity := do
  if connector.usersUrl = none ∨ connector.groupsUrl = none then
    throw (.configurationError "The SLUGS URL must be specified.")
  let userId ← getClientIdentityFromCertificate connectionCertificate
  let response ←
    match service.users with
    | some response => pure response
    | none =>
        throw (.configurationError
          "A connection could not be established using the SLUGS URL.")
  if response.statusCode = 404 then
    throw (.permissionDenied ("Unrecognized user ID: " ++ userId))
  let response ←
    match service.groups with
    | some response => pure response
    | none => throw .requestException
  if response.statusCode = 404 then
    throw (.permissionDenied
      ("Group information could not be retrieved for user ID: " ++ userId))
  return ⟨userId, ← response.groups⟩

end Slugs

section Plugins

/-- One block of the authentication settings, with the service that the plugin
meets. -/
structure AuthSettings where
  pluginName : String
  pluginConfig : Dict String String
  service : SlugsService := {}

namespace AuthSettings

variable (settings : AuthSettings)

def isSlugs : Bool :=
  "auth:slugs".toList.isPrefixOf settings.pluginName.toList

def isEnabled : Bool := settings.pluginConfig.get "enabled" = some "True"

/-- What the plugin of the block returns or raises. -/
def authenticate (certificate : Certificate) :
    Except AuthenticationError SessionIdentity :=
  (SLUGSConnector.ofUrl (settings.pluginConfig.get "url")).authenticate
    settings.service certificate

end AuthSettings

/-- The loop over the blocks: the identity that the first plugin to succeed
returns, or else whether a plugin was enabled. -/
def tryPlugins (certificate : Certificate) (pluginEnabled : Bool) :
    List AuthSettings → SessionIdentity ⊕ Bool
  | [] => .inr pluginEnabled
  | authSettings :: rest =>
      if authSettings.isSlugs then
        if authSettings.isEnabled then
          match authSettings.authenticate certificate with
          | .ok clientIdentity => .inl clientIdentity
          | .error _ => tryPlugins certificate true rest
        else tryPlugins certificate pluginEnabled rest
      else tryPlugins certificate pluginEnabled rest

def authenticate (authSettings : List AuthSettings) (certificate : Certificate) :
    Except AuthenticationError SessionIdentity :=
  match tryPlugins certificate false authSettings with
  | .inl clientIdentity => .ok clientIdentity
  | .inr pluginEnabled =>
      match pluginEnabled, getClientIdentityFromCertificate certificate with
      | false, .ok clientIdentity => .ok ⟨clientIdentity, .null⟩
      | _, _ => .error (.permissionDenied "Authentication failed.")

end Plugins

end PyKMIP
