import PyKMIP.Properties.Authentication
import PyKMIP.Session.AccessDecision

/-!
# What confirms a SLUGS identity

The connector takes every answer other than one with status 404 as a
confirmation.  An identity is positively confirmed just when the first plugin
whose answers it takes was answered with success, with a list of groups.
-/

namespace PyKMIP

section Answers

/-- The statuses that report success. -/
def HttpResponse.Success (response : HttpResponse) : Prop :=
  200 ≤ response.statusCode ∧ response.statusCode < 300

instance (response : HttpResponse) : Decidable response.Success :=
  inferInstanceAs (Decidable (_ ∧ _))

/-- The body is an object whose `groups` are the list. -/
def HttpResponse.Lists (response : HttpResponse) (groups : List Json) : Prop :=
  ∃ members, response.body = some (.object members) ∧
    (Dict.ofPairs members).get "groups" = some (.array groups)

/-- Both queries were answered with success, and the groups are the list in the
second body. -/
def SlugsService.Confirms (service : SlugsService) (groups : Json) : Prop :=
  ∃ users answer elements, service.users = some users ∧ users.Success ∧
    service.groups = some answer ∧ answer.Success ∧
    answer.Lists elements ∧ groups = .array elements

/-- Both queries were answered with a status other than 404, the second one with
a JSON object. -/
def SlugsService.Answers (service : SlugsService) : Prop :=
  ∃ users answer members, service.users = some users ∧
    users.statusCode ≠ 404 ∧ service.groups = some answer ∧
    answer.statusCode ≠ 404 ∧ answer.body = some (.object members)

/-- A service that answers with success, and with a list of groups. -/
def SlugsService.AnswersInFull (service : SlugsService) : Prop :=
  ∃ groups, service.Confirms groups

end Answers

section Connectors

variable {certificate : Certificate} {settings : AuthSettings} {user : String}

/-- An enabled plugin that has a URL and is answered. -/
def AuthSettings.Answered (settings : AuthSettings) : Prop :=
  settings.Enabled ∧ settings.pluginConfig.get "url" ≠ none ∧
    settings.service.Answers

/-- The groups that a plugin takes from the answers to its queries. -/
def SlugsService.reported (service : SlugsService) : Json :=
  match service.groups with
  | some { body := some (.object members), .. } =>
      ((Dict.ofPairs members).get "groups").getD .null
  | _ => .null

theorem reported_eq {service : SlugsService} {answer : HttpResponse}
    {members : List (String × Json)} (listed : service.groups = some answer)
    (body : answer.body = some (.object members)) :
    service.reported = ((Dict.ofPairs members).get "groups").getD .null := by
  obtain ⟨statusCode, answerBody⟩ := answer
  subst body
  unfold SlugsService.reported
  rw [listed]

/-- What the connector reports of a full answer is its list. -/
theorem confirms_reported {service : SlugsService}
    (inFull : service.AnswersInFull) : service.Confirms service.reported := by
  obtain ⟨groups, confirms⟩ := inFull
  obtain ⟨users, answer, elements, asked, known, listed, found,
    ⟨members, body, list⟩, rfl⟩ := confirms
  have reported := reported_eq listed body
  rw [list, Option.getD_some] at reported
  rw [reported]
  exact ⟨users, answer, elements, asked, known, listed, found,
    ⟨members, body, list⟩, rfl⟩

theorem HttpResponse.groups_ok_iff {response : HttpResponse} {groups : Json} :
    response.groups = .ok groups ↔ ∃ members,
      response.body = some (.object members) ∧
        groups = ((Dict.ofPairs members).get "groups").getD .null := by
  unfold HttpResponse.groups
  cases response.body with
  | none => simp
  | some body =>
      cases body with
      | object members => simp [eq_comm]
      | _ => simp

/-- The queries, once the certificate has named the client. -/
theorem authenticate_named {url : String} {service : SlugsService}
    (named : getClientIdentityFromCertificate certificate = .ok user)
    {identity : SessionIdentity} :
    (SLUGSConnector.ofUrl (some url)).authenticate service certificate =
        .ok identity ↔
      ∃ users answer, service.users = some users ∧ users.statusCode ≠ 404 ∧
        service.groups = some answer ∧ answer.statusCode ≠ 404 ∧
        user = identity.user ∧ answer.groups = .ok identity.groups := by
  obtain ⟨users, groups⟩ := service
  obtain ⟨identityUser, identityGroups⟩ := identity
  unfold SLUGSConnector.authenticate SLUGSConnector.ofUrl
  simp only [named, bind, Except.bind]
  cases users with
  | none => simp [throw, throwThe, MonadExceptOf.throw]
  | some users =>
      by_cases unknown : users.statusCode = 404
      · simp [unknown, throw, throwThe, MonadExceptOf.throw, pure, Except.pure]
      · cases groups with
        | none =>
            simp [unknown, throw, throwThe, MonadExceptOf.throw, pure,
              Except.pure]
        | some answer =>
            by_cases missing : answer.statusCode = 404
            · simp [unknown, missing, throw, throwThe, MonadExceptOf.throw,
                pure, Except.pure]
            · cases reported : answer.groups with
              | error exception =>
                  simp [unknown, missing, reported, pure, Except.pure]
              | ok groups =>
                  simp [unknown, missing, reported, pure, Except.pure]

theorem authenticate_ok_iff {url : Option String} {service : SlugsService}
    {identity : SessionIdentity} :
    (SLUGSConnector.ofUrl url).authenticate service certificate =
        .ok identity ↔
      url ≠ none ∧ service.Answers ∧
        getClientIdentityFromCertificate certificate = .ok identity.user ∧
        identity.groups = service.reported := by
  cases url with
  | none =>
      simp [SLUGSConnector.authenticate, SLUGSConnector.ofUrl, bind,
        Except.bind, throw, throwThe, MonadExceptOf.throw]
  | some url =>
      cases named : getClientIdentityFromCertificate certificate with
      | error exception =>
          simp [SLUGSConnector.authenticate, SLUGSConnector.ofUrl, named, bind,
            Except.bind]
      | ok user =>
          rw [authenticate_named named]
          simp only [HttpResponse.groups_ok_iff, SlugsService.Answers,
            Except.ok.injEq]
          constructor
          · rintro ⟨users, answer, asked, known, listed, found, same, members,
              body, groups⟩
            refine ⟨Option.some_ne_none url, ⟨users, answer, members, asked,
              known, listed, found, body⟩, same, ?_⟩
            rw [groups, reported_eq listed body]
          · rintro ⟨-, ⟨users, answer, members, asked, known, listed, found,
              body⟩, same, groups⟩
            refine ⟨users, answer, asked, known, listed, found, same, members,
              body, ?_⟩
            rw [groups, reported_eq listed body]

/-- A plugin returns an identity just when it is answered and the certificate
names the user. -/
theorem yields_iff {identity : SessionIdentity} :
    settings.Yields certificate identity ↔
      settings.Answered ∧
        getClientIdentityFromCertificate certificate = .ok identity.user ∧
        identity.groups = settings.service.reported := by
  unfold AuthSettings.Yields AuthSettings.Answered AuthSettings.authenticate
  rw [authenticate_ok_iff]
  tauto

end Connectors

/-- An identity that a request is processed under was confirmed by the plugin
that it comes from. -/
def PositivelyConfirmed (session : KmipSession) (arrival : Arrival) : Prop :=
  ∀ certificate request identity,
    session.receive arrival = .ok (certificate, request) →
    session.admission arrival = .ok (request, identity) →
    ∀ earlier settings later,
      session.authSettings = earlier ++ settings :: later →
      (∀ other ∈ earlier, ∀ refused, ¬other.Yields certificate refused) →
      settings.Yields certificate identity →
      settings.service.Confirms identity.groups

theorem positivelyConfirmed_iff (session : KmipSession) (arrival : Arrival) :
    PositivelyConfirmed session arrival ↔
      ∀ certificate request user,
        session.receive arrival = .ok (certificate, request) →
        getClientIdentityFromCertificate certificate = .ok user →
        ∀ earlier settings later,
          session.authSettings = earlier ++ settings :: later →
          (∀ other ∈ earlier, ¬other.Answered) →
          settings.Answered →
          settings.service.AnswersInFull := by
  constructor
  · intro confirmed certificate request user received named earlier settings
      later split unanswered answered
    have yields : settings.Yields certificate
        ⟨user, settings.service.reported⟩ :=
      yields_iff.mpr ⟨answered, named, rfl⟩
    have failed : ∀ other ∈ earlier, ∀ refused,
        ¬other.Yields certificate refused :=
      fun other member refused alsoYields =>
        unanswered other member (yields_iff.mp alsoYields).1
    have accepted := authenticate_eq_ok_iff.mpr
      (.inl ⟨earlier, settings, later, split, failed, yields⟩)
    have admitted := admission_of_receive received
    rw [accepted] at admitted
    exact ⟨_, confirmed certificate request _ received admitted earlier settings
      later split failed yields⟩
  · intro inFull certificate request identity received admitted earlier settings
      later split failed yields
    obtain ⟨answered, named, groups⟩ := yields_iff.mp yields
    have unanswered : ∀ other ∈ earlier, ¬other.Answered := by
      intro other member alsoAnswered
      exact failed other member ⟨identity.user, other.service.reported⟩
        (yields_iff.mpr ⟨alsoAnswered, named, rfl⟩)
    rw [groups]
    exact confirms_reported (inFull certificate request identity.user received
      named earlier settings later split unanswered answered)

section Example

/-- A service that fails to answer either query. -/
def failingService : SlugsService where
  users := some { statusCode := 500 }
  groups := some { statusCode := 500, body := some (.object []) }

def failingSession : KmipSession where
  authSettings := [{
    pluginName := "auth:slugs"
    pluginConfig := .ofPairs [("enabled", "True"), ("url", "http://slugs")]
    service := failingService }]

def sampleArrival : Arrival where
  certificate := .ok (some {
    commonNames := ["alice"]
    extendedKeyUsage := some [KmipSession.clientAuth] })
  request := .ok {
    requestHeader := { protocolVersion := ⟨1, 2⟩ }
    batchItems := [{ requestPayload := .discoverVersions [] }] }

def staffPolicies : OperationPolicies :=
  [("default", {
    preset := some [(.symmetricKey, [(.get, .allowAll)])]
    groups := [("staff", [(.symmetricKey, [(.get, .disallowAll)])])] })]

/-- The client is taken for confirmed, and as it has no groups then, the preset
section decides for it. -/
theorem failingService_is_taken :
    ¬PositivelyConfirmed failingSession sampleArrival ∧
      failingSession.admission sampleArrival =
        .ok ({ requestHeader := { protocolVersion := ⟨1, 2⟩ }
               batchItems := [{ requestPayload := .discoverVersions [] }] },
          ⟨"alice", .null⟩) ∧
      (⟨"alice", .null⟩ : SessionIdentity).isAllowed staffPolicies
        (some "default") none .symmetricKey .get = .ok true := by
  have admitted : failingSession.admission sampleArrival =
      .ok ({ requestHeader := { protocolVersion := ⟨1, 2⟩ }
             batchItems := [{ requestPayload := .discoverVersions [] }] },
        ⟨"alice", .null⟩) := rfl
  refine ⟨fun confirmed => ?_, admitted, by decide⟩
  obtain ⟨users, answer, elements, asked, ⟨-, below⟩, -⟩ :=
    confirmed _ _ ⟨"alice", .null⟩ rfl admitted [] _ [] rfl (by simp)
      ⟨⟨rfl, rfl⟩, rfl⟩
  cases asked
  revert below
  decide

end Example

end PyKMIP
