import PyKMIP.Session.MessageLoop

/-!
# Authentication never falls back past an enabled plugin

The identity of a client is that of the first enabled plugin that succeeds.
The certificate alone decides only when no plugin is enabled.
-/

namespace PyKMIP

open StatefulExcept

section Plugins

variable (certificate : Certificate)

/-- A SLUGS plugin whose block enables it. -/
def AuthSettings.Enabled (settings : AuthSettings) : Prop :=
  settings.isSlugs = true ∧ settings.isEnabled = true

/-- An enabled plugin that returns an identity. -/
def AuthSettings.Yields (settings : AuthSettings)
    (identity : SessionIdentity) : Prop :=
  settings.Enabled ∧ settings.authenticate certificate = .ok identity

/-- The first enabled plugin in the order of the list that succeeds returns the
identity. -/
def FirstYields (authSettings : List AuthSettings) (identity : SessionIdentity) :
    Prop :=
  ∃ earlier settings later,
    authSettings = earlier ++ settings :: later ∧
    (∀ other ∈ earlier, ∀ refused, ¬other.Yields certificate refused) ∧
    settings.Yields certificate identity

/-- No plugin is enabled, and the certificate names the client. -/
def CertificateYields (authSettings : List AuthSettings)
    (identity : SessionIdentity) : Prop :=
  (∀ settings ∈ authSettings, ¬settings.Enabled) ∧
    getClientIdentityFromCertificate certificate = .ok identity.user ∧
    identity.groups = .null

variable {certificate : Certificate} {settings : AuthSettings}
  {rest : List AuthSettings} {identity : SessionIdentity}

theorem firstYields_nil : ¬FirstYields certificate [] identity := by
  rintro ⟨earlier, settings, later, split, -⟩
  simp at split

theorem firstYields_cons :
    FirstYields certificate (settings :: rest) identity ↔
      settings.Yields certificate identity ∨
        (∀ refused, ¬settings.Yields certificate refused) ∧
          FirstYields certificate rest identity := by
  constructor
  · rintro ⟨earlier, first, later, split, failed, yields⟩
    cases earlier with
    | nil =>
        cases split
        exact .inl yields
    | cons head earlier =>
        cases split
        exact .inr ⟨failed _ (.head _), earlier, first, later, rfl,
          fun other member => failed other (.tail _ member), yields⟩
  · rintro (yields | ⟨fails, earlier, first, later, rfl, failed, yields⟩)
    · exact ⟨[], settings, rest, rfl, by simp, yields⟩
    · refine ⟨settings :: earlier, first, later, rfl, ?_, yields⟩
      intro other member
      rcases List.mem_cons.mp member with rfl | member
      · exact fails
      · exact failed other member

/-- A block that is not enabled, or whose plugin fails, is passed over; an
enabled one is remembered. -/
theorem tryPlugins_cons
    (fails : ∀ refused, ¬settings.Yields certificate refused)
    (rest : List AuthSettings)
    (pluginEnabled : Bool) :
    ∃ enabled, (enabled = true ↔ pluginEnabled = true ∨ settings.Enabled) ∧
      tryPlugins certificate pluginEnabled (settings :: rest) =
        tryPlugins certificate enabled rest := by
  unfold AuthSettings.Yields AuthSettings.Enabled at *
  rw [tryPlugins]
  cases slugs : settings.isSlugs with
  | false => exact ⟨pluginEnabled, by simp, rfl⟩
  | true =>
      cases enabled : settings.isEnabled with
      | false => exact ⟨pluginEnabled, by simp, rfl⟩
      | true =>
          cases outcome : settings.authenticate certificate with
          | ok identity =>
              exact absurd ⟨⟨slugs, enabled⟩, outcome⟩ (fails identity)
          | error exception => exact ⟨true, by simp, rfl⟩

theorem tryPlugins_of_yields
    (yields : settings.Yields certificate identity) (pluginEnabled : Bool) :
    tryPlugins certificate pluginEnabled (settings :: rest) = .inl identity := by
  obtain ⟨⟨slugs, enabled⟩, outcome⟩ := yields
  rw [tryPlugins, if_pos slugs, if_pos enabled, outcome]

/-- The loop ends with an identity when a plugin succeeds, and else with whether
one was enabled. -/
theorem tryPlugins_cases
    (certificate : Certificate) (authSettings : List AuthSettings)
    (pluginEnabled : Bool) :
    (∃ identity, FirstYields certificate authSettings identity ∧
      tryPlugins certificate pluginEnabled authSettings = .inl identity) ∨
    (∀ identity, ¬FirstYields certificate authSettings identity) ∧
      ∃ enabled, (enabled = true ↔
          pluginEnabled = true ∨ ∃ settings ∈ authSettings, settings.Enabled) ∧
        tryPlugins certificate pluginEnabled authSettings = .inr enabled := by
  induction authSettings generalizing pluginEnabled with
  | nil =>
      exact .inr ⟨fun _ => firstYields_nil, pluginEnabled, by simp, rfl⟩
  | cons settings rest ih =>
      by_cases succeeds : ∃ identity, settings.Yields certificate identity
      · obtain ⟨identity, yields⟩ := succeeds
        exact .inl ⟨identity, firstYields_cons.mpr (.inl yields),
          tryPlugins_of_yields yields pluginEnabled⟩
      · have fails := not_exists.mp succeeds
        obtain ⟨between, remembered, passed⟩ :=
          tryPlugins_cons fails rest pluginEnabled
        rw [passed]
        rcases ih between with ⟨identity, first, ran⟩ | ⟨none, enabled, iff, ran⟩
        · exact .inl ⟨identity, firstYields_cons.mpr (.inr ⟨fails, first⟩), ran⟩
        · refine .inr ⟨fun identity first => ?_, enabled, ?_, ran⟩
          · rcases firstYields_cons.mp first with yields | ⟨-, first⟩
            · exact fails identity yields
            · exact none identity first
          · rw [iff, remembered]
            simp [or_assoc]

end Plugins

section Endings

variable {certificate : Certificate} {authSettings : List AuthSettings}
  {identity : SessionIdentity} {enabled : Bool}

theorem FirstYields.unique {other : SessionIdentity}
    (first : FirstYields certificate authSettings identity)
    (second : FirstYields certificate authSettings other) :
    identity = other := by
  induction authSettings with
  | nil => exact absurd first firstYields_nil
  | cons settings rest ih =>
      rcases firstYields_cons.mp first with yields | ⟨fails, first⟩
      · rcases firstYields_cons.mp second with alsoYields | ⟨fails, -⟩
        · have same := yields.2.symm.trans alsoYields.2
          cases same
          rfl
        · exact absurd yields (fails identity)
      · rcases firstYields_cons.mp second with yields | ⟨-, second⟩
        · exact absurd yields (fails other)
        · exact ih first second

theorem authenticate_of_plugin
    (ran : tryPlugins certificate false authSettings = .inl identity) :
    authenticate authSettings certificate = .ok identity := by
  unfold authenticate
  rw [ran]

/-- After the loop the certificate is asked when no plugin was enabled. -/
theorem authenticate_of_disabled
    (ran : tryPlugins certificate false authSettings = .inr false) :
    authenticate authSettings certificate =
      match getClientIdentityFromCertificate certificate with
      | .ok clientIdentity => .ok ⟨clientIdentity, .null⟩
      | .error _ => .error (.permissionDenied "Authentication failed.") := by
  unfold authenticate
  rw [ran]
  cases getClientIdentityFromCertificate certificate <;> rfl

theorem authenticate_of_enabled
    (ran : tryPlugins certificate false authSettings = .inr true) :
    authenticate authSettings certificate =
      .error (.permissionDenied "Authentication failed.") := by
  unfold authenticate
  rw [ran]

theorem CertificateYields.unique {other : SessionIdentity}
    (first : CertificateYields certificate authSettings identity)
    (second : CertificateYields certificate authSettings other) :
    identity = other := by
  obtain ⟨user, groups⟩ := identity
  obtain ⟨otherUser, otherGroups⟩ := other
  obtain ⟨-, named, rfl⟩ := first
  obtain ⟨-, alsoNamed, rfl⟩ := second
  have same := named.symm.trans alsoNamed
  cases same
  rfl

theorem FirstYields.not_certificateYields {other : SessionIdentity}
    (first : FirstYields certificate authSettings identity) :
    ¬CertificateYields certificate authSettings other := by
  obtain ⟨earlier, settings, later, rfl, -, enabled, -⟩ := first
  rintro ⟨disabled, -⟩
  exact disabled settings (by simp) enabled

/-- The three ways in which authentication ends. -/
theorem authenticate_cases
    (certificate : Certificate) (authSettings : List AuthSettings) :
    (∃ identity, FirstYields certificate authSettings identity ∧
      authenticate authSettings certificate = .ok identity) ∨
    (∃ identity, CertificateYields certificate authSettings identity ∧
      authenticate authSettings certificate = .ok identity) ∨
    (∀ identity, ¬FirstYields certificate authSettings identity ∧
        ¬CertificateYields certificate authSettings identity) ∧
      authenticate authSettings certificate =
        .error (.permissionDenied "Authentication failed.") := by
  rcases tryPlugins_cases certificate authSettings false with
    ⟨identity, yields, ran⟩ | ⟨none, enabled, iff, ran⟩
  · exact .inl ⟨identity, yields, authenticate_of_plugin ran⟩
  · right
    cases enabled with
    | true =>
        rcases iff.mp rfl with start | ⟨settings, member, isEnabled⟩
        · cases start
        · exact .inr ⟨fun identity => ⟨none identity, fun fallsBack =>
            fallsBack.1 settings member isEnabled⟩, authenticate_of_enabled ran⟩
    | false =>
        have ended := authenticate_of_disabled ran
        have disabled : ∀ settings ∈ authSettings, ¬settings.Enabled := by
          intro settings member isEnabled
          have := iff.mpr (.inr ⟨settings, member, isEnabled⟩)
          cases this
        cases named : getClientIdentityFromCertificate certificate with
        | ok clientIdentity =>
            rw [named] at ended
            exact .inl ⟨⟨clientIdentity, .null⟩, ⟨disabled, named, rfl⟩, ended⟩
        | error exception =>
            rw [named] at ended
            refine .inr ⟨fun identity => ⟨none identity, ?_⟩, ended⟩
            rintro ⟨-, alsoNamed, -⟩
            rw [named] at alsoNamed
            cases alsoNamed

theorem authenticate_eq_ok_iff :
    authenticate authSettings certificate = .ok identity ↔
      FirstYields certificate authSettings identity ∨
        CertificateYields certificate authSettings identity := by
  rcases authenticate_cases certificate authSettings with
    ⟨first, yields, ran⟩ | ⟨first, fallsBack, ran⟩ | ⟨neither, ran⟩
  · rw [ran, Except.ok.injEq]
    constructor
    · rintro rfl
      exact .inl yields
    · rintro (alsoYields | fallsBack)
      · exact yields.unique alsoYields
      · exact absurd fallsBack yields.not_certificateYields
  · rw [ran, Except.ok.injEq]
    constructor
    · rintro rfl
      exact .inr fallsBack
    · rintro (yields | alsoFallsBack)
      · exact absurd fallsBack yields.not_certificateYields
      · exact fallsBack.unique alsoFallsBack
  · rw [ran]
    constructor
    · intro same
      cases same
    · rintro (yields | fallsBack)
      · exact absurd yields (neither identity).1
      · exact absurd fallsBack (neither identity).2

end Endings

/-- How a session authenticates the holder of a certificate. -/
structure Authenticates (session : KmipSession) (certificate : Certificate) :
    Prop where
  /-- The identity is that of the first enabled plugin to succeed, or, only when
  no plugin is enabled, that of the certificate. -/
  returns : ∀ identity,
    authenticate session.authSettings certificate = .ok identity ↔
      FirstYields certificate session.authSettings identity ∨
        CertificateYields certificate session.authSettings identity
  /-- The two ways exclude each other. -/
  exclusive : ∀ first second,
    FirstYields certificate session.authSettings first →
      ¬CertificateYields certificate session.authSettings second
  /-- In every other case permission is denied. -/
  denies : (∀ identity,
      ¬FirstYields certificate session.authSettings identity ∧
        ¬CertificateYields certificate session.authSettings identity) →
    authenticate session.authSettings certificate =
      .error (.permissionDenied "Authentication failed.")
  /-- Without an identity the engine is not called: its state stays, and the
  reply is an authentication error. -/
  stops : ∀ {σ : Type} (engine : RequestEngine σ) (world : ResponseWorld)
      (arrival : Arrival) (request : RequestMessage) (state : σ),
    session.receive arrival = .ok (certificate, request) →
    (∀ identity,
      authenticate session.authSettings certificate ≠ .ok identity) →
    (session.handleMessage engine world arrival).run state =
      concluded (KmipSession.encodeReply world
        (some request.requestHeader.protocolVersion)
        { response := KmipSession.buildErrorResponse world.answered
            (KmipSession.unauthenticated request) }) state
  /-- With an identity the engine processes the request for it. -/
  proceeds : ∀ {σ : Type} (engine : RequestEngine σ) (world : ResponseWorld)
      (arrival : Arrival) (request : RequestMessage)
      (identity : SessionIdentity),
    session.receive arrival = .ok (certificate, request) →
    authenticate session.authSettings certificate = .ok identity →
    session.handleMessage engine world arrival =
      (do
        let reply ← KmipSession.process engine world request identity
        fromExcept (KmipSession.encodeReply world
          (some request.requestHeader.protocolVersion) reply))

section Sessions

variable {session : KmipSession} {certificate : Certificate}
  {arrival : Arrival} {request : RequestMessage}

theorem receive_eq_ok
    (received : session.receive arrival = .ok (certificate, request)) :
    arrival.certificate >>= session.checkCertificate = .ok certificate ∧
      arrival.request = .ok request := by
  unfold KmipSession.receive at received
  split at received
  · rename_i verified loaded
    split at received
    · rename_i message parsed
      cases received
      exact ⟨loaded, parsed⟩
    · cases received
    · cases received
  · cases received
  · cases received

theorem headerVersion_of_receive
    (received : session.receive arrival = .ok (certificate, request)) :
    session.headerVersion arrival =
      some request.requestHeader.protocolVersion := by
  obtain ⟨loaded, parsed⟩ := receive_eq_ok received
  unfold KmipSession.headerVersion
  rw [loaded, parsed]

theorem admission_of_receive
    (received : session.receive arrival = .ok (certificate, request)) :
    session.admission arrival =
      match authenticate session.authSettings certificate with
      | .ok clientIdentity => .ok (request, clientIdentity)
      | .error _ => .error (KmipSession.unauthenticated request) := by
  unfold KmipSession.admission
  rw [received]
  rfl

end Sessions

/-- Authentication never falls back past an enabled plugin. -/
theorem authentication_never_falls_back
    (session : KmipSession) (certificate : Certificate) :
    Authenticates session certificate := by
  refine {
    returns := fun _ => authenticate_eq_ok_iff
    exclusive := fun first second yields => yields.not_certificateYields
    denies := ?_
    stops := ?_
    proceeds := ?_ }
  · intro neither
    rcases authenticate_cases certificate session.authSettings with
      ⟨first, yields, -⟩ | ⟨first, fallsBack, -⟩ | ⟨-, ran⟩
    · exact absurd yields (neither first).1
    · exact absurd fallsBack (neither first).2
    · exact ran
  · intro σ engine world arrival request state received denied
    have version := headerVersion_of_receive received
    have admitted := admission_of_receive received
    cases outcome : authenticate session.authSettings certificate with
    | ok identity => exact absurd outcome (denied identity)
    | error exception =>
        rw [outcome] at admitted
        unfold KmipSession.handleMessage
        rw [admitted, version]
        exact run_fromExcept_concluded _ _
  · intro σ engine world arrival request identity received accepted
    have version := headerVersion_of_receive received
    have admitted := admission_of_receive received
    rw [accepted] at admitted
    unfold KmipSession.handleMessage
    rw [admitted, version]

end PyKMIP
