import HomeAutomation.Http.Reaction
import HomeAutomation.Proofs.Backend.Trace

/-!
# The shared secret

Whoever does not show the secret is refused at every endpoint for automations before any backend is
asked. The refusal depends on the request alone (`Http.refusal`): it is the same for all settings
with a secret that is not shown, so it tells nothing about them. A request that shows the secret is
answered as if there were none.
-/

namespace HomeAutomation

/-- The request shows the secret. -/
def HttpRequest.Shows (r : HttpRequest) (secret : String) : Prop :=
  r.header? Http.secretHeader = some secret

def Settings.withoutSecret (settings : Settings) : Settings :=
  { settings with secret := "" }

def HttpAnswer.IsSuccess (answer : HttpAnswer) : Prop :=
  200 ≤ answer.status ∧ answer.status < 300

namespace Http

variable {settings : Settings} {r : HttpRequest}

theorem isAuthorized_iff :
    isAuthorized settings r = true ↔ settings.secret = "" ∨ r.Shows settings.secret := by
  unfold isAuthorized HttpRequest.Shows
  -- an absent header is compared like an empty one, which is the secret only if there is none
  rw [Bool.or_eq_true, beq_iff_eq, String.isEmpty_iff]
  cases r.header? secretHeader with
  | none =>
      constructor
      · rintro (hempty | hempty)
        · exact .inl hempty
        · exact .inl hempty.symm
      · rintro (hempty | hshown)
        · exact .inl hempty
        · cases hshown
  | some shown => simp

theorem isAuthorized_withoutSecret (settings : Settings) (r : HttpRequest) :
    isAuthorized settings.withoutSecret r = true :=
  isAuthorized_iff.mpr (.inl rfl)

/-- The content that is looked at for an endpoint. -/
def contentFor (r : HttpRequest) (endpoint : Endpoint) : HttpRequest.Content :=
  if takesBody endpoint then r.content else .absent

/-- What is told to those who do not show the secret. That a body cannot be read at all is noticed
before the secret is looked at. -/
def refusal (r : HttpRequest) (endpoint : Endpoint) : HttpAnswer :=
  match contentFor r endpoint with
  | .malformed position => .unprocessable [⟨[.index position], .badJson⟩]
  | .unreadable => .refusal 400 "There was an error parsing the body"
  | _ => .refusal 401 "Unauthorized"

theorem not_isSuccess_refusal (r : HttpRequest) (endpoint : Endpoint) :
    ¬ (refusal r endpoint).IsSuccess := by
  unfold refusal HttpAnswer.IsSuccess
  cases contentFor r endpoint with
  | malformed position => simp [HttpAnswer.unprocessable]
  | unreadable => simp [HttpAnswer.refusal]
  | absent => simp [HttpAnswer.refusal]
  | value v => simp [HttpAnswer.refusal]

theorem atEndpoint_of_not_isAuthorized (clock : Int) {endpoint : Endpoint}
    (hendpoint : endpoint ≠ .health) (h : ¬ isAuthorized settings r = true) :
    atEndpoint settings clock r endpoint = .done (refusal r endpoint) := by
  unfold atEndpoint refusal contentFor
  cases if takesBody endpoint then r.content else HttpRequest.Content.absent with
  | malformed position => rfl
  | unreadable => rfl
  | absent => simp [guarded_eq, hendpoint, h]
  | value v => simp [guarded_eq, hendpoint, h]

/-- An authorized request is served without another look at the secret. -/
theorem serve_withoutSecret (settings : Settings) (clock : Int) (r : HttpRequest)
    (content : HttpRequest.Content) (endpoint : Endpoint) :
    serve settings.withoutSecret clock r content endpoint =
      serve settings clock r content endpoint := by
  cases endpoint <;> rfl

theorem atEndpoint_of_isAuthorized (clock : Int) (endpoint : Endpoint)
    (h : isAuthorized settings r = true) :
    atEndpoint settings clock r endpoint = atEndpoint settings.withoutSecret clock r endpoint := by
  unfold atEndpoint
  cases if takesBody endpoint then r.content else HttpRequest.Content.absent with
  | malformed position => rfl
  | unreadable => rfl
  | absent => simp [guarded_eq, h, isAuthorized_withoutSecret, serve_withoutSecret]
  | value v => simp [guarded_eq, h, isAuthorized_withoutSecret, serve_withoutSecret]

end Http

/-- A request to an endpoint for automations that does not show the secret is refused without any
request to a backend, in a way that neither the backends nor the settings have a say in. If there is
no secret, or it is shown, every request is answered as it is with no secret. -/
theorem secret_guards_automations (r : HttpRequest) :
    (∀ endpoint, Endpoint.find r.method r.path = .found endpoint → endpoint ≠ .health →
      ∃ refusal : HttpAnswer, ¬ refusal.IsSuccess ∧
        ∀ (settings : Settings) (w : Circumstances), settings.secret ≠ "" →
          ¬ r.Shows settings.secret →
          w.requests (Http.answer settings w.clock r) = [] ∧
            w.outcome (Http.answer settings w.clock r) = refusal) ∧
    ∀ (settings : Settings) (clock : Int), settings.secret = "" ∨ r.Shows settings.secret →
      Http.answer settings clock r = Http.answer settings.withoutSecret clock r := by
  constructor
  · intro endpoint hfind hendpoint
    refine ⟨Http.refusal r endpoint, Http.not_isSuccess_refusal r endpoint, ?_⟩
    intro settings w hsecret hshows
    have hnot : ¬ Http.isAuthorized settings r = true := by
      rw [Http.isAuthorized_iff]
      rintro (hempty | hshown)
      · exact hsecret hempty
      · exact hshows hshown
    have hanswer : Http.answer settings w.clock r = .done (Http.refusal r endpoint) := by
      rw [Http.answer, hfind]
      exact Http.atEndpoint_of_not_isAuthorized w.clock hendpoint hnot
    rw [hanswer]
    exact ⟨rfl, rfl⟩
  · intro settings clock h
    rw [Http.answer, Http.answer]
    cases Endpoint.find r.method r.path with
    | found endpoint =>
        exact Http.atEndpoint_of_isAuthorized clock endpoint (Http.isAuthorized_iff.mpr h)
    | wrongMethod => rfl
    | unknown => rfl

/-- Deleting is refused with a wrong secret, whoever would have answered, and with the right one it
is answered as with no secret. -/
theorem secret_guards_automations_delete :
    let settings : Settings := ⟨some "https://platform.example", 10.0, none, none, "", 10.0,
      Settings.defaultMode, "secret", false⟩
    let delete (shown : String) : HttpRequest :=
      ⟨"DELETE", "/api/automations/lamp", [(Http.secretHeader, shown)], none⟩
    let w : Circumstances := ⟨Unit, 0, fun _ _ => (.ok ⟨200, ""⟩, ()), ()⟩
    let v : Circumstances := ⟨Unit, 5, fun _ _ => (.error ⟨.brokeDown, "reset"⟩, ()), ()⟩
    w.requests (Http.answer settings w.clock (delete "Secret")) = [] ∧
      w.outcome (Http.answer settings w.clock (delete "Secret")) =
        v.outcome (Http.answer settings v.clock (delete "Secret")) ∧
      Http.answer settings 0 (delete "secret") =
        Http.answer settings.withoutSecret 0 (delete "secret") := by
  intro settings delete w v
  have hfind : Endpoint.find (delete "Secret").method (delete "Secret").path =
      .found (.delete "lamp") := by decide
  have hsecret : settings.secret ≠ "" := by decide
  have hshows (shown : String) : (delete shown).Shows shown := by
    simp [delete, HttpRequest.Shows, HttpRequest.header?]
  have hwrong : ¬ (delete "Secret").Shows settings.secret := by
    intro h
    exact absurd ((hshows "Secret").symm.trans h) (by decide)
  obtain ⟨hguard, -⟩ := secret_guards_automations (delete "Secret")
  obtain ⟨refusal, -, hrefused⟩ := hguard _ hfind nofun
  obtain ⟨hnone, hw⟩ := hrefused settings w hsecret hwrong
  obtain ⟨-, hv⟩ := hrefused settings v hsecret hwrong
  exact ⟨hnone, hw.trans hv.symm, (secret_guards_automations (delete "secret")).2 settings 0
    (.inr (hshows "secret"))⟩

end HomeAutomation
