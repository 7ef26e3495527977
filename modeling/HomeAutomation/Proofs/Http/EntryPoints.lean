import HomeAutomation.Http.Reaction
import HomeAutomation.Proofs.Backend.Change
import HomeAutomation.Proofs.Draft.Finite
import HomeAutomation.Proofs.Native.Describable

/-!
# One criterion at every entry point

A draft is checked when it is compiled, validated alone, created, replaced, posted to the server or
previewed by it. All of them follow the criterion of `Draft.IsRunnable`: either every one accepts
the draft (`IsAcceptedEverywhere`), or every one rejects it for the same reason and no backend is
asked for anything (`IsRejectedEverywhere`).
-/

namespace HomeAutomation

namespace HttpRequest

def draft? (r : HttpRequest) : Option Draft :=
  match r.content with
  | .value v => (Draft.readBody v).toExcept.toOption
  | _ => none

theorem draft?_eq_some_iff {r : HttpRequest} {draft : Draft} :
    r.draft? = some draft ↔ ∃ v, r.content = .value v ∧ Draft.readBody v = .valid draft := by
  unfold draft?
  cases r.content with
  | value v =>
      cases hread : Draft.readBody v with
      | valid other => simp [hread, Checked.toExcept, Except.toOption]
      | invalid issues => simp [hread, Checked.toExcept, Except.toOption]
  | _ => simp

/-- The request posts the draft to the path and may do so. -/
structure Posts (r : HttpRequest) (settings : Settings) (path : String)
    (draft : Draft) : Prop where
  method_eq : r.method = "POST"
  path_eq : r.path = path.toList
  isAuthorized : Http.isAuthorized settings r = true
  draft?_eq : r.draft? = some draft

end HttpRequest

namespace Draft

def createPath : String := "/api/automations"

def previewPath : String := "/api/automations/compile"

/-- Every entry point accepts the draft. Whether a backend then takes it is another matter. -/
structure IsAcceptedEverywhere (draft : Draft) : Prop where
  /-- Checking gives the configuration that compiling gives. -/
  checked_eq : draft.checked = .ok draft.compile
  /-- Validating finds nothing. -/
  validate_eq : draft.rejectionAs? draft.compile = none
  /-- Nor does it when the configuration is given in JSON. -/
  validateFields_eq : draft.rejectionAsFields? draft.compile.toFields = none
  create_ne : ∀ (backends : Backends) (access : Access) (clock : Int) {σ : Type}
    (transport : σ → Request → Reply × σ) (s : σ) (why : Rejection),
    ((backends.create access clock draft).run transport s).1 ≠ .error (.rejected why)
  update_ne : ∀ (backends : Backends) (access : Access) (clock : Int) (id : String) {σ : Type}
    (transport : σ → Request → Reply × σ) (s : σ) (why : Rejection),
    ((backends.update access clock id draft).run transport s).1 ≠ .error (.rejected why)
  post_ne : ∀ (settings : Settings) (clock : Int) (r : HttpRequest),
    r.Posts settings createPath draft →
    ∀ {σ : Type} (transport : σ → Request → Reply × σ) (s : σ),
    ((Http.answer settings clock r).run transport s).1.status ≠ 400
  /-- The preview shows the configuration. -/
  preview_eq : draft.toJson.isFinite = true →
    ∀ (settings : Settings) (clock : Int) (r : HttpRequest),
    r.Posts settings previewPath draft →
    ∃ more, Http.answer settings clock r = .done (.ok
      (("ok", .bool true) :: ("error", .null) :: ("config", draft.compile.toJson) :: more))
  /-- The platform is sent the same configuration. -/
  haConfig_eq : ∀ (backends : Backends) (access : Access) (clock : Int) {σ : Type}
    (transport : σ → Request → Reply × σ) (s : σ), backends.platform.url ≠ "" →
    ((backends.create access clock draft).run transport s).2.1.head? =
      some (backends.platform.requestOf ⟨"POST", "/api/automations",
        .obj [("draft", draft.toWire), ("haConfig", draft.compile.toJson)]⟩)

/-- Every entry point rejects the draft for the same reason, and no backend is asked. -/
structure IsRejectedEverywhere (draft : Draft) (why : Rejection) : Prop where
  checked_eq : draft.checked = .error why
  validate_eq : draft.rejectionAs? draft.compile = some why
  validateFields_eq : draft.rejectionAsFields? draft.compile.toFields = some why
  create_eq : ∀ (backends : Backends) (access : Access) (clock : Int) {σ : Type}
    (transport : σ → Request → Reply × σ) (s : σ),
    (backends.create access clock draft).run transport s = (.error (.rejected why), [], s)
  update_eq : ∀ (backends : Backends) (access : Access) (clock : Int) (id : String) {σ : Type}
    (transport : σ → Request → Reply × σ) (s : σ),
    (backends.update access clock id draft).run transport s = (.error (.rejected why), [], s)
  post_eq : ∀ (settings : Settings) (clock : Int) (r : HttpRequest),
    r.Posts settings createPath draft →
    Http.answer settings clock r = .done (.refusal 400 why.message)
  preview_eq : draft.toJson.isFinite = true →
    ∀ (settings : Settings) (clock : Int) (r : HttpRequest),
    r.Posts settings previewPath draft →
    ∃ more, Http.answer settings clock r = .done (.ok
      (("ok", .bool false) :: ("error", .str why.message) ::
        ("config", draft.compile.toJson) :: more))

end Draft

namespace Backends

variable {α σ : Type} (backends : Backends) (access : Access)
  (transport : σ → Request → Reply × σ) (s : σ)

theorem run_withFallback_ne_rejected (primary : Platform.Attempt α)
    (fallback : Hub → Hub.Attempt α) (why : Rejection) :
    ((backends.withFallback access primary fallback).run transport s).1 ≠
      .error (.rejected why) := by
  rw [withFallback, Dialogue.run_andThen]
  cases (primary.run transport s).1 with
  | ok a => simp
  | error why =>
      cases why with
      | foreign fault => simp
      | told e =>
          cases hhub : backends.hub? access with
          | none => simp
          | some hub =>
              simp only [Dialogue.run_map]
              split <;> simp

theorem run_accepted_ne_rejected {operation : Operation (Backend × Unit)} {why : Rejection}
    (h : (operation.run transport s).1 ≠ .error (.rejected why)) :
    ((accepted operation).run transport s).1 ≠ .error (.rejected why) := by
  rw [accepted, Dialogue.run_map]
  intro hmap
  cases hrun : (operation.run transport s).1 with
  | ok result => simp [hrun, Except.map] at hmap
  | error e =>
      rw [hrun] at hmap
      exact h (hrun.trans (congrArg Except.error (Except.error.inj hmap)))

end Backends

namespace Http

variable {settings : Settings} {r : HttpRequest} {path : String} {draft : Draft}

theorem answer_eq_serve (h : r.Posts settings path draft) (endpoint : Endpoint)
    (hfind : Endpoint.find "POST" path.toList = .found endpoint)
    (htakes : takesBody endpoint = true) (clock : Int) :
    ∃ v, Draft.readBody v = .valid draft ∧
      answer settings clock r = serve settings clock r (.value v) endpoint := by
  obtain ⟨v, hcontent, hread⟩ := HttpRequest.draft?_eq_some_iff.mp h.draft?_eq
  refine ⟨v, hread, ?_⟩
  rw [answer, h.method_eq, h.path_eq, hfind]
  simp only [atEndpoint, htakes, if_true, hcontent, guarded_eq, h.isAuthorized,
    Bool.or_true]

theorem answer_create (h : r.Posts settings Draft.createPath draft) (clock : Int) :
    answer settings clock r =
      ((backends settings).create (access settings r) clock draft).map (outcome []) := by
  obtain ⟨v, hread, hserve⟩ := answer_eq_serve h .create rfl rfl clock
  rw [hserve, serve, withDraft, hread]

theorem answer_compile (h : r.Posts settings Draft.previewPath draft) (clock : Int) :
    answer settings clock r = .done (preview draft) := by
  obtain ⟨v, hread, hserve⟩ := answer_eq_serve h .compile rfl rfl clock
  rw [hserve, serve, withDraft, hread]

/-- The server calls it a bad request only when a draft is rejected. -/
theorem status_outcome_ne {result : Except OperationError Outcome}
    (h : ∀ why, result ≠ .error (.rejected why)) (extra : Json.Fields) :
    (outcome extra result).status ≠ 400 := by
  match result with
  | .ok (.accepted backend) => simp [outcome, HttpAnswer.ok]
  | .ok (.refused e) => simp [outcome, HttpAnswer.refusal]
  | .error (.rejected why) => exact absurd rfl (h why)
  | .error (.failed e hub) => simp [outcome, failure, HttpAnswer.refusal]
  | .error (.foreign fault) => simp [outcome, failure, HttpAnswer.broken]

theorem preview_eq (h : draft.toJson.isFinite = true) :
    ∃ more, preview draft = .ok
      (("ok", .bool (draft.rejectionAs? draft.compile).isNone) ::
        ("error", .ofText? ((draft.rejectionAs? draft.compile).map Rejection.message)) ::
        ("config", draft.compile.toJson) :: more) := by
  obtain ⟨description, hdescription⟩ := draft.compile.exists_description
  refine ⟨("yaml", .str (Yaml.render draft.compile.toJson)) :: description.toFields, ?_⟩
  simp only [preview, hdescription, Draft.isFinite_compile h, if_true, Option.isNone_map]
  rfl

end Http

/-- What is said about a rejection can be shown to anybody. -/
theorem Rejection.friendly_message (why : Rejection) : friendly why.message = why.message := by
  cases why <;> decide +kernel

namespace Draft

variable {draft : Draft}

/-- Looked at as JSON, the configuration is validated as it is when it is compiled. -/
theorem rejectionAsFields?_compile (draft : Draft) :
    draft.rejectionAsFields? draft.compile.toFields = draft.rejectionAs? draft.compile := by
  have hvoid {β : Type} (values : List β) (write : β → Json) :
      (Json.arr (values.map write)).isVoid = values.isEmpty := by
    cases values <;> rfl
  rw [rejectionAsFields?, rejectionAs?, NativeAutomation.field_trigger,
    NativeAutomation.field_action, hvoid, hvoid]

theorem IsAccepted.isAcceptedEverywhere (h : draft.IsAccepted) : draft.IsAcceptedEverywhere := by
  have hnone := (checked_eq_ok_iff.mp h.checked_eq).1
  have hcreate (backends : Backends) (access : Access) (clock : Int) {σ : Type}
      (transport : σ → Request → Reply × σ) (s : σ) (why : Rejection) :
      ((backends.create access clock draft).run transport s).1 ≠ .error (.rejected why) := by
    rw [Backends.create, h.checked_eq]
    apply Backends.run_accepted_ne_rejected
    apply Backends.run_withFallback_ne_rejected
  exact {
    checked_eq := h.checked_eq
    validate_eq := hnone
    validateFields_eq := by rw [rejectionAsFields?_compile, hnone]
    create_ne := hcreate
    update_ne := by
      intro backends access clock id σ transport s why
      rw [Backends.update_ofString, (h.withId id).checked_eq]
      apply Backends.run_accepted_ne_rejected
      apply Backends.run_withFallback_ne_rejected
    post_ne := by
      intro settings clock r hr σ transport s
      rw [Http.answer_create hr, Dialogue.run_map]
      exact Http.status_outcome_ne (hcreate _ _ clock transport s) []
    preview_eq := by
      intro hfinite settings clock r hr
      obtain ⟨more, hmore⟩ := Http.preview_eq hfinite
      rw [hnone] at hmore
      exact ⟨more, by rw [Http.answer_compile hr, hmore]; rfl⟩
    haConfig_eq := by
      intro backends access clock σ transport s hurl
      have hsendable : (Change.create clock draft).IsSendable :=
        (Change.isSendable_iff rfl).mpr h
      have hplan : backends.create access clock draft =
          (Change.create clock draft).plan.carriedOut backends access :=
        Change.perform_eq_carriedOut backends access hsendable
      rw [hplan, Plan.carriedOut, Dialogue.run_map, Backends.withFallback, Dialogue.run_andThen,
        Plan.run_primary_of_url _ backends transport s hurl]
      rfl }

theorem isRejectedEverywhere {why : Rejection} (h : draft.checked = .error why) :
    draft.IsRejectedEverywhere why := by
  have hwhy := checked_eq_error_iff.mp h
  exact {
    checked_eq := h
    validate_eq := hwhy
    validateFields_eq := by rw [rejectionAsFields?_compile, hwhy]
    create_eq := by
      intro backends access clock σ transport s
      rw [Backends.create, h, Dialogue.run_done]
    update_eq := by
      intro backends access clock id σ transport s
      rw [Backends.update_ofString, checked_withId_eq_error h id, Dialogue.run_done]
    post_eq := by
      intro settings clock r hr
      rw [Http.answer_create hr, Backends.create, h, Dialogue.map_done, Http.outcome, Http.failure,
        why.friendly_message]
    preview_eq := by
      intro hfinite settings clock r hr
      obtain ⟨more, hmore⟩ := Http.preview_eq hfinite
      rw [hwhy] at hmore
      exact ⟨more, by rw [Http.answer_compile hr, hmore]; rfl⟩ }

/-- All entry points accept a draft, or all reject it, and they accept it exactly when it can be
started or gated and can do something. -/
theorem entryPoints_agree (draft : Draft) :
    (draft.IsRunnable ↔ draft.IsAcceptedEverywhere) ∧
      (¬ draft.IsRunnable ↔ ∃ why, draft.IsRejectedEverywhere why) := by
  rw [← isAccepted_iff_isRunnable]
  refine ⟨⟨fun h => h.isAcceptedEverywhere, fun h => ⟨_, h.checked_eq⟩⟩, ?_, ?_⟩
  · intro h
    obtain ⟨why, hwhy⟩ := exists_rejection h
    exact ⟨why, isRejectedEverywhere hwhy⟩
  · rintro ⟨why, hwhy⟩ ⟨config, hconfig⟩
    rw [hwhy.checked_eq] at hconfig
    cases hconfig

/-- A draft with nothing but a name. -/
def idle : Draft where
  id := none
  title := ⟨"Idle", by decide⟩
  description := none
  mode := none
  triggers := []
  actions := []
  days := none
  clock := none

/-- A draft with nothing but a name is refused when it is posted, for what its preview shows. -/
theorem entryPoints_agree_idle :
    let settings : Settings :=
      ⟨none, 10.0, none, none, "", 10.0, Settings.defaultMode, "secret", false⟩
    let headers := [("X-HA-Agent-Secret", "secret")]
    let body := some "\x7b\"alias\": \"Idle\"\x7d"
    let post : HttpRequest := ⟨"POST", "/api/automations?mode=cloud", headers, body⟩
    let preview : HttpRequest := ⟨"POST", "/api/automations/compile", headers, body⟩
    ¬ idle.IsRunnable ∧ post.Posts settings createPath idle ∧
      preview.Posts settings previewPath idle ∧ idle.toJson.isFinite = true ∧
      ∃ why : Rejection, Http.answer settings 0 post = .done (.refusal 400 why.message) ∧
        ∃ more, Http.answer settings 0 preview = .done (.ok
          (("ok", .bool false) :: ("error", .str why.message) ::
            ("config", idle.compile.toJson) :: more)) := by
  intro settings headers body post preview
  have hidle : ¬ idle.IsRunnable := by
    rintro ⟨-, action, haction, -⟩
    cases haction
  have hauthorized (target : String) :
      Http.isAuthorized settings ⟨"POST", target, headers, body⟩ = true := by
    simp [Http.isAuthorized, HttpRequest.header?, Http.secretHeader, settings, headers]
  have hpost : post.Posts settings createPath idle :=
    ⟨rfl, by decide, hauthorized _, by decide +kernel⟩
  have hpreview : preview.Posts settings previewPath idle :=
    ⟨rfl, by decide, hauthorized _, by decide +kernel⟩
  have hfinite : idle.toJson.isFinite = true := by rfl
  obtain ⟨why, hrejected⟩ := (entryPoints_agree idle).2.mp hidle
  exact ⟨hidle, hpost, hpreview, hfinite, why, hrejected.post_eq settings 0 post hpost,
    hrejected.preview_eq hfinite settings 0 preview hpreview⟩

end Draft

end HomeAutomation
