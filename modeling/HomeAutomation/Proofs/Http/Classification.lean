import HomeAutomation.Proofs.Backend.Ending
import HomeAutomation.Proofs.Http.Blame
import HomeAutomation.Proofs.Http.EntryPoints
import HomeAutomation.Proofs.Http.Secret

/-!
# Which status a request gets

An authorized request for the automations either asks for an operation (`Http.Asks`) or is refused
for its body. An operation ends well at the backend that is asked last (`Handling.DoneBy`), or it is
a bad gateway when the backends fail (`Handling.FailsWith`), and a rejected draft is a bad request.
A refusal repeats the parts of the body that are at fault. If one of them holds a number that JSON
cannot hold, the refusal breaks (`Http.CannotRepeat`), and nothing else does over a transport that
fails only where the network does (`Http.answer_isClassified`).
-/

namespace HomeAutomation

open Text

theorem Json.fields?_eq_some_iff {v : Json} {fields : Json.Fields} :
    v.fields? = some fields ↔ v = .obj fields := by
  cases v <;> simp [fields?]

/-- Whether the body of a request switches on or off, if it says so. -/
def HttpRequest.wanted? (r : HttpRequest) : Option Bool :=
  match r.content with
  | .value v => v.fields?.bind fun fields => (Http.wanted fields).toOption
  | _ => none

theorem HttpRequest.wanted?_eq_some_iff {r : HttpRequest} {enabled : Bool} :
    r.wanted? = some enabled ↔
      ∃ fields, r.content = .value (.obj fields) ∧ Http.wanted fields = .ok enabled := by
  unfold wanted?
  cases r.content with
  | value v =>
      simp only [Option.bind_eq_some_iff, Json.fields?_eq_some_iff, HttpRequest.Content.value.injEq]
      refine exists_congr fun fields => and_congr_right fun _ => ?_
      cases Http.wanted fields <;> simp [Except.toOption]
  | _ => simp

namespace Http

/-- The operation that a request asks for at an endpoint. -/
inductive Asks (r : HttpRequest) (clock : Int) : Endpoint → Handling → Prop
  | list : Asks r clock .list .listing
  | create {draft : Draft} (h : r.draft? = some draft) :
    Asks r clock .create (.changing (.create clock draft) [])
  | update {id : String} {draft : Draft} (h : r.draft? = some draft) :
    Asks r clock (.update id) (.changing (.update clock id draft) [("id", .str id)])
  | delete {id : String} : Asks r clock (.delete id) (.changing (.delete id) [("id", .str id)])
  | setState {id : String} {enabled : Bool} (h : r.wanted? = some enabled) :
    Asks r clock (.setState id)
      (.changing (.setEnabled id enabled) [("id", .str id), ("enabled", .bool enabled)])

/-- What is wrong with a body at an endpoint. -/
inductive Faults (v : Json) : Endpoint → List Issue → Prop
  | create {issues : List Issue} (h : Draft.readBody v = .invalid issues) : Faults v .create issues
  | update {id : String} {issues : List Issue} (h : Draft.readBody v = .invalid issues) :
    Faults v (.update id) issues
  | setState {id : String} (h : v.fields? = none) : Faults v (.setState id) [⟨[], .notObject⟩]

/-- A part of the body that is at fault holds a number that JSON cannot hold. -/
def CannotRepeat (r : HttpRequest) (endpoint : Endpoint) : Prop :=
  ∃ v issues, r.content = .value v ∧ Faults v endpoint issues ∧
    ∃ issue ∈ issues, (issue.subject v).isFinite = false

namespace Handling

/-- The operation goes to the backends: a draft that it brings along is accepted. -/
def IsSendable : Handling → Prop
  | atOnce _ => False
  | listing => True
  | changing change _ => change.IsSendable

/-- The backends that are asked have failed, and the platform for this reason. -/
inductive FailsWith (settings : Settings) (r : HttpRequest) (w : Circumstances)
    (e : PlatformError) : Handling → Prop
  | listing (h : Backends.listing.FailsWith (backends settings) (access settings r) w e) :
    FailsWith settings r w e .listing
  | changing {change : Change} {extra : Json.Fields} (hsend : change.IsSendable)
    (h : change.plan.FailsWith (backends settings) (access settings r) w e) :
    FailsWith settings r w e (.changing change extra)

/-- The answer is what the backend of the last exchange has done. -/
inductive DoneBy (settings : Settings) (r : HttpRequest) (exchanges : List (Request × Reply))
    (backend : Backend) : HttpAnswer → Handling → Prop
  | listing {items : List ListedAutomation}
    (h : Backends.listing.DoneBy (backends settings) (access settings r) exchanges backend items) :
    DoneBy settings r exchanges backend
      (.ok [("items", .arr (items.map ListedAutomation.toJson))]) .listing
  | changing {change : Change} {extra : Json.Fields}
    (h : change.plan.DoneBy (backends settings) (access settings r) exchanges backend ()) :
    DoneBy settings r exchanges backend
      (.ok ([("ok", .bool true), ("backend", .str backend.text)] ++ extra))
      (.changing change extra)

theorem status_of_doneBy {settings : Settings} {r : HttpRequest}
    {exchanges : List (Request × Reply)} {backend : Backend} {answer : HttpAnswer}
    {handling : Handling} (h : handling.DoneBy settings r exchanges backend answer) :
    answer.status = 200 := by
  cases h with
  | listing => rfl
  | changing => rfl

/-- How a reaction ends that follows an operation. -/
inductive Ends (settings : Settings) (r : HttpRequest) (w : Circumstances) (reaction : Reaction)
    (handling : Handling) : Prop
  | failed {e : PlatformError} (hfails : handling.FailsWith settings r w e)
    (houtcome : w.outcome reaction = .refusal 502 (friendly e.message))
  | done (backend : Backend) (hsend : handling.IsSendable)
    (hfails : ∀ e, ¬ handling.FailsWith settings r w e)
    (hdone : handling.DoneBy settings r (w.exchanges reaction) backend (w.outcome reaction))
  | rejected (detail : String) (hsend : ¬ handling.IsSendable)
    (hreaction : reaction = .done (.refusal 400 detail))

variable {settings : Settings} {r : HttpRequest} {w : Circumstances}

theorem isSendable_of_failsWith {handling : Handling} {e : PlatformError}
    (h : handling.FailsWith settings r w e) : handling.IsSendable := by
  cases h with
  | listing => trivial
  | changing hsend => exact hsend

theorem failsWith_unique {handling : Handling} {e e' : PlatformError}
    (h : handling.FailsWith settings r w e) (h' : handling.FailsWith settings r w e') : e = e' := by
  cases h with
  | listing h =>
      cases h' with
      | listing h' => simpa using h.platform_eq.symm.trans h'.platform_eq
  | changing _ h =>
      cases h' with
      | changing _ h' => simpa using h.platform_eq.symm.trans h'.platform_eq

theorem ends_listing (hnetwork : w.IsNetworkOnly) :
    listing.Ends settings r w (listing.reaction settings r) := by
  rcases Backends.listing.carriedOut_ends (backends settings) (access settings r) hnetwork
    with ⟨backend, items, houtcome, hdone, hfails⟩ | ⟨e, hub?, houtcome, hfails⟩
  · have hnot (e : PlatformError) : ¬ listing.FailsWith settings r w e := by
      rintro ⟨h⟩
      exact hfails e h
    refine .done backend trivial hnot ?_
    rw [reaction, list, Backends.list_eq_carriedOut, w.outcome_map, houtcome, w.exchanges_map]
    exact .listing hdone
  · refine .failed (.listing hfails) ?_
    rw [reaction, list, Backends.list_eq_carriedOut, w.outcome_map, houtcome]
    rfl

theorem outcome_exhausted (extra : Json.Fields) (change : Change) (e : PlatformError)
    (hub? : Option (Failure HubError)) :
    outcome extra (change.plan.exhausted e hub?) = .refusal 502 (friendly e.message) := by
  cases change <;> rfl

theorem ends_changing (hnetwork : w.IsNetworkOnly) (change : Change) (extra : Json.Fields) :
    (changing change extra).Ends settings r w ((changing change extra).reaction settings r) := by
  by_cases hsend : change.IsSendable
  case neg =>
    obtain ⟨why, hwhy⟩ := Change.exists_rejection_perform hsend
    refine .rejected (friendly why.message) hsend ?_
    rw [reaction, hwhy]
    rfl
  have hperform := Change.perform_eq_carriedOut (backends settings) (access settings r) hsend
  rcases change.plan.carriedOut_ends (backends settings) (access settings r) hnetwork
    with ⟨backend, a, houtcome, hdone, hfails⟩ | ⟨e, hub?, houtcome, hfails⟩
  · have hnot (e : PlatformError) : ¬ (changing change extra).FailsWith settings r w e := by
      rintro ⟨⟩
      exact hfails e ‹_›
    refine .done backend hsend hnot ?_
    rw [reaction, hperform, w.outcome_map, houtcome, w.exchanges_map]
    exact .changing hdone
  · refine .failed (.changing hsend hfails) ?_
    rw [reaction, hperform, w.outcome_map, houtcome]
    exact outcome_exhausted extra change e hub?

namespace Ends

variable {reaction : Reaction} {handling : Handling}

theorem outcome_of_failsWith (h : handling.Ends settings r w reaction) {e : PlatformError}
    (hfails : handling.FailsWith settings r w e) :
    w.outcome reaction = .refusal 502 (friendly e.message) := by
  cases h with
  | failed hfails' houtcome => rw [houtcome, failsWith_unique hfails hfails']
  | done backend _ hnot => exact absurd hfails (hnot e)
  | rejected detail hsend => exact absurd (isSendable_of_failsWith hfails) hsend

theorem status_cases (h : handling.Ends settings r w reaction) :
    ((w.outcome reaction).status = 502 ∧ handling.IsSendable ∧
      ∃ e, handling.FailsWith settings r w e) ∨
    ((w.outcome reaction).status = 200 ∧ handling.IsSendable ∧
      ∃ backend, handling.DoneBy settings r (w.exchanges reaction) backend (w.outcome reaction)) ∨
    ((w.outcome reaction).status = 400 ∧ ¬ handling.IsSendable ∧ w.requests reaction = []) := by
  cases h with
  | failed hfails houtcome =>
      exact .inl ⟨by rw [houtcome]; rfl, isSendable_of_failsWith hfails, _, hfails⟩
  | done backend hsend _ hdone =>
      exact .inr (.inl ⟨status_of_doneBy hdone, hsend, backend, hdone⟩)
  | rejected detail hsend hreaction =>
      rw [hreaction]
      exact .inr (.inr ⟨rfl, hsend, rfl⟩)

end Ends

end Handling

section Answer

variable {settings : Settings} {r : HttpRequest} {endpoint : Endpoint}
  {content : HttpRequest.Content}

theorem answer_eq_serve_contentFor (hfind : Endpoint.find r.method r.path = .found endpoint)
    (hauthorized : isAuthorized settings r = true) (hcontent : contentFor r endpoint = content)
    (hreadable : content = .absent ∨ ∃ v, content = .value v) (clock : Int) :
    answer settings clock r = serve settings clock r content endpoint := by
  unfold contentFor at hcontent
  rw [answer, hfind]
  simp only [atEndpoint, hcontent]
  rcases hreadable with rfl | ⟨v, rfl⟩
  · simp [guarded_eq, hauthorized]
  · simp [guarded_eq, hauthorized]

/-- An object is read, so no part of it is at fault. -/
theorem not_cannotRepeat_of_obj {id : String} {fields : Json.Fields}
    (h : r.content = .value (.obj fields)) : ¬ CannotRepeat r (.setState id) := by
  rintro ⟨v, issues, hcontent, hfaults, -⟩
  obtain rfl : .obj fields = v := by simpa [h] using hcontent
  cases hfaults with
  | setState hnone => cases hnone

namespace Asks

variable {clock : Int} {handling : Handling}

theorem answer_eq (h : Asks r clock endpoint handling)
    (hfind : Endpoint.find r.method r.path = .found endpoint)
    (hauthorized : isAuthorized settings r = true) :
    answer settings clock r = handling.reaction settings r := by
  cases h with
  | list | delete =>
      rw [answer_eq_serve_contentFor hfind hauthorized rfl (.inl rfl)]
      rfl
  | create hdraft | update hdraft =>
      obtain ⟨v, hcontent, hread⟩ := HttpRequest.draft?_eq_some_iff.mp hdraft
      rw [answer_eq_serve_contentFor hfind hauthorized hcontent (.inr ⟨v, rfl⟩), serve, withDraft,
        hread]
      rfl
  | setState hwanted =>
      obtain ⟨fields, hcontent, henabled⟩ := HttpRequest.wanted?_eq_some_iff.mp hwanted
      rw [answer_eq_serve_contentFor hfind hauthorized hcontent (.inr ⟨_, rfl⟩), serve, withFields,
        Http.setState, henabled]
      rfl

/-- Nothing is wrong with the body of a request that asks for an operation. -/
theorem not_cannotRepeat (h : Asks r clock endpoint handling) : ¬ CannotRepeat r endpoint := by
  cases h with
  | list | delete =>
      rintro ⟨v, issues, -, hfaults, -⟩
      cases hfaults
  | create hdraft | update hdraft =>
      obtain ⟨v, hcontent, hread⟩ := HttpRequest.draft?_eq_some_iff.mp hdraft
      rintro ⟨v', issues, hcontent', hfaults, -⟩
      obtain rfl : v = v' := by simpa [hcontent] using hcontent'
      have hvalid : Draft.readBody v ≠ .invalid issues := by simp [hread]
      cases hfaults
      contradiction
  | setState hwanted =>
      obtain ⟨fields, hcontent, -⟩ := HttpRequest.wanted?_eq_some_iff.mp hwanted
      exact not_cannotRepeat_of_obj hcontent

theorem ends (h : Asks r clock endpoint handling)
    (hfind : Endpoint.find r.method r.path = .found endpoint)
    (hauthorized : isAuthorized settings r = true) {w : Circumstances}
    (hnetwork : w.IsNetworkOnly) : handling.Ends settings r w (answer settings clock r) := by
  rw [h.answer_eq hfind hauthorized]
  cases h with
  | list => exact Handling.ends_listing hnetwork
  | create | update | delete | setState => exact Handling.ends_changing hnetwork _ _

end Asks

/-- The request is refused for its body. -/
structure IsBodyRefusal (r : HttpRequest) (endpoint : Endpoint) (answer : HttpAnswer) : Prop where
  status_eq : answer.status = 400 ∨ answer.status = 422 ∨ answer.status = 500
  status_eq_500_iff : answer.status = 500 ↔ CannotRepeat r endpoint

theorem isBodyRefusal_of_not_cannotRepeat {answer : HttpAnswer} (h : ¬ CannotRepeat r endpoint)
    (hstatus : answer.status = 400 ∨ answer.status = 422) : IsBodyRefusal r endpoint answer where
  status_eq := by omega
  status_eq_500_iff := iff_of_false (by omega) h

theorem not_cannotRepeat_of_ne_value (h : ∀ v, r.content ≠ .value v) :
    ¬ CannotRepeat r endpoint := by
  rintro ⟨v, issues, hcontent, -⟩
  exact h v hcontent

theorem Faults.unique {v : Json} {issues more : List Issue} (h : Faults v endpoint issues)
    (h' : Faults v endpoint more) : issues = more := by
  cases h with
  | create h =>
      cases h' with
      | create h' => simpa using h.symm.trans h'
  | update h =>
      cases h' with
      | update h' => simpa using h.symm.trans h'
  | setState => cases h'; rfl

/-- A refusal that repeats what is at fault goes out unless that cannot be repeated. -/
theorem isBodyRefusal_refused {v : Json} {issues : List Issue} (hcontent : r.content = .value v)
    (hfaults : Faults v endpoint issues) : IsBodyRefusal r endpoint (.refused v issues) := by
  have hrepeat : CannotRepeat r endpoint ↔
      ¬ (issues.all fun issue => (issue.subject v).isFinite) = true := by
    simp only [List.all_eq_true, Classical.not_forall, Bool.not_eq_true, exists_prop]
    constructor
    · rintro ⟨v', issues', hcontent', hfaults', hbroken⟩
      obtain rfl : v = v' := by simpa [hcontent] using hcontent'
      rwa [hfaults.unique hfaults']
    · intro hbroken
      exact ⟨v, issues, hcontent, hfaults, hbroken⟩
  unfold HttpAnswer.refused
  split
  case isTrue h =>
    exact isBodyRefusal_of_not_cannotRepeat (by rw [hrepeat]; exact not_not_intro h) (.inr rfl)
  case isFalse h => exact ⟨.inr (.inr rfl), iff_of_true rfl (hrepeat.mpr h)⟩

theorem contentFor_eq (h : takesBody endpoint = true) (r : HttpRequest) :
    contentFor r endpoint = r.content := by
  rw [contentFor, if_pos h]

/-- Where the body is looked at, it can be read, or it is refused before that. -/
theorem served_or_refused (hfind : Endpoint.find r.method r.path = .found endpoint)
    (hauthorized : isAuthorized settings r = true) (htakes : takesBody endpoint = true)
    (clock : Int) :
    ((r.content = .absent ∨ ∃ v, r.content = .value v) ∧
      answer settings clock r = serve settings clock r r.content endpoint) ∨
    ∃ a, answer settings clock r = .done a ∧ IsBodyRefusal r endpoint a := by
  cases hcontent : r.content with
  | malformed position =>
      have hcannot : ¬ CannotRepeat r endpoint := not_cannotRepeat_of_ne_value (by simp [hcontent])
      rw [answer, hfind]
      simp only [atEndpoint, htakes, if_true, hcontent]
      exact .inr ⟨_, rfl, isBodyRefusal_of_not_cannotRepeat hcannot (.inr rfl)⟩
  | unreadable =>
      have hcannot : ¬ CannotRepeat r endpoint := not_cannotRepeat_of_ne_value (by simp [hcontent])
      rw [answer, hfind]
      simp only [atEndpoint, htakes, if_true, hcontent]
      exact .inr ⟨_, rfl, isBodyRefusal_of_not_cannotRepeat hcannot (.inl rfl)⟩
  | absent =>
      exact .inl ⟨.inl rfl, answer_eq_serve_contentFor hfind hauthorized
        ((contentFor_eq htakes r).trans hcontent) (.inl rfl) clock⟩
  | value v =>
      exact .inl ⟨.inr ⟨v, rfl⟩, answer_eq_serve_contentFor hfind hauthorized
        ((contentFor_eq htakes r).trans hcontent) (.inr ⟨v, rfl⟩) clock⟩

theorem draft_or_refused (hfind : Endpoint.find r.method r.path = .found endpoint)
    (hauthorized : isAuthorized settings r = true) (htakes : takesBody endpoint = true)
    (hfaults : ∀ v issues, Draft.readBody v = .invalid issues → Faults v endpoint issues)
    {clock : Int} {next : Draft → Reaction}
    (hserve : ∀ content, serve settings clock r content endpoint = withDraft content next) :
    (∃ draft, r.draft? = some draft) ∨
      ∃ a, answer settings clock r = .done a ∧ IsBodyRefusal r endpoint a := by
  rcases served_or_refused hfind hauthorized htakes clock with
    ⟨hcontent | ⟨v, hcontent⟩, hanswer⟩ | hrefused
  · -- nothing is repeated of a body that is not there
    have hcannot : ¬ CannotRepeat r endpoint := not_cannotRepeat_of_ne_value (by simp [hcontent])
    rw [hserve, hcontent] at hanswer
    exact .inr ⟨_, hanswer, isBodyRefusal_of_not_cannotRepeat hcannot (.inr rfl)⟩
  · rw [hserve, hcontent, withDraft] at hanswer
    cases hread : Draft.readBody v with
    | valid draft => exact .inl ⟨draft, HttpRequest.draft?_eq_some_iff.mpr ⟨v, hcontent, hread⟩⟩
    | invalid issues =>
        rw [hread] at hanswer
        exact .inr ⟨_, hanswer, isBodyRefusal_refused hcontent (hfaults v issues hread)⟩
  · exact .inr hrefused

theorem withFields_of_fields?_eq_none {v : Json} (h : v.fields? = none)
    (next : Json.Fields → Reaction) :
    withFields (.value v) next = .done (.refused v [⟨[], .notObject⟩]) := by
  cases v with
  | obj fields => cases h
  | _ => rfl

theorem wanted_or_refused {id : String}
    (hfind : Endpoint.find r.method r.path = .found (.setState id))
    (hauthorized : isAuthorized settings r = true) (clock : Int) :
    (∃ enabled, r.wanted? = some enabled) ∨
      ∃ a, answer settings clock r = .done a ∧ IsBodyRefusal r (.setState id) a := by
  rcases served_or_refused hfind hauthorized rfl clock with
    ⟨hcontent | ⟨v, hcontent⟩, hanswer⟩ | hrefused
  · have hcannot : ¬ CannotRepeat r (.setState id) :=
      not_cannotRepeat_of_ne_value (by simp [hcontent])
    rw [hcontent] at hanswer
    exact .inr ⟨_, hanswer, isBodyRefusal_of_not_cannotRepeat hcannot (.inl rfl)⟩
  · rw [hcontent, serve] at hanswer
    cases hfields : v.fields? with
    | none =>
        rw [withFields_of_fields?_eq_none hfields] at hanswer
        exact .inr ⟨_, hanswer, isBodyRefusal_refused hcontent (.setState hfields)⟩
    | some fields =>
        obtain rfl : v = .obj fields := Json.fields?_eq_some_iff.mp hfields
        rw [withFields, Http.setState] at hanswer
        cases hwanted : wanted fields with
        | ok enabled =>
            exact .inl ⟨enabled, HttpRequest.wanted?_eq_some_iff.mpr ⟨fields, hcontent, hwanted⟩⟩
        | error fault =>
            rw [hwanted] at hanswer
            exact .inr ⟨_, hanswer,
              isBodyRefusal_of_not_cannotRepeat (not_cannotRepeat_of_obj hcontent) (.inl rfl)⟩
  · exact .inr hrefused

/-- An authorized request for the automations asks for an operation, or it is refused. -/
theorem asks_or_refused (hfind : Endpoint.find r.method r.path = .found endpoint)
    (hhealth : endpoint ≠ .health) (hcompile : endpoint ≠ .compile)
    (hauthorized : isAuthorized settings r = true) (clock : Int) :
    (∃ handling, Asks r clock endpoint handling) ∨
      ∃ a, answer settings clock r = .done a ∧ IsBodyRefusal r endpoint a := by
  cases endpoint with
  | health => exact absurd rfl hhealth
  | compile => exact absurd rfl hcompile
  | list => exact .inl ⟨_, .list⟩
  | delete id => exact .inl ⟨_, .delete⟩
  | create =>
      refine (draft_or_refused hfind hauthorized rfl (fun _ _ => .create) fun _ => rfl).imp_left ?_
      rintro ⟨draft, hdraft⟩
      exact ⟨_, .create hdraft⟩
  | update id =>
      refine (draft_or_refused hfind hauthorized rfl (fun _ _ => .update) fun _ => rfl).imp_left ?_
      rintro ⟨draft, hdraft⟩
      exact ⟨_, .update hdraft⟩
  | setState id =>
      refine (wanted_or_refused hfind hauthorized clock).imp_left ?_
      rintro ⟨enabled, hwanted⟩
      exact ⟨_, .setState hwanted⟩

end Answer

/-- The answer to a request can be told from what it asks for and how that ends. -/
structure IsClassified (settings : Settings) (r : HttpRequest) (endpoint : Endpoint)
    (w : Circumstances) : Prop where
  status_mem : (w.outcome (answer settings w.clock r)).status ∈ [200, 400, 422, 502, 500]
  /-- A request is refused exactly when it asks for nothing that goes to the backends. -/
  status_mem_refused_iff : (w.outcome (answer settings w.clock r)).status ∈ [400, 422, 500] ↔
    ∀ handling, Asks r w.clock endpoint handling → ¬ handling.IsSendable
  /-- The answer breaks exactly when it should repeat what it cannot. -/
  status_eq_500_iff : (w.outcome (answer settings w.clock r)).status = 500 ↔ CannotRepeat r endpoint
  /-- Whoever is refused has not made the server ask anybody. -/
  requests_eq_nil : (w.outcome (answer settings w.clock r)).status ∈ [400, 422, 500] →
    w.requests (answer settings w.clock r) = []
  /-- The gateway is bad exactly when the backends have failed. -/
  status_eq_502_iff : (w.outcome (answer settings w.clock r)).status = 502 ↔
    ∃ handling e, Asks r w.clock endpoint handling ∧ handling.FailsWith settings r w e
  /-- What is said then is about the platform. -/
  of_failsWith : ∀ handling e, Asks r w.clock endpoint handling →
    handling.FailsWith settings r w e →
    w.outcome (answer settings w.clock r) = .refusal 502 (friendly e.message)
  /-- A good answer is that of the backend which was asked last. -/
  of_status_eq_200 : (w.outcome (answer settings w.clock r)).status = 200 →
    ∃ handling backend, Asks r w.clock endpoint handling ∧
      handling.DoneBy settings r (w.exchanges (answer settings w.clock r)) backend
        (w.outcome (answer settings w.clock r))

section Classified

variable {settings : Settings} {r : HttpRequest} {endpoint : Endpoint} {w : Circumstances}

theorem IsBodyRefusal.isClassified {a : HttpAnswer} (h : IsBodyRefusal r endpoint a)
    (hanswer : answer settings w.clock r = .done a)
    (hasks : ∀ handling, ¬ Asks r w.clock endpoint handling) :
    IsClassified settings r endpoint w := by
  have hstatus := h.status_eq
  have houtcome : w.outcome (answer settings w.clock r) = a := by rw [hanswer]; rfl
  exact {
    status_mem := by
      rw [houtcome]
      rcases hstatus with h | h | h <;> simp [h]
    status_mem_refused_iff := by
      rw [houtcome]
      refine iff_of_true (by simpa using hstatus) ?_
      intro handling hasked
      exact absurd hasked (hasks handling)
    status_eq_500_iff := by
      rw [houtcome]
      exact h.status_eq_500_iff
    requests_eq_nil := by
      intro _
      rw [hanswer]
      rfl
    status_eq_502_iff := by
      rw [houtcome]
      refine iff_of_false (by omega) ?_
      rintro ⟨handling, e, hasked, -⟩
      exact hasks handling hasked
    of_failsWith := by
      intro handling e hasked
      exact absurd hasked (hasks handling)
    of_status_eq_200 := by
      rw [houtcome]
      omega }

theorem Asks.isClassified {handling : Handling} (h : Asks r w.clock endpoint handling)
    (hfind : Endpoint.find r.method r.path = .found endpoint)
    (hauthorized : isAuthorized settings r = true) (hnetwork : w.IsNetworkOnly) :
    IsClassified settings r endpoint w := by
  have hof (other : Handling) (e : PlatformError) (hother : Asks r w.clock endpoint other)
      (hfails : other.FailsWith settings r w e) :
      w.outcome (answer settings w.clock r) = .refusal 502 (friendly e.message) :=
    (hother.ends hfind hauthorized hnetwork).outcome_of_failsWith hfails
  have hgateway : (∃ other e, Asks r w.clock endpoint other ∧ other.FailsWith settings r w e) →
      (w.outcome (answer settings w.clock r)).status = 502 := by
    rintro ⟨other, e, hother, hfails⟩
    rw [hof other e hother hfails]
    rfl
  have hcases := (h.ends hfind hauthorized hnetwork).status_cases
  exact {
    status_mem := by rcases hcases with h | h | h <;> simp [h.1]
    status_mem_refused_iff := by
      constructor
      · intro hstatus other hother hsend
        rcases (hother.ends hfind hauthorized hnetwork).status_cases with
          ⟨hstatus', -⟩ | ⟨hstatus', -⟩ | ⟨-, hnot, -⟩
        · simp [hstatus'] at hstatus
        · simp [hstatus'] at hstatus
        · exact hnot hsend
      · intro hnone
        rcases hcases with ⟨-, hsend, -⟩ | ⟨-, hsend, -⟩ | ⟨hstatus, -⟩
        · exact absurd hsend (hnone handling h)
        · exact absurd hsend (hnone handling h)
        · simp [hstatus]
    status_eq_500_iff := by
      refine iff_of_false ?_ h.not_cannotRepeat
      rcases hcases with h | h | h <;> simp [h.1]
    requests_eq_nil := by
      rcases hcases with ⟨hstatus, -⟩ | ⟨hstatus, -⟩ | ⟨-, -, hrequests⟩
      · simp [hstatus]
      · simp [hstatus]
      · exact fun _ => hrequests
    status_eq_502_iff := by
      refine ⟨?_, hgateway⟩
      intro hstatus
      rcases hcases with ⟨-, -, e, hfails⟩ | ⟨hother, -⟩ | ⟨hother, -⟩
      · exact ⟨handling, e, h, hfails⟩
      · simp [hother] at hstatus
      · simp [hother] at hstatus
    of_failsWith := hof
    of_status_eq_200 := by
      intro hstatus
      rcases hcases with ⟨hother, -⟩ | ⟨-, -, backend, hdone⟩ | ⟨hother, -⟩
      · simp [hother] at hstatus
      · exact ⟨handling, backend, h, hdone⟩
      · simp [hother] at hstatus }

end Classified

/-- Every authorized request for the automations is answered with a status that says what has become
of it, whatever its body, over a transport that fails only where the network does. -/
theorem answer_isClassified (settings : Settings) (r : HttpRequest) {endpoint : Endpoint}
    (hfind : Endpoint.find r.method r.path = .found endpoint) (hhealth : endpoint ≠ .health)
    (hcompile : endpoint ≠ .compile) (hauthorized : settings.secret = "" ∨ r.Shows settings.secret)
    {w : Circumstances} (hnetwork : w.IsNetworkOnly) : IsClassified settings r endpoint w := by
  have hauthorized := isAuthorized_iff.mpr hauthorized
  by_cases hasks : ∃ handling, Asks r w.clock endpoint handling
  · obtain ⟨handling, h⟩ := hasks
    exact h.isClassified hfind hauthorized hnetwork
  · obtain ⟨a, hanswer, hrefusal⟩ :=
      (asks_or_refused hfind hhealth hcompile hauthorized w.clock).resolve_left hasks
    exact hrefusal.isClassified hanswer fun handling h => hasks ⟨handling, h⟩

/-- The platform is out of reach and the hub deletes, so the answer is the hub's. -/
theorem answer_isClassified_delete :
    let settings : Settings := ⟨some "https://platform.example", 10.0, some "http://hub:8123", none,
      "token", 10.0, Settings.defaultMode, "secret", false⟩
    let r : HttpRequest := ⟨"DELETE", "/api/automations/lamp", [(secretHeader, "secret")], none⟩
    let w : Circumstances := ⟨Unit, 0, fun _ request =>
      (if request.showsToken then .ok ⟨200, ""⟩ else .error ⟨.timedOut, "Read timed out."⟩, ()), ()⟩
    Endpoint.find r.method r.path = .found (.delete "lamp") ∧ r.Shows settings.secret ∧
      w.IsNetworkOnly ∧ (w.outcome (answer settings w.clock r)).status = 200 ∧
      ∃ handling backend, Asks r w.clock (.delete "lamp") handling ∧
        handling.DoneBy settings r (w.exchanges (answer settings w.clock r)) backend
          (w.outcome (answer settings w.clock r)) := by
  intro settings r w
  have hfind : Endpoint.find r.method r.path = .found (.delete "lamp") := by decide
  have hshows : r.Shows settings.secret := by
    simp [r, settings, HttpRequest.Shows, HttpRequest.header?]
  have hnetwork : w.IsNetworkOnly := by
    intro s request fault hfault
    dsimp only [w] at hfault
    split at hfault
    · cases hfault
    · cases hfault
      rfl
  have hclassified := answer_isClassified settings r hfind (by decide) (by decide)
    (.inr hshows) hnetwork
  have hstatus : (w.outcome (answer settings w.clock r)).status = 200 := by
    rw [Asks.delete.answer_eq hfind (isAuthorized_iff.mpr (.inr hshows))]
    decide +kernel
  exact ⟨hfind, hshows, hnetwork, hstatus, hclassified.of_status_eq_200 hstatus⟩

/-- A kind that is not known is refused as it should be, but the answer breaks if the kind is a
number that is too large for a double. -/
theorem answer_breaks_on_kind :
    let settings : Settings := ⟨some "https://platform.example", 10.0, none, none, "", 10.0,
      Settings.defaultMode, "", false⟩
    let r (kind : String) : HttpRequest := ⟨"POST", "/api/automations", [],
      some ("\x7b\"alias\": \"Lights\", \"triggers\": [\x7b\"kind\": " ++ kind ++ "\x7d]\x7d")⟩
    let w : Circumstances := ⟨Unit, 0, fun _ _ => (.ok ⟨200, ""⟩, ()), ()⟩
    Endpoint.find (r "1e999").method (r "1e999").path = .found .create ∧ settings.secret = "" ∧
      w.IsNetworkOnly ∧ (w.outcome (answer settings w.clock (r "1"))).status = 422 ∧
      (w.outcome (answer settings w.clock (r "1e999"))).status ∉ [200, 400, 422, 502] := by
  intro settings r w
  have hnetwork : w.IsNetworkOnly := by
    intro s request fault hfault
    cases hfault
  refine ⟨by decide, rfl, hnetwork, ?_, ?_⟩
  · decide +kernel
  · decide +kernel

end Http

end HomeAutomation
