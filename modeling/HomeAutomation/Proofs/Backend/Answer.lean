import HomeAutomation.Proofs.Backend.Change

/-!
# Which answer a change rests on

The exchanges of a dialogue are its requests with the replies to them (`Dialogue.exchanges`). A
change is accepted by a backend exactly when the last exchange was with that backend and the backend
took the order, that is, did not answer with a failure status and, if it is the platform, did not
say in the body that it failed (`perform_eq_accepted_iff`). Failure statuses are those from 400 to
599; any other status will do, also one that stands for no success.
-/

namespace HomeAutomation

open Text

namespace Dialogue

variable {α β σ : Type} (transport : σ → Request → Reply × σ)

/-- The requests of a dialogue over a transport, each with the reply to it. -/
def exchanges : Dialogue α → σ → List (Request × Reply)
  | done _, _ => []
  | ask request next, s =>
    (request, (transport s request).1) ::
      (next (transport s request).1).exchanges (transport s request).2

theorem map_fst_exchanges (d : Dialogue α) (s : σ) :
    (d.exchanges transport s).map Prod.fst = (d.run transport s).2.1 := by
  induction d generalizing s with
  | done a => rfl
  | ask request next ih => rw [exchanges, List.map_cons, ih, run_ask]

theorem exchanges_andThen (d : Dialogue α) (f : α → Dialogue β) (s : σ) :
    (d.andThen f).exchanges transport s =
      d.exchanges transport s ++
        (f (d.run transport s).1).exchanges transport (d.run transport s).2.2 := by
  induction d generalizing s with
  | done a => rfl
  | ask request next ih => rw [ask_andThen, exchanges, exchanges, ih, run_ask, List.cons_append]

theorem exchanges_map (d : Dialogue α) (f : α → β) (s : σ) :
    (d.map f).exchanges transport s = d.exchanges transport s := by
  rw [map, exchanges_andThen, exchanges, List.append_nil]

end Dialogue

/-- The value says that what was asked has failed: `ok` is false, or `error` is a text that is not
blank. -/
def Json.SaysFailed : Json → Prop
  | .obj fields =>
    Fields.field fields "ok" = .bool false ∨
      ∃ s, Fields.field fields "error" = .str s ∧ isBlankText s = false
  | _ => False

namespace Response

def IsFailure (r : Response) : Prop :=
  400 ≤ r.status ∧ r.status < 600

def IsSuccess (r : Response) : Prop :=
  200 ≤ r.status ∧ r.status < 300

def SaysFailed (r : Response) : Prop :=
  ∃ value, r.value? = some value ∧ value.SaysFailed

theorem isOk_iff {r : Response} : r.isOk = true ↔ ¬ r.IsFailure := by
  simp only [isOk, IsFailure, Bool.not_eq_true', Bool.and_eq_false_iff, decide_eq_false_iff_not]
  omega

theorem isOk_eq_false_iff {r : Response} : r.isOk = false ↔ r.IsFailure := by
  rw [← Bool.not_eq_true, isOk_iff, Classical.not_not]

end Response

/-- The backend has taken the order that it gives this answer to. -/
def Backend.Takes : Backend → Response → Prop
  | platform, r => ¬ r.IsFailure ∧ ¬ r.SaysFailed
  | hub, r => ¬ r.IsFailure

namespace Platform

theorem filter_text?_eq_none_iff {v : Json} :
    (v.text?.filter fun s => !isBlankText s) = none ↔
      ¬ ∃ s, v = .str s ∧ isBlankText s = false := by
  cases v with
  | str s => simp [Json.text?, Option.filter_eq_none_iff]
  | _ => simp [Json.text?]

theorem exists_checkValue_eq_ok_iff {status : Int} {value : Json} :
    (∃ v, checkValue status value = .ok v) ↔ ¬ value.SaysFailed := by
  cases value with
  | obj fields =>
      rw [checkValue, Json.SaysFailed, not_or, ← filter_text?_eq_none_iff]
      generalize ((Json.Fields.field fields "error").text?.filter fun s => !isBlankText s) = detail
      generalize Json.Fields.field fields "ok" = done
      cases detail with
      | some s => simp
      | none =>
          cases done with
          | bool b => cases b <;> simp
          | _ => simp
  | _ => simp [checkValue, Json.SaysFailed]

theorem exists_check_eq_ok_iff {r : Response} :
    (∃ v, check r = .ok v) ↔ Backend.platform.Takes r := by
  unfold check Backend.Takes
  cases hok : r.isOk with
  | false =>
      rw [if_neg Bool.false_ne_true]
      by_cases hsession : r.status = 401 ∨ r.status = 403
      · simp [hsession, Response.isOk_eq_false_iff.mp hok]
      · simp [hsession, Response.isOk_eq_false_iff.mp hok]
  | true =>
      cases hvalue : r.value? with
      | none => simp [Response.isOk_iff.mp hok, Response.SaysFailed, hvalue]
      | some value =>
          simp [Response.isOk_iff.mp hok, Response.SaysFailed, hvalue,
            exists_checkValue_eq_ok_iff]

theorem exists_conclude_eq_ok_iff {reply : Reply} :
    (∃ v, conclude reply = .ok v) ↔ ∃ r, reply = .ok r ∧ Backend.platform.Takes r := by
  cases reply with
  | error fault => simp [conclude]
  | ok r =>
      have hcheck := exists_check_eq_ok_iff (r := r)
      cases h : check r with
      | ok v => simpa [conclude, h] using hcheck
      | error e => simpa [conclude, h] using hcheck

theorem checkValue_ne_raised (status : Int) (value : Json) (whose : Option Backend)
    (code : Option Int) (detail : String) :
    checkValue status value ≠ .error (.raised whose code detail) := by
  cases value with
  | obj fields =>
      rw [checkValue]
      generalize ((Json.Fields.field fields "error").text?.filter fun s => !isBlankText s) = reason
      generalize Json.Fields.field fields "ok" = done
      cases reason with
      | some s => simp
      | none =>
          cases done with
          | bool b => cases b <;> simp
          | _ => simp
  | _ => simp [checkValue]

/-- The client itself makes an error of the platform, whatever the platform answers. -/
theorem check_ne_raised (r : Response) (whose : Option Backend) (code : Option Int)
    (detail : String) : check r ≠ .error (.raised whose code detail) := by
  unfold check
  cases r.isOk with
  | true =>
      cases r.value? with
      | none => simp
      | some value => simpa using checkValue_ne_raised r.status value whose code detail
  | false =>
      rw [if_neg Bool.false_ne_true]
      split <;> simp

/-- The attempt ends with an error that was raised exactly when the transport raised it. -/
theorem conclude_eq_raised_iff {reply : Reply} {whose : Option Backend} {code : Option Int}
    {detail : String} :
    conclude reply = .error (.told (.raised whose code detail)) ↔
      reply = .error ⟨.backend whose code, detail⟩ := by
  cases reply with
  | ok r =>
      have hcheck := check_ne_raised r whose code detail
      cases h : check r with
      | ok value => simp [conclude, h]
      | error e => simpa [conclude, h] using hcheck
  | error fault =>
      obtain ⟨kind, message⟩ := fault
      cases kind <;>
        simp [conclude, PlatformError.ofFault, Failure.ofFault, FaultKind.isNetwork, and_assoc]

end Platform

theorem Hub.exists_conclude_eq_ok_iff {hub : Hub} {reply : Reply} :
    (∃ v, hub.conclude reply = .ok v) ↔ ∃ r, reply = .ok r ∧ Backend.hub.Takes r := by
  cases reply with
  | error fault => simp [conclude]
  | ok r =>
      cases hok : r.isOk with
      | true => simp [conclude, hok, Backend.Takes, Response.isOk_iff.mp hok]
      | false => simp [conclude, hok, Backend.Takes, Response.isOk_eq_false_iff.mp hok]

theorem map_const_eq_ok_iff {ε α : Type} {x : Except ε α} :
    (x.map fun _ => ()) = .ok () ↔ ∃ a, x = .ok a := by
  cases x with
  | ok a => simp [Except.map]
  | error e => simp [Except.map]

theorem map_eq_error_iff {ε α β : Type} {x : Except ε α} {f : α → β} {e : ε} :
    x.map f = .error e ↔ x = .error e := by
  cases x with
  | ok a => simp [Except.map]
  | error other => simp [Except.map]

/-- What one backend is asked, the other is never asked: only the hub is shown a token. -/
theorem Platform.requestOf_ne (platform : Platform) (hub : Hub) (order other : Order) :
    platform.requestOf order ≠ hub.requestOf other := by
  intro h
  have hheaders := congrArg Request.headers h
  simp [requestOf, Hub.requestOf, Hub.headers] at hheaders

namespace Plan

variable {α β σ : Type} (plan : Plan α β) (backends : Backends) (access : Access)
  (transport : σ → Request → Reply × σ)

theorem exchanges_primary (s : σ) :
    (plan.primary backends.platform).exchanges transport s =
      if backends.platform.url = "" then []
      else [(backends.platform.requestOf plan.platformOrder,
        (transport s (backends.platform.requestOf plan.platformOrder)).1)] := by
  rw [plan.primary_eq, Platform.tried]
  by_cases h : backends.platform.url = ""
  · rw [if_pos h, if_pos (by simp [h])]
    rfl
  · rw [if_neg h, if_neg (by simpa using h)]
    rfl

/-- Unless the platform failed and there is a hub, the exchanges are those of the attempt on the
platform. -/
theorem exchanges_carriedOut_of_no_hub {s : σ}
    (h : backends.hub? access = none ∨
      ∀ e, ((plan.primary backends.platform).run transport s).1 ≠ .error (.told e)) :
    (plan.carriedOut backends access).exchanges transport s =
      (plan.primary backends.platform).exchanges transport s := by
  rw [carriedOut, Dialogue.exchanges_map, Backends.withFallback, Dialogue.exchanges_andThen]
  cases hfirst : ((plan.primary backends.platform).run transport s).1 with
  | ok a => exact List.append_nil _
  | error why =>
      cases why with
      | foreign fault => exact List.append_nil _
      | told e =>
          rcases h with hhub | hne
          · simp [hhub, Dialogue.exchanges]
          · exact absurd hfirst (hne e)

/-- When the platform failed and there is a hub, the exchange with the hub is the last one. -/
theorem exchanges_carriedOut_of_hub {s t : σ} {e : PlatformError} {asked : List Request} {hub : Hub}
    (h : (plan.primary backends.platform).run transport s = (.error (.told e), asked, t))
    (hhub : backends.hub? access = some hub) :
    (plan.carriedOut backends access).exchanges transport s =
      (plan.primary backends.platform).exchanges transport s ++
        [(hub.requestOf plan.hubOrder, (transport t (hub.requestOf plan.hubOrder)).1)] := by
  rw [carriedOut, Dialogue.exchanges_map, Backends.withFallback, Dialogue.exchanges_andThen, h,
    hhub]
  simp only [plan.fallback_eq, Dialogue.exchanges_map]
  rfl

end Plan

namespace Change

variable {σ : Type} (change : Change) (backends : Backends) (access : Access)
  (transport : σ → Request → Reply × σ) (s : σ)

def IsRequestTo (change : Change) (backends : Backends) (access : Access) :
    Backend → Request → Prop
  | .platform, request => request = backends.platform.requestOf change.platformOrder
  | .hub, request =>
    ∃ hub, backends.hub? access = some hub ∧ request = hub.requestOf change.hubOrder

/-- The last exchange is that of an order with the backend, which has taken it. -/
def IsTakenLast (backend : Backend) (exchanges : List (Request × Reply)) : Prop :=
  ∃ request response, exchanges.getLast? = some (request, .ok response) ∧
    change.IsRequestTo backends access backend request ∧ backend.Takes response

variable {change backends access}

theorem not_isTakenLast_nil {backend : Backend} :
    ¬ change.IsTakenLast backends access backend [] := by
  rintro ⟨request, response, hlast, -⟩
  cases hlast

theorem isTakenLast_append_iff {backend : Backend} {earlier : List (Request × Reply)}
    {request : Request} {reply : Reply} :
    change.IsTakenLast backends access backend (earlier ++ [(request, reply)]) ↔
      change.IsRequestTo backends access backend request ∧
        ∃ response, reply = .ok response ∧ backend.Takes response := by
  rw [IsTakenLast, List.getLast?_concat]
  constructor
  · rintro ⟨request', response, hlast, hto, htakes⟩
    obtain ⟨rfl, rfl⟩ := Prod.mk.inj (Option.some.inj hlast)
    exact ⟨hto, response, rfl, htakes⟩
  · rintro ⟨hto, response, rfl, htakes⟩
    exact ⟨request, response, rfl, hto, htakes⟩

theorem isRequestTo_requestOf_hub_iff {hub : Hub} (hhub : backends.hub? access = some hub)
    {backend : Backend} :
    change.IsRequestTo backends access backend (hub.requestOf change.plan.hubOrder) ↔
      backend = .hub := by
  cases backend with
  | platform =>
      simpa [IsRequestTo] using (backends.platform.requestOf_ne hub _ _).symm
  | hub => simpa [IsRequestTo] using ⟨hub, hhub, rfl⟩

theorem exhausted_ne_accepted (change : Change) (e : PlatformError)
    (hub : Option (Failure HubError)) (backend : Backend) :
    change.plan.exhausted e hub ≠ .ok (.accepted backend) := by
  cases change <;> simp [plan, exhausted]

theorem ofHub_eq_ok_iff (change : Change) (hub : Hub) {reply : Reply} :
    change.plan.ofHub hub reply = .ok () ↔
      ∃ response, reply = .ok response ∧ Backend.hub.Takes response :=
  map_const_eq_ok_iff.trans Hub.exists_conclude_eq_ok_iff

theorem ofPlatform_eq_ok_iff (change : Change) {reply : Reply} :
    change.plan.ofPlatform reply = .ok () ↔
      ∃ response, reply = .ok response ∧ Backend.platform.Takes response :=
  map_const_eq_ok_iff.trans Platform.exists_conclude_eq_ok_iff

theorem isTakenLast_primary_iff {backend : Backend} :
    change.IsTakenLast backends access backend
        ((change.plan.primary backends.platform).exchanges transport s) ↔
      backend = .platform ∧
        ((change.plan.primary backends.platform).run transport s).1 = .ok () := by
  rw [Plan.exchanges_primary]
  by_cases h : backends.platform.url = ""
  · rw [if_pos h, change.plan.run_primary_of_no_url backends transport s h]
    simp [not_isTakenLast_nil]
  · rw [if_neg h, change.plan.run_primary_of_url backends transport s h, ← List.nil_append [_],
      isTakenLast_append_iff]
    cases backend with
    | platform =>
        rw [← ofPlatform_eq_ok_iff change]
        simp [IsRequestTo, plan]
    | hub =>
        constructor
        · rintro ⟨⟨hub, -, hrequest⟩, -⟩
          exact absurd hrequest (backends.platform.requestOf_ne hub _ _)
        · rintro ⟨hbackend, -⟩
          cases hbackend

theorem isTakenLast_hub_iff {backend : Backend} {earlier : List (Request × Reply)} {reply : Reply}
    {hub : Hub} (hhub : backends.hub? access = some hub) :
    change.IsTakenLast backends access backend
        (earlier ++ [(hub.requestOf change.plan.hubOrder, reply)]) ↔
      backend = .hub ∧ change.plan.ofHub hub reply = .ok () := by
  rw [isTakenLast_append_iff, isRequestTo_requestOf_hub_iff hhub]
  refine and_congr_right ?_
  rintro rfl
  exact (ofHub_eq_ok_iff change hub).symm

/-- A change is accepted by a backend exactly when the last exchange was with that backend, and it
has taken the order. -/
theorem perform_eq_accepted_iff (change : Change) (backends : Backends) (access : Access)
    (transport : σ → Request → Reply × σ) (s : σ) (backend : Backend) :
    ((change.perform backends access).run transport s).1 = .ok (.accepted backend) ↔
      change.IsTakenLast backends access backend
        ((change.perform backends access).exchanges transport s) := by
  by_cases hsend : change.IsSendable
  case neg =>
    obtain ⟨why, hwhy⟩ := perform_of_not_isSendable hsend backends access
    simp [hwhy, Dialogue.exchanges, not_isTakenLast_nil]
  rw [perform_eq_carriedOut backends access hsend]
  -- There is a second exchange only if the platform failed in a way it can tell and a hub is known.
  match hfirst : ((change.plan.primary backends.platform).run transport s).1 with
  | .ok () =>
      have hasked := change.plan.exchanges_carriedOut_of_no_hub backends access transport (s := s)
        (.inr (by simp [hfirst]))
      have hrun := change.plan.run_carriedOut_of_ok backends access transport (Prod.ext hfirst rfl)
      rw [hasked, hrun, isTakenLast_primary_iff, hfirst]
      simp [plan, eq_comm]
  | .error (.foreign fault) =>
      have hasked := change.plan.exchanges_carriedOut_of_no_hub backends access transport (s := s)
        (.inr (by simp [hfirst]))
      have hrun := change.plan.run_carriedOut_of_foreign backends access transport
        (Prod.ext hfirst rfl)
      rw [hasked, hrun, isTakenLast_primary_iff, hfirst]
      simp
  | .error (.told e) =>
      cases hhub : backends.hub? access with
      | none =>
          have hasked := change.plan.exchanges_carriedOut_of_no_hub backends access transport
            (s := s) (.inl hhub)
          have hrun := change.plan.run_carriedOut_of_no_hub backends access transport
            (Prod.ext hfirst rfl) hhub
          rw [hasked, hrun, isTakenLast_primary_iff, hfirst]
          simpa using change.exhausted_ne_accepted e none backend
      | some hub =>
          have hasked := change.plan.exchanges_carriedOut_of_hub backends access transport
            (Prod.ext hfirst rfl) hhub
          have hrun := change.plan.run_carriedOut_of_hub backends access transport
            (Prod.ext hfirst rfl) hhub
          rw [hasked, hrun, isTakenLast_hub_iff hhub]
          dsimp only
          split
          case h_1 a hreply =>
            rw [hreply]
            simp [plan, eq_comm]
          case h_2 why hreply =>
            simpa [hreply] using change.exhausted_ne_accepted e (some why) backend

/-- A platform that answers a deletion with 304, a status that stands for no success, is taken to
have deleted. -/
theorem delete_accepted_of_notModified :
    let backends : Backends := ⟨.ofUrl (some "https://platform.example") (.double 10), .double 10⟩
    let operation := (delete "lamp").perform backends ⟨none, .home⟩
    let transport := fun (n : Nat) (_ : Request) => ((.ok ⟨304, ""⟩ : Reply), n + 1)
    (operation.run transport 0).1 = .ok (.accepted .platform) ∧
      ¬ ∃ request response,
        (operation.exchanges transport 0).getLast? = some (request, .ok response) ∧
          response.IsSuccess := by
  intro backends operation transport
  constructor
  · rfl
  · rintro ⟨request, response, hlast, -, hsuccess⟩
    have hreply : (304 : Int) = response.status := congrArg Response.status
      (Except.ok.inj (congrArg Prod.snd (Option.some.inj hlast)))
    omega

end Change

end HomeAutomation
