import HomeAutomation.Proofs.Backend.Trace
import Mathlib.Data.List.Forall2

/-!
# Who is shown the token

Two runs of an operation that differ in the token of the connection only are compared request by
request. `Dialogue.Alike` relates two dialogues whose requests are related in pairs and which go on
alike after the same reply. Where replies do not depend on headers (`Circumstances.IgnoresHeaders`),
alike dialogues get the same replies all along, since a token is shown in a header and nowhere else;
so they end alike, and their requests are related in pairs (`Dialogue.Alike.run_eq`). The relation
for tokens lets the requests to the hub differ in one header and those to the platform in nothing
(`SameButToken`).
-/

namespace HomeAutomation

/-- The request without its headers. -/
def Request.bare (request : Request) : Request :=
  { request with headers := [] }

section Replies

variable {σ : Type} {transport : σ → Request → Reply × σ} {s t : σ}

def stateAfter (transport : σ → Request → Reply × σ) (s : σ) (requests : List Request) : σ :=
  requests.foldl (fun s request => (transport s request).2) s

/-- From two states on, requests that differ in their headers only are answered alike, also after
others of that kind. -/
def RepliesAlike (transport : σ → Request → Reply × σ) (s t : σ) : Prop :=
  ∀ earlier earlier' : List Request, earlier.map Request.bare = earlier'.map Request.bare →
    ∀ request request' : Request, request.bare = request'.bare →
      (transport (stateAfter transport s earlier) request).1 =
        (transport (stateAfter transport t earlier') request').1

theorem RepliesAlike.reply_eq (h : RepliesAlike transport s t) {request request' : Request}
    (hbare : request.bare = request'.bare) :
    (transport s request).1 = (transport t request').1 :=
  h [] [] rfl request request' hbare

theorem RepliesAlike.step (h : RepliesAlike transport s t) {request request' : Request}
    (hbare : request.bare = request'.bare) :
    RepliesAlike transport (transport s request).2 (transport t request').2 := by
  intro earlier earlier' hearlier
  refine h (request :: earlier) (request' :: earlier') ?_
  rw [List.map_cons, List.map_cons, hbare, hearlier]

end Replies

namespace Circumstances

/-- The replies do not depend on headers, neither on those of the request nor on those of the
requests before it. -/
def IgnoresHeaders (w : Circumstances) : Prop :=
  RepliesAlike w.transport w.state w.state

end Circumstances

namespace Dialogue

variable {α β σ : Type} {rel : Request → Request → Prop}

/-- The requests are related in pairs, whatever the replies, and the ends are the same. -/
inductive Alike (rel : Request → Request → Prop) : Dialogue α → Dialogue α → Prop
  | done (a : α) : Alike rel (.done a) (.done a)
  | ask {request request' : Request} {next next' : Reply → Dialogue α}
      (hrequest : rel request request') (hnext : ∀ reply, Alike rel (next reply) (next' reply)) :
      Alike rel (.ask request next) (.ask request' next')

namespace Alike

theorem exchange {request request' : Request} (h : rel request request') (read : Reply → α) :
    Alike rel (.exchange request read) (.exchange request' read) :=
  .ask h fun reply => .done (read reply)

theorem andThen {d d' : Dialogue α} {f f' : α → Dialogue β} (h : Alike rel d d')
    (hf : ∀ a, Alike rel (f a) (f' a)) : Alike rel (d.andThen f) (d'.andThen f') := by
  induction h with
  | done a => exact hf a
  | ask hrequest hnext ih => exact .ask hrequest ih

theorem map {d d' : Dialogue α} (h : Alike rel d d') (f : α → β) :
    Alike rel (d.map f) (d'.map f) :=
  h.andThen fun a => .done (f a)

/-- Related requests that differ in their headers only get the same replies, so the dialogues go on
alike to the end. -/
theorem run_eq (hrel : ∀ request request', rel request request' → request.bare = request'.bare)
    {transport : σ → Request → Reply × σ} {s t : σ} {d d' : Dialogue α} (h : Alike rel d d')
    (hreplies : RepliesAlike transport s t) :
    (d.run transport s).1 = (d'.run transport t).1 ∧
      List.Forall₂ rel (d.run transport s).2.1 (d'.run transport t).2.1 := by
  -- for all states, since the rest goes on from the states after the first request
  induction h generalizing s t with
  | done a => exact ⟨rfl, .nil⟩
  | ask hrequest hnext ih =>
      have hbare := hrel _ _ hrequest
      obtain ⟨houtcome, hrequests⟩ := ih _ (hreplies.step hbare)
      rw [run_ask, run_ask, ← hreplies.reply_eq hbare]
      exact ⟨houtcome, .cons hrequest hrequests⟩

end Alike

end Dialogue

def HubConnection.withToken (connection : HubConnection) (token : String) : HubConnection :=
  { connection with token := token }

def Hub.withToken (hub : Hub) (token : String) : Hub :=
  { hub with token := token }

def Hub.requestShowing (hub : Hub) (token : String) (order : Order) : Request :=
  { hub.requestOf order with
    headers := [("Authorization", "Bearer " ++ token), ("Content-Type", "application/json")] }

theorem Hub.requestOf_withToken (hub : Hub) (token : String) (order : Order) :
    (hub.withToken token).requestOf order = hub.requestShowing token order := rfl

/-- The same request, to the platform or to the hub, where the hub is shown one token or the
other. -/
inductive SameButToken (platform : Platform) (hub? : Option Hub) (token token' : String) :
    Request → Request → Prop
  | toPlatform (order : Order) :
      SameButToken platform hub? token token' (platform.requestOf order) (platform.requestOf order)
  | toHub (hub : Hub) (hhub : hub? = some hub) (order : Order) :
      SameButToken platform hub? token token' (hub.requestShowing token order)
        (hub.requestShowing token' order)

theorem SameButToken.bare_eq {platform : Platform} {hub? : Option Hub} {token token' : String}
    {request request' : Request} (h : SameButToken platform hub? token token' request request') :
    request.bare = request'.bare := by
  cases h with
  | toPlatform order => rfl
  | toHub hub hhub order => rfl

/-- What a reply of the hub comes to has nothing to do with the token. -/
def Plan.IgnoresToken {α β : Type} (plan : Plan α β) : Prop :=
  ∀ hub token, plan.ofHub (hub.withToken token) = plan.ofHub hub

theorem Backends.listing_ignoresToken : listing.IgnoresToken :=
  fun _ _ => rfl

theorem Change.plan_ignoresToken (change : Change) : change.plan.IgnoresToken :=
  fun _ _ => rfl

section Runs

variable {α β : Type} (backends : Backends) (connection : HubConnection) (mode : HubMode)
  (token token' : String)

theorem Backends.hub?_withToken :
    backends.hub? ⟨some (connection.withToken token), mode⟩ =
      (backends.hub? ⟨some connection, mode⟩).map fun hub => hub.withToken token := by
  have hurl : (connection.withToken token).url? mode = connection.url? mode := rfl
  simp only [hub?, Hub.ofConnection?, Option.bind_eq_bind, Option.bind_some, hurl]
  cases Text.nonEmpty? (connection.url? mode) with
  | none => rfl
  | some url => rfl

theorem Plan.alike_primary (plan : Plan α β) (hub? : Option Hub) :
    Dialogue.Alike (SameButToken backends.platform hub? token token')
      (plan.primary backends.platform) (plan.primary backends.platform) := by
  rw [plan.primary_eq, Platform.tried]
  split
  · exact .done _
  · exact .exchange (.toPlatform plan.platformOrder) plan.ofPlatform

theorem Plan.alike_fallback {plan : Plan α β} (h : plan.IgnoresToken) (platform : Platform)
    (hub : Hub) :
    Dialogue.Alike (SameButToken platform (some hub) token token')
      (plan.fallback (hub.withToken token)) (plan.fallback (hub.withToken token')) := by
  rw [plan.fallback_eq, plan.fallback_eq, h hub token, h hub token', hub.requestOf_withToken,
    hub.requestOf_withToken]
  exact .exchange (.toHub hub rfl plan.hubOrder) (plan.ofHub hub)

/-- Carried out with two tokens, a plan asks the platform for the same and the hub for the same but
the token, as long as the replies are the same. -/
theorem Plan.alike_carriedOut {plan : Plan α β} (h : plan.IgnoresToken) :
    Dialogue.Alike
      (SameButToken backends.platform (backends.hub? ⟨some connection, mode⟩) token token')
      (plan.carriedOut backends ⟨some (connection.withToken token), mode⟩)
      (plan.carriedOut backends ⟨some (connection.withToken token'), mode⟩) := by
  rw [carriedOut, carriedOut, Backends.withFallback, Backends.withFallback,
    backends.hub?_withToken connection mode token, backends.hub?_withToken connection mode token']
  apply Dialogue.Alike.map
  apply Dialogue.Alike.andThen (plan.alike_primary backends token token' _)
  intro r
  -- only a failure of the platform itself leads on to the hub
  cases r with
  | ok a => exact .done _
  | error why =>
      cases why with
      | foreign fault => exact .done _
      | told e =>
          cases backends.hub? ⟨some connection, mode⟩ with
          | none => exact .done _
          | some hub => exact (Plan.alike_fallback token token' h backends.platform hub).map _

end Runs

/-- In both runs the caller gets the same, and the requests are the same but for the token that the
hub is shown. -/
structure OnlyHubCanTell {β : Type} (platform : Platform) (hub? : Option Hub)
    (token token' : String) (w : Circumstances) (first second : Backends.Operation β) : Prop where
  outcome_eq : w.outcome first = w.outcome second
  requests_same : List.Forall₂ (SameButToken platform hub? token token')
    (w.requests first) (w.requests second)

theorem Dialogue.Alike.onlyHubCanTell {β : Type} {platform : Platform} {hub? : Option Hub}
    {token token' : String} {w : Circumstances} {first second : Backends.Operation β}
    (h : Alike (SameButToken platform hub? token token') first second) (hw : w.IgnoresHeaders) :
    OnlyHubCanTell platform hub? token token' w first second := by
  obtain ⟨houtcome, hrequests⟩ := h.run_eq (fun _ _ hrequest => hrequest.bare_eq) hw
  exact ⟨houtcome, hrequests⟩

/-- Where replies do not depend on headers, the token makes no difference to any operation but in
the header in which the hub is shown it. The platform does not get to know it, and neither does the
caller from the outcome. -/
theorem token_reaches_only_hub (backends : Backends) (connection : HubConnection) (mode : HubMode)
    (token token' : String) (w : Circumstances) (hw : w.IgnoresHeaders) :
    let hub? := backends.hub? ⟨some connection, mode⟩
    let access : Access := ⟨some (connection.withToken token), mode⟩
    let access' : Access := ⟨some (connection.withToken token'), mode⟩
    OnlyHubCanTell backends.platform hub? token token' w (backends.list access)
        (backends.list access') ∧
      ∀ change : Change,
        OnlyHubCanTell backends.platform hub? token token' w (change.perform backends access)
          (change.perform backends access') := by
  intro hub? access access'
  constructor
  · rw [Backends.list_eq_carriedOut, Backends.list_eq_carriedOut]
    exact (Plan.alike_carriedOut backends connection mode token token'
      Backends.listing_ignoresToken).onlyHubCanTell hw
  · intro change
    by_cases hsend : change.IsSendable
    · rw [Change.perform_eq_carriedOut _ _ hsend, Change.perform_eq_carriedOut _ _ hsend]
      exact (Plan.alike_carriedOut backends connection mode token token'
        change.plan_ignoresToken).onlyHubCanTell hw
    · obtain ⟨why, hwhy⟩ := Change.exists_rejection_perform hsend
      rw [hwhy, hwhy]
      exact (Dialogue.Alike.done _).onlyHubCanTell hw

/-- A platform that is busy and a hub without automations, which both write down all that they are
asked, headers included. -/
def recordingHub (record : List Request) (request : Request) : Reply × List Request :=
  (.ok (if request.url = "http://hub:8123/api/states" then ⟨200, "[]"⟩ else ⟨503, "busy"⟩),
    record ++ [request])

theorem ignoresHeaders_recordingHub (record : List Request) :
    (⟨List Request, 0, recordingHub, record⟩ : Circumstances).IgnoresHeaders := by
  intro earlier earlier' _ request request' hbare
  have hurl : request.bare.url = request'.bare.url := congrArg Request.url hbare
  have hsame : request.url = request'.url := hurl
  simp only [recordingHub, hsame]

/-- The hub is shown the new token and replies as it does to the old one. -/
theorem token_reaches_only_hub_renewed :
    let backends : Backends := ⟨.ofUrl (some "https://platform.example") (.int 10), .int 10⟩
    let connection : HubConnection := ⟨some "http://hub:8123", none, ""⟩
    let access (token : String) : Access := ⟨some (connection.withToken token), .home⟩
    let w : Circumstances := ⟨List Request, 0, recordingHub, []⟩
    w.IgnoresHeaders ∧ w.outcome (backends.list (access "old")) = .ok (.hub, []) ∧
      w.outcome (backends.list (access "new")) = .ok (.hub, []) ∧
      List.Forall₂
        (SameButToken backends.platform (some ⟨"http://hub:8123", "", .int 10⟩) "old" "new")
        (w.requests (backends.list (access "old")))
        (w.requests (backends.list (access "new"))) := by
  intro backends connection access w
  have hw : w.IgnoresHeaders := ignoresHeaders_recordingHub []
  have hold : w.outcome (backends.list (access "old")) = .ok (.hub, []) := by decide +kernel
  have hhub : backends.hub? ⟨some connection, .home⟩ = some ⟨"http://hub:8123", "", .int 10⟩ := by
    decide
  obtain ⟨hlist, -⟩ := token_reaches_only_hub backends connection .home "old" "new" w hw
  rw [hhub] at hlist
  exact ⟨hw, hold, hlist.outcome_eq.symm.trans hold, hlist.requests_same⟩

end HomeAutomation
