import HomeAutomation.Proofs.Backend.Answer

/-!
# Platform first, and at most one hop to the hub

`SingleHop` says how an operation runs over a transport. Its requests are those to the platform
followed by those to the hub, at most one of each. The platform is asked unless it has no address;
the hub is asked exactly when the platform has not done it and there is a hub to fall back on. The
outcome is that of the backend which did it, and the platform's error if none did. Every plan is
carried out so (`carriedOut_singleHop`), over every transport.

What the platform has not done is told by an error of a backend. As a rule the platform's client
makes it; a transport may also raise one itself (`Platform.conclude_eq_raised_iff`), and that leads
to the hub as well. Whatever else it raises ends the operation.
-/

namespace HomeAutomation

open Text

variable {α β σ : Type}

namespace Plan

/-- How the attempt on the platform runs: what it comes to, the requests, and the state left
behind. -/
abbrev firstTry (plan : Plan α β) (backends : Backends)
    (transport : σ → Request → Reply × σ) (s : σ) :
    Except (Failure PlatformError) α × List Request × σ :=
  (plan.primary backends.platform).run transport s

/-- How the attempt on the hub runs after that on the platform. -/
abbrev secondTry (plan : Plan α β) (backends : Backends) (hub : Hub)
    (transport : σ → Request → Reply × σ) (s : σ) :
    Except (Failure HubError) α × List Request × σ :=
  (plan.fallback hub).run transport (plan.firstTry backends transport s).2.2

theorem requests_firstTry (plan : Plan α β) (backends : Backends)
    (transport : σ → Request → Reply × σ) (s : σ) :
    (plan.firstTry backends transport s).2.1 =
      if backends.platform.url = "" then []
      else [backends.platform.requestOf plan.platformOrder] := by
  by_cases h : backends.platform.url = ""
  · rw [firstTry, plan.run_primary_of_no_url backends transport s h, if_pos h]
  · rw [firstTry, plan.run_primary_of_url backends transport s h, if_neg h]

theorem requests_firstTry_le_one (plan : Plan α β) (backends : Backends)
    (transport : σ → Request → Reply × σ) (s : σ) :
    (plan.firstTry backends transport s).2.1 = [] ∨
      (plan.firstTry backends transport s).2.1 =
        [backends.platform.requestOf plan.platformOrder] := by
  rw [requests_firstTry]
  split
  · exact Or.inl rfl
  · exact Or.inr rfl

theorem requests_firstTry_eq_nil_iff (plan : Plan α β) (backends : Backends)
    (transport : σ → Request → Reply × σ) (s : σ) :
    (plan.firstTry backends transport s).2.1 = [] ↔ backends.platform.url = "" := by
  rw [requests_firstTry]
  by_cases h : backends.platform.url = ""
  · simp [h]
  · simp [h]

theorem firstTry_eq_raised_iff (plan : Plan α β) (backends : Backends)
    (transport : σ → Request → Reply × σ) (s : σ) {whose : Option Backend} {status : Option Int}
    {detail : String} :
    (plan.firstTry backends transport s).1 = .error (.told (.raised whose status detail)) ↔
      backends.platform.url ≠ "" ∧
        (transport s (backends.platform.requestOf plan.platformOrder)).1 =
          .error ⟨.backend whose status, detail⟩ := by
  obtain ⟨read, hread⟩ := plan.ofPlatform_eq
  by_cases h : backends.platform.url = ""
  · rw [firstTry, plan.run_primary_of_no_url backends transport s h]
    simp [h]
  · rw [firstTry, plan.run_primary_of_url backends transport s h, hread, map_eq_error_iff,
      Platform.conclude_eq_raised_iff]
    simp [h]

end Plan

/-- How an operation with a plan runs over a transport: `first` holds the requests to the platform
and `second` those to the hub. -/
structure SingleHop (plan : Plan α β) (backends : Backends) (access : Access)
    (transport : σ → Request → Reply × σ) (s : σ) (operation : Backends.Operation β)
    (first second : List Request) : Prop where
  /-- The requests to the platform come first. -/
  requests_eq : (operation.run transport s).2.1 = first ++ second
  /-- The platform gets the order at most once. -/
  first_eq : first = [] ∨ first = [backends.platform.requestOf plan.platformOrder]
  /-- It gets none exactly when it has no address. -/
  first_eq_nil_iff : first = [] ↔ backends.platform.url = ""
  /-- The hub gets the order at most once. -/
  second_eq : second = [] ∨
    ∃ hub, backends.hub? access = some hub ∧ second = [hub.requestOf plan.hubOrder]
  /-- It gets one exactly when the platform has not done it and there is a hub. -/
  second_ne_nil_iff : second ≠ [] ↔
    (∃ e, (plan.firstTry backends transport s).1 = .error (.told e)) ∧
      ∃ hub, backends.hub? access = some hub
  /-- The platform's client makes the error, unless the transport raised it. -/
  raised_iff : ∀ whose status detail,
    (plan.firstTry backends transport s).1 = .error (.told (.raised whose status detail)) ↔
      backends.platform.url ≠ "" ∧
        (transport s (backends.platform.requestOf plan.platformOrder)).1 =
          .error ⟨.backend whose status, detail⟩
  /-- What the platform has done is the outcome. -/
  of_platform : ∀ a, (plan.firstTry backends transport s).1 = .ok a →
    (operation.run transport s).1 = .ok (plan.settled .platform a)
  /-- What the hub has done after the platform failed is the outcome. -/
  of_hub : ∀ e hub a, (plan.firstTry backends transport s).1 = .error (.told e) →
    backends.hub? access = some hub →
    (plan.secondTry backends hub transport s).1 = .ok a →
    (operation.run transport s).1 = .ok (plan.settled .hub a)
  /-- When the hub fails as well, the outcome is that of both failures. -/
  of_both : ∀ e hub why, (plan.firstTry backends transport s).1 = .error (.told e) →
    backends.hub? access = some hub →
    (plan.secondTry backends hub transport s).1 = .error why →
    (operation.run transport s).1 = plan.exhausted e (some why)
  /-- Without a hub, the outcome is that of the platform's failure. -/
  of_no_hub : ∀ e, (plan.firstTry backends transport s).1 = .error (.told e) →
    backends.hub? access = none → (operation.run transport s).1 = plan.exhausted e none
  /-- What went wrong on the way to the platform is not tried again. -/
  of_foreign : ∀ fault, (plan.firstTry backends transport s).1 = .error (.foreign fault) →
    (operation.run transport s).1 = .error (.foreign fault)

namespace Plan

variable (plan : Plan α β) (backends : Backends) (access : Access)
  (transport : σ → Request → Reply × σ) {s : σ}

/-- Where the hub is not asked, the run is that of the attempt on the platform. -/
theorem singleHop_of_firstTry {outcome : Except OperationError β}
    (hrun : (plan.carriedOut backends access).run transport s =
      (outcome, (plan.firstTry backends transport s).2))
    (hhub : ∀ e, (plan.firstTry backends transport s).1 = .error (.told e) →
      backends.hub? access = none)
    (hok : ∀ a, (plan.firstTry backends transport s).1 = .ok a →
      outcome = .ok (plan.settled .platform a))
    (htold : ∀ e, (plan.firstTry backends transport s).1 = .error (.told e) →
      outcome = plan.exhausted e none)
    (hforeign : ∀ fault, (plan.firstTry backends transport s).1 = .error (.foreign fault) →
      outcome = .error (.foreign fault)) :
    SingleHop plan backends access transport s (plan.carriedOut backends access)
      (plan.firstTry backends transport s).2.1 [] where
  requests_eq := by rw [hrun, List.append_nil]
  first_eq := plan.requests_firstTry_le_one backends transport s
  first_eq_nil_iff := plan.requests_firstTry_eq_nil_iff backends transport s
  second_eq := Or.inl rfl
  second_ne_nil_iff := by
    refine iff_of_false (fun h => h rfl) ?_
    rintro ⟨⟨e, he⟩, hub, hhub'⟩
    rw [hhub e he] at hhub'
    cases hhub'
  raised_iff _ _ _ := plan.firstTry_eq_raised_iff backends transport s
  of_platform a ha := by rw [hrun, hok a ha]
  of_hub e hub a he hhub' := by
    rw [hhub e he] at hhub'
    cases hhub'
  of_both e hub why he hhub' := by
    rw [hhub e he] at hhub'
    cases hhub'
  of_no_hub e he _ := by rw [hrun, htold e he]
  of_foreign fault hfault := by rw [hrun, hforeign fault hfault]

theorem singleHop_of_ok {a : α} (h : (plan.firstTry backends transport s).1 = .ok a) :
    SingleHop plan backends access transport s (plan.carriedOut backends access)
      (plan.firstTry backends transport s).2.1 [] := by
  have hrun := plan.run_carriedOut_of_ok backends access transport (s := s) (Prod.ext h rfl)
  apply plan.singleHop_of_firstTry backends access transport hrun
  · simp [h]
  · simp [h]
  · simp [h]
  · simp [h]

theorem singleHop_of_foreign {fault : Fault}
    (h : (plan.firstTry backends transport s).1 = .error (.foreign fault)) :
    SingleHop plan backends access transport s (plan.carriedOut backends access)
      (plan.firstTry backends transport s).2.1 [] := by
  have hrun := plan.run_carriedOut_of_foreign backends access transport (s := s) (Prod.ext h rfl)
  apply plan.singleHop_of_firstTry backends access transport hrun
  · simp [h]
  · simp [h]
  · simp [h]
  · simp [h]

theorem singleHop_of_no_hub {e : PlatformError}
    (h : (plan.firstTry backends transport s).1 = .error (.told e))
    (hhub : backends.hub? access = none) :
    SingleHop plan backends access transport s (plan.carriedOut backends access)
      (plan.firstTry backends transport s).2.1 [] := by
  have hrun := plan.run_carriedOut_of_no_hub backends access transport
    (s := s) (Prod.ext h rfl) hhub
  apply plan.singleHop_of_firstTry backends access transport hrun
  · simp [hhub]
  · simp [h]
  · simp [h]
  · simp [h]

theorem singleHop_of_hub {e : PlatformError} {hub : Hub}
    (h : (plan.firstTry backends transport s).1 = .error (.told e))
    (hhub : backends.hub? access = some hub) :
    SingleHop plan backends access transport s (plan.carriedOut backends access)
      (plan.firstTry backends transport s).2.1 [hub.requestOf plan.hubOrder] := by
  have hrun := plan.run_carriedOut_of_hub backends access transport
    (s := s) (Prod.ext h rfl) hhub
  have hsecond : (plan.secondTry backends hub transport s).1 =
      plan.ofHub hub (transport (plan.firstTry backends transport s).2.2
        (hub.requestOf plan.hubOrder)).1 := by
    rw [secondTry, plan.fallback_eq]
    rfl
  exact {
    requests_eq := by rw [hrun]
    first_eq := plan.requests_firstTry_le_one backends transport s
    first_eq_nil_iff := plan.requests_firstTry_eq_nil_iff backends transport s
    second_eq := Or.inr ⟨hub, hhub, rfl⟩
    second_ne_nil_iff := by simp [h, hhub]
    raised_iff := fun _ _ _ => plan.firstTry_eq_raised_iff backends transport s
    of_platform := by simp [h]
    of_hub := by
      rintro e' hub' a he hhub' ha
      obtain rfl : hub = hub' := Option.some.inj (hhub.symm.trans hhub')
      rw [hrun, ← hsecond, ha]
    of_both := by
      rintro e' hub' why he hhub' hwhy
      obtain rfl : hub = hub' := Option.some.inj (hhub.symm.trans hhub')
      obtain rfl : e = e' := by simpa [h] using he
      rw [hrun, ← hsecond, hwhy]
    of_no_hub := by simp [hhub]
    of_foreign := by simp [h] }

/-- A plan is carried out with one hop at most. -/
theorem carriedOut_singleHop (s : σ) :
    ∃ first second, SingleHop plan backends access transport s
      (plan.carriedOut backends access) first second := by
  cases h : (plan.firstTry backends transport s).1 with
  | ok a => exact ⟨_, _, plan.singleHop_of_ok backends access transport h⟩
  | error failure =>
      cases failure with
      | foreign fault => exact ⟨_, _, plan.singleHop_of_foreign backends access transport h⟩
      | told e =>
          cases hhub : backends.hub? access with
          | none => exact ⟨_, _, plan.singleHop_of_no_hub backends access transport h hhub⟩
          | some hub => exact ⟨_, _, plan.singleHop_of_hub backends access transport h hhub⟩

end Plan

namespace Backends

/-- All five operations go to the platform first and at most once to the hub, whatever the address
of the platform, the connection to the hub, the mode and the transport. Where an id is given it is
any text; an id with a surrogate in it ends the operation before anybody is asked. -/
theorem operations_singleHop (url : Option String) (platformTimeout hubTimeout : Number)
    (connection : Option HubConnection) (mode : Option String)
    (transport : σ → Request → Reply × σ) (s : σ) :
    let backends : Backends := ⟨.ofUrl url platformTimeout, hubTimeout⟩
    let access : Access := ⟨connection, .ofText mode⟩
    (∃ first second, SingleHop listing backends access transport s
      (backends.list access) first second) ∧
    (∀ change : Change, change.IsSendable →
      ∃ first second, SingleHop change.plan backends access transport s
        (change.perform backends access) first second) ∧
    ∀ id : WideText, id.HasSurrogate →
      (∀ (clock : Int) (draft : Draft), draft.IsAccepted →
        (backends.update access clock id draft).run transport s =
          (.error (.foreign (.unencodable id)), [], s)) ∧
      (backends.delete access id).run transport s = (.error (.foreign (.unencodable id)), [], s) ∧
      ∀ enabled : Bool, (backends.setEnabled access id enabled).run transport s =
        (.error (.foreign (.unencodable id)), [], s) := by
  intro backends access
  refine ⟨?_, ?_, ?_⟩
  · rw [list_eq_carriedOut]
    exact listing.carriedOut_singleHop backends access transport s
  · intro change hchange
    rw [Change.perform_eq_carriedOut backends access hchange]
    exact change.plan.carriedOut_singleHop backends access transport s
  · intro id hid
    refine ⟨?_, ?_, ?_⟩
    · intro clock draft haccepted
      rw [update_of_hasSurrogate backends access hid haccepted clock, Dialogue.run_done]
    · rw [delete_of_hasSurrogate backends access hid, Dialogue.run_done]
    · intro enabled
      rw [setEnabled_of_hasSurrogate backends access hid, Dialogue.run_done]

/-- A transport that raises an error of the hub when the platform is asked leads to the hub, though
nothing is wrong with the platform. An id that is half of a pair leads nowhere, though the platform
has an address. -/
theorem deletions_hop_wrongly :
    let backends : Backends := ⟨.ofUrl (some "https://platform.example") (.int 10), .int 10⟩
    let access : Access := ⟨some ⟨some "http://hub:8123", none, "token"⟩, .home⟩
    let hub : Hub := ⟨"http://hub:8123", "token", .int 10⟩
    let plan := (Change.delete "lamp").plan
    let raising (n : Nat) (_ : Request) : Reply × Nat :=
      (if n = 0 then .error ⟨.backend (some .hub) none, "Hub is busy"⟩ else .ok ⟨200, ""⟩, n + 1)
    let half : WideText := ⟨[.surrogate 0]⟩
    (plan.firstTry backends raising 0).1 =
        .error (.told (.raised (some .hub) none "Hub is busy")) ∧
      (backends.delete access "lamp").run raising 0 =
        (.ok (.accepted .hub),
          [backends.platform.requestOf plan.platformOrder, hub.requestOf plan.hubOrder], 2) ∧
      backends.platform.url ≠ "" ∧
      (backends.delete access half).run raising 0 =
        (.error (.foreign (.unencodable half)), [], 0) := by
  intro backends access hub plan raising half
  have hhub : backends.hub? access = some hub := by decide
  have hsend : (Change.delete "lamp").IsSendable := nofun
  have hfirst : plan.firstTry backends raising 0 =
      (.error (.told (.raised (some .hub) none "Hub is busy")),
        [backends.platform.requestOf plan.platformOrder], 1) := rfl
  have hrun := plan.run_carriedOut_of_hub backends access raising hfirst hhub
  rw [← Change.perform_eq_carriedOut backends access hsend] at hrun
  have hhalf : half.HasSurrogate := ⟨0, List.mem_singleton_self _⟩
  refine ⟨congrArg Prod.fst hfirst, hrun, by decide, ?_⟩
  rw [delete_of_hasSurrogate backends access hhalf, Dialogue.run_done]

/-- With a blank address of the platform and a hub at home, an accepted draft takes the hop, and half
of a pair does not. -/
theorem operations_singleHop_eveningLights :
    let backends : Backends := ⟨.ofUrl (some " / ") (.int 10), .int 10⟩
    let access : Access := ⟨some ⟨some "http://hub:8123/", none, "token"⟩, .ofText (some "home")⟩
    let transport (n : Nat) (_ : Request) : Reply × Nat := (.ok ⟨200, ""⟩, n + 1)
    let change : Change := .create 0 .eveningLights
    let half : WideText := ⟨[.surrogate 0]⟩
    (change.IsSendable ∧
      ∃ first second, SingleHop change.plan backends access transport 0
        (change.perform backends access) first second) ∧
    half.HasSurrogate ∧ Draft.IsAccepted .eveningLights ∧
      (backends.update access 0 half .eveningLights).run transport 0 =
        (.error (.foreign (.unencodable half)), [], 0) := by
  intro backends access transport change half
  have hchange : change.IsSendable := by
    intro draft hdraft
    obtain rfl : Draft.eveningLights = draft := Option.some.inj hdraft
    exact Draft.eveningLights_isAccepted
  have hhalf : half.HasSurrogate := ⟨0, List.mem_singleton_self _⟩
  obtain ⟨-, hchanges, hhalves⟩ := operations_singleHop (some " / ") (.int 10) (.int 10)
    access.connection (some "home") transport 0
  exact ⟨⟨hchange, hchanges change hchange⟩, hhalf, Draft.eveningLights_isAccepted,
    (hhalves half hhalf).1 0 .eveningLights Draft.eveningLights_isAccepted⟩

end Backends

end HomeAutomation
