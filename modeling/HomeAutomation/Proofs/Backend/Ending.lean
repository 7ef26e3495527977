import HomeAutomation.Proofs.Backend.Blame

/-!
# How a plan ends

Over a transport that fails only where the network does, a plan ends in one of two ways
(`Plan.carriedOut_ends`). Either the backend of the last exchange has done it (`Plan.DoneBy`), or
the platform has failed and the hub, if there is one, has failed as well (`Plan.FailsWith`).
-/

namespace HomeAutomation

/-- If there is no response, the network is to blame. -/
def Circumstances.IsNetworkOnly (w : Circumstances) : Prop :=
  ∀ s request fault, (w.transport s request).1 = .error fault → fault.kind.isNetwork = true

theorem Platform.conclude_ne_foreign {reply : Reply}
    (h : ∀ fault, reply = .error fault → fault.kind.isNetwork = true) (fault : Fault) :
    conclude reply ≠ .error (.foreign fault) := by
  cases reply with
  | ok r =>
      rw [conclude]
      cases check r <;> simp
  | error other => simp [conclude, PlatformError.ofFault_of_isNetwork (h other rfl)]

namespace Plan

variable {α β : Type}

/-- The platform has failed, and so has the hub if there is one. -/
structure FailsWith (plan : Plan α β) (backends : Backends) (access : Access) (w : Circumstances)
    (e : PlatformError) : Prop where
  platform_eq : (plan.firstTry backends w.transport w.state).1 = .error (.told e)
  hub_eq : ∀ hub, backends.hub? access = some hub →
    ∃ why, (plan.secondTry backends hub w.transport w.state).1 = .error why

/-- The last exchange was with the backend, and its reply is that it is done. -/
inductive DoneBy (plan : Plan α β) (backends : Backends) (access : Access)
    (exchanges : List (Request × Reply)) : Backend → α → Prop
  | platform {reply : Reply} {a : α}
    (hlast : exchanges.getLast? = some (backends.platform.requestOf plan.platformOrder, reply))
    (hreply : plan.ofPlatform reply = .ok a) :
    DoneBy plan backends access exchanges .platform a
  | hub {hub : Hub} {reply : Reply} {a : α} (hhub : backends.hub? access = some hub)
    (hlast : exchanges.getLast? = some (hub.requestOf plan.hubOrder, reply))
    (hreply : plan.ofHub hub reply = .ok a) :
    DoneBy plan backends access exchanges .hub a

theorem secondTry_fst (plan : Plan α β) (backends : Backends) (hub : Hub) (w : Circumstances) :
    (plan.secondTry backends hub w.transport w.state).1 =
      plan.ofHub hub (w.transport (plan.firstTry backends w.transport w.state).2.2
        (hub.requestOf plan.hubOrder)).1 := by
  rw [secondTry, plan.fallback_eq]
  rfl

theorem firstTry_ne_foreign (plan : Plan α β) (backends : Backends) {w : Circumstances}
    (hnetwork : w.IsNetworkOnly) (fault : Fault) :
    (plan.firstTry backends w.transport w.state).1 ≠ .error (.foreign fault) := by
  obtain ⟨read, hread⟩ := plan.ofPlatform_eq
  by_cases hurl : backends.platform.url = ""
  · rw [firstTry, plan.run_primary_of_no_url backends w.transport w.state hurl]
    simp
  · rw [firstTry, plan.run_primary_of_url backends w.transport w.state hurl, hread, ne_eq,
      map_eq_error_iff]
    exact Platform.conclude_ne_foreign (hnetwork _ _) fault

section DoneBy

variable {plan : Plan α β} {backends : Backends} {access : Access} {w : Circumstances}

theorem doneBy_platform {a : α} (h : (plan.firstTry backends w.transport w.state).1 = .ok a) :
    plan.DoneBy backends access (w.exchanges (plan.carriedOut backends access)) .platform a := by
  have hasked : w.exchanges (plan.carriedOut backends access) = _ :=
    plan.exchanges_carriedOut_of_no_hub backends access w.transport (.inr (by simp [h]))
  by_cases hurl : backends.platform.url = ""
  · rw [firstTry, plan.run_primary_of_no_url backends w.transport w.state hurl] at h
    cases h
  · rw [firstTry, plan.run_primary_of_url backends w.transport w.state hurl] at h
    rw [hasked, plan.exchanges_primary, if_neg hurl]
    exact .platform rfl h

theorem doneBy_hub {e : PlatformError} {hub : Hub} {a : α}
    (hfirst : (plan.firstTry backends w.transport w.state).1 = .error (.told e))
    (hhub : backends.hub? access = some hub)
    (hsecond : (plan.secondTry backends hub w.transport w.state).1 = .ok a) :
    plan.DoneBy backends access (w.exchanges (plan.carriedOut backends access)) .hub a := by
  have hasked : w.exchanges (plan.carriedOut backends access) = _ :=
    plan.exchanges_carriedOut_of_hub backends access w.transport (Prod.ext hfirst rfl) hhub
  rw [secondTry_fst] at hsecond
  rw [hasked]
  exact .hub hhub List.getLast?_concat hsecond

end DoneBy

/-- A plan ends with what the last backend asked has done, or with the error of the platform when
all have failed. -/
theorem carriedOut_ends (plan : Plan α β) (backends : Backends) (access : Access)
    {w : Circumstances} (hnetwork : w.IsNetworkOnly) :
    (∃ backend a, w.outcome (plan.carriedOut backends access) = .ok (plan.settled backend a) ∧
      plan.DoneBy backends access (w.exchanges (plan.carriedOut backends access)) backend a ∧
      ∀ e, ¬ plan.FailsWith backends access w e) ∨
    ∃ e hub?, w.outcome (plan.carriedOut backends access) = plan.exhausted e hub? ∧
      plan.FailsWith backends access w e := by
  rcases plan.run_carriedOut_cases backends access w.transport w.state with
    ⟨a, hfirst, hrun⟩ | ⟨fault, hfirst, -⟩ | ⟨e, hfirst, hhub, hrun⟩ | ⟨e, hub, hfirst, hhub, hrun⟩
  · refine .inl ⟨.platform, a, congrArg Prod.fst hrun, doneBy_platform hfirst, ?_⟩
    rintro e ⟨hfails, -⟩
    rw [hfirst] at hfails
    cases hfails
  · exact absurd hfirst (plan.firstTry_ne_foreign backends hnetwork fault)
  · refine .inr ⟨e, none, congrArg Prod.fst hrun, hfirst, ?_⟩
    intro hub hsome
    rw [hhub] at hsome
    cases hsome
  · have houtcome := congrArg Prod.fst hrun
    rw [← secondTry_fst] at houtcome
    cases hsecond : (plan.secondTry backends hub w.transport w.state).1 with
    | ok a =>
        simp only [hsecond] at houtcome
        refine .inl ⟨.hub, a, houtcome, doneBy_hub hfirst hhub hsecond, ?_⟩
        rintro e' ⟨-, hfails⟩
        obtain ⟨why, hwhy⟩ := hfails hub hhub
        rw [hsecond] at hwhy
        cases hwhy
    | error why =>
        simp only [hsecond] at houtcome
        refine .inr ⟨e, some why, houtcome, hfirst, ?_⟩
        intro hub' hhub'
        obtain rfl : hub = hub' := Option.some.inj (hhub.symm.trans hhub')
        exact ⟨why, hsecond⟩

end Plan

end HomeAutomation
