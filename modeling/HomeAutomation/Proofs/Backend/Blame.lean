import HomeAutomation.Proofs.Backend.Trace

/-!
# Whose failure the caller sees

The caller is shown of a failure what kind it is, what it says and which status came with it
(`Report`). All that is the platform's: how the attempt on the platform ended follows from what the
platform replied (`Plan.attempted`), and a report, if there is one, from that end
(`Plan.Shows.ofAttempt?_eq`). The hub decides only whether there is a report at all. So two runs in
which the platform replies the same cannot be told apart by their reports, nor by anything else if
the platform does what it is asked (`CallerCannotTell`).
-/

namespace HomeAutomation

/-- Kinds of failure that the caller can tell apart. -/
inductive ReportKind where
  | rejection
  | platform
  /-- An error of the hub that the transport raises on the way to the platform. -/
  | hub
  /-- An error of a backend that is neither. -/
  | backend
  /-- A failure inside the transport. -/
  | transport (kind : FaultKind)
  deriving DecidableEq

/-- What the caller is shown of a failure. -/
structure Report where
  kind : ReportKind
  message : String
  status? : Option Int
  deriving DecidableEq

namespace Report

def kindOf : PlatformError → ReportKind
  | .raised (some .hub) .. => .hub
  | .raised none .. => .backend
  | _ => .platform

def ofPlatform (e : PlatformError) : Report :=
  ⟨kindOf e, e.message, e.status?⟩

theorem kindOf_ne_transport (e : PlatformError) (kind : FaultKind) :
    kindOf e ≠ .transport kind := by
  unfold kindOf
  split <;> simp

def ofError : OperationError → Report
  | .rejected why => ⟨.rejection, why.message, none⟩
  | .failed e _ => ofPlatform e
  | .foreign fault => ⟨.transport fault.kind, fault.text, none⟩

def ofAttempt? {α : Type} : Except (Failure PlatformError) α → Option Report
  | .ok _ => none
  | .error (.told e) => some (ofPlatform e)
  | .error (.foreign fault) => some (ofError (.foreign fault))

def ofListing? : Except OperationError (Backend × List ListedAutomation) → Option Report
  | .ok _ => none
  | .error why => some (ofError why)

/-- The report of a change, if it fails or no backend has accepted it. -/
def ofChange? : Except OperationError Outcome → Option Report
  | .ok (.accepted _) => none
  | .ok (.refused e) => some (ofPlatform e)
  | .error why => some (ofError why)

end Report

def platformReplies (exchanges : List (Request × Reply)) : List Reply :=
  (exchanges.filter fun exchange => !exchange.1.showsToken).map Prod.snd

/-- The error of the platform that its replies stand for, if they do for one. -/
def PlatformError.ofReplies? : List Reply → Option PlatformError
  | [] => some .notConfigured
  | reply :: _ =>
    match Platform.conclude reply with
    | .error (.told e) => some e
    | _ => none

/-- The platform was asked and has taken the order. -/
def PlatformTook (replies : List Reply) : Prop :=
  ∃ response, replies = [.ok response] ∧ Backend.platform.Takes response

namespace Plan

variable {α β σ : Type} (plan : Plan α β) (backends : Backends) (access : Access)
  (transport : σ → Request → Reply × σ) (s : σ)

/-- How the attempt on the platform ends when these are its replies. -/
def attempted : List Reply → Except (Failure PlatformError) α
  | [] => .error (.told .notConfigured)
  | reply :: _ => plan.ofPlatform reply

theorem platformReplies_carriedOut :
    platformReplies ((plan.carriedOut backends access).exchanges transport s) =
      if backends.platform.url = "" then []
      else [(transport s (backends.platform.requestOf plan.platformOrder)).1] := by
  have hprimary : platformReplies ((plan.primary backends.platform).exchanges transport s) =
      if backends.platform.url = "" then []
      else [(transport s (backends.platform.requestOf plan.platformOrder)).1] := by
    rw [plan.exchanges_primary]
    split
    · rfl
    · rfl
  rw [← hprimary]
  rcases plan.run_carriedOut_cases backends access transport s with
    ⟨a, hfirst, -⟩ | ⟨fault, hfirst, -⟩ | ⟨e, -, hhub, -⟩ | ⟨e, hub, hfirst, hhub, -⟩
  · rw [plan.exchanges_carriedOut_of_no_hub backends access transport (.inr (by simp [hfirst]))]
  · rw [plan.exchanges_carriedOut_of_no_hub backends access transport (.inr (by simp [hfirst]))]
  · rw [plan.exchanges_carriedOut_of_no_hub backends access transport (.inl hhub)]
  · rw [plan.exchanges_carriedOut_of_hub backends access transport (Prod.ext hfirst rfl) hhub]
    simp [platformReplies]

theorem attempted_platformReplies :
    plan.attempted (platformReplies ((plan.carriedOut backends access).exchanges transport s)) =
      (plan.firstTry backends transport s).1 := by
  rw [platformReplies_carriedOut]
  by_cases hurl : backends.platform.url = ""
  · rw [if_pos hurl, firstTry, plan.run_primary_of_no_url backends transport s hurl]
    rfl
  · rw [if_neg hurl, firstTry, plan.run_primary_of_url backends transport s hurl]
    rfl

theorem ofReplies?_eq_of_attempted {replies : List Reply} {error : PlatformError}
    (hattempted : plan.attempted replies = .error (.told error)) :
    PlatformError.ofReplies? replies = some error := by
  obtain ⟨read, hread⟩ := plan.ofPlatform_eq
  cases replies with
  | nil =>
      obtain rfl : PlatformError.notConfigured = error := by simpa [attempted] using hattempted
      rfl
  | cons reply rest =>
      have hreply : Platform.conclude reply = .error (.told error) := by
        rw [attempted, hread] at hattempted
        exact map_eq_error_iff.mp hattempted
      rw [PlatformError.ofReplies?, hreply]

/-- What the platform has taken is settled by it, with the one request that it got. -/
theorem run_of_platformTook (w : Circumstances)
    (htook : PlatformTook (platformReplies (w.exchanges (plan.carriedOut backends access)))) :
    ∃ a, plan.attempted (platformReplies (w.exchanges (plan.carriedOut backends access))) = .ok a ∧
      w.outcome (plan.carriedOut backends access) = .ok (plan.settled .platform a) ∧
      w.requests (plan.carriedOut backends access) =
        if backends.platform.url = "" then []
        else [backends.platform.requestOf plan.platformOrder] := by
  obtain ⟨response, hreplies, htakes⟩ := htook
  obtain ⟨value, hvalue⟩ := Platform.exists_conclude_eq_ok_iff.mpr ⟨response, rfl, htakes⟩
  obtain ⟨read, hread⟩ := plan.ofPlatform_eq
  have hattempted : plan.attempted
      (platformReplies (w.exchanges (plan.carriedOut backends access))) = .ok (read value) := by
    rw [hreplies, attempted, hread, hvalue]
    rfl
  have hfirst : (plan.firstTry backends w.transport w.state).1 = .ok (read value) := by
    rw [← hattempted]
    exact (plan.attempted_platformReplies backends access w.transport w.state).symm
  have hrun := plan.run_carriedOut_of_ok backends access w.transport (Prod.ext hfirst rfl)
  refine ⟨read value, hattempted, congrArg Prod.fst hrun, ?_⟩
  rw [← plan.requests_firstTry backends w.transport w.state]
  exact congrArg (·.2.1) hrun

/-- The reports on a plan are on the platform's failures, which are those of every plan. -/
structure Shows (plan : Plan α β) (report? : Except OperationError β → Option Report) : Prop where
  settled_eq : ∀ backend a, report? (.ok (plan.settled backend a)) = none
  exhausted_eq : ∀ e hub, report? (plan.exhausted e hub) = some (.ofPlatform e)
  foreign_eq : ∀ fault, report? (.error (.foreign fault)) = some (.ofError (.foreign fault))

end Plan

/-- Two runs of which the caller sees the same of any failure, and everything else as well if the
platform takes the order. -/
structure CallerCannotTell {β : Type} (report? : Except OperationError β → Option Report)
    (w v : Circumstances) (first second : Backends.Operation β) : Prop where
  report_eq : ∀ report report', report? (w.outcome first) = some report →
    report? (v.outcome second) = some report' → report = report'
  of_platformTook : PlatformTook (platformReplies (w.exchanges first)) →
    w.outcome first = v.outcome second ∧ w.requests first = v.requests second

namespace Plan.Shows

variable {α β : Type} {plan : Plan α β} {report? : Except OperationError β → Option Report}

/-- If there is a report, it is that of the attempt on the platform. -/
theorem ofAttempt?_eq (h : plan.Shows report?) (backends : Backends) (access : Access)
    (w : Circumstances) {report : Report}
    (hreport : report? (w.outcome (plan.carriedOut backends access)) = some report) :
    Report.ofAttempt?
        (plan.attempted (platformReplies (w.exchanges (plan.carriedOut backends access)))) =
      some report := by
  rw [Circumstances.exchanges, attempted_platformReplies]
  rw [Circumstances.outcome] at hreport
  rcases plan.run_carriedOut_cases backends access w.transport w.state with
    ⟨a, hfirst, hrun⟩ | ⟨fault, hfirst, hrun⟩ | ⟨e, hfirst, -, hrun⟩ | ⟨e, hub, hfirst, -, hrun⟩
  · rw [hrun, h.settled_eq] at hreport
    cases hreport
  · rw [hrun, h.foreign_eq] at hreport
    rw [hfirst]
    exact hreport
  · rw [hrun, h.exhausted_eq] at hreport
    rw [hfirst]
    exact hreport
  · rw [hrun] at hreport
    rw [hfirst]
    -- What the hub has done leaves no report; why it has not is dropped.
    cases hlast : plan.ofHub hub (w.transport (plan.firstTry backends w.transport w.state).2.2
        (hub.requestOf plan.hubOrder)).1 with
    | ok a =>
        simp only [hlast, h.settled_eq] at hreport
        cases hreport
    | error why =>
        simp only [hlast, h.exhausted_eq] at hreport
        exact hreport

/-- A report on the platform is on the error that its replies stand for. -/
theorem exists_ofReplies?_eq (h : plan.Shows report?) (backends : Backends) (access : Access)
    (w : Circumstances) {e : PlatformError}
    (hreport : report? (w.outcome (plan.carriedOut backends access)) = some (.ofPlatform e)) :
    ∃ error,
      PlatformError.ofReplies?
          (platformReplies (w.exchanges (plan.carriedOut backends access))) = some error ∧
        error.message = e.message := by
  have hattempt := h.ofAttempt?_eq backends access w hreport
  generalize platformReplies (w.exchanges (plan.carriedOut backends access)) = replies at hattempt ⊢
  match hattempted : plan.attempted replies with
  | .ok a =>
      rw [hattempted] at hattempt
      cases hattempt
  | .error (.foreign fault) =>
      rw [hattempted] at hattempt
      have hkind := congrArg Report.kind (Option.some.inj hattempt)
      exact absurd hkind.symm (Report.kindOf_ne_transport e fault.kind)
  | .error (.told error) =>
      rw [hattempted] at hattempt
      have hmessage := congrArg Report.message (Option.some.inj hattempt)
      exact ⟨error, plan.ofReplies?_eq_of_attempted hattempted, hmessage⟩

/-- The caller cannot tell two runs apart in which the platform replies the same. -/
theorem callerCannotTell (h : plan.Shows report?) (platform : Platform) (timeout timeout' : Number)
    (access access' : Access) (w v : Circumstances)
    (hsame : platformReplies (w.exchanges (plan.carriedOut ⟨platform, timeout⟩ access)) =
      platformReplies (v.exchanges (plan.carriedOut ⟨platform, timeout'⟩ access'))) :
    CallerCannotTell report? w v (plan.carriedOut ⟨platform, timeout⟩ access)
      (plan.carriedOut ⟨platform, timeout'⟩ access') where
  report_eq := by
    intro report report' hreport hreport'
    have hfirst := h.ofAttempt?_eq _ _ w hreport
    have hsecond := h.ofAttempt?_eq _ _ v hreport'
    rw [hsame] at hfirst
    exact Option.some.inj (hfirst.symm.trans hsecond)
  of_platformTook := by
    intro htook
    obtain ⟨a, ha, houtcome, hrequests⟩ := plan.run_of_platformTook _ _ w htook
    rw [hsame] at ha htook
    obtain ⟨b, hb, houtcome', hrequests'⟩ := plan.run_of_platformTook _ _ v htook
    obtain rfl : a = b := Except.ok.inj (ha.symm.trans hb)
    exact ⟨houtcome.trans houtcome'.symm, hrequests.trans hrequests'.symm⟩

end Plan.Shows

theorem Backends.listing_shows : listing.Shows Report.ofListing? where
  settled_eq _ _ := rfl
  exhausted_eq _ _ := rfl
  foreign_eq _ := rfl

theorem Change.plan_shows (change : Change) : change.plan.Shows Report.ofChange? where
  settled_eq _ _ := rfl
  exhausted_eq e hub := by
    cases change with
    | create clock draft => rfl
    | update clock id draft => rfl
    | delete id => rfl
    | setEnabled id enabled => rfl
  foreign_eq _ := rfl

namespace Backends

variable (platform : Platform) (timeout timeout' : Number) (access access' : Access)
  (w v : Circumstances)

theorem platformReplies_list (backends : Backends) :
    platformReplies (w.exchanges (backends.list access)) =
      if backends.platform.url = "" then []
      else [(w.transport w.state (backends.platform.requestOf listing.platformOrder)).1] := by
  rw [list_eq_carriedOut]
  exact listing.platformReplies_carriedOut backends access w.transport w.state

theorem platformReplies_perform {change : Change} (h : change.IsSendable) (backends : Backends) :
    platformReplies (w.exchanges (change.perform backends access)) =
      if backends.platform.url = "" then []
      else [(w.transport w.state (backends.platform.requestOf change.platformOrder)).1] := by
  rw [Change.perform_eq_carriedOut backends access h]
  exact change.plan.platformReplies_carriedOut backends access w.transport w.state

theorem list_callerCannotTell
    (hsame : platformReplies (w.exchanges (list ⟨platform, timeout⟩ access)) =
      platformReplies (v.exchanges (list ⟨platform, timeout'⟩ access'))) :
    CallerCannotTell Report.ofListing? w v (list ⟨platform, timeout⟩ access)
      (list ⟨platform, timeout'⟩ access') := by
  rw [list_eq_carriedOut, list_eq_carriedOut] at hsame ⊢
  exact listing_shows.callerCannotTell platform timeout timeout' access access' w v hsame

theorem perform_callerCannotTell (change : Change)
    (hsame : platformReplies (w.exchanges (change.perform ⟨platform, timeout⟩ access)) =
      platformReplies (v.exchanges (change.perform ⟨platform, timeout'⟩ access'))) :
    CallerCannotTell Report.ofChange? w v (change.perform ⟨platform, timeout⟩ access)
      (change.perform ⟨platform, timeout'⟩ access') := by
  by_cases hsend : change.IsSendable
  · rw [Change.perform_eq_carriedOut _ _ hsend, Change.perform_eq_carriedOut _ _ hsend] at hsame ⊢
    exact change.plan_shows.callerCannotTell platform timeout timeout' access access' w v hsame
  · obtain ⟨why, hwhy⟩ := Change.exists_rejection_perform hsend
    rw [hwhy, hwhy]
    refine ⟨?_, fun _ => ⟨rfl, rfl⟩⟩
    intro report report' hreport hreport'
    exact Option.some.inj (hreport.symm.trans hreport')

end Backends

end HomeAutomation
