import HomeAutomation.Http.Reaction
import HomeAutomation.Proofs.Backend.Blame

/-!
# What the server says of a failure

The server answers 502 only when an operation failed at the backends. Every request is either
answered without them or by one operation (`Http.Follows`), and the detail of a 502 is the friendly
form of the message that the caller of the operation is shown. So it is about the platform and can
be told from what the platform replied (`Http.Follows.of_badGateway`).
-/

namespace HomeAutomation

open Text

namespace Http

/-- What stands behind the answer to a request. -/
inductive Handling where
  /-- No backend is asked. -/
  | atOnce (answer : HttpAnswer)
  | listing
  /-- A change, and what the client is told besides if it is accepted. -/
  | changing (change : Change) (extra : Json.Fields)

namespace Handling

def reaction (settings : Settings) (r : HttpRequest) : Handling → Reaction
  | atOnce answer => .done answer
  | listing => list settings r
  | changing change extra =>
    (change.perform (backends settings) (access settings r)).map (outcome extra)

/-- An answer that is given at once does not speak of a backend. -/
def IsSound : Handling → Prop
  | atOnce answer => answer.status ≠ 502
  | listing | changing .. => True

end Handling

/-- The reaction follows a sound handling. -/
def Follows (settings : Settings) (r : HttpRequest) (reaction : Reaction) : Prop :=
  ∃ handling : Handling, handling.IsSound ∧ reaction = handling.reaction settings r

section Follows

variable {settings : Settings} {r : HttpRequest} {content : HttpRequest.Content}

theorem follows_done {answer : HttpAnswer} (h : answer.status ≠ 502) :
    Follows settings r (.done answer) :=
  ⟨.atOnce answer, h, rfl⟩

theorem follows_change (change : Change) (extra : Json.Fields) :
    Follows settings r
      ((change.perform (backends settings) (access settings r)).map (outcome extra)) :=
  ⟨.changing change extra, trivial, rfl⟩

theorem status_refused_ne (v : Json) (issues : List Issue) :
    (HttpAnswer.refused v issues).status ≠ 502 := by
  unfold HttpAnswer.refused
  split
  · simp [HttpAnswer.unprocessable]
  · simp [HttpAnswer.broken]

theorem status_preview_ne (draft : Draft) : (preview draft).status ≠ 502 := by
  unfold preview
  dsimp only
  split
  · split
    · simp [HttpAnswer.ok]
    · simp [HttpAnswer.broken]
  · simp [HttpAnswer.broken]

theorem follows_withDraft {next : Draft → Reaction}
    (h : ∀ draft, Follows settings r (next draft)) :
    Follows settings r (withDraft content next) := by
  cases content with
  | value v =>
      rw [withDraft]
      cases Draft.readBody v with
      | valid draft => exact h draft
      | invalid issues => exact follows_done (status_refused_ne v issues)
  | _ => exact follows_done (by simp [HttpAnswer.unprocessable])

theorem follows_withFields {next : Json.Fields → Reaction}
    (h : ∀ fields, Follows settings r (next fields)) :
    Follows settings r (withFields content next) := by
  cases content with
  | value v =>
      cases v with
      | obj fields => exact h fields
      | _ => exact follows_done (status_refused_ne _ _)
  | _ => exact h []

theorem follows_setState (id : String) (fields : Json.Fields) :
    Follows settings r (setState settings r id fields) := by
  rw [setState]
  cases wanted fields with
  | error fault => exact follows_done (by simp [HttpAnswer.refusal])
  | ok enabled => exact follows_change (.setEnabled id enabled) _

theorem follows_serve (clock : Int) (endpoint : Endpoint) :
    Follows settings r (serve settings clock r content endpoint) := by
  cases endpoint with
  | health => exact follows_done (by simp [HttpAnswer.ok])
  | list => exact ⟨.listing, trivial, rfl⟩
  | compile => exact follows_withDraft fun draft => follows_done (status_preview_ne draft)
  | create => exact follows_withDraft fun draft => follows_change (.create clock draft) _
  | update id => exact follows_withDraft fun draft => follows_change (.update clock id draft) _
  | delete id => exact follows_change (.delete id) _
  | setState id => exact follows_withFields (follows_setState id)

theorem follows_guarded (clock : Int) (endpoint : Endpoint) :
    Follows settings r
      (guarded settings r endpoint (serve settings clock r content endpoint)) := by
  rw [guarded_eq]
  split
  · exact follows_serve clock endpoint
  · exact follows_done (by simp [HttpAnswer.refusal])

theorem follows_atEndpoint (clock : Int) (endpoint : Endpoint) :
    Follows settings r (atEndpoint settings clock r endpoint) := by
  rw [atEndpoint]
  cases if takesBody endpoint then r.content else .absent with
  | malformed position => exact follows_done (by simp [HttpAnswer.unprocessable])
  | unreadable => exact follows_done (by simp [HttpAnswer.refusal])
  | absent => exact follows_guarded clock endpoint
  | value v => exact follows_guarded clock endpoint

theorem status_noEndpoint_ne (method : String) {status : Nat} (h : status ≠ 502)
    (detail : String) : (noEndpoint method status detail).status ≠ 502 := by
  unfold noEndpoint
  split
  · exact h
  · exact h

theorem follows_answer (settings : Settings) (clock : Int) (r : HttpRequest) :
    Follows settings r (answer settings clock r) := by
  unfold answer
  cases Endpoint.find r.method r.path with
  | found endpoint => exact follows_atEndpoint clock endpoint
  | wrongMethod => exact follows_done (status_noEndpoint_ne _ (by decide) _)
  | unknown => exact follows_done (status_noEndpoint_ne _ (by decide) _)

end Follows

/-- For a change the server is a bad gateway only if the caller is shown an error of the platform,
which the detail repeats. -/
theorem outcome_of_badGateway {extra : Json.Fields} {result : Except OperationError Outcome}
    (h : (outcome extra result).status = 502) :
    ∃ e, Report.ofChange? result = some (.ofPlatform e) ∧
      outcome extra result = .refusal 502 (friendly e.message) := by
  match result with
  | .ok (.accepted backend) => cases h
  | .ok (.refused e) => exact ⟨e, rfl, rfl⟩
  | .error (.rejected why) => cases h
  | .error (.failed e hub) => exact ⟨e, rfl, rfl⟩
  | .error (.foreign fault) => cases h

theorem list_of_badGateway {settings : Settings} {r : HttpRequest} {w : Circumstances}
    (h : (w.outcome (list settings r)).status = 502) :
    ∃ e, Report.ofListing? (w.outcome ((backends settings).list (access settings r))) =
        some (.ofPlatform e) ∧
      w.outcome (list settings r) = .refusal 502 (friendly e.message) := by
  rw [list, w.outcome_map] at h ⊢
  generalize w.outcome ((backends settings).list (access settings r)) = result at h ⊢
  match result with
  | .ok (backend, items) => cases h
  | .error (.rejected why) => cases h
  | .error (.failed e hub) => exact ⟨e, rfl, rfl⟩
  | .error (.foreign fault) => cases h

/-- A 502 says what the platform's error is, in a friendly form. -/
theorem Follows.of_badGateway {settings : Settings} {r : HttpRequest} {reaction : Reaction}
    (hfollows : Follows settings r reaction) (w : Circumstances)
    (h : (w.outcome reaction).status = 502) :
    ∃ e, PlatformError.ofReplies? (platformReplies (w.exchanges reaction)) = some e ∧
      w.outcome reaction = .refusal 502 (friendly e.message) := by
  obtain ⟨handling, hsound, rfl⟩ := hfollows
  cases handling with
  | atOnce answer => exact absurd h hsound
  | listing =>
      obtain ⟨e, hreport, hanswer⟩ := list_of_badGateway h
      rw [Backends.list_eq_carriedOut] at hreport
      obtain ⟨error, herror, hmessage⟩ := Backends.listing_shows.exists_ofReplies?_eq _ _ w hreport
      refine ⟨error, ?_, by rw [hmessage]; exact hanswer⟩
      rw [Handling.reaction, list, w.exchanges_map, Backends.list_eq_carriedOut]
      exact herror
  | changing change extra =>
      rw [Handling.reaction, w.outcome_map] at h ⊢
      rw [w.exchanges_map]
      obtain ⟨e, hreport, hanswer⟩ := outcome_of_badGateway h
      by_cases hsend : change.IsSendable
      · rw [Change.perform_eq_carriedOut _ _ hsend] at hreport hanswer ⊢
        obtain ⟨error, herror, hmessage⟩ := change.plan_shows.exists_ofReplies?_eq _ _ w hreport
        exact ⟨error, herror, by rw [hmessage]; exact hanswer⟩
      · obtain ⟨why, hwhy⟩ := Change.exists_rejection_perform hsend
        rw [hwhy] at h
        cases h

end Http

/-- In two runs with the same replies of the platform the caller is shown the same failure, if both
fail, and the same of everything if the platform takes the order. This holds whatever the hub says
and whether or not there is one. A 502 of the server is about the platform's error, so two of them
are the same when the platform replied the same. -/
theorem failure_shown_is_platforms (w v : Circumstances) :
    (∀ (platform : Platform) (timeout timeout' : Number) (access access' : Access),
      let first := Backends.list ⟨platform, timeout⟩ access
      let second := Backends.list ⟨platform, timeout'⟩ access'
      platformReplies (w.exchanges first) = platformReplies (v.exchanges second) →
        CallerCannotTell Report.ofListing? w v first second) ∧
    (∀ (change : Change) (platform : Platform) (timeout timeout' : Number)
        (access access' : Access),
      let first := (change.atTime w.clock).perform ⟨platform, timeout⟩ access
      let second := (change.atTime v.clock).perform ⟨platform, timeout'⟩ access'
      platformReplies (w.exchanges first) = platformReplies (v.exchanges second) →
        CallerCannotTell Report.ofChange? w v first second) ∧
    (∀ (settings : Settings) (r : HttpRequest),
      let reaction := Http.answer settings w.clock r
      (w.outcome reaction).status = 502 →
        ∃ e, PlatformError.ofReplies? (platformReplies (w.exchanges reaction)) = some e ∧
          w.outcome reaction = .refusal 502 (friendly e.message)) ∧
    ∀ (settings settings' : Settings) (r : HttpRequest),
      let first := Http.answer settings w.clock r
      let second := Http.answer settings' v.clock r
      platformReplies (w.exchanges first) = platformReplies (v.exchanges second) →
        (w.outcome first).status = 502 → (v.outcome second).status = 502 →
          w.outcome first = v.outcome second := by
  refine ⟨?_, ?_, ?_, ?_⟩
  · intro platform timeout timeout' access access' first second hsame
    exact Backends.list_callerCannotTell platform timeout timeout' access access' w v hsame
  · intro change platform timeout timeout' access access' first second hsame
    have hfirst := change.perform_atTime w.clock ⟨platform, timeout⟩ access
    have hsecond := change.perform_atTime v.clock ⟨platform, timeout'⟩ access'
    simp only [first, second, hfirst, hsecond] at hsame ⊢
    exact Backends.perform_callerCannotTell platform timeout timeout' access access' w v change
      hsame
  · intro settings r reaction h
    exact (Http.follows_answer settings w.clock r).of_badGateway w h
  · intro settings settings' r first second hsame hfirst hsecond
    obtain ⟨e, he, hanswer⟩ := (Http.follows_answer settings w.clock r).of_badGateway w hfirst
    obtain ⟨e', he', hanswer'⟩ := (Http.follows_answer settings' v.clock r).of_badGateway v hsecond
    rw [hsame] at he
    obtain rfl : e = e' := Option.some.inj (he.symm.trans he')
    exact hanswer.trans hanswer'.symm

/-- A platform that is busy, and a hub with a reply of its own. -/
def busyPlatform (hub : Reply) (n : Nat) (request : Request) : Reply × Nat :=
  (if request.showsToken then hub else .ok ⟨503, "busy"⟩, n + 1)

/-- Listing and deleting fail with what the busy platform says, once with a hub that fails as well
and once without one. The server says so too, whichever hub its settings name. -/
theorem failure_shown_is_platforms_busy :
    let platform : Platform := .ofUrl (some "https://platform.example") (.int 10)
    let home : Access := ⟨some ⟨some "http://hub:8123/", none, "token"⟩, .home⟩
    let w : Circumstances := ⟨Nat, 0, busyPlatform (.ok ⟨500, "out of memory"⟩), 0⟩
    let v : Circumstances := ⟨Nat, 60000, busyPlatform (.error ⟨.brokeDown, "reset"⟩), 7⟩
    let deletion : Change := .delete "lamp"
    let busy : Report := ⟨.platform, "busy", some 503⟩
    let settings (hubUrl : Option String) : Settings :=
      ⟨some "https://platform.example", 10.0, hubUrl, none, "token", 10.0, Settings.defaultMode, "",
        false⟩
    let request : HttpRequest := ⟨"GET", "/api/automations", [], none⟩
    let answer := w.outcome (Http.answer (settings none) w.clock request)
    Report.ofListing? (w.outcome (Backends.list ⟨platform, .int 10⟩ home)) = some busy ∧
      Report.ofListing? (v.outcome (Backends.list ⟨platform, .int 3⟩ ⟨none, .cloud⟩)) = some busy ∧
      Report.ofChange? (w.outcome (deletion.perform ⟨platform, .int 10⟩ home)) = some busy ∧
      Report.ofChange? (v.outcome (deletion.perform ⟨platform, .int 3⟩ ⟨none, .cloud⟩)) =
        some busy ∧
      (∃ e, PlatformError.ofReplies? [.ok ⟨503, "busy"⟩] = some e ∧
        answer = .refusal 502 (friendly e.message)) ∧
      answer = v.outcome (Http.answer (settings (some "http://hub:8123")) v.clock request) := by
  intro platform home w v deletion busy settings request answer
  obtain ⟨hlist, hchange, hserver, hservers⟩ := failure_shown_is_platforms w v
  have hurl : platform.url ≠ "" := by decide
  have hlistSame : platformReplies (w.exchanges (Backends.list ⟨platform, .int 10⟩ home)) =
      platformReplies (v.exchanges (Backends.list ⟨platform, .int 3⟩ ⟨none, .cloud⟩)) := by
    rw [Backends.platformReplies_list, Backends.platformReplies_list, if_neg hurl, if_neg hurl]
    rfl
  have hsend : deletion.IsSendable := nofun
  have hdeletionSame : platformReplies (w.exchanges (deletion.perform ⟨platform, .int 10⟩ home)) =
      platformReplies (v.exchanges (deletion.perform ⟨platform, .int 3⟩ ⟨none, .cloud⟩)) := by
    rw [Backends.platformReplies_perform _ _ hsend, Backends.platformReplies_perform _ _ hsend,
      if_neg hurl, if_neg hurl]
    rfl
  have hlistHome : Report.ofListing? (w.outcome (Backends.list ⟨platform, .int 10⟩ home)) =
      some busy := by decide +kernel
  have hdeletionHome : Report.ofChange? (w.outcome (deletion.perform ⟨platform, .int 10⟩ home)) =
      some busy := by decide +kernel
  have hfind : Endpoint.find request.method request.path = .found .list := by decide
  have hanswer (hubUrl : Option String) (clock : Int) :
      Http.answer (settings hubUrl) clock request = Http.list (settings hubUrl) request := by
    rw [Http.answer, hfind]
    rfl
  have hreplies (hubUrl : Option String) (hub : Reply) (clock : Int) (n : Nat) :
      let x : Circumstances := ⟨Nat, clock, busyPlatform hub, n⟩
      platformReplies (x.exchanges (Http.answer (settings hubUrl) x.clock request)) =
        [.ok ⟨503, "busy"⟩] := by
    intro x
    rw [hanswer, Http.list, x.exchanges_map, Backends.platformReplies_list]
    exact if_neg hurl
  have hstatus : answer.status = 502 := by
    simp only [answer, hanswer]
    decide +kernel
  have hstatus' : (v.outcome (Http.answer (settings (some "http://hub:8123")) v.clock
      request)).status = 502 := by
    rw [hanswer]
    decide +kernel
  refine ⟨hlistHome, ?_, hdeletionHome, ?_, ?_, ?_⟩
  · have hreport := hlist platform (.int 10) (.int 3) home ⟨none, .cloud⟩ hlistSame
    exact congrArg some (hreport.report_eq busy _ hlistHome rfl).symm
  · have hreport := hchange deletion platform (.int 10) (.int 3) home ⟨none, .cloud⟩ hdeletionSame
    exact congrArg some (hreport.report_eq busy _ hdeletionHome rfl).symm
  · obtain ⟨e, he, hdetail⟩ := hserver (settings none) request hstatus
    rw [hreplies] at he
    exact ⟨e, he, hdetail⟩
  · exact hservers (settings none) (settings (some "http://hub:8123")) request
      ((hreplies none _ 0 0).trans (hreplies (some "http://hub:8123") _ 60000 7).symm)
      hstatus hstatus'

end HomeAutomation
