import HomeAutomation.Proofs.Http.Classification
import HomeAutomation.Proofs.Hub.Addressing
import HomeAutomation.Proofs.Text.Word

/-!
# The two names under which a state is asked for

Under `state` stands a word for on or off, and under `enabled` a value that says something or
nothing. A word is looked at without blanks and in lower case, whereas a text under `enabled` says
something unless it is empty, even if it spells off. Apart from such texts, a value that is a word
for on or off asks for the same under both names (`Http.wanted_enabled_of_state`), and the two
requests have the same answer (`Http.switches_under_both_names`).
-/

namespace HomeAutomation

open Text

/-- The value is a text that spells off. -/
def Json.IsOffText (v : Json) : Prop :=
  ∃ s, v = .str s ∧ lower (strip s) ∈ Http.offWords

def HttpRequest.withBody (r : HttpRequest) (body : String) : HttpRequest :=
  { r with body := some body }

namespace Http

section Word

variable {v : Json} {enabled : Bool}

theorem not_mem_offWords {w : String} (h : w ∈ onWords) : w ∉ offWords := by
  revert w
  decide

theorem wanted_state (h : v ≠ .null) : wanted [("state", v)] =
    if onWords.contains (lower (strip v.display)) then .ok true
    else if offWords.contains (lower (strip v.display)) then .ok false
    else .error .unknownWord := by
  cases v with
  | null => exact absurd rfl h
  | _ => rfl

theorem wanted_state_eq_ok_iff : wanted [("state", v)] = .ok enabled ↔ v ≠ .null ∧
    (lower (strip v.display) ∈ onWords ∧ enabled = true ∨
      lower (strip v.display) ∈ offWords ∧ enabled = false) := by
  by_cases hnull : v = .null
  · subst hnull
    exact iff_of_false nofun fun h => h.1 rfl
  rw [wanted_state hnull, and_iff_right hnull]
  simp only [List.contains_iff_mem]
  by_cases hon : lower (strip v.display) ∈ onWords
  · simp [hon, not_mem_offWords hon, eq_comm]
  · by_cases hoff : lower (strip v.display) ∈ offWords <;> simp [hon, hoff, eq_comm]

theorem wanted_enabled (h : v ≠ .null) : wanted [("enabled", v)] = .ok (!v.isVoid) := by
  cases v with
  | null => exact absurd rfl h
  | _ => rfl

/-- A word for on or off. -/
def words : List String := onWords ++ offWords

theorem not_word_of_mem {s : String} {c : Char} (hmem : c ∈ s.toList) (hkept : isKept c = true)
    (hc : c.isAlphanum = false) : lower (strip s) ∉ words := by
  have hwords : (words.all fun w => w.toList.all Char.isAlphanum) = true := by decide
  intro hw
  have hletters := List.all_eq_true.mp (List.all_eq_true.mp hwords _ hw)
  have hletter := hletters c (mem_lower_strip hmem hkept)
  rw [hc] at hletter
  cases hletter

theorem not_word_double (x : Float) : lower (strip (Json.double x).display) ∉ words := by
  change lower (strip (DoubleLayout.plain.write x)) ∉ words
  rcases exists_mem_write x with ⟨c, hc, hmem⟩ | htext
  · simp only [List.mem_cons, List.not_mem_nil, or_false] at hc
    rcases hc with rfl | rfl | rfl <;> exact not_word_of_mem hmem (by decide) (by decide)
  · simp only [List.mem_cons, List.not_mem_nil, or_false] at htext
    rcases htext with htext | htext <;> rw [htext] <;> decide

theorem not_word_arr (items : List Json) : lower (strip (Json.arr items).display) ∉ words := by
  refine not_word_of_mem (c := '[') ?_ (by decide) (by decide)
  simp [Json.display, Json.inspect]

theorem not_word_obj (fields : Json.Fields) : lower (strip (Json.obj fields).display) ∉ words := by
  refine not_word_of_mem (c := '{') ?_ (by decide) (by decide)
  simp [Json.display, Json.inspect]

theorem word_int {n : Int} (h : lower (strip (Json.int n).display) ∈ words) : n = 1 ∨ n = 0 := by
  have hdigits : ∀ w ∈ words, w.toList.all Char.isDigit = true → w = "1" ∨ w = "0" := by decide
  change lower (strip (toString n)) ∈ words at h
  have hminus : '-' ∉ (toString n).toList :=
    fun hmem => not_word_of_mem hmem (by decide) (by decide) h
  obtain ⟨hdigit, hvalue⟩ := toString_of_not_mem hminus
  rw [lower_strip_toString] at h
  rcases hdigits _ h (List.all_eq_true.mpr hdigit) with hone | hzero
  · rw [hone] at hvalue
    exact .inl hvalue
  · rw [hzero] at hvalue
    exact .inr hvalue

/-- A value that is no text is void exactly if its word switches off. -/
theorem isVoid_eq_of_word (hstate : wanted [("state", v)] = .ok enabled) (htext : ∀ s, v ≠ .str s) :
    v.isVoid = !enabled := by
  obtain ⟨hnull, hword⟩ := wanted_state_eq_ok_iff.mp hstate
  have hmem : lower (strip v.display) ∈ words :=
    List.mem_append.mpr (hword.imp And.left And.left)
  cases v with
  | null => exact absurd rfl hnull
  | bool b =>
    have hb : wanted [("state", .bool b)] = .ok b := by cases b <;> decide
    obtain rfl := Except.ok.inj (hb.symm.trans hstate)
    rfl
  | int n =>
    rcases word_int hmem with rfl | rfl
    · have hone : wanted [("state", .int 1)] = .ok true := by decide
      obtain rfl := Except.ok.inj (hone.symm.trans hstate)
      rfl
    · have hzero : wanted [("state", .int 0)] = .ok false := by decide
      obtain rfl := Except.ok.inj (hzero.symm.trans hstate)
      rfl
  | double x => exact absurd hmem (not_word_double x)
  | str s => exact absurd rfl (htext s)
  | arr items => exact absurd hmem (not_word_arr items)
  | obj fields => exact absurd hmem (not_word_obj fields)

/-- A text that is a word says something, and it spells off exactly if the word does. -/
theorem str_of_word {s : String} (hstate : wanted [("state", .str s)] = .ok enabled) :
    (Json.str s).isVoid = false ∧ ((Json.str s).IsOffText ↔ enabled = false) := by
  constructor
  · rw [Json.isVoid, ← Bool.not_eq_true, String.isEmpty_iff]
    rintro rfl
    have hempty : wanted [("state", .str "")] = .error .unknownWord := by decide
    rw [hempty] at hstate
    cases hstate
  · obtain ⟨-, hword⟩ := wanted_state_eq_ok_iff.mp hstate
    constructor
    · rintro ⟨s', hs', hoff⟩
      obtain rfl := Json.str.inj hs'
      exact (hword.resolve_left fun hon => not_mem_offWords hon.1 hoff).2
    · rintro rfl
      exact ⟨s, rfl, (hword.resolve_left fun hon => Bool.noConfusion hon.2).1⟩

/-- What is asked for under `state` is asked for by the same value under `enabled`, unless it is a
text that spells off: that switches on. -/
theorem wanted_enabled_of_state (hstate : wanted [("state", v)] = .ok enabled) :
    (¬ v.IsOffText → wanted [("enabled", v)] = .ok enabled) ∧
      (v.IsOffText → enabled = false ∧ wanted [("enabled", v)] = .ok true) := by
  have hvalue := wanted_enabled (wanted_state_eq_ok_iff.mp hstate).1
  cases v with
  | str s =>
    obtain ⟨hvoid, hoff⟩ := str_of_word hstate
    rw [hvalue, hvoid, hoff]
    refine ⟨fun hon => ?_, fun hoff => ⟨hoff, rfl⟩⟩
    rw [Bool.not_eq_false] at hon
    rw [hon]
    rfl
  | _ =>
    rw [hvalue, isVoid_eq_of_word hstate nofun, Bool.not_not]
    refine ⟨fun _ => rfl, ?_⟩
    rintro ⟨s, hs, -⟩
    cases hs

end Word

/-- The request switches the automation: whatever they answer, the platform is asked to, and the
hub if it is asked for anything. -/
structure Switches (settings : Settings) (r : HttpRequest) (id : String) (enabled : Bool) :
    Prop where
  answer_eq : ∀ clock, answer settings clock r =
    ((backends settings).setEnabled (access settings r) id enabled).map
      (outcome [("id", .str id), ("enabled", .bool enabled)])
  platform_eq : ∀ w : Circumstances, platformRequests (w.requests (answer settings w.clock r)) =
    if (backends settings).platform.url = "" then []
    else [(backends settings).platform.requestOf
      ⟨"POST", Platform.automationPath id ++ (if enabled then "/enable" else "/disable"), .null⟩]
  hub_eq : ∀ w : Circumstances, hubRequests (w.requests (answer settings w.clock r)) ≠ [] →
    ∃ hub, (backends settings).hub? (access settings r) = some hub ∧
      hubRequests (w.requests (answer settings w.clock r)) =
        [hub.requestOf (Hub.switchOrder (automationEntity id) enabled)]

section Answer

variable {settings : Settings} {r : HttpRequest} {id : String} {enabled : Bool}

theorem switches_of_wanted? (hwanted : r.wanted? = some enabled)
    (hfind : Endpoint.find r.method r.path = .found (.setState id))
    (hauthorized : isAuthorized settings r = true) : Switches settings r id enabled := by
  have hsend : (Change.setEnabled id enabled).IsSendable := nofun
  have hanswer : ∀ clock, answer settings clock r =
      ((Change.setEnabled id enabled).perform (backends settings) (access settings r)).map
        (outcome [("id", .str id), ("enabled", .bool enabled)]) := by
    intro clock
    have hasks : Asks r clock (.setState id) _ := .setState hwanted
    rw [hasks.answer_eq hfind hauthorized]
    rfl
  refine ⟨hanswer, fun w => ?_, fun w hne => ?_⟩
  · rw [hanswer, w.requests_map, Change.platformRequests_perform hsend]
    rfl
  · rw [hanswer, w.requests_map] at hne ⊢
    obtain ⟨-, hub, hhub⟩ :=
      (Change.hubRequests_perform_ne_nil_iff hsend (backends settings) (access settings r) w).mp hne
    rw [Change.hubRequests_perform hsend _ _ w hne, hhub]
    exact ⟨hub, rfl, rfl⟩

/-- A request that does not say whether to switch on or off is a bad request. -/
theorem exists_wanted_of_status_ne {fields : Json.Fields}
    (hfind : Endpoint.find r.method r.path = .found (.setState id))
    (hauthorized : isAuthorized settings r = true) (hcontent : r.content = .value (.obj fields))
    {w : Circumstances} (hstatus : (w.outcome (answer settings w.clock r)).status ≠ 400) :
    ∃ enabled, wanted fields = .ok enabled := by
  cases hwanted : wanted fields with
  | ok enabled => exact ⟨enabled, rfl⟩
  | error fault =>
    refine absurd ?_ hstatus
    rw [answer_eq_serve_contentFor hfind hauthorized hcontent (.inr ⟨_, rfl⟩), serve, withFields,
      setState, hwanted]
    rfl

/-- A value that is accepted under `state` switches the automation on or off, and so it does under
`enabled`. Both requests ask for the same, in the same dialogue, exactly if the value is no text
that spells off; such a text switches off under `state` and on under `enabled`. -/
theorem switches_under_both_names {v : Json} {body body' : String} {w : Circumstances}
    (hfind : Endpoint.find r.method r.path = .found (.setState id))
    (hauthorized : isAuthorized settings r = true)
    (hstate : (r.withBody body).content = .value (.obj [("state", v)]))
    (henabled : (r.withBody body').content = .value (.obj [("enabled", v)]))
    (haccepted : (w.outcome (answer settings w.clock (r.withBody body))).status ≠ 400) :
    ∃ first second, Switches settings (r.withBody body) id first ∧
      Switches settings (r.withBody body') id second ∧
      (first = second ↔ ¬ v.IsOffText) ∧
      (v.IsOffText → first = false ∧ second = true) ∧
      (¬ v.IsOffText → ∀ clock,
        answer settings clock (r.withBody body) = answer settings clock (r.withBody body')) := by
  -- Where a request goes and what it shows does not depend on its body.
  have hfind : ∀ text, Endpoint.find (r.withBody text).method (r.withBody text).path =
      .found (.setState id) := fun _ => hfind
  have hauthorized : ∀ text, isAuthorized settings (r.withBody text) = true := fun _ => hauthorized
  obtain ⟨first, hfirst⟩ :=
    exists_wanted_of_status_ne (hfind body) (hauthorized body) hstate haccepted
  obtain ⟨hsame, hother⟩ := wanted_enabled_of_state hfirst
  have switches : ∀ {text fields enabled},
      (r.withBody text).content = .value (.obj fields) → wanted fields = .ok enabled →
        Switches settings (r.withBody text) id enabled :=
    fun hcontent hwanted => switches_of_wanted?
      (HttpRequest.wanted?_eq_some_iff.mpr ⟨_, hcontent, hwanted⟩) (hfind _) (hauthorized _)
  by_cases hoff : v.IsOffText
  · obtain ⟨rfl, hsecond⟩ := hother hoff
    exact ⟨false, true, switches hstate hfirst, switches henabled hsecond, by simp [hoff],
      fun _ => ⟨rfl, rfl⟩, fun hnot => absurd hoff hnot⟩
  · have hsecond := switches henabled (hsame hoff)
    have hfirst := switches hstate hfirst
    refine ⟨first, first, hfirst, hsecond, by simp [hoff], fun h => absurd h hoff, ?_⟩
    intro _ clock
    rw [hfirst.answer_eq, hsecond.answer_eq]
    rfl

end Answer

/-- The one text in a body, with its name. -/
def textUnder? (r : HttpRequest) : Option (String × String) :=
  match r.content with
  | .value (.obj [(name, .str s)]) => some (name, s)
  | _ => none

theorem content_of_textUnder? {r : HttpRequest} {name s : String}
    (h : textUnder? r = some (name, s)) : r.content = .value (.obj [(name, .str s)]) := by
  unfold textUnder? at h
  split at h
  · cases h
    assumption
  · cases h

def platformOnly : Settings :=
  ⟨some "https://platform.example", 10.0, none, none, "", 10.0, Settings.defaultMode, "", false⟩

def lamp : HttpRequest :=
  ⟨"POST", "/api/automations/lamp/state", [], none⟩

def lampState (name s : String) : HttpRequest :=
  lamp.withBody ("\x7b\"" ++ name ++ "\": \"" ++ s ++ "\"\x7d")

def allDone : Circumstances := ⟨Unit, 0, fun _ _ => (.ok ⟨200, ""⟩, ()), ()⟩

theorem switches_under_both_names_on :
    (allDone.outcome (answer platformOnly 0 (lampState "state" " ON "))).status = 200 ∧
      answer platformOnly 0 (lampState "state" " ON ") =
        answer platformOnly 0 (lampState "enabled" " ON ") := by
  have hfind : Endpoint.find lamp.method lamp.path = .found (.setState "lamp") := by decide
  have hauthorized : isAuthorized platformOnly lamp = true := by decide
  have hstate : textUnder? (lampState "state" " ON ") = some ("state", " ON ") := by decide +kernel
  have henabled : textUnder? (lampState "enabled" " ON ") = some ("enabled", " ON ") := by
    decide +kernel
  have hstatus :
      (allDone.outcome (answer platformOnly 0 (lampState "state" " ON "))).status = 200 := by
    decide +kernel
  have haccepted :
      (allDone.outcome (answer platformOnly 0 (lampState "state" " ON "))).status ≠ 400 := by
    rw [hstatus]
    decide
  obtain ⟨first, second, -, -, -, -, hsame⟩ := switches_under_both_names (w := allDone) hfind
    hauthorized (content_of_textUnder? hstate) (content_of_textUnder? henabled) haccepted
  refine ⟨hstatus, hsame ?_ 0⟩
  rintro ⟨s, hs, hoff⟩
  obtain rfl := Json.str.inj hs
  exact absurd hoff (by decide)

/-- Under `state` the word switches the lamp off, and under `enabled` on. -/
theorem switches_on_by_off :
    (allDone.outcome (answer platformOnly 0 (lampState "state" "off"))).status = 200 ∧
      (allDone.requests (answer platformOnly 0 (lampState "state" "off"))).map Request.url =
        ["https://platform.example/api/automations/lamp/disable"] ∧
      (allDone.requests (answer platformOnly 0 (lampState "enabled" "off"))).map Request.url =
        ["https://platform.example/api/automations/lamp/enable"] := by
  refine ⟨?_, ?_, ?_⟩ <;> decide +kernel

end Http

end HomeAutomation
