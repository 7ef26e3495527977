import HomeAutomation.Proofs.Backend.Key

/-!
# Which address of the hub is used

An address can be used if it is given and more than blanks. The candidates of a mode are the
addresses of the connection in order of preference, and the wanted one is the first of them that can
be used (`HubConnection.wantedUrl?`). The address of a mode is that one, except that abroad a cloud
address of nothing but blanks hides the home address (`HubConnection.HidesHome`): it is not empty,
so it is taken, and then nothing is left of it. There is no address at all then, although there is
one at home (`url?_cloud_of_hidesHome`).
-/

namespace HomeAutomation

open Text

def IsUsable (url : Option String) : Prop :=
  ∃ s, url = some s ∧ strip s ≠ ""

/-- An address that can be used, without blanks around it and slashes at its end. -/
def usable? (url : Option String) : Option String :=
  url.bind fun s => if strip s = "" then none else some (stripEndSlashes (strip s))

theorem usable?_of_ne {s : String} (h : strip s ≠ "") :
    usable? (some s) = some (stripEndSlashes (strip s)) := by
  rw [usable?, Option.bind_some, if_neg h]

theorem usable?_of_eq {s : String} (h : strip s = "") : usable? (some s) = none := by
  rw [usable?, Option.bind_some, if_pos h]

theorem usable?_eq_none_iff {url : Option String} : usable? url = none ↔ ¬ IsUsable url := by
  cases url with
  | none => simp [usable?, IsUsable]
  | some s =>
      by_cases h : strip s = ""
      · simp [usable?_of_eq h, IsUsable, h]
      · simp [usable?_of_ne h, IsUsable, h]

theorem usable?_of_nonEmpty?_eq_none {url : Option String} (h : nonEmpty? url = none) :
    usable? url = none := by
  cases url with
  | none => rfl
  | some s =>
      obtain rfl : s = "" := by simpa [nonEmpty?] using h
      exact usable?_of_eq (by decide)

namespace HubConnection

/-- The addresses that come into question for a mode, the preferred one first. -/
def candidates (connection : HubConnection) : HubMode → List (Option String)
  | .home => [connection.homeUrl]
  | .cloud => [connection.cloudUrl, connection.homeUrl]

def wantedUrl? (connection : HubConnection) (mode : HubMode) : Option String :=
  (connection.candidates mode).findSome? usable?

/-- The cloud address is taken though nothing but blanks is in it, and the home address could be
used. -/
def HidesHome (connection : HubConnection) : Prop :=
  (∃ blank, connection.cloudUrl = some blank ∧ blank ≠ "" ∧ strip blank = "") ∧
    IsUsable connection.homeUrl

variable {connection : HubConnection}

theorem wantedUrl?_eq_none_iff {mode : HubMode} :
    connection.wantedUrl? mode = none ↔
      ¬ ∃ url ∈ connection.candidates mode, IsUsable url := by
  simp only [wantedUrl?, List.findSome?_eq_none_iff, usable?_eq_none_iff, not_exists, not_and]

theorem wantedUrl?_home (connection : HubConnection) :
    connection.wantedUrl? .home = usable? connection.homeUrl := by
  rw [wantedUrl?, candidates, List.findSome?_cons, List.findSome?_nil]
  cases usable? connection.homeUrl <;> rfl

theorem wantedUrl?_cloud_of_some {s : String} (h : usable? connection.cloudUrl = some s) :
    connection.wantedUrl? .cloud = some s := by
  rw [wantedUrl?, candidates, List.findSome?_cons, h]

theorem wantedUrl?_cloud_of_none (h : usable? connection.cloudUrl = none) :
    connection.wantedUrl? .cloud = connection.wantedUrl? .home := by
  rw [wantedUrl?, candidates, List.findSome?_cons, h]
  rfl

theorem url?_eq_usable? (connection : HubConnection) (mode : HubMode) :
    connection.url? mode = usable? (some (connection.givenUrl mode)) := by
  simp [url?, usable?, String.isEmpty_iff]

theorem usable?_getD (url : Option String) : usable? (some (url.getD "")) = usable? url := by
  cases url with
  | none => exact usable?_of_eq (by decide)
  | some s => rfl

theorem url?_home (connection : HubConnection) :
    connection.url? .home = connection.wantedUrl? .home := by
  rw [url?_eq_usable?, givenUrl, usable?_getD, wantedUrl?_home]

theorem url?_cloud_of_none (h : nonEmpty? connection.cloudUrl = none) :
    connection.url? .cloud = connection.wantedUrl? .cloud := by
  rw [wantedUrl?_cloud_of_none (usable?_of_nonEmpty?_eq_none h), ← url?_home, url?, url?, givenUrl,
    givenUrl, h, Option.none_or]

theorem url?_cloud_of_some {s : String} (h : nonEmpty? connection.cloudUrl = some s) :
    connection.url? .cloud = usable? (some s) := by
  rw [url?_eq_usable?, givenUrl, h, Option.some_or, Option.getD_some]

/-- A hidden home address is wanted abroad, and not found. -/
theorem url?_cloud_of_hidesHome (h : connection.HidesHome) :
    connection.url? .cloud = none ∧ connection.wantedUrl? .cloud ≠ none := by
  obtain ⟨⟨blank, hcloud, hne, hblank⟩, hhome⟩ := h
  have hgiven : nonEmpty? connection.cloudUrl = some blank := by rw [hcloud, nonEmpty?_some hne]
  have hcloudUsable : usable? connection.cloudUrl = none := by rw [hcloud, usable?_of_eq hblank]
  constructor
  · rw [url?_cloud_of_some hgiven, usable?_of_eq hblank]
  · rw [wantedUrl?_cloud_of_none hcloudUsable, wantedUrl?_home, ne_eq, usable?_eq_none_iff,
      Classical.not_not]
    exact hhome

/-- Unless the home address is hidden, the wanted address is found abroad. -/
theorem url?_cloud_of_not_hidesHome (h : ¬ connection.HidesHome) :
    connection.url? .cloud = connection.wantedUrl? .cloud := by
  cases hgiven : nonEmpty? connection.cloudUrl with
  | none => exact url?_cloud_of_none hgiven
  | some s =>
      obtain ⟨hcloud, hne⟩ := nonEmpty?_eq_some hgiven
      rw [url?_cloud_of_some hgiven]
      by_cases hblank : strip s = ""
      · have hcloudUsable : usable? connection.cloudUrl = none := by
          rw [hcloud, usable?_of_eq hblank]
        have hhome : ¬ IsUsable connection.homeUrl :=
          fun husable => h ⟨⟨s, hcloud, hne, hblank⟩, husable⟩
        rw [usable?_of_eq hblank, wantedUrl?_cloud_of_none hcloudUsable, wantedUrl?_home,
          usable?_eq_none_iff.mpr hhome]
      · rw [usable?_of_ne hblank, wantedUrl?_cloud_of_some]
        rw [hcloud, usable?_of_ne hblank]

theorem url?_eq_wantedUrl?_iff {mode : HubMode} :
    connection.url? mode = connection.wantedUrl? mode ↔
      ¬ (mode = .cloud ∧ connection.HidesHome) := by
  cases mode with
  | home => simp [url?_home]
  | cloud =>
      by_cases h : connection.HidesHome
      · obtain ⟨hnone, hwanted⟩ := url?_cloud_of_hidesHome h
        simp [hnone, h, hwanted.symm]
      · simp [url?_cloud_of_not_hidesHome h, h]

theorem url?_eq_none_iff {mode : HubMode} :
    connection.url? mode = none ↔
      (¬ ∃ url ∈ connection.candidates mode, IsUsable url) ∨
        mode = .cloud ∧ connection.HidesHome := by
  rw [← wantedUrl?_eq_none_iff]
  by_cases h : mode = .cloud ∧ connection.HidesHome
  · obtain ⟨rfl, hhides⟩ := h
    simp [url?_cloud_of_hidesHome hhides, hhides]
  · rw [url?_eq_wantedUrl?_iff.mpr h]
    simp [h]

theorem url?_home_ne_none_and_url?_cloud_eq_none_iff :
    connection.url? .home ≠ none ∧ connection.url? .cloud = none ↔ connection.HidesHome := by
  rw [url?_home, wantedUrl?_home, ne_eq, usable?_eq_none_iff, Classical.not_not]
  constructor
  · rintro ⟨hhome, hcloud⟩
    rcases url?_eq_none_iff.mp hcloud with hnot | ⟨-, hhides⟩
    · exact absurd ⟨connection.homeUrl, by simp [candidates], hhome⟩ hnot
    · exact hhides
  · intro hhides
    exact ⟨hhides.2, (url?_cloud_of_hidesHome hhides).1⟩

end HubConnection

theorem hubUrl?_some (connection : HubConnection) (mode : HubMode) :
    hubUrl? (some connection) mode = connection.url? mode := by
  rw [hubUrl?, Option.bind_some]

/-- In every mode the wanted address is found, unless a blank cloud address hides the home address;
then none is found abroad. Without a candidate that can be used, none is found either. There is an
address at home and none abroad exactly when the home address is hidden. -/
theorem hubUrl?_eq_wantedUrl?_iff (connection : HubConnection) (mode : Option String) :
    (hubUrl? (some connection) (.ofText mode) = connection.wantedUrl? (.ofText mode) ↔
        ¬ (HubMode.ofText mode = .cloud ∧ connection.HidesHome)) ∧
      (hubUrl? (some connection) (.ofText mode) = none ↔
        (¬ ∃ url ∈ connection.candidates (.ofText mode), IsUsable url) ∨
          HubMode.ofText mode = .cloud ∧ connection.HidesHome) ∧
      (hubUrl? (some connection) .home ≠ none ∧ hubUrl? (some connection) .cloud = none ↔
        connection.HidesHome) := by
  simp only [hubUrl?_some]
  exact ⟨HubConnection.url?_eq_wantedUrl?_iff, HubConnection.url?_eq_none_iff,
    HubConnection.url?_home_ne_none_and_url?_cloud_eq_none_iff⟩

/-- With a cloud address of one blank there is a hub at home and none abroad, though its address at
home would do. -/
theorem hubUrl?_ne_wantedUrl?_blankCloud :
    let connection : HubConnection := ⟨some "http://hub:8123", some " ", "token"⟩
    hubUrl? (some connection) (.ofText (some "cloud")) = none ∧
      connection.wantedUrl? (.ofText (some "cloud")) = some "http://hub:8123" ∧
      Hub.ofConnection? (some connection) .cloud (.int 10) = none ∧
      Hub.ofConnection? (some connection) .home (.int 10) =
        some ⟨"http://hub:8123", "token", .int 10⟩ := by
  decide

end HomeAutomation
