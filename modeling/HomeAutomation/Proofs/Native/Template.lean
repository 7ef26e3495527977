import HomeAutomation.Draft.Compile
import Mathlib.Logic.Function.Basic

/-!
# Templates of delta tests

A template puts the place of the value between fixed texts, twice, and ends with the threshold
(`DeltaTest.written`). The name of an attribute may look like any of the fixed texts, and the two
thresholds differ in length, so it is not seen at once where the name ends. But the name is written
twice and the lengths of the thresholds differ by an odd number, so templates of one length have
names of one length (`DeltaTest.written_inj`), and a template determines its test
(`DeltaTest.template_injective`).

A delta trigger becomes a trigger of the hub and a template. The two name the same attribute, and
together they determine the trigger up to the name of the state (`Trigger.delta_determined`).
-/

namespace HomeAutomation

open Text

namespace DeltaTest

def opening : Direction → String
  | .increase => "\x7b\x7b ((trigger.to_state."
  | .decrease => "\x7b\x7b ((trigger.from_state."

def between : Direction → String
  | .increase => " | float(0)) - (trigger.from_state."
  | .decrease => " | float(0)) - (trigger.to_state."

def closing : String := " | float(0))) >= "

/-- The template that asks whether what is found at a place has moved by a threshold. -/
def written (direction : Direction) (place threshold : String) : String :=
  opening direction ++ (place ++ (between direction ++ (place ++ (closing ++
    (threshold ++ " \x7d\x7d")))))

def IsThreshold (threshold : String) : Prop :=
  threshold = "1" ∨ threshold = "0.01"

theorem isThreshold_thresholdText (attr : String) : IsThreshold (thresholdText attr) := by
  unfold thresholdText
  split
  · exact .inl rfl
  · exact .inr rfl

theorem template_eq_written (test : DeltaTest) :
    test.template = written test.direction (path test.attr) (thresholdText test.attr) := by
  have hclosing : closing = " | float(0))" ++ (")" ++ " >= ") := rfl
  obtain ⟨direction, attr⟩ := test
  cases direction with
  | increase =>
      have hopening : opening .increase = "\x7b\x7b " ++ ("(" ++ "(trigger.to_state.") := rfl
      have hbetween : between .increase = " | float(0))" ++ (" - " ++ "(trigger.from_state.") := rfl
      unfold template difference before after written
      rw [hopening, hbetween, hclosing]
      simp only [String.append_assoc]
  | decrease =>
      have hopening : opening .decrease = "\x7b\x7b " ++ ("(" ++ "(trigger.from_state.") := rfl
      have hbetween : between .decrease = " | float(0))" ++ (" - " ++ "(trigger.to_state.") := rfl
      unfold template difference before after written
      rw [hopening, hbetween, hclosing]
      simp only [String.append_assoc]

theorem opening_append_inj {direction opposite : Direction} {rest more : String}
    (h : opening direction ++ rest = opening opposite ++ more) :
    direction = opposite ∧ rest = more := by
  have hlist := congrArg String.toList h
  cases direction with
  | increase =>
      cases opposite with
      | increase => exact ⟨rfl, (String.append_right_inj _).mp h⟩
      | decrease => simp [opening, String.toList_append] at hlist
  | decrease =>
      cases opposite with
      | increase => simp [opening, String.toList_append] at hlist
      | decrease => exact ⟨rfl, (String.append_right_inj _).mp h⟩

/-- A template determines the direction and the place of the value, whatever text the place is. -/
theorem written_inj {direction opposite : Direction} {place other threshold more : String}
    (hthreshold : IsThreshold threshold) (hmore : IsThreshold more)
    (h : written direction place threshold = written opposite other more) :
    direction = opposite ∧ place = other := by
  obtain ⟨rfl, hrest⟩ := opening_append_inj h
  refine ⟨rfl, ?_⟩
  -- The place is there twice, and the thresholds are one and four characters long.
  have hlength : place.length = other.length := by
    have htotal := congrArg String.length hrest
    have hone : ("1" : String).length = 1 := rfl
    have hhundredth : ("0.01" : String).length = 4 := rfl
    simp only [String.length_append] at htotal
    rcases hthreshold with rfl | rfl
    · rcases hmore with rfl | rfl
      · omega
      · omega
    · rcases hmore with rfl | rfl
      · omega
      · omega
  have hlist := congrArg String.toList hrest
  simp only [String.toList_append] at hlist
  exact String.toList_injective (List.append_inj_left hlist hlength)

theorem path_injective {attr other : String} (h : path attr = path other) : attr = other := by
  have hlist := congrArg String.toList h
  by_cases hstate : attr = stateName
  · by_cases hother : other = stateName
    · rw [hstate, hother]
    · simp [path, hstate, hother, String.toList_append] at hlist
  · by_cases hother : other = stateName
    · simp [path, hstate, hother, String.toList_append] at hlist
    · simpa [path, hstate, hother] using h

theorem template_injective : Function.Injective template := by
  intro test other h
  rw [template_eq_written, template_eq_written] at h
  obtain ⟨hdirection, hpath⟩ :=
    written_inj (isThreshold_thresholdText _) (isThreshold_thresholdText _) h
  exact congrArg₂ DeltaTest.mk hdirection (path_injective hpath)

/-- The template compares the attribute of this name before and after a change. -/
def ReadsAttribute (template name : String) : Prop :=
  ∃ direction threshold, IsThreshold threshold ∧
    template = written direction ("attributes[\"" ++ name ++ "\"]") threshold

theorem readsAttribute_template_iff {test : DeltaTest} {name : String} :
    ReadsAttribute test.template name ↔ test.attr ≠ stateName ∧ test.attr = name := by
  rw [template_eq_written]
  constructor
  · rintro ⟨direction, threshold, hthreshold, h⟩
    obtain ⟨-, hpath⟩ := written_inj (isThreshold_thresholdText _) hthreshold h
    by_cases hstate : test.attr = stateName
    · have hlist := congrArg String.toList hpath
      simp [path, hstate, String.toList_append] at hlist
    · refine ⟨hstate, ?_⟩
      simpa [path, hstate] using hpath
  · rintro ⟨hstate, rfl⟩
    exact ⟨_, _, isThreshold_thresholdText _, by rw [path, if_neg hstate]⟩

/-- The last word in front of the closing braces of a template. -/
def lastWord (template : String) : List Char :=
  ((template.toList.reverse.drop 3).takeWhile (· ≠ ' ')).reverse

theorem lastWord_eq {template : String} {front word : List Char}
    (h : template.toList = front ++ ' ' :: (word ++ [' ', '\x7d', '\x7d']))
    (hword : ' ' ∉ word) : lastWord template = word := by
  have hreverse : template.toList.reverse.drop 3 = word.reverse ++ ' ' :: front.reverse := by
    simp [h]
  have hall : ∀ c ∈ word.reverse, decide (c ≠ ' ') = true := by
    intro c hmem
    exact decide_eq_true (ne_of_mem_of_not_mem (List.mem_reverse.mp hmem) hword)
  rw [lastWord, hreverse, List.takeWhile_append_of_pos hall]
  simp

theorem lastWord_template (test : DeltaTest) :
    lastWord test.template = (thresholdText test.attr).toList := by
  have hclosing : closing.toList = " | float(0))) >=".toList ++ [' '] := rfl
  have hend : " \x7d\x7d".toList = [' ', '\x7d', '\x7d'] := rfl
  have hlist : test.template.toList =
      (opening test.direction ++ (path test.attr ++ (between test.direction ++
        (path test.attr ++ " | float(0))) >=")))).toList ++
        ' ' :: ((thresholdText test.attr).toList ++ [' ', '\x7d', '\x7d']) := by
    rw [template_eq_written, written]
    simp only [String.toList_append, hclosing, hend, List.append_assoc, List.singleton_append]
  have hword : ' ' ∉ (thresholdText test.attr).toList := by
    rcases isThreshold_thresholdText test.attr with h | h
    · rw [h]
      decide
    · rw [h]
      decide
  exact lastWord_eq hlist hword

end DeltaTest

namespace Trigger

def condition? (trigger : Trigger) : Option Json :=
  trigger.test?.map fun test => (Condition.template test).toJson

def template? (trigger : Trigger) : Option String := do
  let fields ← (← trigger.condition?).fields?
  (← fields.get? "value_template").text?

/-- The value under a name of the trigger in the hub's schema. -/
def nativeField? (trigger : Trigger) (name : String) : Option Json := do
  (← trigger.compile.toJson.fields?).get? name

section Delta

variable (entity other attr more : String) (direction opposite : Direction)

theorem namedAttribute?_eq :
    namedAttribute? attr =
      if watched attr = DeltaTest.stateName then none else some (watched attr) := by
  by_cases hempty : attr = ""
  · simp [namedAttribute?, watched, hempty]
  · simp [namedAttribute?, watched, hempty]

theorem namedAttribute?_eq_iff :
    namedAttribute? attr = namedAttribute? more ↔ watched attr = watched more := by
  rw [namedAttribute?_eq, namedAttribute?_eq]
  split
  · rename_i hattr
    split
    · rename_i hmore
      simp [hattr, hmore]
    · rename_i hmore
      simp [hattr, Ne.symm hmore]
  · rename_i hattr
    split
    · rename_i hmore
      simp [hattr, hmore]
    · simp

theorem nativeField?_entity_delta :
    (delta entity attr direction).nativeField? "entity_id" = some (.str entity) := rfl

theorem nativeField?_attribute_delta :
    (delta entity attr direction).nativeField? "attribute" =
      (namedAttribute? attr).map Json.str := by
  have hcompile : (delta entity attr direction).compile =
      .state entity (namedAttribute? attr) none none := rfl
  rw [nativeField?, hcompile]
  cases namedAttribute? attr with
  | none => rfl
  | some name => rfl

theorem template?_delta :
    (delta entity attr direction).template? =
      some (DeltaTest.template ⟨direction, watched attr⟩) := rfl

/-- What a delta trigger becomes at the hub names its entity and the value that it watches. -/
theorem compile_delta_eq_iff :
    (delta entity attr direction).compile.toJson = (delta other more opposite).compile.toJson ↔
      entity = other ∧ watched attr = watched more := by
  rw [← namedAttribute?_eq_iff]
  constructor
  · intro h
    have hfield (name : String) : (delta entity attr direction).nativeField? name =
        (delta other more opposite).nativeField? name := by
      rw [nativeField?, h, nativeField?]
    have hentity := hfield "entity_id"
    have hattr := hfield "attribute"
    rw [nativeField?_entity_delta, nativeField?_entity_delta] at hentity
    rw [nativeField?_attribute_delta, nativeField?_attribute_delta] at hattr
    refine ⟨Json.str.inj (Option.some.inj hentity), ?_⟩
    exact Option.map_injective (fun _ _ => Json.str.inj) hattr
  · rintro ⟨rfl, hattr⟩
    rw [compile, compile, hattr]

theorem condition?_delta_eq_iff :
    (delta entity attr direction).condition? = (delta other more opposite).condition? ↔
      direction = opposite ∧ watched attr = watched more := by
  constructor
  · intro h
    have htemplate : (delta entity attr direction).template? =
        (delta other more opposite).template? := by
      rw [template?, h, template?]
    rw [template?_delta, template?_delta] at htemplate
    have htest := DeltaTest.template_injective (Option.some.inj htemplate)
    exact DeltaTest.mk.inj htest
  · rintro ⟨rfl, hattr⟩
    rw [condition?, condition?, test?, test?, hattr]

/-- The hub is told to watch an attribute exactly if the template reads one, and then the same. -/
theorem nativeField?_attribute_delta_eq_some_iff {v : Json} :
    (delta entity attr direction).nativeField? "attribute" = some v ↔
      ∃ name, v = .str name ∧
        DeltaTest.ReadsAttribute (DeltaTest.template ⟨direction, watched attr⟩) name := by
  rw [nativeField?_attribute_delta, namedAttribute?_eq]
  simp only [DeltaTest.readsAttribute_template_iff]
  by_cases hstate : watched attr = DeltaTest.stateName
  · simp [hstate]
  · simp [hstate, eq_comm]

/-- A delta trigger becomes a trigger of the hub and a template, and what it watches can be read off
both of them. -/
theorem delta_determined :
    ((delta entity attr direction).condition? = (delta other more opposite).condition? ↔
      direction = opposite ∧ watched attr = watched more) ∧
    ((delta entity attr direction).compile.toJson = (delta other more opposite).compile.toJson ↔
      entity = other ∧ watched attr = watched more) ∧
    ((delta entity attr direction).compile.toJson = (delta other more opposite).compile.toJson ∧
        (delta entity attr direction).condition? = (delta other more opposite).condition? ↔
      entity = other ∧ watched attr = watched more ∧ direction = opposite) ∧
    ∃ template, (delta entity attr direction).template? = some template ∧
      (∀ v, (delta entity attr direction).nativeField? "attribute" = some v ↔
        ∃ name, v = .str name ∧ DeltaTest.ReadsAttribute template name) ∧
      DeltaTest.lastWord template = (DeltaTest.thresholdText (watched attr)).toList := by
  have hcondition := condition?_delta_eq_iff entity other attr more direction opposite
  have hnative := compile_delta_eq_iff entity other attr more direction opposite
  refine ⟨hcondition, hnative, ?_, _, template?_delta entity attr direction, ?_, ?_⟩
  · rw [hnative, hcondition]
    constructor
    · rintro ⟨⟨hentity, hattr⟩, hdirection, -⟩
      exact ⟨hentity, hattr, hdirection⟩
    · rintro ⟨hentity, hattr, hdirection⟩
      exact ⟨⟨hentity, hattr⟩, hdirection, hattr⟩
  · intro v
    exact nativeField?_attribute_delta_eq_some_iff entity attr direction
  · exact DeltaTest.lastWord_template ⟨direction, watched attr⟩

end Delta

end Trigger

end HomeAutomation
