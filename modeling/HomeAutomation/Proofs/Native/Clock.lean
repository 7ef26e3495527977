import HomeAutomation.Native.Window
import HomeAutomation.Proofs.Text.Numeral

/-!
# Reading a clock time and writing it back

A text is an hour and a minute if its first two parts between colons are numerals
(`readClock?_eq_some_iff`). Written back, the same hour and minute are read again, whatever their
sign and size (`readClock?_writeClock`). A window is therefore the same for every spelling of one
time, and its own start is one of these spellings; its end is a time of the day
(`Window.ofText?_normalizes`).
-/

namespace HomeAutomation

open Text

/-- The hour and the minute are what stands before the first colon and between it and the next. -/
inductive ClockParts : List Char → List Char → List Char → Prop
  | all {hour minute : List Char} (hhour : ':' ∉ hour) (hminute : ':' ∉ minute) :
    ClockParts (hour ++ ':' :: minute) hour minute
  | more {hour minute rest : List Char} (hhour : ':' ∉ hour) (hminute : ':' ∉ minute) :
    ClockParts (hour ++ ':' :: (minute ++ ':' :: rest)) hour minute

/-- The minute of the day in a time of two digits, a colon and two digits. -/
def minuteOfDay? (s : String) : Option Nat :=
  match s.toList with
  | [a, b, ':', c, d] => do
    let hour := 10 * (← asciiDigit? a) + (← asciiDigit? b)
    let minute := 10 * (← asciiDigit? c) + (← asciiDigit? d)
    if hour < 24 ∧ minute < 60 then some (60 * hour + minute) else none
  | _ => none

section Parts

variable {s first rest hour minute : List Char}

theorem splitOn_first (h : ':' ∉ first) :
    (first ++ ':' :: rest).splitOn ':' = first :: rest.splitOn ':' := by
  rw [List.splitOn_eq_splitOnP, List.splitOnP_append_cons _ _ rfl, ← List.splitOn_eq_splitOnP,
    ← List.splitOn_eq_splitOnP, List.splitOn_eq_singleton h, List.singleton_append]

theorem splitOn_cases (s : List Char) : ':' ∉ s ∧ s.splitOn ':' = [s] ∨
    ∃ first rest, ':' ∉ first ∧ s = first ++ ':' :: rest ∧
      s.splitOn ':' = first :: rest.splitOn ':' := by
  by_cases h : ':' ∈ s
  · obtain ⟨first, rest, rfl, hfirst⟩ := List.eq_append_cons_of_mem h
    exact .inr ⟨first, rest, hfirst, rfl, splitOn_first hfirst⟩
  · exact .inl ⟨h, List.splitOn_eq_singleton h⟩

theorem clockParts_iff :
    ClockParts s hour minute ↔ ∃ parts, s.splitOn ':' = hour :: minute :: parts := by
  constructor
  · rintro (⟨hhour, hminute⟩ | ⟨hhour, hminute⟩)
    · exact ⟨[], by rw [splitOn_first hhour, List.splitOn_eq_singleton hminute]⟩
    · exact ⟨_, by rw [splitOn_first hhour, splitOn_first hminute]⟩
  · rintro ⟨parts, hparts⟩
    rcases splitOn_cases s with ⟨-, hs⟩ | ⟨hour', rest, hhour, rfl, hs⟩
    · rw [hs] at hparts
      cases hparts
    · rw [hs] at hparts
      obtain ⟨rfl, hrest⟩ := List.cons.inj hparts
      rcases splitOn_cases rest with ⟨hminute, hsplit⟩ | ⟨minute', rest, hminute, rfl, hsplit⟩
      · rw [hsplit] at hrest
        obtain ⟨rfl, -⟩ := List.cons.inj hrest
        exact .all hhour hminute
      · rw [hsplit] at hrest
        obtain ⟨rfl, -⟩ := List.cons.inj hrest
        exact .more hhour hminute

theorem exists_clockParts_iff : (∃ hour minute, ClockParts s hour minute) ↔ ':' ∈ s := by
  constructor
  · rintro ⟨hour, minute, ⟨-, -⟩ | ⟨-, -⟩⟩ <;> simp
  · intro hcolon
    rcases splitOn_cases s with ⟨hs, -⟩ | ⟨hour, rest, hhour, rfl, -⟩
    · exact absurd hcolon hs
    · rcases splitOn_cases rest with ⟨hminute, -⟩ | ⟨minute, rest, hminute, rfl, -⟩
      · exact ⟨hour, rest, .all hhour hminute⟩
      · exact ⟨hour, minute, .more hhour hminute⟩

end Parts

section Reading

variable {s : String} {hour minute : Int}

theorem readClock?_of_clockParts {hourText minuteText : List Char}
    (h : ClockParts s.toList hourText minuteText) :
    readClock? s = do return (← readInt? hourText, ← readInt? minuteText) := by
  obtain ⟨parts, hparts⟩ := clockParts_iff.mp h
  rw [readClock?, hparts]

theorem readClock?_of_not_mem (h : ':' ∉ s.toList) : readClock? s = none := by
  rw [readClock?, List.splitOn_eq_singleton h]

/-- An hour and a minute are read exactly where numerals of them stand. -/
theorem readClock?_eq_some_iff : readClock? s = some (hour, minute) ↔
    ∃ hourText minuteText, ClockParts s.toList hourText minuteText ∧
      Numeral hourText hour ∧ Numeral minuteText minute := by
  simp only [← readInt?_eq_some_iff]
  constructor
  · intro h
    by_cases hcolon : ':' ∈ s.toList
    · obtain ⟨hourText, minuteText, hparts⟩ := exists_clockParts_iff.mpr hcolon
      rw [readClock?_of_clockParts hparts] at h
      obtain ⟨hour', hhour, h⟩ := Option.bind_eq_some_iff.mp h
      obtain ⟨minute', hminute, h⟩ := Option.bind_eq_some_iff.mp h
      obtain ⟨rfl, rfl⟩ := Prod.mk.inj (Option.some.inj h)
      exact ⟨hourText, minuteText, hparts, hhour, hminute⟩
    · rw [readClock?_of_not_mem hcolon] at h
      cases h
  · rintro ⟨hourText, minuteText, hparts, hhour, hminute⟩
    rw [readClock?_of_clockParts hparts, hhour, hminute]
    rfl

theorem readClock?_eq_none_iff : readClock? s = none ↔
    ':' ∉ s.toList ∨ ∃ hourText minuteText, ClockParts s.toList hourText minuteText ∧
      ((∀ n, ¬ Numeral hourText n) ∨ ∀ n, ¬ Numeral minuteText n) := by
  simp only [← readInt?_eq_none_iff]
  constructor
  · intro h
    by_cases hcolon : ':' ∈ s.toList
    · obtain ⟨hourText, minuteText, hparts⟩ := exists_clockParts_iff.mpr hcolon
      refine .inr ⟨hourText, minuteText, hparts, ?_⟩
      rw [readClock?_of_clockParts hparts] at h
      cases hhour : readInt? hourText with
      | none => exact .inl rfl
      | some hour =>
        cases hminute : readInt? minuteText with
        | none => exact .inr rfl
        | some minute =>
          rw [hhour, hminute] at h
          cases h
    · exact .inl hcolon
  · rintro (hcolon | ⟨hourText, minuteText, hparts, hhour | hminute⟩)
    · exact readClock?_of_not_mem hcolon
    · rw [readClock?_of_clockParts hparts, hhour]
      rfl
    · rw [readClock?_of_clockParts hparts, hminute]
      cases readInt? hourText <;> rfl

theorem not_colon_mem_twoDigits (n : Int) : ':' ∉ twoDigits n := by
  have hdigits : ':' ∉ natDigits n.natAbs :=
    fun hcolon => absurd (isDigit_of_mem_natDigits hcolon) (by decide)
  unfold twoDigits
  dsimp only
  split <;> simp [hdigits, List.mem_replicate]

/-- A time that can be read is read again where it was written. -/
theorem readClock?_writeClock (hhour : hour.natAbs < 10 ^ maxDigits)
    (hminute : minute.natAbs < 10 ^ maxDigits) :
    readClock? (writeClock hour minute) = some (hour, minute) := by
  refine readClock?_eq_some_iff.mpr ⟨_, _, ?_, numeral_twoDigits hhour, numeral_twoDigits hminute⟩
  rw [writeClock, String.toList_ofList]
  exact .all (not_colon_mem_twoDigits hour) (not_colon_mem_twoDigits minute)

theorem readClock?_writeClock_of_eq_some (h : readClock? s = some (hour, minute)) :
    readClock? (writeClock hour minute) = some (hour, minute) := by
  obtain ⟨_, _, -, hhour, hminute⟩ := readClock?_eq_some_iff.mp h
  exact readClock?_writeClock hhour.natAbs_lt hminute.natAbs_lt

end Reading

section Day

variable {s : String} {t : Nat}

theorem twoDigits_of_lt {n : Nat} (h : n < 100) :
    twoDigits n = [Nat.digitChar (n / 10), Nat.digitChar (n % 10)] := by
  revert n
  decide

theorem toList_writeClock {hour minute : Nat} (hhour : hour < 100) (hminute : minute < 100) :
    (writeClock hour minute).toList = [Nat.digitChar (hour / 10), Nat.digitChar (hour % 10), ':',
      Nat.digitChar (minute / 10), Nat.digitChar (minute % 10)] := by
  rw [writeClock, String.toList_ofList, twoDigits_of_lt hhour, twoDigits_of_lt hminute]
  rfl

/-- A text is a time of the day exactly if it is what is written for that time. -/
theorem minuteOfDay?_eq_some_iff : minuteOfDay? s = some t ↔
    t < 1440 ∧ s = writeClock (t / 60 : Nat) (t % 60 : Nat) := by
  constructor
  · intro h
    unfold minuteOfDay? at h
    split at h
    case h_1 a b c d hs =>
      obtain ⟨i, ha, h⟩ := Option.bind_eq_some_iff.mp h
      obtain ⟨j, hb, h⟩ := Option.bind_eq_some_iff.mp h
      obtain ⟨k, hc, h⟩ := Option.bind_eq_some_iff.mp h
      obtain ⟨l, hd, h⟩ := Option.bind_eq_some_iff.mp h
      obtain ⟨⟨hhour, hminute⟩, ht⟩ := Option.ite_none_right_eq_some.mp h
      rw [asciiDigit?_eq_some_iff] at ha hb hc hd
      have htime := Option.some.inj ht
      have hi : t / 60 / 10 = i ∧ t / 60 % 10 = j := by omega
      have hk : t % 60 / 10 = k ∧ t % 60 % 10 = l := by omega
      refine ⟨by omega, String.toList_inj.mp ?_⟩
      rw [hs, toList_writeClock (by omega) (by omega), hi.1, hi.2, hk.1, hk.2,
        eq_digitChar ha.1 ha.2, eq_digitChar hb.1 hb.2, eq_digitChar hc.1 hc.2,
        eq_digitChar hd.1 hd.2]
    case h_2 => cases h
  · rintro ⟨ht, rfl⟩
    rw [minuteOfDay?, toList_writeClock (by omega) (by omega)]
    simp (disch := omega) only [asciiDigit?_digitChar, Option.bind_eq_bind, Option.bind_some]
    rw [if_pos ⟨by omega, by omega⟩]
    congr 1
    omega

theorem readClock?_of_minuteOfDay? (h : minuteOfDay? s = some t) :
    readClock? s = some (((t / 60 : Nat) : Int), ((t % 60 : Nat) : Int)) := by
  obtain ⟨ht, rfl⟩ := minuteOfDay?_eq_some_iff.mp h
  have hmax : 10 ^ 4 ≤ 10 ^ maxDigits := Nat.pow_le_pow_right (by decide) (by decide)
  apply readClock?_writeClock
  · rw [Int.natAbs_natCast]
    omega
  · rw [Int.natAbs_natCast]
    omega

/-- What is written for a time that was read is a time of the day exactly if the time is. -/
theorem isSome_minuteOfDay?_writeClock_iff {hour minute : Int}
    (hread : readClock? s = some (hour, minute)) :
    (minuteOfDay? (writeClock hour minute)).isSome ↔
      (0 ≤ hour ∧ hour < 24) ∧ 0 ≤ minute ∧ minute < 60 := by
  constructor
  · intro h
    obtain ⟨t, ht⟩ := Option.isSome_iff_exists.mp h
    obtain ⟨hday, -⟩ := minuteOfDay?_eq_some_iff.mp ht
    have hagain := readClock?_writeClock_of_eq_some hread
    rw [readClock?_of_minuteOfDay? ht] at hagain
    obtain ⟨rfl, rfl⟩ := Prod.mk.inj (Option.some.inj hagain)
    omega
  · rintro ⟨⟨hhour, hhour'⟩, hminute, hminute'⟩
    have htime : (60 * hour + minute).toNat < 1440 := by omega
    refine Option.isSome_iff_exists.mpr ⟨_, minuteOfDay?_eq_some_iff.mpr ⟨htime, ?_⟩⟩
    congr <;> omega

end Day

namespace Window

theorem exists_minuteOfDay?_stop (hour minute : Int) :
    ∃ t : Nat, minuteOfDay? (ofClock hour minute).stop = some t ∧
      (t : Int) = (60 * hour + minute + 1) % dayMinutes := by
  have hday : (0 : Int) < dayMinutes := by decide
  obtain ⟨t, ht⟩ := Int.eq_ofNat_of_zero_le
    (Int.emod_nonneg (60 * hour + minute + 1) (Int.ne_of_gt hday))
  have hlt := Int.emod_lt_of_pos (60 * hour + minute + 1) hday
  refine ⟨t, minuteOfDay?_eq_some_iff.mpr ⟨?_, ?_⟩, ht.symm⟩
  · rw [ht] at hlt
    exact Int.ofNat_lt.mp hlt
  · rw [ofClock, ht]
    rfl

/-- A window says which time was read: its start reads as that time again, every spelling of the
time has the same window, and the window ends at the next minute of the day. -/
theorem ofText?_normalizes (s : String) :
    (∀ window, ofText? s = some window → ∃ hour minute, readClock? s = some (hour, minute) ∧
      readClock? window.start = some (hour, minute) ∧ ofText? window.start = some window ∧
      (∀ s', readClock? s' = some (hour, minute) → ofText? s' = some window) ∧
      ∃ t : Nat, minuteOfDay? window.stop = some t ∧ (t : Int) = (60 * hour + minute + 1) % 1440) ∧
    (∀ hour minute, readClock? s = some (hour, minute) ↔
      ∃ hourText minuteText, ClockParts s.toList hourText minuteText ∧
        Numeral hourText hour ∧ Numeral minuteText minute) ∧
    (ofText? s = none ↔ ':' ∉ s.toList ∨
      ∃ hourText minuteText, ClockParts s.toList hourText minuteText ∧
        ((∀ n, ¬ Numeral hourText n) ∨ ∀ n, ¬ Numeral minuteText n)) := by
  refine ⟨?_, fun _ _ => readClock?_eq_some_iff, ?_⟩
  · intro window h
    obtain ⟨⟨hour, minute⟩, hread, rfl⟩ := Option.map_eq_some_iff.mp h
    have same : ∀ s', readClock? s' = some (hour, minute) →
        ofText? s' = some (ofClock hour minute) := by
      intro s' hread'
      rw [ofText?, hread']
      rfl
    have hstart := readClock?_writeClock_of_eq_some hread
    exact ⟨hour, minute, hread, hstart, same _ hstart, same, exists_minuteOfDay?_stop hour minute⟩
  · rw [ofText?, Option.map_eq_none_iff]
    exact readClock?_eq_none_iff

theorem ofText?_normalizes_negative : ∃ hour minute,
    ofText? " -1:+6_1:x" = some ⟨"-1:61", "00:02"⟩ ∧
      readClock? " -1:+6_1:x" = some (hour, minute) ∧ readClock? "-1:61" = some (hour, minute) := by
  have hwindow : ofText? " -1:+6_1:x" = some ⟨"-1:61", "00:02"⟩ := by decide +kernel
  obtain ⟨hour, minute, hread, hstart, -⟩ := (ofText?_normalizes " -1:+6_1:x").1 _ hwindow
  exact ⟨hour, minute, hwindow, hread, hstart⟩

end Window

end HomeAutomation
