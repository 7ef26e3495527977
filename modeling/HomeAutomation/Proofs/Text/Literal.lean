import Mathlib.Data.List.Basic

/-!
# Literals inside a text

An expression is code with string literals in it. A literal stands between double quotes and ends
at the first double quote that no backslash in front of it escapes (`IsLiteralBody`), and code holds
no double quote, so that a text can be read in one way only (`SplitsInto`). What a literal denotes
is up to the escapes of the language (`Escapes.Reads`).

A text that is put between double quotes as it is may end the literal early, hide the quote at its
end, or denote another text. It denotes itself in a literal of its own exactly when it holds no
double quote and each of its backslashes is kept (`Escapes.isPlain_iff`).
-/

namespace HomeAutomation.Text

/-- What may stand between double quotes. A backslash takes the next character with it, and no
other double quote is inside. -/
inductive IsLiteralBody : List Char → Prop
  | nil : IsLiteralBody []
  | plain {c : Char} {body : List Char} : c ≠ '"' → c ≠ '\\' → IsLiteralBody body →
      IsLiteralBody (c :: body)
  | escaped {c : Char} {body : List Char} : IsLiteralBody body → IsLiteralBody ('\\' :: c :: body)

namespace IsLiteralBody

variable {body other behind rest : List Char}

/-- A literal has one end only. -/
theorem unique (h : IsLiteralBody body) (hother : IsLiteralBody other)
    (heq : body ++ '"' :: behind = other ++ '"' :: rest) : body = other ∧ behind = rest := by
  induction h generalizing other with
  | nil =>
      cases hother with
      | nil => exact ⟨rfl, List.tail_eq_of_cons_eq heq⟩
      | plain hquote => exact absurd (List.head_eq_of_cons_eq heq).symm hquote
      | escaped => exact absurd (List.head_eq_of_cons_eq heq) (by decide)
  | plain hquote hbackslash _ ih =>
      cases hother with
      | nil => exact absurd (List.head_eq_of_cons_eq heq) hquote
      | plain _ _ hrest =>
          obtain ⟨rfl, htail⟩ := List.cons.inj heq
          obtain ⟨rfl, hbehind⟩ := ih hrest htail
          exact ⟨rfl, hbehind⟩
      | escaped => exact absurd (List.head_eq_of_cons_eq heq) hbackslash
  | escaped _ ih =>
      cases hother with
      | nil => exact absurd (List.head_eq_of_cons_eq heq) (by decide)
      | plain _ hbackslash => exact absurd (List.head_eq_of_cons_eq heq).symm hbackslash
      | escaped hrest =>
          obtain ⟨rfl, htail⟩ := List.cons.inj (List.cons.inj heq).2
          obtain ⟨rfl, hbehind⟩ := ih hrest htail
          exact ⟨rfl, hbehind⟩

theorem append (h : IsLiteralBody body) (hother : IsLiteralBody other) :
    IsLiteralBody (body ++ other) := by
  induction h with
  | nil => exact hother
  | plain hquote hbackslash _ ih => exact .plain hquote hbackslash ih
  | escaped _ ih => exact .escaped ih

theorem of_not_mem (hquote : '"' ∉ body) (hbackslash : '\\' ∉ body) : IsLiteralBody body := by
  induction body with
  | nil => exact .nil
  | cons c body ih =>
      exact .plain (List.ne_of_not_mem_cons hquote).symm (List.ne_of_not_mem_cons hbackslash).symm
        (ih (List.not_mem_of_not_mem_cons hquote) (List.not_mem_of_not_mem_cons hbackslash))

/-- The first double quote inside a literal has a backslash in front of it. -/
theorem getLast?_of_eq_append (h : IsLiteralBody body) (heq : body = other ++ '"' :: rest)
    (hother : '"' ∉ other) : other.getLast? = some '\\' := by
  induction h generalizing other with
  | nil => simp at heq
  | plain hquote _ _ ih =>
      cases other with
      | nil => exact absurd (List.head_eq_of_cons_eq heq) hquote
      | cons d other =>
          have hlast := ih (List.tail_eq_of_cons_eq heq) (List.not_mem_of_not_mem_cons hother)
          rw [List.getLast?_cons, hlast]
          rfl
  | @escaped c _ _ ih =>
      cases other with
      | nil => exact absurd (List.head_eq_of_cons_eq heq) (by decide)
      | cons d other =>
          obtain ⟨rfl, htail⟩ := List.cons.inj heq
          cases other with
          | nil => rfl
          | cons e other =>
              have hother' := List.not_mem_of_not_mem_cons (List.not_mem_of_not_mem_cons hother)
              have hlast := ih (List.tail_eq_of_cons_eq htail) hother'
              rw [List.getLast?_cons, List.getLast?_cons, hlast]
              rfl

end IsLiteralBody

/-- Between double quotes a text is a literal, or it ends the literal early, or its last backslash
escapes the quote behind it. -/
theorem isLiteralBody_cases : ∀ s : List Char,
    IsLiteralBody s ∨ (∃ body rest, IsLiteralBody body ∧ s = body ++ '"' :: rest) ∨
      IsLiteralBody (s ++ ['"'])
  | [] => .inl .nil
  | [c] => by
      by_cases hquote : c = '"'
      · exact .inr (.inl ⟨[], [], .nil, by rw [hquote]; rfl⟩)
      · by_cases hbackslash : c = '\\'
        · rw [hbackslash]
          exact .inr (.inr (.escaped .nil))
        · exact .inl (.plain hquote hbackslash .nil)
  | c :: d :: s => by
      by_cases hquote : c = '"'
      · exact .inr (.inl ⟨[], d :: s, .nil, by rw [hquote]; rfl⟩)
      · by_cases hbackslash : c = '\\'
        · rw [hbackslash]
          rcases isLiteralBody_cases s with h | ⟨body, rest, h, rfl⟩ | h
          · exact .inl (.escaped h)
          · exact .inr (.inl ⟨_, rest, .escaped h, rfl⟩)
          · exact .inr (.inr (.escaped h))
        · rcases isLiteralBody_cases (d :: s) with h | ⟨body, rest, h, heq⟩ | h
          · exact .inl (.plain hquote hbackslash h)
          · exact .inr (.inl ⟨_, rest, .plain hquote hbackslash h, by rw [heq]; rfl⟩)
          · exact .inr (.inr (.plain hquote hbackslash h))

/-- A text is code, then literals each with the code behind it. -/
inductive SplitsInto : List Char → List Char → List (List Char × List Char) → Prop
  | code {text : List Char} : '"' ∉ text → SplitsInto text text []
  | literal {code body text next : List Char} {parts : List (List Char × List Char)} :
      '"' ∉ code → IsLiteralBody body → SplitsInto text next parts →
      SplitsInto (code ++ '"' :: (body ++ '"' :: text)) code ((body, next) :: parts)

theorem append_quote_inj {code other rest more : List Char} (hcode : '"' ∉ code)
    (hother : '"' ∉ other) (h : code ++ '"' :: rest = other ++ '"' :: more) :
    code = other ∧ rest = more := by
  induction code generalizing other with
  | nil =>
      cases other with
      | nil => exact ⟨rfl, List.tail_eq_of_cons_eq h⟩
      | cons d other => exact absurd (List.head_eq_of_cons_eq h) (List.ne_of_not_mem_cons hother)
  | cons c code ih =>
      cases other with
      | nil => exact absurd (List.head_eq_of_cons_eq h).symm (List.ne_of_not_mem_cons hcode)
      | cons d other =>
          obtain ⟨rfl, htail⟩ := List.cons.inj h
          obtain ⟨rfl, hrest⟩ := ih (List.not_mem_of_not_mem_cons hcode)
            (List.not_mem_of_not_mem_cons hother) htail
          exact ⟨rfl, hrest⟩

namespace SplitsInto

variable {text code body next : List Char} {parts : List (List Char × List Char)}

theorem not_mem (h : SplitsInto text code parts) : '"' ∉ code := by
  cases h with
  | code hcode => exact hcode
  | literal hcode => exact hcode

theorem exists_rest (h : SplitsInto text code ((body, next) :: parts)) :
    ∃ rest, text = code ++ '"' :: (body ++ '"' :: rest) ∧ IsLiteralBody body ∧
      SplitsInto rest next parts := by
  cases h with
  | literal _ hbody hrest => exact ⟨_, rfl, hbody, hrest⟩

end SplitsInto

/-- The expression with the text between double quotes at two places. -/
def embedded (before between behind s : List Char) : List Char :=
  before ++ '"' :: (s ++ '"' :: (between ++ '"' :: (s ++ '"' :: behind)))

/-- What a backslash begins. -/
inductive Escape where
  /-- An escape that stands for a text; the rest follows it. -/
  | stands (text rest : List Char)
  /-- No escape, so the backslash stands for itself. -/
  | kept
  /-- An escape that is cut off or broken. -/
  | faulty

/-- The escapes of a language. -/
structure Escapes where
  /-- What a backslash in front of a text begins. -/
  read : List Char → Escape
  read_nil : read [] = .faulty
  read_quote : ∀ s, read ('"' :: s) = .stands ['"'] s
  /-- An escape stands for less than is written. -/
  length_le : ∀ {s text rest}, read s = .stands text rest → text.length + rest.length ≤ s.length

namespace Escapes

/-- The escapes that most languages have. -/
def common : Escapes where
  read
    | [] => .faulty
    | c :: rest =>
      if c = '"' ∨ c = '\'' ∨ c = '\\' then .stands [c] rest
      else if c = 'n' then .stands ['\n'] rest
      else if c = 'r' then .stands ['\r'] rest
      else if c = 't' then .stands ['\t'] rest
      else .kept
  read_nil := rfl
  read_quote _ := rfl
  length_le := by
    rintro (_ | ⟨c, s⟩) text rest h
    · cases h
    · simp only at h
      split_ifs at h <;> cases h <;> simp [Nat.add_comm]

variable (escapes : Escapes)

/-- The body of a literal denotes the text. -/
inductive Reads : List Char → List Char → Prop
  | nil : Reads [] []
  | plain {c : Char} {body text : List Char} : c ≠ '\\' → Reads body text →
      Reads (c :: body) (c :: text)
  | kept {body text : List Char} : escapes.read body = .kept → Reads body text →
      Reads ('\\' :: body) ('\\' :: text)
  | escaped {body meaning rest text : List Char} : escapes.read body = .stands meaning rest →
      Reads rest text → Reads ('\\' :: body) (meaning ++ text)

/-- No escape begins in the text. -/
def KeepsAll (s : List Char) : Prop :=
  ∀ front rest, s = front ++ '\\' :: rest → escapes.read rest = .kept

/-- The text denotes itself between double quotes. -/
def IsPlain (s : List Char) : Prop :=
  '"' ∉ s ∧ escapes.KeepsAll s

variable {escapes} {s body text : List Char}

theorem Reads.length_le (h : escapes.Reads body text) : text.length ≤ body.length := by
  induction h with
  | nil => exact Nat.le_refl _
  | plain _ _ ih => simpa using ih
  | kept _ _ ih => simpa using ih
  | escaped hread _ ih =>
      have hlength := escapes.length_le hread
      simp only [List.length_append, List.length_cons]
      omega

theorem KeepsAll.tail {c : Char} (h : escapes.KeepsAll (c :: s)) : escapes.KeepsAll s := by
  rintro front rest rfl
  exact h (c :: front) rest rfl

theorem KeepsAll.cons {c : Char} (h : escapes.KeepsAll s)
    (hc : c = '\\' → escapes.read s = .kept) : escapes.KeepsAll (c :: s) := by
  intro front rest heq
  cases front with
  | nil =>
      obtain ⟨hbackslash, rfl⟩ := List.cons.inj heq
      exact hc hbackslash
  | cons d front => exact h front rest (List.tail_eq_of_cons_eq heq)

theorem keepsAll_of_not_mem (h : '\\' ∉ s) : escapes.KeepsAll s := by
  rintro front rest rfl
  exact absurd (List.mem_append_right front List.mem_cons_self) h

/-- An escape stands for less than is written, so a literal that denotes as much as is written has
none. -/
theorem Reads.keepsAll (h : escapes.Reads body text) (hlength : body.length ≤ text.length) :
    escapes.KeepsAll body := by
  induction h with
  | nil => rintro front rest heq; simp at heq
  | plain hbackslash _ ih =>
      exact (ih (Nat.le_of_succ_le_succ hlength)).cons fun hc => absurd hc hbackslash
  | kept hread _ ih => exact (ih (Nat.le_of_succ_le_succ hlength)).cons fun _ => hread
  | escaped hread hrest =>
      have hread := escapes.length_le hread
      have hrest := hrest.length_le
      simp only [List.length_append, List.length_cons] at hlength
      omega

theorem reads_self_iff : escapes.Reads s s ↔ escapes.KeepsAll s := by
  constructor
  · intro h
    exact h.keepsAll (Nat.le_refl _)
  · intro h
    induction s with
    | nil => exact .nil
    | cons c s ih =>
        by_cases hc : c = '\\'
        · subst hc
          exact .kept (h [] s rfl) (ih h.tail)
        · exact .plain hc (ih h.tail)

theorem isPlain_iff : escapes.IsPlain s ↔ IsLiteralBody s ∧ escapes.Reads s s := by
  rw [reads_self_iff]
  constructor
  · rintro ⟨hquote, hkeeps⟩
    refine ⟨?_, hkeeps⟩
    rcases isLiteralBody_cases s with h | ⟨body, rest, -, rfl⟩ | h
    · exact h
    · simp at hquote
    · -- A text that ends with a backslash does not keep it.
      have hlast := h.getLast?_of_eq_append rfl hquote
      obtain ⟨front, rfl⟩ := List.getLast?_eq_some_iff.mp hlast
      exact absurd (hkeeps front [] rfl) (by simp [escapes.read_nil])
  · rintro ⟨hbody, hkeeps⟩
    refine ⟨fun hquote => ?_, hkeeps⟩
    obtain ⟨front, rest, rfl, hfront⟩ := List.eq_append_cons_of_mem hquote
    have hlast := hbody.getLast?_of_eq_append rfl hfront
    obtain ⟨front, rfl⟩ := List.getLast?_eq_some_iff.mp hlast
    exact absurd (hkeeps front ('"' :: rest) (by simp)) (by simp [escapes.read_quote])

section Embedded

variable {before between behind code first next second last : List Char}

/-- A text that the first of two literals denotes is plain, if the code between the literals does
not end with a backslash. -/
theorem isPlain_of_splitsInto (hbefore : '"' ∉ before)
    (hquote : '"' ∉ between) (hbackslash : '\\' ∉ between)
    (hsplit : SplitsInto (embedded before between behind s) code [(first, next), (second, last)])
    (hnext : next.getLast? ≠ some '\\') (hreads : escapes.Reads first s) : escapes.IsPlain s := by
  obtain ⟨rest, heq, hfirst, hrest⟩ := hsplit.exists_rest
  obtain ⟨-, hbody⟩ := append_quote_inj hbefore hsplit.not_mem heq
  rcases isLiteralBody_cases s with hs | ⟨body, tail, hs, rfl⟩ | hs
  · obtain ⟨rfl, -⟩ := hs.unique hfirst hbody
    exact isPlain_iff.mpr ⟨hs, hreads⟩
  · -- The literal ends inside the text, so it is too short for it.
    rw [List.append_assoc, List.cons_append] at hbody
    obtain ⟨rfl, -⟩ := hs.unique hfirst hbody
    have hlength := hreads.length_le
    simp only [List.length_append, List.length_cons] at hlength
    omega
  · -- The literal goes on to the second place, so the code behind it ends at the first quote there.
    have hcode := hrest.not_mem
    obtain ⟨more, rfl, -, -⟩ := hrest.exists_rest
    have hlong : IsLiteralBody (s ++ '"' :: between) := by
      simpa using hs.append (.of_not_mem hquote hbackslash)
    have hbody' : (s ++ '"' :: between) ++ '"' :: (s ++ '"' :: behind) =
        first ++ '"' :: (next ++ '"' :: (second ++ '"' :: more)) := by
      simpa using hbody
    obtain ⟨-, htail⟩ := hlong.unique hfirst hbody'
    have hmem : '"' ∈ s ++ ['"'] := List.mem_concat_self
    obtain ⟨front, tail, hfront, hnot⟩ := List.eq_append_cons_of_mem hmem
    have hplace : front ++ '"' :: (tail ++ behind) = next ++ '"' :: (second ++ '"' :: more) := by
      rw [← htail, List.append_cons s, hfront, List.append_assoc, List.cons_append]
    obtain ⟨rfl, -⟩ := append_quote_inj hnot hcode hplace
    exact absurd (hs.getLast?_of_eq_append hfront hnot) hnext

/-- Between double quotes as it is, a plain text is a literal that denotes it. -/
theorem splitsInto_embedded (hbefore : '"' ∉ before) (hbetween : '"' ∉ between)
    (hbehind : '"' ∉ behind) (h : escapes.IsPlain s) :
    SplitsInto (embedded before between behind s) before [(s, between), (s, behind)] ∧
      escapes.Reads s s := by
  obtain ⟨hbody, hreads⟩ := isPlain_iff.mp h
  exact ⟨.literal hbefore hbody (.literal hbetween hbody (.code hbehind)), hreads⟩

end Embedded

end Escapes

end HomeAutomation.Text
