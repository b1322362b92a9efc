/-
The check of the parentheses, told by their balance.

The balance at a place of a text is the number of opening parentheses in front of it, less the
closing ones.  It says everything about the check, which walks over the text with a stack: the
stack holds the parentheses that have not been closed, and these are the ones behind which the
balance stays higher than it was in front of them.

* `OpenIn` — what the stack holds behind a text;
* `OpenIn.step_opening`, `OpenIn.step_closing`, `OpenIn.step_other` — what one character does
  to it;
* `unclosed_cases` — a walk comes to the end with such a stack, or stops at the first place where
  the balance falls below zero;
* `wellNested_iff` — the walk ends with nothing open if the parentheses of the text are nested;
* `check_eq_iff_judged` — which texts pass, and which parenthesis is to blame in the others.

Design notes.  That a parenthesis is open is said without its partner: `NeverClosed` speaks of
balances only, so that nothing here depends on how parentheses are matched.
-/
import Mathlib.Order.Bounds.Basic
import Calculator.Parentheses

namespace Calculator.Parentheses

/-- The number of opening parentheses among the first characters of a text, less the number of
closing ones. -/
def balance (text : List Char) (i : Nat) : Int :=
  ((text.take i).count '(' : Int) - ((text.take i).count ')' : Int)

/-- An opening parenthesis that is never closed: everywhere behind it the balance is higher than
in front of it. -/
def NeverClosed (text : List Char) (position : Nat) : Prop :=
  text[position]? = some '(' ∧
    ∀ j, position < j → j ≤ text.length → balance text position < balance text j

/-- Texts in which every parenthesis has a partner and groups do not overlap. -/
inductive WellNested : List Char → Prop
  | nil : WellNested []
  | other {c : Char} : c ≠ '(' → c ≠ ')' → WellNested [c]
  | append {first second : List Char} :
      WellNested first → WellNested second → WellNested (first ++ second)
  | group {inner : List Char} : WellNested inner → WellNested ('(' :: inner ++ [')'])

/-! ### Balances -/

@[simp] theorem balance_nil (i : Nat) : balance [] i = 0 := by
  simp [balance]

theorem balance_append {text : List Char} {i : Nat} (hi : i ≤ text.length) (rest : List Char) :
    balance (text ++ rest) i = balance text i := by
  rw [balance, balance, List.take_append_of_le_length hi]

theorem balance_of_length_le {text : List Char} {i : Nat} (hi : text.length ≤ i) :
    balance text i = balance text text.length := by
  rw [balance, balance, List.take_of_length_le hi, List.take_length]

/-- How much a character adds to the balance. -/
def weight (c : Char) : Int := if c = '(' then 1 else if c = ')' then -1 else 0

theorem balance_append_cons (text : List Char) (c : Char) (rest : List Char) :
    balance (text ++ c :: rest) (text.length + 1) = balance text text.length + weight c := by
  have htake : (text ++ c :: rest).take (text.length + 1) = text ++ [c] := by
    rw [List.take_length_add_append, List.take_one, List.head?_cons, Option.toList_some]
  rw [balance, balance, htake, List.take_length, List.count_append, List.count_append, weight]
  by_cases hopening : c = '('
  · subst hopening
    simp
    omega
  · by_cases hclosing : c = ')'
    · subst hclosing
      simp
      omega
    · simp [hopening, hclosing]

theorem NeverClosed.lt_length {text : List Char} {position : Nat} (h : NeverClosed text position) :
    position < text.length :=
  (List.getElem?_eq_some_iff.mp h.1).1

theorem NeverClosed.lt_balance {text : List Char} {position : Nat} (h : NeverClosed text position) :
    balance text position < balance text text.length :=
  h.2 text.length h.lt_length (Nat.le_refl _)

/-- A character opens a parenthesis that is not closed yet, and closes those that have less above
them than it takes away. -/
theorem neverClosed_concat_iff {text : List Char} {c : Char} {position : Nat} :
    NeverClosed (text ++ [c]) position ↔
      position = text.length ∧ c = '(' ∨
        NeverClosed text position ∧
          balance text position < balance text text.length + weight c := by
  have hlast := balance_append_cons text c []
  constructor
  · rintro ⟨hget, habove⟩
    rcases Nat.lt_trichotomy position text.length with hlt | rfl | hgt
    · right
      rw [List.getElem?_append_left hlt] at hget
      have hstep := habove (text.length + 1) (by omega) (by simp)
      rw [balance_append (by omega), hlast] at hstep
      refine ⟨⟨hget, ?_⟩, hstep⟩
      intro j hj hle
      have hbefore := habove j hj (by simp; omega)
      rwa [balance_append (by omega), balance_append hle] at hbefore
    · left
      rw [List.getElem?_concat_length] at hget
      exact ⟨rfl, Option.some.inj hget⟩
    · rw [List.getElem?_eq_none (by simp; omega)] at hget
      exact absurd hget (by simp)
  · rintro (⟨rfl, rfl⟩ | ⟨hnever, hstep⟩)
    · refine ⟨by simp, ?_⟩
      intro j hj hle
      obtain rfl : j = text.length + 1 := by
        simp only [List.length_append, List.length_singleton] at hle
        omega
      rw [balance_append (Nat.le_refl _), hlast, weight, if_pos rfl]
      omega
    · have hlt := hnever.lt_length
      refine ⟨(List.getElem?_append_left hlt).trans hnever.1, ?_⟩
      intro j hj hle
      rw [balance_append (by omega)]
      by_cases hend : j ≤ text.length
      · rw [balance_append hend]
        exact hnever.2 j hj hend
      · obtain rfl : j = text.length + 1 := by
          simp only [List.length_append, List.length_singleton] at hle
          omega
        rwa [hlast]

/-! ### The stack of the check -/

/-- What the check knows behind a text: it has closed nothing that was not open, and holds the
parentheses that are open, the innermost one first. -/
structure OpenIn (text : List Char) (openings : List Nat) : Prop where
  nonneg : ∀ i, 0 ≤ balance text i
  descending : openings.Pairwise (· > ·)
  mem_iff : ∀ position, position ∈ openings ↔ NeverClosed text position
  /-- In front of an open parenthesis, the balance counts those around it. -/
  level : ∀ position outer, position :: outer <:+ openings →
    balance text position = outer.length
  length_eq : balance text text.length = openings.length

namespace OpenIn

theorem nil : OpenIn [] [] where
  nonneg i := by rw [balance_nil]
  descending := .nil
  mem_iff position := by simp [NeverClosed]
  level position outer h := absurd (List.suffix_nil.mp h) (List.cons_ne_nil _ _)
  length_eq := rfl

variable {text : List Char} {openings : List Nat}

theorem lt_length (h : OpenIn text openings) {position : Nat} (hposition : position ∈ openings) :
    position < text.length :=
  ((h.mem_iff position).mp hposition).lt_length

/-- One more character leaves the balance at or above zero if it does so itself. -/
theorem nonneg_concat (h : OpenIn text openings) {c : Char}
    (hc : 0 ≤ balance text text.length + weight c) (i : Nat) : 0 ≤ balance (text ++ [c]) i := by
  by_cases hi : i ≤ text.length
  · rw [balance_append hi]
    exact h.nonneg i
  · rw [balance_of_length_le (by simp; omega), List.length_append, List.length_singleton,
      balance_append_cons]
    exact hc

theorem level_concat (h : OpenIn text openings) (c : Char) {position : Nat} {outer : List Nat}
    (hsuffix : position :: outer <:+ openings) :
    balance (text ++ [c]) position = outer.length := by
  have hlt := h.lt_length (hsuffix.subset List.mem_cons_self)
  rw [balance_append (Nat.le_of_lt hlt)]
  exact h.level position outer hsuffix

/-- A character that is no parenthesis changes nothing. -/
theorem step_other (h : OpenIn text openings) {c : Char} (hopening : c ≠ '(')
    (hclosing : c ≠ ')') : OpenIn (text ++ [c]) openings := by
  have hweight : weight c = 0 := by rw [weight, if_neg hopening, if_neg hclosing]
  have hnonneg := h.nonneg text.length
  refine ⟨h.nonneg_concat (by omega), h.descending, ?_, ?_, ?_⟩
  · intro position
    rw [h.mem_iff, neverClosed_concat_iff, hweight, Int.add_zero]
    constructor
    · intro hnever
      exact .inr ⟨hnever, hnever.lt_balance⟩
    · rintro (⟨-, hc⟩ | ⟨hnever, -⟩)
      · exact absurd hc hopening
      · exact hnever
  · intro position outer hsuffix
    exact h.level_concat c hsuffix
  · rw [List.length_append, List.length_singleton, balance_append_cons, h.length_eq]
    omega

/-- An opening parenthesis is the innermost one that is open. -/
theorem step_opening (h : OpenIn text openings) :
    OpenIn (text ++ ['(']) (text.length :: openings) := by
  have hweight : weight '(' = 1 := rfl
  have hnonneg := h.nonneg text.length
  refine ⟨h.nonneg_concat (by omega), ?_, ?_, ?_, ?_⟩
  · refine .cons ?_ h.descending
    intro position hposition
    exact h.lt_length hposition
  · intro position
    rw [List.mem_cons, h.mem_iff, neverClosed_concat_iff, hweight]
    constructor
    · rintro (rfl | hnever)
      · exact .inl ⟨rfl, rfl⟩
      · have hbelow := hnever.lt_balance
        exact .inr ⟨hnever, by omega⟩
    · rintro (⟨rfl, -⟩ | ⟨hnever, -⟩)
      · exact .inl rfl
      · exact .inr hnever
  · intro position outer hsuffix
    rcases List.suffix_cons_iff.mp hsuffix with heq | hsuffix
    · obtain ⟨rfl, rfl⟩ := List.cons.inj heq
      rw [balance_append (Nat.le_refl _), h.length_eq]
    · exact h.level_concat '(' hsuffix
  · rw [List.length_append, List.length_singleton, balance_append_cons, h.length_eq, hweight,
      List.length_cons]
    omega

/-- A closing parenthesis closes the innermost one that is open, and no other. -/
theorem step_closing {innermost : Nat} (h : OpenIn text (innermost :: openings)) :
    OpenIn (text ++ [')']) openings := by
  have hweight : weight ')' = -1 := rfl
  have hlength := h.length_eq
  rw [List.length_cons] at hlength
  refine ⟨h.nonneg_concat (by omega), h.descending.of_cons, ?_, ?_, ?_⟩
  · intro position
    have hmem := h.mem_iff position
    rw [neverClosed_concat_iff, ← hmem, hlength, hweight]
    constructor
    · intro hposition
      -- the parentheses around this one are fewer than those around the innermost one
      obtain ⟨front, outer, rfl⟩ := List.append_of_mem hposition
      have hlevel := h.level position outer
        ((List.suffix_append front _).trans (List.suffix_cons innermost _))
      rw [hlevel]
      refine .inr ⟨List.mem_cons_of_mem innermost hposition, ?_⟩
      simp only [List.length_append, List.length_cons]
      omega
    · rintro (⟨-, hc⟩ | ⟨hposition, hlt⟩)
      · exact absurd hc (by decide)
      · rcases List.mem_cons.mp hposition with rfl | hposition
        · rw [h.level position openings (List.suffix_refl _)] at hlt
          omega
        · exact hposition
  · intro position outer hsuffix
    exact h.level_concat ')' (hsuffix.trans (List.suffix_cons innermost openings))
  · rw [List.length_append, List.length_singleton, balance_append_cons, hlength, hweight]
    omega

end OpenIn

/-- A closing parenthesis with nothing open is the first place where the balance falls below
zero. -/
theorem OpenIn.isLeast {text : List Char} (h : OpenIn text []) (rest : List Char) :
    IsLeast {i | i < (text ++ ')' :: rest).length ∧ balance (text ++ ')' :: rest) (i + 1) < 0}
      text.length := by
  constructor
  · have hlength := h.length_eq
    refine ⟨by simp, ?_⟩
    rw [balance_append_cons, hlength, weight]
    decide
  · rintro i ⟨-, hi⟩
    by_contra hlt
    rw [balance_append (by omega)] at hi
    have := h.nonneg (i + 1)
    omega

/-- **The walk of the check**: it comes to the end with the parentheses that are open there, or
stops where the balance first falls below zero. -/
theorem unclosed_cases {before : List Char} {openings : List Nat} (h : OpenIn before openings)
    {position : Nat} (hposition : before.length = position) (rest : List Char) :
    (∃ openings', unclosed position openings rest = .ok openings' ∧
        OpenIn (before ++ rest) openings') ∨
      ∃ at', unclosed position openings rest = .error (.unopenedParen at') ∧
        IsLeast {i | i < (before ++ rest).length ∧ balance (before ++ rest) (i + 1) < 0} at' := by
  fun_induction unclosed position openings rest generalizing before with
  | case1 position openings =>
    rw [List.append_nil]
    exact .inl ⟨openings, rfl, h⟩
  | case2 position openings rest ih =>
    rw [List.append_cons]
    apply ih
    · rw [← hposition]
      exact h.step_opening
    · rw [List.length_append, hposition, List.length_singleton]
  | case3 position rest =>
    rw [← hposition]
    exact .inr ⟨before.length, rfl, h.isLeast rest⟩
  | case4 position rest innermost outer ih =>
    rw [List.append_cons]
    apply ih h.step_closing
    rw [List.length_append, hposition, List.length_singleton]
  | case5 position openings c rest hopening hclosing ih =>
    rw [List.append_cons]
    apply ih (h.step_other hopening hclosing)
    rw [List.length_append, hposition, List.length_singleton]

/-! ### Nested parentheses -/

/-- The walk over nested parentheses leaves the stack as it was. -/
theorem WellNested.unclosed {text : List Char} (h : WellNested text) (position : Nat)
    (openings : List Nat) (rest : List Char) :
    unclosed position openings (text ++ rest) =
      unclosed (position + text.length) openings rest := by
  induction h generalizing position openings rest with
  | nil => rfl
  | other hopening hclosing =>
    rw [List.singleton_append, unclosed_cons_of_ne ⟨hopening, hclosing⟩, List.length_singleton]
  | @append first second _ _ ih₁ ih₂ =>
    rw [List.append_assoc, ih₁, ih₂, List.length_append, Nat.add_assoc]
  | @group inner _ ih =>
    have hlength : ('(' :: inner ++ [')']).length = inner.length + 2 := by simp
    rw [hlength, List.append_assoc, List.cons_append, Parentheses.unclosed, ih,
      List.singleton_append, Parentheses.unclosed]
    congr 1
    omega

/-- `Closes n text` if the text consists of nested parentheses and of `n` more that close what
was open in front of it. -/
inductive Closes : Nat → List Char → Prop
  | nested {text : List Char} : WellNested text → Closes 0 text
  | closing {n : Nat} {text rest : List Char} :
      WellNested text → Closes n rest → Closes (n + 1) (text ++ ')' :: rest)

theorem Closes.prepend {n : Nat} {first text : List Char} (hfirst : WellNested first)
    (h : Closes n text) : Closes n (first ++ text) := by
  cases h with
  | nested htext => exact .nested (.append hfirst htext)
  | closing htext hrest =>
    rw [← List.append_assoc]
    exact .closing (.append hfirst htext) hrest

/-- A walk that ends with an empty stack has closed all that was open in front. -/
theorem closes_of_unclosed {position : Nat} {openings : List Nat} {text : List Char}
    (h : unclosed position openings text = .ok []) : Closes openings.length text := by
  fun_induction unclosed position openings text with
  | case1 position openings =>
    obtain rfl := Except.ok.inj h
    exact .nested .nil
  | case2 position openings rest ih =>
    -- the parenthesis is closed by the first of those that the rest has too many
    cases ih h with
    | @closing _ inner behind hinner hbehind =>
      have hgroup := Closes.prepend hinner.group hbehind
      rwa [List.append_assoc, List.cons_append, List.singleton_append] at hgroup
  | case3 => exact absurd h (by simp)
  | case4 position rest innermost outer ih => exact .closing .nil (ih h)
  | case5 position openings c rest hopening hclosing ih =>
    exact (ih h).prepend (.other hopening hclosing)

theorem wellNested_iff {text : List Char} : WellNested text ↔ unclosed 0 [] text = .ok [] := by
  constructor
  · intro h
    have hwalk := h.unclosed 0 [] []
    rwa [List.append_nil] at hwalk
  · intro h
    cases closes_of_unclosed h with
    | nested hnested => exact hnested

/-! ### Verdicts -/

/-- What balances say about a text.  A closing parenthesis is to blame if the balance falls below
zero there for the first time.  If it never does then all depends on the balance at the end: it is
zero, or the last parenthesis that is never closed is to blame. -/
inductive Judged (text : List Char) : Except Fault Unit → Prop
  | unopened {position : Nat} :
      IsLeast {i | i < text.length ∧ balance text (i + 1) < 0} position →
      Judged text (.error (.unopenedParen position))
  | balanced : (∀ i, 0 ≤ balance text i) → balance text text.length = 0 → Judged text (.ok ())
  | unclosed {position : Nat} :
      (∀ i, 0 ≤ balance text i) → balance text text.length ≠ 0 →
      IsGreatest {i | NeverClosed text i} position →
      Judged text (.error (.unclosedParen position))

/-- The check says what the balances say. -/
theorem judged_check (text : List Char) : Judged text (check text) := by
  rcases unclosed_cases OpenIn.nil List.length_nil text with
    ⟨openings, hwalk, hopen⟩ | ⟨position, hwalk, hleast⟩
  · rw [List.nil_append] at hopen
    have hlength := hopen.length_eq
    rw [check, hwalk]
    cases openings with
    | nil => exact .balanced hopen.nonneg hlength
    | cons innermost outer =>
      rw [List.length_cons] at hlength
      refine .unclosed hopen.nonneg (by omega) ⟨?_, ?_⟩
      · exact (hopen.mem_iff innermost).mp List.mem_cons_self
      · intro position hnever
        -- the stack holds the parentheses in front of the innermost one below it
        rcases List.mem_cons.mp ((hopen.mem_iff position).mpr hnever) with rfl | hmem
        · exact Nat.le_refl position
        · exact Nat.le_of_lt ((List.pairwise_cons.mp hopen.descending).1 position hmem)
  · rw [check, hwalk]
    exact .unopened hleast

/-- Balances say one thing only. -/
theorem Judged.unique {text : List Char} {verdict verdict' : Except Fault Unit}
    (h : Judged text verdict) (h' : Judged text verdict') : verdict = verdict' := by
  have hfalls : ∀ {position : Nat},
      IsLeast {i | i < text.length ∧ balance text (i + 1) < 0} position →
        ¬∀ i, 0 ≤ balance text i := by
    intro position hleast hnonneg
    have hneg := hleast.1.2
    have := hnonneg (position + 1)
    omega
  cases h with
  | unopened hleast =>
    cases h' with
    | unopened hleast' => rw [hleast.unique hleast']
    | balanced hnonneg => exact absurd hnonneg (hfalls hleast)
    | unclosed hnonneg => exact absurd hnonneg (hfalls hleast)
  | balanced hnonneg hzero =>
    cases h' with
    | unopened hleast => exact absurd hnonneg (hfalls hleast)
    | balanced => rfl
    | unclosed _ hne => exact absurd hzero hne
  | unclosed hnonneg hne hgreatest =>
    cases h' with
    | unopened hleast => exact absurd hnonneg (hfalls hleast)
    | balanced _ hzero => exact absurd hzero hne
    | unclosed _ _ hgreatest' => rw [hgreatest.unique hgreatest']

/-- **The check of the parentheses is told by their balance**: it says of a text what the balances
say, and the texts that pass are those with nested parentheses. -/
theorem check_eq_iff_judged (text : List Char) :
    (∀ verdict, check text = verdict ↔ Judged text verdict) ∧
      (check text = .ok () ↔ WellNested text) := by
  constructor
  · intro verdict
    constructor
    · rintro rfl
      exact judged_check text
    · intro h
      exact (judged_check text).unique h
  · rw [wellNested_iff]
    exact verdict_eq_ok_iff

end Calculator.Parentheses
