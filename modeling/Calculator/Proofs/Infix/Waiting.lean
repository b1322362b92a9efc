/-
What waits in the yard.

The yard is a stack of operators and parentheses.  Nothing in it says where an operand of a
waiting operator ends; all is in the order in which they wait.  An operator comes to wait only
above what binds less, since everything else has left before it, so between two parentheses no
two waiting operators bind alike.  The parentheses themselves are those that no token has closed.

* `Yard.release_stops` — where the operators stop leaving;
* `Yard.Layered` — every operator binds more strongly than what waits below it;
* `Yard.Keeps`, `Keeps.reads`, `Keeps.feed` — what a yard keeps of the tokens so far, for one token
  and for all that are read;
* `stillOpen` — the parentheses that are not closed by what follows them, told by counting;
* `waits_in_order` — all of this for the yard behind any part of a text.

Design notes.  A parenthesis counts as binding less than every operator, which is why it may
wait below any operator; that it may wait above any operator is the other case of `Layered`.
-/
import Mathlib.Data.List.Chain
import Mathlib.Data.List.Infix
import Calculator.Proofs.Infix.Mismatch

namespace Calculator

theorem Operator.precedence_pos (op : Operator) : 0 < op.precedence := by
  cases op <;> decide

theorem Operator.precedence_le_two (op : Operator) : op.precedence ≤ 2 := by
  cases op <;> decide

namespace Infix

namespace Pending

/-- The token that waits. -/
def token : Pending → Token
  | opening => .opening
  | operator op => .operator op

/-- How strongly it binds what follows: a parenthesis less than every operator. -/
def precedence : Pending → Nat
  | opening => 0
  | operator op => op.precedence

end Pending

/-! ### Parentheses that are not closed -/

/-- Whether tokens leave open what is open in front of them: in no part of them, from their
start on, do more parentheses close than open. -/
def KeepsOpen (tokens : List (Located Token)) : Prop :=
  ∀ part ∈ tokens.inits, part.countP (·.item = .closing) ≤ part.countP (·.item = .opening)

instance : DecidablePred KeepsOpen := fun tokens =>
  inferInstanceAs (Decidable (∀ part ∈ tokens.inits, _))

/-- The positions of the opening parentheses that are not closed by the tokens behind them, from
left to right. -/
def stillOpen : List (Located Token) → List Nat
  | [] => []
  | ⟨position, .opening⟩ :: rest =>
    if KeepsOpen rest then position :: stillOpen rest else stillOpen rest
  | _ :: rest => stillOpen rest

/-- How many of the parentheses that are open in front of some tokens these close. -/
def closedInFront : List (Located Token) → Nat
  | [] => 0
  | ⟨_, .opening⟩ :: rest => closedInFront rest - 1
  | ⟨_, .closing⟩ :: rest => closedInFront rest + 1
  | _ :: rest => closedInFront rest

/-- Tokens close no more than `n` of the parentheses in front of them if no part of them, from
their start on, closes more than `n` parentheses too many. -/
theorem closedInFront_le_iff {tokens : List (Located Token)} {n : Nat} :
    closedInFront tokens ≤ n ↔ ∀ part ∈ tokens.inits,
      part.countP (·.item = .closing) ≤ n + part.countP (·.item = .opening) := by
  induction tokens generalizing n with
  | nil => simp [closedInFront]
  | cons token tokens ih =>
    rw [List.inits_cons, List.forall_mem_cons, List.forall_mem_map]
    obtain ⟨position, digits | op | _ | _ | c⟩ := token
    · simp [closedInFront, ih]
    · simp [closedInFront, ih]
    · have hone : closedInFront tokens - 1 ≤ n ↔ closedInFront tokens ≤ n + 1 := by omega
      simp [closedInFront, hone, ih, Nat.add_assoc, Nat.add_comm 1]
    · cases n with
      | zero =>
        -- the parenthesis alone is too many
        simp only [closedInFront, Nat.zero_add]
        constructor
        · intro h
          omega
        · rintro ⟨-, hparts⟩
          have := hparts [] (by simp)
          simp at this
      | succ n =>
        have hone : closedInFront tokens + 1 ≤ n + 1 ↔ closedInFront tokens ≤ n := by omega
        simp [closedInFront, hone, ih, Nat.add_right_comm n 1]
    · simp [closedInFront, ih]

theorem keepsOpen_iff {tokens : List (Located Token)} :
    KeepsOpen tokens ↔ closedInFront tokens = 0 := by
  rw [← Nat.le_zero, closedInFront_le_iff, KeepsOpen]
  simp only [Nat.zero_add]

/-- **The parentheses that a walk leaves open** are those that no tokens behind them close, on
top of those in front of the tokens that these do not close. -/
theorem eq_of_unclosedTokens {openings openings' : List Nat} {tokens : List (Located Token)}
    (h : unclosedTokens openings tokens = .ok openings') :
    openings' = (stillOpen tokens).reverse ++ openings.drop (closedInFront tokens) := by
  induction tokens generalizing openings with
  | nil => exact (Except.ok.inj h).symm
  | cons token tokens ih =>
    obtain ⟨position, digits | op | _ | _ | c⟩ := token
    · exact ih h
    · exact ih h
    · have hrest := @ih (position :: openings) h
      rw [stillOpen, closedInFront]
      cases hclosed : closedInFront tokens with
      | zero =>
        rw [hclosed] at hrest
        rw [if_pos (keepsOpen_iff.mpr hclosed), List.reverse_cons, List.append_assoc]
        exact hrest
      | succ n =>
        rw [hclosed] at hrest
        rw [if_neg (by rw [keepsOpen_iff]; omega)]
        exact hrest
    · cases openings with
      | nil => exact absurd h (by simp [unclosedTokens])
      | cons innermost outer => exact ih h
    · exact ih h

/-! ### Layers of operators -/

namespace Yard

variable {yard yard' : Yard} {token : Located Token} {code : List (Located Postfix.Token)}

/-- What does not leave the yard was at its bottom, and if an operator waits on top of it then
this operator stays. -/
theorem release_stops {p : Operator → Bool} {behind : Yard}
    (h : release p yard = (code, behind)) :
    behind <:+ yard ∧
      ∀ position op, ⟨position, .operator op⟩ ∈ behind.head? → p op = false := by
  induction yard generalizing code with
  | nil =>
    obtain ⟨-, rfl⟩ := Prod.mk.inj h
    exact ⟨List.suffix_refl [], by simp⟩
  | cons waiting yard ih =>
    obtain ⟨at', _ | op'⟩ := waiting
    · obtain ⟨-, rfl⟩ := Prod.mk.inj h
      exact ⟨List.suffix_refl _, by simp⟩
    · cases hp : p op' with
      | true =>
        rw [release_operator_of_pos hp] at h
        obtain ⟨-, rfl⟩ := Prod.mk.inj h
        obtain ⟨hsuffix, hstays⟩ := ih rfl
        exact ⟨hsuffix.trans (List.suffix_cons _ yard), hstays⟩
      | false =>
        rw [release_operator_of_neg hp] at h
        obtain ⟨-, rfl⟩ := Prod.mk.inj h
        refine ⟨List.suffix_refl _, ?_⟩
        rintro position op ⟨⟩
        exact hp

/-- Every operator binds more strongly than what waits below it. -/
def Layered (yard : Yard) : Prop :=
  yard.IsChain fun upper lower =>
    upper.item = .opening ∨ lower.item.precedence < upper.item.precedence

/-- **An operator comes to wait only above what binds less**: one token keeps the layers. -/
theorem Layered.reads (h : Layered yard) (hreads : Reads yard token code yard') :
    Layered yard' := by
  cases hreads with
  | number => exact h
  | @operator position op code behind hrelease =>
    obtain ⟨hsuffix, hstays⟩ := release_stops hrelease
    refine List.isChain_cons.mpr ⟨?_, h.suffix hsuffix⟩
    rintro ⟨at', _ | op'⟩ hhead
    · exact .inr op.precedence_pos
    · have hlt : op'.precedence < op.precedence := by simpa using hstays at' op' hhead
      exact .inr hlt
  | opening => exact List.isChain_cons.mpr ⟨fun _ _ => .inl rfl, h⟩
  | closing hrelease =>
    exact h.suffix ((List.suffix_cons _ yard').trans (release_stops hrelease).1)

/-- How strongly the last thing binds that has come to wait. -/
def strength : Yard → Nat
  | [] => 0
  | waiting :: _ => waiting.item.precedence

/-- A parenthesis and the operators above it make three at most. -/
theorem Layered.length_le (h : Layered yard) :
    yard.length ≤ 3 * yard.openings.length + yard.strength ∧ yard.strength ≤ 2 := by
  induction yard with
  | nil => decide
  | cons waiting yard ih =>
    obtain ⟨hhead, hrest⟩ := List.isChain_cons.mp h
    obtain ⟨hlength, hstrength⟩ := ih hrest
    obtain ⟨position, _ | op⟩ := waiting
    · simp only [openings, strength, Pending.precedence, List.length_cons]
      omega
    · have hbelow : strength yard < op.precedence := by
        cases yard with
        | nil => exact op.precedence_pos
        | cons below yard => exact (hhead below rfl).resolve_left (by simp)
      have hle := op.precedence_le_two
      simp only [openings, strength, Pending.precedence, List.length_cons]
      omega

theorem openings_eq_nil (h : ∀ waiting ∈ yard, waiting.item ≠ .opening) : yard.openings = [] := by
  induction yard with
  | nil => rfl
  | cons waiting yard ih =>
    obtain ⟨position, _ | op⟩ := waiting
    · exact absurd rfl (h _ List.mem_cons_self)
    · exact ih fun waiting hwaiting => h waiting (List.mem_cons_of_mem _ hwaiting)

/-- Where no parenthesis waits, every operator binds more strongly than all that wait below it,
so there are two at most. -/
theorem Layered.operators (h : Layered yard)
    (hoperators : ∀ waiting ∈ yard, waiting.item ≠ .opening) :
    yard.Pairwise (fun upper lower => lower.item.precedence < upper.item.precedence) ∧
      yard.length ≤ 2 := by
  constructor
  · have hchain : (yard.map (·.item.precedence)).IsChain (· > ·) := by
      rw [List.isChain_map]
      refine List.IsChain.imp_of_mem_imp ?_ h
      intro upper lower hupper _ hlayer
      exact hlayer.resolve_left (hoperators upper hupper)
    exact List.pairwise_map.mp hchain.pairwise
  · have hlength := h.length_le
    rw [openings_eq_nil hoperators, List.length_nil] at hlength
    omega

/-! ### Behind some tokens -/

/-- The tokens that wait, the last one first. -/
def asTokens (yard : Yard) : List (Located Token) :=
  yard.map fun waiting => ⟨waiting.position, waiting.item.token⟩

/-- What a yard keeps of the tokens that are read so far. -/
structure Keeps (read : List (Located Token)) (yard : Yard) : Prop where
  sublist : yard.asTokens.Sublist read.reverse
  openings : unclosedTokens [] read = .ok yard.openings
  layered : Layered yard

namespace Keeps

theorem nil : Keeps [] [] where
  sublist := .slnil
  openings := rfl
  layered := .nil

variable {read : List (Located Token)}

/-- One token takes something off the yard, and may itself come to wait there. -/
theorem reads (h : Keeps read yard) (hreads : Reads yard token code yard') :
    Keeps (read ++ [token]) yard' where
  sublist := by
    have hbehind : ∀ {behind : Yard}, behind <:+ yard → behind.asTokens.Sublist read.reverse :=
      fun hsuffix => (hsuffix.sublist.map _).trans h.sublist
    rw [List.reverse_append, List.reverse_singleton, List.singleton_append]
    cases hreads with
    | number => exact h.sublist.cons _
    | operator hrelease => exact (hbehind (release_stops hrelease).1).cons_cons _
    | opening => exact h.sublist.cons_cons _
    | closing hrelease =>
      exact (hbehind ((List.suffix_cons _ yard').trans (release_stops hrelease).1)).cons _
  openings := by
    rw [unclosedTokens_append, h.openings]
    exact hreads.unclosedTokens []
  layered := h.layered.reads hreads

/-- **What a yard keeps of all tokens that it is fed.** -/
theorem feed (h : Keeps read yard) {tokens : List (Located Token)}
    (hfeed : yard.feed tokens = (code, .ok yard')) : Keeps (read ++ tokens) yard' := by
  induction tokens generalizing read yard code with
  | nil =>
    obtain ⟨-, hyard⟩ := Prod.mk.inj hfeed
    obtain rfl := Except.ok.inj hyard
    rw [List.append_nil]
    exact h
  | cons token tokens ih =>
    rcases hstep : yard.step token with ⟨code₁, fault | yard₁⟩
    · simp only [Yard.feed, hstep] at hfeed
      exact absurd (congrArg Prod.snd hfeed) (by simp)
    · simp only [Yard.feed, hstep] at hfeed
      rcases hrest : yard₁.feed tokens with ⟨code₂, result⟩
      rw [hrest] at hfeed
      obtain ⟨-, hresult⟩ := Prod.mk.inj hfeed
      obtain rfl : result = .ok yard' := hresult
      rw [List.append_cons]
      exact ih (h.reads (step_eq_ok_iff.mp hstep)) hrest

end Keeps

end Yard

/-- How things wait in a yard behind some tokens, told from the bottom to the top. -/
structure WaitsInOrder (read : List (Located Token)) (yard : Yard) : Prop where
  /-- Each thing that waits is a token that was read. -/
  tokens : yard.asTokens.reverse.Sublist read
  ascending : yard.reverse.Pairwise fun lower upper => lower.position < upper.position
  /-- The parentheses that wait are those that are not closed. -/
  openings : yard.openings.reverse = stillOpen read
  /-- Where no parenthesis waits, operators bind more and more strongly. -/
  stretch : ∀ stretch, stretch <:+: yard.reverse →
    (∀ waiting ∈ stretch, waiting.item ≠ .opening) →
      stretch.Pairwise (fun lower upper => lower.item.precedence < upper.item.precedence) ∧
        stretch.length ≤ 2
  length_le : yard.length ≤ 3 * (stillOpen read).length + 2

theorem Yard.Keeps.waitsInOrder {read : List (Located Token)} {yard : Yard} (h : Keeps read yard)
    (hread : read.Pairwise fun a b => a.position < b.position) : WaitsInOrder read yard := by
  have htokens : yard.asTokens.reverse.Sublist read :=
    List.reverse_sublist.mp (by simpa using h.sublist)
  have hopenings : yard.openings.reverse = stillOpen read := by
    rw [eq_of_unclosedTokens h.openings]
    simp
  refine ⟨htokens, ?_, hopenings, ?_, ?_⟩
  · have hascending := hread.sublist htokens
    rw [asTokens, ← List.map_reverse, List.pairwise_map] at hascending
    exact hascending
  · intro stretch hinfix hoperators
    have hlayered : Layered stretch.reverse :=
      h.layered.infix (by simpa using List.reverse_infix.mpr hinfix)
    have hstretch := hlayered.operators (by simpa using hoperators)
    rw [List.pairwise_reverse, List.length_reverse] at hstretch
    exact hstretch
  · have hlength := h.layered.length_le
    rw [← hopenings, List.length_reverse]
    omega

/-- **What waits in the yard waits in order.**  Behind any tokens of a text that are read without
a fault, the yard holds exactly the parentheses that are still open; between them operators bind
more and more strongly towards the top; and everything stands in the order of the text.  The
yard does not depend on what is done with the code, so this is so in an evaluation and in a
listing alike. -/
theorem waits_in_order {text : String} {before behind : List (Located Token)}
    (htokens : tokens text.toList = before ++ behind) {code : List (Located Postfix.Token)}
    {yard : Yard} (hfeed : Yard.feed [] before = (code, .ok yard)) :
    program text = (yard.run behind).after code ∧ WaitsInOrder before yard := by
  constructor
  · rw [program, htokens, Yard.run_append, hfeed]
  · have hpositions := pairwise_position_tokensFrom 0 text.toList
    rw [← tokens_eq_tokensFrom, htokens] at hpositions
    exact (Yard.Keeps.nil.feed hfeed).waitsInOrder (List.pairwise_append.mp hpositions).1

/-- The yard may be as full as that: with two parentheses open, eight things wait. -/
theorem waits_in_order_full :
    ∃ code yard, Yard.feed [] (tokens "(1)+2*(3-4%(5-6/7".toList) = (code, .ok yard) ∧
      yard.length = 8 ∧ stillOpen (tokens "(1)+2*(3-4%(5-6/7".toList) = [6, 11] ∧
      program "(1)+2*(3-4%(5-6/7)" = (yard.run [⟨17, .closing⟩]).after code ∧
      WaitsInOrder (tokens "(1)+2*(3-4%(5-6/7".toList) yard := by
  have htokens : tokens "(1)+2*(3-4%(5-6/7)".toList =
      tokens "(1)+2*(3-4%(5-6/7".toList ++ [⟨17, .closing⟩] := by decide +kernel
  have hfeed : Yard.feed [] (tokens "(1)+2*(3-4%(5-6/7".toList) =
      ((Yard.feed [] (tokens "(1)+2*(3-4%(5-6/7".toList)).1,
        .ok [⟨15, .operator .div⟩, ⟨13, .operator .sub⟩, ⟨11, .opening⟩, ⟨10, .operator .rem⟩,
          ⟨8, .operator .sub⟩, ⟨6, .opening⟩, ⟨5, .operator .mul⟩, ⟨3, .operator .add⟩]) := by
    decide +kernel
  have hopen : stillOpen (tokens "(1)+2*(3-4%(5-6/7".toList) = [6, 11] := by decide +kernel
  exact ⟨_, _, hfeed, rfl, hopen, waits_in_order htokens hfeed⟩

end Infix

end Calculator
