/-
What goes into the yard comes out.

* `Yard.Reads.conserves` — one token: its value leaves for the code at once, and its operator
  waits or leaves like those in front of it;
* `Yard.run_conserves` — if the tokens are read to their end then the code has their values in
  their order, and their operators each once, every one with the position of its token;
* `Yard.operators_run_subset`, `Yard.fault_run_cases` — what can be said if they are not: where the
  operators in the code come from, and at which token the reading stops.

Design notes.  `Located.pick` takes the values or the operators out of a list of tokens, of
code or of a yard, so that all of them can be compared.  Operators only come out as a
permutation: that is what the yard is for.
-/
import Calculator.Proofs.Infix.Yard

namespace Calculator

/-- The items for which a function has a result, replaced by that result. -/
def Located.pick {α β : Type} (g : α → Option β) (xs : List (Located α)) : List (Located β) :=
  xs.filterMap fun x => (g x.item).map (Located.mk x.position)

namespace Located

variable {α β : Type} {g : α → Option β}

@[simp] theorem pick_nil : pick g [] = [] := rfl

theorem pick_cons (x : Located α) (xs : List (Located α)) :
    pick g (x :: xs) = ((g x.item).map (Located.mk x.position)).toList ++ pick g xs := by
  rw [pick, List.filterMap_cons]
  cases g x.item with
  | none => rfl
  | some b => rfl

@[simp] theorem pick_append (xs ys : List (Located α)) :
    pick g (xs ++ ys) = pick g xs ++ pick g ys :=
  List.filterMap_append

theorem length_pick (g : α → Option β) (xs : List (Located α)) :
    (pick g xs).length = xs.countP fun x => (g x.item).isSome := by
  induction xs with
  | nil => rfl
  | cons x xs ih =>
    rw [pick_cons, List.length_append, ih, List.countP_cons]
    cases g x.item with
    | none => simp
    | some b => simp [Nat.add_comm]

theorem mem_pick_iff {xs : List (Located α)} {position : Nat} {b : β} :
    ⟨position, b⟩ ∈ pick g xs ↔ ∃ a, ⟨position, a⟩ ∈ xs ∧ g a = some b := by
  rw [pick, List.mem_filterMap]
  constructor
  · rintro ⟨⟨position', a⟩, hmem, ha⟩
    obtain ⟨b', hb', hlocated⟩ := Option.map_eq_some_iff.mp ha
    obtain ⟨rfl, rfl⟩ := Located.mk.inj hlocated
    exact ⟨a, hmem, hb'⟩
  · rintro ⟨a, hmem, ha⟩
    exact ⟨⟨position, a⟩, hmem, by rw [ha]; rfl⟩

theorem map_item_pick (g : α → Option β) (xs : List (Located α)) :
    (pick g xs).map item = (xs.map item).filterMap g := by
  rw [pick, List.map_filterMap, List.filterMap_map]
  congr 1
  funext x
  rw [Option.map_map]
  exact Option.map_id'

/-- Picking keeps items in order of their positions, so no item is picked twice. -/
theorem nodup_pick (g : α → Option β) {xs : List (Located α)}
    (h : xs.Pairwise fun a b => a.position < b.position) : (pick g xs).Nodup := by
  have hpick : (pick g xs).Pairwise fun a b => a.position < b.position := by
    refine h.filterMap _ ?_
    rintro x y hlt _ hx _ hy
    obtain ⟨a, -, rfl⟩ := Option.map_eq_some_iff.mp hx
    obtain ⟨b, -, rfl⟩ := Option.map_eq_some_iff.mp hy
    exact hlt
  refine hpick.imp ?_
  rintro a _ hlt rfl
  exact absurd hlt (Nat.lt_irrefl _)

end Located

open Located (pick pick_cons pick_append)

namespace Infix

def Pending.operator? : Pending → Option Operator
  | opening => none
  | operator op => some op

def Token.value? : Token → Option Value
  | number digits => Value.ofInt? (Text.natOfDigits digits)
  | _ => none

def Token.operator? : Token → Option Operator
  | operator op => some op
  | _ => none

/-- A token that has a meaning in an expression: no stray character, and no number that is no
value. -/
def Token.Meaningful : Token → Prop
  | number digits => Value.InRange (Text.natOfDigits digits)
  | stray _ => False
  | _ => True

namespace Yard

theorem release_conserves (p : Operator → Bool) (yard : Yard) :
    pick Postfix.Token.value? (release p yard).1 = [] ∧
      pick Postfix.Token.operator? (release p yard).1 ++
        pick Pending.operator? (release p yard).2 = pick Pending.operator? yard := by
  induction yard with
  | nil => exact ⟨rfl, rfl⟩
  | cons waiting yard ih =>
    obtain ⟨position, _ | op⟩ := waiting
    · exact ⟨rfl, rfl⟩
    · obtain ⟨hvalues, hoperators⟩ := ih
      cases hp : p op with
      | true =>
        rw [release_operator_of_pos hp]
        refine ⟨hvalues, ?_⟩
        rw [pick_cons, pick_cons, List.append_assoc, hoperators]
        rfl
      | false =>
        rw [release_operator_of_neg hp]
        exact ⟨rfl, rfl⟩

theorem Reads.conserves {yard yard' : Yard} {token : Located Token}
    {code : List (Located Postfix.Token)} (h : Reads yard token code yard') :
    token.item.Meaningful ∧
      pick Postfix.Token.value? code = pick Token.value? [token] ∧
      (pick Postfix.Token.operator? code ++ pick Pending.operator? yard').Perm
        (pick Pending.operator? yard ++ pick Token.operator? [token]) := by
  cases h with
  | @number position digits value hvalue =>
    refine ⟨?_, ?_, ?_⟩
    · show Value.InRange (Text.natOfDigits digits)
      rw [← Value.ofInt?_eq_some_iff.mp hvalue]
      exact ⟨value.least_le, value.le_greatest⟩
    · rw [pick_cons, pick_cons]
      show _ = ((Value.ofInt? _).map _).toList ++ _
      rw [hvalue]
      rfl
    · exact List.Perm.of_eq (List.append_nil _).symm
  | @operator position op code behind hrelease =>
    obtain ⟨hvalues, hoperators⟩ :=
      yard.release_conserves fun waiting => op.precedence ≤ waiting.precedence
    rw [hrelease] at hvalues hoperators
    refine ⟨trivial, hvalues, ?_⟩
    -- what leaves stands in front of the new operator, and what stays stands behind it
    rw [← hoperators, List.append_assoc]
    refine List.Perm.append_left _ ?_
    exact (List.perm_append_singleton (⟨position, op⟩ : Located Operator) _).symm
  | opening => exact ⟨trivial, rfl, List.Perm.of_eq (List.append_nil _).symm⟩
  | closing hrelease =>
    obtain ⟨hvalues, hoperators⟩ := yard.release_conserves fun _ => true
    rw [hrelease] at hvalues hoperators
    refine ⟨trivial, hvalues, ?_⟩
    rw [← hoperators]
    exact List.Perm.of_eq (List.append_nil _).symm

/-- **Nothing is lost, added or invented.**  Tokens that are read to their end have a meaning,
and their values and operators are those of the code. -/
theorem run_conserves {yard : Yard} {tokens : List (Located Token)}
    (h : (run yard tokens).fault = none) :
    (∀ token ∈ tokens, token.item.Meaningful) ∧
      pick Postfix.Token.value? (run yard tokens).code = pick Token.value? tokens ∧
      (pick Postfix.Token.operator? (run yard tokens).code).Perm
        (pick Pending.operator? yard ++ pick Token.operator? tokens) := by
  induction tokens generalizing yard with
  | nil =>
    obtain ⟨hvalues, hoperators⟩ := yard.release_conserves fun _ => true
    rw [release_of_fault_run_nil h] at hvalues hoperators
    refine ⟨by simp, hvalues, ?_⟩
    rw [← hoperators]
    exact List.Perm.of_eq (by simp)
  | cons token tokens ih =>
    obtain ⟨code, yard', hreads, hfault, hrun⟩ := reads_of_fault_run_cons h
    obtain ⟨hmeaning, hvalue, hoperator⟩ := hreads.conserves
    obtain ⟨hmeanings, hvalues, hoperators⟩ := ih hfault
    rw [hrun, Postfix.Program.after]
    refine ⟨List.forall_mem_cons.mpr ⟨hmeaning, hmeanings⟩, ?_, ?_⟩
    · rw [pick_append, hvalue, hvalues, ← pick_append, List.singleton_append]
    · have hcons := @pick_append _ _ Token.operator? [token] tokens
      rw [List.singleton_append] at hcons
      rw [pick_append, hcons, ← List.append_assoc]
      refine (List.Perm.append_left _ hoperators).trans ?_
      rw [← List.append_assoc]
      exact hoperator.append_right _

/-- Operators are not invented either when the reading stops: those in the code waited in the yard
or are among the tokens. -/
theorem operators_run_subset (yard : Yard) (tokens : List (Located Token)) :
    pick Postfix.Token.operator? (run yard tokens).code ⊆
      pick Pending.operator? yard ++ pick Token.operator? tokens := by
  have hrelease : ∀ yard : Yard,
      pick Postfix.Token.operator? (yard.release fun _ => true).1 ⊆
        pick Pending.operator? yard := by
    intro yard
    rw [← (yard.release_conserves fun _ => true).2]
    exact List.subset_append_left _ _
  induction tokens generalizing yard with
  | nil =>
    have hdrain := hrelease yard
    rw [run, Located.pick_nil, List.append_nil]
    rcases release_true yard with ⟨code, hnil⟩ | ⟨code, position, behind, hcons⟩
    · rwa [drain_of_nil hnil, ← show (yard.release fun _ => true).1 = code by rw [hnil]]
    · rwa [drain_of_cons hcons, ← show (yard.release fun _ => true).1 = code by rw [hcons]]
  | cons token tokens ih =>
    have hcons := @pick_append _ _ Token.operator? [token] tokens
    rw [List.singleton_append] at hcons
    rcases hstep : yard.step token with ⟨code, fault | yard'⟩
    · rw [run_cons_of_error hstep, Postfix.Program.after, Postfix.Program.failed,
        List.append_nil]
      cases refuses_of_step hstep with
      | unreadable => exact List.nil_subset _
      | closing hnil =>
        have hclosing := hrelease yard
        rw [hnil] at hclosing
        exact List.subset_append_of_subset_left _ hclosing
    · rw [run_cons_of_ok hstep, Postfix.Program.after, pick_append, hcons, ← List.append_assoc]
      obtain ⟨-, -, hperm⟩ := (step_eq_ok_iff.mp hstep).conserves
      -- what leaves with this token and what stays was there or is the token
      have hsubset := hperm.subset
      refine List.append_subset.mpr ⟨?_, ?_⟩
      · exact List.subset_append_of_subset_left _
          (List.Subset.trans (List.subset_append_left _ _) hsubset)
      · refine List.Subset.trans (ih yard') (List.append_subset.mpr ⟨?_, ?_⟩)
        · exact List.subset_append_of_subset_left _
            (List.Subset.trans (List.subset_append_right _ _) hsubset)
        · exact List.subset_append_right _ _

/-- Reading stops at the first token that has no meaning, unless a parenthesis without its partner
comes before it. -/
theorem fault_run_cases {yard : Yard} {tokens : List (Located Token)} {fault : Fault}
    (h : (run yard tokens).fault = some fault) :
    (∃ position, fault = .unbalancedParen position) ∨
      ∃ before token after, tokens = before ++ token :: after ∧
        (∀ t ∈ before, t.item.Meaningful) ∧ Unreadable token fault := by
  induction tokens generalizing yard with
  | nil =>
    rw [run] at h
    rcases release_true yard with ⟨code, hnil⟩ | ⟨code, position, behind, hcons⟩
    · rw [drain_of_nil hnil] at h
      exact absurd h (by simp)
    · rw [drain_of_cons hcons] at h
      exact .inl ⟨position, (Option.some.inj h).symm⟩
  | cons token tokens ih =>
    rcases hstep : yard.step token with ⟨code, fault' | yard'⟩
    · rw [run_cons_of_error hstep] at h
      obtain rfl := Option.some.inj h
      cases refuses_of_step hstep with
      | unreadable hunreadable => exact .inr ⟨[], token, tokens, rfl, by simp, hunreadable⟩
      | @closing position _ _ => exact .inl ⟨position, rfl⟩
    · rw [run_cons_of_ok hstep] at h
      obtain ⟨hmeaning, -, -⟩ := (step_eq_ok_iff.mp hstep).conserves
      rcases ih h with hunbalanced | ⟨before, first, after, rfl, hbefore, hunreadable⟩
      · exact .inl hunbalanced
      · exact .inr ⟨token :: before, first, after, rfl,
          List.forall_mem_cons.mpr ⟨hmeaning, hbefore⟩, hunreadable⟩

end Yard

end Infix

end Calculator
