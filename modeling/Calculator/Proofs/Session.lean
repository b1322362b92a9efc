/-
Sessions have no hidden state.

The reply to a line depends on the trimmed text of the line and on the mode in front of it, and
each side of the mode was set by the last line that switches it.

* `Command.nameOf` — the text of a line up to its first space;
* `Mode.behind` — the mode behind some lines, as their names tell it;
* `Mode.fst_answer` — what a line leaves of the mode;
* `Mode.after_eq_behind`, `Mode.getElem?_converse` — what all lines leave of it, and the reply to
  each of them;
* `replies_depend_on_mode` — what a whole run at the prompt prints.

Design notes.  `Mode.behind` looks at the names of the lines alone, and at the two sides of the mode
one by one.  That no expression and no other command has a part in it is what has to be proved.
-/
import Calculator.CommandLine.Response
import Calculator.Proofs.Margins

namespace Calculator

/-- The text of a line up to its first space.  It names the command, if the line is one. -/
def Command.nameOf (line : String) : String :=
  String.ofList ((Text.trim line.toList).takeWhile (· ≠ ' '))

/-- The notation to which a name switches. -/
def Entry.ofName? : String → Option Entry
  | ":infix" => some .algebraic
  | ":postfix" => some .rpn
  | _ => none

/-- The strictness to which a name switches. -/
def Infix.Strictness.ofName? : String → Option Infix.Strictness
  | ":strict" => some .strict
  | ":lenient" => some .lenient
  | _ => none

/-- What the last line whose name is a choice chooses; without such a line, the initial choice. -/
def Command.lastChoice {α : Type} (choice? : String → Option α) (initial : α)
    (lines : List String) : α :=
  ((lines.map nameOf).filterMap choice?).getLast?.getD initial

theorem Command.lastChoice_concat {α : Type} (choice? : String → Option α) (initial : α)
    (lines : List String) (line : String) :
    lastChoice choice? initial (lines ++ [line]) =
      (choice? (nameOf line)).getD (lastChoice choice? initial lines) := by
  rw [lastChoice, lastChoice, List.map_append, List.map_singleton, List.filterMap_append,
    List.getLast?_append]
  cases hchoice : choice? (nameOf line) with
  | none =>
    rw [List.filterMap_cons_none hchoice]
    rfl
  | some a =>
    rw [List.filterMap_cons_some hchoice]
    rfl

namespace Mode

/-- The mode behind some lines: on each side, what the last line that switches it chooses. -/
def behind (mode : Mode) (lines : List String) : Mode where
  entry := Command.lastChoice Entry.ofName? mode.entry lines
  strictness := Command.lastChoice Infix.Strictness.ofName? mode.strictness lines

/-- The reply to a line with the given trimmed text. -/
def reply (mode : Mode) (text : List Char) : Reply := (mode.answer (String.ofList text)).2

/-- The mode that some lines leave. -/
def after (mode : Mode) (lines : List String) : Mode :=
  lines.foldl (fun mode line => (mode.answer line).1) mode

/-! ### One line -/

/-- The blanks at the ends of a line do not matter. -/
theorem answer_trim (mode : Mode) (line : String) :
    mode.answer (String.ofList (Text.trim line.toList)) = mode.answer line := by
  rw [answer, answer, String.toList_ofList, Text.trim_trim]

theorem reply_trim (mode : Mode) (line : String) :
    mode.reply (Text.trim line.toList) = (mode.answer line).2 :=
  congrArg Prod.snd (mode.answer_trim line)

/-- What a name leaves of a mode. -/
def switched (mode : Mode) (name : String) : Mode where
  entry := (Entry.ofName? name).getD mode.entry
  strictness := (Infix.Strictness.ofName? name).getD mode.strictness

theorem switched_eq_self {name : String}
    (h : name ∉ [":infix", ":postfix", ":strict", ":lenient"]) (mode : Mode) :
    mode.switched name = mode := by
  simp only [List.mem_cons, List.not_mem_nil, or_false, not_or] at h
  obtain ⟨halgebraic, hrpn, hstrict, hlenient⟩ := h
  have hentry : Entry.ofName? name = none := by
    fun_cases Entry.ofName? name <;> trivial
  have hstrictness : Infix.Strictness.ofName? name = none := by
    fun_cases Infix.Strictness.ofName? name <;> trivial
  rw [switched, hentry, hstrictness, Option.getD_none, Option.getD_none]

theorem fst_obey_ofText (mode : Mode) (text : List Char) :
    (mode.obey (Command.ofText text)).1 =
      mode.switched (String.ofList (text.takeWhile (· ≠ ' '))) := by
  rw [Command.ofText]
  generalize String.ofList (text.takeWhile (· ≠ ' ')) = name
  split
  · rfl
  · rfl
  · rfl
  · rfl
  · rfl
  · rfl
  · next halgebraic hrpn hstrict hlenient _ _ =>
    have hname : name ∉ [":infix", ":postfix", ":strict", ":lenient"] := by
      simp only [List.mem_cons, List.not_mem_nil, or_false, not_or]
      exact ⟨halgebraic, hrpn, hstrict, hlenient⟩
    rw [switched_eq_self hname]
    rfl

/-- A line whose name begins with a colon is a command. -/
theorem head?_trim_of_nameOf {line : String}
    (h : (Command.nameOf line).toList.head? = some ':') :
    (Text.trim line.toList).head? = some ':' := by
  rw [Command.nameOf, String.toList_ofList, List.head?_takeWhile] at h
  exact Option.eq_some_of_filter_eq_some h

/-- A line that is no command switches nothing. -/
theorem nameOf_notMem {line : String} (h : (Text.trim line.toList).head? ≠ some ':') :
    Command.nameOf line ∉ [":infix", ":postfix", ":strict", ":lenient"] := by
  intro hmem
  have hcolon : ∀ name ∈ [":infix", ":postfix", ":strict", ":lenient"],
      name.toList.head? = some ':' := by decide
  exact h (head?_trim_of_nameOf (hcolon _ hmem))

/-- **What a line leaves of the mode** is told by its name. -/
theorem fst_answer (mode : Mode) (line : String) :
    (mode.answer line).1 = mode.switched (Command.nameOf line) := by
  rw [answer, Command.nameOf]
  split
  · next htrim =>
    rw [htrim]
    rfl
  · next rest htrim =>
    rw [htrim]
    exact mode.fst_obey_ofText (':' :: rest)
  · next hnil hcommand =>
    refine (switched_eq_self (nameOf_notMem ?_) mode).symm
    intro hhead
    obtain ⟨rest, htrim⟩ := List.head?_eq_some_iff.mp hhead
    exact hcommand rest htrim

/-- The line that asks for a conversion is answered with the text behind its first space, in
postfix notation. -/
theorem answer_convert {line : String} (h : Command.nameOf line = ":rpn") (mode : Mode) :
    mode.answer line =
      (mode, .ofResult (mode.toPostfix
        (String.ofList (((Text.trim line.toList).dropWhile (· ≠ ' ')).drop 1)))) := by
  have hhead : (Command.nameOf line).toList.head? = some ':' := by
    rw [h]
    rfl
  obtain ⟨rest, htrim⟩ := List.head?_eq_some_iff.mp (head?_trim_of_nameOf hhead)
  rw [Command.nameOf, htrim] at h
  rw [answer, htrim]
  show mode.obey (Command.ofText (':' :: rest)) = _
  rw [Command.ofText, h]
  rfl

/-- A line that is neither blank nor a command is answered with the value of its trimmed text. -/
theorem answer_expression {line : String} (hblank : Text.trim line.toList ≠ [])
    (hcommand : (Text.trim line.toList).head? ≠ some ':') (mode : Mode) :
    mode.answer line =
      (mode, .ofResult
        ((mode.evaluate (String.ofList (Text.trim line.toList))).map toString)) := by
  rw [answer]
  split
  · next htrim => exact absurd htrim hblank
  · next rest htrim =>
    rw [htrim] at hcommand
    exact absurd rfl hcommand
  · rfl

/-- In postfix notation, the strictness has no part in the reply to an expression. -/
theorem snd_answer_rpn {line : String} (hcommand : (Text.trim line.toList).head? ≠ some ':')
    (strictness strictness' : Infix.Strictness) :
    (answer ⟨.rpn, strictness⟩ line).2 = (answer ⟨.rpn, strictness'⟩ line).2 := by
  by_cases hblank : Text.trim line.toList = []
  · rw [answer, answer, hblank]
  · rw [answer_expression hblank hcommand, answer_expression hblank hcommand]
    rfl

/-! ### All lines -/

/-- **What some lines leave of the mode**, told by their names. -/
theorem after_eq_behind (mode : Mode) (lines : List String) :
    mode.after lines = mode.behind lines := by
  -- on the last line, which decides
  induction lines using List.reverseRecOn with
  | nil => rfl
  | append_singleton lines line ih =>
    have hstep : mode.after (lines ++ [line]) =
        (mode.behind lines).switched (Command.nameOf line) := by
      rw [← ih, ← fst_answer]
      exact List.foldl_concat _ mode line lines
    rw [hstep, switched, behind, behind, Command.lastChoice_concat, Command.lastChoice_concat]

/-- **The reply to each line of a session** is that of the mode behind the lines in front. -/
theorem getElem?_converse (mode : Mode) (lines : List String) (k : Nat) :
    (mode.converse lines)[k]? =
      lines[k]?.map fun line => ((mode.after (lines.take k)).answer line).2 := by
  induction lines generalizing mode k with
  | nil => rfl
  | cons line lines ih =>
    cases k with
    | zero => rfl
    | succ k => exact ih (mode.answer line).1 k

theorem length_converse (mode : Mode) (lines : List String) :
    (mode.converse lines).length = lines.length := by
  induction lines generalizing mode with
  | nil => rfl
  | cons line lines ih => exact congrArg Nat.succ (ih (mode.answer line).1)

end Mode

/-! ### Runs -/

namespace Text

theorem lines_append_newline {line : List Char} (h : '\n' ∉ line) (rest : List Char) :
    lines (line ++ '\n' :: rest) = line :: lines rest := by
  induction line with
  | nil => rfl
  | cons c line ih =>
    obtain ⟨hc, hline⟩ := not_or.mp (mt List.mem_cons.mpr h)
    rw [List.cons_append, lines, if_neg (Ne.symm hc), ih hline]

/-- Lines that were typed without a mistake reach the session as they are. -/
theorem typedLines_flatMap {typed : List (List Char)}
    (h : ∀ line ∈ typed, '\n' ∉ line ∧ backspace ∉ line) :
    typedLines (typed.flatMap (· ++ ['\n'])) = typed := by
  induction typed with
  | nil => rfl
  | cons line typed ih =>
    obtain ⟨⟨hnewline, hbackspace⟩, htyped⟩ := List.forall_mem_cons.mp h
    have hlines := lines_append_newline hnewline (typed.flatMap (· ++ ['\n']))
    rw [List.flatMap_cons, List.append_assoc, List.singleton_append, typedLines, hlines,
      List.map_cons, applyBackspaces_of_not_mem hbackspace]
    exact congrArg (line :: ·) (ih htyped)

end Text

/-- **A session has no hidden state.**  The reply to a line is that to its trimmed text in the mode
behind the lines in front of it; only four names switch the mode; in postfix notation the
strictness has no part in the reply to an expression, and the notation never has one in a
conversion.  The run writes its replies one after the other, and ends well. -/
theorem replies_depend_on_mode (mode : Mode) (lines : List String) :
    (mode.converse lines).length = lines.length ∧
    (∀ k line, lines[k]? = some line →
      (mode.converse lines)[k]? =
        some ((mode.behind (lines.take k)).reply (Text.trim line.toList))) ∧
    (∀ line, Command.nameOf line ∉ [":infix", ":postfix", ":strict", ":lenient"] →
      ∀ mode' : Mode, (mode'.answer line).1 = mode') ∧
    (∀ line : String, (Text.trim line.toList).head? ≠ some ':' → ∀ strictness strictness',
      Mode.reply ⟨.rpn, strictness⟩ (Text.trim line.toList) =
        Mode.reply ⟨.rpn, strictness'⟩ (Text.trim line.toList)) ∧
    (∀ line, Command.nameOf line = ":rpn" → ∀ entry entry' strictness,
      Mode.reply ⟨entry, strictness⟩ (Text.trim line.toList) =
        Mode.reply ⟨entry', strictness⟩ (Text.trim line.toList)) ∧
    ∀ input : String, Text.typedLines input.toList = lines.map String.toList →
      Response.ofInvocation input (.prompt mode) =
        { exitCode := 0
          out := String.join ((mode.converse lines).map Reply.out)
          err := String.join ((mode.converse lines).map Reply.err) } := by
  refine ⟨mode.length_converse lines, ?_, ?_, ?_, ?_, ?_⟩
  · intro k line hline
    rw [mode.getElem?_converse, hline, Option.map_some, Mode.reply_trim, mode.after_eq_behind]
  · intro line hname mode'
    rw [mode'.fst_answer, Mode.switched_eq_self hname]
  · intro line hhead strictness strictness'
    rw [Mode.reply_trim, Mode.reply_trim]
    exact Mode.snd_answer_rpn hhead strictness strictness'
  · intro line hname entry entry' strictness
    rw [Mode.reply_trim, Mode.reply_trim, Mode.answer_convert hname, Mode.answer_convert hname]
    rfl
  · intro input hinput
    have hlines : (Text.typedLines input.toList).map String.ofList = lines := by
      rw [hinput, List.map_map]
      exact List.map_id'' (fun _ => String.ofList_toList) lines
    rw [Response.ofInvocation, hlines]
    rfl

/-- Both switches still count for the last lines, whatever was said in between. -/
theorem replies_behind_switches :
    let lines := [":postfix", ":strict now", " 1 2 + ", ":rpn (1+2)", ":infix", "1+2"]
    let mode : Mode := ⟨.algebraic, .lenient⟩
    (mode.converse lines)[2]? = some (Mode.reply ⟨.rpn, .strict⟩ ['1', ' ', '2', ' ', '+']) ∧
      (Mode.answer ⟨.rpn, .strict⟩ ":rpn (1+2)").1 = ⟨.rpn, .strict⟩ ∧
      Mode.reply ⟨.rpn, .strict⟩ ['1', ' ', '2', ' ', '+'] =
        Mode.reply ⟨.rpn, .lenient⟩ ['1', ' ', '2', ' ', '+'] ∧
      Mode.reply ⟨.rpn, .strict⟩ ":rpn (1+2)".toList =
        Mode.reply ⟨.algebraic, .strict⟩ ":rpn (1+2)".toList ∧
      Response.ofInvocation (String.join (lines.map (· ++ "\n"))) (.prompt mode) =
        { exitCode := 0
          out := "3\n1 2 +\n"
          err := "Error: expression must contain parentheses\n" } := by
  intro lines mode
  obtain ⟨-, hreply, hmode, hstrictness, hentry, hrun⟩ := replies_depend_on_mode mode lines
  have htrim : Text.trim " 1 2 + ".toList = ['1', ' ', '2', ' ', '+'] := by decide +kernel
  have hconvert : Text.trim ":rpn (1+2)".toList = ":rpn (1+2)".toList := by decide +kernel
  have hbehind : mode.behind (lines.take 2) = ⟨.rpn, .strict⟩ := by decide +kernel
  refine ⟨?_, ?_, ?_, ?_, ?_⟩
  · rw [← hbehind, ← htrim]
    exact hreply 2 " 1 2 + " rfl
  · exact hmode ":rpn (1+2)" (by decide +kernel) ⟨.rpn, .strict⟩
  · rw [← htrim]
    exact hstrictness " 1 2 + " (by decide +kernel) .strict .lenient
  · rw [← hconvert]
    exact hentry ":rpn (1+2)" (by decide +kernel) .rpn .algebraic .strict
  · have hinput : (String.join (lines.map (· ++ "\n"))).toList =
        (lines.map String.toList).flatMap (· ++ ['\n']) := by decide +kernel
    rw [hrun _ (by rw [hinput, Text.typedLines_flatMap (by decide)])]
    decide +kernel

end Calculator
