/-
The command line and the prompt agree.

An expression on the command line and the same expression at a prompt have the same value, or the
same fault.  Only the places of a fault differ, since a prompt counts them from behind the blanks
in front of the line.

* `Response.ofArguments_line` — a run at the prompt with a single line;
* `Mode.answer_rpn_append` — the line that shows an expression in postfix notation;
* `Agree` — a response and a reply say the same of a text;
* `command_line_agrees_with_prompt` — they do for all flags, all modes and all texts.

Design notes.  The command line joins its words and reads all of the text; a prompt trims a line,
and cuts a command at its first space.  That both find the same rests on `Mode.evaluate_trim` and
`Mode.toPostfix_trimEnd`.
-/
import Calculator.Proofs.CommandLine
import Calculator.Proofs.Session

namespace Calculator

/-! ### Runs of the program -/

section

variable {flags : Finset Flag} {options : List String} (h : Flag.Given options flags)

include h

theorem Invocation.ofArguments_options (hflags : flags ⊆ {.rpnEntry, .strict}) :
    ofArguments options = prompt (Mode.ofFlags flags) := by
  have hasks : Asks flags [] (options ++ []) := .direct h (by simp)
  rw [List.append_nil] at hasks
  rw [ofArguments_of_asks hasks (hflags.trans (by decide))]
  · rfl
  · rintro ⟨-, hconvert⟩
    exact absurd (hflags hconvert) (by decide)

/-- A run at the prompt with a single line prints the reply to it. -/
theorem Response.ofArguments_line (hflags : flags ⊆ {.rpnEntry, .strict}) {line : String}
    (hnewline : '\n' ∉ line.toList) (hbackspace : Text.backspace ∉ line.toList) :
    ofArguments options (line ++ "\n") =
      { exitCode := 0
        out := ((Mode.ofFlags flags).answer line).2.out
        err := ((Mode.ofFlags flags).answer line).2.err } := by
  have htyped : Text.typedLines (line ++ "\n").toList = [line.toList] := by
    have hline := @Text.typedLines_flatMap [line.toList] (by simp [hnewline, hbackspace])
    rw [List.flatMap_singleton] at hline
    rw [String.toList_append]
    exact hline
  rw [ofArguments, Invocation.ofArguments_options h hflags, ofInvocation, htyped,
    List.map_singleton, String.ofList_toList]
  simp [ofReplies, Mode.converse]

/-- A run with an expression prints its value behind the expression. -/
theorem Response.ofArguments_expression (hflags : flags ⊆ {.rpnEntry, .strict})
    (text input : String) :
    ofArguments (options ++ ["--", text]) input =
      ofResult (((Mode.ofFlags flags).evaluate text).map fun value => s!"{text} = {value}") := by
  have hasks : Asks flags [text] (options ++ "--" :: [text]) := .separated h
  have hconvert : .convert ∉ flags := fun hconvert => absurd (hflags hconvert) (by decide)
  rw [ofArguments, Invocation.ofArguments_of_asks hasks (hflags.trans (by decide))
    (fun hboth => hconvert hboth.2), Invocation.ofSet, if_neg (List.cons_ne_nil _ _),
    if_neg hconvert]
  rfl

/-- A run that shows an expression in postfix notation. -/
theorem Response.ofArguments_convert (hflags : flags ⊆ {.convert, .strict})
    (hconvert : .convert ∈ flags) (text input : String) :
    ofArguments (options ++ ["--", text]) input =
      ofResult ((Mode.ofFlags flags).toPostfix text) := by
  have hasks : Asks flags [text] (options ++ "--" :: [text]) := .separated h
  have hentry : .rpnEntry ∉ flags := fun hentry => absurd (hflags hentry) (by decide)
  rw [ofArguments, Invocation.ofArguments_of_asks hasks (hflags.trans (by decide))
    (fun hboth => hentry hboth.1), Invocation.ofSet, if_neg (List.cons_ne_nil _ _),
    if_pos hconvert]
  rfl

end

/-! ### The line that shows an expression in postfix notation -/

/-- The blanks in front of the expression are part of it, those behind it do not matter. -/
theorem Mode.answer_rpn_append (mode : Mode) (text : String) :
    mode.answer (":rpn " ++ text) = (mode, .ofResult (mode.toPostfix text)) := by
  have htrim : Text.trim (":rpn " ++ text).toList =
      if Text.trimEnd text.toList = [] then [':', 'r', 'p', 'n']
      else [':', 'r', 'p', 'n', ' '] ++ Text.trimEnd text.toList := by
    have hline : (":rpn " ++ text).toList = [':', 'r', 'p', 'n', ' '] ++ text.toList :=
      String.toList_append
    rw [hline]
    show Text.trim (':' :: ['r', 'p', 'n', ' '] ++ text.toList) = _
    rw [List.cons_append, Text.trim_cons (by decide), ← List.cons_append, Text.trimEnd_append]
    rfl
  have hname : Command.nameOf (":rpn " ++ text) = ":rpn" := by
    rw [Command.nameOf, htrim]
    split
    · rfl
    · rfl
  have hrest : ((Text.trim (":rpn " ++ text).toList).dropWhile (· ≠ ' ')).drop 1 =
      Text.trimEnd text.toList := by
    rw [htrim]
    split
    · next hnil =>
      rw [hnil]
      rfl
    · rfl
  rw [answer_convert hname, hrest, toPostfix_trimEnd]

/-! ### Agreement -/

/-- A response and a reply say the same of a text: they both give its value, or they both complain,
and the place in the complaint is counted by the response from `margin` places further in front. -/
structure Agree (text : String) (margin : Nat) (response : Response) (reply : Reply) : Prop where
  /-- One of both. -/
  settled : response.exitCode = 0 ∨ response.exitCode = 1
  answers : ∀ value : String,
    response = { exitCode := 0, out := text ++ " = " ++ value ++ "\n", err := "" } ↔
      reply = .answer value
  complains : response.exitCode = 1 ↔ ∃ complaint, reply = .complaint complaint
  places : response.exitCode = 1 → ∃ fault : Fault,
    response = { exitCode := 1, out := "",
                 err := "Error: " ++ (fault.move (· + margin)).message ++ "\n" } ∧
      reply = .complaint ("Error: " ++ fault.message)

theorem agree_ofResult (text : String) (margin : Nat) (result : Except Fault Value) :
    Agree text margin
      (Response.ofResult
        ((result.mapError (Fault.move (· + margin))).map fun value => s!"{text} = {value}"))
      (Reply.ofResult (result.map toString)) := by
  cases result with
  | ok value =>
    have hzero : Response.exitCode (.ofResult (.ok s!"{text} = {value}")) ≠ 1 := Nat.zero_ne_one
    refine ⟨.inl rfl, ?_, ?_, fun h => absurd h hzero⟩
    · intro printed
      constructor
      · intro h
        have hout : text ++ " = " ++ toString value ++ "\n" = text ++ " = " ++ printed ++ "\n" :=
          congrArg Response.out h
        have hvalue : toString value = printed := by simpa using hout
        exact congrArg Reply.answer hvalue
      · intro h
        obtain rfl : toString value = printed := Reply.answer.inj h
        rfl
    · refine ⟨fun h => absurd h hzero, ?_⟩
      rintro ⟨_, h⟩
      exact Reply.noConfusion h
  | error fault =>
    refine ⟨.inr rfl, ?_, ?_, fun _ => ⟨fault, rfl, rfl⟩⟩
    · intro printed
      constructor
      · intro h
        exact absurd (congrArg Response.exitCode h) Nat.one_ne_zero
      · intro h
        exact Reply.noConfusion h
    · exact ⟨fun _ => ⟨_, rfl⟩, fun _ => rfl⟩

/-- **The command line and the prompt agree.**  With flags that start a prompt, the replies to the
lines of a run are those of the mode that the flags ask for; and an expression behind the same
flags is answered like the line with that expression, in which places are counted from behind the
blanks in front.  With flags that ask for postfix notation, the expression behind them is answered
like the line that asks for the same, at any prompt with the same strictness. -/
theorem command_line_agrees_with_prompt {flags : Finset Flag} {options : List String}
    (h : Flag.Given options flags) (text input : String) :
    (flags ⊆ {.rpnEntry, .strict} →
      ('\n' ∉ text.toList → Text.backspace ∉ text.toList →
        Response.ofArguments options (text ++ "\n") =
          { exitCode := 0
            out := ((Mode.ofFlags flags).answer text).2.out
            err := ((Mode.ofFlags flags).answer text).2.err }) ∧
      (Text.trim text.toList ≠ [] → (Text.trim text.toList).head? ≠ some ':' →
        Agree text (Text.margin text.toList)
          (Response.ofArguments (options ++ ["--", text]) input)
          ((Mode.ofFlags flags).answer text).2)) ∧
    (flags ⊆ {.convert, .strict} → .convert ∈ flags →
      ∀ mode : Mode, (mode.strictness = .strict ↔ .strict ∈ flags) →
        (mode.answer (":rpn " ++ text)).1 = mode ∧
        (mode.answer (":rpn " ++ text)).2.out =
          (Response.ofArguments (options ++ ["--", text]) input).out ∧
        (mode.answer (":rpn " ++ text)).2.err =
          (Response.ofArguments (options ++ ["--", text]) input).err) := by
  refine ⟨fun hflags => ⟨?_, ?_⟩, ?_⟩
  · intro hnewline hbackspace
    exact Response.ofArguments_line h hflags hnewline hbackspace
  · intro hblank hcommand
    rw [Response.ofArguments_expression h hflags, Mode.answer_expression hblank hcommand,
      Mode.evaluate_trim]
    exact agree_ofResult _ _ _
  · intro hflags hconvert mode hstrictness
    have hmode : (Mode.ofFlags flags).strictness = mode.strictness := by
      cases hmode : mode.strictness with
      | strict => exact if_pos (hstrictness.mp hmode)
      | lenient => exact if_neg fun hstrict => by simp [hstrictness.mpr hstrict] at hmode
    have htoPostfix : (Mode.ofFlags flags).toPostfix text = mode.toPostfix text := by
      rw [Mode.toPostfix, Mode.toPostfix, hmode]
    rw [Response.ofArguments_convert h hflags hconvert, Mode.answer_rpn_append, htoPostfix]
    refine ⟨rfl, ?_⟩
    cases mode.toPostfix text with
    | ok listed => exact ⟨rfl, rfl⟩
    | error fault => exact ⟨rfl, rfl⟩

/-- A prompt counts from behind two blanks, unless it is asked for postfix notation. -/
theorem command_line_agrees_behind_blanks :
    Response.ofArguments ["-s"] "  (1+x)\n" =
        { exitCode := 0, out := "", err := "Error: invalid character 'x' at position 3\n" } ∧
      Agree "  (1+x)" 2 (Response.ofArguments ["-s", "--", "  (1+x)"] "")
        (Mode.answer ⟨.algebraic, .strict⟩ "  (1+x)").2 ∧
      Response.ofArguments ["-s", "--", "  (1+x)"] "" =
        { exitCode := 1, out := "", err := "Error: invalid character 'x' at position 5\n" } ∧
      (Mode.answer ⟨.rpn, .strict⟩ (":rpn " ++ "  (1+x)")).2.err =
        "Error: invalid character 'x' at position 5\n" := by
  have hstrict : Flag.Given ["-s"] {.strict} :=
    ⟨[[.strict]], .cons (@Argument.Spells.letters ['s'] _ (by decide) rfl) .nil, by decide,
      by decide⟩
  have hconvert : Flag.Given ["-sr"] {.strict, .convert} :=
    ⟨[[.strict, .convert]], .cons (@Argument.Spells.letters ['s', 'r'] _ (by decide) rfl) .nil,
      by decide, by decide⟩
  obtain ⟨hrun, hagree⟩ := (command_line_agrees_with_prompt hstrict "  (1+x)" "").1 (by decide)
  have hshown := (command_line_agrees_with_prompt hconvert "  (1+x)" "").2 (by decide) (by decide)
    ⟨.rpn, .strict⟩ (by decide)
  refine ⟨?_, hagree (by decide) (by decide), ?_, ?_⟩
  · refine (hrun (by decide) (by decide)).trans ?_
    decide +kernel
  · decide +kernel
  · refine hshown.2.2.trans ?_
    decide +kernel

end Calculator
