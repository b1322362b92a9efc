/-
Flags and words on the command line.

Flags can be spelled by their names or by their letters, apart or together, and in any order; the
first argument that is none of this begins the expression.

* `Argument.Spells`, `Argument.IsOption` — the spellings of flags, and all that is not a word;
* `Argument.ofString_eq_word_iff` — any other argument is a word;
* `Flag.Given` — arguments that give a set of flags;
* `Invocation.ofArguments_append` — what stands behind such arguments is read with these flags;
* `Response.ofArguments_eq_of_asks` — the response depends on the set of flags and on the words
  alone.

Design notes.  The spellings are written out by `Flag.name` and `Flag.letter?`, that is in the
direction opposite to the one in which arguments are read.
-/
import Mathlib.Data.Finset.Dedup
import Mathlib.Data.Finset.Insert
import Mathlib.Data.List.Forall2
import Calculator.CommandLine.Response

namespace Calculator

/-! ### Spellings -/

namespace Flag

/-- The name of a flag, which follows two hyphens. -/
def name : Flag → String
  | rpnEntry => "postfix"
  | strict => "strict"
  | convert => "rpn"
  | demo => "demo"
  | help => "help"
  | version => "version"

/-- The letter of a flag, if it has one.  It follows a single hyphen. -/
def letter? : Flag → Option Char
  | rpnEntry => some 'p'
  | strict => some 's'
  | convert => some 'r'
  | demo => none
  | help => some 'h'
  | version => some 'V'

theorem ofName?_eq_some_iff {text : String} {flag : Flag} :
    ofName? text = some flag ↔ text = flag.name := by
  constructor
  · intro h
    revert h
    fun_cases ofName? text <;> rintro ⟨⟩ <;> rfl
  · rintro rfl
    cases flag <;> rfl

theorem ofLetter?_eq_some_iff {c : Char} {flag : Flag} :
    ofLetter? c = some flag ↔ flag.letter? = some c := by
  constructor
  · intro h
    revert h
    fun_cases ofLetter? c <;> rintro ⟨⟩ <;> rfl
  · intro h
    cases flag <;> cases h <;> rfl

theorem mapM_ofLetter?_eq_some_iff {letters : List Char} {flags : List Flag} :
    letters.mapM ofLetter? = some flags ↔ flags.map letter? = letters.map some := by
  induction letters generalizing flags with
  | nil =>
    rw [List.mapM_nil, List.map_nil, List.map_eq_nil_iff]
    exact ⟨fun h => (Option.some.inj h).symm, fun h => h ▸ rfl⟩
  | cons c letters ih =>
    rw [List.mapM_cons, List.map_cons, List.map_eq_cons_iff]
    constructor
    · intro h
      obtain ⟨flag, hflag, h⟩ := Option.bind_eq_some_iff.mp h
      obtain ⟨rest, hrest, h⟩ := Option.bind_eq_some_iff.mp h
      exact ⟨flag, rest, (Option.some.inj h).symm, ofLetter?_eq_some_iff.mp hflag, ih.mp hrest⟩
    · rintro ⟨flag, rest, rfl, hflag, hrest⟩
      rw [ofLetter?_eq_some_iff.mpr hflag, ih.mpr hrest]
      rfl

theorem equals_notMem_name (flag : Flag) : '=' ∉ flag.name.toList := by
  cases flag <;> decide

end Flag

namespace Argument

/-- An argument that spells flags: one by its name, or some by their letters. -/
inductive Spells : String → List Flag → Prop
  | name (flag : Flag) : Spells ("--" ++ flag.name) [flag]
  | letters {letters : List Char} {flags : List Flag} :
      flags ≠ [] → flags.map Flag.letter? = letters.map some →
        Spells (String.ofList ('-' :: letters)) flags

/-- An argument that is not a word: two hyphens alone, the spelling of flags, or a name with a
value. -/
inductive IsOption : String → Prop
  | separator : IsOption "--"
  | flags {argument : String} {flags : List Flag} : Spells argument flags → IsOption argument
  | valued (flag : Flag) (value : String) : IsOption ("--" ++ flag.name ++ "=" ++ value)

theorem hyphen_notMem {letters : List Char} {flags : List Flag}
    (h : flags.map Flag.letter? = letters.map some) : '-' ∉ letters := by
  intro hmem
  have hhyphen : some '-' ∈ flags.map Flag.letter? := by
    rw [h]
    exact List.mem_map_of_mem hmem
  obtain ⟨flag, -, hflag⟩ := List.mem_map.mp hhyphen
  cases flag <;> exact absurd hflag (by decide)

theorem ofString_hyphen {text : List Char} (h : text.head? ≠ some '-') :
    ofString (String.ofList ('-' :: text)) = ofLetters text := by
  rw [ofString, String.toList_ofList]
  split
  · next heq =>
    obtain ⟨-, rfl⟩ := List.cons.inj heq
    exact absurd rfl h
  · next heq =>
    obtain ⟨-, rfl⟩ := List.cons.inj heq
    exact absurd rfl h
  · next heq => rw [(List.cons.inj heq).2]
  · next hnot => exact absurd rfl (hnot text)

theorem ofString_hyphens {text : List Char} (h : text ≠ []) :
    ofString (String.ofList ('-' :: '-' :: text)) = ofName text := by
  rw [ofString, String.toList_ofList]
  split
  · next heq => exact absurd (List.cons.inj (List.cons.inj heq).2).2 h
  · next heq => rw [(List.cons.inj (List.cons.inj heq).2).2]
  · next hnot heq => exact absurd (List.cons.inj heq).2.symm (hnot _)
  · next hnot => exact absurd rfl (hnot _)

theorem ofString_of_spells {argument : String} {flags : List Flag} (h : Spells argument flags) :
    ofString argument = .flags flags := by
  cases h with
  | name flag => cases flag <;> rfl
  | @letters letters _ hne hletters =>
    have hhead : letters.head? ≠ some '-' :=
      fun h => hyphen_notMem hletters (List.mem_of_mem_head? h)
    rw [ofString_hyphen hhead, ofLetters, Flag.mapM_ofLetter?_eq_some_iff.mpr hletters]
    cases flags with
    | nil => exact absurd rfl hne
    | cons flag flags => rfl

theorem name_eq (flag : Flag) :
    String.ofList ('-' :: '-' :: flag.name.toList) = "--" ++ flag.name := by
  apply String.toList_inj.mp
  simp [String.toList_append]

theorem valued_eq (flag : Flag) (value : List Char) :
    String.ofList ('-' :: '-' :: (flag.name.toList ++ '=' :: value)) =
      "--" ++ flag.name ++ "=" ++ String.ofList value := by
  apply String.toList_inj.mp
  simp [String.toList_append]

theorem ofString_valued (flag : Flag) (value : String) :
    ofString ("--" ++ flag.name ++ "=" ++ value) = .valued := by
  have hname : (flag.name.toList ++ '=' :: value.toList).takeWhile (· ≠ '=') =
      flag.name.toList := by
    rw [List.takeWhile_append_of_pos, List.takeWhile_cons_of_neg (by simp), List.append_nil]
    intro c hc
    exact decide_eq_true fun h => flag.equals_notMem_name (h ▸ hc)
  have htext := valued_eq flag value.toList
  rw [String.ofList_toList] at htext
  rw [← htext, ofString_hyphens (by simp), ofName, hname, String.ofList_toList,
    Flag.ofName?_eq_some_iff.mpr rfl]
  simp

theorem isOption_of_ofName {text : List Char} (h : ofName text ≠ .word) :
    IsOption (String.ofList ('-' :: '-' :: text)) := by
  have hoption {flag : Flag}
      (hflag : Flag.ofName? (String.ofList (text.takeWhile (· ≠ '='))) = some flag) :
      IsOption (String.ofList ('-' :: '-' :: text)) := by
    have hname : text.takeWhile (· ≠ '=') = flag.name.toList := by
      rw [← Flag.ofName?_eq_some_iff.mp hflag, String.toList_ofList]
    have hsplit := List.takeWhile_append_dropWhile (p := (· ≠ '=')) (l := text)
    rw [hname] at hsplit
    rw [← hsplit]
    -- a value stands behind the first equals sign
    cases hvalue : text.dropWhile (· ≠ '=') with
    | nil =>
      rw [List.append_nil, name_eq]
      exact .flags (.name flag)
    | cons c value =>
      have hc : c = '=' := by
        have hnot := List.head?_dropWhile_not (· ≠ '=') text
        rw [hvalue] at hnot
        simpa using hnot
      rw [hc, valued_eq]
      exact .valued flag _
  revert h
  fun_cases ofName text with
  | case1 flag hflag => exact fun _ => hoption hflag
  | case2 flag hflag => exact fun _ => hoption hflag
  | case3 => exact fun h => absurd rfl h

theorem isOption_of_ofLetters {text : List Char} (h : ofLetters text ≠ .word) :
    IsOption (String.ofList ('-' :: text)) := by
  revert h
  fun_cases ofLetters text with
  | case1 => exact fun h => absurd rfl h
  | case2 found hne hfound =>
    intro _
    exact .flags (.letters hne (Flag.mapM_ofLetter?_eq_some_iff.mp hfound))
  | case3 => exact fun h => absurd rfl h

theorem isOption_of_ofString {argument : String} (h : ofString argument ≠ .word) :
    IsOption argument := by
  have heq {text : List Char} (htext : argument.toList = text) :
      argument = String.ofList text := by
    rw [← htext, String.ofList_toList]
  revert h
  fun_cases ofString argument with
  | case1 htext =>
    rw [heq htext]
    exact fun _ => .separator
  | case2 text _ htext =>
    rw [heq htext]
    exact isOption_of_ofName
  | case3 text _ _ htext =>
    rw [heq htext]
    exact isOption_of_ofLetters
  | case4 => exact fun h => absurd rfl h

/-- **A word is what is no option.** -/
theorem ofString_eq_word_iff {argument : String} :
    ofString argument = .word ↔ ¬IsOption argument := by
  constructor
  · intro hword hoption
    cases hoption with
    | separator => exact absurd hword (by decide)
    | flags hspells =>
      rw [ofString_of_spells hspells] at hword
      exact absurd hword (by simp)
    | valued flag value =>
      rw [ofString_valued] at hword
      exact absurd hword (by simp)
  · intro hnot
    by_contra hword
    exact hnot (isOption_of_ofString hword)

end Argument

/-! ### Options in front of words -/

/-- Arguments that give a set of flags: they spell each of its flags once, one by one or some of
them together, in any order. -/
def Flag.Given (options : List String) (flags : Finset Flag) : Prop :=
  ∃ groups, List.Forall₂ Argument.Spells options groups ∧ groups.flatten.Nodup ∧
    groups.flatten.toFinset = flags

/-- The mode that a set of flags asks for. -/
def Mode.ofFlags (flags : Finset Flag) : Mode where
  entry := if .rpnEntry ∈ flags then .rpn else .algebraic
  strictness := if .strict ∈ flags then .strict else .lenient

/-- The command lines that put flags in front of the words of an expression.  Two hyphens may
stand between them, and have to if the first word would be taken as an option. -/
inductive Asks (flags : Finset Flag) (words : List String) : List String → Prop
  | separated {options : List String} :
      Flag.Given options flags → Asks flags words (options ++ "--" :: words)
  | direct {options : List String} :
      Flag.Given options flags → (∀ word ∈ words.head?, ¬Argument.IsOption word) →
        Asks flags words (options ++ words)

namespace Invocation

theorem take_cons {flag : Flag} (hhelp : flag ≠ .help) (hversion : flag ≠ .version)
    (given rest : List Flag) :
    take given (flag :: rest) =
      if flag ∈ given then .error misuse else take (flag :: given) rest := by
  rw [take]
  · exact hhelp
  · exact hversion

theorem take_eq_ok {given flags : List Flag} (hhelp : .help ∉ flags) (hversion : .version ∉ flags)
    (hnodup : (flags.reverse ++ given).Nodup) :
    take given flags = .ok (flags.reverse ++ given) := by
  induction flags generalizing given with
  | nil => rfl
  | cons flag flags ih =>
    obtain ⟨hhead, hhelp⟩ := not_or.mp (mt List.mem_cons.mpr hhelp)
    obtain ⟨hhead', hversion⟩ := not_or.mp (mt List.mem_cons.mpr hversion)
    rw [List.reverse_cons, List.append_assoc, List.singleton_append] at hnodup ⊢
    have hgiven : flag ∉ given :=
      (List.nodup_cons.mp (List.nodup_append.mp hnodup).2.1).1
    rw [take_cons (Ne.symm hhead) (Ne.symm hhead'), if_neg hgiven]
    exact ih hhelp hversion hnodup

theorem scan_append {options : List String} {groups : List (List Flag)}
    (h : List.Forall₂ Argument.Spells options groups) (hhelp : .help ∉ groups.flatten)
    (hversion : .version ∉ groups.flatten) {given : List Flag}
    (hnodup : (groups.flatten.reverse ++ given).Nodup) (rest : List String) :
    scan given (options ++ rest) = scan (groups.flatten.reverse ++ given) rest := by
  induction h generalizing given with
  | nil => rfl
  | @cons option flags options groups hspells _ ih =>
    rw [List.flatten_cons, List.mem_append, not_or] at hhelp hversion
    rw [List.flatten_cons, List.reverse_append, List.append_assoc] at hnodup ⊢
    have htake := take_eq_ok hhelp.1 hversion.1 (List.nodup_append.mp hnodup).2.1
    rw [List.cons_append, scan, Argument.ofString_of_spells hspells]
    simp only [htake]
    exact ih hhelp.2 hversion.2 hnodup

/-- **What stands behind the options is read with the flags that they give.** -/
theorem ofArguments_append {options : List String} {flags : Finset Flag}
    (h : Flag.Given options flags) (hhelp : .help ∉ flags) (hversion : .version ∉ flags)
    (rest : List String) :
    ∃ given : List Flag, given.toFinset = flags ∧
      ofArguments (options ++ rest) = scan given rest := by
  obtain ⟨groups, hspells, hnodup, rfl⟩ := h
  rw [List.mem_toFinset] at hhelp hversion
  refine ⟨groups.flatten.reverse ++ [], ?_, ?_⟩
  · rw [List.append_nil, List.toFinset_reverse]
  · apply scan_append hspells hhelp hversion
    rw [List.append_nil, List.nodup_reverse]
    exact hnodup

/-- What a set of flags asks for, with some words behind it. -/
def ofSet (flags : Finset Flag) (words : List String) : Invocation :=
  if words = [] then prompt (Mode.ofFlags flags)
  else if .convert ∈ flags then convert (Mode.ofFlags flags) (" ".intercalate words)
  else evaluate (Mode.ofFlags flags) (" ".intercalate words)

theorem ofFlags_eq_ofSet {given : List Flag}
    (hsubset : given.toFinset ⊆ {.rpnEntry, .strict, .convert})
    (hexclusive : ¬(.rpnEntry ∈ given.toFinset ∧ .convert ∈ given.toFinset))
    (words : List String) : ofFlags given words = ofSet given.toFinset words := by
  rw [List.mem_toFinset, List.mem_toFinset] at hexclusive
  have hdemo : .demo ∉ given := fun h => by
    have hmem := hsubset (List.mem_toFinset.mpr h)
    simp at hmem
  have hconflicting : conflicting given = false := by
    simp only [conflicting, hdemo, decide_false, Bool.false_and, Bool.or_false,
      Bool.and_eq_false_iff, decide_eq_false_iff_not]
    exact (Decidable.not_and_iff_or_not.mp hexclusive).symm
  have hmode : modeOf given = Mode.ofFlags given.toFinset := by
    simp only [modeOf, Mode.ofFlags, List.mem_toFinset]
  rw [ofFlags, hconflicting, if_neg Bool.false_ne_true, if_neg hdemo, hmode, ofSet]
  simp only [List.isEmpty_iff, List.mem_toFinset]

/-- **What a command line asks for** depends on the set of flags and on the words. -/
theorem ofArguments_of_asks {flags : Finset Flag} {words arguments : List String}
    (h : Asks flags words arguments) (hsubset : flags ⊆ {.rpnEntry, .strict, .convert})
    (hexclusive : ¬(.rpnEntry ∈ flags ∧ .convert ∈ flags)) :
    ofArguments arguments = ofSet flags words := by
  have hhelp : .help ∉ flags := fun h => by simpa using hsubset h
  have hversion : .version ∉ flags := fun h => by simpa using hsubset h
  cases h with
  | separated hoptions =>
    obtain ⟨given, rfl, harguments⟩ :=
      ofArguments_append hoptions hhelp hversion ("--" :: words)
    rw [harguments]
    exact ofFlags_eq_ofSet hsubset hexclusive words
  | direct hoptions hfirst =>
    obtain ⟨given, rfl, harguments⟩ := ofArguments_append hoptions hhelp hversion words
    rw [harguments, ← ofFlags_eq_ofSet hsubset hexclusive]
    cases words with
    | nil => rfl
    | cons word words =>
      rw [scan, Argument.ofString_eq_word_iff.mpr (hfirst word rfl)]

end Invocation

/-- What a set of flags asks to print of an expression: its value behind the expression itself,
or the expression in postfix notation. -/
def Flag.answer (flags : Finset Flag) (text : String) : Except Fault String :=
  let strictness : Infix.Strictness := if .strict ∈ flags then .strict else .lenient
  if .convert ∈ flags then (Infix.toPostfix strictness text).map Postfix.render
  else if .rpnEntry ∈ flags then
    (Postfix.evaluate text).outcome.map fun value => text ++ " = " ++ toString value
  else (Infix.evaluate strictness text).outcome.map fun value => text ++ " = " ++ toString value

theorem Response.ofInvocation_ofSet {words : List String} (hwords : words ≠ [])
    (flags : Finset Flag) (input : String) :
    ofInvocation input (.ofSet flags words) =
      ofResult (Flag.answer flags (" ".intercalate words)) := by
  rw [Invocation.ofSet, if_neg hwords]
  generalize " ".intercalate words = text
  by_cases hconvert : .convert ∈ flags
  · rw [if_pos hconvert, Flag.answer, if_pos hconvert]
    rfl
  · rw [if_neg hconvert, Flag.answer, if_neg hconvert, ofInvocation, Mode.evaluate]
    by_cases hentry : .rpnEntry ∈ flags
    · have hmode : (Mode.ofFlags flags).entry = .rpn := if_pos hentry
      rw [hmode, if_pos hentry]
      rfl
    · have hmode : (Mode.ofFlags flags).entry = .algebraic := if_neg hentry
      rw [hmode, if_neg hentry]
      rfl

/-- **The response to an expression** depends on the set of flags in front of it and on its words,
joined by single spaces.  It does not depend on the spelling, the grouping and the order of the
flags, and no word behind the first one is taken as a flag. -/
theorem Response.ofArguments_eq_of_asks {flags : Finset Flag} {words arguments : List String}
    (h : Asks flags words arguments) (hwords : words ≠ [])
    (hsubset : flags ⊆ {.rpnEntry, .strict, .convert})
    (hexclusive : ¬(.rpnEntry ∈ flags ∧ .convert ∈ flags)) (input : String) :
    ofArguments arguments input =
      match Flag.answer flags (" ".intercalate words) with
      | .ok line => { exitCode := 0, out := line ++ "\n", err := "" }
      | .error fault =>
        { exitCode := 1, out := "", err := "Error: " ++ fault.message ++ "\n" } := by
  rw [ofArguments, Invocation.ofArguments_of_asks h hsubset hexclusive, ofInvocation_ofSet hwords]
  cases Flag.answer flags (" ".intercalate words) with
  | ok line => rfl
  | error fault => rfl

/-- The letters of two flags stand together, in front of a negative number; two hyphens make a word
of what looks like a flag. -/
theorem Response.ofArguments_grouped_flags :
    ofArguments ["-sp", "-3", "4", "+"] "" =
        { exitCode := 0, out := "-3 4 + = 1\n", err := "" } ∧
      ofArguments ["--rpn", "--", "-s"] "" =
        { exitCode := 1, out := "", err := "Error: invalid character 's' at position 1\n" } := by
  have hgrouped : Flag.Given ["-sp"] {.strict, .rpnEntry} :=
    ⟨[[.strict, .rpnEntry]], .cons (@Argument.Spells.letters ['s', 'p'] _ (by decide) rfl) .nil,
      by decide, by decide⟩
  have hnumber : ∀ word ∈ ["-3", "4", "+"].head?, ¬Argument.IsOption word := by
    rintro _ ⟨⟩
    exact Argument.ofString_eq_word_iff.mp (by decide)
  have hconvert : Flag.Given ["--rpn"] {.convert} :=
    ⟨[[.convert]], .cons (.name .convert) .nil, by decide, by decide⟩
  constructor
  · have hasks : Asks {.strict, .rpnEntry} ["-3", "4", "+"] ["-sp", "-3", "4", "+"] :=
      .direct hgrouped hnumber
    rw [ofArguments_eq_of_asks hasks (by decide) (by decide) (by decide)]
    decide +kernel
  · have hasks : Asks {.convert} ["-s"] ["--rpn", "--", "-s"] := .separated hconvert
    rw [ofArguments_eq_of_asks hasks (by decide) (by decide) (by decide)]
    decide +kernel

end Calculator
