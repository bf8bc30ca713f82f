import Formulary.Command.Basic
import Formulary.Proofs.Command.Words
import Formulary.Proofs.Text.Classes

/-!
# Requests among the words of a command line

The words of a command line name a command, perhaps behind the document of settings, and what it
compiles.  A request that is read from the words has what they name.

* `commandWords` — the words from the name of the command on;
* `namedDocument`, `namedColumns`, `namedText` — what the words name;
* `CommandLine.ofWords_eq_request` — a request has the arguments and the document that are named;
* `namedColumns_of_ofWords`, `namedText_of_predicate`, `namedText_of_rollup` — its command has what
  is named for it.
-/

namespace Formulary

/-! ## What is named -/

/-- The words from the name of the command on; only one option may stand before it. -/
def commandWords : List String → List String
  | [] => []
  | "--config" :: _ :: rest => commandWords rest
  | word :: rest =>
    if (attachedValue? "config" word).isSome then commandWords rest else word :: rest

/-- The columns that the words of a command line name, for the one command that takes them. -/
def namedColumns (words : List String) : List String :=
  match commandWords words with
  | "sql" :: rest => optionValues "column" rest
  | _ => []

/-- The document that the words of a command line name: behind the name of the command, or else
before it. -/
def namedDocument (words : List String) : Option String :=
  (optionValues "config" (commandWords words)).head?.or (optionValues "config" words).head?

/-- The text that the words of a command line have compiled: a formula, or the filter of a rollup
unless it has only blanks. -/
def namedText (words : List String) : Option String :=
  match commandWords words with
  | "sql" :: rest => (plainWords ["column", "config"] false rest).head?
  | "rollup" :: rest =>
    (optionValues "filter" rest).head?.filter fun text => ¬ Text.AllWhite text
  | _ => none

/-! ## From words to commands -/

namespace Command

/-- The columns that are named for a command. -/
def namedColumns : Command → List String
  | .predicate _ columns => columns
  | _ => []

/-- Two commands have something compiled, and each has it from its arguments. -/
def Compiles (name : String) (arguments : Arguments) : Command → Prop
  | .predicate formula columns =>
    name = "sql" ∧ arguments.words.head? = some formula ∧ arguments.values "column" = columns
  | .rollup _ _ _ _ filter _ => name = "rollup" ∧ arguments.value? "filter" = filter
  | _ => name ≠ "sql" ∧ name ≠ "rollup"

theorem compiles_of_ofArguments {name : String} {arguments : Arguments} {command : Command}
    (h : ofArguments name arguments = .ok command) : command.Compiles name arguments := by
  have hbind : ∀ {α : Type} {x : Except UsageError α} {f : α → Except UsageError Command},
      (x >>= f) = .ok command → ∃ a, x = .ok a ∧ f a = .ok command := by
    intro α x f hx
    cases x with
    | error e => cases hx
    | ok a => exact ⟨a, rfl, hx⟩
  unfold ofArguments at h
  split at h
  case h_1 | h_2 | h_6 =>
    obtain ⟨_, -, h⟩ := hbind h
    obtain rfl := Except.ok.inj h
    exact ⟨by decide, by decide⟩
  case h_3 =>
    obtain ⟨formula, hformula, h⟩ := hbind h
    obtain rfl := Except.ok.inj h
    refine ⟨rfl, ?_, rfl⟩
    unfold Arguments.requireWord at hformula
    split at hformula
    · cases hformula
    · next hwords =>
      obtain rfl := Except.ok.inj hformula
      rw [hwords]
      rfl
  case h_4 =>
    obtain rfl := Except.ok.inj h
    exact ⟨by decide, by decide⟩
  case h_5 =>
    obtain ⟨_, -, h⟩ := hbind h
    obtain ⟨_, -, h⟩ := hbind h
    obtain ⟨_, -, h⟩ := hbind h
    obtain ⟨_, -, h⟩ := hbind h
    obtain rfl := Except.ok.inj h
    exact ⟨rfl, rfl⟩
  case h_7 => cases h

end Command

namespace CommandLine

variable {word : String} {rest words : List String} {asked : Request}

theorem commandWords_of_plain (h : Word.of word = .plain) :
    commandWords (word :: rest) = word :: rest := by
  rw [commandWords, attachedValue?_of_plain h]
  · rfl
  · exact fun _ _ hword _ => Word.ne_option_of_plain h "config" hword

theorem ofHelpWords_ne_request (words : List String) (asked : Request) :
    ofHelpWords words ≠ .request asked := by
  unfold ofHelpWords
  split
  · simp
  · split
    · simp
    · split <;> simp
  · simp

/-- The first word is the name of a command, or is taken in with the option before it. -/
theorem ofTopWords_cases {arguments : Arguments} {pending : Arguments.Pending}
    (h : ofTopWords arguments pending (word :: rest) = .request asked) :
    (pending = none ∧ Word.of word = .plain ∧
      ofCommandWords (arguments.value? "config") word rest = .request asked) ∨
    ∃ more waiting, Arguments.Adds Command.topForm arguments word pending more waiting ∧
      ofTopWords more waiting rest = .request asked := by
  rw [ofTopWords.eq_def] at h
  simp only at h
  split at h
  · next hplain =>
    split at h
    · exact absurd h (ofHelpWords_ne_request _ _)
    · exact .inl ⟨rfl, hplain, h⟩
  · cases h
  · cases h
  · cases h
  · split at h
    · next interruption _ => cases interruption <;> cases h
    · next more waiting hnext =>
      exact .inr ⟨more, waiting, Arguments.adds_of_addNext hnext, h⟩

/-- No plain word stands before the name of the command. -/
theorem addWord_topForm_ne_ok (arguments : Arguments) (word : String) (more : Arguments) :
    Arguments.addWord Command.topForm arguments word ≠ .ok more := by
  simp [Arguments.addWord, Command.topForm]

/-- An option before the command takes its word, and the next one if no value is attached. -/
theorem commandWords_of_adds {arguments more : Arguments} {pending waiting : Arguments.Pending}
    (hrest : waiting.isSome = true → rest ≠ [])
    (h : Arguments.Adds Command.topForm arguments word pending more waiting) :
    commandWords (if pending.isSome then (word :: rest).tail else word :: rest) =
      commandWords (if waiting.isSome then rest.tail else rest) := by
  cases h with
  | waited => rfl
  | plain _ hadded => exact absurd hadded (addWord_topForm_ne_ok _ _ _)
  | flag hmem hflag =>
    obtain rfl := List.mem_singleton.1 hmem
    cases hflag
  | @attached _ value _ hmem hword _ =>
    obtain rfl := List.mem_singleton.1 hmem
    have hattached : attachedValue? "config" word = some value :=
      attachedValue?_eq_some_iff.2 (Word.of_eq_long hword).2.2
    have hconfig : word ≠ "--config" := by
      rintro rfl
      cases hattached
    show commandWords (word :: rest) = commandWords rest
    rw [commandWords, hattached]
    · rfl
    · exact fun _ _ heq _ => hconfig heq
  | waits hmem hword =>
    obtain rfl := List.mem_singleton.1 hmem
    obtain rfl : word = "--config" := String.toList_inj.1 (Word.of_eq_long hword).2.2
    cases rest with
    | nil => exact absurd rfl (hrest rfl)
    | cons value rest => rfl

/-- A request has the name of its command behind the options before it, and these name what the
command is told. -/
theorem ofTopWords_eq_request {arguments : Arguments} {pending : Arguments.Pending}
    (h : ofTopWords arguments pending words = .request asked) :
    ∃ (reached : Arguments) (name : String) (rest : List String),
      ofCommandWords (reached.value? "config") name rest = .request asked ∧
      Word.of name = .plain ∧
      commandWords (if pending.isSome then words.tail else words) = name :: rest ∧
      reached.values "config" ++ optionValues "config" (name :: rest) =
        arguments.values "config" ++
          (Arguments.pendingValues "config" pending words ++ optionValues "config" words) := by
  induction words generalizing arguments pending with
  | nil => cases pending <;> cases h
  | cons word words ih =>
    rcases ofTopWords_cases h with ⟨rfl, hplain, hcommand⟩ | ⟨more, waiting, hadds, hmore⟩
    · exact ⟨arguments, word, words, hcommand, hplain, commandWords_of_plain hplain, rfl⟩
    · obtain ⟨reached, name, rest, hcommand, hplain, hwords, hvalues⟩ := ih hmore
      have hnonempty : waiting.isSome = true → words ≠ [] := by
        rintro hwaiting rfl
        cases waiting with
        | none => cases hwaiting
        | some given => cases hmore
      have hdivider : ¬ (pending = none ∧ word = "--") := by
        rintro ⟨rfl, rfl⟩
        cases hadds with
        | plain _ hadded => exact addWord_topForm_ne_ok _ _ _ hadded
        | flag _ _ hword => cases hword
        | attached _ hword => cases hword
        | waits _ hword => cases hword
      have hname := (commandWords_of_adds hnonempty hadds).trans hwords
      refine ⟨reached, name, rest, hcommand, hplain, hname, ?_⟩
      rw [hvalues, hadds.values_append (by decide) (by decide) hdivider]

/-- **What a request comes from.**  The words from the name of its command on are read as the
arguments of the command, and the document is the one that is named. -/
theorem ofWords_eq_request (h : ofWords words = .request asked) :
    ∃ name rest form arguments, commandWords words = name :: rest ∧
      Command.form? name = some form ∧ Arguments.parse form rest = .ok arguments ∧
      Command.ofArguments name arguments = .ok asked.command ∧
      asked.settings = namedDocument words := by
  obtain ⟨reached, name, rest, hcommand, hplain, hwords, hvalues⟩ := ofTopWords_eq_request h
  unfold ofCommandWords at hcommand
  split at hcommand
  · cases hcommand
  · next form hform =>
    split at hcommand
    · next interruption _ => cases interruption <;> cases hcommand
    · next arguments harguments =>
      split at hcommand
      · cases hcommand
      · next command hmade =>
        obtain rfl := CommandLine.request.inj hcommand
        have hwords : commandWords words = name :: rest := hwords
        have hconfig : ∀ form ∈ Command.forms, ∀ given ∈ form.options, given.name = "config" →
            given.kind ≠ .flag := by
          decide
        have hbehind := Arguments.values_of_parse (by decide)
          (hconfig form (List.mem_of_find?_eq_some hform)) harguments
        refine ⟨name, rest, form, arguments, hwords, hform, harguments, hmade, ?_⟩
        rw [optionValues_of_plain hplain] at hvalues
        have hboth : reached.values "config" ++ optionValues "config" rest =
            optionValues "config" words := hvalues
        rw [namedDocument, hwords, optionValues_of_plain hplain, ← hboth,
          Arguments.value?_eq_head?, Arguments.value?_eq_head?, hbehind]
        cases optionValues "config" rest with
        | nil => simp
        | cons value more => rfl

/-- **A command that is asked for has the columns that the words name.** -/
theorem namedColumns_of_ofWords (h : ofWords words = .request asked) :
    asked.command.namedColumns = namedColumns words := by
  obtain ⟨name, rest, form, arguments, hwords, hform, harguments, hmade, -⟩ :=
    ofWords_eq_request h
  have hmade := Command.compiles_of_ofArguments hmade
  rw [Formulary.namedColumns, hwords]
  cases hcommand : asked.command with
  | predicate formula columns =>
    rw [hcommand] at hmade
    obtain ⟨rfl, -, rfl⟩ := hmade
    obtain rfl := Option.some.inj hform
    exact Arguments.values_of_parse (by decide) (by decide) harguments
  | _ =>
    rw [hcommand] at hmade
    have hname : name ≠ "sql" := by
      rintro rfl
      simp [Command.Compiles] at hmade
    split
    · next heq => exact absurd (List.cons.inj heq).1 hname
    · rfl

/-- The formula of a command is the first word that belongs to no option. -/
theorem namedText_of_predicate {formula : String} {columns : List String}
    (h : ofWords words = .request asked) (hcommand : asked.command = .predicate formula columns) :
    namedText words = some formula := by
  obtain ⟨name, rest, form, arguments, hwords, hform, harguments, hmade, -⟩ :=
    ofWords_eq_request h
  rw [hcommand] at hmade
  obtain ⟨rfl, hformula, -⟩ := Command.compiles_of_ofArguments hmade
  obtain rfl := Option.some.inj hform
  have hplain : arguments.words = plainWords ["column", "config"] false rest :=
    Arguments.words_of_parse (by decide) (by decide) harguments
  rw [namedText, hwords, ← hformula, hplain]
  rfl

/-- The filter of a command is the value of its option. -/
theorem namedText_of_rollup {function child relationship parent : String}
    {field filter : Option String} (h : ofWords words = .request asked)
    (hcommand : asked.command = .rollup function child relationship field filter parent) :
    namedText words = filter.filter fun text => ¬ Text.AllWhite text := by
  obtain ⟨name, rest, form, arguments, hwords, hform, harguments, hmade, -⟩ :=
    ofWords_eq_request h
  rw [hcommand] at hmade
  obtain ⟨rfl, hfilter⟩ := Command.compiles_of_ofArguments hmade
  obtain rfl := Option.some.inj hform
  rw [namedText, hwords, ← hfilter, Arguments.value?_eq_head?,
    Arguments.values_of_parse (by decide) (by decide) harguments]
  rfl

end CommandLine

end Formulary
