import Formulary.Command.Arguments
import Mathlib.Data.List.Basic

/-!
# Options among words

What an option is given can be seen from the words: a value stands behind an equals sign in the
word of the option, or is the word after it, and nothing counts after a word of just two hyphens.
Reading the words as arguments finds the same values, and the same plain words.

* `optionValues`, `plainWords` — the values of an option among some words, and what is no option;
* `Arguments.Adds` — what a single word can add to arguments;
* `Arguments.values_read`, `Arguments.words_read` — the arguments have these values and words.
-/

namespace Formulary

/-! ## Words with an option -/

/-- The value that a word attaches to an option. -/
def attachedValue? (option word : String) : Option String :=
  (word.toList.dropPrefix? ("--" ++ option ++ "=").toList).map String.ofList

/-- The values of an option among some words. -/
def optionValues (option : String) : List String → List String
  | [] => []
  | word :: rest =>
    if word = "--" then []
    else if word = "--" ++ option then rest.head?.toList ++ optionValues option rest
    else (attachedValue? option word).toList ++ optionValues option rest

/-- The words that are no option and no value of one, given the options that take a value and
whether one of them is waiting for it. -/
def plainWords (options : List String) : Bool → List String → List String
  | _, [] => []
  | true, _ :: rest => plainWords options false rest
  | false, word :: rest =>
    if word = "--" then rest
    else if ∃ option ∈ options, word = "--" ++ option then plainWords options true rest
    else if word.toList.take 2 = ['-', '-'] then plainWords options false rest
    else word :: plainWords options false rest

/-! ## What a word is -/

namespace Word

variable {word name value : String}

/-- The part before the first mark is all there is, or the mark comes after it. -/
theorem takeWhile_cases (mark : Char) (s : List Char) :
    mark ∉ s.takeWhile (· != mark) ∧
      (s.takeWhile (· != mark) = s ∨
        (s.takeWhile (· != mark)).length < s.length ∧
          s = s.takeWhile (· != mark) ++
            mark :: s.drop ((s.takeWhile (· != mark)).length + 1)) := by
  induction s with
  | nil => simp
  | cons c s ih =>
    by_cases hc : c = mark
    · subst hc
      simp
    · obtain ⟨hmark, hwhole | ⟨hlength, hparts⟩⟩ := ih
      · refine ⟨?_, .inl ?_⟩
        · simpa [hc, Ne.symm hc] using hmark
        · simpa [hc] using hwhole
      · refine ⟨?_, .inr ⟨?_, ?_⟩⟩
        · simpa [hc, Ne.symm hc] using hmark
        · simpa [hc] using hlength
        · simpa [hc] using hparts

theorem of_eq_divider (h : Word.of word = .divider) : word = "--" := by
  unfold Word.of at h
  split at h
  · next hword => exact String.toList_inj.1 hword
  · cases h
  · cases h
  · cases h

/-- A plain word does not start with two hyphens. -/
theorem of_eq_plain (h : Word.of word = .plain) (rest : List Char) :
    word.toList ≠ '-' :: '-' :: rest := by
  intro hword
  unfold Word.of at h
  rw [hword] at h
  split at h <;> simp_all

theorem ne_divider_of_plain (h : Word.of word = .plain) : word ≠ "--" := by
  rintro rfl
  exact of_eq_plain h [] rfl

theorem ne_option_of_plain (h : Word.of word = .plain) (option : String) :
    word ≠ "--" ++ option := by
  rintro rfl
  exact of_eq_plain h option.toList (by simp)

/-- The word of an option is two hyphens, its name and perhaps a value behind an equals sign. -/
theorem of_eq_long {attached : Option String} (h : Word.of word = .long name attached) :
    '=' ∉ name.toList ∧
      word ≠ "--" ∧
      word.toList = '-' :: '-' :: (name.toList ++
        (attached.map fun value => '=' :: value.toList).getD []) := by
  unfold Word.of at h
  split at h
  · cases h
  · next rest hne hword =>
    simp only [Word.long.injEq] at h
    obtain ⟨rfl, hattached⟩ := h
    obtain ⟨hmark, hparts⟩ := takeWhile_cases '=' rest
    have hdivider : word ≠ "--" := by
      rintro rfl
      exact hne (List.cons.inj (List.cons.inj hword).2).2.symm
    rw [String.toList_ofList]
    refine ⟨hmark, hdivider, ?_⟩
    rcases hparts with hwhole | ⟨hlength, hparts⟩
    · rw [if_pos (by rw [hwhole])] at hattached
      rw [← hattached, hword, hwhole]
      simp
    · rw [if_neg (Nat.ne_of_lt hlength)] at hattached
      rw [← hattached, hword, Option.map_some, Option.getD_some, String.toList_ofList, ← hparts]
  · cases h
  · cases h

end Word

/-! ## Values among words -/

section Values

variable {option word name value : String} {rest : List String}

theorem attachedValue?_eq_some_iff :
    attachedValue? option word = some value ↔
      word.toList = '-' :: '-' :: (option.toList ++ '=' :: value.toList) := by
  have hprefix : ("--" ++ option ++ "=").toList = '-' :: '-' :: (option.toList ++ ['=']) := by
    simp
  simp only [attachedValue?, Option.map_eq_some_iff, List.dropPrefix?_eq_some_iff, beq_iff_eq,
    hprefix]
  constructor
  · rintro ⟨tail, ⟨_, hword, rfl⟩, rfl⟩
    simpa using hword
  · intro hword
    exact ⟨value.toList, ⟨_, by simpa using hword, rfl⟩, String.ofList_toList⟩

/-- What stands before the first equals sign is told apart from what stands behind it. -/
theorem append_mark_inj {a b r s : List Char} (ha : '=' ∉ a) (hb : '=' ∉ b)
    (h : a ++ '=' :: r = b ++ '=' :: s) : a = b ∧ r = s := by
  induction a generalizing b with
  | nil =>
    cases b with
    | nil => exact ⟨rfl, (List.cons.inj h).2⟩
    | cons c b =>
      obtain rfl := (List.cons.inj h).1
      simp at hb
  | cons c a ih =>
    cases b with
    | nil =>
      obtain rfl := (List.cons.inj h).1
      simp at ha
    | cons d b =>
      simp only [List.mem_cons, not_or] at ha hb
      obtain ⟨rfl, hrest⟩ := List.cons.inj h
      obtain ⟨rfl, rfl⟩ := ih ha.2 hb.2 hrest
      exact ⟨rfl, rfl⟩

theorem attachedValue?_of_plain (h : Word.of word = .plain) :
    attachedValue? option word = none := by
  cases hvalue : attachedValue? option word with
  | none => rfl
  | some value => exact absurd (attachedValue?_eq_some_iff.1 hvalue) (Word.of_eq_plain h _)

theorem optionValues_of_plain (h : Word.of word = .plain) :
    optionValues option (word :: rest) = optionValues option rest := by
  rw [optionValues, if_neg (Word.ne_divider_of_plain h), if_neg (Word.ne_option_of_plain h option),
    attachedValue?_of_plain h]
  rfl

/-- An option without a value takes the next word. -/
theorem optionValues_of_long_none (h : Word.of word = .long name none) :
    optionValues option (word :: rest) =
      (if name = option then rest.head?.toList else []) ++ optionValues option rest := by
  obtain ⟨hmark, hdivider, hword⟩ := Word.of_eq_long h
  have hname : word = "--" ++ option ↔ name = option := by
    rw [← String.toList_inj, hword, ← String.toList_inj]
    simp
  have hattached : attachedValue? option word = none := by
    cases hvalue : attachedValue? option word with
    | none => rfl
    | some value =>
      have hother := attachedValue?_eq_some_iff.1 hvalue
      rw [hword] at hother
      simp only [Option.map_none, Option.getD_none, List.append_nil, List.cons.injEq,
        true_and] at hother
      rw [hother] at hmark
      simp at hmark
  rw [optionValues, if_neg hdivider]
  by_cases heq : name = option
  · rw [if_pos (hname.2 heq), if_pos heq]
  · rw [if_neg (mt hname.1 heq), if_neg heq, hattached]
    rfl

theorem optionValues_of_long_some (hoption : '=' ∉ option.toList)
    (h : Word.of word = .long name (some value)) :
    optionValues option (word :: rest) =
      (if name = option then [value] else []) ++ optionValues option rest := by
  obtain ⟨hmark, hdivider, hword⟩ := Word.of_eq_long h
  rw [Option.map_some, Option.getD_some] at hword
  have hbare : word ≠ "--" ++ option := by
    rintro rfl
    have hchars : option.toList = name.toList ++ '=' :: value.toList := by simpa using hword
    rw [hchars] at hoption
    simp at hoption
  rw [optionValues, if_neg hdivider, if_neg hbare]
  by_cases heq : name = option
  · subst heq
    rw [if_pos rfl, attachedValue?_eq_some_iff.2 hword]
    rfl
  · have hattached : attachedValue? option word = none := by
      cases hvalue : attachedValue? option word with
      | none => rfl
      | some other =>
        have hother := attachedValue?_eq_some_iff.1 hvalue
        rw [hword] at hother
        simp only [List.cons.injEq, true_and] at hother
        exact absurd (String.toList_inj.1 (append_mark_inj hmark hoption hother).1) heq
    rw [if_neg heq, hattached]
    rfl

theorem plainWords_of_plain {options : List String} (h : Word.of word = .plain) :
    plainWords options false (word :: rest) = word :: plainWords options false rest := by
  have hoption : ¬ ∃ option ∈ options, word = "--" ++ option := by
    rintro ⟨option, -, hword⟩
    exact Word.ne_option_of_plain h option hword
  have htake : word.toList.take 2 ≠ ['-', '-'] := by
    intro htake
    refine Word.of_eq_plain h (word.toList.drop 2) ?_
    rw [← List.take_append_drop 2 word.toList, htake]
    simp
  rw [plainWords, if_neg (Word.ne_divider_of_plain h), if_neg hoption, if_neg htake]

theorem plainWords_of_long_none {options : List String} (hname : name ∈ options)
    (h : Word.of word = .long name none) :
    plainWords options false (word :: rest) = plainWords options true rest := by
  obtain ⟨-, hdivider, hword⟩ := Word.of_eq_long h
  have hoption : word = "--" ++ name := by
    rw [← String.toList_inj, hword]
    simp
  rw [plainWords, if_neg hdivider, if_pos ⟨name, hname, hoption⟩]

theorem plainWords_of_long_some {options : List String}
    (hoptions : ∀ option ∈ options, '=' ∉ option.toList)
    (h : Word.of word = .long name (some value)) :
    plainWords options false (word :: rest) = plainWords options false rest := by
  obtain ⟨-, hdivider, hword⟩ := Word.of_eq_long h
  rw [Option.map_some, Option.getD_some] at hword
  have hoption : ¬ ∃ option ∈ options, word = "--" ++ option := by
    rintro ⟨option, hmem, rfl⟩
    have hchars : option.toList = name.toList ++ '=' :: value.toList := by simpa using hword
    have hmark := hoptions option hmem
    rw [hchars] at hmark
    simp at hmark
  rw [plainWords, if_neg hdivider, if_neg hoption, if_pos (by rw [hword]; rfl)]

end Values

/-! ## One word after the other -/

namespace Arguments

/-- What a word can add to the arguments, and the options that wait before it and after it. -/
inductive Adds (form : CommandForm) (arguments : Arguments) (word : String) :
    Pending → Arguments → Pending → Prop
  | waited {given : OptionForm} {more : Arguments} : Word.of word = .plain →
      addOption given arguments word = .ok more → Adds form arguments word (some given) more none
  | plain {more : Arguments} : Word.of word = .plain ∨ Word.of word = .divider →
      addWord form arguments word = .ok more → Adds form arguments word none more none
  | flag {given : OptionForm} {more : Arguments} : given ∈ form.options → given.kind = .flag →
      Word.of word = .long given.name none → addOption given arguments "" = .ok more →
      Adds form arguments word none more none
  | attached {given : OptionForm} {value : String} {more : Arguments} : given ∈ form.options →
      Word.of word = .long given.name (some value) → addOption given arguments value = .ok more →
      Adds form arguments word none more none
  | waits {given : OptionForm} : given ∈ form.options →
      Word.of word = .long given.name none → Adds form arguments word none arguments (some given)

variable {form : CommandForm} {option word : String} {arguments more : Arguments}
  {pending next : Pending} {words : List String}

/-- An argument that is added leaves no option waiting. -/
theorem map_eq_ok {added : Except Interruption Arguments}
    (h : added.map (·, none) = .ok (more, next)) : added = .ok more ∧ next = none := by
  cases added with
  | error e => cases h
  | ok reached =>
    obtain ⟨rfl, rfl⟩ := Prod.mk.inj (Except.ok.inj h)
    exact ⟨rfl, rfl⟩

theorem adds_of_addNext (h : addNext form arguments word pending = .ok (more, next)) :
    Adds form arguments word pending more next := by
  unfold addNext at h
  cases pending with
  | some given =>
    simp only at h
    split at h
    · next hplain =>
      obtain ⟨hadded, rfl⟩ := map_eq_ok h
      exact .waited hplain hadded
    · cases h
  | none =>
    simp only at h
    cases hword : Word.of word with
    | plain =>
      rw [hword] at h
      obtain ⟨hadded, rfl⟩ := map_eq_ok h
      exact .plain (.inl hword) hadded
    | divider =>
      rw [hword] at h
      obtain ⟨hadded, rfl⟩ := map_eq_ok h
      exact .plain (.inr hword) hadded
    | short letter =>
      rw [hword] at h
      cases h
    | long name attached =>
      simp only [hword] at h
      split at h
      · split at h <;> cases h
      · next given hgiven =>
        have hmem := List.mem_of_find?_eq_some hgiven
        obtain rfl : given.name = name := by simpa using List.find?_some hgiven
        split at h
        · next hflag =>
          obtain ⟨hadded, rfl⟩ := map_eq_ok h
          exact .flag hmem hflag hword hadded
        · cases h
        · obtain ⟨hadded, rfl⟩ := map_eq_ok h
          exact .attached hmem hword hadded
        · obtain ⟨rfl, rfl⟩ := Prod.mk.inj (Except.ok.inj h)
          exact .waits hmem hword

/-- Words are read one after the other, but for those behind a divider. -/
theorem read_cons (h : read form arguments pending (word :: words) = .ok more)
    (hdivider : ¬ (pending = none ∧ word = "--")) :
    ∃ reached next, Adds form arguments word pending reached next ∧
      read form reached next words = .ok more := by
  rw [read.eq_def] at h
  split at h
  · next hnil => cases hnil
  · next hnil => cases hnil
  · next hwords => exact absurd ⟨rfl, (List.cons.inj hwords).1⟩ hdivider
  · next hwords =>
    obtain ⟨rfl, rfl⟩ := List.cons.inj hwords
    split at h
    · cases h
    · next reached next hnext => exact ⟨reached, next, adds_of_addNext hnext, h⟩

/-! ### Values of options -/

theorem values_addWord (h : addWord form arguments word = .ok more) :
    more.values option = arguments.values option := by
  unfold addWord at h
  split at h
  · obtain rfl := Except.ok.inj h
    rfl
  · cases h

theorem values_addWords (h : addWords form arguments words = .ok more) :
    more.values option = arguments.values option := by
  induction words generalizing arguments with
  | nil =>
    obtain rfl := Except.ok.inj h
    rfl
  | cons word words ih =>
    rw [addWords, List.foldlM_cons] at h
    cases hword : addWord form arguments word with
    | error e => simp [hword, bind, Except.bind] at h
    | ok reached =>
      rw [hword] at h
      rw [ih h, values_addWord hword]

theorem values_addOption {given : OptionForm} {value : String}
    (h : addOption given arguments value = .ok more) :
    more.values option =
      arguments.values option ++ if given.name = option then [value] else [] := by
  unfold addOption at h
  split at h
  · cases h
  · split at h
    · cases h
    · obtain rfl := Except.ok.inj h
      by_cases heq : given.name = option
      · simp [values, heq]
      · simp [values, heq]

/-- The one value of an option is the first of its values. -/
theorem value?_eq_head? (arguments : Arguments) (option : String) :
    arguments.value? option = (arguments.values option).head? := by
  obtain ⟨words, options⟩ := arguments
  rw [value?, values]
  induction options with
  | nil => rfl
  | cons given options ih =>
    obtain ⟨name, value⟩ := given
    rw [List.lookup_cons]
    by_cases heq : name = option
    · simp [heq]
    · have hne : (option == name) = false := by simpa using Ne.symm heq
      simpa [heq, hne] using ih

/-- What an option that waits for its value gets from the words. -/
def pendingValues (option : String) (pending : Pending) (words : List String) : List String :=
  match pending with
  | none => []
  | some given => if given.name = option then words.head?.toList else []

/-- A word that is no divider says what it says among the other words. -/
theorem Adds.values_append (hoption : '=' ∉ option.toList)
    (hkind : ∀ given ∈ form.options, given.name = option → given.kind ≠ .flag)
    (hdivider : ¬ (pending = none ∧ word = "--"))
    (h : Adds form arguments word pending more next) :
    more.values option ++ (pendingValues option next words ++ optionValues option words) =
      arguments.values option ++
        (pendingValues option pending (word :: words) ++ optionValues option (word :: words)) := by
  cases h with
  | waited hplain hadded =>
    rw [values_addOption hadded, optionValues_of_plain hplain, List.append_assoc]
    rfl
  | plain hword hadded =>
    rcases hword with hplain | hword
    · rw [values_addWord hadded, optionValues_of_plain hplain]
      rfl
    · exact absurd ⟨rfl, Word.of_eq_divider hword⟩ hdivider
  | @flag given _ hmem hflag hword hadded =>
    have hne : given.name ≠ option := fun heq => hkind given hmem heq hflag
    rw [values_addOption hadded, optionValues_of_long_none hword, if_neg hne, if_neg hne,
      List.append_nil]
    rfl
  | attached _ hword hadded =>
    rw [values_addOption hadded, optionValues_of_long_some hoption hword, List.append_assoc]
    rfl
  | waits _ hword =>
    rw [optionValues_of_long_none hword]
    rfl

/-- **The values of an option are those that the words give it.** -/
theorem values_read (hoption : '=' ∉ option.toList)
    (hkind : ∀ given ∈ form.options, given.name = option → given.kind ≠ .flag)
    (h : read form arguments pending words = .ok more) :
    more.values option =
      arguments.values option ++
        (pendingValues option pending words ++ optionValues option words) := by
  induction words generalizing arguments pending with
  | nil =>
    cases pending with
    | none =>
      obtain rfl := Except.ok.inj h
      simp [pendingValues, optionValues]
    | some given => cases h
  | cons word words ih =>
    by_cases hdivider : pending = none ∧ word = "--"
    · obtain ⟨rfl, rfl⟩ := hdivider
      rw [values_addWords h]
      simp [pendingValues, optionValues]
    · obtain ⟨reached, next, hadds, hread⟩ := read_cons h hdivider
      rw [ih hread, hadds.values_append hoption hkind hdivider]

/-! ### Plain words -/

theorem words_addWord (h : addWord form arguments word = .ok more) :
    more.words = arguments.words ++ [word] := by
  unfold addWord at h
  split at h
  · obtain rfl := Except.ok.inj h
    rfl
  · cases h

theorem words_addWords (h : addWords form arguments words = .ok more) :
    more.words = arguments.words ++ words := by
  induction words generalizing arguments with
  | nil =>
    obtain rfl := Except.ok.inj h
    simp
  | cons word words ih =>
    rw [addWords, List.foldlM_cons] at h
    cases hword : addWord form arguments word with
    | error e => simp [hword, bind, Except.bind] at h
    | ok reached =>
      rw [hword] at h
      rw [ih h, words_addWord hword, List.append_assoc, List.singleton_append]

theorem words_addOption {given : OptionForm} {value : String}
    (h : addOption given arguments value = .ok more) : more.words = arguments.words := by
  unfold addOption at h
  split at h
  · cases h
  · split at h
    · cases h
    · obtain rfl := Except.ok.inj h
      rfl

variable {options : List String}

/-- A word that is no divider is a plain word of its own or belongs to an option. -/
theorem Adds.words_append (hoptions : ∀ option ∈ options, '=' ∉ option.toList)
    (hform : ∀ given ∈ form.options, given.kind ≠ .flag ∧ given.name ∈ options)
    (hdivider : ¬ (pending = none ∧ word = "--"))
    (h : Adds form arguments word pending more next) :
    more.words ++ plainWords options next.isSome words =
      arguments.words ++ plainWords options pending.isSome (word :: words) := by
  cases h with
  | waited hplain hadded =>
    rw [words_addOption hadded]
    rfl
  | plain hword hadded =>
    rcases hword with hplain | hword
    · rw [words_addWord hadded, Option.isSome_none, plainWords_of_plain hplain, List.append_assoc,
        List.singleton_append]
    · exact absurd ⟨rfl, Word.of_eq_divider hword⟩ hdivider
  | flag hmem hflag => exact absurd hflag (hform _ hmem).1
  | attached hmem hword hadded =>
    rw [words_addOption hadded, Option.isSome_none, plainWords_of_long_some hoptions hword]
  | waits hmem hword =>
    rw [Option.isSome_none, Option.isSome_some, plainWords_of_long_none (hform _ hmem).2 hword]

/-- **The plain words are those that belong to no option.** -/
theorem words_read (hoptions : ∀ option ∈ options, '=' ∉ option.toList)
    (hform : ∀ given ∈ form.options, given.kind ≠ .flag ∧ given.name ∈ options)
    (h : read form arguments pending words = .ok more) :
    more.words = arguments.words ++ plainWords options pending.isSome words := by
  induction words generalizing arguments pending with
  | nil =>
    cases pending with
    | none =>
      obtain rfl := Except.ok.inj h
      simp [plainWords]
    | some given => cases h
  | cons word words ih =>
    by_cases hdivider : pending = none ∧ word = "--"
    · obtain ⟨rfl, rfl⟩ := hdivider
      rw [words_addWords h]
      simp [plainWords]
    · obtain ⟨reached, next, hadds, hread⟩ := read_cons h hdivider
      rw [ih hread, hadds.words_append hoptions hform hdivider]

/-! ### Arguments of a command -/

theorem read_of_parse (h : parse form words = .ok arguments) :
    read form empty none words = .ok arguments := by
  unfold parse at h
  split at h
  · cases h
  · next read hread =>
    split at h
    · cases h
    · rw [hread, h]

theorem values_of_parse (hoption : '=' ∉ option.toList)
    (hkind : ∀ given ∈ form.options, given.name = option → given.kind ≠ .flag)
    (h : parse form words = .ok arguments) : arguments.values option = optionValues option words :=
  values_read hoption hkind (read_of_parse h)

theorem words_of_parse (hoptions : ∀ option ∈ options, '=' ∉ option.toList)
    (hform : ∀ given ∈ form.options, given.kind ≠ .flag ∧ given.name ∈ options)
    (h : parse form words = .ok arguments) : arguments.words = plainWords options false words :=
  words_read hoptions hform (read_of_parse h)

end Arguments

end Formulary
