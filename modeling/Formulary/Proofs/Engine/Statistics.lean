import Formulary.Proofs.Engine.Memory
import Mathlib.Data.Set.Card

/-!
# What the counts of an engine count

An engine tells how often it remembered a program, how often it did not, and how many texts
it bound.  All of this can be read off the calls that were made of it.

* `Known` — a text that was read and bound since the last change;
* `tally` — how many calls of a history have a property that may speak of the calls before them;
* `Counted` — the counts agree with a history; every call keeps that (`Counted.perform`);
* `stats_performAll` — what an engine tells of itself after any calls.
-/

namespace Formulary.Engine

/-! ## Histories -/

/-- The text whose program a call asks for.  A change asks for none. -/
def Call.text? : Call → Option String
  | .evaluate text _ => some text
  | .evaluateFormula text _ => some text
  | .evaluateCondition text _ => some text
  | .validate text => some text
  | .register _ _ => none
  | .clear => none

/-- A call adds a function. -/
def Call.isRegister : Call → Bool
  | .register _ _ => true
  | _ => false

/-- The registry after some calls. -/
def registryAfterAll (registry : Registry) (calls : List Call) : Registry :=
  calls.foldl registryAfter registry

/-- A text can be read, and bound to a registry. -/
def Compiles (registry : Registry) (text : String) : Prop :=
  ∃ program, programAnew registry text = .ok program

/-- Some call since the last change asked for the program of a text, and the text could be
read and bound then. -/
def Known (start : Registry) (history : List Call) (text : String) : Prop :=
  ∃ earlier call later, history = earlier ++ call :: later ∧ call.text? = some text ∧
    Compiles (registryAfterAll start earlier) text ∧ ∀ c ∈ later, c.text? ≠ none

/-- Where in a history a call has a property, which may speak of the calls before it. -/
def positions (p : List Call → Call → Prop) (history : List Call) : Set Nat :=
  {i | ∃ call, history[i]? = some call ∧ p (history.take i) call}

/-- How many calls of a history have such a property. -/
noncomputable def tally (p : List Call → Call → Prop) (history : List Call) : Nat :=
  (positions p history).ncard

/-- A call asks for a program that was remembered. -/
def Hits (start : Registry) (earlier : List Call) (call : Call) : Prop :=
  ∃ text, call.text? = some text ∧ Known start earlier text

/-- A call asks for a program that was not remembered, and its text can be bound now. -/
def Binds (start : Registry) (earlier : List Call) (call : Call) : Prop :=
  ∃ text, call.text? = some text ∧ ¬ Known start earlier text ∧
    Compiles (registryAfterAll start earlier) text

section Histories

variable {start : Registry} {history : List Call} {call : Call} {text other : String}

theorem registryAfterAll_concat (start : Registry) (history : List Call) (call : Call) :
    registryAfterAll start (history ++ [call]) =
      registryAfter (registryAfterAll start history) call :=
  List.foldl_concat ..

theorem registryAfter_of_text? (registry : Registry) (h : call.text? = some text) :
    registryAfter registry call = registry := by
  cases call with
  | register name function => cases h
  | _ => rfl

theorem epoch_registryAfter (registry : Registry) (call : Call) :
    (registryAfter registry call).epoch = registry.epoch + [call].countP Call.isRegister := by
  cases call <;> rfl

/-- In a history with one more call, a call is the last one or in the history. -/
theorem split_concat {earlier later : List Call} {asked : Call}
    (h : history ++ [call] = earlier ++ asked :: later) :
    (history = earlier ∧ call = asked ∧ later = []) ∨
      ∃ front, later = front ++ [call] ∧ history = earlier ++ asked :: front := by
  rcases List.eq_nil_or_concat' later with rfl | ⟨front, last, rfl⟩
  · obtain ⟨hhistory, hcall⟩ := List.append_inj' h rfl
    exact .inl ⟨hhistory, List.singleton_inj.1 hcall, rfl⟩
  · have hlast : history ++ [call] = (earlier ++ asked :: front) ++ [last] := by simpa using h
    obtain ⟨hhistory, hcall⟩ := List.append_inj' hlast rfl
    exact .inr ⟨front, by rw [List.singleton_inj.1 hcall], hhistory⟩

/-- No text is known before the first call. -/
theorem not_known_nil : ¬ Known start [] text := by
  rintro ⟨earlier, asked, later, hsplit, -⟩
  simp at hsplit

/-- After a change no text is known. -/
theorem not_known_change (h : call.text? = none) : ¬ Known start (history ++ [call]) text := by
  rintro ⟨earlier, asked, later, hsplit, htext, -, hlater⟩
  rcases split_concat hsplit with ⟨-, rfl, -⟩ | ⟨front, rfl, -⟩
  · rw [h] at htext
    cases htext
  · exact hlater call (by simp) h

/-- A call for a program makes its text known if the text can be bound, and changes nothing
about the other texts. -/
theorem known_query (h : call.text? = some text) :
    Known start (history ++ [call]) other ↔
      Known start history other ∨
        other = text ∧ Compiles (registryAfterAll start history) text := by
  constructor
  · rintro ⟨earlier, asked, later, hsplit, htext, hcompiles, hlater⟩
    rcases split_concat hsplit with ⟨rfl, rfl, -⟩ | ⟨front, rfl, rfl⟩
    · obtain rfl := Option.some.inj (htext.symm.trans h)
      exact .inr ⟨rfl, hcompiles⟩
    · exact .inl ⟨earlier, asked, front, rfl, htext, hcompiles,
        fun c hc => hlater c (List.mem_append_left _ hc)⟩
  · rintro (⟨earlier, asked, later, rfl, htext, hcompiles, hlater⟩ | ⟨rfl, hcompiles⟩)
    · refine ⟨earlier, asked, later ++ [call], by simp, htext, hcompiles, fun c hc => ?_⟩
      rcases List.mem_append.1 hc with hc | hc
      · exact hlater c hc
      · rw [List.mem_singleton.1 hc, h]
        exact Option.some_ne_none text
    · exact ⟨history, call, [], rfl, h, hcompiles, by simp⟩

end Histories

/-! ## Tallies -/

section Tallies

variable {p : List Call → Call → Prop} {history : List Call} {call : Call}

theorem tally_nil : tally p [] = 0 := by
  simp [tally, positions]

theorem lt_of_mem_positions {i : Nat} (h : i ∈ positions p history) : i < history.length := by
  obtain ⟨call, hcall, -⟩ := h
  exact (List.getElem?_eq_some_iff.1 hcall).1

/-- One more call adds its own position, if it has the property. -/
theorem mem_positions_concat {i : Nat} :
    i ∈ positions p (history ++ [call]) ↔
      i ∈ positions p history ∨ i = history.length ∧ p history call := by
  rcases Nat.lt_trichotomy i history.length with hi | rfl | hi
  · have hne : i ≠ history.length := hi.ne
    simp [positions, List.getElem?_append_left hi, List.take_append_of_le_length hi.le, hne]
  · simp [positions]
  · have hlast : i ∉ positions p (history ++ [call]) := by
      intro hmem
      have hlt := lt_of_mem_positions hmem
      rw [List.length_append, List.length_singleton] at hlt
      omega
    have hold : i ∉ positions p history := fun hmem => hi.not_gt (lt_of_mem_positions hmem)
    simp [hlast, hold, hi.ne']

theorem tally_concat (h : p history call) : tally p (history ++ [call]) = tally p history + 1 := by
  have hfinite : (positions p history).Finite :=
    (Set.finite_lt_nat history.length).subset fun i hi => lt_of_mem_positions hi
  have hnew : history.length ∉ positions p history :=
    fun hmem => (lt_of_mem_positions hmem).false
  have hpositions : positions p (history ++ [call]) =
      insert history.length (positions p history) := by
    ext i
    rw [mem_positions_concat, Set.mem_insert_iff, and_iff_left h, or_comm]
  rw [tally, hpositions, Set.ncard_insert_of_notMem hnew hfinite, tally]

theorem tally_concat_of_not (h : ¬ p history call) :
    tally p (history ++ [call]) = tally p history := by
  have hpositions : positions p (history ++ [call]) = positions p history := by
    ext i
    rw [mem_positions_concat, or_iff_left fun hlast => h hlast.2]
  rw [tally, hpositions, tally]

end Tallies

/-! ## Remembered texts -/

/-- A collection in order has as many things as names. -/
theorem length_eq_ncard {α : Type} {fields : Fields α} (h : fields.Ascending) :
    fields.length = {name | (fields.get? name).isSome = true}.ncard := by
  have hnames : {name | (fields.get? name).isSome = true} = (fields.map Prod.fst).toFinset := by
    ext name
    simp only [Set.mem_ofPred_eq, Fields.isSome_get?_iff, List.coe_toFinset]
  rw [hnames, Set.ncard_coe_finset, List.toFinset_card_of_nodup h.nodup_names, List.length_map]

/-! ## Looking a program up -/

variable {start : Registry} {history : List Call} {engine : Engine} {call : Call} {text : String}

/-- A change forgets all programs, and no count moves. -/
theorem perform_change (h : call.text? = none) :
    (engine.perform call).2 =
      { engine with registry := registryAfter engine.registry call, programs := [] } := by
  cases call with
  | register name function => rfl
  | clear => rfl
  | _ => cases h

/-- All that a call for a program leaves behind is left by looking the program up. -/
theorem perform_query (h : call.text? = some text) :
    (engine.perform call).2 = (engine.program text).2 := by
  cases call with
  | register name function => cases h
  | clear => cases h
  | _ =>
    obtain rfl := Option.some.inj h
    rfl

/-- The three ways in which the program of a text is looked up. -/
theorem program_cases (engine : Engine) (text : String) :
    ((engine.programs.get? text).isSome = true ∧
      (engine.program text).2 = { engine with hits := engine.hits + 1 }) ∨
    (¬ (engine.programs.get? text).isSome = true ∧ ¬ Compiles engine.registry text ∧
      (engine.program text).2 = { engine with misses := engine.misses + 1 }) ∨
    (¬ (engine.programs.get? text).isSome = true ∧ Compiles engine.registry text ∧
      ∃ program, (engine.program text).2 =
        { engine with
          misses := engine.misses + 1
          compilations := engine.compilations + 1
          programs := engine.programs.insert text program }) := by
  unfold Engine.program
  cases engine.programs.get? text with
  | some program => exact .inl ⟨rfl, rfl⟩
  | none =>
    simp only [compile_eq_anew]
    cases hanew : programAnew engine.registry text with
    | error e =>
      have hrefused : ¬ Compiles engine.registry text := by
        rintro ⟨program, hprogram⟩
        cases hanew.symm.trans hprogram
      exact .inr (.inl ⟨nofun, hrefused, rfl⟩)
    | ok program => exact .inr (.inr ⟨nofun, ⟨program, hanew⟩, program, rfl⟩)

theorem registry_program (engine : Engine) (text : String) :
    (engine.program text).2.registry = engine.registry := by
  rcases program_cases engine text with ⟨-, h⟩ | ⟨-, -, h⟩ | ⟨-, -, program, h⟩ <;> rw [h]

theorem ascending_program (h : engine.programs.Ascending) (text : String) :
    (engine.program text).2.programs.Ascending := by
  rcases program_cases engine text with ⟨-, hafter⟩ | ⟨-, -, hafter⟩ | ⟨-, -, program, hafter⟩ <;>
    rw [hafter]
  · exact h
  · exact h
  · exact Fields.ascending_insert h

/-- Afterwards the text is remembered if it can be bound, and nothing is forgotten. -/
theorem remembers_program (engine : Engine) (text other : String) :
    ((engine.program text).2.programs.get? other).isSome = true ↔
      (engine.programs.get? other).isSome = true ∨
        other = text ∧ Compiles engine.registry text := by
  rcases program_cases engine text with
    ⟨hget, hafter⟩ | ⟨-, hrefused, hafter⟩ | ⟨-, hcompiles, program, hafter⟩ <;> rw [hafter]
  · refine ⟨.inl, ?_⟩
    rintro (hother | ⟨rfl, -⟩)
    · exact hother
    · exact hget
  · refine ⟨.inl, ?_⟩
    rintro (hother | ⟨-, hcompiles⟩)
    · exact hother
    · exact absurd hcompiles hrefused
  · rw [Fields.get?_insert]
    by_cases here : other = text
    · simp [here, hcompiles]
    · simp [here]

theorem queries_program (engine : Engine) (text : String) :
    (engine.program text).2.hits + (engine.program text).2.misses =
      engine.hits + engine.misses + 1 := by
  rcases program_cases engine text with ⟨-, h⟩ | ⟨-, -, h⟩ | ⟨-, -, program, h⟩ <;> rw [h] <;>
    simp only <;> omega

/-! ## One call, and some calls in a row -/

/-- What an engine has counted and what it remembers agree with the calls made of it. -/
structure Counted (start : Registry) (history : List Call) (engine : Engine) : Prop where
  registry : engine.registry = registryAfterAll start history
  ascending : engine.programs.Ascending
  remembers : ∀ text, (engine.programs.get? text).isSome = true ↔ Known start history text
  queries : engine.hits + engine.misses = history.countP fun call => call.text?.isSome
  hits : engine.hits = tally (Hits start) history
  compilations : engine.compilations = tally (Binds start) history
  epoch : engine.registry.epoch = start.epoch + history.countP Call.isRegister

namespace Counted

theorem ofRegistry (start : Registry) : Counted start [] (ofRegistry start) where
  registry := rfl
  ascending := .nil
  remembers text := iff_of_false (by simp [Engine.ofRegistry, Fields.get?_nil]) not_known_nil
  queries := rfl
  hits := tally_nil.symm
  compilations := tally_nil.symm
  epoch := rfl

theorem change (h : Counted start history engine) (htext : call.text? = none) :
    Counted start (history ++ [call]) (engine.perform call).2 := by
  have hhits : ¬ Hits start history call := fun ⟨_, hsome, _⟩ => by simp [htext] at hsome
  have hbinds : ¬ Binds start history call := fun ⟨_, hsome, _⟩ => by simp [htext] at hsome
  rw [perform_change htext]
  constructor
  case registry => rw [registryAfterAll_concat, h.registry]
  case ascending => exact .nil
  case remembers =>
    intro text
    exact iff_of_false (by simp [Fields.get?_nil]) (not_known_change htext)
  case queries => simp [h.queries, htext]
  case hits => rw [tally_concat_of_not hhits, h.hits]
  case compilations => rw [tally_concat_of_not hbinds, h.compilations]
  case epoch => rw [epoch_registryAfter, h.epoch, List.countP_append, Nat.add_assoc]

theorem query (h : Counted start history engine) (htext : call.text? = some text) :
    Counted start (history ++ [call]) (engine.perform call).2 := by
  have hregistry : registryAfterAll start (history ++ [call]) = engine.registry := by
    rw [registryAfterAll_concat, ← h.registry, registryAfter_of_text? _ htext]
  have hnotRegister : [call].countP Call.isRegister = 0 := by
    have hepoch := epoch_registryAfter engine.registry call
    rw [registryAfter_of_text? _ htext] at hepoch
    omega
  have hhits : Hits start history call ↔ (engine.programs.get? text).isSome = true := by
    simp only [Hits, htext, Option.some.injEq, exists_eq_left', h.remembers]
  have hbinds : Binds start history call ↔
      ¬ (engine.programs.get? text).isSome = true ∧ Compiles engine.registry text := by
    simp only [Binds, htext, Option.some.injEq, exists_eq_left', h.remembers, h.registry]
  rw [perform_query htext]
  constructor
  case registry => rw [registry_program, hregistry]
  case ascending => exact ascending_program h.ascending text
  case remembers =>
    intro other
    rw [remembers_program, known_query htext, h.remembers, h.registry]
  case queries => rw [queries_program, h.queries]; simp [htext]
  case epoch => rw [registry_program, List.countP_append, hnotRegister, h.epoch, Nat.add_zero]
  case hits =>
    rcases program_cases engine text with ⟨hget, hafter⟩ | ⟨hget, -, hafter⟩ | ⟨hget, -, _, hafter⟩
    · rw [hafter, tally_concat (hhits.2 hget), ← h.hits]
    · rw [hafter, tally_concat_of_not (mt hhits.1 hget), ← h.hits]
    · rw [hafter, tally_concat_of_not (mt hhits.1 hget), ← h.hits]
  case compilations =>
    rcases program_cases engine text with
      ⟨hget, hafter⟩ | ⟨-, hrefused, hafter⟩ | ⟨hget, hcompiles, _, hafter⟩
    · rw [hafter, tally_concat_of_not fun hb => (hbinds.1 hb).1 hget, ← h.compilations]
    · rw [hafter, tally_concat_of_not fun hb => hrefused (hbinds.1 hb).2, ← h.compilations]
    · rw [hafter, tally_concat (hbinds.2 ⟨hget, hcompiles⟩), ← h.compilations]

/-- Every call keeps the counts in agreement with the calls. -/
theorem perform (h : Counted start history engine) (call : Call) :
    Counted start (history ++ [call]) (engine.perform call).2 := by
  cases htext : call.text? with
  | none => exact h.change htext
  | some text => exact h.query htext

end Counted

theorem performAll_concat (engine : Engine) (calls : List Call) (call : Call) :
    (engine.performAll (calls ++ [call])).2 = ((engine.performAll calls).2.perform call).2 := by
  induction calls generalizing engine with
  | nil => rfl
  | cons first rest ih => exact ih (engine.perform first).2

theorem counted_performAll (start : Registry) (calls : List Call) :
    Counted start calls ((ofRegistry start).performAll calls).2 := by
  induction calls using List.reverseRecOn with
  | nil => exact Counted.ofRegistry start
  | append_singleton calls call ih =>
    rw [performAll_concat]
    exact ih.perform call

/-- **What an engine tells of itself.**  After any calls, the hits and misses together are the
calls that asked for a program; the hits are those of them whose text was read and bound
since the last change; the bound texts are counted once for each of the others whose text
could be bound then; the remembered programs are as many as the texts that were read and
bound since the last change; and the epoch has grown by one with each registration.  A call
whose text cannot be read or bound leaves the remembered programs as they were. -/
theorem stats_performAll (start : Registry) (calls : List Call) :
    let engine := ((ofRegistry start).performAll calls).2
    engine.stats.cacheHits + engine.stats.cacheMisses =
      (calls.countP fun call => call.text?.isSome) ∧
    engine.stats.cacheHits = tally (Hits start) calls ∧
    engine.stats.compilations = tally (Binds start) calls ∧
    engine.stats.cachedPrograms = {text | Known start calls text}.ncard ∧
    engine.stats.epoch = start.epoch + calls.countP Call.isRegister ∧
    ∀ call text, call.text? = some text → ¬ Compiles (registryAfterAll start calls) text →
      (engine.perform call).2.programs = engine.programs := by
  have h := counted_performAll start calls
  refine ⟨h.queries, h.hits, h.compilations, ?_, h.epoch, fun call text htext hrefused => ?_⟩
  · have htexts : {text | Known start calls text} =
        {text | (((ofRegistry start).performAll calls).2.programs.get? text).isSome = true} := by
      ext text
      exact (h.remembers text).symm
    rw [htexts, ← length_eq_ncard h.ascending]
    rfl
  · rw [← h.registry] at hrefused
    rw [perform_query htext]
    rcases program_cases _ text with ⟨-, hafter⟩ | ⟨-, -, hafter⟩ | ⟨-, hcompiles, -⟩
    · rw [hafter]
    · rw [hafter]
    · exact absurd hcompiles hrefused

example :
    ((ofRegistry .empty).performAll
      [.validate "1", .evaluate "a" [], .validate "1", .validate "1 +", .clear,
        .validate "1"]).2.stats = ⟨3, 1, 4, 1, 0⟩ := by
  decide +kernel

end Formulary.Engine
