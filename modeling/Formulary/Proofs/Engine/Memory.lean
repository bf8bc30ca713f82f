import Formulary.Proofs.Program.HasValue

/-!
# Remembered programs

An engine remembers the programs of texts, and nobody who calls it can tell: it answers every
call as if it read and bound the text anew.

* `Call`, `perform`, `performAll` — what an engine can be asked to do, and its answers to some
  calls in a row;
* `answerAnew`, `answersAnew` — the answers of an engine that remembers nothing;
* `Faithful` — what a remembered program promises; every call keeps it (`perform_spec`);
* `performAll_eq_answersAnew` — the two engines cannot be told apart.
-/

namespace Formulary.Engine

/-! ## Calls and answers -/

/-- What an engine can be asked to do. -/
inductive Call where
  | evaluate (text : String) (context : Context)
  | evaluateFormula (text : String) (context : RecordContext)
  | evaluateCondition (text : String) (context : Context)
  | validate (text : String)
  | register (name : String) (function : Native)
  | clear

/-- What an engine answers. -/
inductive Answer where
  | value (result : Except EngineError Value)
  | truth (result : Except EngineError Bool)
  | verdict (result : Except EngineError Unit)
  /-- A change has no result. -/
  | done

/-- The answer to a call, and the engine after it. -/
def perform (engine : Engine) : Call → Answer × Engine
  | .evaluate text context =>
    let (result, engine) := engine.evaluate text context
    (.value result, engine)
  | .evaluateFormula text context =>
    let (result, engine) := engine.evaluateFormula text context
    (.value result, engine)
  | .evaluateCondition text context =>
    let (result, engine) := engine.evaluateCondition text context
    (.truth result, engine)
  | .validate text =>
    let (result, engine) := engine.validate text
    (.verdict result, engine)
  | .register name function => (.done, engine.register name function)
  | .clear => (.done, engine.clear)

/-- The answers to some calls in a row, and the engine after them. -/
def performAll (engine : Engine) : List Call → List Answer × Engine
  | [] => ([], engine)
  | call :: rest =>
    let (answer, engine) := engine.perform call
    let (answers, engine) := engine.performAll rest
    (answer :: answers, engine)

/-! ## Answers without a memory

All that such an engine has is its registry. -/

/-- The program of a text, read and bound anew. -/
def programAnew (registry : Registry) (text : String) : Except EngineError Program := do
  let expr ← (parse text).mapError .parse
  (Program.compile text expr registry).mapError EngineError.bind

/-- The value of a text, read, bound and run anew. -/
def valueAnew (registry : Registry) (text : String) (context : Context) :
    Except EngineError Value := do
  let program ← programAnew registry text
  (program.run context).mapError .run

/-- The truth value of a text; any other value is an error. -/
def truthAnew (registry : Registry) (text : String) (context : Context) :
    Except EngineError Bool := do
  match ← valueAnew registry text context with
  | .bool b => return b
  | other => throw (.run (.notBoolean "condition" other.kind))

/-- The answer to a call under a registry. -/
def answerAnew (registry : Registry) : Call → Answer
  | .evaluate text context => .value (valueAnew registry text context)
  | .evaluateFormula text context => .value (valueAnew registry text context.flatten)
  | .evaluateCondition text context => .truth (truthAnew registry text context)
  | .validate text => .verdict ((programAnew registry text).map fun _ => ())
  | .register _ _ => .done
  | .clear => .done

/-- The registry after a call: only a registration changes it. -/
def registryAfter (registry : Registry) : Call → Registry
  | .register name function => registry.registerNative name function
  | _ => registry

/-- The answers to some calls in a row, each under the registry as it stands then. -/
def answersAnew (registry : Registry) : List Call → List Answer
  | [] => []
  | call :: rest => answerAnew registry call :: answersAnew (registryAfter registry call) rest

/-! ## The parts of an answer -/

variable {engine : Engine} {registry : Registry}

theorem compile_eq_anew (registry : Registry) (text : String) :
    compile registry text = programAnew registry text := by
  unfold compile programAnew
  cases parse text with
  | error e => rfl
  | ok expr =>
    simp only [Except.mapError, bind, Except.bind]
    cases Program.compile text expr registry with
    | error e => rfl
    | ok program => rfl

theorem run_eq_mapError (program : Program) (context : Context) :
    run program context = (program.run context).mapError .run := by
  unfold run
  cases program.run context with
  | error e => rfl
  | ok value => rfl

theorem valueAnew_eq (registry : Registry) (text : String) (context : Context) :
    (programAnew registry text).bind (run · context) = valueAnew registry text context := by
  simp only [run_eq_mapError]
  rfl

theorem truthAnew_eq (registry : Registry) (text : String) (context : Context) :
    (valueAnew registry text context).bind condition = truthAnew registry text context := by
  unfold truthAnew
  cases valueAnew registry text context with
  | error e => rfl
  | ok value => cases value <;> rfl

/-- A program tells the epoch of the registry that it was bound to. -/
theorem epoch_of_programAnew {text : String} {program : Program}
    (h : programAnew registry text = .ok program) : program.epoch = registry.epoch := by
  rw [← compile_eq_anew] at h
  unfold compile Program.compile at h
  cases hparse : parse text with
  | error e => simp [hparse] at h
  | ok expr =>
    cases hbind : Node.bind registry expr with
    | error e => simp [hparse, hbind] at h
    | ok root =>
      simp only [hparse, hbind] at h
      rw [← Except.ok.inj h]

/-! ## What a remembered program promises -/

/-- Every remembered program is the one that its text has under the registry as it stands. -/
def Faithful (engine : Engine) : Prop :=
  ∀ field ∈ engine.programs, programAnew engine.registry field.1 = .ok field.2

theorem faithful_ofRegistry (registry : Registry) : Faithful (ofRegistry registry) :=
  fun _ h => absurd h List.not_mem_nil

theorem Faithful.get? (h : Faithful engine) {text : String} {program : Program}
    (hget : engine.programs.get? text = some program) :
    programAnew engine.registry text = .ok program :=
  h (text, program) (Fields.mem_of_get? hget)

/-- Whether a program is remembered or not, it is the one that the text has, and the engine
that remembers it is faithful again. -/
theorem program_spec (h : Faithful engine) (text : String) :
    (engine.program text).1 = programAnew engine.registry text ∧
      (engine.program text).2.registry = engine.registry ∧
      Faithful (engine.program text).2 := by
  unfold program
  cases hget : engine.programs.get? text with
  | some program => exact ⟨(h.get? hget).symm, rfl, h⟩
  | none =>
    rw [compile_eq_anew]
    cases hprogram : programAnew engine.registry text with
    | error e => exact ⟨rfl, rfl, h⟩
    | ok program =>
      refine ⟨rfl, rfl, fun field hfield => ?_⟩
      rcases Fields.mem_insert hfield with rfl | hold
      · exact hprogram
      · exact h field hold

/-! ## One call, and some calls in a row -/

/-- A call is answered as without a memory, changes the registry only by a registration, and
leaves the engine faithful. -/
theorem perform_spec (h : Faithful engine) (call : Call) :
    (engine.perform call).1 = answerAnew engine.registry call ∧
      (engine.perform call).2.registry = registryAfter engine.registry call ∧
      Faithful (engine.perform call).2 := by
  cases call with
  | evaluate text context =>
    obtain ⟨hprogram, hkeeps⟩ := program_spec h text
    refine ⟨?_, hkeeps⟩
    simp only [perform, evaluate, answerAnew, hprogram, valueAnew_eq]
  | evaluateFormula text context =>
    obtain ⟨hprogram, hkeeps⟩ := program_spec h text
    refine ⟨?_, hkeeps⟩
    simp only [perform, evaluateFormula, evaluate, answerAnew, hprogram, valueAnew_eq]
  | evaluateCondition text context =>
    obtain ⟨hprogram, hkeeps⟩ := program_spec h text
    refine ⟨?_, hkeeps⟩
    simp only [perform, evaluateCondition, evaluate, answerAnew, hprogram, valueAnew_eq,
      truthAnew_eq]
  | validate text =>
    obtain ⟨hprogram, hkeeps⟩ := program_spec h text
    refine ⟨?_, hkeeps⟩
    simp only [perform, validate, answerAnew, hprogram]
  | register name function =>
    -- a registration may change what any text means, and no program stays
    exact ⟨rfl, rfl, fun _ hfield => absurd hfield List.not_mem_nil⟩
  | clear => exact ⟨rfl, rfl, fun _ hfield => absurd hfield List.not_mem_nil⟩

theorem performAll_spec (h : Faithful engine) (calls : List Call) :
    (engine.performAll calls).1 = answersAnew engine.registry calls ∧
      (engine.performAll calls).2.registry = calls.foldl registryAfter engine.registry ∧
      Faithful (engine.performAll calls).2 := by
  induction calls generalizing engine with
  | nil => exact ⟨rfl, rfl, h⟩
  | cons call rest ih =>
    obtain ⟨hanswer, hregistry, hfaithful⟩ := perform_spec h call
    obtain ⟨hanswers, hafter, hend⟩ := ih hfaithful
    rw [hregistry] at hanswers hafter
    refine ⟨?_, hafter, hend⟩
    simp only [performAll, answersAnew, hanswer, hanswers]

/-! ## Verdicts and conditions -/

/-- An evaluation that ends before its program is run: the text cannot be read or bound. -/
def StopsEarly (result : Except EngineError Value) : Prop :=
  (∃ source, result = .error (.parse source)) ∨ ∃ source, result = .error (.bind source)

theorem programAnew_eq_error {text : String} {e : EngineError}
    (h : programAnew registry text = .error e) :
    (∃ source, e = .parse source) ∨ ∃ source, e = .bind source := by
  rw [← compile_eq_anew] at h
  unfold compile at h
  cases hparse : parse text with
  | error source =>
    simp only [hparse] at h
    exact .inl ⟨source, (Except.error.inj h).symm⟩
  | ok expr =>
    cases hcompile : Program.compile text expr registry with
    | error source =>
      simp only [hparse, hcompile] at h
      exact .inr ⟨source, (Except.error.inj h).symm⟩
    | ok program => simp [hparse, hcompile] at h

theorem not_stopsEarly_run (program : Program) (context : Context) :
    ¬ StopsEarly (run program context) := by
  unfold run
  cases program.run context with
  | error e => simp [StopsEarly]
  | ok value => simp [StopsEarly]

/-- A text passes exactly if its evaluation, in whichever context, comes to running a program. -/
theorem validate_eq_ok_iff (h : Faithful engine) (text : String) (context : Context) :
    (engine.validate text).1 = .ok () ↔ ¬ StopsEarly (engine.evaluate text context).1 := by
  obtain ⟨hprogram, -⟩ := program_spec h text
  simp only [validate, evaluate, hprogram]
  cases hanew : programAnew engine.registry text with
  | ok program => exact ⟨fun _ => not_stopsEarly_run program context, fun _ => rfl⟩
  | error e =>
    constructor
    · intro hok
      cases hok
    · intro hruns
      rcases programAnew_eq_error hanew with ⟨source, rfl⟩ | ⟨source, rfl⟩
      · exact absurd (.inl ⟨source, rfl⟩) hruns
      · exact absurd (.inr ⟨source, rfl⟩) hruns

/-- **The memory cannot be noticed.**  After any calls an engine has given the answers of one
that remembers nothing, and each program that it remembers is the one that its text has now,
of the current epoch.  A text passes exactly if no evaluation of it stops early, and a
condition has a truth value exactly if that is the value of its text. -/
theorem performAll_eq_answersAnew (registry : Registry) (calls : List Call) :
    let (answers, engine) := (ofRegistry registry).performAll calls
    answers = answersAnew registry calls ∧
    engine.registry = calls.foldl registryAfter registry ∧
    (∀ field ∈ engine.programs, programAnew engine.registry field.1 = .ok field.2 ∧
      field.2.epoch = engine.registry.epoch) ∧
    (∀ text context, (engine.validate text).1 = .ok () ↔
      ¬ StopsEarly (engine.evaluate text context).1) ∧
    ∀ text context b, (engine.evaluateCondition text context).1 = .ok b ↔
      (engine.evaluate text context).1 = .ok (.bool b) := by
  obtain ⟨hanswers, hregistry, hfaithful⟩ := performAll_spec (faithful_ofRegistry registry) calls
  refine ⟨hanswers, hregistry, fun field hfield => ?_, validate_eq_ok_iff hfaithful,
    evaluateCondition_eq_ok_iff _⟩
  have hprogram := hfaithful field hfield
  exact ⟨hprogram, epoch_of_programAnew hprogram⟩

end Formulary.Engine
