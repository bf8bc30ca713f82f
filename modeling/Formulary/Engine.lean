import Formulary.Expr.Form
import Formulary.RecordContext

/-!
# Engines

An engine evaluates texts.  It remembers the program of every text that could be
bound, as long as no function is registered; a text that could not be read or bound,
and the results of runs, are not remembered.  It counts what it does.
-/

namespace Formulary

/-! ## Errors -/

/-- Why an engine has no value for a text. -/
inductive EngineError where
  /-- The text is no formula. -/
  | parse (source : ParseError)
  /-- The formula cannot be bound. -/
  | bind (source : BindError)
  /-- The program has no value in the context. -/
  | run (source : RuntimeError)
  deriving DecidableEq

namespace EngineError

/-- The name of the step that failed. -/
def step : EngineError → String
  | .parse _ => "parse"
  | .bind _ => "compile"
  | .run _ => "runtime"

/-- The message of an error. -/
def message : EngineError → String
  | .parse source => "Parse error: " ++ source.message
  | .bind source => "Compile error: " ++ source.message
  | .run source => "Runtime error: " ++ source.message

end EngineError

/-! ## Engines and their counts -/

/-- The state of an engine.  Its counts have no bound: that they would start again from zero
after `2 ^ 64` calls is left out. -/
structure Engine where
  /-- The functions that texts can call. -/
  registry : Registry
  /-- The remembered programs, under their texts. -/
  programs : Fields Program
  /-- How many texts were bound. -/
  compilations : Nat
  /-- How often a program was remembered. -/
  hits : Nat
  /-- How often none was. -/
  misses : Nat

/-- What an engine tells of itself.  These counts have no bound either, so none of them starts
again from zero after `2 ^ 64` calls. -/
structure EngineStats where
  compilations : Nat
  cacheHits : Nat
  cacheMisses : Nat
  cachedPrograms : Nat
  epoch : Nat
  deriving DecidableEq

namespace Engine

/-- A new engine for a registry. -/
def ofRegistry (registry : Registry) : Engine := ⟨registry, [], 0, 0, 0⟩

/-- A new engine for the functions of the language. -/
def new (surroundings : Surroundings) : Engine :=
  ofRegistry (.standard surroundings)

/-- What an engine tells of itself. -/
def stats (engine : Engine) : EngineStats :=
  ⟨engine.compilations, engine.hits, engine.misses, engine.programs.length,
    engine.registry.epoch⟩

/-! ## Programs -/

/-- The program of a text under a registry. -/
def compile (registry : Registry) (text : String) : Except EngineError Program :=
  match parse text with
  | .error e => .error (.parse e)
  | .ok expr =>
    match Program.compile text expr registry with
    | .error e => .error (.bind e)
    | .ok program => .ok program

/-- The program of a text, and the engine that remembers it. -/
def program (engine : Engine) (text : String) : Except EngineError Program × Engine :=
  match engine.programs.get? text with
  | some program => (.ok program, { engine with hits := engine.hits + 1 })
  | none =>
    let missed := { engine with misses := engine.misses + 1 }
    match compile engine.registry text with
    | .error e => (.error e, missed)
    | .ok program =>
      (.ok program,
        { missed with
          compilations := engine.compilations + 1
          programs := engine.programs.insert text program })

/-! ## Evaluation -/

/-- The value of a program in a context, as an engine reports it. -/
def run (program : Program) (context : Context) : Except EngineError Value :=
  match program.run context with
  | .error e => .error (.run e)
  | .ok value => .ok value

/-- The value as a condition: it has to be a truth value. -/
def condition (value : Value) : Except EngineError Bool :=
  match value.expectBool "condition" with
  | .error e => .error (.run e)
  | .ok b => .ok b

/-- The value of a text in a context. -/
def evaluate (engine : Engine) (text : String) (context : Context) :
    Except EngineError Value × Engine :=
  let (program, engine) := engine.program text
  (program.bind fun program => run program context, engine)

/-- The value of a text in the context of a record. -/
def evaluateFormula (engine : Engine) (text : String) (context : RecordContext) :
    Except EngineError Value × Engine :=
  engine.evaluate text context.flatten

/-- The truth value of a text in a context. -/
def evaluateCondition (engine : Engine) (text : String) (context : Context) :
    Except EngineError Bool × Engine :=
  let (value, engine) := engine.evaluate text context
  (value.bind condition, engine)

/-- A text can be read and bound. -/
def validate (engine : Engine) (text : String) : Except EngineError Unit × Engine :=
  let (program, engine) := engine.program text
  (program.map fun _ => (), engine)

/-! ## Changes -/

/-- Adds a function, or puts it in the place of the one that had its name, and forgets
all programs. -/
def register (engine : Engine) (name : String) (function : Native) : Engine :=
  { engine with
    registry := engine.registry.registerNative name function
    programs := [] }

/-- Forgets all programs. -/
def clear (engine : Engine) : Engine :=
  { engine with programs := [] }

/-- The catalog of the functions. -/
def definitions (engine : Engine) : List FunctionDefinition :=
  engine.registry.definitions

end Engine

end Formulary
