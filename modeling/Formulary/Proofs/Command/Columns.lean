import Formulary.Command.Run
import Formulary.Proofs.Command.Documents
import Formulary.Proofs.Command.Requests
import Formulary.Proofs.Sql.Columns
import Formulary.Proofs.Sql.Rollup

/-!
# Lists of columns on their way to the compiler

A list of columns is given on the command line, in the environment or in the document of settings.
Two commands compile a formula, and both keep to the list that counts.

* `Compilation` — what a command has the compiler do, with a restriction or without;
* `outcome_allowed_iff` — a list decides about a compilation, and never changes what it reports;
* `allowList` — the list that counts for the words of a command line;
* `run_allowList` — the list that counts is the one that the compiler gets.
-/

namespace Formulary

/-! ## Rollups with a list -/

namespace Sql.Rollup

variable {allowed : List String}

theorem filterText?_eq (rollup : Rollup) :
    rollup.filterText? = rollup.filter.filter fun text => ¬ Text.AllWhite text := by
  unfold filterText?
  cases rollup.filter with
  | none => rfl
  | some text =>
    by_cases hblank : Text.AllWhite text
    · simp [Option.filter, hblank]
    · simp [Option.filter, hblank]

/-- With a list a filter has a predicate exactly if it has it without one and keeps to the list; a
filter of blanks has none. -/
theorem filterPredicate_allowed_iff (rollup : Rollup) {filter : Option Predicate} :
    ({ rollup with columns := some allowed } : Rollup).filterPredicate = .ok filter ↔
      ({ rollup with columns := none } : Rollup).filterPredicate = .ok filter ∧
        ∀ text, rollup.filterText? = some text → KeepsTo allowed text := by
  have htext : ∀ columns, ({ rollup with columns := columns } : Rollup).filterText? =
      rollup.filterText? := fun _ => rfl
  simp only [filterPredicate_eq_ok_iff, htext, compile_allowed_iff]
  constructor
  · rintro (⟨hnone, rfl⟩ | ⟨text, fragment, hsome, ⟨hfree, hkeeps⟩, rfl⟩)
    · exact ⟨.inl ⟨hnone, rfl⟩, fun text hsome => by cases hnone.symm.trans hsome⟩
    · refine ⟨.inr ⟨text, fragment, hsome, hfree, rfl⟩, fun other hother => ?_⟩
      obtain rfl := Option.some.inj (hsome.symm.trans hother)
      exact hkeeps
  · rintro ⟨⟨hnone, rfl⟩ | ⟨text, fragment, hsome, hfree, rfl⟩, hkeeps⟩
    · exact .inl ⟨hnone, rfl⟩
    · exact .inr ⟨text, fragment, hsome, ⟨hfree, hkeeps text hsome⟩, rfl⟩

/-- With a list a rollup has a statement exactly if it has it without one and its filter keeps to
the list. -/
theorem statement_allowed_iff (allowed : List String) (rollup : Rollup) (parent : String)
    (p : Predicate) :
    ({ rollup with columns := some allowed } : Rollup).statement parent = .ok p ↔
      ({ rollup with columns := none } : Rollup).statement parent = .ok p ∧
        ∀ text, rollup.filterText? = some text → KeepsTo allowed text := by
  -- only the filter looks at the columns
  have htarget : ∀ columns, ({ rollup with columns := columns } : Rollup).target =
      rollup.target := fun _ => rfl
  simp only [statement, bind_eq_ok_iff, filterPredicate_allowed_iff, htarget]
  constructor
  · rintro ⟨target, htarget, child, hchild, relationship, hrelationship, softDelete, hsoftDelete,
      filter, ⟨hfilter, hkeeps⟩, hp⟩
    exact ⟨⟨target, htarget, child, hchild, relationship, hrelationship, softDelete, hsoftDelete,
      filter, hfilter, hp⟩, hkeeps⟩
  · rintro ⟨⟨target, htarget, child, hchild, relationship, hrelationship, softDelete, hsoftDelete,
      filter, hfilter, hp⟩, hkeeps⟩
    exact ⟨target, htarget, child, hchild, relationship, hrelationship, softDelete, hsoftDelete,
      filter, ⟨hfilter, hkeeps⟩, hp⟩

end Sql.Rollup

/-! ## Compilations -/

/-- What a command has the compiler do. -/
inductive Compilation where
  /-- The predicate of a formula. -/
  | predicate (formula : String)
  /-- The statement of a rollup. -/
  | rollup (function child relationship : String) (field filter : Option String)
      (parent : String)

namespace Compilation

/-- The text that is compiled: the formula, or the filter unless it has only blanks. -/
def text? : Compilation → Option String
  | .predicate formula => some formula
  | .rollup _ _ _ _ filter _ => filter.filter fun text => ¬ Text.AllWhite text

/-- What comes of a compilation under a restriction. -/
def outcome (columns : Sql.Columns) (softDeleteField : String) :
    Compilation → Except CommandError Outcome
  | .predicate formula => .ok (Command.predicateOutcome columns formula)
  | .rollup function child relationship field filter parent =>
    Command.rollupOutcome columns softDeleteField function child relationship field filter parent

end Compilation

namespace Report

variable {ε α : Type} {toJson : α → Json} {kind message : ε → String}

/-- A success is reported of a result and of nothing else. -/
theorem ofExcept_eq_success_iff {result : Except ε α} {report : Json} :
    ofExcept toJson kind message result = .reported true report ↔
      ∃ a, result = .ok a ∧ success (toJson a) = .reported true report := by
  cases result with
  | ok a => simp [ofExcept]
  | error e => simp [ofExcept, failure]

/-- If a result is there exactly if another is and a condition holds, then so is its report. -/
theorem ofExcept_success_congr {a b : Except ε α} {condition : Prop} {report : Json}
    (h : ∀ result, a = .ok result ↔ b = .ok result ∧ condition) :
    ofExcept toJson kind message a = .reported true report ↔
      ofExcept toJson kind message b = .reported true report ∧ condition := by
  simp only [ofExcept_eq_success_iff, h]
  constructor
  · rintro ⟨result, ⟨hb, hcondition⟩, hreport⟩
    exact ⟨⟨result, hb, hreport⟩, hcondition⟩
  · rintro ⟨⟨result, hb, hreport⟩, hcondition⟩
    exact ⟨result, ⟨hb, hcondition⟩, hreport⟩

end Report

namespace Compilation

/-- With a list a compilation is reported as a success exactly if it is without one, with the same
report, and its text keeps to the list. -/
theorem outcome_allowed_iff {allowed : List String} {softDeleteField : String}
    {compilation : Compilation} {report : Json} :
    compilation.outcome (some allowed) softDeleteField = .ok (.reported true report) ↔
      compilation.outcome none softDeleteField = .ok (.reported true report) ∧
        ∀ text, compilation.text? = some text → Sql.KeepsTo allowed text := by
  cases compilation with
  | predicate formula =>
    simp only [outcome, Command.predicateOutcome, text?, Except.ok.injEq, Option.some.injEq,
      forall_eq']
    exact Report.ofExcept_success_congr fun p => Sql.compile_allowed_iff
  | rollup function child relationship field filter parent =>
    simp only [outcome, Command.rollupOutcome]
    cases Sql.RollupFunction.parse function with
    | error e => simp
    | ok function =>
      simp only [Except.ok.injEq]
      refine Report.ofExcept_success_congr fun p => ?_
      have h := Sql.Rollup.statement_allowed_iff allowed
        ⟨function, child, relationship, field, filter, softDeleteField, none⟩ parent p
      rw [Sql.Rollup.filterText?_eq] at h
      exact h

end Compilation

/-! ## Lists that count -/

/-- What a command has the compiler do, if it has it do anything. -/
def Command.compilation? : Command → Option Compilation
  | .predicate formula _ => some (.predicate formula)
  | .rollup function child relationship field filter parent =>
    some (.rollup function child relationship field filter parent)
  | _ => none

/-- The text that is compiled is the one that the words name. -/
theorem Compilation.text?_eq_namedText {words : List String} {asked : Request}
    {compilation : Compilation} (hwords : CommandLine.ofWords words = .request asked)
    (hcompiles : asked.command.compilation? = some compilation) :
    compilation.text? = namedText words := by
  cases hcommand : asked.command with
  | predicate formula columns =>
    rw [hcommand] at hcompiles
    obtain rfl := Option.some.inj hcompiles
    exact (CommandLine.namedText_of_predicate hwords hcommand).symm
  | rollup function child relationship field filter parent =>
    rw [hcommand] at hcompiles
    obtain rfl := Option.some.inj hcompiles
    exact (CommandLine.namedText_of_rollup hwords hcommand).symm
  | _ =>
    rw [hcommand] at hcompiles
    cases hcompiles

variable {σ : Type}

/-- The path of the document: it is named on the command line or else in the environment, or it is
the one that is looked for in any case. -/
def documentPath (environment : Environment) (named : Option String) : String :=
  (named.or (environment.lookup "FORMULA_CONFIG")).getD "formula.yaml"

/-- The columns that the document lists, if there is one. -/
def documentColumns (host : Host (StateM σ)) (environment : Environment) (named : Option String)
    (start : σ) : List String :=
  match ((host.textAt (documentPath environment named)).run start).1 with
  | .found text => ((host.document? text).map Yaml.listedColumns).getD []
  | _ => []

/-- The columns that the environment lists, or else the document. -/
def configuredColumns (host : Host (StateM σ)) (environment : Environment) (named : Option String)
    (start : σ) : List String :=
  match environment.lookup "FORMULA_ALLOWED_COLUMNS" with
  | some text => listedNames text
  | none => documentColumns host environment named start

/-- The list of columns that counts for some words: the columns that they name, or else the
configured ones. -/
def allowList (host : Host (StateM σ)) (environment : Environment) (words : List String)
    (start : σ) : List String :=
  if namedColumns words = [] then configuredColumns host environment (namedDocument words) start
  else namedColumns words

/-! ## Runs -/

/-- One step after the other. -/
theorem run_bind_eq {α β : Type} (step : StateM σ α) (next : α → StateM σ β) (start : σ) :
    (step >>= next).run start = (next (step.run start).1).run (step.run start).2 := rfl

namespace Settings

variable {host : Host (StateM σ)} {environment : Environment} {named : Option String}
  {start : σ} {settings : Settings}

theorem ofDocument_eq_ok {path : String} {document : Option Yaml}
    (h : ofDocument environment path document = .ok settings) :
    ∃ written, document.bind ofYaml? = some written ∧ settings = written.override environment := by
  unfold ofDocument at h
  cases hwritten : document.bind ofYaml? with
  | none => simp [hwritten] at h
  | some written =>
    rw [hwritten] at h
    exact ⟨written, rfl, (Except.ok.inj h).symm⟩

/-- Settings are those of the document, or the standard ones if there is none, with what the
environment says in their place. -/
theorem discover_eq_ok
    (h : ((discover host environment named).run start).1 = .ok settings) :
    ∃ written : Settings, settings = written.override environment ∧
      written.sql.allowedColumns = documentColumns host environment named start := by
  have hchosen : (named.orElse fun _ => environment.get? "FORMULA_CONFIG") =
      named.or (environment.lookup "FORMULA_CONFIG") := by
    cases named <;> rfl
  simp only [discover, run_bind_eq, hchosen] at h
  rw [documentColumns, documentPath]
  cases hfound : ((host.textAt
      ((named.or (environment.lookup "FORMULA_CONFIG")).getD "formula.yaml")).run start).1 with
  | found text =>
    simp only [defaultPath, hfound] at h
    obtain ⟨written, hwritten, rfl⟩ := ofDocument_eq_ok h
    obtain ⟨document, hdocument, hwritten⟩ := Option.bind_eq_some_iff.1 hwritten
    refine ⟨written, rfl, ?_⟩
    simp only [hdocument, Option.map_some, Option.getD_some]
    exact allowedColumns_of_ofYaml? hwritten
  | absent =>
    simp only [defaultPath, hfound] at h
    split at h
    · exact ⟨standard, (Except.ok.inj h).symm, rfl⟩
    · cases h
  | unreadable =>
    simp only [defaultPath, hfound] at h
    cases h

end Settings

/-- The settings that are found have the configured columns. -/
theorem allowedColumns_of_discover {host : Host (StateM σ)} {environment : Environment}
    {named : Option String} {start : σ} {settings : Settings}
    (h : ((Settings.discover host environment named).run start).1 = .ok settings) :
    settings.sql.allowedColumns = configuredColumns host environment named start := by
  obtain ⟨written, rfl, hcolumns⟩ := Settings.discover_eq_ok h
  have hvariable : environment.get? "FORMULA_ALLOWED_COLUMNS" =
      environment.lookup "FORMULA_ALLOWED_COLUMNS" := rfl
  rw [configuredColumns, Settings.override, SqlSettings.override, hvariable]
  cases environment.lookup "FORMULA_ALLOWED_COLUMNS" with
  | some text => exact columnNames_eq_listedNames text
  | none => exact hcolumns

/-- The compiler gets the list that counts, unless the list is empty. -/
theorem predicateColumns_eq {host : Host (StateM σ)} {environment : Environment} {asked : Request}
    {words : List String} {start : σ} {settings : Settings}
    (hwords : CommandLine.ofWords words = .request asked)
    (h : ((Settings.discover host environment (namedDocument words)).run start).1 = .ok settings) :
    Command.predicateColumns settings.sql asked.command.namedColumns =
      if allowList host environment words start = [] then none
      else some (allowList host environment words start) := by
  unfold Command.predicateColumns SqlSettings.columns allowList
  rw [CommandLine.namedColumns_of_ofWords hwords, allowedColumns_of_discover h]
  by_cases hnamed : namedColumns words = []
  · simp [hnamed]
  · simp [hnamed]

/-- A command that compiles only reads the settings. -/
theorem Command.run_eq_outcome {m : Type → Type} [Monad m] (host : Host m)
    (surroundings : Surroundings) (settings : Settings) {command : Command}
    {compilation : Compilation} (h : command.compilation? = some compilation) :
    command.run host surroundings settings =
      pure (compilation.outcome (predicateColumns settings.sql command.namedColumns)
        settings.sql.softDeleteField) := by
  cases command with
  | predicate formula columns =>
    simp only [compilation?, Option.some.injEq] at h
    subst h
    rfl
  | rollup function child relationship field filter parent =>
    simp only [compilation?, Option.some.injEq] at h
    subst h
    rfl
  | _ => simp [compilation?] at h

namespace CommandLine

section Runs

variable {host : Host (StateM σ)} {surroundings : Surroundings} {environment : Environment}
  {named : Option String} {start : σ}

theorem runRequest_eq_runWith {asked : Request} {compilation : Compilation}
    (h : asked.command.compilation? = some compilation) :
    runRequest host surroundings environment asked =
      runWith host surroundings environment asked.settings fun settings =>
        pure (compilation.outcome
          (Command.predicateColumns settings.sql asked.command.namedColumns)
          settings.sql.softDeleteField) := by
  rw [runRequest, funext fun settings => Command.run_eq_outcome host surroundings settings h]

/-- A report is made if there are settings and the log can be opened. -/
theorem runWith_eq_reported {outcome : Settings → Except CommandError Outcome} {success : Bool}
    {report : Json} :
    ((runWith host surroundings environment named fun settings =>
      pure (outcome settings)).run start).1 =
        .reported success report ↔
      ∃ settings, ((Settings.discover host environment named).run start).1 = .ok settings ∧
        ((openLog host surroundings settings.logging).run
          ((Settings.discover host environment named).run start).2).1 = true ∧
        outcome settings = .ok (.reported success report) := by
  rw [runWith, run_bind_eq]
  cases hfound : ((Settings.discover host environment named).run start).1 with
  | error e => simp
  | ok settings =>
    simp only [run_bind_eq, Except.ok.injEq, exists_eq_left']
    cases ((openLog host surroundings settings.logging).run
        ((Settings.discover host environment named).run start).2).1 with
    | false => simp
    | true =>
      cases outcome settings with
      | error e => simp
      | ok reached =>
        simp only [if_true, true_and, Except.ok.injEq]
        exact Iff.rfl

/-- Only what is done with the settings that are found matters. -/
theorem runWith_congr {action other : Settings → StateM σ (Except CommandError Outcome)}
    (h : ∀ settings, ((Settings.discover host environment named).run start).1 = .ok settings →
      action settings = other settings) :
    ((runWith host surroundings environment named action).run start).1 =
      ((runWith host surroundings environment named other).run start).1 := by
  rw [runWith, runWith, run_bind_eq, run_bind_eq]
  cases hfound : ((Settings.discover host environment named).run start).1 with
  | error e => rfl
  | ok settings => simp only [h settings hfound]

end Runs

/-- **Lists of columns reach the compiler.**  Take a command line whose command compiles, with any
files, environment and file of assignments.  The list that counts is that of the command line, or
else of the environment, or else of the document.  If it is empty, the outcome is that of the
compiler without a restriction.  If it is not, a success is reported exactly if that compiler has
it reported, with the same report, and every identifier of the compiled text is on the list. -/
theorem run_allowList (host : Host (StateM σ)) (surroundings : Surroundings)
    (environment : Environment) (environmentFile : Option String) (words : List String) (start : σ)
    {asked : Request} {compilation : Compilation} (hwords : ofWords words = .request asked)
    (hcompiles : asked.command.compilation? = some compilation) :
    let known := (environmentFile.map (EnvFile.load environment)).getD environment
    let allowed := allowList host known words start
    let outcome := ((run host surroundings environment environmentFile words).run start).1
    let free := ((runWith host surroundings known (namedDocument words) fun settings =>
      pure (compilation.outcome none settings.sql.softDeleteField)).run start).1
    EnvFile.Extends environment environmentFile known ∧
    (allowed = [] → outcome = free) ∧
    (allowed ≠ [] → ∀ report, outcome = .reported true report ↔
      free = .reported true report ∧
        ∀ text, namedText words = some text → Sql.KeepsTo allowed text) := by
  intro known allowed outcome free
  obtain ⟨name, rest, form, arguments, -, -, -, -, hdocument⟩ := ofWords_eq_request hwords
  have houtcome : outcome = ((runWith host surroundings known (namedDocument words) fun settings =>
      pure (compilation.outcome (Command.predicateColumns settings.sql asked.command.namedColumns)
        settings.sql.softDeleteField)).run start).1 := by
    rw [← hdocument, ← runRequest_eq_runWith hcompiles]
    simp only [outcome, run, hwords, known]
    cases environmentFile with
    | none => rfl
    | some text => rfl
  rw [houtcome]
  refine ⟨EnvFile.extends_load environment environmentFile, ?_, ?_⟩
  · intro hempty
    refine runWith_congr fun settings hfound => ?_
    rw [predicateColumns_eq hwords hfound, if_pos hempty]
  · intro hlist report
    rw [← Compilation.text?_eq_namedText hwords hcompiles]
    simp only [runWith_eq_reported, free]
    constructor
    · rintro ⟨settings, hfound, hopened, hreport⟩
      rw [predicateColumns_eq hwords hfound, if_neg hlist,
        Compilation.outcome_allowed_iff] at hreport
      exact ⟨⟨settings, hfound, hopened, hreport.1⟩, hreport.2⟩
    · rintro ⟨⟨settings, hfound, hopened, hreport⟩, hkeeps⟩
      refine ⟨settings, hfound, hopened, ?_⟩
      rw [predicateColumns_eq hwords hfound, if_neg hlist]
      exact Compilation.outcome_allowed_iff.2 ⟨hreport, hkeeps⟩

/-- Each place where a list can stand has its say: the document that is looked for or named, the
variable of the environment or of the file of assignments, and the words.  A list without names
restricts nothing. -/
theorem run_allowList_places :
    let directory := Directory.ofFiles [("formula.yaml", "sql:\n  allowed_columns: [Owner]\n"),
      ("other", "sql: \x7ballowed_columns: [Amount]\x7d")]
    let outcome (environment : Environment) (file : Option String) (words : List String) :=
      ((run Directory.host ⟨"", "", id⟩ environment file words).run directory).1
    let compiled (sql : String) (params : List Json) : Outcome :=
      .reported true (.object
        [("result", .object [("params", .array params), ("sql", .string sql)]),
         ("success", .bool true)])
    let rollup (filter : String) : List String :=
      ["rollup", "--function", "COUNT", "--child=C", "--relationship=r", "--filter", filter, "p"]
    let narrowed := "SELECT COUNT(*) FROM \x60C\x60 WHERE \x60r\x60 = ?"
      ++ " AND \x60is_deleted\x60 = false AND ((Owner > ?))"
    let listed : Environment := [("FORMULA_ALLOWED_COLUMNS", "Stage,, Amount ")]
    -- the document
    outcome [] none ["sql", "Owner > 1"] = compiled "(Owner > ?)" [.integer 1] ∧
    (∀ report, outcome [] none ["sql", "Amount > 1"] ≠ .reported true report) ∧
    outcome [] none (rollup "Owner > 1") = compiled narrowed [.string "p", .integer 1] ∧
    (∀ report, outcome [] none (rollup "Amount > 1") ≠ .reported true report) ∧
    outcome [] none ["--config", "other", "sql", "Amount > 1"] =
      compiled "(Amount > ?)" [.integer 1] ∧
    -- the environment
    outcome listed none ["sql", "Amount > 1"] = compiled "(Amount > ?)" [.integer 1] ∧
    (∀ report, outcome listed none ["sql", "Owner > 1"] ≠ .reported true report) ∧
    outcome [] (some "FORMULA_ALLOWED_COLUMNS=Amount\n") ["sql", "Amount > 1"] =
      compiled "(Amount > ?)" [.integer 1] ∧
    outcome [("FORMULA_ALLOWED_COLUMNS", " ,")] none ["sql", "Amount > 1"] =
      compiled "(Amount > ?)" [.integer 1] ∧
    -- the words
    outcome listed none ["sql", "--column=Code", "Owner > 1", "--column", "Owner"] =
      compiled "(Owner > ?)" [.integer 1] ∧
    (∀ report, outcome listed none ["sql", "--column=Code", "Amount > 1"] ≠
      .reported true report) := by
  intro directory outcome compiled rollup narrowed listed
  have hamount : parse "Amount > 1" =
      .ok (.binary .gt (.identifier ⟨["Amount"]⟩) (.literal (.int 1))) := by
    decide +kernel
  have howner : parse "Owner > 1" =
      .ok (.binary .gt (.identifier ⟨["Owner"]⟩) (.literal (.int 1))) := by
    decide +kernel
  have hfreeAmount : Sql.compile none "Amount > 1" = .ok ⟨"(Amount > ?)", [.int 1]⟩ := by
    decide +kernel
  have hfreeOwner : Sql.compile none "Owner > 1" = .ok ⟨"(Owner > ?)", [.int 1]⟩ := by
    decide +kernel
  have hcompile : ∀ {formula sql : String} (field : String),
      Sql.compile none formula = .ok ⟨sql, [.int 1]⟩ →
      (Compilation.predicate formula).outcome none field =
        .ok (compiled sql [.integer 1]) := by
    intro formula sql field hfree
    rw [Compilation.outcome, Command.predicateOutcome, hfree]
    rfl
  have hstatement :
      (Sql.Rollup.mk .count "C" "r" none (some "Owner > 1") "is_deleted" none).statement "p" =
        .ok ⟨narrowed, [.string "p", .int 1]⟩ := by
    decide +kernel
  have hrollup : (Compilation.rollup "COUNT" "C" "r" none (some "Owner > 1") "p").outcome none
      "is_deleted" = .ok (compiled narrowed [.string "p", .integer 1]) := by
    have hcount : Sql.RollupFunction.parse "COUNT" = .ok .count := by decide
    simp only [Compilation.outcome, Command.rollupOutcome, hcount, hstatement]
    rfl
  have accepted : ∀ {environment : Environment} {file : Option String} {words : List String}
      {asked : Request} {compilation : Compilation} {sql : String} {params : List Json}
      (text : String) (columns allowed : List String),
      let known := (file.map (EnvFile.load environment)).getD environment
      ofWords words = .request asked → asked.command.compilation? = some compilation →
      ((Settings.discover Directory.host known (namedDocument words)).run directory).1 =
        .ok ⟨.standard, columns, "is_deleted"⟩ →
      compilation.outcome none "is_deleted" = .ok (compiled sql params) →
      namedText words = some text → allowList Directory.host known words directory = allowed →
      (allowed ≠ [] → Sql.KeepsTo allowed text) →
      outcome environment file words = compiled sql params := by
    intro environment file words asked compilation sql params text columns allowed known hwords
      hcompiles hfound hreport htext hallowed hkeeps
    obtain ⟨-, hempty, hlist⟩ := run_allowList Directory.host ⟨"", "", id⟩ environment file words
      directory hwords hcompiles
    have hfree : ((runWith Directory.host ⟨"", "", id⟩ known (namedDocument words) fun settings =>
        pure (compilation.outcome none settings.sql.softDeleteField)).run directory).1 =
          compiled sql params :=
      runWith_eq_reported.2 ⟨_, hfound, rfl, hreport⟩
    subst hallowed
    by_cases hnone : allowList Directory.host known words directory = []
    · exact (hempty hnone).trans hfree
    · refine (hlist hnone _).2 ⟨hfree, fun other hother => ?_⟩
      obtain rfl := Option.some.inj (htext.symm.trans hother)
      exact hkeeps hnone
  have refused : ∀ {environment : Environment} {words : List String} {asked : Request}
      {compilation : Compilation} {text : String} {expr : Expr} (allowed : List String),
      ofWords words = .request asked → asked.command.compilation? = some compilation →
      namedText words = some text → parse text = .ok expr →
      allowList Directory.host environment words directory = allowed → allowed ≠ [] →
      ¬ expr.columns ⊆ allowed →
      ∀ report, outcome environment none words ≠ .reported true report := by
    intro environment words asked compilation text expr allowed hwords hcompiles htext hparse
      hallowed hne hcolumns report hreport
    obtain ⟨-, -, hlist⟩ := run_allowList Directory.host ⟨"", "", id⟩ environment none words
      directory hwords hcompiles
    subst hallowed
    obtain ⟨other, hother, hkeeps⟩ := ((hlist hne report).1 hreport).2 text htext
    obtain rfl := Except.ok.inj (hparse.symm.trans hother)
    exact hcolumns hkeeps
  refine ⟨?_, ?_, ?_, ?_, ?_, ?_, ?_, ?_, ?_, ?_, ?_⟩
  · exact accepted "Owner > 1" ["Owner"] ["Owner"] rfl rfl (by decide +kernel)
      (hcompile _ hfreeOwner) (by decide +kernel) (by decide +kernel) fun _ => ⟨_, howner, by decide⟩
  · exact refused ["Owner"] rfl rfl (by decide +kernel) hamount (by decide +kernel) (by decide)
      (by decide)
  · exact accepted "Owner > 1" ["Owner"] ["Owner"] rfl rfl (by decide +kernel) hrollup
      (by decide +kernel) (by decide +kernel) fun _ => ⟨_, howner, by decide⟩
  · exact refused ["Owner"] rfl rfl (by decide +kernel) hamount (by decide +kernel) (by decide)
      (by decide)
  · exact accepted "Amount > 1" ["Amount"] ["Amount"] rfl rfl (by decide +kernel)
      (hcompile _ hfreeAmount) (by decide +kernel) (by decide +kernel) fun _ =>
        ⟨_, hamount, by decide⟩
  · exact accepted "Amount > 1" ["Stage", "Amount"] ["Stage", "Amount"] rfl rfl (by decide +kernel)
      (hcompile _ hfreeAmount) (by decide +kernel) (by decide +kernel) fun _ =>
        ⟨_, hamount, by decide⟩
  · exact refused ["Stage", "Amount"] rfl rfl (by decide +kernel) howner (by decide +kernel)
      (by decide) (by decide)
  · exact accepted "Amount > 1" ["Amount"] ["Amount"] rfl rfl (by decide +kernel)
      (hcompile _ hfreeAmount) (by decide +kernel) (by decide +kernel) fun _ =>
        ⟨_, hamount, by decide⟩
  · exact accepted "Amount > 1" [] [] rfl rfl (by decide +kernel) (hcompile _ hfreeAmount)
      (by decide +kernel) (by decide +kernel) fun hne => absurd rfl hne
  · exact accepted "Owner > 1" ["Stage", "Amount"] ["Code", "Owner"] rfl rfl (by decide +kernel)
      (hcompile _ hfreeOwner) (by decide +kernel) (by decide +kernel) fun _ =>
        ⟨_, howner, by decide⟩
  · exact refused ["Code"] rfl rfl (by decide +kernel) hamount (by decide +kernel) (by decide)
      (by decide)

end CommandLine

end Formulary
