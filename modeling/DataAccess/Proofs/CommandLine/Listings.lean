import DataAccess.CommandLine.Run
import DataAccess.Proofs.CommandLine.Documents
import DataAccess.Proofs.Method.Links
import DataAccess.Proofs.Schema.Plan

/-!
What the commands on a schema print for the same relations. One makes all methods before it prints
any, one prints the statements of each relation once they are made, and one makes no methods at
all. They list the same methods, and where synthesis fails they fail alike.
-/
set_option autoImplicit false

namespace DataAccess.CommandLine

open Sql Text

/-- The lines of a text in which every line is ended. -/
def linesOf (text : String) : List String :=
  ((pieces (· == '\n') text.toList).map String.ofList).dropLast

/-- A line for the statement of each method. -/
def statementLines (made : List RelationMethods) : List String :=
  (made.flatMap (·.methods)).map fun method => method.body.sql ++ ";"

/-- What a plan says of a relation, by the methods that were made for it. -/
def plannedDocument (entry : RelationMethods) : Document :=
  .record [("operations", .texts (entry.methods.map (·.kind.name))),
    ("relation", .text entry.relation)]

/-- The line that reports a failed synthesis. -/
def Environment.failureLine (environment : Environment) (error : Error) : String :=
  styled environment.colored .failure "Error:" ++ " " ++ error.message

/-- Settings and a schema that can be read, and relations that are selected from the schema. -/
structure Selects (files : Files) (config : Option String) (path : String)
    (relation : Option String) (settings : Settings) (relations : List Relation) : Prop where
  found : Settings.find files config = .ok settings
  loaded : ∃ schema, Schema.ofFile files path = .ok schema ∧
    select schema relation = .ok relations

/-- A command line that asks for a command, whatever it wants to be logged. -/
def Asks (environment : Environment) (arguments : List String) (command : Command)
    (config : Option String) (format : OutputFormat) (relation : Option String) : Prop :=
  ∃ verbose, Invocation.ofArguments environment.config arguments =
    .ok { command, config, format, relation, verbose }

/-- Answers that list the same methods. -/
structure ListsAlike (made : List RelationMethods) (format : OutputFormat)
    (methods statements plans : Response) : Prop where
  codes : methods.code = 0 ∧ statements.code = 0 ∧ plans.code = 0
  /-- The JSON of the methods has them all, relation by relation, with kinds and statements. -/
  listed : format = .json →
    ∃ text, methods.output = [text] ∧
      Prints text (.list (made.map RelationMethods.document)) ∧
      ∀ entry ∈ made, TellsRelation entry.document entry
  stated : statements.output = statementLines made
  /-- The statements can be told apart in the text that is printed. -/
  recovered : linesOf (textOfLines statements.output) = statementLines made
  planned : ∃ text, plans.output = [text] ∧ Prints text (.list (made.map plannedDocument))

/-- Answers to commands that fail in the same place, after some methods were made. -/
structure FailsAlike (environment : Environment) (made : List RelationMethods) (error : Error)
    (methods statements : Response) : Prop where
  codes : methods.code = 1 ∧ statements.code = 1
  nothing : methods.output = []
  stated : statements.output = statementLines made
  recovered : linesOf (textOfLines statements.output) = statementLines made
  reported : methods.errors.getLast? = some (environment.failureLine error) ∧
    statements.errors.getLast? = some (environment.failureLine error)

section Lines

theorem linesOf_textOfLines (lines : List String) (whole : ∀ line ∈ lines, '\n' ∉ line.toList) :
    linesOf (textOfLines lines) = lines := by
  -- Behind the end of the last line there is one more piece, which is empty.
  have cut : pieces (· == '\n') (textOfLines lines).toList = lines.map (·.toList) ++ [[]] := by
    induction lines with
    | nil => rfl
    | cons line rest ih =>
      have tail := ih fun other member => whole other (List.mem_cons_of_mem line member)
      have unbroken : ∀ c ∈ line.toList, (c == '\n') = false := by
        intro c member
        rw [beq_eq_false_iff_ne]
        rintro rfl
        exact whole line List.mem_cons_self member
      have text : (textOfLines (line :: rest)).toList =
          line.toList ++ '\n' :: (textOfLines rest).toList := by
        simp [textOfLines, String.join_cons]
      rw [text, pieces_append_cut _ _ _ '\n' rfl, pieces_of_uncut _ _ unbroken, tail]
      rfl
  rw [linesOf, cut, List.map_append, List.map_map]
  simp [Function.comp_def]

/-- A canonical text is on one line. -/
theorem newline_not_mem_sql (statement : Statement) : '\n' ∉ statement.sql.toList := by
  intro member
  rw [Statement.sql, Sql.normalize, String.toList_ofList] at member
  have spaces := (isTidy_normalizeChars _).spaces '\n' member (by decide)
  exact absurd spaces (by decide)

theorem newline_not_mem_statementLines (synthesizer : Synthesizer) (relations : List Relation)
    (made : List RelationMethods)
    (success : relations.mapM synthesizer.synthesizeRelation = .ok made) :
    ∀ line ∈ statementLines made, '\n' ∉ line.toList := by
  intro line among
  obtain ⟨method, inside, rfl⟩ := List.mem_map.1 among
  obtain ⟨entry, member, listed⟩ := List.mem_flatMap.1 inside
  obtain ⟨relation, -, single⟩ := exists_of_mem_mapM _ _ made success entry member
  have given : synthesizer.Gives relation method := .inl ⟨entry, single, listed⟩
  obtain ⟨operation, -, makes⟩ := given.exists_makes
  rw [makes.carries.sql, String.toList_append, List.mem_append]
  rintro (before | ended)
  · exact newline_not_mem_sql _ before
  · exact absurd ended (by decide)

end Lines

section Synthesis

variable (synthesizer : Synthesizer)

/-- Relations that can be made are made before all that follows them. -/
theorem synthesizeUntilFailure_append (before rest : List Relation) (made : List RelationMethods)
    (success : before.mapM synthesizer.synthesizeRelation = .ok made) :
    synthesizeUntilFailure synthesizer (before ++ rest) =
      (made ++ (synthesizeUntilFailure synthesizer rest).1,
        (synthesizeUntilFailure synthesizer rest).2) := by
  have pairs := (mapM_eq_ok_iff _ before made).1 success
  clear success
  induction pairs with
  | nil => rfl
  | cons head tail ih => simp [synthesizeUntilFailure, head, ih]

theorem synthesizeUntilFailure_of_ok (relations : List Relation) (made : List RelationMethods)
    (success : relations.mapM synthesizer.synthesizeRelation = .ok made) :
    synthesizeUntilFailure synthesizer relations = (made, none) := by
  have whole := synthesizeUntilFailure_append synthesizer relations [] made success
  simpa [synthesizeUntilFailure] using whole

theorem synthesizeUntilFailure_of_error (before after : List Relation) (failing : Relation)
    (made : List RelationMethods) (error : Error)
    (success : before.mapM synthesizer.synthesizeRelation = .ok made)
    (failed : synthesizer.synthesizeRelation failing = .error error) :
    synthesizeUntilFailure synthesizer (before ++ failing :: after) = (made, some error) := by
  rw [synthesizeUntilFailure_append synthesizer before _ made success]
  simp [synthesizeUntilFailure, failed]

/-- The operations of a relation are the kinds of its methods, in order. -/
theorem document_planOf (relation : Relation) (entry : RelationMethods)
    (synthesized : synthesizer.synthesizeRelation relation = .ok entry) :
    plannedDocument entry = (planOf synthesizer relation).document := by
  have labels := synthesizer.labels_of_synthesizeRelation relation entry synthesized
  have kinds := congrArg (List.map fun label => label.2.1.name) labels
  simp only [List.map_map] at kinds
  obtain ⟨⟨⟩, -, later⟩ := (bind_eq_ok_iff _ _ _).1 synthesized
  obtain ⟨methods, -, finished⟩ := (bind_eq_ok_iff _ _ _).1 later
  have name : entry.relation = relation.fullName := by
    rw [← (pure_eq_ok_iff _ _).1 finished]
  rw [plannedDocument, RelationPlan.document, planOf, name, List.map_map]
  exact congrArg (fun names => Document.record [("operations", .texts names), _]) kinds

end Synthesis

section Answers

/-- What a command reports on the relations that are selected. -/
def Command.reportOf (synthesizer : Synthesizer) (format : OutputFormat) :
    Command → List Relation → Report
  | .methods _ => reportMethods synthesizer format
  | .plan _ => reportPlans synthesizer format
  | .statements _ => reportStatements synthesizer

def Command.schema? : Command → Option String
  | .methods schema => schema
  | .plan schema | .statements schema => some schema

variable {files : Files} {environment : Environment} {config relation : Option String}
variable {path : String} {settings : Settings} {relations : List Relation}

/-- Once settings and schema are read, an answer is the report on the selected relations, but for
earlier events. -/
theorem exists_run_eq (selects : Selects files config path relation settings relations)
    {arguments : List String} {command : Command} {format : OutputFormat}
    (asks : Asks environment arguments command config format relation)
    (reads : command.schema? = some path) :
    ∃ events filter, run files environment arguments =
      ((command.reportOf { settings } format relations).after events).response filter
        environment.colored := by
  obtain ⟨verbose, understood⟩ := asks
  obtain ⟨schema, loaded, selected⟩ := selects.loaded
  refine ⟨Settings.findEvents files config ++ Schema.fileEvents files path,
    environment.filter verbose, ?_⟩
  simp only [run, understood, Invocation.report, selects.found]
  cases command with
  | methods given =>
    obtain rfl : given = some path := reads
    simp only [Invocation.reportUnder, Invocation.reportOn, loaded, selected, Command.reportOf,
      Report.after, List.append_assoc]
  | plan given | statements given =>
    obtain rfl : given = path := Option.some.inj reads
    simp only [Invocation.reportUnder, Invocation.reportOn, loaded, selected, Command.reportOf,
      Report.after, List.append_assoc]

theorem getLast?_errors (report : Report) (error : Error) (events : List Event)
    (filter : EventFilter) (failed : report.failure = some (.synthesis error)) :
    ((report.after events).response filter environment.colored).errors.getLast? =
      some (environment.failureLine error) := by
  have failure : (report.after events).failure = some (.synthesis error) := failed
  simp only [Report.response, failure, Option.toList_some, List.map_cons, List.map_nil]
  rw [List.getLast?_append, List.getLast?_singleton]
  rfl

theorem reportMethods_of_ok (synthesizer : Synthesizer) (format : OutputFormat)
    (made : List RelationMethods)
    (success : relations.mapM synthesizer.synthesizeRelation = .ok made) :
    reportMethods synthesizer format relations =
      { listing := some (.methods format made), events := synthesizer.events relations } := by
  simp only [reportMethods, success]

theorem reportMethods_of_error (synthesizer : Synthesizer) (format : OutputFormat) (error : Error)
    (failed : relations.mapM synthesizer.synthesizeRelation = .error error) :
    reportMethods synthesizer format relations =
      { events := synthesizer.events relations, failure := some (.synthesis error) } := by
  simp only [reportMethods, failed]

/-- The statements that are listed are those of all methods that could be made. -/
theorem output_reportStatements (synthesizer : Synthesizer) (made : List RelationMethods)
    (error : Option Error) (events : List Event) (filter : EventFilter) (colored : Bool)
    (ended : synthesizeUntilFailure synthesizer relations = (made, error)) :
    (((reportStatements synthesizer relations).after events).response filter colored).output =
      statementLines made := by
  simp only [reportStatements, ended, Report.after, Report.response, Option.toList_some,
    List.flatMap_cons, List.flatMap_nil, List.append_nil, Listing.lines, statementLines,
    List.map_flatMap, List.map_map, Function.comp_def]

theorem failure_reportStatements (synthesizer : Synthesizer) (made : List RelationMethods)
    (error : Option Error)
    (ended : synthesizeUntilFailure synthesizer relations = (made, error)) :
    (reportStatements synthesizer relations).failure = error.map .synthesis := by
  simp only [reportStatements, ended]

theorem listsAlike_of_ok (synthesizer : Synthesizer) (format : OutputFormat)
    (made : List RelationMethods)
    (success : relations.mapM synthesizer.synthesizeRelation = .ok made)
    (early events others : List Event) (shown logged kept : EventFilter) (colored : Bool) :
    ListsAlike made format
      (((reportMethods synthesizer format relations).after early).response shown colored)
      (((reportStatements synthesizer relations).after events).response logged colored)
      (((reportPlans synthesizer .json relations).after others).response kept colored) := by
  have ended := synthesizeUntilFailure_of_ok synthesizer relations made success
  have stated := output_reportStatements synthesizer made none events logged colored ended
  have succeeded := failure_reportStatements synthesizer made none ended
  have documents := map_eq_of_mapM_eq_ok _ plannedDocument
    (fun relation => (planOf synthesizer relation).document) (document_planOf synthesizer)
    relations made success
  have whole := newline_not_mem_statementLines synthesizer relations made success
  refine ⟨⟨?_, ?_, rfl⟩, ?_, stated, ?_, ?_⟩
  · rw [reportMethods_of_ok synthesizer format made success]
    rfl
  · simp [Report.response, Report.after, succeeded]
  · rintro rfl
    have printable : Json.Printable (.list (made.map RelationMethods.document)) := by
      simp [printable_relationMethods]
    refine ⟨_, ?_, prints_print _ printable, fun entry _ => tellsRelation_document entry⟩
    rw [reportMethods_of_ok synthesizer .json made success]
    simp [Report.response, Report.after, Listing.lines]
  · rw [stated]
    exact linesOf_textOfLines _ whole
  · have printable : Json.Printable (.list (made.map plannedDocument)) := by
      simp [plannedDocument]
    refine ⟨_, ?_, prints_print _ printable⟩
    simp [reportPlans, Report.response, Report.after, Listing.lines, documents, Function.comp_def]

theorem failsAlike_of_error (synthesizer : Synthesizer) (format : OutputFormat)
    (before after : List Relation) (failing : Relation) (made : List RelationMethods)
    (error : Error) (success : before.mapM synthesizer.synthesizeRelation = .ok made)
    (failed : synthesizer.synthesizeRelation failing = .error error)
    (whole : (before ++ failing :: after).mapM synthesizer.synthesizeRelation = .error error)
    (early events : List Event) (shown logged : EventFilter) :
    FailsAlike environment made error
      (((reportMethods synthesizer format (before ++ failing :: after)).after early).response shown
        environment.colored)
      (((reportStatements synthesizer (before ++ failing :: after)).after events).response logged
        environment.colored) := by
  have ended := synthesizeUntilFailure_of_error synthesizer before after failing made error success
    failed
  have stated := output_reportStatements synthesizer made (some error) events logged
    environment.colored ended
  have reported := failure_reportStatements synthesizer made (some error) ended
  have lines := newline_not_mem_statementLines synthesizer before made success
  rw [reportMethods_of_error synthesizer format error whole]
  refine ⟨⟨rfl, ?_⟩, rfl, stated, ?_, getLast?_errors _ error _ _ rfl,
    getLast?_errors _ error _ _ reported⟩
  · simp [Report.response, Report.after, reported]
  · rw [stated]
    exact linesOf_textOfLines _ lines

end Answers

def tags : Table where
  name := "Tags"
  columns := [{ name := "Id", declaredType := "int" }]

/-- A table with a type that is not known. -/
def memos : Table where
  name := "Memos"
  columns := [{ name := "Body", declaredType := "memo" }]

/-- A file with a schema of both tables, of which only the first can be synthesized. -/
def tagsAndMemos : Files where
  read path :=
    if path = "schema.toml" then
      .ok ("[[tables]]\nname = \"Tags\"\n[[tables.columns]]\nname = \"Id\"\ntype = \"int\"\n" ++
        "[[tables]]\nname = \"Memos\"\n[[tables.columns]]\nname = \"Body\"\ntype = \"memo\"\n")
    else .error .missing

theorem selects_tagsAndMemos (relation : Option String) (relations : List Relation)
    (selected : select { tables := [tags, memos] } relation = .ok relations) :
    Selects tagsAndMemos none "schema.toml" relation {} relations := by
  obtain ⟨schema, loaded, same⟩ := exists_eq_ok_of_any (Schema.ofFile tagsAndMemos "schema.toml")
    (· == { tables := [tags, memos] }) (by decide +kernel)
  obtain rfl := beq_iff_eq.1 same
  exact ⟨rfl, _, loaded, selected⟩

end DataAccess.CommandLine
