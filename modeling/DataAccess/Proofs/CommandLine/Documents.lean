import DataAccess.CommandLine.Listing
import DataAccess.Proofs.Document.Printing

/-!
What the documents of a listing say, and that the text that is printed for them says the same.
-/
set_option autoImplicit false

namespace DataAccess

open Json (Printable)

/-- What a record has for a key, under the first entry for it. -/
def Document.valueOf? (key : String) : Document → Option Document
  | .record entries => entries.lookup key
  | _ => none

namespace CommandLine

/-- A document that tells a method with its kind and its statement. -/
structure TellsMethod (document : Document) (method : Method) : Prop where
  name : document.valueOf? "name" = some (.text method.name)
  kind : document.valueOf? "kind" = some (.text method.kind.name)
  statement : (document.valueOf? "body").bind (Document.valueOf? "sql") =
    some (.text method.body.sql)

/-- A document that tells the methods of a relation one by one, in their order. -/
structure TellsRelation (document : Document) (entry : RelationMethods) : Prop where
  relation : document.valueOf? "relation" = some (.text entry.relation)
  methods : ∃ documents, document.valueOf? "methods" = some (.list documents) ∧
    List.Forall₂ TellsMethod documents entry.methods

/-- A text that says what a document does. -/
def Prints (text : String) (document : Document) : Prop :=
  text = Json.print document ∧ Json.read? text = some document

end CommandLine

section Printable

variable {α : Type}

@[simp] theorem printable_null : Printable .null := .null

@[simp] theorem printable_flag (value : Bool) : Printable (.flag value) := .flag value

@[simp] theorem printable_text (value : String) : Printable (.text value) := .text value

@[simp] theorem printable_list_iff (items : List Document) :
    Printable (.list items) ↔ ∀ item ∈ items, Printable item := by
  refine ⟨fun printable => ?_, .list items⟩
  cases printable with
  | list _ each => exact each

@[simp] theorem printable_record_iff (entries : List (String × Document)) :
    Printable (.record entries) ↔ ∀ entry ∈ entries, Printable entry.2 := by
  refine ⟨fun printable => ?_, .record entries⟩
  cases printable with
  | record _ each => exact each

@[simp] theorem printable_texts (values : List String) : Printable (.texts values) := by
  simp [Document.texts]

@[simp] theorem printable_integer (value : Int) : Printable (integer value) :=
  Json.printable_toString value

theorem printable_ofOption (write : α → Document) (each : ∀ value, Printable (write value))
    (value : Option α) : Printable (.ofOption write value) := by
  cases value with
  | none => exact .null
  | some value => exact each value

theorem printable_binding (binding : Binding) : Printable binding.document := by
  cases source : binding.source <;>
    simp [Binding.document, ResolvedType.document, ValueSource.document, tagged, source]

theorem printable_parameter (parameter : CallerParameter) : Printable parameter.document := by
  have default : Printable (.ofOption DefaultValue.document parameter.default) := by
    refine printable_ofOption _ (fun value => ?_) _
    cases value <;> simp [DefaultValue.document]
  cases type : parameter.type <;>
    simp [CallerParameter.document, CallerType.document, tagged, type, default]

theorem printable_step (step : Step) : Printable step.document := by
  cases step with
  | execute call => cases call <;> simp [Step.document, ExecuteCall.document, tagged]
  | _ => simp [Step.document, tagged]

theorem printable_method (method : Method) : Printable method.document := by
  have doc := printable_ofOption Document.text .text method.doc
  have returns : Printable method.returns.document := by
    cases method.returns <;> simp [ReturnShape.document, tagged]
  simp [Method.document, MethodBody.document, Sql.RenderedQuery.document,
    ExecutionContract.document, doc, returns, printable_binding, printable_parameter,
    printable_step]

theorem printable_relationMethods (entry : RelationMethods) : Printable entry.document := by
  simp [RelationMethods.document, printable_method]

end Printable

namespace CommandLine

theorem tellsMethod_document (method : Method) : TellsMethod method.document method :=
  ⟨rfl, rfl, rfl⟩

/-- The document of a relation tells its methods. -/
theorem tellsRelation_document (entry : RelationMethods) :
    TellsRelation entry.document entry := by
  refine ⟨rfl, entry.methods.map Method.document, rfl, ?_⟩
  rw [List.forall₂_map_left_iff]
  exact List.forall₂_same.2 fun method _ => tellsMethod_document method

theorem prints_print (document : Document) (printable : Printable document) :
    Prints (Json.print document) document :=
  ⟨rfl, Json.read?_print document printable⟩

end CommandLine

end DataAccess
