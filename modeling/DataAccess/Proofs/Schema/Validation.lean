import DataAccess.Proofs.Schema.WellFormed

/-!
The rules that relations are checked by. A rule is kept or it is broken, and then it says what is
reported; of several rules the first that is broken is reported. Validation accepts the relations
that keep all rules, which are the well-formed ones, and reports the others by the first rule that
they break.
-/
set_option autoImplicit false

namespace DataAccess

/-- A letter or an underscore, followed by letters, digits and underscores, all of ASCII. -/
def IsPlainName (text : String) : Prop :=
  ∃ first rest, text.toList = first :: rest ∧ (IsLetter first ∨ first = '_') ∧
    ∀ c ∈ rest, IsLetter c ∨ ('0' ≤ c ∧ c ≤ '9') ∨ c = '_'
where
  IsLetter (c : Char) : Prop := ('A' ≤ c ∧ c ≤ 'Z') ∨ ('a' ≤ c ∧ c ≤ 'z')

/-- The table has a column of this name. -/
def Table.Knows (table : Table) (name : String) : Prop :=
  ∃ column ∈ table.columns, column.name = name

/-- Columns that a constraint can be about. -/
def Table.Supports (table : Table) (names : List String) : Prop :=
  names ≠ [] ∧ ∀ name ∈ names, table.Knows name

/-- A table whose constraints are about columns that it has. -/
structure Table.Consistent (table : Table) : Prop where
  primaryKey : ∀ key ∈ table.primaryKey, table.Supports key
  uniques : ∀ unique ∈ table.uniques, table.Supports unique.columns
  foreignKeys : ∀ key ∈ table.foreignKeys, table.Supports key.columns
  identity : ∀ name ∈ table.identity, table.Knows name

/-- What relations of each kind have to be besides. -/
def Relation.Consistent : Relation → Prop
  | table t => t.Consistent
  | view _ => True
  | function f => ∀ parameter ∈ f.parameters, IsPlainName parameter.name

/-- A relation that statements can be made for. -/
structure Relation.WellFormed (relation : Relation) : Prop where
  schema : ∀ schema ∈ relation.heading.schema, IsPlainName schema
  name : IsPlainName relation.name
  filled : relation.columns ≠ []
  columns : ∀ column ∈ relation.columns, IsPlainName column.name
  consistent : relation.Consistent

/-- When a rule is kept, and what is reported if it is broken. -/
structure Rule where
  kept : Prop
  broken : Error → Prop

namespace Rule

/-- The first rule that is broken is reported. -/
def all (rules : List Rule) : Rule where
  kept := ∀ rule ∈ rules, rule.kept
  broken error := ∃ before rule after, rules = before ++ rule :: after ∧
    (∀ earlier ∈ before, earlier.kept) ∧ rule.broken error

/-- A rule for every item, in order. -/
def each {α : Type} (items : List α) (rule : α → Rule) : Rule :=
  all (items.map rule)

/-- A rule with one report. -/
def one (kept : Prop) (report : Error) : Rule where
  kept := kept
  broken error := ¬ kept ∧ error = report

def plainName (text : String) : Rule :=
  one (IsPlainName text) (.invalidIdentifier text)

def knownColumn (table : Table) (name : String) : Rule :=
  one (table.Knows name) (.unknownColumn table.fullName name)

/-- A constraint is about some columns, and about columns of the table only. -/
def constraint (table : Table) (label : String) (names : List String) : Rule :=
  all [one (names ≠ []) (.emptyConstraint table.fullName label), each names (knownColumn table)]

end Rule

open Rule

/-- The rules for relations of one kind only. -/
def Relation.ownRules : Relation → List Rule
  | table t => [
    each t.primaryKey.toList (constraint t "primary key"),
    each t.uniques fun unique => constraint t (unique.name.getD "unique") unique.columns,
    each t.foreignKeys fun key => constraint t (key.name.getD "foreign key") key.columns,
    each t.identity.toList (knownColumn t)]
  | view _ => []
  | function f => [each f.parameters fun parameter => plainName parameter.name]

/-- The rules for a relation, in the order in which they are checked. -/
def Relation.rules (relation : Relation) : Rule :=
  all ([
    each relation.heading.schema.toList plainName,
    plainName relation.name,
    one (relation.columns ≠ []) (.noColumns relation.fullName),
    each relation.columns fun column => plainName column.name] ++ relation.ownRules)

section Names

theorem isLetter_iff (c : Char) : c.isAlpha = true ↔ IsPlainName.IsLetter c := by
  delta Char.isAlpha Char.isUpper Char.isLower
  simp only [Bool.or_eq_true, Bool.and_eq_true, decide_eq_true_eq, IsPlainName.IsLetter,
    Char.le_def]

theorem isIdentifierStart_iff (c : Char) :
    isIdentifierStart c = true ↔ IsPlainName.IsLetter c ∨ c = '_' := by
  simp only [isIdentifierStart, Bool.or_eq_true, isLetter_iff, beq_iff_eq]

theorem isIdentifierChar_iff (c : Char) :
    isIdentifierChar c = true ↔
      IsPlainName.IsLetter c ∨ ('0' ≤ c ∧ c ≤ '9') ∨ c = '_' := by
  simp only [isIdentifierChar, Char.isAlphanum, Char.isDigit, Bool.or_eq_true, isLetter_iff,
    Bool.and_eq_true, decide_eq_true_eq, beq_iff_eq, Char.le_def, or_assoc]

theorem isIdentifier_iff (text : String) : isIdentifier text = true ↔ IsPlainName text := by
  unfold isIdentifier IsPlainName
  cases letters : text.toList with
  | nil => simp
  | cons first rest =>
    simp only [Bool.and_eq_true, List.all_eq_true, isIdentifierStart_iff, isIdentifierChar_iff]
    constructor
    · rintro ⟨start, later⟩
      exact ⟨first, rest, rfl, start, later⟩
    · rintro ⟨_, _, same, start, later⟩
      obtain ⟨rfl, rfl⟩ := List.cons.inj same
      exact ⟨start, later⟩

theorem Table.knows_iff (table : Table) (name : String) :
    (table.findColumn? name).isSome = true ↔ table.Knows name := by
  simp [Table.findColumn?, Table.Knows]

end Names

/-- Violations of which there is one where the rule is broken, the first being what it reports. -/
structure Rule.Reports (rule : Rule) (violations : List Error) : Prop where
  kept_iff : rule.kept ↔ violations = []
  broken_iff : ∀ error, rule.broken error ↔ violations.head? = some error

namespace Rule

theorem kept_all_cons (rule : Rule) (rest : List Rule) :
    (all (rule :: rest)).kept ↔ rule.kept ∧ (all rest).kept :=
  List.forall_mem_cons

theorem broken_all_cons (rule : Rule) (rest : List Rule) (error : Error) :
    (all (rule :: rest)).broken error ↔
      rule.broken error ∨ rule.kept ∧ (all rest).broken error := by
  constructor
  · rintro ⟨before, failed, after, cut, kept, broken⟩
    cases before with
    | nil =>
      obtain ⟨rfl, -⟩ := List.cons.inj cut
      exact .inl broken
    | cons first before =>
      obtain ⟨rfl, rfl⟩ := List.cons.inj cut
      obtain ⟨head, later⟩ := List.forall_mem_cons.1 kept
      exact .inr ⟨head, before, failed, after, rfl, later, broken⟩
  · rintro (broken | ⟨head, before, failed, after, rfl, later, broken⟩)
    · exact ⟨[], rule, rest, rfl, by simp, broken⟩
    · exact ⟨rule :: before, failed, after, rfl, List.forall_mem_cons.2 ⟨head, later⟩, broken⟩

theorem kept_all_nil : (all []).kept ↔ True := by
  simp [all]

theorem kept_each {α : Type} (items : List α) (rule : α → Rule) :
    (each items rule).kept ↔ ∀ item ∈ items, (rule item).kept := by
  simp [each, all]

theorem broken_each {α : Type} (items : List α) (rule : α → Rule) (error : Error) :
    (each items rule).broken error ↔ ∃ before item after, items = before ++ item :: after ∧
      (∀ earlier ∈ before, (rule earlier).kept) ∧ (rule item).broken error := by
  constructor
  · rintro ⟨before, failed, after, cut, kept, broken⟩
    obtain ⟨first, later, rfl, rfl, split⟩ := List.map_eq_append_iff.1 cut
    obtain ⟨item, rest, rfl, rfl, rfl⟩ := List.map_eq_cons_iff.1 split
    exact ⟨first, item, rest, rfl, by simpa using kept, broken⟩
  · rintro ⟨before, item, after, rfl, kept, broken⟩
    exact ⟨before.map rule, rule item, after.map rule, by simp, by simpa using kept, broken⟩

theorem reports_nil : (all []).Reports [] where
  kept_iff := by simp [all]
  broken_iff := by simp [all]

theorem Reports.cons {rule : Rule} {rest : List Rule} {first later : List Error}
    (head : rule.Reports first) (tail : (all rest).Reports later) :
    (all (rule :: rest)).Reports (first ++ later) where
  kept_iff := by
    rw [kept_all_cons, head.kept_iff, tail.kept_iff, List.append_eq_nil_iff]
  broken_iff error := by
    rw [broken_all_cons, head.broken_iff, head.kept_iff, tail.broken_iff]
    cases first with
    | nil => simp
    | cons violation others => simp

/-- Rules in order are reported by their violations in order. -/
theorem reports_all {rules : List Rule} {violations : List (List Error)}
    (reports : List.Forall₂ Reports rules violations) :
    (all rules).Reports violations.flatten := by
  induction reports with
  | nil => exact reports_nil
  | cons head _ ih => exact head.cons ih

theorem reports_each {α : Type} (items : List α) {rule : α → Rule} {violations : α → List Error}
    (reports : ∀ item, (rule item).Reports (violations item)) :
    (each items rule).Reports (items.flatMap violations) := by
  rw [List.flatMap_def]
  apply reports_all
  rw [List.forall₂_map_left_iff, List.forall₂_map_right_iff, List.forall₂_same]
  exact fun item _ => reports item

theorem reports_one {kept : Prop} {report : Error} (broken : Bool) (whole : broken = false ↔ kept) :
    (one kept report).Reports (if broken then [report] else []) where
  kept_iff := by
    cases broken <;> simp [one, ← whole]
  broken_iff error := by
    cases broken <;> simp [one, ← whole, eq_comm]

theorem reports_plainName (text : String) :
    (plainName text).Reports (identifierViolations text) := by
  have reports : (plainName text).Reports _ := reports_one (!isIdentifier text) (by
    rw [Bool.not_eq_false', isIdentifier_iff])
  cases accepted : isIdentifier text <;> simpa [identifierViolations, accepted] using reports

theorem unknownColumns_eq_flatMap (table : Table) (names : List String) :
    table.unknownColumns names = names.flatMap fun name =>
      if (table.findColumn? name).isNone then [.unknownColumn table.fullName name] else [] := by
  induction names with
  | nil => rfl
  | cons name rest ih =>
    rw [List.flatMap_cons, ← ih, Table.unknownColumns, List.filter_cons]
    split <;> simp [Table.unknownColumns]

theorem reports_unknownColumns (table : Table) (names : List String) :
    (each names (knownColumn table)).Reports (table.unknownColumns names) := by
  rw [unknownColumns_eq_flatMap]
  apply reports_each
  intro name
  apply reports_one
  rw [Option.isNone_eq_false_iff, Table.knows_iff]

theorem kept_constraint (table : Table) (label : String) (names : List String) :
    (constraint table label names).kept ↔ table.Supports names := by
  simp only [constraint, kept_all_cons, kept_all_nil, kept_each, and_true]
  rfl

theorem constraintViolations_eq (table : Table) (label : String) (names : List String) :
    table.constraintViolations (label, names) =
      (if names.isEmpty then [.emptyConstraint table.fullName label] else []) ++
        table.unknownColumns names := by
  cases names <;> simp [Table.constraintViolations, Table.unknownColumns]

theorem reports_constraint (table : Table) (label : String) (names : List String) :
    (constraint table label names).Reports (table.constraintViolations (label, names)) := by
  have filled : (one (names ≠ []) (.emptyConstraint table.fullName label)).Reports _ :=
    reports_one names.isEmpty (by simp)
  have known := reports_unknownColumns table names
  rw [constraintViolations_eq, constraint]
  simpa only [List.flatten_cons, List.flatten_nil, List.append_nil] using
    reports_all (.cons filled (.cons known .nil))

end Rule

namespace Relation

/-- The violations beyond the heading, by the rule that each of them is about. -/
def violationGroups : Relation → List (List Error)
  | table t => [
    t.primaryKey.toList.flatMap fun key => t.constraintViolations ("primary key", key),
    t.uniques.flatMap fun unique =>
      t.constraintViolations (unique.name.getD "unique", unique.columns),
    t.foreignKeys.flatMap fun key =>
      t.constraintViolations (key.name.getD "foreign key", key.columns),
    t.unknownColumns t.identity.toList]
  | view _ => []
  | function f => [f.parameters.flatMap fun parameter => identifierViolations parameter.name]

theorem flatten_violationGroups (relation : Relation) :
    relation.violationGroups.flatten = relation.ownViolations := by
  cases relation <;>
    simp [violationGroups, ownViolations, Table.constraints, List.flatMap_map]

theorem reports_violationGroups (relation : Relation) :
    List.Forall₂ Reports relation.ownRules relation.violationGroups := by
  cases relation with
  | table t =>
    refine .cons ?primaryKey (.cons ?uniques (.cons ?foreignKeys (.cons ?identity .nil)))
    case primaryKey => exact reports_each _ fun key => reports_constraint t _ key
    case uniques => exact reports_each _ fun unique => reports_constraint t _ unique.columns
    case foreignKeys => exact reports_each _ fun key => reports_constraint t _ key.columns
    case identity => exact reports_unknownColumns t _
  | view v => exact .nil
  | function f =>
    exact .cons (reports_each _ fun parameter => reports_plainName parameter.name) .nil

theorem reports_violations (relation : Relation) :
    relation.rules.Reports relation.violations := by
  have filled : (one (relation.columns ≠ []) (.noColumns relation.fullName)).Reports _ :=
    reports_one relation.columns.isEmpty (by simp)
  have whole := reports_all (.cons (reports_each relation.heading.schema.toList reports_plainName)
    (.cons (reports_plainName relation.name) (.cons filled
      (.cons (reports_each relation.columns fun column => reports_plainName column.name)
        relation.reports_violationGroups))))
  simpa only [rules, violations, List.flatten_cons, flatten_violationGroups, List.cons_append,
    List.nil_append, List.append_assoc] using whole

theorem kept_ownRules (relation : Relation) :
    (all relation.ownRules).kept ↔ relation.Consistent := by
  cases relation with
  | table t =>
    simp only [ownRules, kept_all_cons, kept_all_nil, kept_each, kept_constraint, and_true,
      Option.mem_toList]
    constructor
    · rintro ⟨primaryKey, uniques, foreignKeys, identity⟩
      exact ⟨primaryKey, uniques, foreignKeys, identity⟩
    · rintro ⟨primaryKey, uniques, foreignKeys, identity⟩
      exact ⟨primaryKey, uniques, foreignKeys, identity⟩
  | view v => simp only [ownRules, kept_all_nil, Consistent]
  | function f =>
    simp only [ownRules, kept_all_cons, kept_all_nil, kept_each, and_true, Consistent]
    rfl

theorem kept_rules (relation : Relation) : relation.rules.kept ↔ relation.WellFormed := by
  simp only [rules, List.cons_append, List.nil_append, kept_all_cons, kept_each, kept_ownRules,
    Option.mem_toList]
  constructor
  · rintro ⟨schema, name, filled, columns, consistent⟩
    exact ⟨schema, name, filled, columns, consistent⟩
  · rintro ⟨schema, name, filled, columns, consistent⟩
    exact ⟨schema, name, filled, columns, consistent⟩

end Relation

/-- What a rule says of an outcome that is the first of the violations it reports. -/
theorem Rule.Reports.firstViolation_iff {rule : Rule} {violations : List Error}
    (reports : rule.Reports violations) :
    (firstViolation violations = .ok () ↔ rule.kept) ∧
      ∀ error, firstViolation violations = .error error ↔ rule.broken error := by
  simp only [reports.kept_iff, reports.broken_iff]
  cases violations <;> simp [firstViolation]

/-- Validation accepts the well-formed relations and reports the first rule that another breaks.
A schema is accepted if all its relations are, and the report is about the first that is not. -/
theorem validate_iff_wellFormed :
    (∀ relation : Relation, relation.validate = .ok () ↔ relation.WellFormed) ∧
    (∀ (relation : Relation) (error : Error),
      relation.validate = .error error ↔ relation.rules.broken error) ∧
    (∀ schema : Schema, schema.validate = .ok () ↔
      ∀ relation ∈ schema.relations, relation.WellFormed) ∧
    ∀ (schema : Schema) (error : Error), schema.validate = .error error ↔
      ∃ before relation after, schema.relations = before ++ relation :: after ∧
        (∀ earlier ∈ before, earlier.WellFormed) ∧ relation.validate = .error error := by
  have one := fun relation : Relation => relation.reports_violations.firstViolation_iff
  have every := fun schema : Schema =>
    (reports_each schema.relations Relation.reports_violations).firstViolation_iff
  refine ⟨?accepts, ?reports, ?acceptsAll, ?reportsFirst⟩
  case accepts =>
    intro relation
    rw [Relation.validate, (one relation).1, Relation.kept_rules]
  case reports => exact fun relation => (one relation).2
  case acceptsAll =>
    intro schema
    rw [Schema.validate, (every schema).1, kept_each]
    simp only [Relation.kept_rules]
  case reportsFirst =>
    intro schema error
    rw [Schema.validate, (every schema).2, broken_each]
    simp only [Relation.kept_rules, Relation.validate, (one _).2]

/-- The first unknown name of the first constraint at fault is what is reported. -/
example :
    (Relation.table { orders with
      primaryKey := some ["Id", "Region", "Year"], identity := some "Number" }).validate =
      .error (.unknownColumn "shop.Orders" "Region") := by
  decide +kernel

end DataAccess
