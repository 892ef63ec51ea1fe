import DataAccess.Proofs.Method.Links

/-!
The columns that an update assigns. They are those that are neither key, identity nor excluded; a
table that is nothing but its key has none of these, and its update sets the key to itself.
-/
set_option autoImplicit false

namespace DataAccess

open Sql

namespace Sql

/-- The items under a clause keyword, up to the next keyword. -/
def Statement.itemsUnder (statement : Statement) (keyword : String) : List String :=
  let clause := (statement.fragments.dropWhile (· != ⟨0, keyword⟩)).tail
  (clause.takeWhile (·.depth != 0)).map (·.text)

/-- The name that a text begins with. -/
def leadingName (text : List Char) : String :=
  String.ofList (text.takeWhile isIdentifierChar)

/-- The columns on the left of the assignments of an update. -/
def Statement.assignedColumns (statement : Statement) : List String :=
  (statement.itemsUnder "set").map fun item => leadingName item.toList

theorem itemsUnder_clause (before after : List Fragment) (keyword : String)
    (items : List String) (first : ⟨0, keyword⟩ ∉ before)
    (ended : ∀ fragment ∈ after.head?, fragment.depth = 0) :
    Statement.itemsUnder ⟨before ++ ⟨0, keyword⟩ :: (items.map (⟨1, ·⟩) ++ after)⟩ keyword =
      items := by
  have passed : ∀ fragment ∈ before, (fragment != ⟨0, keyword⟩) = true := by
    intro fragment member
    rw [bne_iff_ne]
    rintro rfl
    exact first member
  have inside : ∀ fragment ∈ items.map (⟨1, ·⟩ : String → Fragment),
      (fragment.depth != 0) = true := by
    simp
  have nothing : after.takeWhile (·.depth != 0) = [] := by
    cases after with
    | nil => rfl
    | cons next rest => exact List.takeWhile_cons_of_neg (by simp [ended next rfl])
  rw [Statement.itemsUnder, List.dropWhile_append_of_pos passed,
    List.dropWhile_cons_of_neg (by simp), List.tail_cons, List.takeWhile_append_of_pos inside,
    nothing, List.append_nil, List.map_map]
  exact List.map_id items

/-- The items of two clauses, the second of which ends the statement. -/
theorem itemsUnder_clauses (before : List Fragment) (first second : String)
    (items others : List String) (apart : first ≠ second) (noFirst : ⟨0, first⟩ ∉ before)
    (noSecond : ⟨0, second⟩ ∉ before) (statement : Statement)
    (whole : statement.fragments = before ++
      ⟨0, first⟩ :: (items.map (⟨1, ·⟩) ++ ⟨0, second⟩ :: others.map (⟨1, ·⟩))) :
    statement.itemsUnder first = items ∧ statement.itemsUnder second = others := by
  obtain ⟨fragments⟩ := statement
  obtain rfl : fragments = _ := whole
  constructor
  · exact itemsUnder_clause before _ first items noFirst (by simp)
  · have early : ⟨0, second⟩ ∉ before ++ ⟨0, first⟩ :: items.map (⟨1, ·⟩ : String → Fragment) := by
      simp [noSecond, apart.symm]
    have clause := itemsUnder_clause _ [] second others early (by simp)
    simpa using clause

theorem leadingName_append (name rest : List Char)
    (letters : ∀ c ∈ name, isIdentifierChar c = true)
    (ended : ∀ c ∈ rest.head?, isIdentifierChar c = false) :
    leadingName (name ++ rest) = String.ofList name := by
  have nothing : rest.takeWhile isIdentifierChar = [] := by
    cases rest with
    | nil => rfl
    | cons c tail => exact List.takeWhile_cons_of_neg (by simp [ended c rfl])
  rw [leadingName, List.takeWhile_append_of_pos letters, nothing, List.append_nil]

/-- A comma at the end of a text is no part of the name that it begins with. -/
theorem leadingName_comma (item : String) :
    leadingName (item ++ ",").toList = leadingName item.toList := by
  have comma : ",".toList = [','] := rfl
  have border : [','].takeWhile isIdentifierChar = [] := by decide
  rw [leadingName, String.toList_append, comma, List.takeWhile_append, border, List.append_nil]
  split
  · rename_i whole
    rw [leadingName, (List.takeWhile_prefix isIdentifierChar).eq_of_length whole]
  · rfl

end Sql

/-- A column that an update may write: neither key, identity nor excluded. -/
structure Table.Free (table : Table) (exclusions : List String) (name : String) : Prop where
  declared : ∃ column ∈ table.columns, column.name = name
  notKey : name ∉ table.keyNames
  notIdentity : table.identity ≠ some name
  kept : name ∉ exclusions

namespace Table

variable {table : Table} {exclusions : List String}

theorem mem_updated_iff (name : String) :
    name ∈ (table.updated exclusions).map (·.name) ↔ table.Free exclusions name := by
  simp only [updated, List.mem_map, List.mem_filter, decide_eq_true_eq]
  constructor
  · rintro ⟨column, ⟨declared, notKey, notIdentity, kept⟩, rfl⟩
    exact ⟨⟨column, declared, rfl⟩, notKey, notIdentity, kept⟩
  · rintro ⟨⟨column, declared, rfl⟩, notKey, notIdentity, kept⟩
    exact ⟨column, ⟨declared, notKey, notIdentity, kept⟩, rfl⟩

theorem updated_eq_nil_iff :
    table.updated exclusions = [] ↔ ¬ ∃ name, table.Free exclusions name := by
  rw [List.eq_nil_iff_forall_not_mem]
  constructor
  · rintro nothing ⟨name, free⟩
    obtain ⟨column, member, -⟩ := List.mem_map.1 ((mem_updated_iff name).2 free)
    exact nothing column member
  · intro unfree column member
    exact unfree ⟨column.name, (mem_updated_iff _).1 (List.mem_map_of_mem member)⟩

end Table

namespace Conventions

variable (conventions : Conventions)

/-- A column and the placeholder of its own value. -/
def ownValue (name : String) : String :=
  name ++ " = " ++ conventions.dialect.marker (conventions.naming.columnMarker name)

theorem map_assignment_eq (columns : List Column) :
    columns.map conventions.assignment = (columns.map (·.name)).map conventions.ownValue := by
  rw [List.map_map]
  rfl

theorem leadingName_ownValue (name : String) (identifier : isIdentifier name = true) :
    leadingName (conventions.ownValue name).toList = name := by
  have letters := letters_of_isIdentifier name identifier
  rw [ownValue, String.append_assoc, String.toList_append,
    leadingName_append _ _ letters (by simp; decide), String.ofList_toList]

/-- The names that the items of a list begin with, whatever separates them. -/
theorem map_leadingName_separated (names : List String)
    (identifiers : ∀ name ∈ names, isIdentifier name = true) :
    (separated "," (names.map conventions.ownValue)).map
      (fun item => leadingName item.toList) = names := by
  let read : List Char → List String := fun text => [leadingName text]
  have silent : ∀ item : String, read (item ++ ",").toList = read item.toList := by
    intro item
    simp only [read, leadingName_comma]
  have each := flatMap_separated "," silent (names.map conventions.ownValue)
  rw [← List.map_eq_flatMap, ← List.map_eq_flatMap, List.map_map] at each
  rw [each]
  conv_rhs => rw [← List.map_id names]
  exact List.map_congr_left fun name member =>
    conventions.leadingName_ownValue name (identifiers name member)

/-- The two clauses of an update. -/
theorem fragments_update (relation : Relation) (written key : List Column) :
    (conventions.statement relation (.update written key)).fragments =
      [⟨0, "update"⟩, ⟨1, relation.fullName⟩] ++ ⟨0, "set"⟩ ::
        ((separated "," (((if written.isEmpty then key else written).map (·.name)).map
            conventions.ownValue)).map (⟨1, ·⟩) ++
          ⟨0, "where"⟩ ::
            (separated " and" ((key.map (·.name)).map conventions.ownValue)).map (⟨1, ·⟩)) := by
  simp [statement, predicate, Statement.keyword, Statement.item, Statement.list,
    map_assignment_eq]

theorem itemsUnder_update (relation : Relation) (written key : List Column) :
    (conventions.statement relation (.update written key)).itemsUnder "set" =
        separated "," (((if written.isEmpty then key else written).map (·.name)).map
          conventions.ownValue) ∧
      (conventions.statement relation (.update written key)).itemsUnder "where" =
        separated " and" ((key.map (·.name)).map conventions.ownValue) :=
  itemsUnder_clauses _ "set" "where" _ _ (by decide) (by simp) (by simp) _
    (conventions.fragments_update relation written key)

theorem shape_update (operation : Operation) (table : Table)
    (onTable : operation.relation = .table table) (kind : operation.kind = .update) :
    conventions.shape operation =
      .update (table.updated conventions.updateExclusions)
        (table.columnsNamed table.keyNames) := by
  simp only [Conventions.shape, onTable, kind,
    operation.lookupNames_eq_keyNames table (by simp [kind])]

/-- The columns that take the place of free ones are those of the key. -/
theorem assignedColumns_of_grounded (operation : Operation) (grounded : operation.IsGrounded)
    (table : Table) (onTable : operation.relation = .table table)
    (kind : operation.kind = .update) :
    (conventions.statement operation.relation (conventions.shape operation)).assignedColumns =
      if (table.updated conventions.updateExclusions).isEmpty then table.keyNames
      else (table.updated conventions.updateExclusions).map (·.name) := by
  have named := Relation.wellNamed_of_validate grounded.valid
  rw [onTable] at named
  rw [conventions.shape_update operation table onTable kind, Statement.assignedColumns,
    (conventions.itemsUnder_update _ _ _).1, map_leadingName_separated]
  · split
    · exact Table.map_name_columnsNamed _ (grounded.wellKeyed onTable).has_keyNames
    · rfl
  · intro name member
    obtain ⟨column, among, rfl⟩ := List.mem_map.1 member
    split at among
    · exact isIdentifier_of_mem_columnsNamed named _ column among
    · exact named.columns column (List.mem_of_mem_filter among)

/-- What an update of a table assigns. Of a table that has columns besides its key, but none that
is free, no more is said than `kept`. -/
structure Assigns (table : Table) (statement : Statement) : Prop where
  /-- Each column is set to its own value. -/
  set : statement.itemsUnder "set" =
    separated "," (statement.assignedColumns.map conventions.ownValue)
  /-- Rows are looked up by the values of the key. -/
  located : statement.itemsUnder "where" =
    separated " and" (table.keyNames.map conventions.ownValue)
  free : (∃ name, table.Free conventions.updateExclusions name) →
    ∀ name, name ∈ statement.assignedColumns ↔ table.Free conventions.updateExclusions name
  /-- A table that is nothing but its key sets the key to itself. -/
  keyOnly : (∀ column ∈ table.columns, column.name ∈ table.keyNames) →
    statement.assignedColumns = table.keyNames
  /-- What must not be written is written only as a part of the key. -/
  kept : (∀ name ∈ table.keyNames,
      table.identity ≠ some name ∧ name ∉ conventions.updateExclusions) →
    ∀ name ∈ statement.assignedColumns,
      table.identity ≠ some name ∧ name ∉ conventions.updateExclusions

theorem assigns_of_grounded (operation : Operation) (grounded : operation.IsGrounded)
    (table : Table) (onTable : operation.relation = .table table)
    (kind : operation.kind = .update) :
    conventions.Assigns table
      (conventions.statement operation.relation (conventions.shape operation)) := by
  have shape := conventions.shape_update operation table onTable kind
  have keys := Table.map_name_columnsNamed _ (grounded.wellKeyed onTable).has_keyNames
  have assigned := conventions.assignedColumns_of_grounded operation grounded table onTable kind
  have fallback (empty : table.updated conventions.updateExclusions = []) :
      (conventions.statement operation.relation
        (conventions.shape operation)).assignedColumns = table.keyNames := by
    rw [assigned, empty]
    rfl
  have written (filled : table.updated conventions.updateExclusions ≠ []) :
      (conventions.statement operation.relation
        (conventions.shape operation)).assignedColumns =
          (table.updated conventions.updateExclusions).map (·.name) := by
    rw [assigned, if_neg (by simpa using filled)]
  refine {
    set := ?set
    located := ?located
    free := ?free
    keyOnly := ?keyOnly
    kept := ?kept }
  case set =>
    rw [assigned, shape, (conventions.itemsUnder_update _ _ _).1]
    split
    · rw [keys]
    · rfl
  case located =>
    rw [shape, (conventions.itemsUnder_update _ _ _).2, keys]
  case free =>
    intro free name
    rw [written fun empty => Table.updated_eq_nil_iff.1 empty free]
    exact Table.mem_updated_iff name
  case keyOnly =>
    intro whole
    refine fallback (Table.updated_eq_nil_iff.2 ?_)
    rintro ⟨name, ⟨column, among, rfl⟩, notKey, -, -⟩
    exact notKey (whole column among)
  case kept =>
    intro harmless name member
    by_cases empty : table.updated conventions.updateExclusions = []
    · rw [fallback empty] at member
      exact harmless name member
    · rw [written empty] at member
      have free := (Table.mem_updated_iff name).1 member
      exact ⟨free.notIdentity, free.kept⟩

end Conventions

namespace Synthesizer

/-- An update of a table that has free columns assigns exactly these. A table that is nothing but
its key is updated by setting the key to itself, in key order. -/
theorem assignedColumns_of_gives (synthesizer : Synthesizer) (table : Table) (method : Method)
    (given : synthesizer.Gives (.table table) method) (kind : method.kind = .update) :
    ∃ operation statement, operation.relation = .table table ∧ operation.kind = .update ∧
      synthesizer.conventions.render operation = .ok statement ∧
      method.body.sql = statement.sql ∧
      method.body.query = operation.settings.renderStrategy.write statement ∧
      synthesizer.conventions.Assigns table statement := by
  obtain ⟨operation, onTable, makes⟩ := given.exists_makes
  have update : operation.kind = .update := by rw [← makes.kind, kind]
  exact ⟨operation, _, onTable, update, Conventions.render_eq _ operation makes.grounded,
    makes.carries.sql, makes.carries.query,
    synthesizer.conventions.assigns_of_grounded operation makes.grounded table onTable update⟩

theorem assignedColumns_of_gives_orders :
    ∃ (method : Method) (statement : Statement), ({} : Synthesizer).Gives (.table orders) method ∧
      method.body.sql = statement.sql ∧
      method.body.sql = "update shop.Orders set CustomerId = @CustomerId, Note = @Note " ++
        "where Id = @Id" ∧
      "Note" ∈ statement.assignedColumns ∧ "Id" ∉ statement.assignedColumns ∧
      statement.itemsUnder "where" = ["Id = @Id"] := by
  obtain ⟨method, made, found⟩ := exists_eq_ok_of_any
    (({} : Synthesizer).synthesizeOperation { kind := .update, relation := .table orders })
    (fun method => method.kind == .update && method.body.sql ==
      "update shop.Orders set CustomerId = @CustomerId, Note = @Note where Id = @Id")
    (by decide +kernel)
  simp only [Bool.and_eq_true, beq_iff_eq] at found
  have given : ({} : Synthesizer).Gives (.table orders) method := .inr ⟨_, rfl, made⟩
  obtain ⟨-, statement, -, -, -, text, -, assigns⟩ :=
    assignedColumns_of_gives {} orders method given found.1
  have note : orders.Free [] "Note" := by constructor <;> decide
  refine ⟨method, statement, given, text, found.2, (assigns.free ⟨_, note⟩ _).2 note, ?_, ?_⟩
  · intro member
    exact ((assigns.free ⟨_, note⟩ _).1 member).notKey (by decide)
  · rw [assigns.located]
    decide

/-- A table whose key is all that it has. -/
def taggings : Table where
  name := "Taggings"
  columns := [
    { name := "Post", declaredType := "int" },
    { name := "Tag", declaredType := "int" },
    { name := "Lang", declaredType := "char(2)" }]
  primaryKey := some ["Post", "Tag", "Lang"]
  identity := some "Post"

/-- A synthesizer of updates without tags. -/
def keepingTags : Synthesizer where
  settings := { updateExclusions := ["Tag"] }

/-- An update that assigns the identity and an excluded column. -/
theorem exists_update_of_identity :
    ∃ (method : Method) (statement : Statement), keepingTags.Gives (.table taggings) method ∧
      method.kind = .update ∧
      keepingTags.conventions.render { kind := .update, relation := .table taggings } =
        .ok statement ∧
      method.body.sql = statement.sql ∧
      method.body.sql = "update Taggings set Post = @Post, Tag = @Tag, Lang = @Lang " ++
        "where Post = @Post and Tag = @Tag and Lang = @Lang" ∧
      statement.assignedColumns = ["Post", "Tag", "Lang"] ∧ taggings.identity = some "Post" ∧
      keepingTags.settings.updateExclusions = ["Tag"] := by
  let text := "update Taggings set Post = @Post, Tag = @Tag, Lang = @Lang " ++
    "where Post = @Post and Tag = @Tag and Lang = @Lang"
  obtain ⟨method, made, found⟩ := exists_eq_ok_of_any
    (keepingTags.synthesizeOperation { kind := .update, relation := .table taggings })
    (fun method => method.kind == .update && method.body.sql == text) (by decide +kernel)
  obtain ⟨statement, rendered, assigned⟩ := exists_eq_ok_of_any
    (keepingTags.conventions.render { kind := .update, relation := .table taggings })
    (fun statement => statement.assignedColumns == ["Post", "Tag", "Lang"] &&
      statement.sql == text) (by decide +kernel)
  simp only [Bool.and_eq_true, beq_iff_eq] at found assigned
  exact ⟨method, statement, .inr ⟨_, rfl, made⟩, found.1, rendered,
    found.2.trans assigned.2.symm, found.2, assigned.1, rfl, rfl⟩

end Synthesizer

end DataAccess
