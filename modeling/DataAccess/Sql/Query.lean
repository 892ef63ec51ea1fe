import DataAccess.Sql.Statement
import DataAccess.Text.Quoted

/-!
Code that builds the text of a statement, and the text that this code builds. Both strategies
write the same fragment lines, so their texts differ in white space only.
-/
set_option autoImplicit false

namespace DataAccess.Sql

/-- How generated code builds statement text: one append for each fragment, or one literal of
several lines. -/
inductive RenderStrategy where
  | incrementalAppend
  | literalBlock
deriving DecidableEq

instance : Inhabited RenderStrategy := ⟨.literalBlock⟩

def RenderStrategy.name : RenderStrategy → String
  | incrementalAppend => "incremental-append"
  | literalBlock => "literal-block"

/-- The names a strategy can be asked for by. -/
def RenderStrategy.names : List (String × RenderStrategy) :=
  [incrementalAppend, literalBlock].map fun strategy => (strategy.name, strategy)

structure RenderedQuery where
  strategy : RenderStrategy
  /-- The text that the code builds. -/
  text : String
  code : List String
deriving DecidableEq

def RenderedQuery.normalized (query : RenderedQuery) : String :=
  normalize query.text

def appendQuery (statement : Statement) : RenderedQuery :=
  let lines := statement.fragments.map (·.line)
  { strategy := .incrementalAppend
    text := String.join lines
    code := "let mut query = String::new();" ::
      lines.map fun line => "query.push_str(" ++ Text.quoted line ++ ");" }

/-- The literal opens and closes on lines of its own. -/
def literalQuery (statement : Statement) : RenderedQuery :=
  let lines := statement.fragments.map (·.line)
  { strategy := .literalBlock
    text := "\n" ++ "\n".intercalate lines ++ "\n"
    code := "let query = r#\"" :: lines ++ ["\"#;"] }

def RenderStrategy.write : RenderStrategy → Statement → RenderedQuery
  | .incrementalAppend => appendQuery
  | .literalBlock => literalQuery

end DataAccess.Sql
