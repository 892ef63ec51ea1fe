import DataAccess.Document.Basic
import DataAccess.Synthesis

/-!
Methods as documents, for code generators to read. Alternatives are records whose first entry
names the alternative.
-/
set_option autoImplicit false

namespace DataAccess

open Document (ofOption text texts list record flag)

/-- A record that begins with the name of an alternative. -/
def tagged (tag name : String) (entries : List (String × Document)) : Document :=
  record ((tag, text name) :: entries)

def naturalNumber (value : Nat) : Document :=
  .number (toString value)

def integer (value : Int) : Document :=
  .number (toString value)

namespace Sql

def Fragment.document (fragment : Fragment) : Document :=
  record [("depth", naturalNumber fragment.depth), ("text", .text fragment.text)]

def RenderedQuery.document (query : RenderedQuery) : Document :=
  record [("strategy", .text query.strategy.name), ("text", .text query.text),
    ("code", texts query.code)]

end Sql

def ResolvedType.document (type : ResolvedType) : Document :=
  record [("target", text type.target), ("db_type", text type.dbType.name)]

def ValueSource.document : ValueSource → Document
  | argument name => tagged "from" "argument" [("name", text name)]
  | entity property => tagged "from" "entity" [("property", text property)]

def Direction.name : Direction → String
  | input => "input"
  | output => "output"

def Binding.document (binding : Binding) : Document :=
  record [("name", text binding.name), ("source", binding.source.document),
    ("direction", text binding.direction.name), ("type", binding.type.document)]

def CallerType.document : CallerType → Document
  | scalar target optional =>
    tagged "kind" "scalar" [("target", text target), ("optional", flag optional)]
  | entity name mutable =>
    tagged "kind" "entity" [("name", text name), ("mutable", flag mutable)]

def DefaultValue.document : DefaultValue → Document
  | int value => record [("int", integer value)]
  | null => text "null"

def CallerParameter.document (parameter : CallerParameter) : Document :=
  record [("name", text parameter.name), ("type", parameter.type.document),
    ("default", ofOption DefaultValue.document parameter.default)]

def ReturnShape.document : ReturnShape → Document
  | rows entity => tagged "kind" "rows" [("entity", text entity)]
  | optionalRow entity => tagged "kind" "optional-row" [("entity", text entity)]
  | affectedRows => tagged "kind" "affected-rows" []

def ExecuteCall.document : ExecuteCall → Document
  | queryRows entity => tagged "kind" "query-rows" [("entity", text entity)]
  | queryOptionalRow entity => tagged "kind" "query-optional-row" [("entity", text entity)]
  | execute => tagged "kind" "execute" []

def Step.document : Step → Document
  | acquireConnection => tagged "step" "acquire-connection" []
  | generateKey property => tagged "step" "generate-key" [("property", text property)]
  | execute call => tagged "step" "execute" [("call", call.document)]
  | writeBackIdentity property binding target =>
    tagged "step" "write-back-identity"
      [("property", text property), ("binding", text binding), ("target", text target)]
  | releaseConnection => tagged "step" "release-connection" []

def ExecutionContract.document (contract : ExecutionContract) : Document :=
  record [("steps", list (contract.steps.map Step.document))]

def MethodBody.document (body : MethodBody) : Document :=
  record [("query", body.query.document), ("sql", text body.sql),
    ("bindings", list (body.bindings.map Binding.document)),
    ("contract", body.contract.document)]

def Method.document (method : Method) : Document :=
  record [("name", text method.name), ("kind", text method.kind.name),
    ("relation", text method.relation), ("doc", ofOption text method.doc),
    ("parameters", list (method.parameters.map CallerParameter.document)),
    ("returns", method.returns.document), ("body", method.body.document)]

def RelationMethods.document (relation : RelationMethods) : Document :=
  record [("relation", text relation.relation), ("kind", text relation.kind.name),
    ("entity", text relation.entity), ("methods", list (relation.methods.map Method.document))]

end DataAccess
