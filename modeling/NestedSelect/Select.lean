import NestedSelect.Join.Requests
import NestedSelect.Relation.Resolution
import NestedSelect.Statement.Rendering
/-!
A select of some root table along with the relations to embed in it. Every building operation
gives a new select, and rendering one never changes it.
-/

namespace NestedSelect

/-- What is selected from a catalog. -/
structure Select (size : Nat) where
  root : Fin size
  rootSpec : JoinSpec := {}
  joins : JoinRequests := []
  options : RenderOptions := {}

/-- What a rendering reports on its way. -/
inductive Event where
  | resolved (relation : ResolvedRelation)
  /-- The statement is complete. `joins` counts the requested paths. -/
  | rendered (table : String) (joins : Nat) (sql : String) (argumentCount : Nat)
deriving DecidableEq, Repr

namespace Select

variable {size : Nat}

/-- Read the root table through a provider. -/
def subquery (select : Select size) (provider : Provider) : Select size :=
  { select with rootSpec := { select.rootSpec with subquery := some provider } }

/-- Sort the root array by an expression. -/
def orderBy (select : Select size) (expression : String) : Select size :=
  { select with rootSpec := { select.rootSpec with orderBy := some expression } }

/-- Request a join at a dotted path, in place of an earlier request for it. -/
def joinSpec (select : Select size) (path : String) (spec : JoinSpec) : Select size :=
  { select with joins := select.joins.set path spec }

/-- Sort the array at a dotted path by an expression. A path that has not been requested is
requested as a left join.
-/
def orderJoinBy (select : Select size) (path expression : String) : Select size :=
  select.joinSpec path
    { (select.joins.find? path).getD {} with orderBy := some expression }

/-- Request a join whose rows come from a scan of its table. -/
def join (select : Select size) (joinType : JoinType) (path : String) : Select size :=
  select.joinSpec path { joinType }

/-- Request a join whose rows come from a provider. -/
def joinWith (select : Select size) (joinType : JoinType) (path : String) (provider : Provider)
    : Select size :=
  select.joinSpec path { joinType, subquery := some provider }

def leftJoin (select : Select size) (path : String) : Select size :=
  select.join .left path

def rightJoin (select : Select size) (path : String) : Select size :=
  select.join .right path

def innerJoin (select : Select size) (path : String) : Select size :=
  select.join .inner path

def fullOuterJoin (select : Select size) (path : String) : Select size :=
  select.join .fullOuter path

def leftJoinWith (select : Select size) (path : String) (provider : Provider) : Select size :=
  select.joinWith .left path provider

def rightJoinWith (select : Select size) (path : String) (provider : Provider) : Select size :=
  select.joinWith .right path provider

def innerJoinWith (select : Select size) (path : String) (provider : Provider) : Select size :=
  select.joinWith .inner path provider

def fullOuterJoinWith (select : Select size) (path : String) (provider : Provider) : Select size :=
  select.joinWith .fullOuter path provider

/-- Replace all options of rendering. -/
def withOptions (select : Select size) (options : RenderOptions) : Select size :=
  { select with options }

/-- The join tree of the requested paths. -/
def tree (select : Select size) : JoinNode :=
  JoinNode.build select.rootSpec select.joins

/-- The relation tree, with a trace of its resolution. -/
def relation (catalog : Catalog size) (select : Select size) : Traced Relation :=
  Relation.build catalog select.root select.tree

/-- The statement and its arguments. Nothing is rendered unless every path resolves and every
provider answers.
-/
def render (catalog : Catalog size) (select : Select size) : Except QueryError Rendered := do
  let relation ← (select.relation catalog).outcome
  relation.render select.options

/-- The report of a finished rendering. -/
def renderedEvent (select : Select size) (relation : Relation) (rendered : Rendered) : Event :=
  .rendered relation.use.table select.joins.length rendered.sql rendered.arguments.length

/-- What rendering reports, whether it succeeds or not. -/
def events (catalog : Catalog size) (select : Select size) : List Event :=
  let traced := select.relation catalog
  traced.events.map .resolved
    ++ match traced.outcome with
      | .error _ => []
      | .ok relation =>
        match relation.render select.options with
        | .error _ => []
        | .ok rendered => [select.renderedEvent relation rendered]

/-- The text with which a select that has to render is given up. -/
def failureText (error : QueryError) : String :=
  "failed to render select: " ++ error.message

end Select

end NestedSelect
