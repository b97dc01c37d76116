import StreamPlan.Plan.Basic
import StreamPlan.Proofs.Columns
import StreamPlan.Proofs.Results

/-! Plans made by the checked constructors, and what these have checked. Node ids are whatever the
caller passes; they carry no meaning here. -/
namespace StreamPlan.Plan

/-- Every node was handed out by its constructor over nodes that were. -/
inductive Built : Plan → Prop where
  | source {id : NodeId} {topic : String} {schema : Schema} {key : String} {mode : Mode}
      {codec : Codec} {plan : Plan} (made : newSource id topic schema key mode codec = .ok plan) :
      Built plan
  | filter {id : NodeId} {input : Plan} {predicate : Expr} {plan : Plan} (below : Built input)
      (made : newFilter id input predicate = .ok plan) : Built plan
  | project {id : NodeId} {input : Plan} {schema : Schema} {expressions : List Expr} {plan : Plan}
      (below : Built input) (made : newProject id input schema expressions = .ok plan) : Built plan
  | projectOf {id : NodeId} {input : Plan} {items : List (Expr × String)} {plan : Plan}
      (below : Built input) (made : newProjectOf id input items = .ok plan) : Built plan
  | join {id : NodeId} {kind : JoinKind} {left right : Plan}
      {leftKey rightKey leftAlias rightAlias : String} {plan : Plan}
      (leftBelow : Built left) (rightBelow : Built right)
      (made : newJoin id kind left right leftKey rightKey leftAlias rightAlias = .ok plan) : Built plan
  | output {id : NodeId} {input : Plan} {target : Target} (below : Built input) :
      Built (.output id input target)

def orders : Plan :=
  let id : Field := ⟨"id", .int32, false⟩
  .source ⟨1⟩ ⟨"orders", ⟨[id, ⟨"customer", .utf8, true⟩, ⟨"paid", .boolean, true⟩]⟩, id, .stream, .json⟩

def customers : Plan :=
  let name : Field := ⟨"name", .utf8, false⟩
  .source ⟨2⟩ ⟨"customers", ⟨[name, ⟨"city", .utf8, true⟩]⟩, name, .table, .json⟩

def paidOrders : Plan := .filter ⟨3⟩ orders (.column "paid")

def addressing : Join :=
  ⟨.left, "customer", "name", "o", "c", orders.schema.qualified "o" ++ customers.schema.qualified "c"⟩

def addressedOrders : Plan := .join ⟨4⟩ paidOrders customers addressing

def shippedOrders : Plan :=
  .project ⟨5⟩ addressedOrders
    ⟨[⟨"id", .int32, true⟩, ⟨"o.customer", .utf8, true⟩, ⟨"city", .utf8, true⟩]⟩
    [.column "o.id", .column "o.customer", .column "c.city"]

/-- Paid orders with where they go to: a plan with a node of every kind. -/
def shipments : Plan := .output ⟨6⟩ shippedOrders (.topic "shipments")

theorem orders_built : orders.Built :=
  .source (show newSource ⟨1⟩ "orders" orders.schema "id" .stream .json = .ok _ by rfl)

theorem customers_built : customers.Built :=
  .source (show newSource ⟨2⟩ "customers" customers.schema "name" .table .json = .ok _ by rfl)

theorem shippedOrders_built : shippedOrders.Built := by
  have paid : paidOrders.Built :=
    .filter orders_built (show newFilter ⟨3⟩ orders (.column "paid") = .ok _ by rfl)
  have addressed : addressedOrders.Built :=
    .join paid customers_built
      (show newJoin ⟨4⟩ .left paidOrders customers "customer" "name" "o" "c" = .ok _ by rfl)
  exact .projectOf addressed (show newProjectOf ⟨5⟩ addressedOrders
    [(.column "o.id", "id"), (.column "o.customer", "o.customer"), (.column "c.city", "city")] =
      .ok _ by rfl)

theorem shipments_built : shipments.Built := .output shippedOrders_built

/-- What a join node keeps of the checks its constructor made. -/
structure JoinChecked (left right : Plan) (spec : Join) : Prop where
  leftKey : ∃ field, left.schema.find spec.leftKey = some field
  rightKey : ∃ field, right.schema.find spec.rightKey = some field
  aliases : Text.sameIgnoringCase spec.leftAlias spec.rightAlias = false
  schema : spec.schema = left.schema.qualified spec.leftAlias ++ right.schema.qualified spec.rightAlias

def Checked : Plan → Prop
  | .source _ origin => origin.schema.find origin.key.name = some origin.key
  | .filter _ input predicate => input.Checked ∧ predicate.typeOf input.schema = .ok .boolean
  | .project _ input schema expressions =>
    input.Checked ∧ schema.size = expressions.length ∧
      ∀ e ∈ expressions, ∃ type, e.typeOf input.schema = .ok type
  | .join _ left right spec => left.Checked ∧ right.Checked ∧ JoinChecked left right spec
  | .output _ input _ => input.Checked

theorem typed_eq_ok {result : Except TypeError α} {a : α} : typed result = .ok a ↔ result = .ok a := by
  cases result <;> simp [typed]

theorem newSource_eq_ok {id : NodeId} {topic : String} {schema : Schema} {key : String} {mode : Mode}
    {codec : Codec} {plan : Plan} :
    newSource id topic schema key mode codec = .ok plan ↔
      ∃ field, schema.find key = some field ∧ plan = .source id ⟨topic, schema, field, mode, codec⟩ := by
  cases found : schema.find key <;> simp [newSource, found, eq_comm]

theorem newFilter_eq_ok {id : NodeId} {input plan : Plan} {predicate : Expr} :
    newFilter id input predicate = .ok plan ↔
      predicate.typeOf input.schema = .ok .boolean ∧ plan = .filter id input predicate := by
  simp only [newFilter, bind_eq_ok, typed_eq_ok]
  constructor
  · rintro ⟨type, typed, made⟩
    split at made
    · rename_i boolean
      cases made
      exact ⟨boolean ▸ typed, rfl⟩
    · cases made
  · rintro ⟨typed, rfl⟩
    exact ⟨.boolean, typed, rfl⟩

theorem newProject_eq_ok {id : NodeId} {input plan : Plan} {schema : Schema} {expressions : List Expr}
    (made : newProject id input schema expressions = .ok plan) :
    schema.size = expressions.length ∧ (∀ e ∈ expressions, ∃ type, e.typeOf input.schema = .ok type) ∧
      plan = .project id input schema expressions := by
  simp only [newProject, throw_eq_error, error_bind, refused_eq_ok, bind_eq_ok, typed_eq_ok,
    mapM_eq_ok] at made
  obtain ⟨widths, types, typed, made⟩ := made
  refine ⟨not_not.mp widths, fun e member => ?_, (Except.ok.inj made).symm⟩
  obtain ⟨position, bound, rfl⟩ := List.getElem_of_mem member
  exact ⟨_, typed.get bound (typed.length_eq ▸ bound)⟩

theorem newProjectOf_eq_ok {id : NodeId} {input plan : Plan} {items : List (Expr × String)}
    (made : newProjectOf id input items = .ok plan) :
    ∃ fields, columnsOf input.schema items = .ok fields ∧
      newProject id input ⟨fields⟩ (items.map (·.1)) = .ok plan := by
  simpa only [newProjectOf, bind_eq_ok, typed_eq_ok] using made

theorem newJoin_eq_ok {id : NodeId} {kind : JoinKind} {left right plan : Plan}
    {leftKey rightKey leftAlias rightAlias : String}
    (made : newJoin id kind left right leftKey rightKey leftAlias rightAlias = .ok plan) :
    ∃ spec, plan = .join id left right spec ∧ spec.leftAlias = leftAlias ∧ spec.rightAlias = rightAlias ∧
      JoinChecked left right spec := by
  simp only [newJoin, throw_eq_error, error_bind, refused_eq_ok, pure_eq_ok] at made
  obtain ⟨hasLeft, hasRight, aliases, made⟩ := made
  refine ⟨_, (Except.ok.inj made).symm, rfl, rfl, ?_, ?_, Bool.eq_false_iff.mpr aliases, rfl⟩
  · exact Option.ne_none_iff_exists'.mp (by simpa using hasLeft)
  · exact Option.ne_none_iff_exists'.mp (by simpa using hasRight)

theorem Built.checked {plan : Plan} (built : plan.Built) : plan.Checked := by
  induction built with
  | source made =>
    obtain ⟨field, found, rfl⟩ := newSource_eq_ok.mp made
    exact Schema.find_found found
  | filter _ made ih =>
    obtain ⟨type, rfl⟩ := newFilter_eq_ok.mp made
    exact ⟨ih, type⟩
  | project _ made ih =>
    obtain ⟨widths, types, rfl⟩ := newProject_eq_ok made
    exact ⟨ih, widths, types⟩
  | projectOf _ made ih =>
    obtain ⟨fields, _, made⟩ := newProjectOf_eq_ok made
    obtain ⟨widths, types, rfl⟩ := newProject_eq_ok made
    exact ⟨ih, widths, types⟩
  | join _ _ made leftIh rightIh =>
    obtain ⟨spec, rfl, _, _, checked⟩ := newJoin_eq_ok made
    exact ⟨leftIh, rightIh, checked⟩
  | output _ ih => exact ih

end StreamPlan.Plan
