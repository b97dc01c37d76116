import StreamPlan.Proofs.Acceptance
import StreamPlan.Proofs.RecasedRuns
import StreamPlan.Proofs.RecasedTexts
import StreamPlan.Proofs.Sessions
import StreamPlan.Proofs.Simulation

/-! The same calls on two builders but for the letter case of references: the keys of sources and joins and
the columns in predicates and projections. As long as no node has two columns that differ in letter case
alone, the same calls are refused and the nodes they return are the same in small letters, so that they
compile alike and their runs have the same outcomes. -/
namespace StreamPlan

namespace Plan

variable {input left right : Plan}

theorem toOption_typed (result : Except TypeError α) : (typed result).toOption = result.toOption := by
  cases result <;> rfl

/-- A source is told by the column of its key, and there is such a column in any letter case or in none. -/
theorem newSource_folded (id : NodeId) (topic : String) {schema : Schema} {key : String} (mode : Mode) (codec : Codec)
    (distinct : (schema.find key).isSome = true → schema.Distinct) :
    (newSource id topic schema (Text.lower key) mode codec).toOption =
      (newSource id topic schema key mode codec).toOption.map folded := by
  have either := Schema.find_lower_isSome schema key
  unfold newSource
  cases found : schema.find key with
  | none =>
    rw [found, Option.isSome_none, Option.isSome_eq_false_iff, Option.isNone_iff_eq_none] at either
    rw [either]
    rfl
  | some field =>
    rw [Schema.find_lower (distinct (by simp [found])), found]
    rfl

theorem newFilter_folded (id : NodeId) (distinct : input.schema.Distinct) (predicate : Expr) :
    (newFilter id input.folded predicate.folded).toOption = (newFilter id input predicate).toOption.map folded := by
  simp only [newFilter, toOption_bind, toOption_typed, schema_folded, Expr.typeOf_folded distinct]
  cases (predicate.typeOf input.schema).toOption with
  | none => rfl
  | some type =>
    simp only [Option.bind_some]
    split_ifs <;> rfl

/-- The items of a projection with their references in small letters. -/
def foldedItems (items : List (Expr × String)) : List (Expr × String) := items.map fun (e, name) => (e.folded, name)

theorem columnsOf_folded {schema : Schema} (distinct : schema.Distinct) (items : List (Expr × String)) :
    (columnsOf schema (foldedItems items)).toOption = (columnsOf schema items).toOption := by
  simp only [columnsOf, foldedItems, toOption_mapM, List.mapM_map, Function.comp_def, toOption_bind,
    Expr.typeOf_folded distinct]

theorem newProject_folded (id : NodeId) (distinct : input.schema.Distinct) (schema : Schema)
    (expressions : List Expr) : (newProject id input.folded schema (expressions.map Expr.folded)).toOption =
      (newProject id input schema expressions).toOption.map folded := by
  unfold newProject
  simp only [List.length_map, schema_folded, throw_eq_error, error_bind, pure_eq_ok]
  split_ifs
  · rfl
  · simp only [toOption_bind, toOption_typed, toOption_mapM, List.mapM_map, Function.comp_def,
      Expr.typeOf_folded distinct]
    cases expressions.mapM fun e => (e.typeOf input.schema).toOption <;> rfl

theorem newProjectOf_folded (id : NodeId) (distinct : input.schema.Distinct) (items : List (Expr × String)) :
    (newProjectOf id input.folded (foldedItems items)).toOption =
      (newProjectOf id input items).toOption.map folded := by
  have expressions : (foldedItems items).map (·.1) = (items.map (·.1)).map Expr.folded := by simp [foldedItems]
  simp only [newProjectOf, toOption_bind, toOption_typed, schema_folded, columnsOf_folded distinct, expressions,
    newProject_folded id distinct]
  cases (columnsOf input.schema items).toOption <;> rfl

theorem newJoin_folded (id : NodeId) (kind : JoinKind) (leftDistinct : left.schema.Distinct)
    (rightDistinct : right.schema.Distinct) (leftKey rightKey leftAlias rightAlias : String) :
    (newJoin id kind left.folded right.folded (Text.lower leftKey) (Text.lower rightKey) leftAlias
      rightAlias).toOption =
        (newJoin id kind left right leftKey rightKey leftAlias rightAlias).toOption.map folded := by
  unfold newJoin
  simp only [schema_folded, Schema.find_lower leftDistinct, Schema.find_lower rightDistinct, throw_eq_error,
    error_bind, pure_eq_ok]
  split_ifs <;> rfl

end Plan

namespace Builder

variable {b : Builder} {input left right : Plan}

/-- The node that is made, if it is not refused, and the builder that goes on. -/
def seen (made : Built) : Option Plan × Builder := (made.1.toOption, made.2)

def foldedSeen : Option Plan × Builder → Option Plan × Builder
  | (made, after) => (made.map Plan.folded, after)

theorem make_folded {node other : NodeId → Except PlanError Plan}
    (each : ∀ id, (other id).toOption = (node id).toOption.map Plan.folded) :
    seen (b.make other) = foldedSeen (seen (b.make node)) :=
  congrArg (·, _) (each ⟨b.next⟩)

theorem filterText_folded (distinct : input.schema.Distinct) (predicate : String) :
    seen (b.filterText input.folded (Expr.foldedText predicate)) =
      foldedSeen (seen (b.filterText input predicate)) := by
  have reads := Expr.parse_folded predicate
  unfold filterText
  cases read : Expr.parse predicate with
  | error e =>
    rw [read] at reads
    obtain ⟨other, unread⟩ := toOption_eq_none.mp reads
    rw [unread]
    rfl
  | ok e =>
    rw [read] at reads
    rw [toOption_eq_some.mp reads]
    exact make_folded fun id => Plan.newFilter_folded id distinct e

theorem parseItems_cons (text name : String) (rest : List (String × String)) :
    parseItems ((text, name) :: rest) =
      Expr.parse text >>= fun e => parseItems rest >>= fun items => .ok ((e, name) :: items) := by
  unfold parseItems
  rw [List.mapM_cons]
  dsimp only
  cases Expr.parse text <;> rfl

/-- The texts of the items in small letters. -/
def foldedTexts (items : List (String × String)) : List (String × String) :=
  items.map fun (text, name) => (Expr.foldedText text, name)

theorem parseItems_folded (items : List (String × String)) :
    (parseItems (foldedTexts items)).toOption = (parseItems items).toOption.map Plan.foldedItems := by
  induction items with
  | nil => rfl
  | cons item rest ih =>
    obtain ⟨text, name⟩ := item
    rw [foldedTexts, List.map_cons, ← foldedTexts, parseItems_cons, parseItems_cons]
    simp only [toOption_bind, Expr.parse_folded, ih]
    cases (Expr.parse text).toOption with
    | none => rfl
    | some e => cases (parseItems rest).toOption <;> rfl

theorem project_folded (distinct : input.schema.Distinct) (items : List (String × String)) :
    seen (b.project input.folded (foldedTexts items)) = foldedSeen (seen (b.project input items)) := by
  have reads := parseItems_folded items
  unfold project
  cases read : parseItems items with
  | error e =>
    rw [read] at reads
    obtain ⟨other, unread⟩ := toOption_eq_none.mp reads
    rw [unread]
    rfl
  | ok items =>
    rw [read] at reads
    rw [toOption_eq_some.mp reads]
    exact make_folded fun id => Plan.newProjectOf_folded id distinct items

end Builder

namespace Request

/-- The call with its references in small letters. To keep columns is to project to their names, which are
the names of the new columns as well. -/
def folded : Request → Request
  | .nextId => .nextId
  | .source topic schema key mode codec => .source topic schema (Text.lower key) mode codec
  | .filter input predicate => .filter input predicate.folded
  | .filterText input predicate => .filterText input (Expr.foldedText predicate)
  | .projectOf input items => .projectOf input (Plan.foldedItems items)
  | .project input items => .project input (Builder.foldedTexts items)
  | .select input columns => .project input (Builder.foldedTexts (columns.map fun name => (name, name)))
  | .join kind left right leftKey rightKey leftAlias rightAlias =>
    .join kind left right (Text.lower leftKey) (Text.lower rightKey) leftAlias rightAlias
  | .output input target => .output input target

/-- A source that is made has no two columns that differ in letter case at most. -/
def Distinct : Request → Prop
  | .source _ schema key _ _ => (schema.find key).isSome = true → schema.Distinct
  | _ => True

theorem distinct_folded_iff {request : Request} : request.folded.Distinct ↔ request.Distinct := by
  cases request <;> simp [folded, Distinct, Schema.find_lower_isSome]

variable {b : Builder} {node? : Nat → Option Plan}

theorem node?_ofResult (result : Except PlanError Plan) : (Reply.ofResult result).node? = result.toOption := by
  cases result <;> rfl

/-- What a call comes to as far as nodes go, and the builder that goes on. -/
def comesTo (b : Builder) (node? : Nat → Option Plan) (request : Request) : Option (Option Plan × Builder) :=
  (request.on b node?).map fun (reply, after) => (reply.node?, after)

open Builder (seen foldedSeen make_folded)

theorem comesTo_over {k : Nat} {make other : Plan → Builder.Built}
    (each : ∀ input, node? k = some input → seen (other input.folded) = foldedSeen (seen (make input))) :
    ((((node? k).map Plan.folded).bind fun input => some (Reply.ofResult (other input).1, (other input).2)).map
      fun (reply, after) => (reply.node?, after)) =
      (((node? k).bind fun input => some (Reply.ofResult (make input).1, (make input).2)).map
        fun (reply, after) => (reply.node?, after)).map foldedSeen := by
  cases here : node? k with
  | none => rfl
  | some input =>
    have same := each input here
    simp only [Option.map_some, Option.bind_some, node?_ofResult]
    exact congrArg some same

/-- A call in small letters, on nodes in small letters, comes to the node in small letters. -/
theorem comesTo_folded (request : Request) (distinct : ∀ k plan, node? k = some plan → plan.schema.Distinct)
    (source : request.Distinct) :
    request.folded.comesTo b (fun k => (node? k).map Plan.folded) = (request.comesTo b node?).map foldedSeen := by
  cases request with
  | nextId => rfl
  | source topic schema key mode codec =>
    have same := make_folded (b := b) fun id => Plan.newSource_folded id topic mode codec source
    simp only [comesTo, folded, on, Option.map_some, node?_ofResult]
    exact congrArg some same
  | filter k predicate =>
    exact comesTo_over fun input here =>
      make_folded fun id => Plan.newFilter_folded id (distinct k input here) predicate
  | filterText k predicate =>
    exact comesTo_over fun input here => Builder.filterText_folded (distinct k input here) predicate
  | projectOf k items =>
    exact comesTo_over fun input here =>
      make_folded fun id => Plan.newProjectOf_folded id (distinct k input here) items
  | project k items => exact comesTo_over fun input here => Builder.project_folded (distinct k input here) items
  | select k columns => exact comesTo_over fun input here => Builder.project_folded (distinct k input here) _
  | join kind j k leftKey rightKey leftAlias rightAlias =>
    simp only [comesTo, folded, on]
    cases here : node? j with
    | none => rfl
    | some left =>
      refine comesTo_over fun right there => make_folded fun id => ?_
      exact Plan.newJoin_folded id kind (distinct j left here) (distinct k right there) leftKey rightKey leftAlias
        rightAlias
  | output k target =>
    simp only [comesTo, folded, on]
    cases node? k <;> rfl

end Request

namespace Session

variable {s t : Session} {request other : Request}

/-- Sessions of which the same replies are nodes, and the nodes are the same in small letters. -/
structure Alike (s t : Session) : Prop where
  builder : s.builder = t.builder
  nodes : s.replies.map (fun reply => reply.node?.map Plan.folded) =
    t.replies.map fun reply => reply.node?.map Plan.folded

theorem folded_node? (s : Session) (k : Nat) : (s.node? k).map Plan.folded =
    (s.replies.map fun reply => reply.node?.map Plan.folded)[k]?.join := by
  rw [node?, List.getElem?_map]
  cases s.replies[k]? <;> rfl

theorem Alike.named (alike : Alike s t) (k : Nat) : (s.node? k).map Plan.folded = (t.node? k).map Plan.folded := by
  rw [folded_node?, folded_node?, alike.nodes]

/-- Alike sessions know nodes with the same schemas. -/
theorem Alike.distinct (alike : Alike s t) (distinct : ∀ plan ∈ s.plans, plan.schema.Distinct) :
    ∀ plan ∈ t.plans, plan.schema.Distinct := by
  intro plan member
  obtain ⟨k, here⟩ := mem_plans.mp member
  have named := alike.named k
  rw [here] at named
  obtain ⟨own, there, same⟩ := Option.map_eq_some_iff.mp named
  have schemas : own.schema = plan.schema := by rw [← own.schema_folded, same, plan.schema_folded]
  exact schemas ▸ distinct own (mem_plans.mpr ⟨k, there⟩)

theorem distinct_of_perform (distinct : ∀ plan ∈ (s.perform request).plans, plan.schema.Distinct) :
    request.Distinct := by
  cases request with
  | source topic schema key mode codec =>
    intro found
    obtain ⟨field, found⟩ := Option.isSome_iff_exists.mp found
    have made : Plan.newSource ⟨s.builder.next⟩ topic schema key mode codec = .ok _ :=
      Plan.newSource_eq_ok.mpr ⟨field, found, rfl⟩
    refine distinct (.source ⟨s.builder.next⟩ ⟨topic, schema, field, mode, codec⟩) ?_
    simp [plans, perform, Request.on, Builder.source, Builder.make, made, Reply.ofResult, Reply.node?]
  | _ => trivial

/-- One call more leaves sessions alike. -/
theorem Alike.perform (alike : Alike s t) (same : request.folded = other.folded)
    (distinct : ∀ plan ∈ (s.perform request).plans, plan.schema.Distinct) :
    Alike (s.perform request) (t.perform other) := by
  have older : ∀ plan ∈ s.plans, plan.schema.Distinct :=
    fun plan member => distinct plan (plans_subset_perform s request member)
  have source := distinct_of_perform distinct
  have also : other.Distinct := Request.distinct_folded_iff.mp (same ▸ Request.distinct_folded_iff.mpr source)
  have first := Request.comesTo_folded (b := s.builder) request
    (fun k plan here => older plan (mem_plans.mpr ⟨k, here⟩)) source
  have second := Request.comesTo_folded (b := s.builder) other
    (fun k plan here => alike.distinct older plan (mem_plans.mpr ⟨k, here⟩)) also
  rw [same, funext alike.named] at first
  have both := first.symm.trans second
  unfold Request.comesTo at both
  unfold Session.perform
  rw [← alike.builder]
  cases came : request.on s.builder s.node? with
  | none =>
    rw [came] at both
    have refused := Option.map_eq_none_iff.mp (Option.map_eq_none_iff.mp both.symm)
    rw [refused]
    exact alike
  | some made =>
    rw [came] at both
    obtain ⟨seen, there, same⟩ := Option.map_eq_some_iff.mp both.symm
    obtain ⟨answer, went, rfl⟩ := Option.map_eq_some_iff.mp there
    obtain ⟨nodes, builders⟩ := Prod.mk.inj same
    rw [went]
    refine ⟨builders.symm, ?_⟩
    simp only [List.map_append, alike.nodes, List.map_cons, List.map_nil]
    exact congrArg (fun node => _ ++ [node]) nodes.symm

theorem plans_subset_performs (requests : List Request) (s : Session) :
    s.plans ⊆ (requests.foldl perform s).plans := by
  induction requests generalizing s with
  | nil => exact List.Subset.refl _
  | cons request rest ih => exact List.Subset.trans (plans_subset_perform s request) (ih (s.perform request))

theorem Alike.performs {requests others : List Request} (alike : Alike s t)
    (same : requests.map Request.folded = others.map Request.folded)
    (distinct : ∀ plan ∈ (requests.foldl Session.perform s).plans, plan.schema.Distinct) :
    Alike (requests.foldl Session.perform s) (others.foldl Session.perform t) := by
  induction requests generalizing others s t with
  | nil =>
    obtain rfl := List.map_eq_nil_iff.mp same.symm
    exact alike
  | cons request rest ih =>
    cases others with
    | nil => cases same
    | cons other more =>
      obtain ⟨head, tail⟩ := List.cons.inj same
      have step := alike.perform head fun plan member =>
        distinct plan (plans_subset_performs rest (s.perform request) member)
      exact ih (t := t.perform other) step tail distinct

/-- Calls that are the same but for the letter case of references are refused alike and return the same nodes
but for that, as long as no node has two columns that differ in letter case alone. Whatever is returned by
both compiles alike, complaints included, to the same stages but for the spelling of columns in expressions,
and over any rows both runs have one outcome or both fail. -/
theorem case_ignored {requests others : List Request}
    (recased : requests.map Request.folded = others.map Request.folded)
    (distinct : ∀ plan ∈ (of requests).plans, plan.schema.Distinct) :
    ((of requests).replies.map fun reply => reply.node?.map Plan.folded) =
        ((of others).replies.map fun reply => reply.node?.map Plan.folded) ∧
      ∀ k plan other, (of requests).node? k = some plan → (of others).node? k = some other → ∀ config,
        (plan.compile config).map Compiled.folded = (other.compile config).map Compiled.folded ∧
        ∀ compiled recompiled, plan.compile config = .ok compiled → other.compile config = .ok recompiled →
          ∀ data limit,
            (compiled.topology.run data limit).toOption = (recompiled.topology.run data limit).toOption := by
  have alike : Alike (of requests) (of others) := Alike.performs ⟨rfl, rfl⟩ recased distinct
  refine ⟨alike.nodes, fun k plan other here there config => ?_⟩
  have same : plan.folded = other.folded := by
    have named := alike.named k
    rw [here, there] at named
    exact Option.some.inj named
  have told : plan.Distinct := fun node inside =>
    distinct node (nodes_subset_plans requests plan (mem_plans.mpr ⟨k, here⟩) inside)
  have checked := (built_of_node? here).checked
  have compiles := Plan.compile_alike checked (built_of_node? there).checked told same config
  refine ⟨compiles, fun compiled recompiled accepted again data limit => ?_⟩
  rw [accepted, again] at compiles
  have topologies : compiled.topology.folded = recompiled.topology.folded :=
    congrArg Compiled.topology (Except.ok.inj compiles)
  have stages : compiled.topology.Distinct := (Plan.compile_eq_ok checked accepted).2 ▸ told.stages config 0
  exact Topology.run_alike stages topologies data limit

/-- Calls for the shipments of paid orders, the second of them refused, with columns named as given. -/
def shipmentRequests (id paid customer city : String) : List Request :=
  [.source "orders" Plan.orders.schema id .stream .json, .filter 0 (.column customer),
    .filterText 0 s!"{paid} = true and not {customer} = 'Ada'",
    .source "customers" Plan.customers.schema "name" .table .json, .join .left 2 3 customer "Name" "o" "c",
    .project 4 [(s!"o.{id}", "id"), (s!"c.{city}", "City")], .output 5 (.topic "shipments")]

def shippedCities : List Record :=
  [⟨"ada", ⟨[.int32 1, .text "bath"]⟩⟩, ⟨"bob", ⟨[.int32 2, .null]⟩⟩]

theorem shipmentRequests_alike :
    ∃ plan other compiled recompiled outcome,
      (of (shipmentRequests "id" "paid" "customer" "city")).node? 6 = some plan ∧
      (of (shipmentRequests "ID" "Paid" "CUSTOMER" "cITY")).node? 6 = some other ∧ plan ≠ other ∧
      plan.compile .standard = .ok compiled ∧ other.compile .standard = .ok recompiled ∧
      compiled.topology.folded = recompiled.topology.folded ∧
      compiled.topology.run Plan.shipmentRows none = .ok outcome ∧
      outcome.sinks = [("shipments", shippedCities)] ∧
      recompiled.topology.run Plan.shipmentRows none = .ok outcome := by
  have compiles (requests : List Request)
      (done : (((of requests).node? 6).bind fun plan => (plan.compile .standard).toOption.bind fun compiled =>
        (compiled.topology.run Plan.shipmentRows none).toOption.map (·.sinks)) =
          some [("shipments", shippedCities)]) :
      ∃ plan compiled outcome, (of requests).node? 6 = some plan ∧ plan.compile .standard = .ok compiled ∧
        compiled.topology.run Plan.shipmentRows none = .ok outcome ∧
          outcome.sinks = [("shipments", shippedCities)] := by
    obtain ⟨plan, here, done⟩ := Option.bind_eq_some_iff.mp done
    obtain ⟨compiled, accepted, done⟩ := Option.bind_eq_some_iff.mp done
    obtain ⟨outcome, ran, sinks⟩ := Option.map_eq_some_iff.mp done
    exact ⟨plan, compiled, outcome, here, toOption_eq_some.mp accepted, toOption_eq_some.mp ran, sinks⟩
  obtain ⟨plan, compiled, outcome, here, accepted, ran, sinks⟩ :=
    compiles (shipmentRequests "id" "paid" "customer" "city") (by decide +kernel)
  obtain ⟨other, recompiled, _, there, again, _⟩ :=
    compiles (shipmentRequests "ID" "Paid" "CUSTOMER" "cITY") (by decide +kernel)
  have differ : (of (shipmentRequests "id" "paid" "customer" "city")).node? 6 ≠
      (of (shipmentRequests "ID" "Paid" "CUSTOMER" "cITY")).node? 6 := by decide +kernel
  rw [here, there] at differ
  have recased : (shipmentRequests "id" "paid" "customer" "city").map Request.folded =
      (shipmentRequests "ID" "Paid" "CUSTOMER" "cITY").map Request.folded := by decide +kernel
  have distinct : ∀ plan ∈ (of (shipmentRequests "id" "paid" "customer" "city")).plans, plan.schema.Distinct := by
    decide +kernel
  obtain ⟨alike, runs⟩ := (case_ignored recased distinct).2 6 plan other here there .standard
  rw [accepted, again] at alike
  have same := runs compiled recompiled accepted again Plan.shipmentRows none
  rw [ran] at same
  exact ⟨plan, other, compiled, recompiled, outcome, here, there, fun same => differ (congrArg some same), accepted,
    again, congrArg Compiled.topology (Except.ok.inj alike), ran, sinks, toOption_eq_some.mp same.symm⟩

end Session
end StreamPlan
