import StreamPlan.Proofs.Authored
import StreamPlan.Proofs.PostOrder
import StreamPlan.Proofs.Sessions

/-! Ids tell in which order nodes were made. Whatever a builder is asked, the ids it hands out are one, two
and so on, and a node has a greater one than all nodes below it; a plan that is built from its declaration
alone has no others, and they count its nodes from the leftmost source up. -/
namespace StreamPlan

namespace Plan

/-- Every node has a greater id than the nodes below it. -/
def Descending (plan : Plan) : Prop :=
  ∀ node ∈ plan.nodes, ∀ below ∈ node.nodes.tail, below.id.number < node.id.number

theorem descending_of_inputs {plan : Plan} (descending : ∀ input ∈ plan.inputs, input.Descending)
    (less : ∀ input ∈ plan.inputs, ∀ node ∈ input.nodes, node.id.number < plan.id.number) : plan.Descending := by
  intro node member below inside
  rw [nodes_eq] at member
  rcases List.mem_cons.mp member with rfl | member
  · rw [nodes_eq, List.tail_cons] at inside
    obtain ⟨input, own, inside⟩ := List.mem_flatMap.mp inside
    exact less input own below inside
  · obtain ⟨input, own, member⟩ := List.mem_flatMap.mp member
    exact descending input own node member below inside

/-- The nodes of a plan, inputs before the node that reads them and left before right. -/
def upward (plan : Plan) : List Plan := (plan.postOrder 0).map Prod.snd

theorem map_postOrder (n : Nat) (plan : Plan) : (plan.postOrder n).map Prod.snd = plan.upward := by
  unfold upward
  induction plan generalizing n with
  | source => rfl
  | filter id input predicate ih => simp [postOrder, ih n]
  | project id input schema expressions ih => simp [postOrder, ih n]
  | join id left right spec leftIh rightIh =>
    simp [postOrder, leftIh n, rightIh (left.nextFrom n), rightIh (left.nextFrom 0)]
  | output id input target ih => simp [postOrder, ih n]

theorem upward_eq (plan : Plan) : plan.upward = plan.inputs.flatMap upward ++ [plan] := by
  cases plan with
  | join id left right spec =>
    simp [upward, postOrder, inputs, inputsFrom, map_postOrder (left.nextFrom 0)]
  | source | filter | project | output => simp [upward, postOrder, inputs, inputsFrom]

end Plan

namespace Session

/-- A session whose ids have been handed out in order: those that replies show come in that order, and the
nodes below any that was returned had theirs before it. -/
structure Orderly (s : Session) : Prop where
  next : s.builder.next = s.issued.length + 1
  issued : s.issued = (List.range' 1 s.issued.length).map NodeId.mk
  shown : (s.replies.filterMap Reply.id?).Sublist s.issued
  nodes : ∀ k plan, s.node? k = some plan →
    plan.Descending ∧ ∀ node ∈ plan.nodes, node.id.number < s.builder.next

variable {s : Session} {reply : Reply}

/-- A reply for which no id was handed out. -/
theorem Orderly.refuse (orderly : s.Orderly) (shows : reply.id? = none) (bare : reply.node? = none) :
    Orderly ⟨s.builder, s.issued ++ s.builder.idsTo s.builder, s.replies ++ [reply]⟩ := by
  have nothing : s.builder.idsTo s.builder = [] := by simp [Builder.idsTo]
  rw [nothing, List.append_nil]
  refine ⟨orderly.next, orderly.issued, ?_, fun k plan here => ?_⟩
  · simpa [shows] using orderly.shown
  · rcases node?_append here with old | rfl
    · exact orderly.nodes k plan old
    · cases bare

/-- A reply that goes with the next id. -/
theorem Orderly.hand (orderly : s.Orderly) (shows : ∀ id, reply.id? = some id → id = ⟨s.builder.next⟩)
    (node : ∀ plan, reply = .node plan →
      plan.Descending ∧ ∀ node ∈ plan.nodes, node.id.number < s.builder.next + 1) :
    Orderly ⟨⟨s.builder.next + 1⟩, s.issued ++ s.builder.idsTo ⟨s.builder.next + 1⟩, s.replies ++ [reply]⟩ := by
  have single : s.builder.idsTo ⟨s.builder.next + 1⟩ = [⟨s.builder.next⟩] := by simp [Builder.idsTo]
  rw [single]
  refine ⟨?_, ?_, ?_, fun k plan here => ?_⟩
  · simp [orderly.next]
  · have before := orderly.issued
    rw [List.length_append, List.length_singleton, List.range'_1_concat, List.map_append, ← before, orderly.next,
      Nat.add_comm 1]
    rfl
  · rw [List.filterMap_append]
    refine orderly.shown.append ?_
    cases shown : reply.id? with
    | none => simp [shown]
    | some id => simp [shown, shows id shown]
  · rcases node?_append here with old | rfl
    · obtain ⟨descending, bound⟩ := orderly.nodes k plan old
      exact ⟨descending, fun node member => Nat.lt_succ_of_lt (bound node member)⟩
    · exact node plan rfl

theorem orderly_perform (request : Request) (orderly : s.Orderly) : (s.perform request).Orderly := by
  rcases perform_cases s request with same | ⟨reply, after, answers, same⟩
  · rw [same]
    exact orderly
  rw [same]
  cases answers with
  | fresh => exact orderly.hand (fun id shown => (Option.some.inj shown).symm) nofun
  | @built below built named makes =>
    cases makes with
    | unread e => exact orderly.refuse rfl rfl
    | @made result constructs =>
      cases result with
      | error e => exact orderly.hand constructs nofun
      | ok plan =>
        obtain ⟨id, inputs, _⟩ := constructs
        refine orderly.hand (fun shown same => (Option.some.inj same).symm.trans id) ?_
        rintro _ ⟨⟩
        have under (input : Plan) (member : input ∈ plan.inputs) :
            input.Descending ∧ ∀ node ∈ input.nodes, node.id.number < s.builder.next := by
          rw [inputs] at member
          obtain ⟨k, here⟩ := named input member
          exact orderly.nodes k input here
        refine ⟨Plan.descending_of_inputs (fun input member => (under input member).1) ?_, ?_⟩
        · rw [id]
          exact fun input member => (under input member).2
        · intro node member
          rw [Plan.nodes_eq] at member
          rcases List.mem_cons.mp member with rfl | member
          · rw [id]
            exact Nat.lt_succ_self _
          · obtain ⟨input, own, member⟩ := List.mem_flatMap.mp member
            exact Nat.lt_succ_of_lt ((under input own).2 node member)

theorem orderly_of (requests : List Request) : (of requests).Orderly := by
  refine of_induction ⟨rfl, rfl, .slnil, ?_⟩ (fun s request => orderly_perform request) requests
  intro k plan here
  simp [node?, start] at here

end Session

namespace Plan

variable {b m after : Builder} {plan input left right : Plan} {below : List Plan}

/-- The builder has gone on by one for each of the nodes, which have the ids in between, from below upward. -/
structure Numbered (b : Builder) (nodes : List Plan) (after : Builder) : Prop where
  next : after.next = b.next + nodes.length
  ids : nodes.map (·.id.number) = List.range' b.next nodes.length

theorem Numbered.append {nodes more : List Plan} (first : Numbered b nodes m) (rest : Numbered m more after) :
    Numbered b (nodes ++ more) after where
  next := by rw [rest.next, first.next, List.length_append, Nat.add_assoc]
  ids := by rw [List.map_append, first.ids, rest.ids, first.next, List.range'_append_1, List.length_append]

/-- What is made over nodes numbered before it is numbered last. -/
theorem Numbered.makes (numbered : Numbered b (below.flatMap upward) m)
    (makes : m.Makes below (.ok plan, after)) : Numbered b plan.upward after := by
  cases makes with
  | made constructs =>
    obtain ⟨id, inputs, _⟩ := constructs
    rw [upward_eq, inputs]
    exact numbered.append ⟨rfl, by simp [id]⟩

theorem length_postOrder (n : Nat) (plan : Plan) : (plan.postOrder n).length = plan.size := by
  induction plan generalizing n with
  | source => rfl
  | filter id input predicate ih => simp [postOrder, size, ih n, Nat.add_comm]
  | project id input schema expressions ih => simp [postOrder, size, ih n, Nat.add_comm]
  | join id left right spec leftIh rightIh =>
    simp only [postOrder, size, List.length_append, List.length_singleton, leftIh n, rightIh (left.nextFrom n)]
    omega
  | output id input target ih => simp [postOrder, size, ih n, Nat.add_comm]

namespace Definition

theorem run_make {step : Builder → Builder.Built} (made : (make step).run b = .ok (plan, after)) :
    step b = (.ok plan, after) := by
  simp only [make, StateT.run] at made
  split at made
  · rename_i built
    cases made
    exact built
  · cases made

/-- A step that only reads the declaration leaves the builder as it is. -/
theorem run_lift {step : Except DefinitionError α} {a : α}
    (read : (liftM step : Building α).run b = .ok (a, m)) : m = b := by
  obtain ⟨_, _, same⟩ := bind_eq_ok.mp read
  cases same
  rfl

/-- Building from a declaration hands out an id for each node and no more, inputs first. -/
theorem numbered_build {definition : Definition} (built : definition.build.run b = .ok (plan, after)) :
    Numbered b plan.upward after := by
  induction definition generalizing b after plan with
  | source origin =>
    obtain ⟨codec, _, read, later⟩ := building_bind.mp built
    obtain ⟨schema, m, also, rest⟩ := building_bind.mp later
    obtain rfl := run_lift read
    obtain rfl := run_lift also
    have makes := m.makes_source origin.topic schema origin.key origin.mode codec
    rw [run_make rest] at makes
    have start : Numbered m (List.flatMap upward []) m := ⟨rfl, rfl⟩
    exact start.makes makes
  | filter predicate input ih =>
    obtain ⟨below, m, first, rest⟩ := building_bind.mp built
    have makes := m.makes_filterText below predicate
    rw [run_make rest] at makes
    refine Numbered.makes ?_ makes
    simpa using ih first
  | project items input ih =>
    obtain ⟨below, m, first, rest⟩ := building_bind.mp built
    have makes := m.makes_project below (items.map Item.named)
    rw [run_make rest] at makes
    refine Numbered.makes ?_ makes
    simpa using ih first
  | join pairing left right leftIh rightIh =>
    obtain ⟨leftBelow, _, first, rest⟩ := building_bind.mp built
    obtain ⟨rightBelow, m, second, rest⟩ := building_bind.mp rest
    have makes := m.makes_join leftBelow rightBelow pairing.kind pairing.leftKey pairing.rightKey
      pairing.leftAlias pairing.rightAlias
    rw [run_make rest] at makes
    refine Numbered.makes ?_ makes
    simpa using (leftIh first).append (rightIh second)
  | output sink console input ih =>
    obtain ⟨below, m, first, later⟩ := building_bind.mp built
    obtain ⟨target, _, read, rest⟩ := building_bind.mp later
    obtain rfl := run_lift read
    cases rest
    refine Numbered.makes ?_ (Builder.makes_output _ below target)
    simpa using ih first

end Definition

/-- Ids are handed out in order and show the order of making: in every session they are one, two and so on
as far as it has come, replies show some of them in that order, and whatever node is returned has a greater
one than all nodes below it. What a new builder makes of a declaration has no others but the first, counted
from below upward. -/
theorem ids_ascend :
    (∀ requests : List Request,
      (Session.of requests).issued =
        (List.range' 1 (Session.of requests).issued.length).map NodeId.mk ∧
      ((Session.of requests).replies.filterMap Reply.id?).Sublist (Session.of requests).issued ∧
      ∀ plan, .node plan ∈ (Session.of requests).replies → plan.Descending) ∧
    ∀ (definition : Definition) (plan : Plan) (after : Builder),
      definition.build.run .start = .ok (plan, after) →
        (plan.postOrder 0).map (fun (_, node) => node.id.number) = List.range' 1 plan.size := by
  constructor
  · intro requests
    have orderly := Session.orderly_of requests
    refine ⟨orderly.issued, orderly.shown, fun plan member => ?_⟩
    obtain ⟨k, here⟩ := List.mem_iff_getElem?.mp member
    exact (orderly.nodes k plan (by simp [Session.node?, here, Reply.node?])).1
  · intro definition plan after built
    have ids := (Definition.numbered_build built).ids
    rw [upward, List.map_map, List.length_map, length_postOrder] at ids
    exact ids

/-- Paid orders with where they go to, as declared: the customers come after the filter over the orders. -/
def declaredShipments : Definition :=
  let orders : Definition := .source ⟨"orders", .stream, "id", "json", none, none,
    [⟨"id", "INT", false⟩, ⟨"customer", "VARCHAR", true⟩, ⟨"paid", "BOOLEAN", true⟩]⟩
  let customers : Definition := .source ⟨"customers", .table, "name", "csv", none, none,
    [⟨"name", "VARCHAR", false⟩, ⟨"city", "VARCHAR", true⟩]⟩
  .output (some "shipments") false
    (.project [⟨"o.id", some "id"⟩, ⟨"c.city", none⟩]
      (.join ⟨.left, "customer", "name", "o", "c"⟩ (.filter "paid" orders) customers))

/-- Of four calls the second is refused and the third not read; only the second has used up its id. -/
def troubledRequests : List Request :=
  [.source "orders" orders.schema "id" .stream .json, .filter 0 (.column "customer"), .filterText 0 "paid AND",
    .filter 0 (.column "paid")]

theorem declaredShipments_ids :
    (∃ plan after, declaredShipments.build.run .start = .ok (plan, after) ∧
      (plan.postOrder 0).map (fun (_, node) => node.id.number) = [1, 2, 3, 4, 5, 6]) ∧
    (Session.of troubledRequests).issued = [⟨1⟩, ⟨2⟩, ⟨3⟩] ∧ Descending (.filter ⟨3⟩ orders (.column "paid")) := by
  have sized : (declaredShipments.build.run .start).map (fun made => made.1.size) = .ok 6 := by decide +kernel
  have three : (Session.of troubledRequests).issued.length = 3 := by decide +kernel
  have last : .node (.filter ⟨3⟩ orders (.column "paid")) ∈ (Session.of troubledRequests).replies := by
    decide +kernel
  obtain ⟨issued, _, descending⟩ := ids_ascend.1 troubledRequests
  refine ⟨?_, ?_, descending _ last⟩
  · cases built : declaredShipments.build.run .start with
    | error e =>
      rw [built] at sized
      cases sized
    | ok made =>
      rw [built] at sized
      have six : made.1.size = 6 := Except.ok.inj sized
      refine ⟨made.1, made.2, rfl, ?_⟩
      rw [ids_ascend.2 declaredShipments made.1 made.2 built, six]
      rfl
  · rw [issued, three]
    rfl

end Plan
end StreamPlan
