import StreamPlan.Proofs.Stages

/-! The nodes of a plan, with the places of their stages. The stages a plan stands for are those of
its nodes in their places, and what a plan hands down to its inputs is so of all its nodes. -/
namespace StreamPlan.Plan

def nodes : Plan → List Plan
  | .source id origin => [.source id origin]
  | .filter id input predicate => .filter id input predicate :: input.nodes
  | .project id input schema expressions => .project id input schema expressions :: input.nodes
  | .join id left right spec => .join id left right spec :: (left.nodes ++ right.nodes)
  | .output id input target => .output id input target :: input.nodes

/-- The nodes of a plan, each with the number of its first stage when the plan's has number n. -/
def placed (n : Nat) : Plan → List (Nat × Plan)
  | .source id origin => [(n, .source id origin)]
  | .filter id input predicate => (n, .filter id input predicate) :: input.placed n
  | .project id input schema expressions => (n, .project id input schema expressions) :: input.placed n
  | .join id left right spec =>
    (n, .join id left right spec) :: (left.placed n ++ right.placed (left.nextFrom n))
  | .output id input target => (n, .output id input target) :: input.placed n

def inputsFrom (n : Nat) : Plan → List (Nat × Plan)
  | .source _ _ => []
  | .filter _ input _ => [(n, input)]
  | .project _ input _ _ => [(n, input)]
  | .join _ left right _ => [(n, left), (left.nextFrom n, right)]
  | .output _ input _ => [(n, input)]

/-- A table source under any number of filters and projections. -/
inductive Tabular : Plan → Prop where
  | source {id : NodeId} {origin : Source} (table : origin.mode = .table) : Tabular (.source id origin)
  | filter {id : NodeId} {input : Plan} {predicate : Expr} (below : Tabular input) :
      Tabular (.filter id input predicate)
  | project {id : NodeId} {input : Plan} {schema : Schema} {expressions : List Expr}
      (below : Tabular input) : Tabular (.project id input schema expressions)

theorem map_placed (n : Nat) (plan : Plan) : (plan.placed n).map Prod.snd = plan.nodes := by
  induction plan generalizing n with
  | source id origin => rfl
  | filter id input predicate ih => simp [placed, nodes, ih]
  | project id input schema expressions ih => simp [placed, nodes, ih]
  | join id left right spec leftIh rightIh => simp [placed, nodes, leftIh, rightIh]
  | output id input target ih => simp [placed, nodes, ih]

theorem mem_nodes_of_placed {n m : Nat} {plan node : Plan} (place : (m, node) ∈ plan.placed n) :
    node ∈ plan.nodes := by
  rw [← map_placed n]
  exact List.mem_map_of_mem place

theorem exists_placed {plan node : Plan} (member : node ∈ plan.nodes) (n : Nat) :
    ∃ m, (m, node) ∈ plan.placed n := by
  rw [← map_placed n] at member
  obtain ⟨⟨m, _⟩, place, rfl⟩ := List.mem_map.mp member
  exact ⟨m, place⟩

theorem placed_eq (n : Nat) (plan : Plan) :
    plan.placed n = (n, plan) :: (plan.inputsFrom n).flatMap fun (m, input) => input.placed m := by
  cases plan <;> simp [placed, inputsFrom]

theorem stages_eq (config : Config) (n : Nat) (plan : Plan) :
    plan.stages config n =
      (plan.inputsFrom n).flatMap (fun (m, input) => input.stages config m) ++ plan.ownStages config n := by
  cases plan <;> simp [stages, innerStages, ownStages, inputsFrom]

/-- Induction from the inputs of a node to the node, whatever kind it is of. -/
theorem inputs_induction {P : Nat → Plan → Prop}
    (step : ∀ n plan, (∀ m input, (m, input) ∈ plan.inputsFrom n → P m input) → P n plan)
    (n : Nat) (plan : Plan) : P n plan := by
  induction plan generalizing n with
  | source id origin => exact step n _ fun m input member => nomatch member
  | filter id input predicate ih =>
    apply step
    intro m input member
    cases List.mem_singleton.mp member
    exact ih n
  | project id input schema expressions ih =>
    apply step
    intro m input member
    cases List.mem_singleton.mp member
    exact ih n
  | join id left right spec leftIh rightIh =>
    apply step
    intro m input member
    rcases List.mem_pair.mp member with same | same
    · cases same
      exact leftIh n
    · cases same
      exact rightIh _
  | output id input target ih =>
    apply step
    intro m input member
    cases List.mem_singleton.mp member
    exact ih n

/-- What is so of a plan and handed down to inputs is so of every node. -/
theorem of_placed {P : Nat → Plan → Prop}
    (down : ∀ n plan m input, P n plan → (m, input) ∈ plan.inputsFrom n → P m input)
    {n m : Nat} {plan node : Plan} (root : P n plan) (place : (m, node) ∈ plan.placed n) : P m node := by
  induction n, plan using inputs_induction with
  | step n plan ih =>
    rw [placed_eq] at place
    rcases List.mem_cons.mp place with same | place
    · cases same
      exact root
    · obtain ⟨⟨k, input⟩, member, below⟩ := List.mem_flatMap.mp place
      exact ih k input member (down n plan k input root member) below

theorem nodes_of_input {n m : Nat} {plan input : Plan} (member : (m, input) ∈ plan.inputsFrom n) :
    input.nodes ⊆ plan.nodes := by
  cases plan with
  | source => cases member
  | filter | project | output =>
    cases List.mem_singleton.mp member
    exact List.subset_cons_self _ _
  | join id left right spec =>
    rcases List.mem_pair.mp member with same | same
    · cases same
      exact fun node inside => List.mem_cons_of_mem _ (List.mem_append_left _ inside)
    · cases same
      exact fun node inside => List.mem_cons_of_mem _ (List.mem_append_right _ inside)

theorem nodes_subset {plan node : Plan} (member : node ∈ plan.nodes) : node.nodes ⊆ plan.nodes := by
  obtain ⟨m, place⟩ := exists_placed member 0
  refine of_placed (P := fun _ node => node.nodes ⊆ plan.nodes) ?_ (List.Subset.refl _) place
  exact fun n node m input inside below => List.Subset.trans (nodes_of_input below) inside

theorem nodes_right {plan : Plan} {id : NodeId} {left right : Plan} {spec : Join}
    (member : Plan.join id left right spec ∈ plan.nodes) : right.nodes ⊆ plan.nodes :=
  List.Subset.trans (nodes_of_input (n := 0) (List.mem_cons_of_mem _ List.mem_cons_self)) (nodes_subset member)

theorem checked_placed {n m : Nat} {plan node : Plan} (checked : plan.Checked)
    (place : (m, node) ∈ plan.placed n) : node.Checked := by
  refine of_placed (P := fun _ plan => plan.Checked) ?_ checked place
  intro n plan m input checked member
  cases plan with
  | source => cases member
  | filter | project =>
    cases List.mem_singleton.mp member
    exact checked.1
  | join id left right spec =>
    rcases List.mem_pair.mp member with same | same
    · cases same
      exact checked.1
    · cases same
      exact checked.2.1
  | output =>
    cases List.mem_singleton.mp member
    exact checked

theorem tabular_iff {plan : Plan} (inner : ∀ node ∈ plan.nodes, node.isOutput = false) :
    plan.mode = .table ↔ plan.Tabular := by
  induction plan with
  | source id origin =>
    constructor
    · intro table; exact .source table
    · intro tabular; cases tabular with | source table => exact table
  | filter id input predicate ih =>
    have below := ih fun node member => inner node (List.mem_cons_of_mem _ member)
    constructor
    · intro table; exact .filter (below.mp table)
    · intro tabular; cases tabular with | filter tabular => exact below.mpr tabular
  | project id input schema expressions ih =>
    have below := ih fun node member => inner node (List.mem_cons_of_mem _ member)
    constructor
    · intro table; exact .project (below.mp table)
    · intro tabular; cases tabular with | project tabular => exact below.mpr tabular
  | join id left right spec =>
    constructor
    · intro table; cases table
    · intro tabular; cases tabular
  | output id input target =>
    have impossible := inner _ List.mem_cons_self
    cases impossible

/-- The stages of a plan are those of its nodes in their places. -/
theorem mem_stages {config : Config} {n : Nat} {plan : Plan} {stage : Stage} :
    stage ∈ plan.stages config n ↔
      ∃ m node, (m, node) ∈ plan.placed n ∧ stage ∈ node.ownStages config m := by
  induction n, plan using inputs_induction with
  | step n plan ih =>
    rw [stages_eq, placed_eq]
    simp only [List.mem_append, List.mem_flatMap, List.mem_cons, Prod.exists, Prod.mk.injEq]
    constructor
    · rintro (⟨k, input, member, below⟩ | own)
      · obtain ⟨m, node, place, here⟩ := (ih k input member).mp below
        exact ⟨m, node, .inr ⟨k, input, member, place⟩, here⟩
      · exact ⟨n, plan, .inl ⟨rfl, rfl⟩, own⟩
    · rintro ⟨m, node, ⟨rfl, rfl⟩ | ⟨k, input, member, place⟩, here⟩
      · exact .inr here
      · exact .inl ⟨k, input, member, (ih k input member).mpr ⟨m, node, place, here⟩⟩

theorem isTerminal_op (config : Config) (plan : Plan) : (plan.op config).isTerminal = plan.isOutput := by
  cases plan with
  | source id origin => cases mode : origin.mode <;> simp [op, mode, StageOp.isTerminal, isOutput]
  | output id input target => cases target <;> rfl
  | filter | project | join => rfl

theorem inner_stages {plan : Plan} (inner : ∀ node ∈ plan.nodes, node.isOutput = false)
    (config : Config) (n : Nat) : ∀ stage ∈ plan.stages config n, stage.op.isTerminal = false := by
  intro stage member
  obtain ⟨m, node, place, own⟩ := mem_stages.mp member
  rcases mem_ownStages.mp own with rfl | ⟨_, _, _, _, _, rekeying⟩
  · exact (isTerminal_op config node).trans (inner node (mem_nodes_of_placed place))
  · rw [eq_rekeyStage rekeying]
    rfl

end StreamPlan.Plan
