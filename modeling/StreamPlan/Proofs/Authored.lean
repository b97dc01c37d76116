import StreamPlan.Plan.Definition
import StreamPlan.Proofs.Built

/-! Plans as their authors make them: node by node through the builder, or from a declaration. The
columns of their projections are made from the expressions, so each has the type of its expression
and may be null. Which ids the nodes got is not asked here. -/
namespace StreamPlan.Plan

/-- Every node was made by a step of some builder over nodes that were. -/
inductive Assembled : Plan → Prop where
  | source {b : Builder} {topic : String} {schema : Schema} {key : String} {mode : Mode} {codec : Codec}
      {plan : Plan} (made : (b.source topic schema key mode codec).1 = .ok plan) : Assembled plan
  | filter {b : Builder} {input : Plan} {predicate : Expr} {plan : Plan} (below : Assembled input)
      (made : (b.filter input predicate).1 = .ok plan) : Assembled plan
  | filterText {b : Builder} {input : Plan} {predicate : String} {plan : Plan} (below : Assembled input)
      (made : (b.filterText input predicate).1 = .ok plan) : Assembled plan
  | projectOf {b : Builder} {input : Plan} {items : List (Expr × String)} {plan : Plan}
      (below : Assembled input) (made : (b.projectOf input items).1 = .ok plan) : Assembled plan
  | project {b : Builder} {input : Plan} {items : List (String × String)} {plan : Plan}
      (below : Assembled input) (made : (b.project input items).1 = .ok plan) : Assembled plan
  | select {b : Builder} {input : Plan} {columns : List String} {plan : Plan} (below : Assembled input)
      (made : (b.select input columns).1 = .ok plan) : Assembled plan
  | join {b : Builder} {kind : JoinKind} {left right : Plan}
      {leftKey rightKey leftAlias rightAlias : String} {plan : Plan}
      (leftBelow : Assembled left) (rightBelow : Assembled right)
      (made : (b.join kind left right leftKey rightKey leftAlias rightAlias).1 = .ok plan) : Assembled plan
  | output {b : Builder} {input : Plan} {target : Target} (below : Assembled input) :
      Assembled (b.output input target).1

/-- Assembled by a caller, or built from a declaration by a builder in any state. -/
def Authored (plan : Plan) : Prop :=
  plan.Assembled ∨ ∃ (definition : Definition) (b after : Builder), definition.build.run b = .ok (plan, after)

/-- The columns of every projection are those of its expressions: of their types, and nullable. -/
def Inferred : Plan → Prop
  | .source _ _ => True
  | .filter _ input _ => input.Inferred
  | .project _ input schema expressions =>
    input.Inferred ∧ List.Forall₂ (fun e (field : Field) =>
      e.typeOf input.schema = .ok field.dataType ∧ field.nullable = true) expressions schema.fields
  | .join _ left right _ => left.Inferred ∧ right.Inferred
  | .output _ input _ => input.Inferred

theorem projectOf_eq_ok {b : Builder} {input plan : Plan} {items : List (String × String)}
    (made : (b.project input items).1 = .ok plan) :
    ∃ items, newProjectOf ⟨b.next⟩ input items = .ok plan := by
  unfold Builder.project at made
  cases parsed : Builder.parseItems items with
  | error e =>
    rw [parsed] at made
    cases made
  | ok items =>
    rw [parsed] at made
    exact ⟨items, made⟩

theorem filter_eq_ok {b : Builder} {input plan : Plan} {predicate : String}
    (made : (b.filterText input predicate).1 = .ok plan) :
    ∃ predicate, newFilter ⟨b.next⟩ input predicate = .ok plan := by
  unfold Builder.filterText at made
  cases parsed : Expr.parse predicate with
  | error e =>
    rw [parsed] at made
    cases made
  | ok e =>
    rw [parsed] at made
    exact ⟨e, made⟩

theorem Assembled.built {plan : Plan} (assembled : plan.Assembled) : plan.Built := by
  induction assembled with
  | source made => exact .source made
  | filter _ made ih => exact .filter ih made
  | filterText _ made ih =>
    obtain ⟨_, made⟩ := filter_eq_ok made
    exact .filter ih made
  | projectOf _ made ih => exact .projectOf ih made
  | project _ made ih | select _ made ih =>
    obtain ⟨_, made⟩ := projectOf_eq_ok made
    exact .projectOf ih made
  | join _ _ made leftIh rightIh => exact .join leftIh rightIh made
  | output _ ih => exact .output ih

theorem columnsOf_inferred {schema : Schema} {items : List (Expr × String)} {fields : List Field}
    (made : columnsOf schema items = .ok fields) :
    List.Forall₂ (fun e (field : Field) => e.typeOf schema = .ok field.dataType ∧ field.nullable = true)
      (items.map (·.1)) fields := by
  refine List.forall₂_map_left_iff.mpr ((mapM_eq_ok.mp made).imp fun item field done => ?_)
  obtain ⟨type, typed, made⟩ := bind_eq_ok.mp done
  cases made
  exact ⟨typed, rfl⟩

theorem newProjectOf_inferred {id : NodeId} {input plan : Plan} {items : List (Expr × String)}
    (made : newProjectOf id input items = .ok plan) (below : input.Inferred) : plan.Inferred := by
  obtain ⟨fields, columns, made⟩ := newProjectOf_eq_ok made
  obtain ⟨_, _, rfl⟩ := newProject_eq_ok made
  exact ⟨below, columnsOf_inferred columns⟩

theorem Assembled.inferred {plan : Plan} (assembled : plan.Assembled) : plan.Inferred := by
  induction assembled with
  | source made =>
    obtain ⟨_, _, rfl⟩ := newSource_eq_ok.mp made
    trivial
  | filter _ made ih =>
    obtain ⟨_, rfl⟩ := newFilter_eq_ok.mp made
    exact ih
  | filterText _ made ih =>
    obtain ⟨_, made⟩ := filter_eq_ok made
    obtain ⟨_, rfl⟩ := newFilter_eq_ok.mp made
    exact ih
  | projectOf _ made ih => exact newProjectOf_inferred made ih
  | project _ made ih | select _ made ih =>
    obtain ⟨_, made⟩ := projectOf_eq_ok made
    exact newProjectOf_inferred made ih
  | join _ _ made leftIh rightIh =>
    obtain ⟨_, rfl, _⟩ := newJoin_eq_ok made
    exact ⟨leftIh, rightIh⟩
  | output _ ih => exact ih

namespace Definition

theorem building_bind {step : Building α} {next : α → Building β} {b after : Builder} {result : β} :
    (step >>= next).run b = .ok (result, after) ↔
      ∃ a middle, step.run b = .ok (a, middle) ∧ (next a).run middle = .ok (result, after) := by
  rw [StateT.run_bind, bind_eq_ok]
  exact ⟨fun ⟨(a, middle), first, rest⟩ => ⟨a, middle, first, rest⟩,
    fun ⟨a, middle, first, rest⟩ => ⟨(a, middle), first, rest⟩⟩

theorem make_eq_ok {step : Builder → Builder.Built} {b after : Builder} {plan : Plan}
    (made : (make step).run b = .ok (plan, after)) : (step b).1 = .ok plan := by
  simp only [make, StateT.run] at made
  rcases same : step b with ⟨_ | node, later⟩
  · rw [same] at made
    cases made
  · rw [same] at made
    cases made
    rfl

/-- Whatever a declaration builds, a caller of the builder could have assembled. -/
theorem assembled_of_build {definition : Definition} {b after : Builder} {plan : Plan}
    (built : definition.build.run b = .ok (plan, after)) : plan.Assembled := by
  induction definition generalizing b after plan with
  | source origin =>
    obtain ⟨codec, _, _, rest⟩ := building_bind.mp built
    obtain ⟨schema, _, _, rest⟩ := building_bind.mp rest
    exact .source (make_eq_ok rest)
  | filter predicate input ih =>
    obtain ⟨_, _, below, rest⟩ := building_bind.mp built
    exact .filterText (ih below) (make_eq_ok rest)
  | project items input ih =>
    obtain ⟨_, _, below, rest⟩ := building_bind.mp built
    exact .project (ih below) (make_eq_ok rest)
  | join pairing left right leftIh rightIh =>
    obtain ⟨_, _, leftBelow, rest⟩ := building_bind.mp built
    obtain ⟨_, _, rightBelow, rest⟩ := building_bind.mp rest
    exact .join (leftIh leftBelow) (rightIh rightBelow) (make_eq_ok rest)
  | output sink console input ih =>
    obtain ⟨_, _, below, rest⟩ := building_bind.mp built
    obtain ⟨target, _, _, rest⟩ := building_bind.mp rest
    cases rest
    exact .output (ih below)

end Definition

theorem Authored.assembled {plan : Plan} (authored : plan.Authored) : plan.Assembled := by
  rcases authored with assembled | ⟨definition, b, after, built⟩
  · exact assembled
  · exact definition.assembled_of_build built

end StreamPlan.Plan
