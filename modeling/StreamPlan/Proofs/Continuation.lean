import StreamPlan.Proofs.Nodes
import StreamPlan.Proofs.Recording

/-! The stages of any plan that compiles, made by the checked constructors or not: those of its nodes
in post-order, left before right. What the constructors check decides only how the name of a key
column is spelled, so stages and handles are compared up to the letter case of that name. -/
namespace StreamPlan

/-- The stages differ at most in the letter case of the name of their key column. -/
structure Stage.Alike (stage other : Stage) : Prop where
  id : stage.id = other.id
  op : stage.op = other.op
  inputs : stage.inputs = other.inputs
  schema : stage.schema = other.schema
  kind : stage.kind = other.kind
  keyField : Text.sameIgnoringCase stage.keyField other.keyField = true

structure Handle.Alike (handle other : Handle) : Prop where
  kind : handle.kind = other.kind
  schema : handle.schema = other.schema
  stage : handle.stage = other.stage
  key : Text.sameIgnoringCase handle.key.name other.key.name = true

theorem Schema.find_name {schema : Schema} {name : String} {field : Field}
    (found : schema.find name = some field) : Text.sameIgnoringCase field.name name = true := by
  obtain ⟨position, index, here⟩ := find_eq_some_iff.mp found
  obtain ⟨other, there, named⟩ := index_eq_some index
  cases here.symm.trans there
  exact named

/-- A designation looked up in a schema keeps its name, letter case aside, whether or not it is there. -/
theorem Schema.designated_name (schema : Schema) (field : Field) :
    Text.sameIgnoringCase ((schema.find field.name).getD field).name field.name = true := by
  cases found : schema.find field.name with
  | none => exact Text.sameIgnoringCase_self field.name
  | some other => exact find_name found

namespace Topology

/-- The second topology is the first with more stages, like the given ones. -/
def Continues (t u : Topology) (stages : List Stage) : Prop :=
  ∃ recorded, u.stages = t.stages ++ recorded ∧ List.Forall₂ Stage.Alike recorded stages

theorem continues_refl (t : Topology) : t.Continues t [] := ⟨[], by simp, .nil⟩

theorem Continues.trans {t m u : Topology} {first second : List Stage} (before : t.Continues m first)
    (after : m.Continues u second) : t.Continues u (first ++ second) := by
  obtain ⟨recorded, middle, like⟩ := before
  obtain ⟨more, last, alike⟩ := after
  exact ⟨recorded ++ more, by rw [last, middle, List.append_assoc], List.rel_append like alike⟩

theorem Continues.size {t u : Topology} {stages : List Stage} (continued : t.Continues u stages) :
    u.size = t.size + stages.length := by
  obtain ⟨recorded, whole, like⟩ := continued
  rw [Topology.size, whole, List.length_append, like.length_eq]
  rfl

theorem Continues.kept {t u : Topology} {stages : List Stage} (continued : t.Continues u stages) {k : Nat}
    {stage : Stage} (here : t.stages[k]? = some stage) : u.stages[k]? = some stage := by
  obtain ⟨recorded, whole, _⟩ := continued
  rw [whole, List.getElem?_append_left (List.getElem?_eq_some_iff.mp here).1]
  exact here

theorem Continues.at {t u : Topology} {stages : List Stage} (continued : t.Continues u stages) {k : Nat}
    {stage : Stage} (here : stages[k]? = some stage) :
    ∃ like, u.stages[t.size + k]? = some like ∧ like.Alike stage := by
  obtain ⟨recorded, whole, alike⟩ := continued
  obtain ⟨like, there, same⟩ := exists_of_getElem?_left alike.flip here
  refine ⟨like, ?_, same⟩
  rw [whole, Topology.size, List.getElem?_append_right (Nat.le_add_right _ _), Nat.add_sub_cancel_left]
  exact there

/-- A stage like the plan's own stands where the plan's own would. -/
def ShowsLike (t : Topology) (config : Config) (n : Nat) (plan : Plan) : Prop :=
  ∃ stage, t.stages[(plan.stageId n).number]? = some stage ∧ stage.Alike (plan.stage config n)

theorem ShowsLike.kept {t u : Topology} {config : Config} {n : Nat} {plan : Plan} {stages : List Stage}
    (shown : t.ShowsLike config n plan) (continued : t.Continues u stages) : u.ShowsLike config n plan := by
  obtain ⟨stage, here, like⟩ := shown
  exact ⟨stage, continued.kept here, like⟩

theorem Continues.shows {t u : Topology} {config : Config} {plan : Plan}
    (continued : t.Continues u (plan.stages config t.size)) : u.ShowsLike config t.size plan :=
  continued.at (plan.stages_own config t.size)

theorem Continues.next {t u : Topology} {config : Config} {plan : Plan}
    (continued : t.Continues u (plan.stages config t.size)) : u.size = plan.nextFrom t.size := by
  rw [continued.size, Plan.next_stages]

/-- A stage pushed where the plan's own is due, with what the plan says of it. -/
theorem continues_push (config : Config) (plan : Plan) {t u : Topology} {id : StageId} {n : Nat}
    {keyField : String} (size : t.size = n + plan.stagesBelow)
    (pushed : t.push (plan.op config) (plan.inputIds n) plan.schema keyField plan.mode = (id, u))
    (same : Text.sameIgnoringCase keyField plan.key.name = true) :
    id = plan.stageId n ∧ t.Continues u [plan.stage config n] := by
  have next : t.nextId = plan.stageId n := congrArg StageId.mk size
  cases pushed
  exact ⟨next, _, rfl, .cons ⟨next, rfl, rfl, rfl, rfl, same⟩ .nil⟩

end Topology

namespace Settings
open Compiling

variable {settings : Settings} {t u : Topology} {n : Nat} {below handle : Handle} {input : Plan}

/-- The handle and the stages that compiling a plan from a topology should give. -/
structure Compiles (settings : Settings) (plan : Plan) (t : Topology) (handle : Handle) (u : Topology) :
    Prop where
  handle : handle.Alike (plan.handle t.size)
  stages : t.Continues u (plan.stages settings.config t.size)

/-- The last step of a node, once the stages of its inputs are there. -/
structure Finishes (settings : Settings) (plan : Plan) (n : Nat) (t : Topology) (handle : Handle) (u : Topology) :
    Prop where
  handle : handle.Alike (plan.handle n)
  stages : t.Continues u (plan.ownStages settings.config n)

theorem compiles_source (id : NodeId) {origin : Source}
    (given : Gives (settings.compileSource origin) t handle u) :
    settings.Finishes (.source id origin) t.size t handle u := by
  obtain ⟨topic, schema, key, mode, codec⟩ := origin
  unfold compileSource at given
  cases mode with
  | stream =>
    obtain ⟨_, _, recorded, rfl⟩ := gives_coded.mp given
    obtain ⟨field, found, pushed⟩ := Topology.addStream_eq_ok.mp recorded
    obtain ⟨rfl, continued⟩ := Topology.continues_push settings.config
      (.source id ⟨topic, schema, key, .stream, codec⟩) rfl pushed (Schema.find_name found)
    exact ⟨⟨rfl, rfl, rfl, Text.sameIgnoringCase_self _⟩, continued⟩
  | table =>
    obtain ⟨_, _, recorded, rfl⟩ := gives_coded.mp given
    obtain ⟨field, found, pushed⟩ := Topology.addTable_eq_ok.mp recorded
    obtain ⟨rfl, continued⟩ := Topology.continues_push settings.config
      (.source id ⟨topic, schema, key, .table, codec⟩) rfl pushed (Schema.find_name found)
    exact ⟨⟨rfl, rfl, rfl, Text.sameIgnoringCase_self _⟩, continued⟩

theorem pushed_after {op : StageOp} {id : StageId} (like : below.Alike (input.handle n))
    (shown : t.ShowsLike settings.config n input) (recorded : t.addAfter below.stage op = .ok (id, u)) :
    ∃ keyField, t.push op [input.stageId n] input.schema keyField input.mode = (id, u) ∧
      Text.sameIgnoringCase keyField input.key.name = true := by
  obtain ⟨parent, here, pushed⟩ := Topology.addAfter_eq_ok.mp recorded
  obtain ⟨stage, there, alike⟩ := shown
  rw [like.stage] at here pushed
  cases here.symm.trans there
  rw [alike.schema, alike.kind] at pushed
  exact ⟨_, pushed, alike.keyField⟩

theorem compiles_filter (id : NodeId) {predicate : Expr} (like : below.Alike (input.handle n))
    (shown : t.ShowsLike settings.config n input) (size : t.size = input.nextFrom n)
    (given : Gives (compileFilter predicate below) t handle u) :
    settings.Finishes (.filter id input predicate) n t handle u := by
  obtain ⟨_, recorded, rfl⟩ := gives_recorded.mp given
  obtain ⟨keyField, pushed, same⟩ := pushed_after like shown recorded
  obtain ⟨rfl, continued⟩ := Topology.continues_push settings.config (.filter id input predicate) size pushed same
  exact ⟨⟨like.kind, like.schema, rfl, like.key⟩, continued⟩

theorem compiles_project (id : NodeId) {schema : Schema} {expressions : List Expr}
    (like : below.Alike (input.handle n)) (shown : t.ShowsLike settings.config n input)
    (size : t.size = input.nextFrom n) (given : Gives (compileProject schema expressions below) t handle u) :
    settings.Finishes (.project id input schema expressions) n t handle u := by
  obtain ⟨_, recorded, rfl⟩ := gives_recorded.mp given
  obtain ⟨parent, here, pushed⟩ := Topology.addProject_eq_ok.mp recorded
  obtain ⟨stage, there, alike⟩ := shown
  rw [like.stage] at here pushed
  cases here.symm.trans there
  rw [alike.kind, Option.getD_map] at pushed
  -- every look-up of a designation gives a name that differs from it in letter case at most
  have designated : Text.sameIgnoringCase ((schema.find below.key.name).getD below.key).name
      ((schema.find input.key.name).getD input.key).name = true :=
    Text.sameIgnoringCase_trans (schema.designated_name below.key)
      (Text.sameIgnoringCase_trans like.key (Text.sameIgnoringCase_symm (schema.designated_name input.key)))
  obtain ⟨rfl, continued⟩ := Topology.continues_push settings.config (.project id input schema expressions) size
    pushed (Text.sameIgnoringCase_trans (schema.designated_name _) designated)
  exact ⟨⟨like.kind, rfl, rfl, designated⟩, continued⟩

/-- The left input of a join as it is handed on, and the stage that keys it anew where one is needed. -/
theorem compiles_rekey {left right : Plan} {spec : Join} (like : below.Alike (left.handle n))
    (column : left.schema.find spec.leftKey = some (left.joinColumn spec))
    (shown : t.ShowsLike settings.config n left) (size : t.size = right.nextFrom (left.nextFrom n))
    (given : Gives (rekey (left.joinColumn spec) below) t handle u) :
    handle.Alike (Plan.leftInput n left right spec) ∧ t.Continues u (Plan.rekeyStages n left right spec) := by
  have named : below.key.isNamed (left.joinColumn spec).name = left.key.isNamed (left.joinColumn spec).name := by
    have same := Text.sameIgnoringCase_iff.mp like.key
    simp only [Field.isNamed, Text.sameIgnoringCase]
    rw [same]
    rfl
  unfold rekey at given
  unfold Plan.leftInput Plan.rekeyStages Plan.rekeyed
  rw [← named]
  cases kept : below.key.isNamed (left.joinColumn spec).name with
  | true =>
    rw [if_pos kept] at given
    obtain ⟨rfl, rfl⟩ := gives_pure.mp given
    exact ⟨like, t.continues_refl⟩
  | false =>
    rw [if_neg (by simp [kept])] at given
    obtain ⟨_, recorded, rfl⟩ := gives_recorded.mp given
    obtain ⟨parent, here, field, found, pushed⟩ := Topology.addSelectKey_eq_ok.mp recorded
    obtain ⟨stage, there, alike⟩ := shown
    rw [like.stage] at here pushed
    cases here.symm.trans there
    have schema : parent.schema = left.schema := alike.schema
    rw [schema] at found pushed
    cases found.symm.trans (Schema.find_found column)
    have next : t.nextId = ⟨right.nextFrom (left.nextFrom n)⟩ := congrArg StageId.mk size
    cases pushed
    refine ⟨⟨rfl, like.schema, next, Text.sameIgnoringCase_self _⟩, _, rfl, .cons ?_ .nil⟩
    exact ⟨next, rfl, rfl, rfl, rfl, Text.sameIgnoringCase_self _⟩

theorem compiles_join (id : NodeId) {left right : Plan} {spec : Join} {leftBelow rightBelow : Handle}
    (leftLike : leftBelow.Alike (left.handle n)) (rightLike : rightBelow.Alike (right.handle (left.nextFrom n)))
    (shown : t.ShowsLike settings.config n left) (size : t.size = right.nextFrom (left.nextFrom n))
    (given : Gives (settings.compileJoin id spec left.codec leftBelow rightBelow) t handle u) :
    settings.Finishes (.join id left right spec) n t handle u := by
  obtain ⟨_, leftKey, found, reading, m, rekeyed, key, keyFound, _, recorded, rfl⟩ := gives_compileJoin given
  rw [leftLike.schema] at found
  cases Plan.joinColumn_eq found
  obtain ⟨readingLike, rekeying⟩ := compiles_rekey leftLike found shown size rekeyed
  obtain ⟨_, _, _, _, _, field, fieldFound, pushed⟩ := Topology.addLeftJoin_eq_ok.mp recorded
  rw [readingLike.stage, rightLike.stage] at pushed
  have middle : m.size = n + (Plan.join id left right spec).stagesBelow := by
    rw [rekeying.size, size, Plan.length_rekeyStages]
    simp only [Plan.nextFrom, Plan.stagesBelow]
    omega
  obtain ⟨rfl, continued⟩ := Topology.continues_push settings.config (.join id left right spec) middle pushed
    (Text.sameIgnoringCase_trans (Schema.find_name fieldFound) (Schema.find_name keyFound))
  exact ⟨⟨rfl, rfl, rfl, Schema.find_name keyFound⟩, rekeying.trans continued⟩

theorem compiles_output (id : NodeId) {target : Target} (like : below.Alike (input.handle n))
    (shown : t.ShowsLike settings.config n input) (size : t.size = input.nextFrom n)
    (given : Gives (settings.compileOutput id target input.codec below) t handle u) :
    settings.Finishes (.output id input target) n t handle u := by
  unfold compileOutput at given
  cases target with
  | topic name =>
    obtain ⟨_, given⟩ := gives_guard.mp given
    obtain ⟨_, _, recorded, rfl⟩ := gives_coded.mp given
    obtain ⟨keyField, pushed, same⟩ := pushed_after like shown recorded
    obtain ⟨rfl, continued⟩ := Topology.continues_push settings.config (.output id input (.topic name)) size pushed same
    exact ⟨⟨like.kind, like.schema, rfl, like.key⟩, continued⟩
  | console =>
    obtain ⟨_, recorded, rfl⟩ := gives_recorded.mp given
    obtain ⟨keyField, pushed, same⟩ := pushed_after like shown recorded
    obtain ⟨rfl, continued⟩ := Topology.continues_push settings.config (.output id input .console) size pushed same
    exact ⟨⟨like.kind, like.schema, rfl, like.key⟩, continued⟩

/-- Whatever compiles gives the handle its plan stands for and records the stages it stands for. -/
theorem compiles_node (plan : Plan) {depth : Nat} (given : Gives (settings.compileNode depth plan) t handle u) :
    settings.Compiles plan t handle u := by
  induction plan generalizing depth t u handle with
  | source id origin =>
    obtain ⟨_, given⟩ := gives_within.mp given
    obtain ⟨like, own⟩ := compiles_source id given
    exact ⟨like, own⟩
  | filter id input predicate ih =>
    obtain ⟨_, given⟩ := gives_within.mp given
    obtain ⟨below, m, inner, given⟩ := gives_bind.mp given
    obtain ⟨like, stages⟩ := ih inner
    obtain ⟨done, own⟩ := compiles_filter id like stages.shows stages.next given
    exact ⟨done, stages.trans own⟩
  | project id input schema expressions ih =>
    obtain ⟨_, given⟩ := gives_within.mp given
    obtain ⟨below, m, inner, given⟩ := gives_bind.mp given
    obtain ⟨like, stages⟩ := ih inner
    obtain ⟨done, own⟩ := compiles_project id like stages.shows stages.next given
    exact ⟨done, stages.trans own⟩
  | join id left right spec leftIh rightIh =>
    obtain ⟨_, given⟩ := gives_within.mp given
    obtain ⟨leftBelow, _, leftInner, given⟩ := gives_bind.mp given
    obtain ⟨rightBelow, m, rightInner, given⟩ := gives_bind.mp given
    obtain ⟨leftLike, leftStages⟩ := leftIh leftInner
    obtain ⟨rightLike, rightStages⟩ := rightIh rightInner
    -- the right side is recorded after the left one, whose stages keep their numbers
    have size := rightStages.next
    rw [leftStages.next] at rightLike rightStages size
    have shown := leftStages.shows.kept rightStages
    obtain ⟨done, own⟩ := compiles_join id leftLike rightLike shown size given
    refine ⟨done, ?_⟩
    rw [Plan.stages_join]
    exact leftStages.trans (rightStages.trans own)
  | output id input target ih =>
    obtain ⟨_, given⟩ := gives_within.mp given
    obtain ⟨_, given⟩ := gives_guard.mp given
    obtain ⟨below, m, inner, given⟩ := gives_bind.mp given
    obtain ⟨like, stages⟩ := ih inner
    obtain ⟨done, own⟩ := compiles_output id like stages.shows stages.next given
    exact ⟨done, stages.trans own⟩

end Settings
end StreamPlan
