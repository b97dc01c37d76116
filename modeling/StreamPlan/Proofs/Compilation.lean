import StreamPlan.Proofs.Compiling

/-! Compiling a checked plan. The first complaint can be read off the plan, the settings and the
depth; without one the recorded stages are those the plan stands for, in any topology. -/
namespace StreamPlan.Settings
open Compiling

def depthComplaint (settings : Settings) (id : NodeId) (depth : Nat) : Option CompileError :=
  if settings.config.maxDepth < depth then some (.tooDeep id settings.config.maxDepth) else none

def codecComplaint (settings : Settings) (codec : Codec) : Option CompileError :=
  (settings.registry.refusal codec).map fun e => .stage (.codec e)

def joinComplaint (id : NodeId) (left right : Plan) (kind : JoinKind) : Option CompileError :=
  if right.mode ≠ .table then some (.rightNotTable id left.mode right.mode)
  else if kind ≠ .left then some (.joinKind id kind)
  else none

def nestedComplaint (id : NodeId) (depth : Nat) (plan : Plan) : Option CompileError :=
  if depth ≠ 1 then some (.nestedOutput id plan.kindName) else none

def targetComplaint (settings : Settings) (id : NodeId) (codec : Codec) : Target → Option CompileError
  | .topic name => if Text.allBlank name then some (.blankSink id) else settings.codecComplaint codec
  | .console => none

/-- The first complaint about a node at a depth: its own depth, then its inputs, then the node. -/
def complaint (settings : Settings) (depth : Nat) : Plan → Option CompileError
  | .source id origin => (settings.depthComplaint id depth).or (settings.codecComplaint origin.codec)
  | .filter id input _ => (settings.depthComplaint id depth).or (settings.complaint (depth + 1) input)
  | .project id input _ _ =>
    (settings.depthComplaint id depth).or (settings.complaint (depth + 1) input)
  | .join id left right spec =>
    (settings.depthComplaint id depth).or
      ((settings.complaint (depth + 1) left).or
        ((settings.complaint (depth + 1) right).or
          ((joinComplaint id left right spec.kind).or (settings.codecComplaint left.codec))))
  | .output id input target =>
    (settings.depthComplaint id depth).or
      ((nestedComplaint id depth (.output id input target)).or
        ((settings.complaint (depth + 1) input).or (settings.targetComplaint id input.codec target)))

variable {settings : Settings} {t : Topology} {n : Nat}

theorem settles_checkDepth (id : NodeId) (depth : Nat) :
    Settles (settings.checkDepth id depth) t (settings.depthComplaint id depth) () [] := by
  unfold checkDepth depthComplaint
  split
  · exact settles_throw t _ _ _
  · exact settles_pure t ()

theorem settles_codec (codec : Codec) :
    Settles (settings.codec codec) t (settings.codecComplaint codec) codec [] := by
  unfold Settings.codec codecComplaint
  cases settings.registry.refusal codec with
  | none => exact settles_pure t codec
  | some e => exact settles_throw t _ _ _

theorem settles_column {schema : Schema} {name : String} {field : Field} (id : NodeId)
    (found : schema.find name = some field) : Settles (column id schema name) t none field [] := by
  unfold column
  rw [found]
  exact settles_pure t field

/-- Every node's last step: its stage is recorded and handed on with what the node says of itself. -/
theorem settles_own {step : Topology → Topology.Recorded} {give : StageId → Handle} (plan : Plan)
    (recorded : step t = .ok (t.push (plan.op settings.config) (plan.inputIds n) plan.schema
      plan.key.name plan.mode))
    (size : t.size = n + plan.stagesBelow) (given : give (plan.stageId n) = plan.handle n) :
    Settles (record step >>= fun id => pure (give id)) t none (plan.handle n)
      [plan.stage settings.config n] := by
  have next : t.nextId = plan.stageId n := congrArg StageId.mk size
  have stage := settles_record recorded
  rw [next] at stage
  rw [← given]
  exact stage.bind fun _ => settles_pure _ _

theorem settles_coded {step : Codec → Topology → Topology.Recorded} {give : StageId → Handle}
    (plan : Plan) (codec : Codec)
    (recorded : step codec t = .ok (t.push (plan.op settings.config) (plan.inputIds n) plan.schema
      plan.key.name plan.mode))
    (size : t.size = n + plan.stagesBelow) (given : give (plan.stageId n) = plan.handle n) :
    Settles (settings.codec codec >>= fun codec => record (step codec) >>= fun id => pure (give id)) t
      (settings.codecComplaint codec) (plan.handle n) [plan.stage settings.config n] := by
  rw [← Option.or_none (o := settings.codecComplaint codec)]
  exact (settles_codec codec).check (settles_own plan recorded size given)

theorem settles_compileSource (id : NodeId) {origin : Source}
    (checked : (Plan.source id origin).Checked) :
    Settles (settings.compileSource origin) t (settings.codecComplaint origin.codec)
      ((Plan.source id origin).handle t.size) ((Plan.source id origin).stages settings.config t.size) := by
  obtain ⟨topic, schema, key, mode, codec⟩ := origin
  have found : Topology.keyName schema key.name t.nextId = .ok key.name := by
    simp [Topology.keyName, show schema.find key.name = _ from checked]
  cases mode with
  | stream =>
    refine settles_coded (Plan.source id _) codec ?_ rfl rfl
    simp only [Topology.addStream, found]
    rfl
  | table =>
    refine settles_coded (Plan.source id _) codec ?_ rfl rfl
    simp only [Topology.addTable, found]
    rfl

theorem settles_compileFilter (id : NodeId) {input : Plan} (predicate : Expr)
    (shown : t.Shows settings.config n input) (size : t.size = input.nextFrom n) :
    Settles (compileFilter predicate (input.handle n)) t none
      ((Plan.filter id input predicate).handle n)
      [(Plan.filter id input predicate).stage settings.config n] := by
  refine settles_own (Plan.filter id input predicate) ?_ size rfl
  simp only [Topology.addFilter, Topology.addAfter, Plan.handle, show t.stage _ = _ from shown]
  rfl

theorem settles_compileProject (id : NodeId) {input : Plan} (schema : Schema) (expressions : List Expr)
    (shown : t.Shows settings.config n input) (size : t.size = input.nextFrom n) :
    Settles (compileProject schema expressions (input.handle n)) t none
      ((Plan.project id input schema expressions).handle n)
      [(Plan.project id input schema expressions).stage settings.config n] := by
  refine settles_own (Plan.project id input schema expressions) ?_ size rfl
  -- the recorder looks the designation up once more; its exact name is found where it is there
  have again : ((schema.find ((schema.find input.key.name).getD input.key).name).map (·.name)).getD
      ((schema.find input.key.name).getD input.key).name =
      ((schema.find input.key.name).getD input.key).name := by
    cases found : schema.find input.key.name with
    | none => simp [found]
    | some field => simp [Schema.find_found found]
  simp only [Topology.addProject, Plan.handle, show t.stage _ = _ from shown, ok_bind, again]
  rfl

theorem settles_rekey {left right : Plan} {spec : Join} (checked : Plan.JoinChecked left right spec)
    (shown : t.Shows settings.config n left) (size : t.size = right.nextFrom (left.nextFrom n)) :
    Settles (rekey (left.joinColumn spec) (left.handle n)) t none (Plan.leftInput n left right spec)
      (Plan.rekeyStages n left right spec) := by
  unfold rekey Plan.leftInput Plan.rekeyStages Plan.rekeyStage
  cases needed : left.rekeyed spec with
  | false =>
    have named : (left.handle n).key.isNamed (left.joinColumn spec).name = true := by
      simpa [Plan.rekeyed, Plan.handle] using needed
    rw [if_pos named]
    exact settles_pure t _
  | true =>
    have named : ¬ (left.handle n).key.isNamed (left.joinColumn spec).name = true := by
      simpa [Plan.rekeyed, Plan.handle] using needed
    have column := Schema.find_found checked.find_joinColumn
    have next : t.nextId = ⟨right.nextFrom (left.nextFrom n)⟩ := congrArg StageId.mk size
    have recorded : t.addSelectKey (left.stageId n) (left.joinColumn spec).name =
        .ok (t.push (.selectKey (left.joinColumn spec).name) [left.stageId n] left.schema
          (left.joinColumn spec).name .stream) := by
      simp [Topology.addSelectKey, Topology.keyName, show t.stage _ = _ from shown, Plan.stage, column]
    rw [if_neg named, ← next]
    exact (settles_record recorded).bind fun _ => settles_pure _ _

theorem stage_leftInput (config : Config) {left right : Plan} (spec : Join)
    (shown : t.Shows config n left) (size : t.size = right.nextFrom (left.nextFrom n)) :
    ∃ stage, Topology.stage ⟨t.stages ++ Plan.rekeyStages n left right spec⟩
      (Plan.leftInput n left right spec).stage = .ok stage := by
  unfold Plan.rekeyStages Plan.rekeyStage Plan.leftInput
  cases left.rekeyed spec with
  | false => exact ⟨_, shown.append []⟩
  | true =>
    simp only [if_pos, ← size]
    exact ⟨_, Topology.stage_eq_ok.mpr List.getElem?_concat_length⟩

theorem settles_compileJoin (id : NodeId) {left right : Plan} {spec : Join}
    (checked : Plan.JoinChecked left right spec)
    (leftShown : t.Shows settings.config n left)
    (rightShown : t.Shows settings.config (left.nextFrom n) right)
    (size : t.size = right.nextFrom (left.nextFrom n)) :
    Settles (settings.compileJoin id spec left.codec (left.handle n) (right.handle (left.nextFrom n))) t
      ((joinComplaint id left right spec.kind).or (settings.codecComplaint left.codec))
      ((Plan.join id left right spec).handle n)
      (Plan.rekeyStages n left right spec ++ [(Plan.join id left right spec).stage settings.config n]) := by
  obtain ⟨_, rightColumn⟩ := checked.rightKey
  unfold compileJoin joinComplaint
  by_cases table : right.mode = .table
  · have isTable : ¬ (!(right.handle (left.nextFrom n)).isTable) = true := by
      simp [Handle.isTable, Plan.handle, table]
    rw [if_neg isTable, if_neg (not_not.mpr table)]
    refine (settles_column id checked.find_joinColumn).read ?_
    refine (settles_rekey checked leftShown size).then ?_
    refine (settles_column id rightColumn).read ?_
    cases kind : spec.kind with
    | left =>
      refine (settles_column id checked.find_key).read ?_
      refine settles_coded (Plan.join id left right spec) left.codec ?_ ?_ rfl
      · obtain ⟨_, leftStage⟩ := stage_leftInput settings.config spec leftShown size
        have rightStage := rightShown.append (Plan.rekeyStages n left right spec)
        have key := Schema.find_found checked.find_key
        simp only [Topology.addLeftJoin, leftStage, Plan.handle, show Topology.stage _ _ = _ from rightStage,
          Plan.stage, table, Topology.keyName, key, ok_bind]
        rfl
      · have rekeyed := Plan.length_rekeyStages n left right spec
        simp only [Topology.size, List.length_append, rekeyed] at size ⊢
        rw [size]
        simp only [Plan.nextFrom, Plan.stagesBelow]
        omega
    | inner => exact settles_throw _ _ _ _
    | outer => exact settles_throw _ _ _ _
  · have isTable : (!(right.handle (left.nextFrom n)).isTable) = true := by
      simp [Handle.isTable, Plan.handle, table]
    rw [if_pos isTable, if_pos table]
    exact settles_refused t _ _ _ _

theorem settles_compileOutput (id : NodeId) {input : Plan} (target : Target)
    (shown : t.Shows settings.config n input) (size : t.size = input.nextFrom n) :
    Settles (settings.compileOutput id target input.codec (input.handle n)) t
      (settings.targetComplaint id input.codec target) ((Plan.output id input target).handle n)
      [(Plan.output id input target).stage settings.config n] := by
  have stage : t.stage (input.handle n).stage = .ok (input.stage settings.config n) := shown
  cases target with
  | topic name =>
    unfold compileOutput targetComplaint
    by_cases blank : Text.allBlank name = true
    · simp only [if_pos blank]
      exact settles_refused t _ _ _ _
    · simp only [if_neg blank]
      refine settles_coded (Plan.output id input (.topic name)) input.codec ?_ size rfl
      simp only [Topology.addToTopic, Topology.addAfter, stage, ok_bind]
      rfl
  | console =>
    refine settles_own (Plan.output id input .console) ?_ size rfl
    simp only [Topology.addPrint, Topology.addAfter, stage, ok_bind]
    rfl

/-- A checked plan is compiled into the stages it stands for, numbered from where the topology ends,
unless the plan, the settings or the depth give cause for complaint. -/
theorem settles_compileNode (plan : Plan) (checked : plan.Checked) (depth : Nat) (t : Topology) :
    Settles (settings.compileNode depth plan) t (settings.complaint depth plan) (plan.handle t.size)
      (plan.stages settings.config t.size) := by
  induction plan generalizing depth t with
  | source id origin => exact (settles_checkDepth id depth).check (settles_compileSource id checked)
  | filter id input predicate ih =>
    have below := (ih checked.1 (depth + 1) t).bind fun _ =>
      settles_compileFilter id predicate (t.shows_stages settings.config input)
        (t.size_stages settings.config input)
    rw [Option.or_none] at below
    exact (settles_checkDepth id depth).check below
  | project id input schema expressions ih =>
    have below := (ih checked.1 (depth + 1) t).bind fun _ =>
      settles_compileProject id schema expressions (t.shows_stages settings.config input)
        (t.size_stages settings.config input)
    rw [Option.or_none] at below
    exact (settles_checkDepth id depth).check below
  | join id left right spec leftIh rightIh =>
    obtain ⟨leftChecked, rightChecked, joinChecked⟩ := checked
    have leftShown := t.shows_stages settings.config left
    have leftSize := t.size_stages settings.config left
    let middle : Topology := ⟨t.stages ++ left.stages settings.config t.size⟩
    -- the right side is recorded after the left one, whose stages keep their numbers
    have rightDone := rightIh rightChecked (depth + 1) middle
    have rightShown := middle.shows_stages settings.config right
    have rightSize := middle.size_stages settings.config right
    rw [leftSize] at rightDone rightShown rightSize
    rw [Plan.stages_join]
    refine (settles_checkDepth id depth).check ?_
    refine (leftIh leftChecked (depth + 1) t).bind fun _ => ?_
    refine rightDone.bind fun _ => ?_
    exact settles_compileJoin id joinChecked (leftShown.append _) rightShown rightSize
  | output id input target ih =>
    refine (settles_checkDepth id depth).check ?_
    unfold nestedComplaint
    by_cases root : depth ≠ 1
    · rw [if_pos root, if_pos root]
      exact settles_refused t _ _ _ _
    · rw [if_neg root, if_neg root]
      exact (ih checked (depth + 1) t).bind fun _ =>
        settles_compileOutput id target (t.shows_stages settings.config input)
          (t.size_stages settings.config input)

def rootComplaint (settings : Settings) (plan : Plan) : Option CompileError :=
  if plan.isOutput then settings.complaint 1 plan else some (.rootNotOutput plan.id plan.kindName)

theorem settles_compileRoot (settings : Settings) {plan : Plan} (checked : plan.Checked) (t : Topology) :
    Settles (settings.compileRoot plan) t (settings.rootComplaint plan) (plan.handle t.size)
      (plan.stages settings.config t.size) := by
  cases plan with
  | output id input target => exact settles_compileNode (.output id input target) checked 1 t
  | source | filter | project | join => exact settles_throw t _ _ _

end StreamPlan.Settings

namespace StreamPlan
namespace Compiler

theorem compile_ok {compiler : Compiler} {plan : Plan} (checked : plan.Checked)
    (quiet : compiler.settings.rootComplaint plan = none) :
    compiler.compile plan = (.ok (plan.handle compiler.topology.size),
      { compiler with
        topology := ⟨compiler.topology.stages ++
          plan.stages compiler.settings.config compiler.topology.size⟩
        sink := some plan
        root := some (plan.handle compiler.topology.size) }) := by
  have done := compiler.settings.settles_compileRoot checked compiler.topology
  rw [quiet] at done
  unfold compile
  rw [show (compiler.settings.compileRoot plan).run compiler.topology = _ from done]

theorem compile_error {compiler : Compiler} {plan : Plan} {e : CompileError} (checked : plan.Checked)
    (complaint : compiler.settings.rootComplaint plan = some e) :
    ∃ left, compiler.compile plan = (.error e,
      { compiler with topology := ⟨compiler.topology.stages ++ left⟩, sink := none, root := none }) := by
  have done := compiler.settings.settles_compileRoot checked compiler.topology
  rw [complaint] at done
  obtain ⟨left, failed⟩ := done
  refine ⟨left, ?_⟩
  unfold compile
  rw [failed]

section
variable {compiler after : Compiler} {plan : Plan} {handle : Handle}

theorem quiet_of_compile (checked : plan.Checked) (accepted : compiler.compile plan = (.ok handle, after)) :
    compiler.settings.rootComplaint plan = none := by
  cases complaint : compiler.settings.rootComplaint plan with
  | none => rfl
  | some e =>
    obtain ⟨left, failed⟩ := compile_error checked complaint
    cases failed.symm.trans accepted

theorem topology_of_compile (checked : plan.Checked) (accepted : compiler.compile plan = (.ok handle, after)) :
    after.topology =
      ⟨compiler.topology.stages ++ plan.stages compiler.settings.config compiler.topology.size⟩ := by
  have done := compile_ok checked (quiet_of_compile checked accepted)
  cases done.symm.trans accepted
  rfl

end
end Compiler

/-- What a checked plan compiles to by itself, said of the plan. -/
theorem Plan.compile_checked {plan : Plan} (checked : plan.Checked) (config : Config) :
    plan.compile config = match (Compiler.start .standard config).settings.rootComplaint plan with
      | none => .ok ⟨plan.handle 0, plan, ⟨plan.stages config 0⟩⟩
      | some e => .error e := by
  unfold Plan.compile
  cases complaint : (Compiler.start .standard config).settings.rootComplaint plan with
  | none =>
    rw [Compiler.compile_ok checked complaint]
    rfl
  | some e =>
    obtain ⟨left, failed⟩ := Compiler.compile_error checked complaint
    rw [failed]

end StreamPlan
