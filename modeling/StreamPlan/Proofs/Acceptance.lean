import StreamPlan.Proofs.Compilation
import StreamPlan.Proofs.Nodes

/-! Which plans compile. The conditions are said of the plan as a tree and of the settings, with no
stage, handle or order of compiling in them. -/
namespace StreamPlan

namespace Plan

theorem depth_pos (plan : Plan) : 0 < plan.depth := by
  cases plan <;> simp only [depth] <;> omega

end Plan

/-- Errors that name what is wrong with the plan, the settings or a codec. The others would mean
that a column or a stage was lost on the way. -/
def CompileError.blamesPlan : CompileError → Bool
  | .rootNotOutput .. | .tooDeep .. | .nestedOutput .. => true
  | .rightNotTable .. | .joinKind .. | .blankSink _ => true
  | .stage (.codec _) => true
  | .missingField .. => false
  | .stage (.unknownStage _) | .stage (.notATable _) | .stage (.missingField ..) => false

namespace Settings

/-- What is asked of a node below the root. -/
def Admits (settings : Settings) : Plan → Prop
  | .source _ origin => settings.registry.refusal origin.codec = none
  | .filter .. | .project .. => True
  | .join _ _ right spec => right.mode = .table ∧ spec.kind = .left
  | .output .. => False

structure Supports (settings : Settings) (plan : Plan) : Prop where
  root : plan.isOutput = true
  depth : plan.depth ≤ settings.config.maxDepth
  nested : ∀ node ∈ plan.nodes.tail, node.isOutput = false
  joins : ∀ id left right spec, Plan.join id left right spec ∈ plan.nodes →
    spec.kind = .left ∧ right.Tabular
  sinks : ∀ id input name, Plan.output id input (.topic name) ∈ plan.nodes → Text.allBlank name = false
  codecs : ∀ id origin, Plan.source id origin ∈ plan.nodes →
    settings.registry.refusal origin.codec = none

variable {settings : Settings}

theorem depthComplaint_eq_none {id : NodeId} {depth : Nat} :
    settings.depthComplaint id depth = none ↔ depth ≤ settings.config.maxDepth := by
  simp [depthComplaint]

theorem codecComplaint_eq_none {codec : Codec} :
    settings.codecComplaint codec = none ↔ settings.registry.refusal codec = none := by
  simp [codecComplaint]

theorem joinComplaint_eq_none {id : NodeId} {left right : Plan} {kind : JoinKind} :
    joinComplaint id left right kind = none ↔ right.mode = .table ∧ kind = .left := by
  unfold joinComplaint
  by_cases table : right.mode = .table <;> by_cases kind : kind = .left <;> simp [table, kind]

theorem codec_admitted {plan : Plan} (admitted : ∀ node ∈ plan.nodes, settings.Admits node) :
    settings.registry.refusal plan.codec = none := by
  induction plan with
  | source id origin => exact admitted _ List.mem_cons_self
  | filter id input predicate ih => exact ih fun node member => admitted node (List.mem_cons_of_mem _ member)
  | project id input schema expressions ih =>
    exact ih fun node member => admitted node (List.mem_cons_of_mem _ member)
  | join id left right spec leftIh _ =>
    exact leftIh fun node member =>
      admitted node (List.mem_cons_of_mem _ (List.mem_append_left _ member))
  | output id input target ih => exact ih fun node member => admitted node (List.mem_cons_of_mem _ member)

theorem one_deeper {depth below limit : Nat} {P : Prop} (deeper : 0 < below) :
    (depth ≤ limit ∧ depth + 1 + below ≤ limit + 1 ∧ P) ↔ (depth + (1 + below) ≤ limit + 1 ∧ P) := by
  constructor
  · rintro ⟨_, fits, rest⟩
    exact ⟨by omega, rest⟩
  · rintro ⟨fits, rest⟩
    exact ⟨by omega, by omega, rest⟩

/-- Below the root: nothing to complain of means shallow enough and every node admitted. -/
theorem complaint_eq_none (plan : Plan) (depth : Nat) (below : 1 < depth) :
    settings.complaint depth plan = none ↔
      depth + plan.depth ≤ settings.config.maxDepth + 1 ∧
        ∀ node ∈ plan.nodes, settings.Admits node := by
  induction plan generalizing depth with
  | source id origin =>
    simp only [complaint, Option.or_eq_none_iff, depthComplaint_eq_none, codecComplaint_eq_none,
      Plan.depth, Plan.nodes, List.forall_mem_singleton, Admits]
    exact and_congr (Nat.add_le_add_iff_right).symm Iff.rfl
  | filter id input predicate ih =>
    simp only [complaint, Option.or_eq_none_iff, depthComplaint_eq_none, ih (depth + 1) (by omega),
      Plan.depth, Plan.nodes, List.forall_mem_cons, Admits, true_and]
    exact one_deeper input.depth_pos
  | project id input schema expressions ih =>
    simp only [complaint, Option.or_eq_none_iff, depthComplaint_eq_none, ih (depth + 1) (by omega),
      Plan.depth, Plan.nodes, List.forall_mem_cons, Admits, true_and]
    exact one_deeper input.depth_pos
  | join id left right spec leftIh rightIh =>
    have deeper := left.depth_pos
    simp only [complaint, Option.or_eq_none_iff, depthComplaint_eq_none, joinComplaint_eq_none,
      codecComplaint_eq_none, leftIh (depth + 1) (by omega), rightIh (depth + 1) (by omega),
      Plan.depth, Plan.nodes, List.forall_mem_cons, List.forall_mem_append, Admits]
    -- the codec a join asks for is that of a source on its left, which was asked for before
    constructor
    · rintro ⟨_, ⟨leftFits, leftAdmitted⟩, ⟨rightFits, rightAdmitted⟩, joined, _⟩
      exact ⟨by omega, joined, leftAdmitted, rightAdmitted⟩
    · rintro ⟨fits, joined, leftAdmitted, rightAdmitted⟩
      exact ⟨by omega, ⟨by omega, leftAdmitted⟩, ⟨by omega, rightAdmitted⟩, joined,
        codec_admitted leftAdmitted⟩
  | output id input target ih =>
    have nested : nestedComplaint id depth (.output id input target) ≠ none := by
      simp [nestedComplaint, Nat.ne_of_gt below]
    simp only [complaint, Option.or_eq_none_iff, Plan.nodes, List.forall_mem_cons, Admits, false_and,
      and_false, iff_false]
    exact fun quiet => nested quiet.2.1

theorem complaint_output_eq_none (id : NodeId) (input : Plan) (target : Target) :
    settings.complaint 1 (.output id input target) = none ↔
      (Plan.output id input target).depth ≤ settings.config.maxDepth ∧
        (∀ node ∈ input.nodes, settings.Admits node) ∧
          settings.targetComplaint id input.codec target = none := by
  have deeper := input.depth_pos
  simp only [complaint, nestedComplaint, ne_eq, not_true_eq_false, if_false, Option.none_or,
    Option.or_eq_none_iff, depthComplaint_eq_none, complaint_eq_none input 2 (by omega), Plan.depth]
  constructor
  · rintro ⟨_, ⟨fits, admitted⟩, quiet⟩
    exact ⟨by omega, admitted, quiet⟩
  · rintro ⟨fits, admitted, quiet⟩
    exact ⟨by omega, ⟨by omega, admitted⟩, quiet⟩

theorem targetComplaint_eq_none {id : NodeId} {codec : Codec} {target : Target}
    (accepted : settings.registry.refusal codec = none) :
    settings.targetComplaint id codec target = none ↔
      ∀ name, target = .topic name → Text.allBlank name = false := by
  cases target with
  | topic name =>
    cases blank : Text.allBlank name <;>
      simp [targetComplaint, blank, codecComplaint_eq_none, accepted]
  | console => simp [targetComplaint]

theorem admits_iff (plan : Plan) :
    (∀ node ∈ plan.nodes, settings.Admits node) ↔
      (∀ node ∈ plan.nodes, node.isOutput = false) ∧
      (∀ id left right spec, Plan.join id left right spec ∈ plan.nodes →
        spec.kind = .left ∧ right.Tabular) ∧
      ∀ id origin, Plan.source id origin ∈ plan.nodes →
        settings.registry.refusal origin.codec = none := by
  constructor
  · intro admitted
    have inner : ∀ node ∈ plan.nodes, node.isOutput = false := by
      intro node member
      have asked := admitted node member
      cases node with
      | output => exact asked.elim
      | source | filter | project | join => rfl
    refine ⟨inner, ?_, fun id origin member => admitted _ member⟩
    intro id left right spec member
    obtain ⟨table, kind⟩ := admitted _ member
    exact ⟨kind, (Plan.tabular_iff fun node below =>
      inner node (Plan.nodes_right member below)).mp table⟩
  · rintro ⟨inner, joins, codecs⟩ node member
    cases node with
    | source id origin => exact codecs id origin member
    | filter | project => trivial
    | join id left right spec =>
      obtain ⟨kind, tabular⟩ := joins id left right spec member
      exact ⟨(Plan.tabular_iff fun node below =>
        inner node (Plan.nodes_right member below)).mpr tabular, kind⟩
    | output => exact nomatch inner _ member

theorem rootComplaint_eq_none (plan : Plan) :
    settings.rootComplaint plan = none ↔ settings.Supports plan := by
  cases plan with
  | output id input target =>
    constructor
    · intro quiet
      obtain ⟨depth, admitted, quietTarget⟩ := (complaint_output_eq_none id input target).mp quiet
      obtain ⟨nested, joins, codecs⟩ := (admits_iff input).mp admitted
      have named := (targetComplaint_eq_none (codec_admitted admitted)).mp quietTarget
      refine ⟨rfl, depth, nested, ?_, ?_, ?_⟩
      · intro id left right spec member
        rcases List.mem_cons.mp member with same | member
        · cases same
        · exact joins id left right spec member
      · intro id other name member
        rcases List.mem_cons.mp member with same | member
        · cases same
          exact named name rfl
        · cases nested _ member
      · intro id origin member
        rcases List.mem_cons.mp member with same | member
        · cases same
        · exact codecs id origin member
    · intro supported
      have admitted := (admits_iff input).mpr ⟨supported.nested,
        fun id left right spec member => supported.joins id left right spec (List.mem_cons_of_mem _ member),
        fun id origin member => supported.codecs id origin (List.mem_cons_of_mem _ member)⟩
      apply (complaint_output_eq_none id input target).mpr
      refine ⟨supported.depth, admitted, (targetComplaint_eq_none (codec_admitted admitted)).mpr ?_⟩
      rintro name rfl
      exact supported.sinks id input name List.mem_cons_self
  | source | filter | project | join =>
    constructor
    · intro quiet; cases quiet
    · intro supported; cases supported.root

def Blaming (complaint : Option CompileError) : Prop := ∀ e, complaint = some e → e.blamesPlan = true

theorem blaming_none : Blaming none := fun _ raised => nomatch raised

theorem blaming_some {e : CompileError} (blames : e.blamesPlan = true) : Blaming (some e) := by
  rintro _ ⟨⟩
  exact blames

theorem Blaming.or {first second : Option CompileError} (before : Blaming first) (after : Blaming second) :
    Blaming (first.or second) := by
  intro e raised
  rcases Option.or_eq_some_iff.mp raised with raised | ⟨_, raised⟩
  · exact before e raised
  · exact after e raised

section
variable (settings : Settings)

theorem blaming_depthComplaint (id : NodeId) (depth : Nat) : Blaming (settings.depthComplaint id depth) := by
  unfold depthComplaint
  split
  · exact blaming_some rfl
  · exact blaming_none

theorem blaming_codecComplaint (codec : Codec) : Blaming (settings.codecComplaint codec) := by
  unfold codecComplaint
  cases settings.registry.refusal codec with
  | none => exact blaming_none
  | some refusal => exact blaming_some rfl

theorem blaming_joinComplaint (id : NodeId) (left right : Plan) (kind : JoinKind) :
    Blaming (joinComplaint id left right kind) := by
  unfold joinComplaint
  split
  · exact blaming_some rfl
  · split
    · exact blaming_some rfl
    · exact blaming_none

theorem blaming_nestedComplaint (id : NodeId) (depth : Nat) (plan : Plan) :
    Blaming (nestedComplaint id depth plan) := by
  unfold nestedComplaint
  split
  · exact blaming_some rfl
  · exact blaming_none

theorem blaming_targetComplaint (id : NodeId) (codec : Codec) (target : Target) :
    Blaming (settings.targetComplaint id codec target) := by
  cases target with
  | topic name =>
    simp only [targetComplaint]
    split
    · exact blaming_some rfl
    · exact settings.blaming_codecComplaint codec
  | console => exact blaming_none

theorem blaming_complaint (depth : Nat) (plan : Plan) : Blaming (settings.complaint depth plan) := by
  induction plan generalizing depth with
  | source id origin => exact (settings.blaming_depthComplaint id depth).or (settings.blaming_codecComplaint origin.codec)
  | filter id input predicate ih => exact (settings.blaming_depthComplaint id depth).or (ih (depth + 1))
  | project id input schema expressions ih => exact (settings.blaming_depthComplaint id depth).or (ih (depth + 1))
  | join id left right spec leftIh rightIh =>
    have own := (blaming_joinComplaint id left right spec.kind).or
      (settings.blaming_codecComplaint left.codec)
    exact (settings.blaming_depthComplaint id depth).or ((leftIh (depth + 1)).or ((rightIh (depth + 1)).or own))
  | output id input target ih =>
    have own := (ih (depth + 1)).or (settings.blaming_targetComplaint id input.codec target)
    exact (settings.blaming_depthComplaint id depth).or ((blaming_nestedComplaint id depth _).or own)

theorem blaming_rootComplaint (plan : Plan) : Blaming (settings.rootComplaint plan) := by
  unfold rootComplaint
  split
  · exact settings.blaming_complaint 1 plan
  · exact blaming_some rfl

end
end Settings

namespace Compiler

/-- A plan of the checked constructors compiles, into any topology, exactly when it is supported,
and no other plan is refused for a column or a stage that cannot be found. -/
theorem compile_ok_iff_supports (compiler : Compiler) {plan : Plan} (built : plan.Built) :
    ((∃ handle, (compiler.compile plan).1 = .ok handle) ↔ compiler.settings.Supports plan) ∧
      ∀ e, (compiler.compile plan).1 = .error e → e.blamesPlan = true := by
  rw [← Settings.rootComplaint_eq_none]
  cases complaint : compiler.settings.rootComplaint plan with
  | none =>
    rw [compile_ok built.checked complaint]
    exact ⟨by simp, fun e failed => nomatch failed⟩
  | some raised =>
    obtain ⟨left, failed⟩ := compile_error built.checked complaint
    rw [failed]
    refine ⟨by simp, fun e same => ?_⟩
    cases same
    exact compiler.settings.blaming_rootComplaint plan raised complaint

theorem shipments_supported :
    Plan.shipments.Built ∧ Settings.Supports ⟨.standard, .standard⟩ Plan.shipments :=
  ⟨Plan.shipments_built,
    (compile_ok_iff_supports (start .standard .standard) Plan.shipments_built).1.mp ⟨_, by rfl⟩⟩

end Compiler

/-- A plan that compiles by itself is supported and has the stages it stands for, numbered from zero. -/
theorem Plan.compile_eq_ok {plan : Plan} {config : Config} {compiled : Compiled} (checked : plan.Checked)
    (accepted : plan.compile config = .ok compiled) :
    Settings.Supports ⟨.standard, config⟩ plan ∧ compiled.topology = ⟨plan.stages config 0⟩ := by
  rw [compile_checked checked] at accepted
  cases complaint : (Compiler.start .standard config).settings.rootComplaint plan with
  | none =>
    rw [complaint] at accepted
    cases accepted
    exact ⟨(Settings.rootComplaint_eq_none plan).mp complaint, rfl⟩
  | some e =>
    rw [complaint] at accepted
    cases accepted

end StreamPlan
