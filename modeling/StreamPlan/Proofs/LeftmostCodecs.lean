import StreamPlan.Proofs.PostOrder

/-! The codecs of a compiled topology. Wherever a stage was recorded, its first inputs lead to one source,
and a stage that writes records writes them as that source reads them; what the right input of a join is
read as decides nothing. -/
namespace StreamPlan

/-- The codec of the row serde the operation carries, if it carries one. -/
def StageOp.codec : StageOp → Option Codec
  | .streamSource _ codec => some codec
  | .tableSource _ codec _ => some codec
  | .leftJoin codec => some codec
  | .toTopic _ codec => some codec
  | .filter _ | .project _ | .selectKey _ | .print => none

theorem Stage.alike_self (stage : Stage) : stage.Alike stage :=
  ⟨rfl, rfl, rfl, rfl, rfl, Text.sameIgnoringCase_self _⟩

namespace Topology

/-- Going from a stage to the first of its inputs, and so on, one comes to the source. -/
inductive Leftmost (t : Topology) : Stage → Stage → Prop where
  | source {stage : Stage} (reads : stage.op.isSource = true) : Leftmost t stage stage
  | input {stage first source : Stage} {id : StageId} (reads : stage.op.isSource = false)
      (named : stage.inputs[0]? = some id) (here : t.stage? id = some first) (below : Leftmost t first source) :
      Leftmost t stage source

/-- Every stage has a source its first inputs lead to, only one, and the codec of that source if it has any. -/
def CodecsFollow (t : Topology) : Prop :=
  ∀ stage ∈ t.stages, ∃ source, t.Leftmost stage source ∧ (∀ other, t.Leftmost stage other → other = source) ∧
    ∀ codec, stage.op.codec = some codec → source.op.codec = some codec

variable {t u : Topology} {stage source other : Stage}

theorem Leftmost.unique (leads : t.Leftmost stage source) (also : t.Leftmost stage other) : other = source := by
  induction leads generalizing other with
  | source reads =>
    cases also with
    | source => rfl
    | input unread => exact absurd (reads.symm.trans unread) (by decide)
  | input unread named here _ ih =>
    cases also with
    | source reads => exact absurd (reads.symm.trans unread) (by decide)
    | input _ again there below =>
      cases named.symm.trans again
      cases here.symm.trans there
      exact ih below

/-- In a topology with stages alike, stages that are alike lead to sources that are. -/
theorem Leftmost.alike (alike : List.Forall₂ Stage.Alike u.stages t.stages) (leads : t.Leftmost stage source)
    (like : other.Alike stage) : ∃ origin, u.Leftmost other origin ∧ origin.Alike source := by
  induction leads generalizing other with
  | source reads => exact ⟨other, .source (like.op ▸ reads), like⟩
  | input unread named here _ ih =>
    obtain ⟨first, there, same⟩ := exists_of_getElem?_left alike.flip here
    obtain ⟨origin, leads, sameOrigin⟩ := ih same
    exact ⟨origin, .input (like.op ▸ unread) (like.inputs ▸ named) there leads, sameOrigin⟩

theorem Leftmost.kept {stages : List Stage} (continued : t.Continues u stages) (leads : t.Leftmost stage source) :
    u.Leftmost stage source := by
  induction leads with
  | source reads => exact .source reads
  | input unread named here _ ih => exact .input unread named (continued.kept here) ih

end Topology

namespace Plan

variable {t : Topology} {config : Config} {n : Nat} {codec : Codec}

/-- A node's own stage carries the codec of the leftmost source below it, or none. -/
theorem codec_op (plan : Plan) (carried : (plan.op config).codec = some codec) : codec = plan.codec := by
  cases plan with
  | source id origin =>
    obtain ⟨topic, schema, key, mode, own⟩ := origin
    cases mode <;> exact (Option.some.inj carried).symm
  | filter | project => cases carried
  | join => exact (Option.some.inj carried).symm
  | output id input target =>
    cases target with
    | topic => exact (Option.some.inj carried).symm
    | console => cases carried

theorem isSource_op (config : Config) (plan : Plan) :
    (plan.op config).isSource = true ↔ ∃ id origin, plan = .source id origin := by
  cases plan with
  | source id origin => cases mode : origin.mode <;> simp [op, mode, StageOp.isSource, StageOp.sourceTopic]
  | filter | project | join => simp [op, StageOp.isSource, StageOp.sourceTopic]
  | output id input target => cases target <;> simp [op, StageOp.isSource, StageOp.sourceTopic]

/-- Where the stages of a plan stand, its own leads to the source that the plan takes its codec from. -/
theorem leftmost_stage (plan : Plan) (has : t.HasAt n (plan.stages config n)) :
    ∃ source, t.Leftmost (plan.stage config n) source ∧ source.op.codec = some plan.codec := by
  induction plan generalizing n with
  | source id origin =>
    refine ⟨_, .source ((isSource_op config _).mpr ⟨id, origin, rfl⟩), ?_⟩
    obtain ⟨topic, schema, key, mode, own⟩ := origin
    cases mode <;> rfl
  | filter id input predicate ih | project id input schema expressions ih =>
    have below := has.append.1
    obtain ⟨source, leads, same⟩ := ih below
    exact ⟨source, .input rfl rfl (hasAt_own below) leads, same⟩
  | join id left right spec leftIh _ =>
    obtain ⟨leftHas, _, rekeyHas⟩ := hasAt_join has
    obtain ⟨source, leads, same⟩ := leftIh leftHas
    refine ⟨source, ?_, same⟩
    cases needed : left.rekeyed spec with
    | false =>
      refine .input rfl ?_ (hasAt_own leftHas) leads
      simp [stage, inputIds, leftInput, needed, handle]
    | true =>
      have rekeying : t.Leftmost (rekeyStage n left right spec) source :=
        .input rfl rfl (hasAt_own leftHas) leads
      have here : t.stages[right.nextFrom (left.nextFrom n)]? = some (rekeyStage n left right spec) :=
        rekeyHas 0 _ (by simp [rekeyStages, needed])
      have named : ((Plan.join id left right spec).stage config n).inputs[0]? =
          some ⟨right.nextFrom (left.nextFrom n)⟩ := by
        simp [stage, inputIds, leftInput, needed]
      exact .input rfl named here rekeying
  | output id input target ih =>
    have below := has.append.1
    obtain ⟨source, leads, same⟩ := ih below
    refine ⟨source, .input ?_ rfl (hasAt_own below) leads, same⟩
    cases target <;> rfl

/-- So it is with every stage of the plan. -/
theorem leftmost_stages {plan : Plan} {stage : Stage} (has : t.HasAt n (plan.stages config n))
    (member : stage ∈ plan.stages config n) :
    ∃ source, t.Leftmost stage source ∧ ∀ codec, stage.op.codec = some codec → source.op.codec = some codec := by
  obtain ⟨m, node, place, own⟩ := mem_stages.mp member
  have here := hasAt_placed has place
  rcases mem_ownStages.mp own with rfl | ⟨id, left, right, spec, rfl, rekeying⟩
  · obtain ⟨source, leads, same⟩ := leftmost_stage node here
    refine ⟨source, leads, fun codec carried => ?_⟩
    rw [same, ← codec_op node carried]
  · obtain rfl := eq_rekeyStage rekeying
    have leftHas := (hasAt_join here).1
    obtain ⟨source, leads, _⟩ := leftmost_stage left leftHas
    exact ⟨source, .input rfl rfl (hasAt_own leftHas) leads, fun codec carried => nomatch carried⟩

end Plan

namespace Compiler
open Compiling

/-- Compiling one more plan keeps it so, whatever has been recorded before. -/
theorem codecsFollow_compile {compiler after : Compiler} {plan : Plan} {handle : Handle}
    (compiled : compiler.compile plan = (.ok handle, after)) (before : compiler.topology.CodecsFollow) :
    after.topology.CodecsFollow := by
  have given := gives_of_compile compiled
  obtain ⟨id, input, target, rfl, _⟩ := Settings.output_of_gives given
  have continued := (Settings.compiles_node _ given).stages
  obtain ⟨recorded, whole, alike⟩ := continued
  -- the stages the plan stands for are followed where they stand, and those recorded are like them
  let stages := (Plan.output id input target).stages compiler.settings.config compiler.topology.size
  let standing : Topology := ⟨compiler.topology.stages ++ stages⟩
  have has : standing.HasAt compiler.topology.size stages := by
    simpa [Topology.size] using (Topology.hasAt_self standing).append.2
  have like : List.Forall₂ Stage.Alike after.topology.stages standing.stages := by
    rw [whole]
    exact List.rel_append (List.forall₂_same.mpr fun stage _ => stage.alike_self) alike
  intro stage member
  suffices followed : ∃ source, after.topology.Leftmost stage source ∧
      ∀ codec, stage.op.codec = some codec → source.op.codec = some codec by
    obtain ⟨source, leads, same⟩ := followed
    exact ⟨source, leads, fun other also => leads.unique also, same⟩
  rw [whole] at member
  rcases List.mem_append.mp member with old | new
  · obtain ⟨source, leads, _, same⟩ := before stage old
    exact ⟨source, leads.kept ⟨recorded, whole, alike⟩, same⟩
  · obtain ⟨own, inside, same⟩ := exists_of_mem_right alike.flip new
    obtain ⟨source, leads, codec⟩ := Plan.leftmost_stages has inside
    obtain ⟨origin, followed, sameOrigin⟩ := leads.alike like same
    rw [← same.op, ← sameOrigin.op] at codec
    exact ⟨origin, followed, codec⟩

end Compiler

namespace Plan

/-- Whatever compiles, every join and every topic written to has the codec of the source that first inputs
lead to from there. -/
theorem compile_codecs {plan : Plan} {config : Config} {compiled : Compiled}
    (accepted : plan.compile config = .ok compiled) : compiled.topology.CodecsFollow := by
  unfold Plan.compile at accepted
  split at accepted
  · rename_i done
    cases accepted
    exact Compiler.codecsFollow_compile done fun stage member => nomatch member
  · cases accepted

/-- Orders written with bars, joined with customers in Avro and then with cities in JSON; both joins key
their left input anew. -/
def mailings : Plan :=
  let orders : Plan := .source ⟨1⟩ ⟨"orders", Plan.orders.schema, ⟨"id", .int32, false⟩, .stream, .delimited '|'⟩
  let customers : Plan :=
    .source ⟨2⟩ ⟨"customers", Plan.customers.schema, ⟨"name", .utf8, false⟩, .table, .avro "customers-value"⟩
  let city : Field := ⟨"city", .utf8, false⟩
  let cities : Plan := .source ⟨4⟩ ⟨"cities", ⟨[city, ⟨"zone", .int32, true⟩]⟩, city, .table, .json⟩
  let addressed : Plan := .join ⟨3⟩ orders customers addressing
  .output ⟨6⟩ (.join ⟨5⟩ addressed cities ⟨.left, "c.city", "city", "m", "z",
    addressing.schema.qualified "m" ++ cities.schema.qualified "z"⟩) (.topic "mailings")

theorem mailings_codecs : ∃ compiled, mailings.compile .standard = .ok compiled ∧
    compiled.topology.CodecsFollow ∧ compiled.topology.stages.map (·.op.codec) =
      [some (.delimited '|'), some (.avro "customers-value"), none, some (.delimited '|'), some .json, none,
        some (.delimited '|'), some (.delimited '|')] := by
  have accepted : ∃ compiled, mailings.compile .standard = .ok compiled := ⟨_, rfl⟩
  obtain ⟨compiled, accepted⟩ := accepted
  refine ⟨compiled, accepted, compile_codecs accepted, ?_⟩
  cases accepted
  rfl

end Plan
end StreamPlan
