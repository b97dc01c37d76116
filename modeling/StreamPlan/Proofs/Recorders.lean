import StreamPlan.Proofs.Results
import StreamPlan.Topology.Recorder

/-! Calls on a kept topology come to what the recording functions give: the new stage's number and the
topology with that stage at the end, or a complaint and the topology as it was. Nothing a call does
before its push changes anything, and it may be refused only before. -/
namespace StreamPlan

/-- What a recording function gives, with the topology there is afterwards. -/
def Topology.kept (t : Topology) : Topology.Recorded → Except StageError StageId × Topology
  | .ok (id, u) => (.ok id, u)
  | .error e => (.error e, t)

namespace Recorder

variable {α : Type} {call : Recorder StageId} {step : Topology → Topology.Recorded} {t u : Topology}

/-- A look at the topology that changes nothing and may be refused. -/
def Looks (look : Recorder α) (found : Topology → Except StageError α) : Prop :=
  ∀ t, look.run t = (found t, t)

def Does (call : Recorder StageId) (step : Topology → Topology.Recorded) : Prop :=
  ∀ t, call.run t = t.kept (step t)

theorem Does.refused_iff {e : StageError} (does : Does call step) :
    call.run t = (.error e, u) ↔ step t = .error e ∧ u = t := by
  rw [does t]
  change t.kept (step t) = (.error e, u) ↔ _
  cases step t <;> simp [Topology.kept, eq_comm]

theorem Does.made_iff {id : StageId} (does : Does call step) :
    call.run t = (.ok id, u) ↔ step t = .ok (id, u) := by
  rw [does t]
  change t.kept (step t) = (.ok id, u) ↔ _
  cases step t <;> simp [Topology.kept, Prod.ext_iff]

theorem looks_stage (id : StageId) : Looks (stage id) (·.stage id) := fun _ => rfl

theorem looks_nextId : Looks nextId (fun t => .ok t.nextId) := fun _ => rfl

theorem looks_checkKey (schema : Schema) (key : String) (blamed : StageId) :
    Looks (checkKey schema key blamed) (fun _ => Topology.keyName schema key blamed) := fun _ => rfl

theorem does_push (op : StageOp) (inputs : List StageId) (schema : Schema) (keyField : String) (kind : Mode) :
    Does (push op inputs schema keyField kind) (fun t => .ok (t.push op inputs schema keyField kind)) :=
  fun _ => rfl

theorem does_throw (e : StageError) : Does (throw e) (fun _ => .error e) := fun _ => rfl

/-- A call that looks first is refused with nothing changed or goes on from the same topology. -/
theorem Looks.bind {look : Recorder α} {found : Topology → Except StageError α} {next : α → Recorder StageId}
    {rest : α → Topology → Topology.Recorded} (looks : Looks look found) (does : ∀ a, Does (next a) (rest a)) :
    Does (look >>= next) (fun t => found t >>= (rest · t)) := by
  intro t
  rw [run_bind, looks t]
  change _ = t.kept (found t >>= (rest · t))
  cases found t with
  | error e => rfl
  | ok a => exact does a t

theorem does_stream (topic : String) (codec : Codec) (schema : Schema) (key : String) :
    Does (stream topic codec schema key) (·.addStream topic codec schema key) :=
  looks_nextId.bind fun id => (looks_checkKey schema key id).bind fun name =>
    does_push (.streamSource topic codec) [] schema name .stream

theorem does_table (topic : String) (codec : Codec) (store : String) (schema : Schema) (key : String) :
    Does (table topic codec store schema key) (·.addTable topic codec store schema key) :=
  looks_nextId.bind fun id => (looks_checkKey schema key id).bind fun name =>
    does_push (.tableSource topic codec store) [] schema name .table

theorem does_after (input : StageId) (op : StageOp) : Does (after input op) (·.addAfter input op) :=
  (looks_stage input).bind fun parent => does_push op [input] parent.schema parent.keyField parent.kind

theorem does_project (input : StageId) (expressions : List Expr) (schema : Schema) (key : String) :
    Does (project input expressions schema key) (·.addProject input expressions schema key) :=
  (looks_stage input).bind fun parent => does_push (.project expressions) [input] schema _ parent.kind

theorem does_selectKey (input : StageId) (key : String) :
    Does (selectKey input key) (·.addSelectKey input key) :=
  (looks_stage input).bind fun parent => (looks_checkKey parent.schema key input).bind fun name =>
    does_push (.selectKey name) [input] parent.schema name .stream

theorem does_leftJoin (left right : StageId) (schema : Schema) (key : String) (codec : Codec) :
    Does (leftJoin left right schema key codec) (·.addLeftJoin left right schema key codec) := by
  refine (looks_stage left).bind fun _ => (looks_stage right).bind fun parent => ?_
  by_cases table : parent.kind = .table
  · simp only [table, ne_eq, not_true_eq_false, if_false]
    exact looks_nextId.bind fun id => (looks_checkKey schema key id).bind fun name =>
      does_push (.leftJoin codec) [left, right] schema name .stream
  · simp only [ne_eq, table, not_false_eq_true, if_true]
    exact does_throw (.notATable right)

end Recorder
end StreamPlan
