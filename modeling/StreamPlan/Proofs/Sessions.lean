import StreamPlan.Plan.Builder
import StreamPlan.Proofs.Nodes

/-! One builder, asked again and again, by calls that succeed and calls that fail. A caller names the nodes
it was given, so what is so of every node over nodes of which it is so, is so of all that are ever returned. -/
namespace StreamPlan

/-- A call on a builder. The nodes it takes are named by the replies they came with. -/
inductive Request where
  | nextId
  | source (topic : String) (schema : Schema) (key : String) (mode : Mode) (codec : Codec)
  | filter (input : Nat) (predicate : Expr)
  | filterText (input : Nat) (predicate : String)
  | projectOf (input : Nat) (items : List (Expr × String))
  | project (input : Nat) (items : List (String × String))
  | select (input : Nat) (columns : List String)
  | join (kind : JoinKind) (left right : Nat) (leftKey rightKey leftAlias rightAlias : String)
  | output (input : Nat) (target : Target)
deriving DecidableEq, Repr

inductive Reply where
  | fresh (id : NodeId)
  | node (plan : Plan)
  | refused (error : PlanError)
deriving DecidableEq, Repr

/-- The node a complaint is about, if it says. -/
def PlanError.id? : PlanError → Option NodeId
  | .notBoolean id _ _ | .widths id _ _ | .noLeftKey id _ _ | .noRightKey id _ _ | .sameAlias id _ => some id
  | .noSourceKey .. | .typing _ | .parsing _ => none

namespace Reply

def ofResult : Except PlanError Plan → Reply
  | .ok plan => .node plan
  | .error e => .refused e

def node? : Reply → Option Plan
  | .node plan => some plan
  | .fresh _ | .refused _ => none

/-- The id a reply shows: by itself, on a node or in a complaint. -/
def id? : Reply → Option NodeId
  | .fresh id => some id
  | .node plan => some plan.id
  | .refused e => e.id?

end Reply

/-- What a call comes to, unless it takes a node that was not returned. -/
def Request.on (b : Builder) (node? : Nat → Option Plan) (request : Request) : Option (Reply × Builder) :=
  let built (made : Builder.Built) : Reply × Builder := (.ofResult made.1, made.2)
  match request with
  | .nextId => let (id, b) := b.nextId; some (.fresh id, b)
  | .source topic schema key mode codec => some (built (b.source topic schema key mode codec))
  | .filter input predicate => do some (built (b.filter (← node? input) predicate))
  | .filterText input predicate => do some (built (b.filterText (← node? input) predicate))
  | .projectOf input items => do some (built (b.projectOf (← node? input) items))
  | .project input items => do some (built (b.project (← node? input) items))
  | .select input columns => do some (built (b.select (← node? input) columns))
  | .join kind left right leftKey rightKey leftAlias rightAlias => do
    some (built (b.join kind (← node? left) (← node? right) leftKey rightKey leftAlias rightAlias))
  | .output input target => do let (plan, b) := b.output (← node? input) target; some (.node plan, b)

/-- The ids a builder has handed out on the way to a later state. -/
def Builder.idsTo (b after : Builder) : List NodeId := (List.range' b.next (after.next - b.next)).map NodeId.mk

/-- A builder with the ids it has handed out and the replies it has given so far. -/
structure Session where
  builder : Builder
  issued : List NodeId
  replies : List Reply
deriving Repr

namespace Session

def start : Session := ⟨.start, [], []⟩
def node? (s : Session) (k : Nat) : Option Plan := s.replies[k]?.bind Reply.node?

/-- The nodes that were returned. -/
def plans (s : Session) : List Plan := s.replies.filterMap Reply.node?

/-- A call that takes a node that was not returned is none. -/
def perform (s : Session) (request : Request) : Session :=
  match request.on s.builder s.node? with
  | none => s
  | some (reply, b) => ⟨b, s.issued ++ s.builder.idsTo b, s.replies ++ [reply]⟩

def of (requests : List Request) : Session := requests.foldl perform start

end Session

namespace Plan

def inputs (plan : Plan) : List Plan := (plan.inputsFrom 0).map Prod.snd

theorem nodes_eq (plan : Plan) : plan.nodes = plan :: plan.inputs.flatMap nodes := by
  cases plan <;> simp [nodes, inputs, inputsFrom]

/-- What a constructor makes of an id and the nodes it is given: a node of that id right over them, or a
complaint of no other. -/
def Constructs (id : NodeId) (below : List Plan) : Except PlanError Plan → Prop
  | .ok plan => plan.id = id ∧ plan.inputs = below ∧ ((∀ input ∈ below, input.Built) → plan.Built)
  | .error e => ∀ other, e.id? = some other → other = id

theorem error_typed {result : Except TypeError α} {e : PlanError} (failed : typed result = .error e) :
    e.id? = none := by
  cases result with
  | ok => cases failed
  | error =>
    cases failed
    rfl

section
variable (id : NodeId) (input left right : Plan)

theorem constructs_source (topic : String) (schema : Schema) (key : String) (mode : Mode) (codec : Codec) :
    Constructs id [] (newSource id topic schema key mode codec) := by
  cases made : newSource id topic schema key mode codec with
  | ok plan =>
    obtain ⟨field, _, rfl⟩ := newSource_eq_ok.mp made
    exact ⟨rfl, rfl, fun _ => .source made⟩
  | error e =>
    unfold newSource at made
    split at made <;> cases made
    exact nofun

theorem constructs_filter (predicate : Expr) : Constructs id [input] (newFilter id input predicate) := by
  cases made : newFilter id input predicate with
  | ok plan =>
    obtain ⟨_, rfl⟩ := newFilter_eq_ok.mp made
    exact ⟨rfl, rfl, fun below => .filter (below input List.mem_cons_self) made⟩
  | error e =>
    intro other named
    rcases bind_eq_error.mp made with failed | ⟨type, _, failed⟩
    · cases (error_typed failed).symm.trans named
    · split at failed <;> cases failed
      exact (Option.some.inj named).symm

theorem constructs_project (items : List (Expr × String)) : Constructs id [input] (newProjectOf id input items) := by
  cases made : newProjectOf id input items with
  | ok plan =>
    obtain ⟨fields, _, done⟩ := newProjectOf_eq_ok made
    obtain ⟨_, _, rfl⟩ := newProject_eq_ok done
    exact ⟨rfl, rfl, fun below => .projectOf (below input List.mem_cons_self) made⟩
  | error e =>
    intro other named
    rcases bind_eq_error.mp made with failed | ⟨fields, _, failed⟩
    · cases (error_typed failed).symm.trans named
    · unfold newProject at failed
      simp only [throw_eq_error, error_bind, pure_eq_ok] at failed
      split at failed
      · cases failed
        exact (Option.some.inj named).symm
      · rcases bind_eq_error.mp failed with failed | ⟨_, _, failed⟩
        · cases (error_typed failed).symm.trans named
        · cases failed

theorem constructs_join (kind : JoinKind) (leftKey rightKey leftAlias rightAlias : String) :
    Constructs id [left, right] (newJoin id kind left right leftKey rightKey leftAlias rightAlias) := by
  cases made : newJoin id kind left right leftKey rightKey leftAlias rightAlias with
  | ok plan =>
    obtain ⟨spec, rfl, _⟩ := newJoin_eq_ok made
    exact ⟨rfl, rfl, fun below => .join (below left (by simp)) (below right (by simp)) made⟩
  | error e =>
    intro other named
    unfold newJoin at made
    simp only [throw_eq_error, error_bind, pure_eq_ok] at made
    split_ifs at made <;> cases made <;> exact (Option.some.inj named).symm

end
end Plan

/-- What a builder can do with the nodes it is given: a text that cannot be read costs no id, and anything
else is made with the next one. -/
inductive Builder.Makes (b : Builder) (below : List Plan) : Builder.Built → Prop where
  | unread (e : SyntaxError) : Makes b below (.error (.parsing e), b)
  | made {result : Except PlanError Plan} (constructs : Plan.Constructs ⟨b.next⟩ below result) :
      Makes b below (result, ⟨b.next + 1⟩)

namespace Builder

variable (b : Builder) (input left right : Plan)

theorem makes_source (topic : String) (schema : Schema) (key : String) (mode : Mode) (codec : Codec) :
    b.Makes [] (b.source topic schema key mode codec) := .made (Plan.constructs_source _ topic schema key mode codec)

theorem makes_filter (predicate : Expr) : b.Makes [input] (b.filter input predicate) :=
  .made (Plan.constructs_filter _ input predicate)

theorem makes_filterText (predicate : String) : b.Makes [input] (b.filterText input predicate) := by
  unfold filterText
  cases Expr.parse predicate with
  | error e => exact .unread e
  | ok e => exact b.makes_filter input e

theorem makes_projectOf (items : List (Expr × String)) : b.Makes [input] (b.projectOf input items) :=
  .made (Plan.constructs_project _ input items)

theorem makes_project (items : List (String × String)) : b.Makes [input] (b.project input items) := by
  unfold project
  cases parseItems items with
  | error e => exact .unread e
  | ok items => exact b.makes_projectOf input items

theorem makes_join (kind : JoinKind) (leftKey rightKey leftAlias rightAlias : String) :
    b.Makes [left, right] (b.join kind left right leftKey rightKey leftAlias rightAlias) :=
  .made (Plan.constructs_join _ left right kind leftKey rightKey leftAlias rightAlias)

theorem makes_output (target : Target) :
    b.Makes [input] (.ok (b.output input target).1, (b.output input target).2) :=
  .made ⟨rfl, rfl, fun below => .output (below input List.mem_cons_self)⟩

end Builder

namespace Request

variable {b after : Builder} {node? : Nat → Option Plan} {request : Request} {reply : Reply}

/-- What a call can come to: an id, or what the builder makes over nodes that were named. -/
inductive Answers (b : Builder) (node? : Nat → Option Plan) : Reply → Builder → Prop where
  | fresh : Answers b node? (.fresh ⟨b.next⟩) ⟨b.next + 1⟩
  | built {below : List Plan} {built : Builder.Built} (named : ∀ input ∈ below, ∃ k, node? k = some input)
      (makes : b.Makes below built) : Answers b node? (.ofResult built.1) built.2

theorem answers_over {input : Plan} {k : Nat} {built : Builder.Built} (here : node? k = some input)
    (makes : b.Makes [input] built) : Answers b node? (.ofResult built.1) built.2 := by
  refine .built (fun other member => ?_) makes
  rw [List.mem_singleton.mp member]
  exact ⟨k, here⟩

theorem on_answers (came : request.on b node? = some (reply, after)) : Answers b node? reply after := by
  cases request with
  | nextId =>
    cases came
    exact .fresh
  | source topic schema key mode codec =>
    cases came
    refine .built ?_ (b.makes_source topic schema key mode codec)
    intro input member
    cases member
  | filter k predicate =>
    obtain ⟨input, here, same⟩ := Option.bind_eq_some_iff.mp came
    cases same
    exact answers_over here (b.makes_filter input predicate)
  | filterText k predicate =>
    obtain ⟨input, here, same⟩ := Option.bind_eq_some_iff.mp came
    cases same
    exact answers_over here (b.makes_filterText input predicate)
  | projectOf k items =>
    obtain ⟨input, here, same⟩ := Option.bind_eq_some_iff.mp came
    cases same
    exact answers_over here (b.makes_projectOf input items)
  | project k items =>
    obtain ⟨input, here, same⟩ := Option.bind_eq_some_iff.mp came
    cases same
    exact answers_over here (b.makes_project input items)
  | select k columns =>
    obtain ⟨input, here, same⟩ := Option.bind_eq_some_iff.mp came
    cases same
    exact answers_over here (b.makes_project input _)
  | join kind j k leftKey rightKey leftAlias rightAlias =>
    obtain ⟨left, here, came⟩ := Option.bind_eq_some_iff.mp came
    obtain ⟨right, there, same⟩ := Option.bind_eq_some_iff.mp came
    cases same
    refine .built (fun input member => ?_) (b.makes_join left right kind leftKey rightKey leftAlias rightAlias)
    rcases List.mem_pair.mp member with rfl | rfl
    · exact ⟨j, here⟩
    · exact ⟨k, there⟩
  | output k target =>
    obtain ⟨input, here, same⟩ := Option.bind_eq_some_iff.mp came
    cases same
    exact answers_over here (b.makes_output input target)

/-- A node comes of a constructor, with the next id and right over nodes that were named. -/
theorem Answers.constructs {plan : Plan} (answers : Answers b node? (.node plan) after) :
    ∃ below, (∀ input ∈ below, ∃ k, node? k = some input) ∧ Plan.Constructs ⟨b.next⟩ below (.ok plan) := by
  generalize shape : Reply.node plan = reply at answers
  cases answers with
  | fresh => cases shape
  | @built below built named makes =>
    cases makes with
    | unread => cases shape
    | @made result constructs =>
      cases result with
      | error => cases shape
      | ok => cases shape; exact ⟨below, named, constructs⟩

end Request

namespace Session

variable {s : Session} {request : Request}

/-- What a call leaves of a session. -/
theorem perform_cases (s : Session) (request : Request) : s.perform request = s ∨
    ∃ reply after, Request.Answers s.builder s.node? reply after ∧
      s.perform request = ⟨after, s.issued ++ s.builder.idsTo after, s.replies ++ [reply]⟩ := by
  unfold perform
  cases came : request.on s.builder s.node? with
  | none => exact .inl rfl
  | some made => exact .inr ⟨made.1, made.2, Request.on_answers came, rfl⟩

/-- What is so at the start and stays so over every call is so of every session. -/
theorem of_induction {P : Session → Prop} (first : P start) (step : ∀ s request, P s → P (s.perform request))
    (requests : List Request) : P (of requests) := by
  suffices ∀ s, P s → P (requests.foldl perform s) from this start first
  induction requests with
  | nil => exact fun s here => here
  | cons request rest ih => exact fun s here => ih _ (step s request here)

theorem node?_append {b : Builder} {issued : List NodeId} {replies : List Reply} {reply : Reply} {k : Nat}
    {plan : Plan} (here : node? ⟨b, issued, replies ++ [reply]⟩ k = some plan) :
    replies[k]?.bind Reply.node? = some plan ∨ reply = .node plan := by
  obtain ⟨given, inside, same⟩ := Option.bind_eq_some_iff.mp here
  rcases Nat.lt_or_ge k replies.length with before | beyond
  · rw [List.getElem?_append_left before] at inside
    exact .inl (Option.bind_eq_some_iff.mpr ⟨given, inside, same⟩)
  · rw [List.getElem?_append_right beyond] at inside
    obtain rfl := List.mem_singleton.mp (List.mem_of_getElem? inside)
    cases given with
    | node => exact .inr (congrArg Reply.node (Option.some.inj same))
    | fresh | refused => cases same

/-- What is so of a node made over nodes of which it is so is so of every node returned. -/
theorem nodes_induction {P : Plan → Prop}
    (step : ∀ id below plan, Plan.Constructs id below (.ok plan) → (∀ input ∈ below, P input) → P plan)
    (requests : List Request) : ∀ k plan, (of requests).node? k = some plan → P plan := by
  refine of_induction (P := fun s => ∀ k plan, s.node? k = some plan → P plan) ?_ ?_ requests
  · intro k plan here
    simp [node?, start] at here
  intro s request known k plan here
  rcases perform_cases s request with same | ⟨reply, after, answers, same⟩
  · rw [same] at here
    exact known k plan here
  · rw [same] at here
    rcases node?_append here with old | rfl
    · exact known k plan old
    · obtain ⟨below, named, constructs⟩ := answers.constructs
      refine step _ below plan constructs fun input member => ?_
      obtain ⟨k, there⟩ := named input member
      exact known k input there

theorem built_of_node? {requests : List Request} {k : Nat} {plan : Plan}
    (here : (of requests).node? k = some plan) : plan.Built :=
  nodes_induction (fun _ _ _ constructs below => constructs.2.2 below) requests k plan here

theorem mem_plans {plan : Plan} : plan ∈ s.plans ↔ ∃ k, s.node? k = some plan := by
  rw [plans, List.mem_filterMap]
  constructor
  · rintro ⟨reply, member, same⟩
    obtain ⟨k, inside⟩ := List.mem_iff_getElem?.mp member
    exact ⟨k, Option.bind_eq_some_iff.mpr ⟨reply, inside, same⟩⟩
  · rintro ⟨k, here⟩
    obtain ⟨reply, inside, same⟩ := Option.bind_eq_some_iff.mp here
    exact ⟨reply, List.mem_of_getElem? inside, same⟩

theorem plans_subset_perform (s : Session) (request : Request) : s.plans ⊆ (s.perform request).plans := by
  rcases perform_cases s request with same | ⟨reply, after, _, same⟩
  · rw [same]
    exact List.Subset.refl _
  · rw [same, plans, plans, List.filterMap_append]
    exact List.subset_append_left _ _

/-- With a node, all nodes below it were returned. -/
theorem nodes_subset_plans (requests : List Request) :
    ∀ plan ∈ (of requests).plans, plan.nodes ⊆ (of requests).plans := by
  refine of_induction (P := fun s => ∀ plan ∈ s.plans, plan.nodes ⊆ s.plans) ?_ ?_ requests
  · intro plan member
    cases member
  intro s request known plan member
  have older := plans_subset_perform s request
  rcases perform_cases s request with same | ⟨reply, after, answers, same⟩
  · rw [same] at member older ⊢
    exact known plan member
  · have here := member
    rw [same] at here
    obtain ⟨k, here⟩ := mem_plans.mp here
    rcases node?_append here with old | rfl
    · exact List.Subset.trans (known plan (mem_plans.mpr ⟨k, old⟩)) older
    · obtain ⟨below, named, _, inputs, _⟩ := answers.constructs
      rw [Plan.nodes_eq]
      refine List.cons_subset.mpr ⟨member, fun node inside => ?_⟩
      obtain ⟨input, own, inside⟩ := List.mem_flatMap.mp inside
      exact older (known input (mem_plans.mpr (named input (inputs ▸ own))) inside)

end Session
end StreamPlan
