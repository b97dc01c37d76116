import Mathlib.Data.String.Basic
import StreamPlan.Run.Basic

/-! Records by topic. Delivering to a topic puts records after those it has and keeps the topics in their
order, and it is by that order that a topic is never listed twice. -/
namespace StreamPlan

theorem lookup_cons_eq_ite {α : Type} (name other : String) (here : α) (rest : List (String × α)) :
    ((name, here) :: rest).lookup other = if other = name then some here else rest.lookup other := by
  rw [List.lookup_cons]
  by_cases same : other = name
  · rw [beq_iff_eq.mpr same, if_pos same]
  · rw [beq_eq_false_iff_ne.mpr same, if_neg same]

namespace Run

def Sinks.Ordered (sinks : Sinks) : Prop := sinks.Pairwise fun first second => first.1 < second.1

variable {topic : String} {records : List Record} {sinks : Sinks}

theorem topic_of_mem_deliver {entry : String × List Record} (member : entry ∈ deliver topic records sinks) :
    entry.1 = topic ∨ ∃ other ∈ sinks, other.1 = entry.1 := by
  induction sinks with
  | nil =>
    cases List.mem_singleton.mp member
    exact .inl rfl
  | cons head rest ih =>
    obtain ⟨other, old⟩ := head
    unfold deliver at member
    split at member
    · rcases List.mem_cons.mp member with rfl | member
      · exact .inr ⟨(other, old), List.mem_cons_self, rfl⟩
      · exact .inr ⟨entry, List.mem_cons_of_mem _ member, rfl⟩
    · split at member
      · rcases List.mem_cons.mp member with rfl | member
        · exact .inl rfl
        · exact .inr ⟨entry, member, rfl⟩
      · rcases List.mem_cons.mp member with rfl | member
        · exact .inr ⟨(other, old), List.mem_cons_self, rfl⟩
        · rcases ih member with same | ⟨found, inside, same⟩
          · exact .inl same
          · exact .inr ⟨found, List.mem_cons_of_mem _ inside, same⟩

theorem ordered_deliver (ordered : sinks.Ordered) (topic : String) (records : List Record) :
    Sinks.Ordered (deliver topic records sinks) := by
  induction sinks with
  | nil => exact List.pairwise_singleton _ _
  | cons head rest ih =>
    obtain ⟨other, old⟩ := head
    obtain ⟨least, later⟩ := List.pairwise_cons.mp ordered
    unfold deliver
    split
    · exact List.pairwise_cons.mpr ⟨least, later⟩
    · rename_i differ
      split
      · rename_i before
        refine List.pairwise_cons.mpr ⟨?_, ordered⟩
        intro entry member
        rcases List.mem_cons.mp member with rfl | member
        · exact before
        · exact lt_trans before (least entry member)
      · rename_i after
        have beyond : other < topic := lt_of_le_of_ne (not_lt.mp after) (Ne.symm differ)
        refine List.pairwise_cons.mpr ⟨?_, ih later⟩
        intro entry member
        rcases topic_of_mem_deliver member with same | ⟨found, inside, same⟩
        · exact same ▸ beyond
        · exact same ▸ least found inside

theorem lookup_before (least : ∀ entry ∈ sinks, topic < entry.1) : sinks.lookup topic = none := by
  apply List.lookup_eq_none_iff.mpr
  intro entry member
  simpa using ne_of_lt (least entry member)

theorem lookup_deliver (ordered : sinks.Ordered) (topic other : String) (records : List Record) :
    (deliver topic records sinks).lookup other =
      if other = topic then some ((sinks.lookup topic).getD [] ++ records) else sinks.lookup other := by
  induction sinks with
  | nil => exact lookup_cons_eq_ite topic other records []
  | cons head rest ih =>
    obtain ⟨first, old⟩ := head
    obtain ⟨least, later⟩ := List.pairwise_cons.mp ordered
    rw [deliver]
    by_cases here : topic = first
    · subst here
      rw [if_pos rfl]
      by_cases same : other = topic <;> simp [lookup_cons_eq_ite, same]
    · rw [if_neg here]
      by_cases before : topic < first
      · have absent : rest.lookup topic = none :=
          lookup_before fun entry member => lt_trans before (least entry member)
        rw [if_pos before]
        simp [lookup_cons_eq_ite, here, absent]
      · rw [if_neg before]
        by_cases same : other = first
        · subst same
          simp [Ne.symm here]
        · simp [lookup_cons_eq_ite, same, here, ih later]

end Run
end StreamPlan
