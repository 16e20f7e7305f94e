import Mathlib.Data.List.Nodup

namespace Flowgraph

variable {α : Type} {key : α → Int} {l l' : List α}

/-- Sorts by a key; elements with one key keep their order. -/
def sortBy (key : α → Int) (l : List α) : List α := l.mergeSort fun a b => key a ≤ key b

theorem sortBy_perm (key : α → Int) (l : List α) : (sortBy key l).Perm l := List.mergeSort_perm ..

theorem sortBy_ascending (key : α → Int) (l : List α) :
    (sortBy key l).Pairwise fun a b => key a ≤ key b := by
  have sorted : (sortBy key l).Pairwise fun a b => decide (key a ≤ key b) = true :=
    List.pairwise_mergeSort (fun a b c => by simpa using Int.le_trans)
      (fun a b => by simpa using Int.le_total _ _) l
  simpa using sorted

theorem sortBy_of_ascending (h : l.Pairwise fun a b => key a ≤ key b) : sortBy key l = l :=
  List.mergeSort_of_pairwise (by simpa using h)

theorem map_sortBy {β : Type} (key : α → Int) (key' : β → Int) (f : α → β)
    (same : ∀ a, key' (f a) = key a) (l : List α) :
    (sortBy key l).map f = sortBy key' (l.map f) :=
  List.map_mergeSort fun a _ b _ => by simp [same]

theorem filter_sortBy (key : α → Int) (k : Int) (l : List α) :
    (sortBy key l).filter (key · = k) = l.filter (key · = k) := by
  have level : (l.filter (key · = k)).Pairwise fun a b => decide (key a ≤ key b) = true := by
    refine List.pairwise_of_forall_mem_list fun a ha b hb => ?_
    simp only [List.mem_filter, decide_eq_true_eq] at ha hb ⊢
    exact Int.le_of_eq (ha.2.trans hb.2.symm)
  have sub : (l.filter (key · = k)).Sublist (sortBy key l) :=
    List.sublist_mergeSort (fun a b c => by simpa using Int.le_trans)
      (fun a b => by simpa using Int.le_total _ _) level List.filter_sublist
  have sub := sub.filter (key · = k)
  rw [List.filter_filter] at sub
  simp only [Bool.and_self] at sub
  exact (sub.eq_of_length ((sortBy_perm key l).filter _).length_eq.symm).symm

theorem eq_of_ascending (h : l.Pairwise fun a b => key a ≤ key b)
    (h' : l'.Pairwise fun a b => key a ≤ key b)
    (same : ∀ k, l.filter (key · = k) = l'.filter (key · = k)) : l = l' := by
  have mem : ∀ {a}, a ∈ l ↔ a ∈ l' := by
    intro a
    have at_ := congrArg (a ∈ ·) (same (key a))
    simpa using at_
  induction l generalizing l' with
  | nil => exact (List.eq_nil_iff_forall_not_mem.2 fun a ha => by simpa using mem.2 ha).symm
  | cons a l ih =>
    cases l' with
    | nil => simpa using mem.1 List.mem_cons_self
    | cons b l' =>
      obtain ⟨least, rest⟩ := List.pairwise_cons.1 h
      obtain ⟨least', rest'⟩ := List.pairwise_cons.1 h'
      -- Each head stands in the other list, so neither key is smaller.
      have le : key a ≤ key b := by
        rcases List.mem_cons.1 (mem.2 List.mem_cons_self) with rfl | hb
        · exact Int.le_refl _
        · exact least b hb
      have ge : key b ≤ key a := by
        rcases List.mem_cons.1 (mem.1 List.mem_cons_self) with rfl | ha
        · exact Int.le_refl _
        · exact least' a ha
      have head := same (key a)
      simp only [List.filter_cons, Int.le_antisymm ge le, decide_true, if_true,
        List.cons.injEq] at head
      obtain ⟨rfl, -⟩ := head
      have tails (k : Int) : l.filter (key · = k) = l'.filter (key · = k) := by
        have all := same k
        simp only [List.filter_cons] at all
        split at all
        · exact List.tail_eq_of_cons_eq all
        · exact all
      refine congrArg _ (ih rest rest' tails fun {c} => ?_)
      have at_ := congrArg (c ∈ ·) (tails (key c))
      simpa using at_

/-- What stands under each key, and in which order, decides the sorted list. -/
theorem sortBy_congr (same : ∀ k, l.filter (key · = k) = l'.filter (key · = k)) :
    sortBy key l = sortBy key l' := by
  refine eq_of_ascending (sortBy_ascending key l) (sortBy_ascending key l') fun k => ?_
  rw [filter_sortBy, filter_sortBy, same]

theorem sortBy_eq_of_perm (distinct : (l.map key).Nodup) (perm : l'.Perm l)
    (ascending : l'.Pairwise fun a b => key a ≤ key b) : sortBy key l = l' := by
  refine List.Perm.eq_of_pairwise ?_ (sortBy_ascending key l) ascending
    ((sortBy_perm key l).trans perm.symm)
  intro a b ha hb le ge
  have ha := (sortBy_perm key l).mem_iff.1 ha
  exact List.inj_on_of_nodup_map distinct ha (perm.mem_iff.1 hb) (Int.le_antisymm le ge)

end Flowgraph
