/-
Lists in increasing order, with nothing in them twice.

A value is put into such a list by looking for its place from the front.  It is compared
with one member at a time, and the answers alone decide; that the result is in order
again, and holds what was put into it, takes no more than the laws of the comparison.
-/
namespace LineGlob

variable {α : Type} [Ord α]

/-- Puts a value at its place in an increasing list, unless it is there already. -/
def insertUnique (a : α) : List α → List α
  | [] => [a]
  | b :: bs =>
    match compare a b with
    | .lt => a :: b :: bs
    | .eq => b :: bs
    | .gt => b :: insertUnique a bs

/-- The values of a list, each once and in increasing order. -/
def sortUnique (as : List α) : List α :=
  as.foldr insertUnique []

variable {a b : α} {as : List α}

theorem mem_insertUnique [Std.LawfulEqOrd α] : b ∈ insertUnique a as ↔ b = a ∨ b ∈ as := by
  induction as with
  | nil => simp [insertUnique]
  | cons c as ih =>
      unfold insertUnique
      split
      · simp
      · rename_i heq
        rw [Std.LawfulEqOrd.compare_eq_iff_eq.mp heq]
        simp
      · rw [List.mem_cons, ih, List.mem_cons]
        exact or_left_comm

/-- The members of a sorted list are those of the list it was made from. -/
theorem mem_sortUnique [Std.LawfulEqOrd α] : b ∈ sortUnique as ↔ b ∈ as := by
  induction as with
  | nil => rfl
  | cons a as ih =>
      show b ∈ insertUnique a (sortUnique as) ↔ b ∈ a :: as
      rw [mem_insertUnique, ih, List.mem_cons]

theorem pairwise_insertUnique [Std.TransOrd α] [Std.LawfulEqOrd α] (a : α)
    (h : as.Pairwise (compare · · = .lt)) : (insertUnique a as).Pairwise (compare · · = .lt) := by
  induction as with
  | nil => exact List.pairwise_singleton _ a
  | cons c as ih =>
      obtain ⟨hc, has⟩ := List.pairwise_cons.mp h
      unfold insertUnique
      split
      · rename_i hlt
        refine List.pairwise_cons.mpr ⟨?_, h⟩
        exact List.forall_mem_cons.mpr ⟨hlt, fun d hd => Std.TransCmp.lt_trans hlt (hc d hd)⟩
      · exact h
      · -- What comes first stays first, before the new value too.
        rename_i hgt
        refine List.pairwise_cons.mpr ⟨?_, ih has⟩
        intro d hd
        rcases mem_insertUnique.mp hd with rfl | hd'
        · exact Std.OrientedCmp.gt_iff_lt.mp hgt
        · exact hc d hd'

/-- **A sorted list is strictly increasing.** -/
theorem pairwise_sortUnique [Std.TransOrd α] [Std.LawfulEqOrd α] (as : List α) :
    (sortUnique as).Pairwise (compare · · = .lt) := by
  induction as with
  | nil => exact List.Pairwise.nil
  | cons a as ih => exact pairwise_insertUnique a ih

theorem nodup_sortUnique [Std.TransOrd α] [Std.LawfulEqOrd α] (as : List α) :
    (sortUnique as).Nodup := by
  refine (pairwise_sortUnique as).imp ?_
  rintro a _ hlt rfl
  rw [Std.LawfulEqOrd.compare_eq_iff_eq.mpr rfl] at hlt
  cases hlt

end LineGlob
