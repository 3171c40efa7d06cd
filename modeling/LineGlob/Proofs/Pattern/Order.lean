/-
The order of patterns.

Patterns are compared by the bytes of their sources and then by their modes, and programs
play no part.  `Precedes` is the order that is meant: the sources as lists of code points,
the first that differs deciding, and the sensitive pattern first where the sources are the
same.  Comparing bytes decides it because UTF-8 keeps the order of code points.

The laws of a total order come from the parts.  A comparison of lists has them if the one of
their elements does, and so has a comparison of two things in turn.  What is left to see is
that equal parts make equal patterns: bytes can be read back as one text only, and a source
and a mode have one program.

Whoever keeps patterns in order relies on these laws.  A sorted list of patterns is strictly
increasing as a list of anything with them is, and what it has once is a source with a mode.
-/
import LineGlob.Pattern.Basic
import LineGlob.Proofs.Text.ByteOrder
import Mathlib.Data.List.Nodup

namespace LineGlob

namespace CaseMode

instance : Std.TransOrd CaseMode :=
  inferInstanceAs (Std.TransCmp (compareOn folds))

theorem compare_eq_eq {m n : CaseMode} : compare m n = .eq ↔ m = n := by
  cases m <;> cases n <;> decide

theorem compare_eq_lt {m n : CaseMode} :
    compare m n = .lt ↔ m = .sensitive ∧ n = .insensitive := by
  cases m <;> cases n <;> decide

end CaseMode

namespace Pattern

variable {p q r : Pattern} {ps : List Pattern}

/-! ### The order that is meant -/

/-- The code points of a pattern's source. -/
def codes (p : Pattern) : List Nat :=
  p.source.toList.map Char.toNat

/-- A pattern comes before another if its source does, code point by code point, or if the sources
are the same and it is the one that minds letter case. -/
def Precedes (p q : Pattern) : Prop :=
  List.Lex (· < ·) p.codes q.codes ∨
    p.codes = q.codes ∧ p.mode = .sensitive ∧ q.mode = .insensitive

theorem codes_inj : p.codes = q.codes ↔ p.source = q.source := by
  have hinj : Function.Injective (List.map Char.toNat) :=
    List.map_injective_iff.mpr fun _ _ h => Char.toNat_inj.mp h
  unfold codes
  rw [hinj.eq_iff, String.toList_inj]

/-- A pattern is its source and its mode. -/
theorem eq_iff : p = q ↔ p.source = q.source ∧ p.mode = q.mode := by
  constructor
  · intro h
    rw [h]
    exact ⟨rfl, rfl⟩
  · intro h
    exact ext_source_mode h.1 h.2

/-! ### Comparing -/

theorem compare_codes_eq_lt {cs ds : List Nat} : compare cs ds = .lt ↔ List.Lex (· < ·) cs ds := by
  induction cs generalizing ds with
  | nil => cases ds <;> simp
  | cons c cs ih =>
      cases ds with
      | nil => simp
      | cons d ds =>
          rw [List.compare_cons_cons, Ordering.then_eq_lt, Nat.compare_eq_lt, Nat.compare_eq_eq, ih,
            List.cons_lex_cons_iff]

theorem compare_eq (p q : Pattern) :
    compare p q = (compare p.codes q.codes).then (compare p.mode q.mode) := by
  show (compare (Text.encode _) (Text.encode _)).then _ = _
  rw [Text.compare_encode]
  rfl

/-- Comparing goes by the source first and by the mode then, and each has the laws. -/
instance : Std.TransOrd Pattern :=
  inferInstanceAs (Std.TransCmp
    (compareLex (compareOn fun p => Text.encode p.source.toList) (compareOn Pattern.mode)))

/-- **Only the same patterns are equal in order.** -/
theorem compare_eq_eq : compare p q = .eq ↔ p = q := by
  rw [compare_eq, Ordering.then_eq_eq, Std.LawfulEqOrd.compare_eq_iff_eq, CaseMode.compare_eq_eq,
    codes_inj, eq_iff]

instance : Std.LawfulEqOrd Pattern where
  eq_of_compare h := compare_eq_eq.mp h

/-- **Bytes decide the order of code points.** -/
theorem compare_eq_lt : compare p q = .lt ↔ Precedes p q := by
  rw [compare_eq, Ordering.then_eq_lt, compare_codes_eq_lt, Std.LawfulEqOrd.compare_eq_iff_eq,
    CaseMode.compare_eq_lt]
  rfl

/-! ### Programs play no part -/

/-- Two stars at the start of a source are one star to its program. -/
theorem program_star_star (source : String) (mode : CaseMode) :
    (ofSource ("**" ++ source) mode).program = (ofSource ("*" ++ source) mode).program := by
  have hstar : ∀ rest, Element.ofSource ('*' :: rest) = .star :: Element.ofSource rest := by
    intro rest
    rw [Element.ofSource]
    rfl
  show Program.ofSource mode.folds ("**" ++ source).toList =
    Program.ofSource mode.folds ("*" ++ source).toList
  rw [String.toList_append, String.toList_append]
  show Program.ofElements _ (Element.ofSource ('*' :: '*' :: source.toList)) =
    Program.ofElements _ (Element.ofSource ('*' :: source.toList))
  rw [hstar, hstar]
  rfl

/-! ### Keeping patterns in order -/

/-- **A source and a mode are kept once.** -/
theorem countP_sortUnique (hp : p ∈ ps) :
    (sortUnique ps).countP (fun q => q.source = p.source ∧ q.mode = p.mode) = 1 := by
  have hsame : (fun q : Pattern => decide (q.source = p.source ∧ q.mode = p.mode)) = (· == p) := by
    funext q
    rw [beq_eq_decide, decide_eq_decide]
    exact eq_iff.symm
  rw [hsame]
  exact List.count_eq_one_of_mem (nodup_sortUnique ps) (mem_sortUnique.mpr hp)

/-! ### The order as a whole -/

/-- **Patterns are totally ordered, and only the same ones are equal.**  The comparison is
reflexive, antisymmetric, total and transitive.  Its equal patterns are those with the same
characters in their sources and the same mode, whatever their programs are: with one star in front
or two, a source has the same program, and still these are two patterns.  What is equal matches the
same texts.  One pattern is less than another if it precedes it code point by code point.  A sorted
list of patterns is therefore strictly increasing, and has each source with each mode once. -/
theorem compare_total_order (p q r : Pattern) :
    compare p p = .eq ∧
      ((compare p q).isLE → (compare q p).isLE → p = q) ∧
      ((compare p q).isLE ∨ (compare q p).isLE) ∧
      ((compare p q).isLE → (compare q r).isLE → (compare p r).isLE) ∧
      compare q p = (compare p q).swap ∧
      (compare p q = .eq ↔ (p == q) = true) ∧
      ((p == q) = true ↔ p.source.toList = q.source.toList ∧ p.mode = q.mode) ∧
      (∀ source mode,
        (ofSource ("**" ++ source) mode).program = (ofSource ("*" ++ source) mode).program ∧
          ofSource ("**" ++ source) mode ≠ ofSource ("*" ++ source) mode) ∧
      compare? p q = some (compare p q) ∧
      ((p == q) = true → ∀ text, p.isMatch text = q.isMatch text) ∧
      (compare p q = .lt ↔ Precedes p q) ∧
      ∀ ps : List Pattern, (sortUnique ps).Pairwise (compare · · = .lt) ∧
        (∀ s ∈ sortUnique ps, s ∈ ps) ∧
        ∀ s ∈ ps, (sortUnique ps).countP (fun t => t.source = s.source ∧ t.mode = s.mode) = 1 := by
  have hswap : compare q p = (compare p q).swap := Std.OrientedOrd.eq_swap
  refine ⟨compare_eq_eq.mpr rfl, ?_, ?_, Std.TransOrd.isLE_trans, hswap, ?_, ?_, ?_, rfl, ?_,
    compare_eq_lt, ?_⟩
  · intro hpq hqp
    exact compare_eq_eq.mp (Std.OrientedCmp.isLE_antisymm hpq hqp)
  · rw [hswap]
    cases compare p q <;> decide
  · rw [beq_iff_eq, compare_eq_eq]
  · rw [beq_iff_eq, eq_iff, String.toList_inj]
  · intro source mode
    refine ⟨program_star_star source mode, ?_⟩
    intro h
    have hsource : "**" ++ source = "*" ++ source := (eq_iff.mp h).1
    have hlength := congrArg String.length hsource
    rw [String.length_append, String.length_append] at hlength
    exact absurd (Nat.add_right_cancel hlength) (by decide)
  · intro h text
    rw [beq_iff_eq.mp h]
  · intro ps
    exact ⟨pairwise_sortUnique ps, fun s => mem_sortUnique.mp, fun s => countP_sortUnique⟩

/-- A character of three bytes comes before one of four, and the mode is looked at last. -/
theorem compare_total_order_wide :
    (compare (ofSource "ﬀ" .insensitive) (ofSource "𐍈" .sensitive)).isLE ∧
      (compare (ofSource "𐍈" .sensitive) (ofSource "𐍈" .insensitive)).isLE ∧
      (compare (ofSource "ﬀ" .insensitive) (ofSource "𐍈" .insensitive)).isLE := by
  have hfirst : (compare (ofSource "ﬀ" .insensitive) (ofSource "𐍈" .sensitive)).isLE := by
    decide +kernel
  have hlater : (compare (ofSource "𐍈" .sensitive) (ofSource "𐍈" .insensitive)).isLE := by
    decide +kernel
  obtain ⟨-, -, -, htrans, -⟩ := compare_total_order (ofSource "ﬀ" .insensitive)
    (ofSource "𐍈" .sensitive) (ofSource "𐍈" .insensitive)
  exact ⟨hfirst, hlater, htrans hfirst hlater⟩

end Pattern

end LineGlob
