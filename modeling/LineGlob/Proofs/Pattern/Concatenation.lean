/-
Sources put together match texts put together.

What a source stands for could change when something is written behind it, because the
reader looks ahead in two places.  A backslash at the end escapes whatever comes to stand
behind it.  And the body of a set goes up to a closing bracket, wherever the next one may
be: with another bracket in sight a set may get longer, and a bracket that opened nothing
may open a set after all.

These are the only two.  If the last element of the first source is no single backslash,
and there is no closing bracket in the second source, every element is read as before.
For the body of a set this is said of the scan (`scan_append`): it finds no end in what
was added and falls back on the reading that it would have fallen back on anyway.  The
reading of both sources is then the one reading followed by the other, and what is left
is that the language of elements in a row is a product.  Two stars that meet where the
sources do, and a block that is made of both, need no argument of their own.
-/
import LineGlob.Proofs.Pattern.Language

namespace LineGlob

/-! ### The body of a set -/

namespace SetBody

variable {more : List Char}

/-- The same body with more behind it. -/
def followedBy (more : List Char) (body : SetBody) : SetBody :=
  ⟨body.members, body.rest ++ more⟩

/-- Without a closing bracket there is no way to end the body. -/
theorem scan_of_notMem {members source : List Char} {fallback : Option SetBody}
    (h : ']' ∉ source) : scan members fallback source = fallback := by
  fun_induction scan members fallback source with
  | case1 => rfl
  | case2 => simp at h
  | case3 => simp at h
  | case4 => simp at h
  | case5 members fallback c rest hpair hclose ih =>
      rw [List.mem_cons, not_or] at h
      exact ih h.2

/-- **A scan goes on as if nothing stood behind the source.** -/
theorem scan_append (hmore : ']' ∉ more) (members source : List Char)
    (fallback : Option SetBody) :
    scan members (fallback.map (followedBy more)) (source ++ more) =
      (scan members fallback source).map (followedBy more) := by
  fun_induction scan members fallback source with
  | case1 members fallback => exact scan_of_notMem hmore
  | case2 members fallback rest ih =>
      rw [List.cons_append, List.cons_append, scan]
      exact ih
  | case3 members fallback rest hmembers => simp [scan, hmembers]
  | case4 members fallback rest hmembers => simp [scan, hmembers, followedBy]
  | case5 members fallback c rest hpair hclose ih =>
      -- A backslash gets no bracket to go with it: there is none in what was added.
      have hpair' : ∀ later, c = '\\' → rest ++ more = ']' :: later → False := by
        intro later hc hlater
        cases rest with
        | nil =>
            rw [List.nil_append] at hlater
            rw [hlater] at hmore
            simp at hmore
        | cons d rest =>
            rw [List.cons_append, List.cons.injEq] at hlater
            exact hpair rest hc (by rw [hlater.1])
      rw [List.cons_append, scan]
      · exact ih
      · exact hpair'
      · exact hclose

theorem read?_append (hmore : ']' ∉ more) (source : List Char) :
    read? (source ++ more) = (read? source).map (followedBy more) :=
  scan_append hmore [] source none

end SetBody

/-! ### Elements -/

namespace Element

variable {source more : List Char}

/-- What is left of a source each time an element is read. -/
def stages : List Char → List (List Char)
  | [] => []
  | c :: rest => (c :: rest) :: stages (next c rest).2
termination_by source => source.length
decreasing_by
  have := length_next_le c rest
  simp only [List.length_cons]
  omega

/-- When the last element is read, all that is left is a single backslash. -/
def EndsInBackslash (source : List Char) : Prop :=
  (stages source).getLast? = some ['\\']

instance (source : List Char) : Decidable (EndsInBackslash source) :=
  inferInstanceAs (Decidable ((stages source).getLast? = some ['\\']))

theorem endsInBackslash_singleton : EndsInBackslash ['\\'] := by
  simp [EndsInBackslash, stages, next]

theorem EndsInBackslash.of_next {c : Char} {rest : List Char}
    (h : EndsInBackslash (next c rest).2) : EndsInBackslash (c :: rest) := by
  unfold EndsInBackslash at h ⊢
  rw [stages, List.getLast?_cons, h]
  rfl

/-- **An element is read as if nothing stood behind the source**, unless it is a single backslash
at the end. -/
theorem next_append (hmore : ']' ∉ more) {c : Char} {rest : List Char}
    (hlone : ¬ (c = '\\' ∧ rest = [])) :
    next c (rest ++ more) = ((next c rest).1, (next c rest).2 ++ more) := by
  fun_cases next c rest with
  | case1 escaped later hspecial => simp only [List.cons_append, next, hspecial, if_true]
  | case2 escaped later hplain =>
      simp only [List.cons_append, next, hplain, Bool.false_eq_true, if_false]
  | case3 => exact absurd ⟨rfl, rfl⟩ hlone
  | case4 => rfl
  | case5 => rfl
  | case6 rest body hread =>
      simp only [next, SetBody.read?_append hmore, hread, Option.map_some, SetBody.followedBy]
  | case7 rest hread =>
      simp only [next, SetBody.read?_append hmore, hread, Option.map_none]
  | case8 hslash hany hstar hset => simp only [next]

/-- **Sources in a row are read one after the other.** -/
theorem ofSource_append (hmore : ']' ∉ more) (hend : ¬ EndsInBackslash source) :
    ofSource (source ++ more) = ofSource source ++ ofSource more := by
  fun_induction ofSource source with
  | case1 => rfl
  | case2 c rest ih =>
      have hlone : ¬ (c = '\\' ∧ rest = []) := by
        intro h
        obtain ⟨rfl, rfl⟩ := h
        exact hend endsInBackslash_singleton
      have hrest : ¬ EndsInBackslash (next c rest).2 := by
        intro h
        exact hend h.of_next
      rw [List.cons_append, ofSource, next_append hmore hlone, ih hrest, List.cons_append]

end Element

/-! ### Patterns -/

namespace Pattern

open Element (EndsInBackslash)

/-- **Sources put together match texts put together.**  If there is no closing bracket in the second
source and the last element of the first is no single backslash at its end, the pattern of both
matches a text exactly if the text splits into one that the first matches and one that the second
matches. -/
theorem isMatch_append_iff {first second : String} (hsecond : ']' ∉ second.toList)
    (hfirst : ¬ EndsInBackslash first.toList) (mode : CaseMode) (text : String) :
    (ofSource (first ++ second) mode).isMatch text = true ↔
      ∃ u v : String, text = u ++ v ∧ (ofSource first mode).isMatch u = true ∧
        (ofSource second mode).isMatch v = true := by
  rw [(isMatch_ofSource (first ++ second) mode text).2, String.toList_append,
    Element.ofSource_append hsecond hfirst, Element.languageOf_append, mem_mul_iff_exists_split]
  simp only [(isMatch_ofSource first mode _).2, (isMatch_ofSource second mode _).2]

/-- A set that gives its last bracket back, a bracket that opens nothing, and two stars that meet
where the sources do. -/
theorem isMatch_append_stars :
    ']' ∉ "*\\?B".toList ∧ ¬ EndsInBackslash "[a\\][*".toList ∧
      (ofSource ("[a\\][*" ++ "*\\?B") .insensitive).isMatch "\\[]?b" = true := by
  have hsecond : ']' ∉ "*\\?B".toList := by decide
  have hfirst : ¬ EndsInBackslash "[a\\][*".toList := by decide +kernel
  refine ⟨hsecond, hfirst, (isMatch_append_iff hsecond hfirst .insensitive "\\[]?b").mpr ?_⟩
  exact ⟨"\\[]", "?b", by decide, by decide +kernel, by decide +kernel⟩

end Pattern

end LineGlob
