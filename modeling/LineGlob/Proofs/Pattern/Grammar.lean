/-
Reading a source follows the rules of the grammar.

The rules are stated here without an algorithm.  `SetBody.IsBody` is the rule for sets:
after an opening bracket comes the longest stretch that consists of members and a
closing bracket, and there has to be a member.  `Element.Rule` lists the rules that give
a character a meaning of its own, and `Element.Starts` adds the rule that comes last, by
which a character that no other rule applies to stands for itself.  `Element.Reads` is a
whole source read in this way.

What is proved is that the reader does just this: `read?_eq_some_iff` for sets,
`starts_iff_next` for one element, and `reads_iff` for a source, which has exactly one
reading.

The one place with a choice is a backslash before a closing bracket inside a set.  Taking
the bracket as a member leads further, if a closing bracket still follows; taking it as
the closing one is what is left if none does.  The scan goes on with the first and keeps
the second as its fallback, and what carries its proof is that the fallback is never
needed while there is any other way to close the set further on.
-/
import LineGlob.Pattern.Grammar

namespace LineGlob

/-! ### The body of a set -/

namespace SetBody

/-- Members and then a closing bracket.  `\]` is the member `]`, and everything else but a closing
bracket is itself. -/
inductive Closes : List Char → SetBody → Prop
  | close (rest : List Char) : Closes (']' :: rest) ⟨[], rest⟩
  | bracket {source members rest : List Char} (h : Closes source ⟨members, rest⟩) :
      Closes ('\\' :: ']' :: source) ⟨']' :: members, rest⟩
  | plain {c : Char} {source members rest : List Char} (hc : c ≠ ']')
      (h : Closes source ⟨members, rest⟩) : Closes (c :: source) ⟨c :: members, rest⟩

/-- The body of a set: of the ways to close it after at least one member, the longest. -/
structure IsBody (source : List Char) (body : SetBody) : Prop where
  closes : Closes source body
  nonempty : body.members ≠ []
  longest : ∀ other, Closes source other → other.members ≠ [] →
    body.rest.length ≤ other.rest.length

theorem Closes.length_rest_lt {source : List Char} {body : SetBody} (h : Closes source body) :
    body.rest.length < source.length := by
  induction h with
  | close rest => simp
  | bracket _ ih =>
      simp only [List.length_cons] at ih ⊢
      omega
  | plain _ _ ih =>
      simp only [List.length_cons] at ih ⊢
      omega

theorem not_closes_nil (body : SetBody) : ¬ Closes [] body := by
  intro h
  cases h

theorem closes_close {rest : List Char} {body : SetBody} :
    Closes (']' :: rest) body ↔ body = ⟨[], rest⟩ := by
  refine ⟨?_, ?_⟩
  · intro h
    cases h with
    | close => rfl
    | plain hc => exact absurd rfl hc
  · intro h
    rw [h]
    exact Closes.close rest

/-- A backslash before a closing bracket makes it a member, or is the last member itself. -/
theorem closes_bracket {source : List Char} {body : SetBody} :
    Closes ('\\' :: ']' :: source) body ↔
      body = ⟨['\\'], source⟩ ∨
        ∃ inner, Closes source inner ∧ body = ⟨']' :: inner.members, inner.rest⟩ := by
  refine ⟨?_, ?_⟩
  · intro h
    cases h with
    | bracket h => exact Or.inr ⟨_, h, rfl⟩
    | plain _ h =>
        cases closes_close.mp h
        exact Or.inl rfl
  · intro h
    rcases h with rfl | ⟨inner, hinner, rfl⟩
    · exact Closes.plain (by decide) (Closes.close source)
    · exact Closes.bracket hinner

theorem closes_plain {c : Char} {source : List Char} {body : SetBody} (hc : c ≠ ']')
    (hpair : ∀ rest, c = '\\' → source ≠ ']' :: rest) :
    Closes (c :: source) body ↔
      ∃ inner, Closes source inner ∧ body = ⟨c :: inner.members, inner.rest⟩ := by
  refine ⟨?_, ?_⟩
  · intro h
    cases h with
    | close => exact absurd rfl hc
    | bracket => exact absurd rfl (hpair _ rfl)
    | plain _ h => exact ⟨_, h, rfl⟩
  · intro h
    obtain ⟨inner, hinner, rfl⟩ := h
    exact Closes.plain hc hinner

/-- **A stretch has one reading**: what follows it determines its members. -/
theorem Closes.eq_of_length_rest {source : List Char} {body other : SetBody}
    (h : Closes source body) (hother : Closes source other)
    (hlength : body.rest.length = other.rest.length) : body = other := by
  induction h generalizing other with
  | close rest => exact (closes_close.mp hother).symm
  | @bracket source members rest h ih =>
      have hlt := h.length_rest_lt
      rcases closes_bracket.mp hother with rfl | ⟨inner, hinner, rfl⟩
      · simp only at hlength hlt
        omega
      · rw [← ih hinner hlength]
  | @plain c source members rest hc h ih =>
      by_cases hpair : ∃ later, c = '\\' ∧ source = ']' :: later
      · obtain ⟨later, rfl, rfl⟩ := hpair
        cases closes_close.mp h
        rcases closes_bracket.mp hother with rfl | ⟨inner, hinner, rfl⟩
        · rfl
        · have hlt := hinner.length_rest_lt
          simp only at hlength
          omega
      · have hplain := fun later hcslash hsource => hpair ⟨later, hcslash, hsource⟩
        obtain ⟨inner, hinner, rfl⟩ := (closes_plain hc hplain).mp hother
        rw [← ih hinner hlength]

/-- What the scan may return for what is left of a body: it closes the set, and there is a member,
either here or among those that were `seen` before. -/
def Reading (seen source : List Char) (body : SetBody) : Prop :=
  Closes source body ∧ seen ++ body.members ≠ []

/-- No other reading leads further. -/
def Longest (seen source : List Char) (body : SetBody) : Prop :=
  Reading seen source body ∧
    ∀ other, Reading seen source other → body.rest.length ≤ other.rest.length

theorem longest_nil_iff {source : List Char} {body : SetBody} :
    Longest [] source body ↔ IsBody source body := by
  refine ⟨?_, ?_⟩
  · intro h
    exact ⟨h.1.1, h.1.2, fun other hother hne => h.2 other ⟨hother, hne⟩⟩
  · intro h
    exact ⟨⟨h.closes, h.nonempty⟩, fun other hother => h.longest other hother.1 hother.2⟩

/-- After a character that was seen, a reading needs no member of its own. -/
theorem reading_append_singleton {seen source : List Char} {c : Char} {body : SetBody} :
    Reading (seen ++ [c]) source body ↔ Closes source body := by
  unfold Reading
  simp

theorem longest_close {seen : List Char} (hseen : seen ≠ []) (rest : List Char) :
    Longest seen (']' :: rest) ⟨[], rest⟩ := by
  refine ⟨⟨Closes.close rest, by simpa using hseen⟩, ?_⟩
  intro other hother
  exact Nat.le_of_eq (by rw [closes_close.mp hother.1])

/-- A bracket is a member if the set can be closed after it. -/
theorem Longest.bracket {seen source : List Char} {body : SetBody}
    (h : Longest (seen ++ [']']) source body) :
    Longest seen ('\\' :: ']' :: source) ⟨']' :: body.members, body.rest⟩ := by
  refine ⟨⟨Closes.bracket h.1.1, by simp⟩, ?_⟩
  intro other hother
  rcases closes_bracket.mp hother.1 with rfl | ⟨inner, hinner, rfl⟩
  · exact Nat.le_of_lt h.1.1.length_rest_lt
  · exact h.2 inner (reading_append_singleton.mpr hinner)

/-- A bracket closes the set if nothing after it does. -/
theorem longest_bracket_of_none {seen source : List Char}
    (h : ∀ body, ¬ Reading (seen ++ [']']) source body) :
    Longest seen ('\\' :: ']' :: source) ⟨['\\'], source⟩ := by
  refine ⟨⟨closes_bracket.mpr (Or.inl rfl), by simp⟩, ?_⟩
  intro other hother
  rcases closes_bracket.mp hother.1 with rfl | ⟨inner, hinner, rfl⟩
  · exact Nat.le_refl _
  · exact absurd (reading_append_singleton.mpr hinner) (h inner)

theorem Longest.plain {seen source : List Char} {c : Char} {body : SetBody} (hc : c ≠ ']')
    (hpair : ∀ rest, c = '\\' → source ≠ ']' :: rest) (h : Longest (seen ++ [c]) source body) :
    Longest seen (c :: source) ⟨c :: body.members, body.rest⟩ := by
  refine ⟨⟨Closes.plain hc h.1.1, by simp⟩, ?_⟩
  intro other hother
  obtain ⟨inner, hinner, rfl⟩ := (closes_plain hc hpair).mp hother.1
  exact h.2 inner (reading_append_singleton.mpr hinner)

/-- **The scan returns the longest reading, and its fallback only if there is none.** -/
theorem scan_cases (members source : List Char) (fallback : Option SetBody)
    (hfallback : members = [] → fallback = none) :
    (∃ body, Longest members.reverse source body ∧
        scan members fallback source = some ⟨members.reverse ++ body.members, body.rest⟩) ∨
      ((∀ body, ¬ Reading members.reverse source body) ∧
        scan members fallback source = fallback) := by
  fun_induction scan members fallback source with
  | case1 members fallback => exact Or.inr ⟨fun body h => not_closes_nil body h.1, rfl⟩
  | case2 members fallback rest ih =>
      -- Either way there is a reading here, so the fallback from before is of no use.
      simp only [List.reverse_cons] at ih
      rcases ih (by simp) with ⟨body, hbody, hscan⟩ | ⟨hnone, hscan⟩
      · exact Or.inl ⟨_, hbody.bracket, by simp [hscan]⟩
      · exact Or.inl ⟨_, longest_bracket_of_none hnone, by simp [hscan]⟩
  | case3 members fallback rest hmembers =>
      rw [List.isEmpty_iff] at hmembers
      refine Or.inr ⟨?_, (hfallback hmembers).symm⟩
      intro body h
      obtain ⟨hcloses, hne⟩ := h
      rw [closes_close.mp hcloses, hmembers] at hne
      exact hne rfl
  | case4 members fallback rest hmembers =>
      rw [List.isEmpty_iff] at hmembers
      exact Or.inl ⟨_, longest_close (by simpa using hmembers) rest, by simp⟩
  | case5 members fallback c rest hpair hclose ih =>
      simp only [List.reverse_cons] at ih
      rcases ih (by simp) with ⟨body, hbody, hscan⟩ | ⟨hnone, hscan⟩
      · exact Or.inl ⟨_, hbody.plain hclose hpair, by simp [hscan]⟩
      · refine Or.inr ⟨?_, hscan⟩
        intro body h
        obtain ⟨inner, hinner, -⟩ := (closes_plain hclose hpair).mp h.1
        exact hnone inner (reading_append_singleton.mpr hinner)

/-- **Reading the body of a set finds the longest body there is.** -/
theorem read?_eq_some_iff {source : List Char} {body : SetBody} :
    read? source = some body ↔ IsBody source body := by
  rw [← longest_nil_iff]
  rcases scan_cases [] source none fun _ => rfl with ⟨found, hfound, hscan⟩ | ⟨hnone, hscan⟩
  · have hread : read? source = some found := hscan
    rw [hread, Option.some.injEq]
    refine ⟨?_, ?_⟩
    · intro h
      exact h ▸ hfound
    · intro h
      exact hfound.1.1.eq_of_length_rest h.1.1
        (Nat.le_antisymm (hfound.2 body h.1) (h.2 found hfound.1))
  · have hread : read? source = none := hscan
    rw [hread]
    refine ⟨?_, ?_⟩
    · intro h
      simp at h
    · intro h
      exact absurd h.1 (hnone body)

/-- The last bracket with a backslash is given back if the set could not be closed without it. -/
example : read? ['a', '\\', ']', '?'] = some ⟨['a', '\\'], ['?']⟩ := by decide

theorem read?_eq_none_iff {source : List Char} :
    read? source = none ↔ ∀ body, ¬ IsBody source body := by
  rw [Option.eq_none_iff_forall_ne_some]
  exact forall_congr' fun body => not_congr read?_eq_some_iff

end SetBody

/-! ### Elements -/

namespace Element

/-- The rules that give characters a meaning of their own: how the source starts, the element this
stands for, and what follows it. -/
inductive Rule : List Char → Element → List Char → Prop
  | escape {c : Char} (hc : c ∈ ['\\', '?', '*', '[']) (rest : List Char) :
      Rule ('\\' :: c :: rest) (.char c) rest
  | any (rest : List Char) : Rule ('?' :: rest) .any rest
  | star (rest : List Char) : Rule ('*' :: rest) .star rest
  | set {source : List Char} {body : SetBody} (h : SetBody.IsBody source body) :
      Rule ('[' :: source) (.set body.members) body.rest

/-- The rules, and after them the one by which a character stands for itself. -/
inductive Starts : List Char → Element → List Char → Prop
  | rule {source : List Char} {e : Element} {rest : List Char} (h : Rule source e rest) :
      Starts source e rest
  | plain {c : Char} {rest : List Char} (h : ∀ e later, ¬ Rule (c :: rest) e later) :
      Starts (c :: rest) (.char c) rest

/-- A source that is read as a list of elements, from its start to its end. -/
inductive Reads : List Char → List Element → Prop
  | nil : Reads [] []
  | cons {source : List Char} {e : Element} {rest : List Char} {es : List Element}
      (h : Starts source e rest) (hrest : Reads rest es) : Reads source (e :: es)

theorem isSpecial_iff {c : Char} : isSpecial c = true ↔ c ∈ ['\\', '?', '*', '['] := by
  simp [isSpecial, or_assoc]

/-- What the reader takes next is what the rules say comes next. -/
theorem starts_next (c : Char) (rest : List Char) :
    Starts (c :: rest) (next c rest).1 (next c rest).2 := by
  unfold next
  split
  · split
    · rename_i escaped later
      split
      · rename_i hspecial
        exact Starts.rule (Rule.escape (isSpecial_iff.mp hspecial) later)
      · rename_i hspecial
        refine Starts.plain fun e after h => ?_
        cases h with
        | escape hc => exact hspecial (isSpecial_iff.mpr hc)
    · refine Starts.plain fun e after h => ?_
      cases h
  · exact Starts.rule (Rule.any rest)
  · exact Starts.rule (Rule.star rest)
  · split
    · rename_i body hread
      exact Starts.rule (Rule.set (SetBody.read?_eq_some_iff.mp hread))
    · rename_i hread
      refine Starts.plain fun e after h => ?_
      cases h with
      | set hbody => exact SetBody.read?_eq_none_iff.mp hread _ hbody
  · rename_i hslash hany hstar hset
    refine Starts.plain fun e after h => ?_
    cases h with
    | escape => exact hslash rfl
    | any => exact hany rfl
    | star => exact hstar rfl
    | set => exact hset rfl

theorem Rule.eq_next {c : Char} {rest later : List Char} {e : Element}
    (h : Rule (c :: rest) e later) : next c rest = (e, later) := by
  cases h with
  | escape hc => simp only [next, isSpecial_iff.mpr hc, if_true]
  | any => rfl
  | star => rfl
  | set hbody => simp only [next, SetBody.read?_eq_some_iff.mpr hbody]

/-- **The rules leave one choice, and the reader makes it.** -/
theorem starts_iff_next {c : Char} {rest later : List Char} {e : Element} :
    Starts (c :: rest) e later ↔ next c rest = (e, later) := by
  refine ⟨?_, ?_⟩
  · intro h
    cases h with
    | rule h => exact h.eq_next
    | plain hnone =>
        -- The reader takes something by the rules, and only the last rule is left for that.
        have hstarts := starts_next c rest
        generalize next c rest = found at hstarts ⊢
        obtain ⟨e, later⟩ := found
        cases hstarts with
        | rule h => exact absurd h (hnone _ _)
        | plain _ => rfl
  · intro h
    have hstarts := starts_next c rest
    rwa [h] at hstarts

theorem reads_ofSource (source : List Char) : Reads source (ofSource source) := by
  fun_induction ofSource source with
  | case1 => exact Reads.nil
  | case2 c rest ih => exact Reads.cons (starts_next c rest) ih

/-- **Every source has one reading, the reader's.** -/
theorem reads_iff {source : List Char} {es : List Element} :
    Reads source es ↔ es = ofSource source := by
  refine ⟨?_, ?_⟩
  · intro h
    induction h with
    | nil => rw [ofSource]
    | @cons source e rest es h hrest ih =>
        cases source with
        | nil =>
            cases h with
            | rule h => cases h
        | cons c later =>
            rw [ofSource, starts_iff_next.mp h, ih]
  · intro h
    rw [h]
    exact reads_ofSource source

end Element

end LineGlob
