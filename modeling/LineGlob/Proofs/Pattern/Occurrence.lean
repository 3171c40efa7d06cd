/-
Looking for a block is trying it everywhere.

A block is looked for in three ways, and two of them have code of their own for blocks with
a text at hand, for blocks with no tokens, and for the rest.  All of it is described here by
the third way alone, which tries the block at one place.  `Occurs` says that the block
matches from a place at or behind a given one to an end, and `FirstOccurs` that it does so
at no earlier place.

The search answers with the end of the first occurrence, and that end is the least one: an
occurrence has as many characters as the block has tokens, so of two occurrences the one
that starts first also ends first.  From there it follows that a search that starts further
on never ends earlier.  The test at the end of a text answers whether some occurrence ends
there.

Places are counted in bytes and tokens take characters.  What joins the two is that prefixes
of one text are ordered alike by either count (`size_le_size_iff`).
-/
import LineGlob.Proofs.Pattern.Block

namespace LineGlob

open Text (IsBoundary Leftmost Nowhere)

namespace Block

variable {fold : Bool} {b : Block} {text before cs : List Char}
  {pos pos' start start' stop stop' : Nat}

/-! ### Occurrences -/

/-- At a place at or behind `pos` the block matches, up to an end. -/
structure Occurs (b : Block) (fold : Bool) (text : List Char) (pos start stop : Nat) : Prop where
  isBoundary : IsBoundary text start
  le : pos ≤ start
  endAt : b.endAt fold text start = .ok (some stop)

/-- The block matches there, and at no place before. -/
structure FirstOccurs (b : Block) (fold : Bool) (text : List Char) (pos start stop : Nat) : Prop
    extends Occurs b fold text pos start stop where
  least : ∀ start' stop', Occurs b fold text pos start' stop' → start ≤ start'

theorem Occurs.mono (h : Occurs b fold text pos' start stop) (hle : pos ≤ pos') :
    Occurs b fold text pos start stop :=
  ⟨h.isBoundary, Nat.le_trans hle h.le, h.endAt⟩

/-- A first occurrence has one end. -/
theorem FirstOccurs.stop_unique (h : FirstOccurs b fold text pos start stop)
    (h' : FirstOccurs b fold text pos start' stop') : stop = stop' := by
  have hstart : start = start' :=
    Nat.le_antisymm (h.least _ _ h'.toOccurs) (h'.least _ _ h.toOccurs)
  have hend := h.endAt
  rw [hstart, h'.endAt] at hend
  cases hend
  rfl

/-- **At a place a block answers**, and it matches exactly if a word of its tokens stands there. -/
theorem Sound.endAt_eq_some_iff (hb : b.Sound fold) (before cs : List Char) :
    b.endAt fold (before ++ cs) (Text.size before) = .ok (some stop) ↔
      ∃ word, Text.Between (before ++ cs) (Text.size before) stop word ∧
        Fits fold b.tokens word := by
  constructor
  · intro hend
    by_cases hstands : Stands fold b.tokens cs
    · obtain ⟨word, later, rfl, hword⟩ := hstands
      rw [hb.endAt_of_fits hword] at hend
      cases hend
      exact ⟨word, Text.between_iff.mpr ⟨later, rfl, rfl⟩, hword⟩
    · rw [hb.endAt_of_not_stands hstands] at hend
      cases hend
  · intro h
    obtain ⟨word, hbetween, hword⟩ := h
    obtain ⟨later, rfl, rfl⟩ := Text.between_iff.mp hbetween
    exact hb.endAt_of_fits hword before later

theorem Sound.exists_endAt (hb : b.Sound fold) (hpos : IsBoundary text pos) :
    ∃ found, b.endAt fold text pos = .ok found := by
  obtain ⟨before, rest, rfl, rfl⟩ := Text.isBoundary_iff.mp hpos
  by_cases hstands : Stands fold b.tokens rest
  · obtain ⟨word, later, rfl, hword⟩ := hstands
    exact ⟨_, hb.endAt_of_fits hword before later⟩
  · exact ⟨none, hb.endAt_of_not_stands hstands before⟩

/-- **An occurrence is a word of the tokens behind a gap.** -/
theorem Sound.occurs_iff (hb : b.Sound fold) (before cs : List Char) :
    Occurs b fold (before ++ cs) (Text.size before) start stop ↔
      ∃ gap word rest, cs = gap ++ (word ++ rest) ∧ Fits fold b.tokens word ∧
        start = Text.size (before ++ gap) ∧ stop = Text.size (before ++ (gap ++ word)) := by
  constructor
  · intro h
    obtain ⟨gap, later, rfl, rfl⟩ := Text.isBoundary_behind_iff.mp ⟨h.isBoundary, h.le⟩
    have hend := h.endAt
    rw [← List.append_assoc, hb.endAt_eq_some_iff] at hend
    obtain ⟨word, hbetween, hword⟩ := hend
    obtain ⟨rest, rfl, hstop⟩ := Text.between_iff.mp hbetween
    exact ⟨gap, word, rest, rfl, hword, rfl, by rw [hstop, List.append_assoc]⟩
  · intro h
    obtain ⟨gap, word, rest, rfl, hword, rfl, rfl⟩ := h
    obtain ⟨hboundary, hle⟩ := Text.isBoundary_behind_iff.mpr ⟨gap, word ++ rest, rfl, rfl⟩
    have hend := hb.endAt_of_fits hword (before ++ gap) rest
    rw [List.append_assoc, List.append_assoc] at hend
    exact ⟨hboundary, hle, hend⟩

/-- **Of two occurrences, the one that starts first ends first.** -/
theorem Sound.stop_le_stop (hb : b.Sound fold) (hpos : IsBoundary text pos)
    (h : Occurs b fold text pos start stop) (h' : Occurs b fold text pos start' stop')
    (hle : start ≤ start') : stop ≤ stop' := by
  obtain ⟨before, cs, rfl, rfl⟩ := Text.isBoundary_iff.mp hpos
  obtain ⟨gap, word, rest, rfl, hword, rfl, rfl⟩ := (hb.occurs_iff before cs).mp h
  obtain ⟨gap', word', rest', heq, hword', rfl, rfl⟩ := (hb.occurs_iff before _).mp h'
  have hgap : gap.length ≤ gap'.length := by
    rw [Text.size_append, Text.size_append, Nat.add_le_add_iff_left,
      Text.size_le_size_iff heq] at hle
    exact hle
  rw [← List.append_assoc, ← List.append_assoc] at heq
  rw [Text.size_append before, Text.size_append before (gap' ++ word'), Nat.add_le_add_iff_left,
    Text.size_le_size_iff heq, List.length_append, List.length_append, ← hword.length_eq,
    ← hword'.length_eq]
  exact Nat.add_le_add_right hgap _

/-! ### The search and the test at the end -/

/-- **A search ends with the first occurrence, or finds that there is none.** -/
theorem Sound.firstEnd_cases (hb : b.Sound fold) (hpos : IsBoundary text pos) :
    (b.firstEnd fold text pos = .ok none ∧ ∀ start stop, ¬ Occurs b fold text pos start stop) ∨
      ∃ start stop, b.firstEnd fold text pos = .ok (some stop) ∧
        FirstOccurs b fold text pos start stop := by
  obtain ⟨before, cs, rfl, rfl⟩ := Text.isBoundary_iff.mp hpos
  rcases Text.nowhere_or_leftmost (Stands fold b.tokens) cs with
    hnowhere | ⟨gap, _, rfl, hleft⟩
  · refine Or.inl ⟨hb.firstEnd_of_nowhere hnowhere before, ?_⟩
    intro start stop h
    obtain ⟨gap, word, rest, rfl, hword, -⟩ := (hb.occurs_iff before cs).mp h
    exact hnowhere gap _ rfl ⟨word, rest, rfl, hword⟩
  · obtain ⟨word, rest, rfl, hword⟩ := hleft.here
    refine Or.inr ⟨Text.size (before ++ gap), Text.size (before ++ (gap ++ word)),
      hb.firstEnd_of_leftmost hleft hword before,
      (hb.occurs_iff before _).mpr ⟨gap, word, rest, rfl, hword, rfl, rfl⟩, ?_⟩
    intro start stop h
    obtain ⟨gap', word', rest', heq, hword', rfl, -⟩ := (hb.occurs_iff before _).mp h
    rw [Text.size_append, Text.size_append, Nat.add_le_add_iff_left, Text.size_le_size_iff heq]
    exact hleft.least gap' _ heq ⟨word', rest', rfl, hword'⟩

theorem Sound.exists_firstEnd (hb : b.Sound fold) (hpos : IsBoundary text pos) :
    ∃ found, b.firstEnd fold text pos = .ok found := by
  rcases hb.firstEnd_cases hpos with ⟨hnone, -⟩ | ⟨start, stop, hsome, -⟩
  · exact ⟨none, hnone⟩
  · exact ⟨some stop, hsome⟩

theorem Sound.firstEnd_eq_some_iff (hb : b.Sound fold) (hpos : IsBoundary text pos) :
    b.firstEnd fold text pos = .ok (some stop) ↔
      ∃ start, FirstOccurs b fold text pos start stop := by
  rcases hb.firstEnd_cases hpos with ⟨hnone, hnowhere⟩ | ⟨start, found, hsome, hfirst⟩
  · rw [hnone]
    constructor
    · intro h
      cases h
    · intro h
      obtain ⟨start, hfirst⟩ := h
      exact absurd hfirst.toOccurs (hnowhere start stop)
  · rw [hsome]
    constructor
    · intro h
      cases h
      exact ⟨start, hfirst⟩
    · intro h
      obtain ⟨start', hfirst'⟩ := h
      rw [hfirst.stop_unique hfirst']

theorem Sound.firstEnd_eq_none_iff (hb : b.Sound fold) (hpos : IsBoundary text pos) :
    b.firstEnd fold text pos = .ok none ↔ ∀ start stop, ¬ Occurs b fold text pos start stop := by
  rcases hb.firstEnd_cases hpos with ⟨hnone, hnowhere⟩ | ⟨start, found, hsome, hfirst⟩
  · exact ⟨fun _ => hnowhere, fun _ => hnone⟩
  · rw [hsome]
    constructor
    · intro h
      cases h
    · intro h
      exact absurd hfirst.toOccurs (h start found)

/-- **The end of the first occurrence is the least end.** -/
theorem FirstOccurs.stop_le (hb : b.Sound fold) (hpos : IsBoundary text pos)
    (h : FirstOccurs b fold text pos start stop) (h' : Occurs b fold text pos start' stop') :
    stop ≤ stop' :=
  hb.stop_le_stop hpos h.toOccurs h' (h.least start' stop' h')

/-- **The text ends with a block if an occurrence ends where the text does.** -/
theorem Sound.endsText_decides_occurs (hb : b.Sound fold) (hpos : IsBoundary text pos) :
    Decides (b.endsText fold text pos)
      (∃ start, Occurs b fold text pos start (Text.size text)) := by
  obtain ⟨before, cs, rfl, rfl⟩ := Text.isBoundary_iff.mp hpos
  refine (hb.endsText_decides before cs).congr ?_
  constructor
  · intro h
    obtain ⟨gap, word, rfl, hword⟩ := h
    exact ⟨_, (hb.occurs_iff before _).mpr ⟨gap, word, [], by simp, hword, rfl, rfl⟩⟩
  · intro h
    obtain ⟨start, hoccurs⟩ := h
    obtain ⟨gap, word, rest, rfl, hword, -, hstop⟩ := (hb.occurs_iff before cs).mp hoccurs
    -- nothing can follow a word that ends where the text does
    have hrest : rest = [] := by
      simp only [Text.size_append] at hstop
      exact Text.size_eq_zero.mp (by omega)
    subst hrest
    exact ⟨gap, word, by rw [List.append_nil], hword⟩

/-- **A block that is found further on does not end earlier**, and is found from the start as
well. -/
theorem Sound.exists_firstEnd_le (hb : b.Sound fold) (hpos : IsBoundary text pos)
    (hpos' : IsBoundary text pos') (hle : pos ≤ pos')
    (h : b.firstEnd fold text pos' = .ok (some stop')) :
    ∃ stop, b.firstEnd fold text pos = .ok (some stop) ∧ stop ≤ stop' := by
  obtain ⟨start', hfirst'⟩ := (hb.firstEnd_eq_some_iff hpos').mp h
  have hoccurs := hfirst'.toOccurs.mono hle
  rcases hb.firstEnd_cases hpos with ⟨-, hnowhere⟩ | ⟨start, stop, hsome, hfirst⟩
  · exact absurd hoccurs (hnowhere start' stop')
  · exact ⟨stop, hsome, hfirst.stop_le hb hpos hoccurs⟩

/-- **Looking for a block is trying it everywhere.**  A block whose sets are in order, asked at a
place, answers in all three ways.  It matches there, up to an end, exactly if its tokens take the
characters in between, which are as many as there are tokens.  The search answers with an end
exactly if that is the end of the first occurrence, and with nothing exactly if there is none; the
end is the least end of all occurrences, and searching from a place further on leads to no end or
to one that is not before it.  The text ends with the block exactly if an occurrence ends there. -/
theorem answers_by_occurrences (fold : Bool) {tokens : List Token}
    (hsorted : ∀ t ∈ tokens, t.Sorted) {text : List Char} {pos pos' : Nat}
    (hpos : IsBoundary text pos) (hpos' : IsBoundary text pos') (hle : pos ≤ pos') :
    (∃ found, (ofTokens fold tokens).endAt fold text pos = .ok found ∧
        (∀ stop, found = some stop ↔
          ∃ word, Text.Between text pos stop word ∧ Fits fold tokens word) ∧
        ∀ stop word, found = some stop → Text.Between text pos stop word →
          word.length = tokens.length) ∧
      (∃ found found', (ofTokens fold tokens).firstEnd fold text pos = .ok found ∧
        (ofTokens fold tokens).firstEnd fold text pos' = .ok found' ∧
        (∀ stop, found = some stop ↔
          ∃ start, FirstOccurs (ofTokens fold tokens) fold text pos start stop) ∧
        (found = none ↔ ∀ start stop, ¬ Occurs (ofTokens fold tokens) fold text pos start stop) ∧
        (∀ stop start' stop', found = some stop →
          Occurs (ofTokens fold tokens) fold text pos start' stop' → stop ≤ stop') ∧
        ∀ stop', found' = some stop' → ∃ stop, found = some stop ∧ stop ≤ stop') ∧
      ∃ answer, (ofTokens fold tokens).endsText fold text pos = .ok answer ∧
        (answer = true ↔
          ∃ start, Occurs (ofTokens fold tokens) fold text pos start (Text.size text)) := by
  have hb : (ofTokens fold tokens).Sound fold := sound_ofTokens hsorted
  refine ⟨?_, ?_, hb.endsText_decides_occurs hpos⟩
  · obtain ⟨found, hend⟩ := hb.exists_endAt hpos
    have hfound : ∀ stop, found = some stop ↔
        ∃ word, Text.Between text pos stop word ∧ Fits fold tokens word := by
      intro stop
      obtain ⟨before, cs, rfl, rfl⟩ := Text.isBoundary_iff.mp hpos
      rw [← Except.ok.injEq, ← hend]
      exact hb.endAt_eq_some_iff before cs
    refine ⟨found, hend, hfound, ?_⟩
    intro stop word hstop hbetween
    obtain ⟨word', hbetween', hword'⟩ := (hfound stop).mp hstop
    rw [hbetween.unique hbetween']
    exact hword'.length_eq.symm
  · obtain ⟨found, hfound⟩ := hb.exists_firstEnd hpos
    obtain ⟨found', hfound'⟩ := hb.exists_firstEnd hpos'
    have hsome : ∀ stop, found = some stop ↔
        ∃ start, FirstOccurs (ofTokens fold tokens) fold text pos start stop := by
      intro stop
      rw [← Except.ok.injEq, ← hfound]
      exact hb.firstEnd_eq_some_iff hpos
    refine ⟨found, found', hfound, hfound', hsome, ?_, ?_, ?_⟩
    · rw [← Except.ok.injEq, ← hfound]
      exact hb.firstEnd_eq_none_iff hpos
    · intro stop start' stop' hstop hoccurs
      obtain ⟨start, hfirst⟩ := (hsome stop).mp hstop
      exact hfirst.stop_le hb hpos hoccurs
    · intro stop' hstop'
      rw [hstop'] at hfound'
      obtain ⟨stop, hstop, hstople⟩ := hb.exists_firstEnd_le hpos hpos' hle hfound'
      rw [hfound] at hstop
      cases hstop
      exact ⟨stop, rfl, hstople⟩

/-- Two occurrences that overlap.  From the place behind the first character on, the search ends
with the one that starts there, and from the next place on with the other one. -/
theorem answers_by_occurrences_overlapping :
    (∀ t ∈ [.char 'a', .set #['a', 'é']], Token.Sorted t) ∧
      IsBoundary ['x', 'A', 'a', 'é', '𐍈'] 1 ∧ IsBoundary ['x', 'A', 'a', 'é', '𐍈'] 2 ∧ 1 ≤ 2 ∧
      (∃ start, FirstOccurs (ofTokens true [.char 'a', .set #['a', 'é']]) true
        ['x', 'A', 'a', 'é', '𐍈'] 1 start 3) ∧
      (ofTokens true [.char 'a', .set #['a', 'é']]).firstEnd true ['x', 'A', 'a', 'é', '𐍈'] 2 =
        .ok (some 5) := by
  have hsorted : ∀ t ∈ [.char 'a', .set #['a', 'é']], Token.Sorted t := by decide
  have hplace : IsBoundary ['x', 'A', 'a', 'é', '𐍈'] 1 := by decide
  have hplace' : IsBoundary ['x', 'A', 'a', 'é', '𐍈'] 2 := by decide
  have hfound : (ofTokens true [.char 'a', .set #['a', 'é']]).firstEnd true
      ['x', 'A', 'a', 'é', '𐍈'] 1 = .ok (some 3) := by decide +kernel
  have hfound' : (ofTokens true [.char 'a', .set #['a', 'é']]).firstEnd true
      ['x', 'A', 'a', 'é', '𐍈'] 2 = .ok (some 5) := by decide +kernel
  obtain ⟨-, ⟨found, -, hfirst, -, hsome, -⟩, -⟩ :=
    answers_by_occurrences true hsorted hplace hplace' (by decide)
  rw [hfirst] at hfound
  cases hfound
  exact ⟨hsorted, hplace, hplace', by decide, (hsome 3).mp rfl, hfound'⟩

end Block

end LineGlob
