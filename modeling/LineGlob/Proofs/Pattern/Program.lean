/-
Matching without going back misses nothing.

A program's blocks cut a text into pieces: a word of the first block, and then for each
later block any gap followed by a word of that block.  `Gapped` describes what follows
the first word, block by block.

The loop commits to one place for each block, the leftmost one, and that the commitment
costs nothing is an exchange.  Take any way to cut the text, and look at its first block
only.  That block's word starts no earlier than the leftmost one, and all words of a
block have the same number of characters, so it ends no earlier either.  The rest of the
cut therefore lies within what the loop has left, and what lies between goes into the
next gap.  A next gap is there exactly when the block is not the last one, which is why
the last block is treated differently: it is looked for where the text ends.

The loop carries an offset, and the invariant is that it is the size of what has been
passed over.  Every offset that the blocks report is of that form, so no step can meet
one that is no place, and the whole match comes to an answer.
-/
import LineGlob.Pattern.Program
import LineGlob.Proofs.Pattern.Block

namespace LineGlob

open Text (OffBoundary Leftmost)

namespace Program

open Block (Fits Stands Ends)

variable {fold : Bool}

/-! ### Cutting a text -/

/-- A text that consists of a gap and a word for each run of tokens in turn. -/
inductive Gapped (fold : Bool) : List (List Token) → List Char → Prop
  | nil : Gapped fold [] []
  | cons {ts : List Token} {later : List (List Token)} {word rest : List Char} (gap : List Char)
      (hword : Fits fold ts word) (hrest : Gapped fold later rest) :
      Gapped fold (ts :: later) (gap ++ (word ++ rest))

theorem gapped_nil {cs : List Char} : Gapped fold [] cs ↔ cs = [] := by
  refine ⟨?_, ?_⟩
  · intro h
    cases h
    rfl
  · intro h
    subst h
    exact Gapped.nil

theorem gapped_cons {ts : List Token} {later : List (List Token)} {cs : List Char} :
    Gapped fold (ts :: later) cs ↔
      ∃ gap word rest, cs = gap ++ (word ++ rest) ∧ Fits fold ts word ∧ Gapped fold later rest := by
  refine ⟨?_, ?_⟩
  · intro h
    cases h with
    | cons gap hword hrest => exact ⟨gap, _, _, rfl, hword, hrest⟩
  · intro h
    obtain ⟨gap, word, rest, rfl, hword, hrest⟩ := h
    exact Gapped.cons gap hword hrest

theorem gapped_singleton {ts : List Token} {cs : List Char} :
    Gapped fold [ts] cs ↔ Ends fold ts cs := by
  rw [gapped_cons]
  refine ⟨?_, ?_⟩
  · intro h
    obtain ⟨gap, word, rest, rfl, hword, hrest⟩ := h
    rw [gapped_nil.mp hrest, List.append_nil]
    exact ⟨gap, word, rfl, hword⟩
  · intro h
    obtain ⟨gap, word, rfl, hword⟩ := h
    exact ⟨gap, word, [], by rw [List.append_nil], hword, Gapped.nil⟩

/-- What comes before a cut goes into its first gap. -/
theorem Gapped.prepend {ts : List Token} {later : List (List Token)} {cs : List Char}
    (h : Gapped fold (ts :: later) cs) (more : List Char) :
    Gapped fold (ts :: later) (more ++ cs) := by
  cases h with
  | cons gap hword hrest =>
      rw [← List.append_assoc]
      exact Gapped.cons (more ++ gap) hword hrest

/-- **Taking the leftmost word loses no cut**, provided another block follows. -/
theorem gapped_iff_of_leftmost {ts next : List Token} {later : List (List Token)}
    {gap word rest : List Char} (h : Leftmost (Stands fold ts) gap (word ++ rest))
    (hword : Fits fold ts word) :
    Gapped fold (ts :: next :: later) (gap ++ (word ++ rest)) ↔
      Gapped fold (next :: later) rest := by
  refine ⟨?_, ?_⟩
  · intro hcut
    obtain ⟨gap', word', rest', heq, hword', hrest'⟩ := gapped_cons.mp hcut
    have hgap : gap.length ≤ gap'.length := h.least gap' _ heq ⟨word', rest', rfl, hword'⟩
    have hlength := congrArg List.length heq
    simp only [List.length_append, ← hword.length_eq, ← hword'.length_eq] at hlength
    have hsuffix : rest' <:+ gap ++ (word ++ rest) := by
      rw [heq, ← List.append_assoc]
      exact List.suffix_append _ _
    have hsuffix' : rest <:+ gap ++ (word ++ rest) := by
      rw [← List.append_assoc]
      exact List.suffix_append _ _
    obtain ⟨more, rfl⟩ := List.suffix_of_suffix_length_le hsuffix hsuffix' (by omega)
    exact hrest'.prepend more
  · intro hcut
    exact Gapped.cons gap hword hcut

/-! ### Matching -/

theorem matchTail_of_found {text : List Char} {pos stop : Nat} {block next : Block}
    {later : List Block} (h : block.firstEnd fold text pos = .ok (some stop)) :
    matchTail fold text pos (block :: next :: later) =
      matchTail fold text stop (next :: later) := by
  show (block.firstEnd fold text pos >>= _) = _
  rw [h]
  rfl

theorem matchTail_of_absent {text : List Char} {pos : Nat} {block next : Block}
    {later : List Block} (h : block.firstEnd fold text pos = .ok none) :
    matchTail fold text pos (block :: next :: later) = .ok false := by
  show (block.firstEnd fold text pos >>= _) = _
  rw [h]
  rfl

theorem run_of_found {p : Program} {text : List Char} {stop : Nat}
    (h : p.head.endAt p.fold text 0 = .ok (some stop)) :
    p.run text = matchTail p.fold text stop p.tail := by
  show (p.head.endAt p.fold text 0 >>= _) = _
  rw [h]
  rfl

theorem run_of_absent {p : Program} {text : List Char}
    (h : p.head.endAt p.fold text 0 = .ok none) : p.run text = .ok false := by
  show (p.head.endAt p.fold text 0 >>= _) = _
  rw [h]
  rfl

/-- **The loop answers whether what is left can be cut for the blocks that are left.** -/
theorem matchTail_decides {blocks : List Block} (hsound : ∀ b ∈ blocks, b.Sound fold)
    (before cs : List Char) :
    Decides (matchTail fold (before ++ cs) (Text.size before) blocks)
      (Gapped fold (blocks.map Block.tokens) cs) := by
  induction blocks generalizing before cs with
  | nil =>
      refine ⟨_, rfl, ?_⟩
      rw [List.map_nil, gapped_nil, beq_iff_eq, Text.size_append, Nat.left_eq_add,
        Text.size_eq_zero]
  | cons block later ih =>
      have hblock := hsound block (by simp)
      cases later with
      | nil =>
          rw [List.map_cons, List.map_nil]
          exact (hblock.endsText_decides before cs).congr gapped_singleton.symm
      | cons next later =>
          rcases Text.nowhere_or_leftmost (Stands fold block.tokens) cs with
            hnowhere | ⟨gap, _, rfl, hleft⟩
          · refine ⟨false, matchTail_of_absent (hblock.firstEnd_of_nowhere hnowhere before), ?_⟩
            simp only [Bool.false_eq_true, false_iff]
            intro hcut
            obtain ⟨gap, word, rest, rfl, hword, -⟩ := gapped_cons.mp hcut
            exact hnowhere gap (word ++ rest) rfl ⟨word, rest, rfl, hword⟩
          · obtain ⟨word, rest, rfl, hword⟩ := hleft.here
            -- The loop goes on behind the leftmost word, whose end is again a place.
            have hnext := ih (fun b hb => hsound b (by simp [hb])) (before ++ (gap ++ word)) rest
            rw [List.append_assoc, List.append_assoc] at hnext
            rw [matchTail_of_found (hblock.firstEnd_of_leftmost hleft hword before)]
            exact hnext.congr (gapped_iff_of_leftmost hleft hword).symm

/-- The blocks of a program have their sets in order and their texts right. -/
def Sound (p : Program) : Prop :=
  ∀ b ∈ p.blocks, b.Sound p.fold

/-- A word of the first block, and the rest cut for the later ones. -/
def Cuts (p : Program) (text : List Char) : Prop :=
  ∃ word rest, text = word ++ rest ∧ Fits p.fold p.head.tokens word ∧
    Gapped p.fold (p.tail.map Block.tokens) rest

/-- **A program answers whether the text can be cut for its blocks.** -/
theorem Sound.run_decides {p : Program} (hsound : p.Sound) (text : List Char) :
    Decides (p.run text) (p.Cuts text) := by
  have hhead : p.head.Sound p.fold := hsound p.head (by simp [blocks])
  have htail : ∀ b ∈ p.tail, b.Sound p.fold := fun b hb => hsound b (by simp [blocks, hb])
  by_cases hstands : Stands p.fold p.head.tokens text
  · obtain ⟨word, rest, rfl, hword⟩ := hstands
    have hrest := matchTail_decides htail word rest
    have hrun : p.run (word ++ rest) =
        matchTail p.fold (word ++ rest) (Text.size word) p.tail :=
      run_of_found (hhead.endAt_of_fits hword [] rest)
    rw [hrun]
    refine hrest.congr ⟨fun hcut => ⟨word, rest, rfl, hword, hcut⟩, ?_⟩
    intro h
    obtain ⟨word', rest', heq, hword', hcut⟩ := h
    -- The first word is tied to the start, so there is no other choice for it.
    obtain ⟨rfl, rfl⟩ := List.append_inj heq (hword.length_eq.symm.trans hword'.length_eq)
    exact hcut
  · refine ⟨false, run_of_absent (hhead.endAt_of_not_stands hstands []), ?_⟩
    simp only [Bool.false_eq_true, false_iff]
    intro h
    obtain ⟨word, rest, rfl, hword, -⟩ := h
    exact hstands ⟨word, rest, rfl, hword⟩

/-- A match that comes to an answer gives that answer. -/
theorem isMatch_of_decides {p : Program} {text : List Char} {P : Prop}
    (h : Decides (p.run text) P) :
    p.run text = .ok (p.isMatch text) ∧ (p.isMatch text = true ↔ P) := by
  obtain ⟨answer, hrun, hanswer⟩ := h
  unfold isMatch
  rw [hrun]
  exact ⟨rfl, hanswer⟩

/-! ### Programs of any runs of tokens -/

/-- The program whose blocks are made of the given runs of tokens. -/
def ofRuns (fold : Bool) (first : List Token) (later : List (List Token)) : Program :=
  ⟨.ofTokens fold first, later.map (.ofTokens fold), fold⟩

theorem sound_ofRuns {first : List Token} {later : List (List Token)}
    (hsorted : ∀ ts ∈ first :: later, ∀ t ∈ ts, t.Sorted) : (ofRuns fold first later).Sound := by
  intro b hb
  obtain ⟨ts, hts, rfl⟩ : ∃ ts ∈ first :: later, Block.ofTokens fold ts = b := by
    simpa [blocks, ofRuns, eq_comm] using hb
  exact Block.sound_ofTokens (hsorted ts hts)

theorem cuts_ofRuns {first : List Token} {later : List (List Token)} {text : List Char} :
    (ofRuns fold first later).Cuts text ↔
      ∃ word rest, text = word ++ rest ∧ Fits fold first word ∧ Gapped fold later rest := by
  have htokens : (later.map (Block.ofTokens fold)).map Block.tokens = later := by
    rw [List.map_map]
    exact List.map_id later
  unfold Cuts ofRuns
  simp only [htokens]
  rfl

/-- A cut, with the gap and the word of each later block listed. -/
theorem gapped_iff_exists_pieces {later : List (List Token)} {cs : List Char} :
    Gapped fold later cs ↔ ∃ pieces : List (List Char × List Char),
      cs = pieces.flatMap (fun p => p.1 ++ p.2) ∧
        List.Forall₂ (fun ts p => Fits fold ts p.2) later pieces := by
  refine ⟨?_, ?_⟩
  · intro h
    induction h with
    | nil => exact ⟨[], rfl, List.Forall₂.nil⟩
    | @cons ts later word rest gap hword _ ih =>
        obtain ⟨pieces, rfl, hpieces⟩ := ih
        refine ⟨(gap, word) :: pieces, ?_, List.Forall₂.cons hword hpieces⟩
        rw [List.flatMap_cons, List.append_assoc]
  · intro h
    obtain ⟨pieces, rfl, hpieces⟩ := h
    induction hpieces with
    | nil => exact Gapped.nil
    | cons hword _ ih =>
        rw [List.flatMap_cons, List.append_assoc]
        exact Gapped.cons _ hword ih

/-- **Matching without going back is matching.**  A program of any runs of tokens matches a text
exactly if the text is, in some way, a word of the first run followed by a gap and a word for
each later run. -/
theorem isMatch_ofRuns_iff (fold : Bool) (first : List Token) (later : List (List Token))
    (hsorted : ∀ ts ∈ first :: later, ∀ t ∈ ts, t.Sorted) (text : List Char) :
    (ofRuns fold first later).run text = .ok ((ofRuns fold first later).isMatch text) ∧
      ((ofRuns fold first later).isMatch text = true ↔
        ∃ (word : List Char) (pieces : List (List Char × List Char)),
          text = word ++ pieces.flatMap (fun p => p.1 ++ p.2) ∧
            Fits fold first word ∧ List.Forall₂ (fun ts p => Fits fold ts p.2) later pieces) := by
  refine isMatch_of_decides (((sound_ofRuns hsorted).run_decides text).congr ?_)
  rw [cuts_ofRuns]
  refine ⟨?_, ?_⟩
  · intro h
    obtain ⟨word, rest, rfl, hword, hrest⟩ := h
    obtain ⟨pieces, rfl, hpieces⟩ := gapped_iff_exists_pieces.mp hrest
    exact ⟨word, pieces, rfl, hword, hpieces⟩
  · intro h
    obtain ⟨word, pieces, rfl, hword, hpieces⟩ := h
    exact ⟨word, _, rfl, hword, gapped_iff_exists_pieces.mpr ⟨pieces, rfl, hpieces⟩⟩

/-- Words that overlap themselves: the middle block stands at two places before the last one, and
this cut does not use the first of them. -/
theorem isMatch_ofRuns_overlapping :
    (∀ ts ∈ [[.any], [.char 'a', .set #['a', 'b']], [], [.char 'a', .char 'a']],
        ∀ t ∈ ts, Token.Sorted t) ∧
      (ofRuns true [.any] [[.char 'a', .set #['a', 'b']], [], [.char 'a', .char 'a']]).isMatch
        ['x', 'A', 'a', 'A', 'a', 'A'] = true := by
  have hsorted : ∀ ts ∈ [[.any], [.char 'a', .set #['a', 'b']], [], [.char 'a', .char 'a']],
      ∀ t ∈ ts, Token.Sorted t := by decide
  refine ⟨hsorted, (isMatch_ofRuns_iff true _ _ hsorted _).2.mpr ?_⟩
  exact ⟨['x'], [(['A'], ['a', 'A']), ([], []), ([], ['a', 'A'])], rfl, by decide, by decide⟩

end Program

end LineGlob
