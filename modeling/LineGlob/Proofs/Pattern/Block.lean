/-
Where a block is found.

`Fits` says that tokens spell a word, one character for each token, and `Stands` that
they do so at the start of a text.  The three ways of looking for a block are described
in these terms alone: `endAt` answers whether the block stands at a place, `firstEnd`
finds the first place at which it stands, and `endsText` answers whether the text can be
cut so that the last piece is a word of the block.

Every offset that goes in is the size of what precedes, and so is every offset that comes
out.  None of the three can then meet an offset that is no place, and whoever calls them
with a place gets an answer.

A block may carry the text that its tokens spell, and is then looked for as bytes.  The
descriptions are the same with and without the text; `Sound` holds what they need: sets
in order, and a text that is the tokens' own.
-/
import LineGlob.Pattern.Block
import LineGlob.Proofs.Pattern.Token
import LineGlob.Proofs.Text.Offset
import Mathlib.Data.List.Forall2

namespace LineGlob

open Text (OffBoundary Leftmost Nowhere)

/-- A check comes to an answer, and the answer is whether `P` holds. -/
def Decides (check : Except OffBoundary Bool) (P : Prop) : Prop :=
  ∃ answer, check = .ok answer ∧ (answer = true ↔ P)

theorem Decides.congr {check : Except OffBoundary Bool} {P Q : Prop} (h : Decides check P)
    (hPQ : P ↔ Q) : Decides check Q := by
  obtain ⟨answer, hcheck, hanswer⟩ := h
  exact ⟨answer, hcheck, hanswer.trans hPQ⟩

namespace Block

variable {fold : Bool} {b : Block}

/-! ### Words of a run of tokens -/

/-- The word has a character for each token, and each token takes its character. -/
def Fits (fold : Bool) (ts : List Token) (word : List Char) : Prop :=
  List.Forall₂ (Token.Takes fold) ts word

instance (fold : Bool) (ts : List Token) (word : List Char) : Decidable (Fits fold ts word) :=
  inferInstanceAs (Decidable (List.Forall₂ (Token.Takes fold) ts word))

/-- A word of the tokens starts the text. -/
def Stands (fold : Bool) (ts : List Token) (cs : List Char) : Prop :=
  ∃ word rest, cs = word ++ rest ∧ Fits fold ts word

@[simp] theorem fits_nil {word : List Char} : Fits fold [] word ↔ word = [] :=
  List.forall₂_nil_left_iff

@[simp] theorem fits_cons {t : Token} {ts : List Token} {c : Char} {word : List Char} :
    Fits fold (t :: ts) (c :: word) ↔ t.Takes fold c ∧ Fits fold ts word :=
  List.forall₂_cons

theorem Fits.length_eq {ts : List Token} {word : List Char} (h : Fits fold ts word) :
    ts.length = word.length :=
  List.Forall₂.length_eq h

theorem stands_nil (cs : List Char) : Stands fold [] cs :=
  ⟨[], cs, rfl, fits_nil.mpr rfl⟩

theorem stands_cons {t : Token} {ts : List Token} {c : Char} {cs : List Char} :
    Stands fold (t :: ts) (c :: cs) ↔ t.Takes fold c ∧ Stands fold ts cs := by
  refine ⟨?_, ?_⟩
  · intro h
    obtain ⟨word, rest, heq, hword⟩ := h
    cases hword with
    | cons htakes hfits =>
        rw [List.cons_append, List.cons.injEq] at heq
        obtain ⟨rfl, rfl⟩ := heq
        exact ⟨htakes, _, _, rfl, hfits⟩
  · intro h
    obtain ⟨htakes, word, rest, rfl, hfits⟩ := h
    exact ⟨c :: word, rest, rfl, fits_cons.mpr ⟨htakes, hfits⟩⟩

/-- Tokens that are plain characters spell one word, if characters are compared as they are. -/
theorem fits_map_char {word cs : List Char} : Fits false (word.map .char) cs ↔ cs = word := by
  unfold Fits
  rw [List.forall₂_map_left_iff]
  have heq : (fun c d => (Token.char c).Takes false d) = Eq := by
    funext c d
    exact propext eq_comm
  rw [heq, List.forall₂_eq_eq_eq, eq_comm]

theorem stands_map_char {word cs : List Char} :
    Stands false (word.map .char) cs ↔ word <+: cs := by
  refine ⟨?_, ?_⟩
  · intro h
    obtain ⟨_, rest, rfl, hword⟩ := h
    rw [fits_map_char.mp hword]
    exact List.prefix_append _ _
  · intro h
    obtain ⟨rest, rfl⟩ := h
    exact ⟨word, rest, rfl, fits_map_char.mpr rfl⟩

theorem take?_of_fits {ts : List Token} {word : List Char} (hsorted : ∀ t ∈ ts, t.Sorted)
    (hword : Fits fold ts word) (rest : List Char) (pos : Nat) :
    take? fold ts (word ++ rest) pos = some (pos + Text.size word) := by
  induction hword generalizing pos with
  | nil => rfl
  | @cons t c ts word htakes hfits ih =>
      have hadmits := (Token.admits_iff (hsorted t (by simp)) fold c).mpr htakes
      rw [List.cons_append, take?, if_pos hadmits, ih fun t' ht' => hsorted t' (by simp [ht']),
        Text.size_cons, Nat.add_assoc]

theorem take?_of_not_stands {ts : List Token} {cs : List Char} (hsorted : ∀ t ∈ ts, t.Sorted)
    (h : ¬ Stands fold ts cs) (pos : Nat) : take? fold ts cs pos = none := by
  induction ts generalizing cs pos with
  | nil => exact absurd (stands_nil cs) h
  | cons t ts ih =>
      cases cs with
      | nil => rfl
      | cons c cs =>
          rw [stands_cons, ← Token.admits_iff (hsorted t (by simp)) fold c, not_and] at h
          rw [take?]
          split
          · rename_i hadmits
            exact ih (fun t' ht' => hsorted t' (by simp [ht'])) (h hadmits) _
          · rfl

/-! ### Blocks whose text is their own -/

/-- The sets of a block are in order, and its text, if it has one, is what its tokens spell. -/
structure Sound (fold : Bool) (b : Block) : Prop where
  sorted : ∀ t ∈ b.tokens, t.Sorted
  literal : ∀ word, b.literal = some word → fold = false ∧ word ≠ [] ∧ b.tokens = word.map .char

theorem eq_map_char_of_spelled? {ts : List Token} {word : List Char}
    (h : spelled? ts = some word) : ts = word.map .char := by
  fun_induction spelled? ts generalizing word with
  | case1 => cases h; rfl
  | case2 c ts ih =>
      obtain ⟨later, hlater, rfl⟩ := Option.map_eq_some_iff.mp h
      rw [ih hlater, List.map_cons]
  | case3 => simp at h

theorem spelled?_map_char (word : List Char) : spelled? (word.map .char) = some word := by
  induction word with
  | nil => rfl
  | cons c word ih => rw [List.map_cons, spelled?, ih, Option.map_some]

/-- **The text at hand is what the tokens spell**, where characters are compared as they are and
there is anything to compare. -/
theorem literal_ofTokens_eq_some_iff {ts : List Token} {word : List Char} :
    (ofTokens fold ts).literal = some word ↔ fold = false ∧ ts ≠ [] ∧ ts = word.map .char := by
  unfold ofTokens
  simp only
  split
  · rename_i hnone
    rw [Bool.or_eq_true, List.isEmpty_iff] at hnone
    constructor
    · intro h
      cases h
    · intro h
      obtain ⟨hfold, hne, -⟩ := h
      rcases hnone with htrue | hnil
      · rw [hfold] at htrue
        cases htrue
      · exact absurd hnil hne
  · rename_i hplain
    rw [Bool.or_eq_true, List.isEmpty_iff, not_or, Bool.not_eq_true] at hplain
    constructor
    · intro h
      exact ⟨hplain.1, hplain.2, eq_map_char_of_spelled? h⟩
    · intro h
      obtain ⟨-, -, hspelled⟩ := h
      rw [hspelled]
      exact spelled?_map_char word

theorem sound_ofTokens {ts : List Token} (hsorted : ∀ t ∈ ts, t.Sorted) :
    (ofTokens fold ts).Sound fold := by
  refine ⟨hsorted, fun word hword => ?_⟩
  obtain ⟨hfold, hne, heq⟩ := literal_ofTokens_eq_some_iff.mp hword
  refine ⟨hfold, fun hnil => hne ?_, heq⟩
  rw [heq, hnil, List.map_nil]

theorem Sound.literal_eq_none (hb : b.Sound fold) (htokens : b.tokens = []) :
    b.literal = none := by
  cases hliteral : b.literal with
  | none => rfl
  | some word =>
      obtain ⟨-, hne, heq⟩ := hb.literal word hliteral
      rw [htokens] at heq
      exact absurd (List.map_eq_nil_iff.mp heq.symm) hne

/-- A block that carries a text stands where that text does. -/
theorem Sound.stands_eq_prefix (hb : b.Sound fold) {word : List Char}
    (hliteral : b.literal = some word) :
    fold = false ∧ Stands fold b.tokens = (word <+: ·) := by
  obtain ⟨rfl, -, heq⟩ := hb.literal word hliteral
  refine ⟨rfl, ?_⟩
  funext cs
  rw [heq]
  exact propext stands_map_char

/-! ### At one place -/

variable {before gap word rest cs : List Char}

theorem endAt_tokens (hliteral : b.literal = none) (before rest : List Char) :
    b.endAt fold (before ++ rest) (Text.size before) =
      .ok (take? fold b.tokens rest (Text.size before)) := by
  unfold endAt endAtM
  rw [Text.slicer_slice_append_size, hliteral]
  rfl

theorem endAt_literal (hliteral : b.literal = some word) (before rest : List Char) :
    b.endAt fold (before ++ rest) (Text.size before) =
      .ok (if word <+: rest then some (Text.size (before ++ word)) else none) := by
  unfold endAt endAtM
  rw [Text.slicer_slice_append_size, hliteral]
  show (if _ then _ else _) = _
  simp only [List.isPrefixOf_iff_prefix, Text.encode_prefix_iff, Text.size_append]
  split <;> rfl

/-- **Where a word of the block stands, the block ends with it.** -/
theorem Sound.endAt_of_fits (hb : b.Sound fold) (hword : Fits fold b.tokens word)
    (before rest : List Char) :
    b.endAt fold (before ++ (word ++ rest)) (Text.size before) =
      .ok (some (Text.size (before ++ word))) := by
  cases hliteral : b.literal with
  | none =>
      rw [endAt_tokens hliteral, take?_of_fits hb.sorted hword, Text.size_append]
  | some spelled =>
      obtain ⟨rfl, -, htokens⟩ := hb.literal spelled hliteral
      rw [htokens, fits_map_char] at hword
      rw [endAt_literal hliteral, hword, if_pos (List.prefix_append _ _)]

/-- **Where no word of the block stands, the block does not match.** -/
theorem Sound.endAt_of_not_stands (hb : b.Sound fold) (h : ¬ Stands fold b.tokens rest)
    (before : List Char) :
    b.endAt fold (before ++ rest) (Text.size before) = .ok none := by
  cases hliteral : b.literal with
  | none => rw [endAt_tokens hliteral, take?_of_not_stands hb.sorted h]
  | some spelled =>
      obtain ⟨rfl, hstands⟩ := hb.stands_eq_prefix hliteral
      rw [hstands] at h
      rw [endAt_literal hliteral, if_neg h]

/-! ### At the first place -/

theorem firstEnd_nil (hb : b.Sound fold) (htokens : b.tokens = []) (text : List Char) (pos : Nat) :
    b.firstEnd fold text pos = .ok (some pos) := by
  unfold firstEnd firstEndM
  rw [hb.literal_eq_none htokens, htokens]
  rfl

theorem firstEnd_literal (hliteral : b.literal = some word) (before cs : List Char) :
    b.firstEnd fold (before ++ cs) (Text.size before) =
      .ok ((Text.firstOccurrence? (Text.encode word) (Text.encode cs)).map
        (Text.size before + · + Text.size word)) := by
  unfold firstEnd firstEndM
  rw [hliteral]
  simp only [Text.slicer_slice_append_size]
  rfl

theorem firstEnd_tokens (hliteral : b.literal = none) (htokens : b.tokens ≠ [])
    (before cs : List Char) :
    b.firstEnd fold (before ++ cs) (Text.size before) =
      b.firstMatch fold (before ++ cs) (Text.starts (Text.size before) cs) := by
  unfold firstEnd firstEndM
  rw [hliteral]
  simp only [Text.slicer_slice_append_size, List.isEmpty_iff, if_neg htokens]
  rfl

theorem firstMatch_of_some {text : List Char} {pos stop : Nat}
    (h : b.endAt fold text pos = .ok (some stop)) (later : List Nat) :
    b.firstMatch fold text (pos :: later) = .ok (some stop) := by
  show (b.endAt fold text pos >>= _) = _
  rw [h]
  rfl

theorem firstMatch_of_none {text : List Char} {pos : Nat} (h : b.endAt fold text pos = .ok none)
    (later : List Nat) :
    b.firstMatch fold text (pos :: later) = b.firstMatch fold text later := by
  show (b.endAt fold text pos >>= _) = _
  rw [h]
  rfl

/-- Passing over one character of a text leads to the next place in the same text. -/
theorem starts_cons (before : List Char) (c : Char) (cs : List Char) :
    Text.starts (Text.size before) (c :: cs) =
      Text.size before :: Text.starts (Text.size (before ++ [c])) cs := by
  rw [Text.starts, Text.size_append, Text.size_cons, Text.size_nil, Nat.add_zero]

theorem Sound.firstMatch_of_leftmost (hb : b.Sound fold)
    (h : Leftmost (Stands fold b.tokens) gap (word ++ rest)) (hword : Fits fold b.tokens word)
    (hne : b.tokens ≠ []) (before : List Char) :
    b.firstMatch fold (before ++ (gap ++ (word ++ rest)))
        (Text.starts (Text.size before) (gap ++ (word ++ rest))) =
      .ok (some (Text.size (before ++ (gap ++ word)))) := by
  induction gap generalizing before with
  | nil =>
      have hend := hb.endAt_of_fits hword before rest
      cases word with
      | nil => exact absurd (List.length_eq_zero_iff.mp hword.length_eq) hne
      | cons c word =>
          rw [List.nil_append, List.cons_append, starts_cons]
          exact firstMatch_of_some hend _
  | cons c gap ih =>
      have hnext := ih h.tail (before ++ [c])
      rw [List.append_assoc, List.append_assoc] at hnext
      rw [List.cons_append, starts_cons,
        firstMatch_of_none (hb.endAt_of_not_stands h.not_here before)]
      exact hnext

theorem Sound.firstMatch_of_nowhere (hb : b.Sound fold) (h : Nowhere (Stands fold b.tokens) cs)
    (before : List Char) :
    b.firstMatch fold (before ++ cs) (Text.starts (Text.size before) cs) = .ok none := by
  induction cs generalizing before with
  | nil => rfl
  | cons c cs ih =>
      have hnext := ih h.tail (before ++ [c])
      rw [List.append_assoc] at hnext
      rw [starts_cons, firstMatch_of_none (hb.endAt_of_not_stands h.not_here before)]
      exact hnext

/-- **The block is found at the first place at which it stands.** -/
theorem Sound.firstEnd_of_leftmost (hb : b.Sound fold)
    (h : Leftmost (Stands fold b.tokens) gap (word ++ rest)) (hword : Fits fold b.tokens word)
    (before : List Char) :
    b.firstEnd fold (before ++ (gap ++ (word ++ rest))) (Text.size before) =
      .ok (some (Text.size (before ++ (gap ++ word)))) := by
  by_cases htokens : b.tokens = []
  · -- No tokens stand everywhere, so nothing is passed over.
    have hgap := h.least [] _ rfl (htokens ▸ stands_nil _)
    rw [htokens, fits_nil] at hword
    rw [List.length_nil, Nat.le_zero, List.length_eq_zero_iff] at hgap
    rw [firstEnd_nil hb htokens, hword, hgap, List.append_nil, List.append_nil]
  · cases hliteral : b.literal with
    | none =>
        rw [firstEnd_tokens hliteral htokens]
        exact hb.firstMatch_of_leftmost h hword htokens before
    | some spelled =>
        obtain ⟨rfl, hstands⟩ := hb.stands_eq_prefix hliteral
        obtain ⟨-, -, heq⟩ := hb.literal spelled hliteral
        rw [heq, fits_map_char] at hword
        rw [hstands] at h
        rw [firstEnd_literal hliteral, Text.firstOccurrence?_of_leftmost h, hword,
          Text.size_append, Text.size_append, ← Nat.add_assoc]
        rfl

/-- **A block that stands nowhere is not found.** -/
theorem Sound.firstEnd_of_nowhere (hb : b.Sound fold) (h : Nowhere (Stands fold b.tokens) cs)
    (before : List Char) :
    b.firstEnd fold (before ++ cs) (Text.size before) = .ok none := by
  have htokens : b.tokens ≠ [] := fun hnil => h.not_here (hnil ▸ stands_nil cs)
  cases hliteral : b.literal with
  | none =>
      rw [firstEnd_tokens hliteral htokens]
      exact hb.firstMatch_of_nowhere h before
  | some spelled =>
      obtain ⟨rfl, hstands⟩ := hb.stands_eq_prefix hliteral
      rw [hstands] at h
      rw [firstEnd_literal hliteral, Text.firstOccurrence?_of_nowhere h]
      rfl

/-! ### At the end -/

/-- A word of the tokens ends the text. -/
def Ends (fold : Bool) (ts : List Token) (cs : List Char) : Prop :=
  ∃ gap word, cs = gap ++ word ∧ Fits fold ts word

theorem ends_iff_fits {ts : List Token} (hlen : word.length = ts.length) :
    Ends fold ts (gap ++ word) ↔ Fits fold ts word := by
  refine ⟨?_, ?_⟩
  · intro h
    obtain ⟨gap', word', heq, hword'⟩ := h
    obtain ⟨-, rfl⟩ := List.append_inj' heq (hlen.trans hword'.length_eq)
    exact hword'
  · intro hword
    exact ⟨gap, word, rfl, hword⟩

theorem fits_of_stands {ts : List Token} (hlen : word.length = ts.length)
    (h : Stands fold ts word) : Fits fold ts word := by
  obtain ⟨word', rest, rfl, hword'⟩ := h
  have hrest : rest = [] := by
    rw [List.length_append, hword'.length_eq] at hlen
    exact List.length_eq_zero_iff.mp (by omega)
  rwa [hrest, List.append_nil]

theorem exists_append_of_length_le {n : Nat} (h : n ≤ cs.length) :
    ∃ gap word, cs = gap ++ word ∧ word.length = n := by
  refine ⟨cs.take (cs.length - n), cs.drop (cs.length - n), (List.take_append_drop ..).symm, ?_⟩
  rw [List.length_drop]
  omega

theorem ends_map_char {word cs : List Char} : Ends false (word.map .char) cs ↔ word <:+ cs := by
  refine ⟨?_, ?_⟩
  · intro h
    obtain ⟨gap, word', rfl, hword'⟩ := h
    rw [fits_map_char.mp hword']
    exact List.suffix_append _ _
  · intro h
    obtain ⟨gap, rfl⟩ := h
    exact ⟨gap, word, rfl, fits_map_char.mpr rfl⟩

theorem endsText_literal (hliteral : b.literal = some word) (before cs : List Char) :
    b.endsText fold (before ++ cs) (Text.size before) =
      .ok ((Text.encode word).isSuffixOf (Text.encode cs)) := by
  unfold endsText endsTextM
  rw [Text.slicer_slice_append_size, hliteral]
  rfl

theorem endsText_nil (hb : b.Sound fold) (htokens : b.tokens = []) (before cs : List Char) :
    b.endsText fold (before ++ cs) (Text.size before) = .ok true := by
  unfold endsText endsTextM
  rw [Text.slicer_slice_append_size, hb.literal_eq_none htokens, htokens]
  rfl

/-- Tokens are tried where as many characters are left as there are tokens. -/
theorem endsText_tokens (hliteral : b.literal = none) {t : Token} {ts : List Token}
    (htokens : b.tokens = t :: ts) (before cs : List Char) :
    b.endsText fold (before ++ cs) (Text.size before) =
      match (Text.starts (Text.size before) cs).reverse[ts.length]? with
      | some start =>
        (b.endAt fold (before ++ cs) start).map (· == some (Text.size (before ++ cs)))
      | none => .ok false := by
  unfold endsText endsTextM
  rw [Text.slicer_slice_append_size, hliteral, htokens]
  rfl

theorem Sound.endsText_tokens_decides (hb : b.Sound fold) (hliteral : b.literal = none)
    {t : Token} {ts : List Token} (htokens : b.tokens = t :: ts) (before cs : List Char) :
    Decides (b.endsText fold (before ++ cs) (Text.size before)) (Ends fold b.tokens cs) := by
  have hlength : b.tokens.length = ts.length + 1 := by rw [htokens, List.length_cons]
  rw [endsText_tokens hliteral htokens]
  by_cases hlong : ts.length + 1 ≤ cs.length
  · obtain ⟨gap, word, rfl, hword⟩ := exists_append_of_length_le hlong
    obtain ⟨c, word, rfl⟩ := List.exists_cons_of_length_eq_add_one hword
    rw [List.length_cons, Nat.add_right_cancel_iff] at hword
    rw [← hword, Text.starts_reverse_getElem?, ← Text.size_append, ← List.append_assoc]
    refine Decides.congr ?_ (ends_iff_fits (by rw [hlength, ← hword, List.length_cons])).symm
    by_cases hfits : Fits fold b.tokens (c :: word)
    · have hend := hb.endAt_of_fits hfits (before ++ gap) []
      rw [List.append_nil] at hend
      refine ⟨true, ?_, by simp [hfits]⟩
      simp only [hend, Except.map, beq_self_eq_true]
    · have hstands : ¬ Stands fold b.tokens (c :: word) := fun hstands =>
        hfits (fits_of_stands (by rw [hlength, ← hword, List.length_cons]) hstands)
      refine ⟨false, ?_, by simp [hfits]⟩
      simp only [hb.endAt_of_not_stands hstands (before ++ gap), Except.map]
      rfl
  · have hnone : (Text.starts (Text.size before) cs).reverse[ts.length]? = none := by
      rw [List.getElem?_eq_none_iff, List.length_reverse, Text.length_starts]
      omega
    rw [hnone]
    refine ⟨false, rfl, ⟨fun h => absurd h (by simp), ?_⟩⟩
    intro h
    obtain ⟨gap, word, rfl, hword⟩ := h
    have hle := hword.length_eq
    rw [List.length_append] at hlong
    omega

/-- **The text ends with the block exactly if one of the block's words ends it.** -/
theorem Sound.endsText_decides (hb : b.Sound fold) (before cs : List Char) :
    Decides (b.endsText fold (before ++ cs) (Text.size before)) (Ends fold b.tokens cs) := by
  cases hliteral : b.literal with
  | some spelled =>
      obtain ⟨rfl, -, heq⟩ := hb.literal spelled hliteral
      refine ⟨_, endsText_literal hliteral before cs, ?_⟩
      rw [heq, ends_map_char, List.isSuffixOf_iff_suffix, Text.encode_suffix_iff]
  | none =>
      cases htokens : b.tokens with
      | nil =>
          refine ⟨true, endsText_nil hb htokens before cs, ?_⟩
          simp only [true_iff]
          exact ⟨cs, [], (List.append_nil cs).symm, fits_nil.mpr rfl⟩
      | cons t ts =>
          rw [← htokens]
          exact hb.endsText_tokens_decides hliteral htokens before cs

end Block

end LineGlob
