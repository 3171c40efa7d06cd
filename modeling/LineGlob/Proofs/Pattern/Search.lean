/-
Looking for a block as bytes is looking for it token by token.

A block that has its text at hand is compared, searched for and tested at the end of a
text as bytes.  Without that text it would be looked for as any other block is: one
character for each token, at one place after the other, and at the end where as many
characters are left as there are tokens.  The bytes know nothing of characters, and
still the two agree on every answer, ends included.

Neither way has to be followed here.  What a block answers has been described by its
tokens alone, at one place (`endAt_of_fits`), at the first one (`firstEnd_of_leftmost`)
and at the end (`endsText_decides`), and the descriptions hold with the text and without
it.  So two blocks with the same tokens cannot differ, and taking the text away leaves
the tokens as they are.
-/
import LineGlob.Proofs.Pattern.Block

namespace LineGlob

open Text (OffBoundary Nowhere Leftmost)

/-- Both come to an answer, and it is the same one. -/
def SameAnswer {α : Type} (first second : Except OffBoundary α) : Prop :=
  ∃ answer, first = .ok answer ∧ second = .ok answer

/-- What decides the same question gives the same answer. -/
theorem Decides.sameAnswer {check check' : Except OffBoundary Bool} {P : Prop}
    (h : Decides check P) (h' : Decides check' P) : SameAnswer check check' := by
  obtain ⟨answer, hcheck, hanswer⟩ := h
  obtain ⟨answer', hcheck', hanswer'⟩ := h'
  have heq : answer' = answer := Bool.eq_iff_iff.mpr (hanswer'.trans hanswer.symm)
  rw [heq] at hcheck'
  exact ⟨answer, hcheck, hcheck'⟩

namespace Block

/-! ### Answers depend on the tokens alone -/

section SameTokens

variable {fold : Bool} {b b' : Block}

theorem Sound.endAt_sameAnswer (hb : b.Sound fold) (hb' : b'.Sound fold)
    (htokens : b'.tokens = b.tokens) (before rest : List Char) :
    SameAnswer (b.endAt fold (before ++ rest) (Text.size before))
      (b'.endAt fold (before ++ rest) (Text.size before)) := by
  by_cases hstands : Stands fold b.tokens rest
  · obtain ⟨word, later, rfl, hword⟩ := hstands
    have hword' : Fits fold b'.tokens word := by rwa [htokens]
    exact ⟨_, hb.endAt_of_fits hword before later, hb'.endAt_of_fits hword' before later⟩
  · have hstands' : ¬ Stands fold b'.tokens rest := by rwa [htokens]
    exact ⟨none, hb.endAt_of_not_stands hstands before, hb'.endAt_of_not_stands hstands' before⟩

theorem Sound.firstEnd_sameAnswer (hb : b.Sound fold) (hb' : b'.Sound fold)
    (htokens : b'.tokens = b.tokens) (before cs : List Char) :
    SameAnswer (b.firstEnd fold (before ++ cs) (Text.size before))
      (b'.firstEnd fold (before ++ cs) (Text.size before)) := by
  rcases Text.nowhere_or_leftmost (Stands fold b.tokens) cs with
    hnowhere | ⟨gap, _, rfl, hleft⟩
  · have hnowhere' : Nowhere (Stands fold b'.tokens) cs := by rwa [htokens]
    exact ⟨none, hb.firstEnd_of_nowhere hnowhere before,
      hb'.firstEnd_of_nowhere hnowhere' before⟩
  · obtain ⟨word, rest, rfl, hword⟩ := hleft.here
    have hword' : Fits fold b'.tokens word := by rwa [htokens]
    have hleft' : Leftmost (Stands fold b'.tokens) gap (word ++ rest) := by rwa [htokens]
    exact ⟨_, hb.firstEnd_of_leftmost hleft hword before,
      hb'.firstEnd_of_leftmost hleft' hword' before⟩

theorem Sound.endsText_sameAnswer (hb : b.Sound fold) (hb' : b'.Sound fold)
    (htokens : b'.tokens = b.tokens) (before cs : List Char) :
    SameAnswer (b.endsText fold (before ++ cs) (Text.size before))
      (b'.endsText fold (before ++ cs) (Text.size before)) := by
  have hends' := hb'.endsText_decides before cs
  rw [htokens] at hends'
  exact (hb.endsText_decides before cs).sameAnswer hends'

end SameTokens

/-! ### With the text and without -/

/-- The block without its text.  It is looked for token by token. -/
def tokenwise (b : Block) : Block :=
  { b with literal := none }

theorem Sound.tokenwise {fold : Bool} {b : Block} (hb : b.Sound fold) :
    b.tokenwise.Sound fold := by
  refine ⟨hb.sorted, ?_⟩
  intro word hword
  cases hword

theorem sound_ofTokens_map_char (word : List Char) :
    (ofTokens false (word.map .char)).Sound false := by
  refine sound_ofTokens ?_
  intro t ht
  obtain ⟨c, -, rfl⟩ := List.mem_map.mp ht
  exact trivial

/-- **A block of characters gives the same answers with its text and without.**  It has its text at
hand, and a search of bytes reports the first place at which the needle stands.  At every place in a
text both ways then come to an answer: whether the block stands there and where it ends, where its
first occurrence ends, and whether the text ends with it. -/
theorem tokenwise_sameAnswer {word : List Char} (hword : word ≠ []) {text : List Char} {pos : Nat}
    (hpos : Text.IsBoundary text pos) :
    (ofTokens false (word.map .char)).literal = some word ∧
      (∀ (needle bytes : List UInt8) (i : Nat),
        Text.firstOccurrence? needle bytes = some i ↔ Text.FirstOccurrence needle bytes i) ∧
      SameAnswer ((ofTokens false (word.map .char)).endAt false text pos)
        ((ofTokens false (word.map .char)).tokenwise.endAt false text pos) ∧
      SameAnswer ((ofTokens false (word.map .char)).firstEnd false text pos)
        ((ofTokens false (word.map .char)).tokenwise.firstEnd false text pos) ∧
      SameAnswer ((ofTokens false (word.map .char)).endsText false text pos)
        ((ofTokens false (word.map .char)).tokenwise.endsText false text pos) := by
  have hsound := sound_ofTokens_map_char word
  have hsound' := hsound.tokenwise
  obtain ⟨before, rest, rfl, rfl⟩ := Text.isBoundary_iff.mp hpos
  refine ⟨?_, ?_, ?_, ?_, ?_⟩
  · have hne : word.map Token.char ≠ [] := by
      intro hnil
      exact hword (List.map_eq_nil_iff.mp hnil)
    exact literal_ofTokens_eq_some_iff.mpr ⟨rfl, hne, rfl⟩
  · intro needle bytes i
    exact Text.firstOccurrence?_eq_some_iff
  · exact hsound.endAt_sameAnswer hsound' rfl before rest
  · exact hsound.firstEnd_sameAnswer hsound' rfl before rest
  · exact hsound.endsText_sameAnswer hsound' rfl before rest

/-- A word that overlaps itself, in a text of characters of one, two and four bytes: from the place
behind the first character on, both ways find its first occurrence and end behind it. -/
theorem tokenwise_sameAnswer_overlapping :
    ['é', '𐍈', 'é'] ≠ [] ∧ Text.IsBoundary ['a', 'é', 'é', '𐍈', 'é', '𐍈', 'é'] 1 ∧
      (ofTokens false [.char 'é', .char '𐍈', .char 'é']).tokenwise.firstEnd false
        ['a', 'é', 'é', '𐍈', 'é', '𐍈', 'é'] 1 = .ok (some 11) := by
  have hword : ['é', '𐍈', 'é'] ≠ [] := by decide
  have hplace : Text.IsBoundary ['a', 'é', 'é', '𐍈', 'é', '𐍈', 'é'] 1 := by decide
  obtain ⟨-, -, -, ⟨found, hfast, hslow⟩, -⟩ := tokenwise_sameAnswer hword hplace
  have hfound : (ofTokens false (['é', '𐍈', 'é'].map .char)).firstEnd false
      ['a', 'é', 'é', '𐍈', 'é', '𐍈', 'é'] 1 = .ok (some 11) := by decide
  rw [hfound] at hfast
  cases hfast
  exact ⟨hword, hplace, hslow⟩

end Block

end LineGlob
