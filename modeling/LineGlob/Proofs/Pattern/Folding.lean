/-
Ignoring letter case is matching some other way to write the text.

An insensitive pattern and a sensitive one of the same source share nothing but the
source: their tokens differ, their sets are sorted anew after folding, and only the
sensitive one looks for texts as bytes.  None of this shows in the languages.  Folding
replaces each character by one of the same fold, and an element that takes a character
up to folding takes, as it is, some character with the same fold.

So the texts that an insensitive pattern matches are the texts that a sensitive one
matches, each rewritten character by character within the folds.  The two texts have
the same number of characters; their sizes in bytes may differ.
-/
import LineGlob.Proofs.Pattern.Language

namespace LineGlob

/-- Texts of the same number of characters, with the same fold at each place. -/
def Text.SameFold (cs ds : List Char) : Prop :=
  List.Forall₂ (fun c d => Text.fold c = Text.fold d) cs ds

namespace Text

theorem SameFold.refl (cs : List Char) : SameFold cs cs :=
  List.forall₂_same.mpr fun _ _ => rfl

theorem sameFold_singleton {c : Char} {w : List Char} :
    SameFold [c] w ↔ ∃ d, fold c = fold d ∧ w = [d] := by
  refine ⟨fun h => ?_, fun h => ?_⟩
  · cases h with
    | cons hfold hrest =>
        cases hrest
        exact ⟨_, hfold, rfl⟩
  · obtain ⟨d, hfold, rfl⟩ := h
    exact List.Forall₂.cons hfold List.Forall₂.nil

/-- A text with the folds of two texts in a row splits into texts with the folds of each. -/
theorem sameFold_append_iff {cs ds w : List Char} :
    SameFold (cs ++ ds) w ↔ ∃ u v, w = u ++ v ∧ SameFold cs u ∧ SameFold ds v := by
  refine ⟨fun h => ?_, fun h => ?_⟩
  · induction cs generalizing w with
    | nil => exact ⟨[], w, rfl, List.Forall₂.nil, h⟩
    | cons c cs ih =>
        cases h with
        | cons hfold hrest =>
            obtain ⟨u, v, rfl, hu, hv⟩ := ih hrest
            exact ⟨_ :: u, v, rfl, List.Forall₂.cons hfold hu, hv⟩
  · obtain ⟨u, v, rfl, hu, hv⟩ := h
    exact List.rel_append hu hv

end Text

namespace Element

open Text (SameFold sameFold_singleton sameFold_append_iff)

/-- Up to folding an element stands for the texts that have the folds of one of its own. -/
theorem mem_language_true_iff {e : Element} {w : List Char} :
    w ∈ e.language true ↔ ∃ w' ∈ e.language false, SameFold w' w := by
  cases e with
  | star => exact ⟨fun _ => ⟨w, trivial, SameFold.refl w⟩, fun _ => trivial⟩
  | any =>
      refine ⟨fun h => ⟨w, h, SameFold.refl w⟩, fun h => ?_⟩
      obtain ⟨_, ⟨c, rfl⟩, hsame⟩ := h
      obtain ⟨d, -, rfl⟩ := sameFold_singleton.mp hsame
      exact ⟨d, rfl⟩
  | char c =>
      refine ⟨fun h => ⟨[c], ⟨c, rfl, rfl⟩, sameFold_singleton.mpr h⟩, fun h => ?_⟩
      obtain ⟨_, ⟨_, rfl, rfl⟩, hsame⟩ := h
      exact sameFold_singleton.mp hsame
  | set members =>
      refine ⟨fun h => ?_, fun h => ?_⟩
      · obtain ⟨c, hc, hsame⟩ := h
        exact ⟨[c], ⟨c, hc, c, rfl, rfl⟩, sameFold_singleton.mpr hsame⟩
      · obtain ⟨_, ⟨c, hc, _, rfl, rfl⟩, hsame⟩ := h
        exact ⟨c, hc, sameFold_singleton.mp hsame⟩

theorem mem_languageOf_true_iff {es : List Element} {w : List Char} :
    w ∈ languageOf true es ↔ ∃ w' ∈ languageOf false es, SameFold w' w := by
  induction es generalizing w with
  | nil =>
      refine ⟨fun h => ?_, fun h => ?_⟩
      · exact ⟨[], mem_languageOf_nil.mpr rfl, mem_languageOf_nil.mp h ▸ List.Forall₂.nil⟩
      · obtain ⟨w', hw', hsame⟩ := h
        rw [mem_languageOf_nil.mp hw'] at hsame
        exact mem_languageOf_nil.mpr (List.forall₂_nil_left_iff.mp hsame)
  | cons e es ih =>
      refine ⟨fun h => ?_, fun h => ?_⟩
      · obtain ⟨u, hu, v, hv, rfl⟩ := mem_languageOf_cons.mp h
        obtain ⟨u', hu', husame⟩ := mem_language_true_iff.mp hu
        obtain ⟨v', hv', hvsame⟩ := ih.mp hv
        exact ⟨u' ++ v', mem_languageOf_cons.mpr ⟨u', hu', v', hv', rfl⟩,
          sameFold_append_iff.mpr ⟨u, v, rfl, husame, hvsame⟩⟩
      · obtain ⟨w', hw', hsame⟩ := h
        obtain ⟨u', hu', v', hv', rfl⟩ := mem_languageOf_cons.mp hw'
        obtain ⟨u, v, rfl, husame, hvsame⟩ := sameFold_append_iff.mp hsame
        exact mem_languageOf_cons.mpr ⟨u, mem_language_true_iff.mpr ⟨u', hu', husame⟩, v,
          ih.mpr ⟨v', hv', hvsame⟩, rfl⟩

end Element

/-- **Ignoring letter case is matching up to folding, and nothing else.**  An insensitive pattern
matches a text exactly if the sensitive pattern of the same source matches some text that has the
same fold at each place. -/
theorem Pattern.isMatch_insensitive_iff (source text : String) :
    (ofSource source .insensitive).isMatch text = true ↔
      ∃ other : String, Text.SameFold other.toList text.toList ∧
        (ofSource source .sensitive).isMatch other = true := by
  rw [(isMatch_ofSource source .insensitive text).2]
  refine Element.mem_languageOf_true_iff.trans ⟨fun h => ?_, fun h => ?_⟩
  · obtain ⟨cs, hcs, hsame⟩ := h
    refine ⟨String.ofList cs, by rwa [String.toList_ofList], ?_⟩
    rw [(isMatch_ofSource source .sensitive _).2, String.toList_ofList]
    exact hcs
  · obtain ⟨other, hsame, hmatch⟩ := h
    exact ⟨other.toList, (isMatch_ofSource source .sensitive other).2.mp hmatch, hsame⟩

end LineGlob
