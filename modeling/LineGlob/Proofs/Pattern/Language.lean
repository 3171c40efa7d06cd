/-
A pattern matches the language of its source.

An element stands for a set of texts: a star for all of them, every other element for
texts of one character.  A list of elements stands for the texts that are put together
from one text of each, in order, so its language is a product.  Letter case enters in
one place only, `Text.SameLetter`.

The program of a list of elements arranges the same things differently.  What lies
between two stars becomes a block, and stars that touch become one, which is right
because all texts followed by all texts are all texts.  `mem_languageOf_iff` takes the
arrangement back, and with it the matcher of `Proofs/Pattern/Program` answers whether
the text is in the product.

Together with the grammar this is the whole way from a source to an answer, and
`Pattern.isMatch_iff_exists_reads` states it.
-/
import LineGlob.Pattern.Basic
import LineGlob.Proofs.Pattern.Grammar
import LineGlob.Proofs.Pattern.Program
import Mathlib.Computability.Language

namespace LineGlob

/-- Two characters count as one: they are equal, or have the same fold if letter case is
ignored. -/
def Text.SameLetter (fold : Bool) (c d : Char) : Prop :=
  if fold then Text.fold c = Text.fold d else c = d

theorem Text.sameLetter_iff {fold : Bool} {c d : Char} :
    Text.SameLetter fold c d ↔ Text.foldIf fold c = Text.foldIf fold d := by
  cases fold with
  | false => exact Iff.rfl
  | true => exact Iff.rfl

namespace Element

variable {fold : Bool}

/-! ### The texts that elements stand for -/

/-- The texts that an element stands for. -/
def language (fold : Bool) : Element → Language Char
  | star => ⊤
  | any => {w | ∃ c, w = [c]}
  | char c => {w | ∃ d, Text.SameLetter fold c d ∧ w = [d]}
  | set members => {w | ∃ c ∈ members, ∃ d, Text.SameLetter fold c d ∧ w = [d]}

/-- The texts that elements in a row stand for: one text of each, put together. -/
def languageOf (fold : Bool) (es : List Element) : Language Char :=
  (es.map (language fold)).prod

theorem mem_languageOf_nil {w : List Char} : w ∈ languageOf fold [] ↔ w = [] := by
  unfold languageOf
  rw [List.map_nil, List.prod_nil, Language.mem_one]

theorem mem_languageOf_cons {e : Element} {es : List Element} {w : List Char} :
    w ∈ languageOf fold (e :: es) ↔
      ∃ u ∈ e.language fold, ∃ v ∈ languageOf fold es, u ++ v = w := by
  unfold languageOf
  rw [List.map_cons, List.prod_cons, Language.mem_mul]

theorem languageOf_append (es fs : List Element) :
    languageOf fold (es ++ fs) = languageOf fold es * languageOf fold fs := by
  unfold languageOf
  rw [List.map_append, List.prod_append]

/-- What an element with a token stands for is what the token takes. -/
theorem mem_language_iff_takes {e : Element} {t : Token} (h : e.token? fold = some t)
    {w : List Char} : w ∈ e.language fold ↔ ∃ c, t.Takes fold c ∧ w = [c] := by
  cases e with
  | star => simp [token?] at h
  | any =>
      cases h
      refine ⟨?_, ?_⟩
      · intro hw
        obtain ⟨c, hc⟩ := hw
        exact ⟨c, trivial, hc⟩
      · intro hw
        obtain ⟨c, -, hc⟩ := hw
        exact ⟨c, hc⟩
  | char c =>
      cases h
      refine exists_congr fun d => and_congr_left fun _ => ?_
      rw [Text.sameLetter_iff, eq_comm]
      exact Iff.rfl
  | set members =>
      cases h
      simp only [← Text.map_foldIf, Token.takes_ofMembers, List.mem_map]
      refine ⟨?_, ?_⟩
      · intro hw
        obtain ⟨c, hc, d, hsame, hd⟩ := hw
        exact ⟨d, ⟨c, hc, Text.sameLetter_iff.mp hsame⟩, hd⟩
      · intro hw
        obtain ⟨d, ⟨c, hc, hsame⟩, hd⟩ := hw
        exact ⟨c, hc, d, Text.sameLetter_iff.mpr hsame, hd⟩

theorem sorted_of_token? {e : Element} {t : Token} (h : e.token? fold = some t) : t.Sorted := by
  cases e with
  | star => simp [token?] at h
  | any =>
      cases h
      exact trivial
  | char c =>
      cases h
      exact trivial
  | set members =>
      cases h
      exact Token.sorted_ofMembers _

theorem eq_star_of_token? {e : Element} (h : e.token? fold = none) : e = star := by
  cases e with
  | star => rfl
  | any => simp [token?] at h
  | char c => simp [token?] at h
  | set members => simp [token?] at h

theorem ne_star_of_token? {e : Element} {t : Token} (h : e.token? fold = some t) : e ≠ star := by
  intro he
  subst he
  cases h

/-- Stars that touch stand for what one of them stands for. -/
theorem languageOf_star_star (es : List Element) :
    languageOf fold (star :: star :: es) = languageOf fold (star :: es) := by
  refine Language.ext fun w => ⟨fun h => ?_, fun h => ?_⟩
  · obtain ⟨gap, -, later, hlater, rfl⟩ := mem_languageOf_cons.mp h
    obtain ⟨gap', -, rest, hrest, rfl⟩ := mem_languageOf_cons.mp hlater
    rw [← List.append_assoc]
    exact mem_languageOf_cons.mpr ⟨gap ++ gap', trivial, rest, hrest, rfl⟩
  · exact mem_languageOf_cons.mpr ⟨[], trivial, w, h, List.nil_append w⟩

end Element

/-! ### The blocks of a list of elements -/

namespace Program

open Block (Fits)
open Element (languageOf mem_languageOf_nil mem_languageOf_cons)

variable {fold : Bool}

/-- The sets of a program are in order. -/
theorem sorted_runs (fold : Bool) (es : List Element) :
    ∀ ts ∈ (runs fold es).1 :: (runs fold es).2, ∀ t ∈ ts, t.Sorted := by
  fun_induction runs fold es with
  | case1 => simp
  | case2 es ih => exact ih
  | case3 e es hstar first later hruns t htoken ih =>
      rw [hruns] at ih
      intro ts hts t' ht'
      rcases List.mem_cons.mp hts with rfl | hts
      · rcases List.mem_cons.mp ht' with rfl | ht'
        · exact Element.sorted_of_token? htoken
        · exact ih first (by simp) t' ht'
      · exact ih ts (by simp [hts]) t' ht'
  | case4 e es hstar first later hruns htoken ih =>
      rw [hruns] at ih
      intro ts hts t' ht'
      rcases List.mem_cons.mp hts with rfl | hts
      · simp at ht'
      · exact ih ts hts t' ht'

/-- **The blocks of elements cut the texts for which the elements stand.** -/
theorem mem_languageOf_iff {es : List Element} {w : List Char} :
    w ∈ languageOf fold es ↔
      ∃ word rest, w = word ++ rest ∧ Fits fold (runs fold es).1 word ∧
        Gapped fold (runs fold es).2 rest := by
  fun_induction runs fold es generalizing w with
  | case1 =>
      rw [mem_languageOf_nil]
      refine ⟨fun h => ⟨[], [], h, Block.fits_nil.mpr rfl, Gapped.nil⟩, fun h => ?_⟩
      obtain ⟨word, rest, rfl, hword, hrest⟩ := h
      rw [Block.fits_nil.mp hword, gapped_nil.mp hrest, List.append_nil]
  | case2 es ih =>
      rw [Element.languageOf_star_star]
      exact ih
  | case3 e es hstar first later hruns t htoken ih =>
      rw [hruns] at ih
      rw [mem_languageOf_cons]
      refine ⟨fun h => ?_, fun h => ?_⟩
      · obtain ⟨u, hu, v, hv, rfl⟩ := h
        obtain ⟨c, htakes, rfl⟩ := (Element.mem_language_iff_takes htoken).mp hu
        obtain ⟨word, rest, rfl, hword, hrest⟩ := ih.mp hv
        exact ⟨c :: word, rest, rfl, Block.fits_cons.mpr ⟨htakes, hword⟩, hrest⟩
      · obtain ⟨word, rest, rfl, hword, hrest⟩ := h
        cases hword with
        | @cons _ c _ word htakes hword =>
            have hc := (Element.mem_language_iff_takes htoken).mpr ⟨c, htakes, rfl⟩
            exact ⟨[c], hc, word ++ rest, ih.mpr ⟨word, rest, rfl, hword, hrest⟩, rfl⟩
  | case4 e es hstar first later hruns htoken ih =>
      rw [hruns] at ih
      rw [Element.eq_star_of_token? htoken, mem_languageOf_cons]
      refine ⟨fun h => ?_, fun h => ?_⟩
      · obtain ⟨gap, -, v, hv, rfl⟩ := h
        obtain ⟨word, rest, rfl, hword, hrest⟩ := ih.mp hv
        exact ⟨[], _, rfl, Block.fits_nil.mpr rfl, Gapped.cons gap hword hrest⟩
      · obtain ⟨word', rest', rfl, hword', hrest'⟩ := h
        obtain ⟨gap, word, rest, rfl, hword, hrest⟩ := gapped_cons.mp hrest'
        rw [Block.fits_nil.mp hword']
        exact ⟨gap, trivial, word ++ rest, ih.mpr ⟨word, rest, rfl, hword, hrest⟩, rfl⟩

/-- The program of elements answers whether the text is one for which they stand. -/
theorem run_ofElements_decides (fold : Bool) (es : List Element) (text : List Char) :
    Decides ((ofElements fold es).run text) (text ∈ languageOf fold es) :=
  ((sound_ofRuns (sorted_runs fold es)).run_decides text).congr
    (cuts_ofRuns.trans mem_languageOf_iff.symm)

end Program

/-! ### Patterns -/

namespace Pattern

open Element (Reads languageOf)

theorem isMatch_ofSource (source : String) (mode : CaseMode) (text : String) :
    (ofSource source mode).program.run text.toList = .ok ((ofSource source mode).isMatch text) ∧
      ((ofSource source mode).isMatch text = true ↔
        text.toList ∈ languageOf mode.folds (Element.ofSource source.toList)) :=
  Program.isMatch_of_decides (Program.run_ofElements_decides ..)

/-- A text of a product of languages is a text of the one followed by a text of the other. -/
theorem mem_mul_iff_exists_split {L M : Language Char} {text : String} :
    text.toList ∈ L * M ↔ ∃ u v : String, text = u ++ v ∧ u.toList ∈ L ∧ v.toList ∈ M := by
  rw [Language.mem_mul]
  constructor
  · intro h
    obtain ⟨u, hu, v, hv, heq⟩ := h
    refine ⟨String.ofList u, String.ofList v, ?_, ?_, ?_⟩
    · rw [← String.ofList_append, heq, String.ofList_toList]
    · rwa [String.toList_ofList]
    · rwa [String.toList_ofList]
  · intro h
    obtain ⟨u, v, rfl, hu, hv⟩ := h
    exact ⟨u.toList, hu, v.toList, hv, String.toList_append.symm⟩

/-- **A pattern matches the language that the grammar gives to its source.**  The grammar reads
every source in exactly one way, matching comes to an answer, and the answer is whether the text is
one for which the elements of that reading stand. -/
theorem isMatch_iff_exists_reads (source : String) (mode : CaseMode) (text : String) :
    (∃! es, Reads source.toList es) ∧
      (ofSource source mode).program.run text.toList =
        .ok ((ofSource source mode).isMatch text) ∧
      ((ofSource source mode).isMatch text = true ↔
        ∃ es, Reads source.toList es ∧ text.toList ∈ languageOf mode.folds es) := by
  obtain ⟨hrun, hmatch⟩ := isMatch_ofSource source mode text
  have hreads : ∀ es, Reads source.toList es ↔ es = Element.ofSource source.toList :=
    fun es => Element.reads_iff
  refine ⟨⟨_, (hreads _).mpr rfl, fun es h => (hreads es).mp h⟩, hrun, ?_⟩
  rw [hmatch]
  refine ⟨fun h => ⟨_, (hreads _).mpr rfl, h⟩, fun h => ?_⟩
  obtain ⟨es, hes, htext⟩ := h
  rwa [(hreads es).mp hes] at htext

end Pattern

end LineGlob
