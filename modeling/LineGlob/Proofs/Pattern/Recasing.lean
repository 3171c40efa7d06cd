/-
Letter case never matters to an insensitive pattern.

Rewriting letters of a source in another case changes no fold, and the folds are all that
an insensitive pattern keeps of its source: with the same folds comes the same program.
What stands between the two is the reader, which looks at the characters themselves.  It
tells apart only the characters with a meaning of their own and the closing bracket.
None of them is a letter, and no letter becomes one of them, so both sources are read
alike: the same elements in the same order, with members and characters that differ in
case alone.

The text is compared by folds, so rewriting its letters changes nothing either.
-/
import LineGlob.Proofs.Pattern.Quoting
import LineGlob.Proofs.Text.Fold

namespace LineGlob

open Text (fold_eq_mark_iff)

/-! ### Sources with the same folds -/

namespace Text

theorem SameFold.symm {cs ds : List Char} (h : SameFold cs ds) : SameFold ds cs := by
  refine (List.forall₂_iff_get.mpr ⟨h.length_eq.symm, fun i hi hi' => ?_⟩)
  exact ((List.forall₂_iff_get.mp h).2 i hi' hi).symm

theorem SameFold.trans {cs ds es : List Char} (h : SameFold cs ds) (h' : SameFold ds es) :
    SameFold cs es := by
  induction h generalizing es with
  | nil => exact h'
  | cons hfold _ ih =>
      cases h' with
      | cons hfold' hrest' => exact List.Forall₂.cons (hfold.trans hfold') (ih hrest')

theorem SameFold.map_fold {cs ds : List Char} (h : SameFold cs ds) : cs.map fold = ds.map fold := by
  induction h with
  | nil => rfl
  | cons hfold _ ih => rw [List.map_cons, List.map_cons, hfold, ih]

/-- A mark has the fold of no other character. -/
theorem eq_mark_of_fold_eq {c m : Char} (hm : m ∈ marks) (h : fold m = fold c) : c = m := by
  rw [(fold_eq_mark_iff hm).mpr rfl] at h
  exact (fold_eq_mark_iff hm).mp h.symm

end Text

open Text (SameFold eq_mark_of_fold_eq marks)

/-- Two bodies of sets that differ in letter case alone. -/
structure SetBody.SameFold (b b' : SetBody) : Prop where
  members : Text.SameFold b.members b'.members
  rest : Text.SameFold b.rest b'.rest

/-- Two elements that differ in letter case alone. -/
inductive Element.SameFold : Element → Element → Prop
  | star : Element.SameFold star star
  | any : Element.SameFold any any
  | char {c d : Char} (h : Text.fold c = Text.fold d) : Element.SameFold (char c) (char d)
  | set {cs ds : List Char} (h : Text.SameFold cs ds) : Element.SameFold (set cs) (set ds)

namespace SetBody

/-- The scan of a body sees letters only as members. -/
theorem scan_sameFold {members members' source source' : List Char}
    {fallback fallback' : Option SetBody} (hmembers : Text.SameFold members members')
    (hfallback : Option.Rel SetBody.SameFold fallback fallback')
    (hsource : Text.SameFold source source') :
    Option.Rel SetBody.SameFold (scan members fallback source) (scan members' fallback' source') := by
  fun_induction scan members fallback source generalizing members' fallback' source' with
  | case1 members fallback =>
      cases hsource
      exact hfallback
  | case2 members fallback rest ih =>
      cases hsource with
      | cons hslash hsource =>
          cases hsource with
          | cons hclose hrest =>
              obtain rfl := eq_mark_of_fold_eq (by decide) hslash
              obtain rfl := eq_mark_of_fold_eq (by decide) hclose
              rw [scan]
              refine ih (List.Forall₂.cons rfl hmembers) ?_ hrest
              refine Option.Rel.some ⟨?_, hrest⟩
              exact List.forall₂_reverse_iff.mpr (List.Forall₂.cons rfl hmembers)
  | case3 members fallback rest hempty =>
      cases hsource with
      | cons hclose hrest =>
          obtain rfl := eq_mark_of_fold_eq (by decide) hclose
          rw [List.isEmpty_iff] at hempty
          subst hempty
          cases hmembers
          exact Option.Rel.none
  | case4 members fallback rest hempty =>
      cases hsource with
      | cons hclose hrest =>
          obtain rfl := eq_mark_of_fold_eq (by decide) hclose
          cases hmembers with
          | nil => exact absurd rfl hempty
          | cons hfold hlater =>
              refine Option.Rel.some ⟨?_, hrest⟩
              exact List.forall₂_reverse_iff.mpr (List.Forall₂.cons hfold hlater)
  | case5 members fallback c rest hpair hclose ih =>
      cases hsource with
      | @cons _ d _ rest' hfold hrest =>
          -- what is no closing bracket, and no backslash before one, is neither in the other source
          have hclose' : d ≠ ']' := by
            rintro rfl
            exact hclose (eq_mark_of_fold_eq (by decide) hfold.symm)
          have hpair' : ∀ later, d = '\\' → rest' ≠ ']' :: later := by
            rintro later rfl rfl
            cases hrest with
            | cons hbracket _ =>
                obtain rfl := eq_mark_of_fold_eq (by decide) hfold.symm
                obtain rfl := eq_mark_of_fold_eq (by decide) hbracket.symm
                exact hpair _ rfl rfl
          rw [scan]
          · exact ih (List.Forall₂.cons hfold hmembers) hfallback hrest
          · exact hpair'
          · exact hclose'

theorem read?_sameFold {source source' : List Char} (h : Text.SameFold source source') :
    Option.Rel SetBody.SameFold (read? source) (read? source') :=
  scan_sameFold List.Forall₂.nil Option.Rel.none h

end SetBody

namespace Element

theorem mem_marks_of_isSpecial {c : Char} (h : isSpecial c = true) : c ∈ marks := by
  rw [isSpecial_iff] at h
  exact List.mem_append_left [']'] h

theorem isSpecial_iff_of_fold_eq {c d : Char} (h : Text.fold c = Text.fold d) :
    isSpecial c = true ↔ isSpecial d = true := by
  constructor
  · intro hc
    rwa [eq_mark_of_fold_eq (mem_marks_of_isSpecial hc) h]
  · intro hd
    rwa [eq_mark_of_fold_eq (mem_marks_of_isSpecial hd) h.symm]

theorem next_backslash_sameFold {rest rest' : List Char} (hrest : Text.SameFold rest rest') :
    Element.SameFold (next '\\' rest).1 (next '\\' rest').1 ∧
      Text.SameFold (next '\\' rest).2 (next '\\' rest').2 := by
  cases hrest with
  | nil => exact ⟨.char rfl, List.Forall₂.nil⟩
  | @cons escaped escaped' later later' hfold hlater =>
      by_cases hspecial : isSpecial escaped = true
      · have hspecial' := (isSpecial_iff_of_fold_eq hfold).mp hspecial
        rw [next_escaped hspecial, next_escaped hspecial']
        exact ⟨.char hfold, hlater⟩
      · have hspecial' : ¬ isSpecial escaped' = true := by rwa [← isSpecial_iff_of_fold_eq hfold]
        simp only [next, hspecial, hspecial', Bool.false_eq_true, if_false]
        exact ⟨.char rfl, List.Forall₂.cons hfold hlater⟩

theorem next_bracket_sameFold {rest rest' : List Char} (hrest : Text.SameFold rest rest') :
    Element.SameFold (next '[' rest).1 (next '[' rest').1 ∧
      Text.SameFold (next '[' rest).2 (next '[' rest').2 := by
  have hread := SetBody.read?_sameFold hrest
  simp only [next]
  generalize SetBody.read? rest = body at hread ⊢
  generalize SetBody.read? rest' = body' at hread ⊢
  cases hread with
  | none => exact ⟨.char rfl, hrest⟩
  | some hbody => exact ⟨.set hbody.members, hbody.rest⟩

/-- **Sources with the same folds start with the same element**, up to letter case. -/
theorem next_sameFold {c d : Char} {rest rest' : List Char} (h : Text.fold c = Text.fold d)
    (hrest : Text.SameFold rest rest') :
    Element.SameFold (next c rest).1 (next d rest').1 ∧
      Text.SameFold (next c rest).2 (next d rest').2 := by
  by_cases hspecial : isSpecial c = true
  · obtain rfl := eq_mark_of_fold_eq (mem_marks_of_isSpecial hspecial) h
    rw [isSpecial_iff] at hspecial
    simp only [List.mem_cons, List.not_mem_nil, or_false] at hspecial
    rcases hspecial with rfl | rfl | rfl | rfl
    · exact next_backslash_sameFold hrest
    · exact ⟨.any, hrest⟩
    · exact ⟨.star, hrest⟩
    · exact next_bracket_sameFold hrest
  · have hplain : ¬ isSpecial d = true := by rwa [← isSpecial_iff_of_fold_eq h]
    rw [next_plain hspecial, next_plain hplain]
    exact ⟨.char h, hrest⟩

theorem ofSource_sameFold {source source' : List Char} (h : Text.SameFold source source') :
    List.Forall₂ Element.SameFold (ofSource source) (ofSource source') := by
  fun_induction ofSource source generalizing source' with
  | case1 =>
      cases h
      rw [ofSource]
      exact List.Forall₂.nil
  | case2 c rest ih =>
      cases h with
      | @cons _ d _ rest' hfold hrest =>
          obtain ⟨helement, hlater⟩ := next_sameFold hfold hrest
          rw [ofSource]
          exact List.Forall₂.cons helement (ih hlater)

theorem SameFold.token?_eq {e e' : Element} (h : Element.SameFold e e') :
    e.token? true = e'.token? true := by
  cases h with
  | star => rfl
  | any => rfl
  | char h => simp only [token?, if_true, h]
  | set h => simp only [token?, if_true, h.map_fold]

end Element

/-! ### Programs of such sources -/

namespace Program

/-- Stars touch in both of two lists of elements or in neither. -/
theorem not_touching {e e' : Element} {es es' : List Element} (hfirst : Element.SameFold e e')
    (hlater : List.Forall₂ Element.SameFold es es')
    (h : ∀ rest, e = .star → es = .star :: rest → False) :
    ∀ rest, e' = .star → es' = .star :: rest → False := by
  rintro rest rfl rfl
  cases hfirst
  cases hlater with
  | cons hsecond _ =>
      cases hsecond
      exact h _ rfl rfl

theorem runs_sameFold {es es' : List Element} (h : List.Forall₂ Element.SameFold es es') :
    runs true es = runs true es' := by
  fun_induction runs true es generalizing es' with
  | case1 =>
      cases h
      rfl
  | case2 es ih =>
      cases h with
      | cons hfirst hlater =>
          cases hfirst
          cases hlater with
          | cons hsecond hrest =>
              cases hsecond
              rw [runs]
              exact ih (List.Forall₂.cons .star hrest)
  | case3 e es hstar first later hruns t htoken ih =>
      cases h with
      | cons hfirst hlater =>
          rw [runs, ← ih hlater, hruns, ← hfirst.token?_eq, htoken]
          exact not_touching hfirst hlater hstar
  | case4 e es hstar first later hruns htoken ih =>
      cases h with
      | cons hfirst hlater =>
          rw [runs, ← ih hlater, hruns, ← hfirst.token?_eq, htoken]
          exact not_touching hfirst hlater hstar

/-- **With the same folds comes the same program.** -/
theorem ofSource_sameFold {source source' : List Char} (h : Text.SameFold source source') :
    ofSource true source = ofSource true source' := by
  unfold ofSource ofElements
  rw [runs_sameFold (Element.ofSource_sameFold h)]

end Program

/-! ### Writing letters in another case -/

/-- A character and a way to write it: as it is, or in uppercase or in lowercase where that is a
single character. -/
def Text.Recased (c d : Char) : Prop :=
  d = c ∨ d = Text.upper c ∨ d = Text.lower c

instance (c d : Char) : Decidable (Text.Recased c d) :=
  inferInstanceAs (Decidable (_ ∨ _))

theorem Text.Recased.fold_eq {c d : Char} (h : Recased c d) : fold c = fold d := by
  rcases h with rfl | rfl | rfl
  · rfl
  · exact (fold_upper c).symm
  · exact (fold_lower c).symm

theorem Text.sameFold_of_recased {cs ds : List Char} (h : List.Forall₂ Recased cs ds) :
    SameFold cs ds :=
  h.imp fun _ _ => Recased.fold_eq

/-- What stands for a text up to letter case stands for it in any case. -/
theorem Element.mem_languageOf_of_sameFold {es : List Element} {w w' : List Char}
    (hw : w ∈ languageOf true es) (h : Text.SameFold w w') : w' ∈ languageOf true es := by
  obtain ⟨u, hu, hsame⟩ := mem_languageOf_true_iff.mp hw
  exact mem_languageOf_true_iff.mpr ⟨u, hu, hsame.trans h⟩

namespace Pattern

/-- **Letter case never matters to an insensitive pattern.**  Write letters of its source and of the
text in any case: the source has the same program, and the program gives the same answer. -/
theorem isMatch_recased {source source' text text' : String}
    (hsource : List.Forall₂ Text.Recased source.toList source'.toList)
    (htext : List.Forall₂ Text.Recased text.toList text'.toList) :
    Program.ofSource true source'.toList = Program.ofSource true source.toList ∧
      (ofSource source' .insensitive).isMatch text' =
        (ofSource source .insensitive).isMatch text := by
  have hprogram : Program.ofSource true source'.toList = Program.ofSource true source.toList :=
    (Program.ofSource_sameFold (Text.sameFold_of_recased hsource)).symm
  have hsame := Text.sameFold_of_recased htext
  refine ⟨hprogram, ?_⟩
  calc (ofSource source' .insensitive).isMatch text'
      = (ofSource source .insensitive).isMatch text' := by
        show (Program.ofSource true source'.toList).isMatch text'.toList =
          (Program.ofSource true source.toList).isMatch text'.toList
        rw [hprogram]
    _ = (ofSource source .insensitive).isMatch text := by
        rw [Bool.eq_iff_iff, (isMatch_ofSource source .insensitive text').2,
          (isMatch_ofSource source .insensitive text).2]
        exact ⟨fun h => Element.mem_languageOf_of_sameFold h hsame.symm,
          fun h => Element.mem_languageOf_of_sameFold h hsame⟩

/-- A titlecase letter, the Kelvin sign and the long s, in a source and in a text. -/
theorem isMatch_recased_titlecase :
    List.Forall₂ Text.Recased (String.ofList ['ǅ', '[', '\u212a', ']', 'ſ', '*']).toList
        (String.ofList ['ǆ', '[', 'k', ']', 'S', '*']).toList ∧
      List.Forall₂ Text.Recased (String.ofList ['ǅ', '\u212a', 's', 'ß']).toList
        (String.ofList ['Ǆ', 'k', 'S', 'ß']).toList ∧
      (ofSource (String.ofList ['ǆ', '[', 'k', ']', 'S', '*']) .insensitive).isMatch
          (String.ofList ['Ǆ', 'k', 'S', 'ß']) =
        (ofSource (String.ofList ['ǅ', '[', '\u212a', ']', 'ſ', '*']) .insensitive).isMatch
          (String.ofList ['ǅ', '\u212a', 's', 'ß']) := by
  have hsource : List.Forall₂ Text.Recased (String.ofList ['ǅ', '[', '\u212a', ']', 'ſ', '*']).toList
      (String.ofList ['ǆ', '[', 'k', ']', 'S', '*']).toList := by
    simp only [String.toList_ofList]
    decide +kernel
  have htext : List.Forall₂ Text.Recased (String.ofList ['ǅ', '\u212a', 's', 'ß']).toList
      (String.ofList ['Ǆ', 'k', 'S', 'ß']).toList := by
    simp only [String.toList_ofList]
    decide +kernel
  exact ⟨hsource, htext, (isMatch_recased hsource htext).2⟩

end Pattern

end LineGlob
