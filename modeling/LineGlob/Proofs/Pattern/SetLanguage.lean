/-
Reading a set is a match of a regular expression.

What may follow an opening bracket is a language: one or more members and a closing
bracket, where a member is `\]` or any character but a closing bracket.  A source can
start with several words of this language, because a closing bracket after a backslash
may also close the set.  The reader takes the longest of them, and says that there is no
set only if there is none.

A word fixes its members.  A closing bracket inside it belongs to the backslash before
it, the last one closes the set, and everything else is a member by itself.  So there is
one way to cut a word into members, and the characters that the reader returns are those
of this cut.

`Closes` of the grammar says the same of a source and what is left of it.
`closes_iff_exists_cut` turns the one description into the other, and the longest word is
then the reading that leaves the least.
-/
import LineGlob.Proofs.Pattern.Grammar
import LineGlob.Text.Offset
import Mathlib.Computability.Language
import Mathlib.Data.List.Forall2

namespace LineGlob.SetBody

open scoped Computability

/-! ### Words and their members -/

/-- How a member of a set is written, and the character that it is. -/
inductive Member : List Char → Char → Prop
  | bracket : Member ['\\', ']'] ']'
  | plain {c : Char} (hc : c ≠ ']') : Member [c] c

/-- The ways to write a member. -/
def memberForms : Language Char :=
  {piece | ∃ c, Member piece c}

/-- The ways to write the body of a set: one or more members and a closing bracket. -/
def bodyForms : Language Char :=
  memberForms * memberForms∗ * {[']']}

/-- A word is cut into pieces before its closing bracket, and each piece is a member. -/
structure CutInto (word : List Char) (pieces : List (List Char)) (chars : List Char) : Prop where
  word_eq : word = pieces.flatten ++ [']']
  pieces : List.Forall₂ Member pieces chars

variable {source word rest chars : List Char} {pieces : List (List Char)}

/-- Pieces of which each is a member are the members of some characters. -/
theorem exists_chars_iff :
    (∃ chars, List.Forall₂ Member pieces chars) ↔ ∀ piece ∈ pieces, piece ∈ memberForms := by
  induction pieces with
  | nil => simp
  | cons piece pieces ih =>
      rw [List.forall_mem_cons, ← ih]
      constructor
      · rintro ⟨chars, hchars⟩
        cases hchars with
        | cons hpiece hlater => exact ⟨⟨_, hpiece⟩, _, hlater⟩
      · rintro ⟨⟨c, hpiece⟩, chars, hlater⟩
        exact ⟨c :: chars, List.Forall₂.cons hpiece hlater⟩

theorem mem_bodyForms_iff :
    word ∈ bodyForms ↔ ∃ pieces chars, CutInto word pieces chars ∧ chars ≠ [] := by
  unfold bodyForms
  rw [Language.mem_mul]
  constructor
  · rintro ⟨_, hbody, close, hclose, rfl⟩
    obtain ⟨first, hfirst, later, hlater, rfl⟩ := Language.mem_mul.mp hbody
    obtain ⟨pieces, rfl, hpieces⟩ := Language.mem_kstar.mp hlater
    have hall : ∀ piece ∈ first :: pieces, piece ∈ memberForms :=
      List.forall_mem_cons.mpr ⟨hfirst, hpieces⟩
    obtain ⟨chars, hchars⟩ := exists_chars_iff.mpr hall
    have hbracket : close = [']'] := hclose
    refine ⟨first :: pieces, chars, ⟨by rw [hbracket, List.flatten_cons], hchars⟩, ?_⟩
    intro hnil
    rw [hnil] at hchars
    cases hchars
  · rintro ⟨pieces, chars, ⟨rfl, hchars⟩, hne⟩
    have hall := exists_chars_iff.mp ⟨chars, hchars⟩
    cases pieces with
    | nil =>
        cases hchars
        exact absurd rfl hne
    | cons first later =>
        obtain ⟨hfirst, hlater⟩ := List.forall_mem_cons.mp hall
        refine ⟨(first :: later).flatten, ?_, [']'], rfl, rfl⟩
        rw [List.flatten_cons]
        exact Language.mem_mul.mpr
          ⟨first, hfirst, later.flatten, Language.mem_kstar.mpr ⟨later, rfl, hlater⟩, rfl⟩

/-! ### Words and readings -/

/-- **A reading is a word in front of what is left.** -/
theorem closes_iff_exists_cut :
    Closes source ⟨chars, rest⟩ ↔ ∃ word pieces, CutInto word pieces chars ∧ source = word ++ rest := by
  constructor
  · intro h
    generalize hbody : (⟨chars, rest⟩ : SetBody) = body at h
    induction h generalizing chars rest with
    | close later =>
        cases hbody
        exact ⟨[']'], [], ⟨rfl, List.Forall₂.nil⟩, rfl⟩
    | bracket _ ih =>
        cases hbody
        obtain ⟨_, pieces, ⟨rfl, hpieces⟩, rfl⟩ := ih rfl
        exact ⟨_, ['\\', ']'] :: pieces, ⟨rfl, List.Forall₂.cons .bracket hpieces⟩, rfl⟩
    | @plain c _ _ _ hc _ ih =>
        cases hbody
        obtain ⟨_, pieces, ⟨rfl, hpieces⟩, rfl⟩ := ih rfl
        exact ⟨_, [c] :: pieces, ⟨rfl, List.Forall₂.cons (.plain hc) hpieces⟩, rfl⟩
  · rintro ⟨_, pieces, ⟨rfl, hpieces⟩, rfl⟩
    induction hpieces with
    | nil => exact Closes.close rest
    | @cons piece c pieces chars hpiece _ ih =>
        cases hpiece with
        | bracket => exact Closes.bracket ih
        | plain hc => exact Closes.plain hc ih

theorem Member.piece_unique {piece piece' : List Char} {c : Char} (h : Member piece c)
    (h' : Member piece' c) : piece = piece' := by
  cases h with
  | bracket =>
      cases h' with
      | bracket => rfl
      | plain hc => exact absurd rfl hc
  | plain hc =>
      cases h' with
      | bracket => exact absurd rfl hc
      | plain _ => rfl

/-- **A word is cut in one way.** -/
theorem CutInto.unique {pieces' : List (List Char)} {chars' : List Char}
    (h : CutInto word pieces chars) (h' : CutInto word pieces' chars') :
    pieces = pieces' ∧ chars = chars' := by
  have hcloses : Closes word ⟨chars, []⟩ :=
    closes_iff_exists_cut.mpr ⟨word, pieces, h, (List.append_nil word).symm⟩
  have hcloses' : Closes word ⟨chars', []⟩ :=
    closes_iff_exists_cut.mpr ⟨word, pieces', h', (List.append_nil word).symm⟩
  have hchars : chars = chars' :=
    congrArg SetBody.members (hcloses.eq_of_length_rest hcloses' rfl)
  subst hchars
  have hunique : Relator.LeftUnique Member := fun _ _ _ => Member.piece_unique
  exact ⟨List.left_unique_forall₂' hunique h.pieces h'.pieces, rfl⟩

theorem CutInto.mem_bodyForms_iff (h : CutInto word pieces chars) :
    word ∈ bodyForms ↔ chars ≠ [] := by
  rw [SetBody.mem_bodyForms_iff]
  constructor
  · rintro ⟨pieces', chars', h', hne⟩
    rwa [(h.unique h').2]
  · intro hne
    exact ⟨pieces, chars, h, hne⟩

/-! ### The longest word -/

/-- Of the words with which the source starts, the longest. -/
structure LongestForm (source word : List Char) : Prop where
  form : word ∈ bodyForms
  starts : word <+: source
  longest : ∀ other ∈ bodyForms, other <+: source → other.length ≤ word.length

theorem isBody_iff_exists_cut :
    IsBody source ⟨chars, rest⟩ ↔
      ∃ word pieces, LongestForm source word ∧ CutInto word pieces chars ∧ source = word ++ rest := by
  constructor
  · intro h
    obtain ⟨word, pieces, hcut, hsource⟩ := closes_iff_exists_cut.mp h.closes
    refine ⟨word, pieces, ⟨hcut.mem_bodyForms_iff.mpr h.nonempty, ⟨rest, hsource.symm⟩, ?_⟩,
      hcut, hsource⟩
    rintro other hother ⟨later, hlater⟩
    obtain ⟨pieces', chars', hcut', hne'⟩ := SetBody.mem_bodyForms_iff.mp hother
    have hcloses' : Closes source ⟨chars', later⟩ :=
      closes_iff_exists_cut.mpr ⟨other, pieces', hcut', hlater.symm⟩
    have hle : rest.length ≤ later.length := h.longest _ hcloses' hne'
    have hlength := congrArg List.length (hlater.trans hsource)
    simp only [List.length_append] at hlength
    omega
  · rintro ⟨word, pieces, hlongest, hcut, hsource⟩
    refine ⟨closes_iff_exists_cut.mpr ⟨word, pieces, hcut, hsource⟩,
      hcut.mem_bodyForms_iff.mp hlongest.form, ?_⟩
    rintro ⟨chars', later⟩ hcloses' hne'
    obtain ⟨other, pieces', hcut', hother⟩ := closes_iff_exists_cut.mp hcloses'
    have hle : other.length ≤ word.length :=
      hlongest.longest other (hcut'.mem_bodyForms_iff.mpr hne') ⟨later, hother.symm⟩
    have hlength := congrArg List.length (hother.symm.trans hsource)
    simp only [List.length_append] at hlength
    show rest.length ≤ later.length
    omega

/-- **There is no set only if the source starts with no word.** -/
theorem read?_eq_none_iff_forall_form :
    read? source = none ↔ ∀ word ∈ bodyForms, ¬ word <+: source := by
  constructor
  · rintro hread word hword ⟨rest, hsource⟩
    obtain ⟨pieces, chars, hcut, hne⟩ := SetBody.mem_bodyForms_iff.mp hword
    have hcloses : Closes source ⟨chars, rest⟩ :=
      closes_iff_exists_cut.mpr ⟨word, pieces, hcut, hsource.symm⟩
    rcases scan_cases [] source none fun _ => rfl with ⟨found, -, hscan⟩ | ⟨hnone, -⟩
    · have hsome : read? source = some _ := hscan
      rw [hread] at hsome
      cases hsome
    · exact hnone _ ⟨hcloses, hne⟩
  · intro hnone
    rw [read?_eq_none_iff]
    rintro ⟨chars, rest⟩ hbody
    obtain ⟨word, pieces, hlongest, -, -⟩ := isBody_iff_exists_cut.mp hbody
    exact hnone word hlongest.form hlongest.starts

theorem consumed_append (word rest chars : List Char) :
    consumed (word ++ rest) ⟨chars, rest⟩ = Text.size word := by
  unfold consumed
  rw [Text.size_append, Nat.add_sub_cancel]

/-! ### Sources with no free bracket -/

/-- Every closing bracket has a backslash before it. -/
def Escaped (source : List Char) : Prop :=
  ∀ before rest, source = before ++ ']' :: rest → ['\\'] <:+ before

theorem Escaped.tail {c : Char} (h : Escaped (c :: source)) (hc : ∀ rest, source ≠ ']' :: rest) :
    Escaped source := by
  intro before rest hsource
  have hend := h (c :: before) rest (by rw [hsource, List.cons_append])
  rcases List.suffix_cons_iff.mp hend with heq | hend
  · rw [List.cons.injEq] at heq
    rw [← heq.2, List.nil_append] at hsource
    exact absurd hsource (hc rest)
  · exact hend

theorem Escaped.ne_close {c : Char} (h : Escaped (c :: source)) : c ≠ ']' := by
  rintro rfl
  have hend := h [] source rfl
  simp at hend

/-- With no free bracket the whole source consists of members. -/
theorem Escaped.exists_pieces (h : Escaped source) :
    ∃ pieces chars, source = pieces.flatten ∧ List.Forall₂ Member pieces chars := by
  induction hn : source.length using Nat.strong_induction_on generalizing source with
  | _ n ih =>
    cases source with
    | nil => exact ⟨[], [], rfl, List.Forall₂.nil⟩
    | cons c source =>
        rw [List.length_cons] at hn
        by_cases hclose : ∃ rest, source = ']' :: rest
        · -- the bracket has a backslash before it, and the two are one member
          obtain ⟨rest, rfl⟩ := hclose
          have hc : c = '\\' := by
            have hend := h [c] rest rfl
            simpa [List.suffix_cons_iff, eq_comm] using hend
          subst hc
          have hrest : Escaped rest := by
            intro before later hrest
            have hend := h ('\\' :: ']' :: before) later (by rw [hrest]; rfl)
            simpa [List.suffix_cons_iff] using hend
          rw [List.length_cons] at hn
          obtain ⟨pieces, chars, rfl, hpieces⟩ := ih rest.length (by omega) hrest rfl
          exact ⟨['\\', ']'] :: pieces, ']' :: chars, rfl, List.Forall₂.cons .bracket hpieces⟩
        · have hrest : Escaped source := h.tail fun rest hrest => hclose ⟨rest, hrest⟩
          obtain ⟨pieces, chars, rfl, hpieces⟩ := ih source.length (by omega) hrest rfl
          exact ⟨[c] :: pieces, c :: chars, rfl, List.Forall₂.cons (.plain h.ne_close) hpieces⟩

theorem Escaped.of_append {before later : List Char} (h : Escaped (before ++ later)) :
    Escaped before := by
  intro start rest hbefore
  exact h start (rest ++ later) (by rw [hbefore, List.append_assoc, List.cons_append])

/-- A word ends with a closing bracket, so a source starts with none that is longer than what the
source's last closing bracket ends. -/
theorem length_form_le {other : List Char} (hrest : ']' ∉ rest) (hother : other ∈ bodyForms)
    (hstarts : other <+: word ++ rest) : other.length ≤ word.length := by
  by_contra hlong
  obtain ⟨pieces, chars, ⟨rfl, -⟩, -⟩ := SetBody.mem_bodyForms_iff.mp hother
  have hword : word <+: pieces.flatten ++ [']'] :=
    List.prefix_of_prefix_length_le (List.prefix_append word rest) hstarts (by omega)
  obtain ⟨more, hmore⟩ := hword
  rcases List.eq_nil_or_concat' more with rfl | ⟨start, c, rfl⟩
  · rw [List.append_nil] at hmore
    rw [hmore] at hlong
    exact hlong (Nat.le_refl _)
  · rw [← List.append_assoc] at hmore
    obtain ⟨-, hc⟩ := List.append_inj' hmore rfl
    obtain ⟨later, hlater⟩ := hstarts
    rw [← hmore, List.append_assoc, List.append_assoc, List.append_cancel_left_eq] at hlater
    have hmem : ']' ∈ rest := by
      rw [← hlater, hc]
      simp
    exact hrest hmem

/-- **The last bracket is given back if no other one closes the set**: the backslash before it is
then the last member. -/
theorem Escaped.exists_isBody {before : List Char}
    (h : Escaped (before ++ '\\' :: ']' :: rest)) (hrest : ']' ∉ rest) :
    ∃ chars, IsBody (before ++ '\\' :: ']' :: rest) ⟨chars ++ ['\\'], rest⟩ := by
  obtain ⟨pieces, chars, rfl, hpieces⟩ := h.of_append.exists_pieces
  have hcut : CutInto (pieces.flatten ++ ['\\', ']']) (pieces ++ [['\\']]) (chars ++ ['\\']) := by
    refine ⟨by simp, List.rel_append hpieces ?_⟩
    exact List.Forall₂.cons (.plain (by decide)) List.Forall₂.nil
  have hsource : pieces.flatten ++ '\\' :: ']' :: rest = pieces.flatten ++ ['\\', ']'] ++ rest := by
    simp
  have hform : pieces.flatten ++ ['\\', ']'] ∈ bodyForms :=
    hcut.mem_bodyForms_iff.mpr (by simp)
  refine ⟨chars, isBody_iff_exists_cut.mpr ⟨_, _, ⟨hform, ?_, ?_⟩, hcut, hsource⟩⟩
  · rw [hsource]
    exact List.prefix_append _ _
  · rw [hsource]
    intro other hother hstarts
    exact length_form_le hrest hother hstarts

/-! ### The reader -/

/-- **Reading a set is a longest match.**  If the source starts with a word of the language, the
reader consumes the longest one and returns its members, which are those of the only way to cut it;
otherwise there is no set.  In particular, where no closing bracket is free, the last one closes the
set and the backslash before it is the last member. -/
theorem read?_longest (source : List Char) :
    ((∃ word ∈ bodyForms, word <+: source) →
        ∃ word pieces body, LongestForm source word ∧ CutInto word pieces body.members ∧
          (∀ pieces' chars', CutInto word pieces' chars' → pieces' = pieces ∧
            chars' = body.members) ∧
          read? source = some body ∧ source = word ++ body.rest ∧
          consumed source body = Text.size word) ∧
      ((∀ word ∈ bodyForms, ¬ word <+: source) → read? source = none) ∧
      ∀ before rest, source = before ++ '\\' :: ']' :: rest → ']' ∉ rest → Escaped source →
        ∃ chars, read? source = some ⟨chars ++ ['\\'], rest⟩ := by
  refine ⟨?_, read?_eq_none_iff_forall_form.mpr, ?_⟩
  · rintro ⟨form, hform, hstarts⟩
    cases hread : read? source with
    | none => exact absurd hstarts (read?_eq_none_iff_forall_form.mp hread form hform)
    | some body =>
        obtain ⟨word, pieces, hlongest, hcut, hsource⟩ :=
          isBody_iff_exists_cut.mp (read?_eq_some_iff.mp hread)
        have hconsumed : consumed source body = Text.size word := by
          rw [hsource]
          exact consumed_append word body.rest body.members
        exact ⟨word, pieces, body, hlongest, hcut, fun _ _ hcut' => hcut'.unique hcut, rfl, hsource,
          hconsumed⟩
  · rintro before rest rfl hrest hescaped
    obtain ⟨chars, hbody⟩ := hescaped.exists_isBody hrest
    exact ⟨chars, read?_eq_some_iff.mpr hbody⟩

/-- A source that starts with two words.  The longer one gives its last bracket back, and ends
after seven bytes. -/
theorem read?_longest_of_two_words :
    (∃ word ∈ bodyForms, word <+: ['a', '\\', ']', 'é', '\\', ']', 'c']) ∧
      ∃ word pieces, LongestForm ['a', '\\', ']', 'é', '\\', ']', 'c'] word ∧
        CutInto word pieces ['a', ']', 'é', '\\'] ∧ Text.size word = 7 := by
  have hcut : CutInto ['a', '\\', ']'] [['a'], ['\\']] ['a', '\\'] := by
    refine ⟨rfl, ?_⟩
    exact .cons (.plain (by decide)) (.cons (.plain (by decide)) .nil)
  have hstarts : ∃ word ∈ bodyForms, word <+: ['a', '\\', ']', 'é', '\\', ']', 'c'] :=
    ⟨_, hcut.mem_bodyForms_iff.mpr (by simp), by decide⟩
  obtain ⟨word, pieces, body, hlongest, hcut, -, hread, -, hconsumed⟩ :=
    (read?_longest _).1 hstarts
  have hbody : body = ⟨['a', ']', 'é', '\\'], ['c']⟩ := by
    have hfound : read? ['a', '\\', ']', 'é', '\\', ']', 'c'] =
        some ⟨['a', ']', 'é', '\\'], ['c']⟩ := by decide
    rwa [hread, Option.some.injEq] at hfound
  subst hbody
  exact ⟨hstarts, word, pieces, hlongest, hcut, hconsumed.symm.trans (by decide)⟩

end LineGlob.SetBody
