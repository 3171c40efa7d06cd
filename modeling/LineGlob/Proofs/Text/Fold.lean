/-
A letter folds like its counterparts.

Folding takes the uppercase of a character and then the lowercase of that.  So a letter
and its uppercase have the same fold if an uppercase has no further uppercase, and a
letter and its lowercase have the same fold if the way from a lowercase to its uppercase
and back leads nowhere else.  Neither follows from what a case is: there are letters
whose lowercase is the lowercase of another letter, titlecase letters that have both
counterparts, and letters of which one counterpart would be several characters and is
left out.  Both are properties of the tables, and this file checks them there.

Four things are checked.  No uppercase that the tables list has an uppercase, and no
lowercase has a lowercase (`upper_final`, `lower_final`).  The letters that have both are
four, `titlecase`.  And whatever the table of uppercases does, the table of lowercases
undoes, unless it is done to a letter that is nobody's lowercase (`upper_undone`).

Sets of letters are compared as numbers with a bit for each letter, which takes one step
for a whole table.  Letters of ASCII are not in the tables and are checked one by one.
-/
import LineGlob.Text.Fold
import Mathlib.Data.List.Chain
import Mathlib.Data.Nat.Bitwise

namespace LineGlob.Text

namespace CaseRun

/-! ### Runs -/

/-- The run lists a code point. -/
def Lists (r : CaseRun) (code : Nat) : Prop :=
  r.first ≤ code ∧ code ≤ r.last ∧ (code - r.first) % r.step = 0

/-- The counterpart of a code point that the run lists. -/
def image (r : CaseRun) (code : Nat) : Nat :=
  r.target + (code - r.first)

/-- The run that leads from the counterparts back. -/
def reverse (r : CaseRun) : CaseRun :=
  ⟨r.target, r.image r.last, r.step, r.first⟩

/-- The code points that a run lists. -/
def codes (r : CaseRun) : List Nat :=
  List.range' r.first ((r.last - r.first) / r.step + 1) r.step

/-- Whether a run is seen to do on its letters what another run does. -/
def within (r s : CaseRun) : Bool :=
  Nat.ble s.first r.first && Nat.ble r.last s.last && (r.first - s.first) % s.step == 0 &&
    (r.step % s.step == 0 || r.first == r.last) && r.target + s.first == s.target + r.first

/-- The run lists letters beyond ASCII, and their counterparts are characters. -/
structure WellFormed (r : CaseRun) : Prop where
  beyond : 0x80 ≤ r.first
  nonempty : r.first ≤ r.last
  valid : r.image r.last < 0xD800 ∨ 0xE000 ≤ r.target ∧ r.image r.last < 0x110000

instance (r : CaseRun) : Decidable r.WellFormed :=
  decidable_of_iff
    (0x80 ≤ r.first ∧ r.first ≤ r.last ∧
      (r.image r.last < 0xD800 ∨ 0xE000 ≤ r.target ∧ r.image r.last < 0x110000))
    ⟨fun h => ⟨h.1, h.2.1, h.2.2⟩, fun h => ⟨h.1, h.2, h.3⟩⟩

variable {r s : CaseRun} {runs : List CaseRun} {code : Nat}

theorem counterpart?_eq_some_iff {target : Nat} :
    r.counterpart? code = some target ↔ r.Lists code ∧ r.image code = target := by
  unfold counterpart? Lists image
  split
  · rename_i h
    simp [h]
  · rename_i h
    simp [h]

theorem counterpart?_eq_none_iff : r.counterpart? code = none ↔ ¬ r.Lists code := by
  rw [Option.eq_none_iff_forall_ne_some]
  simp only [ne_eq, counterpart?_eq_some_iff, not_and]
  exact ⟨fun h hlists => h _ hlists rfl, fun h _ hlists => absurd hlists h⟩

theorem Lists.mem_codes (h : r.Lists code) : code ∈ r.codes := by
  obtain ⟨hfirst, hlast, hstep⟩ := h
  have hmul : r.step * ((code - r.first) / r.step) = code - r.first :=
    Nat.mul_div_cancel' (Nat.dvd_of_mod_eq_zero hstep)
  have hle : (code - r.first) / r.step ≤ (r.last - r.first) / r.step :=
    Nat.div_le_div_right (by omega)
  exact List.mem_range'.mpr ⟨_, Nat.lt_succ_of_le hle, by omega⟩

/-- The counterpart of a letter is listed by the run that leads back, which leads back to it. -/
theorem Lists.goes_back (h : r.Lists code) :
    r.reverse.Lists (r.image code) ∧ r.reverse.image (r.image code) = code := by
  obtain ⟨hfirst, hlast, hstep⟩ := h
  have hsub : r.image code - r.target = code - r.first := Nat.add_sub_cancel_left ..
  have hle : r.image code ≤ r.image r.last := by
    unfold image
    omega
  refine ⟨⟨Nat.le_add_right _ _, hle, ?_⟩, ?_⟩
  · show (r.image code - r.target) % r.step = 0
    rwa [hsub]
  · show r.first + (r.image code - r.target) = code
    omega

/-- Where one run is within another, both lead to the same place. -/
theorem Lists.of_within (h : r.Lists code) (hwithin : r.within s = true) :
    s.Lists code ∧ s.image code = r.image code := by
  obtain ⟨hfirst, hlast, hstep⟩ := h
  simp only [within, Bool.and_eq_true, Bool.or_eq_true, Nat.ble_eq, beq_iff_eq] at hwithin
  obtain ⟨⟨⟨⟨hsfirst, hslast⟩, hstart⟩, hsteps⟩, htarget⟩ := hwithin
  have hcode : (code - r.first) % s.step = 0 := by
    rcases hsteps with hdvd | hsingle
    · exact Nat.mod_eq_zero_of_dvd
        (Nat.dvd_trans (Nat.dvd_of_mod_eq_zero hdvd) (Nat.dvd_of_mod_eq_zero hstep))
    · have hzero : code - r.first = 0 := by omega
      rw [hzero, Nat.zero_mod]
  have hsum : code - s.first = (code - r.first) + (r.first - s.first) := by omega
  refine ⟨⟨by omega, by omega, ?_⟩, ?_⟩
  · rw [hsum, Nat.add_mod, hcode, hstart, Nat.add_zero, Nat.zero_mod]
  · unfold image
    omega

/-- The counterpart of a letter is the code point of a character. -/
theorem Lists.toNat_image (h : r.Lists code) (hr : r.WellFormed) :
    (Char.ofNat (r.image code)).toNat = r.image code := by
  have hle : r.image code ≤ r.image r.last := h.goes_back.1.2.1
  have htarget : r.target ≤ r.image code := Nat.le_add_right _ _
  have hvalid : (r.image code).isValidChar := by
    rcases hr.valid with hlow | ⟨hhigh, hlast⟩
    · exact Or.inl (by omega)
    · exact Or.inr ⟨by omega, by omega⟩
  unfold Char.ofNat
  rw [dif_pos hvalid]
  rfl

/-! ### Sets of letters -/

/-- The letters that a table lists. -/
def letters (runs : List CaseRun) : List Nat :=
  runs.flatMap codes

/-- A set of code points as a number, with a bit for each of them. -/
def bits : List Nat → Nat
  | [] => 0
  | code :: codes => 1 <<< code ||| bits codes

theorem testBit_bits {codes : List Nat} : (bits codes).testBit code = true ↔ code ∈ codes := by
  induction codes with
  | nil => simp [bits]
  | cons c codes ih =>
      rw [bits, Nat.testBit_or, Bool.or_eq_true, ih, Nat.one_shiftLeft, Nat.testBit_two_pow,
        decide_eq_true_eq, List.mem_cons, eq_comm]

/-- What two sets have in common is seen by comparing numbers. -/
theorem mem_of_bits {xs ys zs : List Nat} (h : bits xs &&& bits ys = bits zs) (hx : code ∈ xs)
    (hy : code ∈ ys) : code ∈ zs := by
  rw [← testBit_bits, ← h, Nat.testBit_and, testBit_bits.mpr hx, testBit_bits.mpr hy]
  rfl

theorem Lists.mem_letters (h : r.Lists code) (hr : r ∈ runs) : code ∈ letters runs :=
  List.mem_flatMap.mpr ⟨r, hr, h.mem_codes⟩

theorem Lists.image_mem_letters (h : r.Lists code) (hr : r ∈ runs) :
    r.image code ∈ letters (runs.map reverse) :=
  h.goes_back.1.mem_letters (List.mem_map_of_mem hr)

/-! ### The tables -/

theorem wellFormed_of_mem : ∀ r ∈ upper ++ lower, r.WellFormed := by decide +kernel

theorem upper_final : bits (letters (upper.map reverse)) &&& bits (letters upper) = bits [] := by
  decide +kernel

theorem lower_final : bits (letters (lower.map reverse)) &&& bits (letters lower) = bits [] := by
  decide +kernel

/-- The letters that have both an uppercase and a lowercase. -/
def titlecase : List Nat :=
  [0x01C5, 0x01C8, 0x01CB, 0x01F2]

theorem titlecase_only : bits (letters upper) &&& bits (letters lower) = bits titlecase := by
  decide +kernel

/-- Whether the table of lowercases leads back from the counterparts of a run.  The one run that
could do so is the first that reaches as far. -/
def undone (s : CaseRun) : Bool :=
  (lower.find? fun r => Nat.ble s.target r.last).any fun r => s.reverse.within r

theorem upper_undone : bits (letters (upper.filter fun s => !s.undone)) &&&
    bits (letters (lower.map reverse)) = bits [] := by
  decide +kernel

/-- One run lists its letters before another one does. -/
def Before (r s : CaseRun) : Prop :=
  r.last < s.first ∧ s.first ≤ s.last

instance (r s : CaseRun) : Decidable (r.Before s) :=
  inferInstanceAs (Decidable (_ ∧ _))

theorem lower_sorted : lower.IsChain Before := by decide +kernel

instance : IsTrans CaseRun Before where
  trans _ _ _ hrs hst := ⟨by have := hrs.1; have := hrs.2; have := hst.1; omega, hst.2⟩

/-- No letter is listed by two runs of lowercases. -/
theorem eq_of_lists (hr : r ∈ lower) (hs : s ∈ lower) (hrcode : r.Lists code)
    (hscode : s.Lists code) : r = s := by
  have hapart : lower.Pairwise fun r s => r.Lists code → ¬ s.Lists code := by
    refine (List.isChain_iff_pairwise.mp lower_sorted).imp ?_
    intro r s hbefore hr hs
    have hlt := hbefore.1
    have hle := hr.2.1
    have hge := hs.1
    omega
  have hsymm : Std.Symm fun r s : CaseRun => r.Lists code → ¬ s.Lists code :=
    ⟨fun r s h hs hr => h hr hs⟩
  by_contra hne
  exact hapart.forall hr hs hne hrcode hscode

end CaseRun

/-! ### Counterparts -/

open CaseRun (letters bits mem_of_bits)

variable {c : Char}

/-- A character has a counterpart of its own if a run lists it, and is left as it is otherwise. -/
theorem counterpartIn_cases {runs : List CaseRun} (hruns : ∀ r ∈ runs, r.WellFormed) (c : Char) :
    (∃ r ∈ runs, r.Lists c.toNat ∧ (counterpartIn runs c).toNat = r.image c.toNat) ∨
      (∀ r ∈ runs, ¬ r.Lists c.toNat) ∧ counterpartIn runs c = c := by
  unfold counterpartIn
  cases hfind : runs.findSome? (·.counterpart? c.toNat) with
  | none =>
      rw [List.findSome?_eq_none_iff] at hfind
      exact .inr ⟨fun r hr => CaseRun.counterpart?_eq_none_iff.mp (hfind r hr), rfl⟩
  | some code =>
      obtain ⟨r, hr, hcode⟩ := List.exists_of_findSome?_eq_some hfind
      obtain ⟨hlists, rfl⟩ := CaseRun.counterpart?_eq_some_iff.mp hcode
      exact .inl ⟨r, hr, hlists, hlists.toNat_image (hruns r hr)⟩

theorem upper_cases (hc : 0x80 ≤ c.toNat) :
    (∃ r ∈ CaseRun.upper, r.Lists c.toNat ∧ (upper c).toNat = r.image c.toNat) ∨
      (∀ r ∈ CaseRun.upper, ¬ r.Lists c.toNat) ∧ upper c = c := by
  have hupper : upper c = counterpartIn CaseRun.upper c := if_neg (Nat.not_lt.mpr hc)
  rw [hupper]
  exact counterpartIn_cases (fun r hr => CaseRun.wellFormed_of_mem r (by simp [hr])) c

theorem lower_cases (hc : 0x80 ≤ c.toNat) :
    (∃ r ∈ CaseRun.lower, r.Lists c.toNat ∧ (lower c).toNat = r.image c.toNat) ∨
      (∀ r ∈ CaseRun.lower, ¬ r.Lists c.toNat) ∧ lower c = c := by
  have hlower : lower c = counterpartIn CaseRun.lower c := if_neg (Nat.not_lt.mpr hc)
  rw [hlower]
  exact counterpartIn_cases (fun r hr => CaseRun.wellFormed_of_mem r (by simp [hr])) c

theorem fold_of_lt (hc : c.toNat < 0x80) : fold c = lower c := by
  unfold fold lower
  rw [if_pos hc, if_pos hc]

theorem fold_of_le (hc : 0x80 ≤ c.toNat) : fold c = lower (upper c) :=
  if_neg (Nat.not_lt.mpr hc)

/-- A property of all characters of ASCII, checked one by one. -/
theorem forall_ascii {P : Char → Prop} (h : ∀ code < 0x80, P (Char.ofNat code))
    (hc : c.toNat < 0x80) : P c := by
  have hP := h c.toNat hc
  rwa [Char.ofNat_toNat] at hP

theorem fold_counterparts_ascii (hc : c.toNat < 0x80) :
    fold (upper c) = fold c ∧ fold (lower c) = fold c :=
  forall_ascii (P := fun c => fold (upper c) = fold c ∧ fold (lower c) = fold c)
    (by decide +kernel) hc

/-- The uppercase of a letter beyond ASCII has no further uppercase there. -/
theorem upper_upper (hc : 0x80 ≤ c.toNat) (hupper : 0x80 ≤ (upper c).toNat) :
    upper (upper c) = upper c := by
  rcases upper_cases hc with ⟨r, hr, hlists, hcode⟩ | ⟨-, hsame⟩
  · rcases upper_cases hupper with ⟨s, hs, hslists, -⟩ | ⟨-, hfinal⟩
    · rw [hcode] at hslists
      have hnone := mem_of_bits CaseRun.upper_final (hlists.image_mem_letters hr)
        (hslists.mem_letters hs)
      simp at hnone
    · exact hfinal
  · rw [hsame, hsame]

/-- **A letter and its uppercase have the same fold.** -/
theorem fold_upper (c : Char) : fold (upper c) = fold c := by
  by_cases hc : c.toNat < 0x80
  · exact (fold_counterparts_ascii hc).1
  · have hle : 0x80 ≤ c.toNat := Nat.not_lt.mp hc
    rw [fold_of_le hle]
    by_cases hupper : (upper c).toNat < 0x80
    · exact fold_of_lt hupper
    · have hupper' : 0x80 ≤ (upper c).toNat := Nat.not_lt.mp hupper
      rw [fold_of_le hupper', upper_upper hle hupper']

/-- A letter beyond ASCII that has a lowercase folds to it. -/
theorem fold_of_lists {r : CaseRun} (hc : 0x80 ≤ c.toNat) (hr : r ∈ CaseRun.lower)
    (hlists : r.Lists c.toNat) : fold c = lower c := by
  rw [fold_of_le hc]
  rcases upper_cases hc with ⟨s, hs, hslists, -⟩ | ⟨-, hsame⟩
  · have htitle : c.toNat ∈ CaseRun.titlecase :=
      mem_of_bits CaseRun.titlecase_only (hslists.mem_letters hs) (hlists.mem_letters hr)
    have hagree : ∀ code ∈ CaseRun.titlecase,
        lower (upper (Char.ofNat code)) = lower (Char.ofNat code) := by decide +kernel
    have hthis := hagree c.toNat htitle
    rwa [Char.ofNat_toNat] at hthis
  · rw [hsame]

/-- Going from a lowercase to its uppercase and back leads to where it started. -/
theorem lower_upper_of_image {r s : CaseRun} {code : Nat} (hr : r ∈ CaseRun.lower)
    (hlists : r.Lists code) (hcode : c.toNat = r.image code) (hs : s ∈ CaseRun.upper)
    (hslists : s.Lists c.toNat) (hupper : (upper c).toNat = s.image c.toNat) :
    lower (upper c) = c := by
  by_cases hundone : s.undone = true
  · obtain ⟨t, ht, hwithin⟩ := (Option.any_eq_true ..).mp hundone
    have htmem : t ∈ CaseRun.lower := List.mem_of_find?_eq_some ht
    obtain ⟨hback, hbackImage⟩ := hslists.goes_back
    obtain ⟨htlists, htimage⟩ := hback.of_within hwithin
    rw [← hupper] at htlists htimage hbackImage
    have hbeyond : 0x80 ≤ (upper c).toNat :=
      (CaseRun.wellFormed_of_mem t (by simp [htmem])).beyond.trans htlists.1
    rcases lower_cases hbeyond with ⟨u, hu, hulists, hlower⟩ | ⟨hnone, -⟩
    · rw [CaseRun.eq_of_lists hu htmem hulists htlists, htimage, hbackImage] at hlower
      exact Char.toNat_inj.mp hlower
    · exact absurd htlists (hnone t htmem)
  · have hlossy : s ∈ CaseRun.upper.filter fun s => !s.undone := by simp [hs, hundone]
    have hnone := mem_of_bits CaseRun.upper_undone (hslists.mem_letters hlossy)
      (hcode ▸ hlists.image_mem_letters hr)
    simp at hnone

/-- A lowercase is its own fold. -/
theorem fold_of_image {r : CaseRun} {code : Nat} (hr : r ∈ CaseRun.lower) (hlists : r.Lists code)
    (hcode : c.toNat = r.image code) : fold c = c := by
  by_cases hc : c.toNat < 0x80
  · -- the one letter of ASCII that is the lowercase of a letter beyond it
    have hkelvin : ∀ r ∈ CaseRun.lower, r.target < 0x80 → r.image r.last = 'k'.toNat ∧
        r.target = 'k'.toNat := by decide +kernel
    have hle : r.image code ≤ r.image r.last := hlists.goes_back.1.2.1
    have hge : r.target ≤ r.image code := Nat.le_add_right _ _
    obtain ⟨hlast, htarget⟩ := hkelvin r hr (by omega)
    have hk : c = 'k' := Char.toNat_inj.mp (by omega)
    rw [hk]
    decide
  · have hle : 0x80 ≤ c.toNat := Nat.not_lt.mp hc
    rw [fold_of_le hle]
    rcases upper_cases hle with ⟨s, hs, hslists, hupper⟩ | ⟨-, hsame⟩
    · exact lower_upper_of_image hr hlists hcode hs hslists hupper
    · rw [hsame]
      rcases lower_cases hle with ⟨s, hs, hslists, -⟩ | ⟨-, hfinal⟩
      · have hnone := mem_of_bits CaseRun.lower_final (hcode ▸ hlists.image_mem_letters hr)
          (hslists.mem_letters hs)
        simp at hnone
      · exact hfinal

/-- **A letter and its lowercase have the same fold.** -/
theorem fold_lower (c : Char) : fold (lower c) = fold c := by
  by_cases hc : c.toNat < 0x80
  · exact (fold_counterparts_ascii hc).2
  · have hle : 0x80 ≤ c.toNat := Nat.not_lt.mp hc
    rcases lower_cases hle with ⟨r, hr, hlists, hcode⟩ | ⟨-, hsame⟩
    · rw [fold_of_image hr hlists hcode, fold_of_lists hle hr hlists]
    · rw [hsame]

/-! ### Characters that are no letters -/

/-- The characters with a meaning of their own in a pattern. -/
def marks : List Char :=
  ['\\', '?', '*', '[', ']']

/-- A property of all marks, checked one by one. -/
theorem forall_marks {P : Char → Prop} [DecidablePred P]
    (h : (marks.all fun m => decide (P m)) = true) {m : Char} (hm : m ∈ marks) : P m :=
  of_decide_eq_true (List.all_eq_true.mp h m hm)

/-- No counterpart of a letter beyond ASCII is a mark. -/
theorem image_ne_mark {r : CaseRun} {code : Nat} {m : Char} (hm : m ∈ marks)
    (hr : r ∈ CaseRun.upper ++ CaseRun.lower) (hlists : r.Lists code) : r.image code ≠ m.toNat := by
  have haway := forall_marks (P := fun m => ∀ r ∈ CaseRun.upper ++ CaseRun.lower,
    r.image r.last < m.toNat ∨ m.toNat < r.target) (by decide +kernel) hm r hr
  have hle : r.image code ≤ r.image r.last := hlists.goes_back.1.2.1
  have hge : r.target ≤ r.image code := Nat.le_add_right _ _
  omega

theorem eq_of_upper_eq {m : Char} (hm : m ∈ marks) (h : upper c = m) : c = m := by
  by_cases hc : c.toNat < 0x80
  · have hmarks := forall_ascii (P := fun c =>
      (marks.all fun m => decide (upper c = m → c = m)) = true) (by decide +kernel) hc
    exact forall_marks (P := fun m => upper c = m → c = m) hmarks hm h
  · rcases upper_cases (Nat.not_lt.mp hc) with ⟨r, hr, hlists, hcode⟩ | ⟨-, hsame⟩
    · rw [h] at hcode
      exact absurd hcode.symm (image_ne_mark hm (by simp [hr]) hlists)
    · exact hsame.symm.trans h

theorem eq_of_lower_eq {m : Char} (hm : m ∈ marks) (h : lower c = m) : c = m := by
  by_cases hc : c.toNat < 0x80
  · have hmarks := forall_ascii (P := fun c =>
      (marks.all fun m => decide (lower c = m → c = m)) = true) (by decide +kernel) hc
    exact forall_marks (P := fun m => lower c = m → c = m) hmarks hm h
  · rcases lower_cases (Nat.not_lt.mp hc) with ⟨r, hr, hlists, hcode⟩ | ⟨-, hsame⟩
    · rw [h] at hcode
      exact absurd hcode.symm (image_ne_mark hm (by simp [hr]) hlists)
    · exact hsame.symm.trans h

/-- **A mark is the fold of itself alone.** -/
theorem fold_eq_mark_iff {m : Char} (hm : m ∈ marks) : fold c = m ↔ c = m := by
  constructor
  · intro h
    by_cases hc : c.toNat < 0x80
    · rw [fold_of_lt hc] at h
      exact eq_of_lower_eq hm h
    · rw [fold_of_le (Nat.not_lt.mp hc)] at h
      exact eq_of_upper_eq hm (eq_of_lower_eq hm h)
  · rintro rfl
    exact forall_marks (P := fun m => fold m = m) (by decide +kernel) hm

end LineGlob.Text
