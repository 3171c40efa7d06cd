/-
Places in a text, and the bytes around them.

`slice` refuses an offset that is no place, and a byte search reports an offset
without knowing what a place is.  Everything that is matched below goes through the
one or the other, so two facts are wanted here: an offset that was computed as the
size of a prefix is a place, and a byte search for a text finds a place.

The first needs nothing but the definitions, and the text from such an offset on is
what follows the prefix.

The second is said of the first place at which something stands: `Leftmost` is that
place, and `Nowhere` says that there is none.  It rests on two properties of UTF-8.  No
character's bytes begin another character's bytes, so comparing bytes from the start of
a character is comparing characters.  And the first byte of a character is never a later
byte of one, so a search that starts with a first byte cannot succeed between two
places: it passes over the later bytes of a character without looking at them twice.
-/
import LineGlob.Text.Offset

namespace LineGlob.Text

/-! ### Offsets that are places -/

theorem size_eq_zero {cs : List Char} : size cs = 0 ↔ cs = [] := by
  cases cs with
  | nil => simp
  | cons c cs =>
      have hpos : 0 < c.utf8Size := c.utf8Size_pos
      simp only [size_cons, reduceCtorEq, iff_false]
      omega

theorem from?_cons (c : Char) (cs : List Char) {pos : Nat} (hpos : 0 < pos) :
    from? (c :: cs) pos = if c.utf8Size ≤ pos then from? cs (pos - c.utf8Size) else none := by
  cases pos with
  | zero => exact absurd hpos (Nat.lt_irrefl 0)
  | succ pos => rfl

/-- The text from the end of a prefix on is what follows the prefix. -/
theorem from?_append_size (before rest : List Char) :
    from? (before ++ rest) (size before) = some rest := by
  induction before with
  | nil => exact from?_zero rest
  | cons c before ih =>
      have hpos : 0 < c.utf8Size := c.utf8Size_pos
      show from? (c :: (before ++ rest)) (c.utf8Size + size before) = some rest
      rw [from?_cons _ _ (by omega), if_pos (Nat.le_add_right _ _), Nat.add_sub_cancel_left]
      exact ih

/-- **The end of a prefix is a place.** -/
theorem slice_append_size (before rest : List Char) :
    slice (before ++ rest) (size before) = .ok rest := by
  unfold slice
  rw [from?_append_size]

/-- Where only the result matters, slicing is just that. -/
theorem slicer_slice_append_size (before rest : List Char) :
    (Slicer.slice (before ++ rest) (size before) : Except OffBoundary (List Char)) = .ok rest :=
  slice_append_size before rest

/-- **A place is the end of a prefix.** -/
theorem isBoundary_iff {cs : List Char} {pos : Nat} :
    IsBoundary cs pos ↔ ∃ before rest, cs = before ++ rest ∧ pos = size before := by
  refine ⟨?_, ?_⟩
  · intro h
    unfold IsBoundary at h
    fun_induction from? cs pos with
    | case1 cs => exact ⟨[], cs, rfl, rfl⟩
    | case2 => simp at h
    | case3 c cs pos hle ih =>
        obtain ⟨before, rest, rfl, hpos⟩ := ih h
        refine ⟨c :: before, rest, rfl, ?_⟩
        rw [size_cons]
        omega
    | case4 => simp at h
  · intro h
    obtain ⟨before, rest, rfl, rfl⟩ := h
    unfold IsBoundary
    rw [from?_append_size]
    rfl

theorem isBoundary_size_append (before rest : List Char) :
    IsBoundary (before ++ rest) (size before) :=
  isBoundary_iff.mpr ⟨before, rest, rfl, rfl⟩

theorem IsBoundary.le_size {cs : List Char} {pos : Nat} (h : IsBoundary cs pos) :
    pos ≤ size cs := by
  obtain ⟨before, rest, rfl, rfl⟩ := isBoundary_iff.mp h
  rw [size_append]
  exact Nat.le_add_right _ _

/-! ### Prefixes of one text -/

section Prefixes

variable {word before rest before' rest' : List Char} {pos stop : Nat}

/-- The longer prefix continues the shorter one. -/
theorem exists_gap_of_size_le (heq : before ++ rest = before' ++ rest')
    (hle : size before ≤ size before') : ∃ gap, before' = before ++ gap ∧ rest = gap ++ rest' := by
  rcases List.append_eq_append_iff.mp heq with ⟨gap, hbefore, hrest⟩ | ⟨gap, hbefore, hrest⟩
  · exact ⟨gap, hbefore, hrest⟩
  · rw [hbefore, size_append] at hle
    have hgap : gap = [] := size_eq_zero.mp (by omega)
    subst hgap
    exact ⟨[], by simpa using hbefore.symm, by simpa using hrest.symm⟩

/-- **Prefixes of one text are in the same order by bytes as by characters.** -/
theorem size_le_size_iff (heq : before ++ rest = before' ++ rest') :
    size before ≤ size before' ↔ before.length ≤ before'.length := by
  constructor
  · intro hle
    obtain ⟨gap, rfl, -⟩ := exists_gap_of_size_le heq hle
    simp
  · intro hle
    have hprefix : before <+: before' :=
      List.prefix_of_prefix_length_le ⟨rest, heq⟩ ⟨rest', rfl⟩ hle
    obtain ⟨gap, rfl⟩ := hprefix
    simp

/-- The places behind a place are the ends of what follows it. -/
theorem isBoundary_behind_iff :
    IsBoundary (before ++ rest) pos ∧ size before ≤ pos ↔
      ∃ gap later, rest = gap ++ later ∧ pos = size (before ++ gap) := by
  constructor
  · intro h
    obtain ⟨hpos, hle⟩ := h
    obtain ⟨before', later, heq, rfl⟩ := isBoundary_iff.mp hpos
    obtain ⟨gap, rfl, hrest⟩ := exists_gap_of_size_le heq hle
    exact ⟨gap, later, hrest, rfl⟩
  · intro h
    obtain ⟨gap, later, rfl, rfl⟩ := h
    rw [← List.append_assoc]
    exact ⟨isBoundary_size_append _ _, by simp⟩

/-- The text from one place to another. -/
def Between (text : List Char) (pos stop : Nat) (word : List Char) : Prop :=
  ∃ before rest, text = before ++ (word ++ rest) ∧ pos = size before ∧ stop = size (before ++ word)

theorem between_iff :
    Between (before ++ rest) (size before) stop word ↔
      ∃ later, rest = word ++ later ∧ stop = size (before ++ word) := by
  constructor
  · intro h
    obtain ⟨before', later, heq, hsize, rfl⟩ := h
    obtain ⟨gap, rfl, hrest⟩ := exists_gap_of_size_le heq (Nat.le_of_eq hsize)
    rw [size_append] at hsize
    have hgap : gap = [] := size_eq_zero.mp (by omega)
    subst hgap
    exact ⟨later, hrest, by rw [List.append_nil]⟩
  · intro h
    obtain ⟨later, rfl, rfl⟩ := h
    exact ⟨before, later, rfl, rfl, rfl⟩

/-- There is one text between two places. -/
theorem Between.unique {text word' : List Char} (h : Between text pos stop word)
    (h' : Between text pos stop word') : word = word' := by
  obtain ⟨before, rest, rfl, rfl, rfl⟩ := h
  obtain ⟨later, heq, hstop⟩ := between_iff.mp h'
  rw [size_append, size_append, Nat.add_left_cancel_iff] at hstop
  have hlength : word.length = word'.length :=
    Nat.le_antisymm ((size_le_size_iff heq).mp (Nat.le_of_eq hstop))
      ((size_le_size_iff heq.symm).mp (Nat.le_of_eq hstop.symm))
  exact (List.append_inj heq hlength).1

end Prefixes

@[simp] theorem length_starts (pos : Nat) (cs : List Char) : (starts pos cs).length = cs.length := by
  induction cs generalizing pos with
  | nil => rfl
  | cons c cs ih => simp [starts, ih]

theorem starts_append (pos : Nat) (cs ds : List Char) :
    starts pos (cs ++ ds) = starts pos cs ++ starts (pos + size cs) ds := by
  induction cs generalizing pos with
  | nil => rfl
  | cons c cs ih =>
      rw [List.cons_append, starts, starts, ih, size_cons, Nat.add_assoc, List.cons_append]

/-- Where a character starts, something precedes it and something follows. -/
theorem exists_split_of_mem_starts {pos start : Nat} {cs : List Char} (h : start ∈ starts pos cs) :
    ∃ gap rest, cs = gap ++ rest ∧ start = pos + size gap := by
  induction cs generalizing pos with
  | nil => simp [starts] at h
  | cons c cs ih =>
      rw [starts, List.mem_cons] at h
      rcases h with rfl | h
      · exact ⟨[], c :: cs, rfl, by simp⟩
      · obtain ⟨gap, rest, rfl, hstart⟩ := ih h
        exact ⟨c :: gap, rest, rfl, by rw [hstart, size_cons, Nat.add_assoc]⟩

/-- Counting characters from the end leads to where the counted ones start. -/
theorem starts_reverse_getElem? (pos : Nat) (gap : List Char) (c : Char) (word : List Char) :
    (starts pos (gap ++ c :: word)).reverse[word.length]? = some (pos + size gap) := by
  rw [starts_append, starts, List.reverse_append, List.reverse_cons, List.append_assoc,
    List.getElem?_append_right (by simp)]
  simp

/-! ### The first place at which something stands -/

/-- In the text `gap ++ rest`, `rest` is where something stands, and it stands nowhere earlier. -/
structure Leftmost (Here : List Char → Prop) (gap rest : List Char) : Prop where
  here : Here rest
  least : ∀ gap' rest', gap ++ rest = gap' ++ rest' → Here rest' → gap.length ≤ gap'.length

/-- Something stands at no place of a text. -/
def Nowhere (Here : List Char → Prop) (cs : List Char) : Prop :=
  ∀ gap rest, cs = gap ++ rest → ¬ Here rest

variable {Here : List Char → Prop} {c : Char} {gap rest cs : List Char}

namespace Leftmost

theorem nil (h : Here rest) : Leftmost Here [] rest :=
  ⟨h, fun gap' _ _ _ => Nat.zero_le gap'.length⟩

theorem cons (hnot : ¬ Here (c :: (gap ++ rest))) (h : Leftmost Here gap rest) :
    Leftmost Here (c :: gap) rest := by
  refine ⟨h.here, fun gap' rest' heq hhere => ?_⟩
  cases gap' with
  | nil =>
      rw [List.nil_append, List.cons_append] at heq
      exact absurd (heq ▸ hhere) hnot
  | cons d gap' =>
      rw [List.cons_append, List.cons_append, List.cons.injEq] at heq
      exact Nat.succ_le_succ (h.least gap' rest' heq.2 hhere)

theorem not_here (h : Leftmost Here (c :: gap) rest) : ¬ Here (c :: (gap ++ rest)) := by
  intro hhere
  have hle := h.least [] _ rfl hhere
  simp at hle

theorem tail (h : Leftmost Here (c :: gap) rest) : Leftmost Here gap rest := by
  refine ⟨h.here, fun gap' rest' heq hhere => ?_⟩
  have hle := h.least (c :: gap') rest' (by rw [List.cons_append, heq, List.cons_append]) hhere
  simpa using hle

end Leftmost

namespace Nowhere

theorem nil (hnot : ¬ Here []) : Nowhere Here [] := by
  intro gap rest heq hhere
  rw [(List.append_eq_nil_iff.mp heq.symm).2] at hhere
  exact hnot hhere

theorem cons (hnot : ¬ Here (c :: cs)) (h : Nowhere Here cs) : Nowhere Here (c :: cs) := by
  intro gap rest heq hhere
  cases gap with
  | nil =>
      rw [List.nil_append] at heq
      exact hnot (heq ▸ hhere)
  | cons d gap =>
      rw [List.cons_append, List.cons.injEq] at heq
      exact h gap rest heq.2 hhere

theorem not_here (h : Nowhere Here cs) : ¬ Here cs :=
  h [] cs rfl

theorem tail (h : Nowhere Here (c :: cs)) : Nowhere Here cs := by
  intro gap rest heq
  exact h (c :: gap) rest (by rw [heq, List.cons_append])

end Nowhere

/-- **What stands anywhere stands at a first place.** -/
theorem nowhere_or_leftmost (Here : List Char → Prop) (cs : List Char) :
    Nowhere Here cs ∨ ∃ gap rest, cs = gap ++ rest ∧ Leftmost Here gap rest := by
  induction cs with
  | nil =>
      by_cases hnow : Here []
      · exact Or.inr ⟨[], [], rfl, Leftmost.nil hnow⟩
      · exact Or.inl (Nowhere.nil hnow)
  | cons c cs ih =>
      by_cases hnow : Here (c :: cs)
      · exact Or.inr ⟨[], c :: cs, rfl, Leftmost.nil hnow⟩
      · rcases ih with hnone | ⟨gap, rest, rfl, hleft⟩
        · exact Or.inl (Nowhere.cons hnow hnone)
        · exact Or.inr ⟨c :: gap, rest, rfl, Leftmost.cons hnow hleft⟩

/-! ### One character at a time -/

/-- A character's bytes are one that can start a character, and others that cannot. -/
theorem utf8EncodeChar_eq_cons (c : Char) :
    ∃ b bs, String.utf8EncodeChar c = b :: bs ∧ b.IsUTF8FirstByte ∧
      ∀ x ∈ bs, ¬ x.IsUTF8FirstByte := by
  cases hbytes : String.utf8EncodeChar c with
  | nil =>
      have hlen := String.length_utf8EncodeChar c
      have hpos : 0 < c.utf8Size := c.utf8Size_pos
      rw [hbytes] at hlen
      simp only [List.length_nil] at hlen
      omega
  | cons b bs =>
      -- Which of its bytes can start a character is known of every index into them.
      have hfirst : ∀ (i : Nat) (hi : i < (b :: bs).length),
          (b :: bs)[i].IsUTF8FirstByte ↔ i = 0 := by
        rw [← hbytes]
        intro i hi
        exact UInt8.isUTF8FirstByte_getElem_utf8EncodeChar
      refine ⟨b, bs, rfl, (hfirst 0 (by simp)).mpr rfl, ?_⟩
      intro x hx hxfirst
      obtain ⟨i, hi, hival⟩ := List.getElem_of_mem hx
      have hzero := (hfirst (i + 1) (by simpa using hi)).mp (by simpa [hival] using hxfirst)
      omega

/-- Bytes that start with a character's bytes start with no other character's. -/
theorem utf8EncodeChar_append_inj {c d : Char} {xs ys : List UInt8}
    (h : String.utf8EncodeChar c ++ xs = String.utf8EncodeChar d ++ ys) : c = d ∧ xs = ys := by
  have hdecode : some c = some d := by
    rw [← ByteArray.utf8DecodeChar?_utf8EncodeChar_append (b := xs.toByteArray),
      ← ByteArray.utf8DecodeChar?_utf8EncodeChar_append (c := d) (b := ys.toByteArray),
      ← List.toByteArray_append, ← List.toByteArray_append, h]
  cases hdecode
  exact ⟨rfl, List.append_cancel_left h⟩

@[simp] theorem encode_eq_nil_iff {cs : List Char} : encode cs = [] ↔ cs = [] := by
  cases cs with
  | nil => simp
  | cons c cs =>
      obtain ⟨b, bs, hbytes, -, -⟩ := utf8EncodeChar_eq_cons c
      simp [hbytes]

/-! ### Comparing bytes -/

/-- **One text starts another exactly if its bytes do.** -/
theorem encode_prefix_iff {word cs : List Char} : encode word <+: encode cs ↔ word <+: cs := by
  induction word generalizing cs with
  | nil => simp
  | cons c word ih =>
      refine ⟨?_, ?_⟩
      · intro h
        obtain ⟨later, hlater⟩ := h
        cases cs with
        | nil => simp at hlater
        | cons d ds =>
            simp only [encode_cons, List.append_assoc] at hlater
            obtain ⟨rfl, hrest⟩ := utf8EncodeChar_append_inj hlater
            exact (List.cons_prefix_cons).mpr ⟨rfl, ih.mp ⟨later, hrest⟩⟩
      · intro h
        obtain ⟨later, rfl⟩ := h
        rw [encode_append]
        exact List.prefix_append _ _

theorem encode_inj {cs ds : List Char} (h : encode cs = encode ds) : cs = ds := by
  have hprefix : encode cs <+: encode ds := ⟨[], by rw [List.append_nil, h]⟩
  obtain ⟨later, rfl⟩ := encode_prefix_iff.mp hprefix
  rw [encode_append, List.self_eq_append_right, encode_eq_nil_iff] at h
  rw [h, List.append_nil]

/-- Whether bytes could stand at a place: they are at an end, or start like a character. -/
def StartsCleanly : List UInt8 → Prop
  | [] => True
  | b :: _ => b.IsUTF8FirstByte

theorem startsCleanly_encode_append {word : List Char} (hword : word ≠ []) (xs : List UInt8) :
    StartsCleanly (encode word ++ xs) := by
  cases word with
  | nil => exact absurd rfl hword
  | cons c word =>
      obtain ⟨b, bs, hbytes, hb, -⟩ := utf8EncodeChar_eq_cons c
      rw [encode_cons, hbytes]
      exact hb

/-- **Bytes that start like a character start at a place.** -/
theorem exists_split_of_startsCleanly {cs : List Char} {xs ys : List UInt8}
    (h : encode cs = xs ++ ys) (hys : StartsCleanly ys) :
    ∃ before rest, cs = before ++ rest ∧ encode before = xs ∧ encode rest = ys := by
  induction cs generalizing xs with
  | nil =>
      obtain ⟨rfl, rfl⟩ := List.append_eq_nil_iff.mp h.symm
      exact ⟨[], [], rfl, rfl, rfl⟩
  | cons c cs ih =>
      cases xs with
      | nil => exact ⟨[], c :: cs, rfl, rfl, h⟩
      | cons x xs =>
          rw [encode_cons] at h
          rcases List.append_eq_append_iff.mp h with ⟨more, hxs, hcs⟩ | ⟨later, hc, hys'⟩
          · obtain ⟨before, rest, rfl, hbefore, hrest⟩ := ih hcs
            exact ⟨c :: before, rest, rfl, by rw [encode_cons, hbefore, hxs], hrest⟩
          · cases later with
            | nil =>
                rw [List.nil_append] at hys'
                rw [List.append_nil] at hc
                exact ⟨[c], cs, rfl, by simp [hc], hys'.symm⟩
            | cons y later =>
                -- The cut would fall inside the bytes of `c`, whose later bytes start nothing.
                obtain ⟨b, bs, hbytes, -, hbs⟩ := utf8EncodeChar_eq_cons c
                rw [hbytes, List.cons_append, List.cons.injEq] at hc
                have hy : y ∈ bs := by rw [hc.2]; simp
                rw [hys'] at hys
                exact absurd hys (hbs y hy)

@[simp] theorem length_encode (cs : List Char) : (encode cs).length = size cs := by
  induction cs with
  | nil => rfl
  | cons c cs ih => rw [encode_cons, List.length_append, String.length_utf8EncodeChar, ih, size_cons]

/-- **One text ends another exactly if its bytes do.** -/
theorem encode_suffix_iff {word cs : List Char} : encode word <:+ encode cs ↔ word <:+ cs := by
  refine ⟨?_, ?_⟩
  · intro h
    obtain ⟨xs, hxs⟩ := h
    by_cases hword : word = []
    · rw [hword]
      exact List.nil_suffix
    · have hclean := startsCleanly_encode_append hword []
      rw [List.append_nil] at hclean
      obtain ⟨before, rest, rfl, -, hrest⟩ := exists_split_of_startsCleanly hxs.symm hclean
      rw [encode_inj hrest]
      exact List.suffix_append _ _
  · intro h
    obtain ⟨before, rfl⟩ := h
    rw [encode_append]
    exact List.suffix_append _ _

/-! ### Searching bytes

A search is settled one character at a time: either the text stands right here, or
the search goes on after the first byte, passes over the later bytes of the character,
and arrives at the next place.
-/

theorem firstOccurrence?_of_prefix {needle bytes : List UInt8} (h : needle <+: bytes) :
    firstOccurrence? needle bytes = some 0 := by
  cases bytes with
  | nil =>
      rw [List.prefix_nil] at h
      rw [h]
      rfl
  | cons b bs => rw [firstOccurrence?, if_pos (List.isPrefixOf_iff_prefix.mpr h)]

/-- Bytes that start nothing are passed over. -/
theorem firstOccurrence?_append {b : UInt8} {bs skipped : List UInt8} (hb : b.IsUTF8FirstByte)
    (hskipped : ∀ x ∈ skipped, ¬ x.IsUTF8FirstByte) (bytes : List UInt8) :
    firstOccurrence? (b :: bs) (skipped ++ bytes) =
      (firstOccurrence? (b :: bs) bytes).map (· + skipped.length) := by
  induction skipped with
  | nil => simp
  | cons x skipped ih =>
      have hne : b ≠ x := by
        intro h
        subst h
        exact hskipped b (by simp) hb
      rw [List.cons_append, firstOccurrence?, if_neg (by simp [hne]),
        ih fun y hy => hskipped y (by simp [hy]), Option.map_map]
      rfl

/-- Where a text does not stand right here, it is looked for from the next place on. -/
theorem firstOccurrence?_encode_cons {word : List Char} {c : Char} {cs : List Char}
    (h : ¬ word <+: c :: cs) :
    firstOccurrence? (encode word) (encode (c :: cs)) =
      (firstOccurrence? (encode word) (encode cs)).map (· + c.utf8Size) := by
  have hno : ¬ encode word <+: encode (c :: cs) := fun hc => h (encode_prefix_iff.mp hc)
  have hsize := String.length_utf8EncodeChar c
  obtain ⟨b, bs, hbytes, -, hbs⟩ := utf8EncodeChar_eq_cons c
  cases word with
  | nil => exact absurd List.nil_prefix h
  | cons d ds =>
      obtain ⟨first, more, hword, hfirst, -⟩ := utf8EncodeChar_eq_cons d
      rw [hbytes, List.length_cons] at hsize
      simp only [encode_cons, hbytes, hword, List.cons_append] at hno ⊢
      rw [firstOccurrence?, if_neg (by rwa [List.isPrefixOf_iff_prefix]),
        firstOccurrence?_append hfirst hbs, Option.map_map, ← hsize]
      rfl

/-- **A search of the bytes arrives at the first place at which the text stands.** -/
theorem firstOccurrence?_of_leftmost {word gap rest : List Char}
    (h : Leftmost (word <+: ·) gap rest) :
    firstOccurrence? (encode word) (encode (gap ++ rest)) = some (size gap) := by
  induction gap with
  | nil => exact firstOccurrence?_of_prefix (encode_prefix_iff.mpr h.here)
  | cons c gap ih =>
      rw [List.cons_append, firstOccurrence?_encode_cons h.not_here, ih h.tail, size_cons,
        Nat.add_comm]
      rfl

theorem firstOccurrence?_of_nowhere {word cs : List Char} (h : Nowhere (word <+: ·) cs) :
    firstOccurrence? (encode word) (encode cs) = none := by
  induction cs with
  | nil =>
      have hne : word ≠ [] := fun hword => h.not_here (hword ▸ List.prefix_refl _)
      simp [firstOccurrence?, hne]
  | cons c cs ih =>
      rw [firstOccurrence?_encode_cons h.not_here, ih h.tail]
      rfl

/-- **A byte search for a text in a text arrives at a place, and the text ends at one.** -/
theorem exists_split_of_firstOccurrence? {word cs : List Char} {i : Nat}
    (h : firstOccurrence? (encode word) (encode cs) = some i) :
    ∃ gap rest, cs = gap ++ (word ++ rest) ∧ i = size gap := by
  rcases nowhere_or_leftmost (word <+: ·) cs with hnowhere | ⟨gap, rest, rfl, hleft⟩
  · rw [firstOccurrence?_of_nowhere hnowhere] at h
    simp at h
  · rw [firstOccurrence?_of_leftmost hleft, Option.some.injEq] at h
    obtain ⟨later, rfl⟩ := hleft.here
    exact ⟨gap, later, rfl, h.symm⟩

/-! ### What a search reports -/

/-- The needle stands at an offset of the bytes and at no earlier one. -/
structure FirstOccurrence (needle bytes : List UInt8) (i : Nat) : Prop where
  le_length : i ≤ bytes.length
  here : needle <+: bytes.drop i
  least : ∀ j, needle <+: bytes.drop j → i ≤ j

theorem firstOccurrence_zero {needle bytes : List UInt8} (h : needle <+: bytes) :
    FirstOccurrence needle bytes 0 := by
  refine ⟨Nat.zero_le _, ?_, ?_⟩
  · rw [List.drop_zero]
    exact h
  · intro j _
    exact Nat.zero_le j

theorem firstOccurrence_succ {needle bytes : List UInt8} {b : UInt8} {i : Nat}
    (hnot : ¬ needle <+: b :: bytes) :
    FirstOccurrence needle (b :: bytes) (i + 1) ↔ FirstOccurrence needle bytes i := by
  constructor
  · intro h
    refine ⟨?_, ?_, ?_⟩
    · have hle := h.le_length
      rw [List.length_cons] at hle
      omega
    · have hhere := h.here
      rwa [List.drop_succ_cons] at hhere
    · intro j hj
      have hle := h.least (j + 1) (by rwa [List.drop_succ_cons])
      omega
  · intro h
    refine ⟨?_, ?_, ?_⟩
    · have hle := h.le_length
      rw [List.length_cons]
      omega
    · rw [List.drop_succ_cons]
      exact h.here
    · intro j hj
      cases j with
      | zero =>
          rw [List.drop_zero] at hj
          exact absurd hj hnot
      | succ j =>
          rw [List.drop_succ_cons] at hj
          have hle := h.least j hj
          omega

/-- **A search of bytes reports the first occurrence**, and nothing only if there is none. -/
theorem firstOccurrence?_eq_some_iff {needle bytes : List UInt8} {i : Nat} :
    firstOccurrence? needle bytes = some i ↔ FirstOccurrence needle bytes i := by
  induction bytes generalizing i with
  | nil =>
      by_cases hneedle : needle = []
      · subst hneedle
        have hfound := firstOccurrence?_of_prefix (List.prefix_refl ([] : List UInt8))
        rw [hfound, Option.some.injEq]
        constructor
        · intro h
          subst h
          exact firstOccurrence_zero List.nil_prefix
        · intro h
          have hle := h.least 0 List.nil_prefix
          omega
      · rw [firstOccurrence?, if_neg (by rwa [List.isEmpty_iff])]
        constructor
        · intro h
          cases h
        · intro h
          have hhere := h.here
          rw [List.drop_nil, List.prefix_nil] at hhere
          exact absurd hhere hneedle
  | cons b bytes ih =>
      by_cases hprefix : needle <+: b :: bytes
      · have hfound := firstOccurrence?_of_prefix hprefix
        rw [hfound, Option.some.injEq]
        constructor
        · intro h
          subst h
          exact firstOccurrence_zero hprefix
        · intro h
          have hle := h.least 0 (by rwa [List.drop_zero])
          omega
      · rw [firstOccurrence?, if_neg (by rwa [List.isPrefixOf_iff_prefix]),
          Option.map_eq_some_iff]
        cases i with
        | zero =>
            constructor
            · intro h
              obtain ⟨k, -, hk⟩ := h
              omega
            · intro h
              have hhere := h.here
              rw [List.drop_zero] at hhere
              exact absurd hhere hprefix
        | succ i =>
            rw [firstOccurrence_succ hprefix, ← ih]
            simp

end LineGlob.Text
