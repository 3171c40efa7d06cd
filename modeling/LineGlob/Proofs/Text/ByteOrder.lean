/-
Bytes are in the order of characters.

Two texts that are compared byte by byte are compared by the code points of their
characters, and nothing has to be decoded for that.  It is how UTF-8 is laid out that makes
this true, and two properties of it are enough.

A form with more bytes is for larger code points, and its first byte is larger than the
first byte of any shorter form.  So characters of different forms are told apart by their
first bytes.  Within one form the bytes are digits, six bits each, with the most significant
ones in front, so the first byte that differs decides as it does between two numbers.

That one character comes before another is said of bytes with anything behind them
(`Before`), because behind the first character that differs the texts are of no interest.
-/
import LineGlob.Proofs.Text.Offset
import Mathlib.Data.Char

namespace LineGlob.Text

/-! ### Bytes with anything behind them -/

/-- Whatever follows, the first bytes decide that one side comes before the other. -/
def Before (xs ys : List UInt8) : Prop :=
  ∀ us vs, compare (xs ++ us) (ys ++ vs) = .lt

theorem compare_append_left (xs us vs : List UInt8) :
    compare (xs ++ us) (xs ++ vs) = compare us vs := by
  induction xs with
  | nil => rfl
  | cons x xs ih =>
      rw [List.cons_append, List.cons_append, List.compare_cons_cons, ih,
        Std.ReflOrd.compare_self, Ordering.eq_then]

variable {xs ys : List UInt8} {x y : UInt8}

theorem before_cons (h : x < y) (xs ys : List UInt8) : Before (x :: xs) (y :: ys) := by
  intro us vs
  rw [List.cons_append, List.cons_append, List.compare_cons_cons, Std.compare_eq_lt.mpr h]
  rfl

theorem Before.append (h : Before xs ys) (us vs : List UInt8) : Before (xs ++ us) (ys ++ vs) := by
  intro us' vs'
  rw [List.append_assoc, List.append_assoc]
  exact h _ _

/-- Behind equal bytes the next ones decide. -/
theorem Before.append_left (h : Before xs ys) (ws : List UInt8) :
    Before (ws ++ xs) (ws ++ ys) := by
  intro us vs
  rw [List.append_assoc, List.append_assoc, compare_append_left]
  exact h us vs

/-! ### Numbers in bytes -/

/-- A byte that is not the first of a character has the last six bits of a number. -/
def laterByte (v : Nat) : UInt8 :=
  .ofNat (v % 64 + 0x80)

/-- What is left of a number for the first byte, with `n` bytes to follow. -/
def leading : Nat → Nat → Nat
  | 0, v => v
  | n + 1, v => leading n (v / 64)

/-- A number in a first byte, which also has the mark of its form, and `n` later bytes. -/
def written (mark : Nat) : Nat → Nat → List UInt8
  | 0, v => [.ofNat (mark + v)]
  | n + 1, v => written mark n (v / 64) ++ [laterByte v]

variable {mark n u v : Nat}

theorem ofNat_lt_ofNat (h : u < v) (hv : v < 256) : UInt8.ofNat u < UInt8.ofNat v := by
  rw [UInt8.lt_iff_toNat_lt, UInt8.toNat_ofNat_of_lt' (Nat.lt_trans h hv),
    UInt8.toNat_ofNat_of_lt' hv]
  exact h

theorem laterByte_lt (hquot : u / 64 = v / 64) (h : u < v) : laterByte u < laterByte v :=
  ofNat_lt_ofNat (by omega) (by omega)

theorem written_eq_cons (mark n v : Nat) :
    ∃ bytes, written mark n v = .ofNat (mark + leading n v) :: bytes := by
  induction n generalizing v with
  | zero => exact ⟨[], rfl⟩
  | succ n ih =>
      obtain ⟨bytes, hbytes⟩ := ih (v / 64)
      exact ⟨bytes ++ [laterByte v], by rw [written, hbytes, List.cons_append, leading]⟩

/-- **In one form, a smaller number comes first.** -/
theorem written_before (hv : mark + leading n v < 256) (h : u < v) :
    Before (written mark n u) (written mark n v) := by
  induction n generalizing u v with
  | zero => exact before_cons (ofNat_lt_ofNat (Nat.add_lt_add_left h mark) hv) [] []
  | succ n ih =>
      have hle : u / 64 ≤ v / 64 := Nat.div_le_div_right (Nat.le_of_lt h)
      rcases Nat.lt_or_eq_of_le hle with hlt | hquot
      · exact (ih hv hlt).append _ _
      · -- the digits in front are the same ones
        rw [written, written, hquot]
        exact (before_cons (laterByte_lt hquot h) [] []).append_left _

/-! ### Characters in bytes -/

/-- How many bytes follow the first byte of a code point. -/
def laterBytes (v : Nat) : Nat :=
  if v ≤ 0x7f then 0 else if v ≤ 0x7ff then 1 else if v ≤ 0xffff then 2 else 3

/-- The mark in the first byte of a form. -/
def markOf : Nat → Nat
  | 0 => 0
  | 1 => 0xc0
  | 2 => 0xe0
  | _ => 0xf0

/-- The first byte of a code point. -/
def firstByte (v : Nat) : Nat :=
  markOf (laterBytes v) + leading (laterBytes v) v

theorem toNat_lt (c : Char) : c.toNat < 0x110000 := by
  rcases c.valid with hlow | ⟨-, hhigh⟩
  · exact Nat.lt_trans hlow (by decide)
  · exact hhigh

/-- The bytes of a character are its code point, written in the form for it. -/
theorem utf8EncodeChar_eq_written (c : Char) :
    String.utf8EncodeChar c =
      written (markOf (laterBytes c.toNat)) (laterBytes c.toNat) c.toNat := by
  have hmax : c.toNat < 0x110000 := toNat_lt c
  have hval : c.val.toNat = c.toNat := rfl
  unfold String.utf8EncodeChar laterBytes
  simp only [hval]
  split
  · rw [markOf, written, Nat.zero_add]
  · split
    · simp only [markOf, written, laterByte, List.singleton_append]
      rw [show c.toNat / 64 % 32 + 192 = 192 + c.toNat / 64 by omega]
    · split
      · simp only [markOf, written, laterByte, List.nil_append, List.cons_append]
        rw [show c.toNat / 4096 % 16 + 224 = 224 + c.toNat / 64 / 64 by omega]
      · simp only [markOf, written, laterByte, List.nil_append, List.cons_append]
        rw [show c.toNat / 262144 % 8 + 240 = 240 + c.toNat / 64 / 64 / 64 by omega,
          show c.toNat / 4096 % 64 = c.toNat / 64 / 64 % 64 by omega]

theorem firstByte_lt (hv : v < 0x110000) : firstByte v < 256 := by
  unfold firstByte laterBytes
  split_ifs <;> simp only [markOf, leading] <;> omega

/-- A longer form has the larger first byte. -/
theorem firstByte_lt_of_laterBytes_lt (h : laterBytes u < laterBytes v) :
    firstByte u < firstByte v := by
  unfold firstByte
  unfold laterBytes at h ⊢
  split_ifs at h ⊢ <;> simp only [markOf, leading] <;> omega

theorem laterBytes_le (h : u ≤ v) : laterBytes u ≤ laterBytes v := by
  unfold laterBytes
  split_ifs <;> omega

/-- **A character with a smaller code point comes first**, whatever follows. -/
theorem utf8EncodeChar_before {c d : Char} (h : c.toNat < d.toNat) :
    Before (String.utf8EncodeChar c) (String.utf8EncodeChar d) := by
  have hd : firstByte d.toNat < 256 := firstByte_lt (toNat_lt d)
  rw [utf8EncodeChar_eq_written, utf8EncodeChar_eq_written]
  rcases Nat.lt_or_eq_of_le (laterBytes_le (Nat.le_of_lt h)) with hform | hform
  · obtain ⟨bytes, hbytes⟩ :=
      written_eq_cons (markOf (laterBytes c.toNat)) (laterBytes c.toNat) c.toNat
    obtain ⟨bytes', hbytes'⟩ :=
      written_eq_cons (markOf (laterBytes d.toNat)) (laterBytes d.toNat) d.toNat
    rw [hbytes, hbytes']
    exact before_cons (ofNat_lt_ofNat (firstByte_lt_of_laterBytes_lt hform) hd) bytes bytes'
  · rw [hform]
    exact written_before hd h

/-! ### Texts in bytes -/

theorem compare_utf8EncodeChar_append (c d : Char) (us vs : List UInt8) :
    compare (String.utf8EncodeChar c ++ us) (String.utf8EncodeChar d ++ vs) =
      (compare c.toNat d.toNat).then (compare us vs) := by
  rcases Nat.lt_trichotomy c.toNat d.toNat with h | h | h
  · rw [utf8EncodeChar_before h us vs, Nat.compare_eq_lt.mpr h]
    rfl
  · rw [Char.toNat_inj.mp h, compare_append_left, Nat.compare_eq_eq.mpr rfl]
    rfl
  · rw [Std.OrientedOrd.eq_swap, utf8EncodeChar_before h vs us, Nat.compare_eq_gt.mpr h]
    rfl

/-- **Comparing bytes is comparing code points**, the first one that differs deciding. -/
theorem compare_encode (cs ds : List Char) :
    compare (encode cs) (encode ds) = compare (cs.map Char.toNat) (ds.map Char.toNat) := by
  have hempty : ∀ c (us : List UInt8), ∃ b bs, String.utf8EncodeChar c ++ us = b :: bs := by
    intro c us
    obtain ⟨b, bs, hbytes, -⟩ := utf8EncodeChar_eq_cons c
    exact ⟨b, bs ++ us, by rw [hbytes, List.cons_append]⟩
  induction cs generalizing ds with
  | nil =>
      cases ds with
      | nil => rfl
      | cons d ds =>
          obtain ⟨b, bs, hbytes⟩ := hempty d (encode ds)
          rw [encode_cons, hbytes]
          rfl
  | cons c cs ih =>
      cases ds with
      | nil =>
          obtain ⟨b, bs, hbytes⟩ := hempty c (encode cs)
          rw [encode_cons, hbytes]
          rfl
      | cons d ds =>
          rw [encode_cons, encode_cons, compare_utf8EncodeChar_append, ih, List.map_cons,
            List.map_cons, List.compare_cons_cons]

end LineGlob.Text
