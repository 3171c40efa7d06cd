/-
Lines, and the bytes they were cut from.

Lines are kept without their newlines, and so nothing in a list of lines tells where it
came from.  What the bytes themselves consist of are segments: each ends at a newline,
except perhaps the last, which may end where the bytes do.  `Segments` says when a list
is the list of all segments of some bytes, and there is always exactly one.

Taking the newline off each segment gives the lines (`ofBytes_eq_map_trim`), and putting
one behind each line completes the segments (`trim_append_newline`).

Every fact here follows the bytes newline by newline: either there is none, or there is
a first one, with no newline before it and any bytes behind it.
-/
import LineGlob.Input.Lines
import Mathlib.Data.List.DropRight

namespace LineGlob.Lines

/-! ### Newline by newline -/

/-- What holds of bytes without a newline, and of bytes with a first newline if it holds of those
behind it, holds of all bytes. -/
theorem induction {P : Bytes → Prop} (last : ∀ body, newline ∉ body → P body)
    (cons : ∀ body rest, newline ∉ body → P rest → P (body ++ newline :: rest)) (bytes : Bytes) :
    P bytes := by
  by_cases hmem : newline ∈ bytes
  · obtain ⟨body, rest, hbytes, hbody⟩ := List.eq_append_cons_of_mem hmem
    have hrest : rest.length < bytes.length := by
      rw [hbytes, List.length_append, List.length_cons]
      omega
    exact hbytes ▸ cons body rest hbody (induction last cons rest)
  · exact last bytes hmem
termination_by bytes.length

/-- The lines before the one that is being read stay as they are. -/
theorem scan_done (line : Bytes) (done : List Bytes) (bytes : Bytes) :
    scan line done bytes =
      (done.reverse ++ (scan line [] bytes).1, (scan line [] bytes).2) := by
  induction bytes generalizing line done with
  | nil => simp [scan]
  | cons b bytes ih =>
      unfold scan
      split
      · rw [ih [] (line.reverse :: done), ih [] [line.reverse]]
        simp
      · rw [ih (b :: line) done]

/-- Bytes that are no newlines go on in the line. -/
theorem scan_append_of_notMem {body : Bytes} (hbody : newline ∉ body) (line : Bytes)
    (done : List Bytes) (bytes : Bytes) :
    scan line done (body ++ bytes) = scan (body.reverse ++ line) done bytes := by
  induction body generalizing line with
  | nil => rfl
  | cons b body ih =>
      obtain ⟨hb, hbody⟩ := not_or.mp (mt List.mem_cons.mpr hbody)
      rw [List.cons_append, scan, if_neg (Ne.symm hb), ih hbody]
      simp

theorem split_of_notMem {body : Bytes} (hbody : newline ∉ body) : split body = ([], body) := by
  have hscan := scan_append_of_notMem hbody [] [] []
  rw [List.append_nil, List.append_nil] at hscan
  rw [split, hscan, scan, List.reverse_nil, List.reverse_reverse]

theorem split_append_cons {body : Bytes} (hbody : newline ∉ body) (rest : Bytes) :
    split (body ++ newline :: rest) = (body :: (split rest).1, (split rest).2) := by
  rw [split, scan_append_of_notMem hbody, scan, if_pos rfl, scan_done, List.append_nil,
    List.reverse_reverse]
  rfl

theorem ofBytes_of_notMem {body : Bytes} (hbody : newline ∉ body) :
    ofBytes body = if body.isEmpty then [] else [body] := by
  rw [ofBytes, split_of_notMem hbody]
  rfl

theorem ofBytes_append_cons {body : Bytes} (hbody : newline ∉ body) (rest : Bytes) :
    ofBytes (body ++ newline :: rest) = body :: ofBytes rest := by
  unfold ofBytes
  rw [split_append_cons hbody]
  dsimp only
  split
  · rfl
  · rfl

/-! ### Segments -/

/-- The segments of some bytes: what ends at each newline in turn, and what follows the last one
unless that is nothing. -/
inductive Segments : Bytes → List Bytes → Prop
  | nil : Segments [] []
  | last {body : Bytes} (hbody : newline ∉ body) (hne : body ≠ []) : Segments body [body]
  | cons {body rest : Bytes} {segs : List Bytes} (hbody : newline ∉ body)
      (hrest : Segments rest segs) :
      Segments (body ++ newline :: rest) ((body ++ [newline]) :: segs)

/-- A segment without one given byte at its end. -/
def trim (b : UInt8) (segment : Bytes) : Bytes :=
  if segment.getLast? = some b then segment.dropLast else segment

/-- A segment with a newline at its end, which it is given if it has none. -/
def completed (segment : Bytes) : Bytes :=
  if segment.getLast? = some newline then segment else segment ++ [newline]

theorem trim_of_notMem {b : UInt8} {segment : Bytes} (h : b ∉ segment) :
    trim b segment = segment := by
  rw [trim, if_neg]
  intro hlast
  exact h (List.mem_of_getLast? hlast)

theorem trim_concat (b : UInt8) (segment : Bytes) : trim b (segment ++ [b]) = segment := by
  rw [trim, if_pos List.getLast?_concat, List.dropLast_concat]

/-- A newline behind a line completes the segment that the line was. -/
theorem trim_append_newline (segment : Bytes) :
    trim newline segment ++ [newline] = completed segment := by
  unfold trim completed
  split
  · next hlast =>
      obtain ⟨body, rfl⟩ := List.getLast?_eq_some_iff.mp hlast
      rw [List.dropLast_concat]
  · rfl

/-- All bytes have segments. -/
theorem exists_segments (bytes : Bytes) : ∃ segs, Segments bytes segs := by
  induction bytes using induction with
  | last body hbody =>
      by_cases hne : body = []
      · exact ⟨[], hne ▸ .nil⟩
      · exact ⟨[body], .last hbody hne⟩
  | cons body rest hbody ih =>
      obtain ⟨segs, hsegs⟩ := ih
      exact ⟨_, .cons hbody hsegs⟩

/-- A first newline is the first newline. -/
theorem append_cons_inj {body body' rest rest' : Bytes} (hbody : newline ∉ body)
    (hbody' : newline ∉ body') (h : body ++ newline :: rest = body' ++ newline :: rest') :
    body = body' ∧ rest = rest' := by
  have hsplit := congrArg split h
  rw [split_append_cons hbody, split_append_cons hbody', Prod.mk.injEq, List.cons.injEq] at hsplit
  obtain ⟨⟨rfl, -⟩, -⟩ := hsplit
  exact ⟨rfl, (List.cons.inj (List.append_cancel_left h)).2⟩

/-- **Bytes have no two lists of segments.** -/
theorem Segments.unique {bytes : Bytes} {segs segs' : List Bytes} (h : Segments bytes segs)
    (h' : Segments bytes segs') : segs = segs' := by
  induction h generalizing segs' with
  | nil =>
      generalize hempty : ([] : Bytes) = bytes at h'
      cases h' with
      | nil => rfl
      | last _ hne => exact absurd hempty.symm hne
      | cons _ _ => simp at hempty
  | @last body hbody hne =>
      cases h' with
      | nil => exact absurd rfl hne
      | last => rfl
      | cons => simp at hbody
  | @cons body rest segs hbody _ ih =>
      generalize hbytes : body ++ newline :: rest = bytes at h'
      cases h' with
      | nil => simp at hbytes
      | last hnew => simp [← hbytes] at hnew
      | cons hbody' hrest' =>
          obtain ⟨rfl, rfl⟩ := append_cons_inj hbody hbody' hbytes
          rw [ih hrest']

/-- **Lines are segments without their newlines.** -/
theorem Segments.ofBytes_eq {bytes : Bytes} {segs : List Bytes} (h : Segments bytes segs) :
    ofBytes bytes = segs.map (trim newline) := by
  induction h with
  | nil => rfl
  | @last body hbody hne =>
      rw [ofBytes_of_notMem hbody, if_neg (by simpa using hne), List.map_singleton,
        trim_of_notMem hbody]
  | cons hbody _ ih => rw [ofBytes_append_cons hbody, List.map_cons, trim_concat, ih]

/-! ### Complete lines -/

/-- The bytes up to and with the last newline. -/
def complete (bytes : Bytes) : Bytes :=
  bytes.rdropWhile (· ≠ newline)

theorem complete_of_notMem {body : Bytes} (hbody : newline ∉ body) : complete body = [] := by
  unfold complete
  rw [List.rdropWhile_eq_nil_iff]
  intro b hb
  exact decide_eq_true fun h => hbody (h ▸ hb)

theorem complete_append_cons (body rest : Bytes) :
    complete (body ++ newline :: rest) = body ++ newline :: complete rest := by
  unfold complete List.rdropWhile
  rw [List.reverse_append, List.reverse_cons, List.append_assoc, List.dropWhile_append]
  split
  · next hnone =>
      rw [List.isEmpty_iff.mp hnone]
      simp
  · simp

/-- **The lines that end at a newline are the lines of the bytes up to the last one.** -/
theorem ofBytes_complete (bytes : Bytes) : ofBytes (complete bytes) = (split bytes).1 := by
  induction bytes using induction with
  | last body hbody =>
      rw [complete_of_notMem hbody, split_of_notMem hbody]
      rfl
  | cons body rest hbody ih =>
      rw [complete_append_cons, ofBytes_append_cons hbody, split_append_cons hbody, ih]

end LineGlob.Lines
