/-
A source can be read by slicing it.

Reading a source takes elements off its front, and what is left is again a list of
characters.  Where a source is kept as bytes the same is done with offsets: the source is
sliced one or two bytes further on, or behind the body of a set, whose end has been computed
by adding up the bytes of its members.  Such an offset could fall inside a character, and a
loop that goes by offsets could fail to end.

`Sliced` reads a source in this way.  Each slice in it can refuse its offset, and each loop
has a number of turns after which it gives up, so that a result says that neither has
happened.  What is shown is that it reads what the reader of lists reads: `scan_eq` for the
body of a set, `step_eq` for one element and `read_eq` for a source.

A loop is described by its course (`Runs`), the states it goes through and the result it
comes to.  That a loop has a course is an induction over what the reader of lists does, one
turn for each of its steps, and so is how long the course is.  The invariant of the scan is
that its offset is the size of what has been passed over, and that the place it may have to
go back to, which is a number of members and an offset, is the reading that the other scan
keeps for that case.  Where the states of a course stand needs no induction over the source:
a turn that succeeds has sliced at a place, and the next one slices further on.
-/
import LineGlob.Proofs.Pattern.SetLanguage
import LineGlob.Proofs.Text.Offset

namespace LineGlob

open Text (IsBoundary)

namespace Sliced

/-! ### Slices and loops that can fail -/

/-- What can go wrong where a source is read by offsets. -/
inductive Fault where
  /-- The source is sliced inside a character. -/
  | offBoundary (pos : Nat)
  /-- A loop has had its turns and is not over. -/
  | unfinished
deriving DecidableEq, Repr

/-- The text from an offset on. -/
def slice (text : List Char) (pos : Nat) : Except Fault (List Char) :=
  (Text.slice text pos).mapError fun off => .offBoundary off.pos

theorem slice_append_size (before rest : List Char) :
    slice (before ++ rest) (Text.size before) = .ok rest := by
  unfold slice
  rw [Text.slice_append_size]
  rfl

/-- **A slice is taken at a place only.** -/
theorem isBoundary_of_slice {text rest : List Char} {pos : Nat} (h : slice text pos = .ok rest) :
    IsBoundary text pos := by
  unfold slice Text.slice at h
  unfold Text.IsBoundary
  cases hfrom : Text.from? text pos with
  | none =>
      rw [hfrom] at h
      cases h
  | some left => rfl

/-- How a turn of a loop ends. -/
inductive Turn (σ α : Type) where
  /-- The loop goes on from a state. -/
  | again (s : σ)
  /-- The loop is over. -/
  | done (a : α)
deriving DecidableEq, Repr

variable {σ α : Type}

/-- Runs a loop that may take so many turns.  Returns the states it has been in and its result. -/
def loop (turn : σ → Except Fault (Turn σ α)) : Nat → σ → Except Fault (List σ × α)
  | 0, _ => .error .unfinished
  | turns + 1, s => do
    match ← turn s with
    | .done a => return ([s], a)
    | .again s' =>
      let (states, a) ← loop turn turns s'
      return (s :: states, a)

/-- The course of a loop: the states it goes through and the result it comes to. -/
inductive Runs (turn : σ → Except Fault (Turn σ α)) : σ → List σ → α → Prop
  | done {s : σ} {a : α} (h : turn s = .ok (.done a)) : Runs turn s [s] a
  | again {s s' : σ} {states : List σ} {a : α} (h : turn s = .ok (.again s'))
      (hrest : Runs turn s' states a) : Runs turn s (s :: states) a

section Runs

variable {turn : σ → Except Fault (Turn σ α)} {s : σ} {states : List σ} {a : α}

/-- **A loop that has enough turns takes its course.** -/
theorem Runs.loop_eq (h : Runs turn s states a) {turns : Nat} (hturns : states.length ≤ turns) :
    loop turn turns s = .ok (states, a) := by
  induction h generalizing turns with
  | done hdone =>
      cases turns with
      | zero => simp at hturns
      | succ turns =>
          rw [loop, hdone]
          rfl
  | @again s s' states a hagain hrest ih =>
      cases turns with
      | zero => simp at hturns
      | succ turns =>
          have hloop : loop turn turns s' = .ok (states, a) := ih (by simpa using hturns)
          rw [loop, hagain]
          show (loop turn turns s' >>= fun r => .ok (s :: r.1, r.2)) = _
          rw [hloop]
          rfl

/-- No turn of a course fails. -/
theorem Runs.exists_turn (h : Runs turn s states a) :
    ∀ t ∈ states, ∃ next, turn t = .ok next := by
  induction h with
  | done hdone => simpa using ⟨_, hdone⟩
  | again hagain _ ih => exact List.forall_mem_cons.mpr ⟨⟨_, hagain⟩, ih⟩

/-- What grows with each turn grows along a course. -/
theorem Runs.pairwise {f : σ → Nat} (hturn : ∀ s s', turn s = .ok (.again s') → f s < f s')
    (h : Runs turn s states a) : (∀ t ∈ states, f s ≤ f t) ∧ (states.map f).Pairwise (· < ·) := by
  induction h with
  | done => simp
  | again hagain _ ih =>
      obtain ⟨hleast, hpairwise⟩ := ih
      have hlt := hturn _ _ hagain
      refine ⟨?_, ?_⟩
      · refine List.forall_mem_cons.mpr ⟨Nat.le_refl _, ?_⟩
        intro t ht
        exact Nat.le_of_lt (Nat.lt_of_lt_of_le hlt (hleast t ht))
      · rw [List.map_cons, List.pairwise_cons]
        refine ⟨?_, hpairwise⟩
        intro n hn
        obtain ⟨t, ht, rfl⟩ := List.mem_map.mp hn
        exact Nat.lt_of_lt_of_le hlt (hleast t ht)

end Runs

/-! ### The body of a set -/

/-- Where the scan of a set's body stands. -/
structure Scan where
  /-- The members so far, in the order in which they were written. -/
  members : List Char
  /-- The number of members before the last `\]`, and its offset. -/
  lastEscape : Option (Nat × Nat)
  /-- The offset that is looked at next. -/
  i : Nat
deriving DecidableEq, Repr

namespace Scan

/-- The answer if no closing bracket is left.  The last `\]` is a member and the bracket then. -/
def givenBack (s : Scan) : Option (List Char × Nat) :=
  s.lastEscape.map fun (n, place) => (s.members.take n ++ ['\\'], place + 2)

/-- What the scan does about what is left of the body. -/
def look (s : Scan) : List Char → Turn Scan (Option (List Char × Nat))
  | [] => .done s.givenBack
  | '\\' :: ']' :: _ => .again ⟨s.members ++ [']'], some (s.members.length, s.i), s.i + 2⟩
  | ']' :: _ => .done (if s.members.isEmpty then none else some (s.members, s.i + 1))
  | c :: _ => .again ⟨s.members ++ [c], s.lastEscape, s.i + c.utf8Size⟩

/-- A turn of the scan slices the body where the scan stands. -/
def turn (body : List Char) (s : Scan) : Except Fault (Turn Scan (Option (List Char × Nat))) :=
  (slice body s.i).map s.look

end Scan

/-- Scans the body of a set.  Returns where it has stood, and the members and the number of bytes
up to and including the closing bracket if there is a set. -/
def scan (body : List Char) : Except Fault (List Scan × Option (List Char × Nat)) :=
  loop (Scan.turn body) (body.length + 1) ⟨[], none, 0⟩

/-- The body of a set as members and a number of bytes. -/
def answer (source : List Char) (body : SetBody) : List Char × Nat :=
  (body.members, SetBody.consumed source body)

namespace Scan

variable {body : List Char} {s s' : Scan}

theorem turn_eq {passed left : List Char} (hbody : body = passed ++ left)
    (members : List Char) (lastEscape : Option (Nat × Nat)) :
    turn body ⟨members, lastEscape, Text.size passed⟩ =
      .ok (look ⟨members, lastEscape, Text.size passed⟩ left) := by
  unfold turn
  rw [hbody, slice_append_size]
  rfl

variable {next : Turn Scan (Option (List Char × Nat))}

/-- A turn that succeeds has sliced the body and looked at what is left. -/
theorem exists_left_of_turn (h : s.turn body = .ok next) :
    ∃ left, slice body s.i = .ok left ∧ s.look left = next := by
  unfold turn at h
  cases hslice : slice body s.i with
  | error fault =>
      rw [hslice] at h
      cases h
  | ok left =>
      rw [hslice] at h
      exact ⟨left, rfl, Except.ok.inj h⟩

theorem isBoundary_of_turn (h : s.turn body = .ok next) : IsBoundary body s.i := by
  obtain ⟨left, hslice, -⟩ := exists_left_of_turn h
  exact isBoundary_of_slice hslice

/-- **Each turn goes further on.** -/
theorem i_lt_of_turn (h : s.turn body = .ok (.again s')) : s.i < s'.i := by
  obtain ⟨left, -, hlook⟩ := exists_left_of_turn h
  revert hlook
  fun_cases look s left with
  | case1 => simp
  | case2 =>
      rintro ⟨⟩
      simp
  | case3 => simp
  | case4 c later hpair hclose =>
      rintro ⟨⟩
      have hpos : 0 < c.utf8Size := c.utf8Size_pos
      simp only
      omega

theorem answer_append (passed rest members : List Char) :
    answer (passed ++ rest) ⟨members, rest⟩ = (members, Text.size passed) := by
  unfold answer
  rw [SetBody.consumed_append]

/-- **The scan by offsets takes the course of the scan of a list.** -/
theorem runs (members left : List Char) (fallback : Option SetBody)
    (lastEscape : Option (Nat × Nat)) (passed : List Char) (hbody : body = passed ++ left)
    (hwithin : ∀ n place, lastEscape = some (n, place) → n ≤ members.length)
    (hback : givenBack ⟨members.reverse, lastEscape, Text.size passed⟩ =
      fallback.map (answer body)) :
    ∃ states, Runs (turn body) ⟨members.reverse, lastEscape, Text.size passed⟩ states
        ((SetBody.scan members fallback left).map (answer body)) ∧
      states.length ≤ left.length + 1 := by
  have hturn := turn_eq hbody members.reverse lastEscape
  fun_induction SetBody.scan members fallback left generalizing lastEscape passed with
  | case1 members fallback =>
      refine ⟨_, Runs.done ?_, by simp⟩
      rw [hturn, look, hback]
  | case2 members fallback rest ih =>
      have hbody' : body = (passed ++ ['\\', ']']) ++ rest := by rw [hbody, List.append_assoc]; rfl
      have hsize : Text.size (passed ++ ['\\', ']']) = Text.size passed + 2 := by
        rw [Text.size_append]
        rfl
      -- What is given back from here on is what the other scan keeps as its fallback.
      have hback' : givenBack ⟨(']' :: members).reverse, some (members.length, Text.size passed),
          Text.size (passed ++ ['\\', ']'])⟩ =
            (some ⟨('\\' :: members).reverse, rest⟩ : Option SetBody).map (answer body) := by
        rw [Option.map_some, hbody', answer_append, hsize]
        simp [givenBack]
      obtain ⟨states, hruns, hlength⟩ := ih (some (members.length, Text.size passed)) _ hbody'
        (by simp) hback' (turn_eq hbody' _ _)
      refine ⟨_, Runs.again ?_ hruns, ?_⟩
      · rw [hturn, look, hsize, List.length_reverse, List.reverse_cons]
      · simp only [List.length_cons]
        omega
  | case3 members fallback rest hmembers =>
      refine ⟨_, Runs.done ?_, by simp⟩
      rw [hturn, look]
      simp [hmembers]
  | case4 members fallback rest hmembers =>
      have hbody' : body = (passed ++ [']']) ++ rest := by rw [hbody, List.append_assoc]; rfl
      have hsize : Text.size (passed ++ [']']) = Text.size passed + 1 := by
        rw [Text.size_append]
        rfl
      refine ⟨_, Runs.done ?_, by simp⟩
      rw [hturn, look, Option.map_some, hbody', answer_append, hsize]
      simp [hmembers]
  | case5 members fallback c rest hpair hclose ih =>
      have hbody' : body = (passed ++ [c]) ++ rest := by rw [hbody, List.append_assoc]; rfl
      have hsize : Text.size (passed ++ [c]) = Text.size passed + c.utf8Size := by
        rw [Text.size_append]
        rfl
      have hback' : givenBack ⟨(c :: members).reverse, lastEscape, Text.size (passed ++ [c])⟩ =
          fallback.map (answer body) := by
        rw [← hback]
        cases lastEscape with
        | none => rfl
        | some escape =>
            have hle : escape.1 ≤ members.reverse.length := by
              rw [List.length_reverse]
              exact hwithin escape.1 escape.2 rfl
            simp only [givenBack, Option.map_some, List.reverse_cons,
              List.take_append_of_le_length hle]
      have hwithin' : ∀ n place, lastEscape = some (n, place) → n ≤ (c :: members).length := by
        intro n place hescape
        exact Nat.le_succ_of_le (hwithin n place hescape)
      obtain ⟨states, hruns, hlength⟩ :=
        ih lastEscape _ hbody' hwithin' hback' (turn_eq hbody' _ _)
      refine ⟨_, Runs.again ?_ hruns, ?_⟩
      · rw [hturn, look, hsize, List.reverse_cons]
        · exact hpair
        · exact hclose
      · simp only [List.length_cons]
        omega

end Scan

/-- **The scan by offsets ends and reads what the scan of a list reads.** -/
theorem scan_eq (body : List Char) :
    ∃ states, scan body = .ok (states, (SetBody.read? body).map (answer body)) ∧
      Runs (Scan.turn body) ⟨[], none, 0⟩ states ((SetBody.read? body).map (answer body)) ∧
      states.length ≤ body.length + 1 := by
  obtain ⟨states, hruns, hlength⟩ := Scan.runs [] body none none [] rfl (by simp) rfl
  exact ⟨states, hruns.loop_eq hlength, hruns, hlength⟩

-- no bracket is left to close the set, so the last one is given back
example : scan ['é', '\\', ']', 'c'] =
    .ok ([⟨[], none, 0⟩, ⟨['é'], none, 2⟩, ⟨['é', ']'], some (1, 2), 4⟩,
      ⟨['é', ']', 'c'], some (1, 2), 5⟩], some (['é', '\\'], 4)) := by
  rfl

/-- A set ends with a closing bracket, and a member comes before it. -/
theorem exists_split_of_read? {source : List Char} {body : SetBody}
    (h : SetBody.read? source = some body) :
    ∃ passed, passed ≠ [] ∧ source = (passed ++ [']']) ++ body.rest := by
  obtain ⟨members, rest⟩ := body
  have hbody := SetBody.read?_eq_some_iff.mp h
  have hne : members ≠ [] := hbody.nonempty
  obtain ⟨_, pieces, ⟨rfl, hpieces⟩, hsource⟩ := SetBody.closes_iff_exists_cut.mp hbody.closes
  refine ⟨pieces.flatten, ?_, hsource⟩
  cases hpieces with
  | nil => exact absurd rfl hne
  | cons hpiece _ => cases hpiece <;> simp

/-- **The number of bytes of a set** leads to a place behind a closing bracket that is not the first
character. -/
theorem count_of_read? {source : List Char} {body : SetBody}
    (h : SetBody.read? source = some body) :
    2 ≤ SetBody.consumed source body ∧ IsBoundary source (SetBody.consumed source body) ∧
      (Text.encode source)[SetBody.consumed source body - 1]? = some 0x5d := by
  obtain ⟨passed, hpassed, hsource⟩ := exists_split_of_read? h
  have hcount : SetBody.consumed source body = Text.size passed + 1 := by
    rw [hsource, SetBody.consumed_append, Text.size_append]
    rfl
  have hpos : Text.size passed ≠ 0 := fun hzero => hpassed (Text.size_eq_zero.mp hzero)
  refine ⟨by omega, ?_, ?_⟩
  · rw [hsource, SetBody.consumed_append]
    exact Text.isBoundary_size_append _ _
  · rw [hcount, Nat.add_sub_cancel, hsource, Text.encode_append, Text.encode_append,
      ← Text.length_encode passed, List.append_assoc, List.getElem?_append_right (Nat.le_refl _),
      Nat.sub_self]
    rfl

/-! ### One element -/

/-- Reads the element that starts with `c`.  What follows it is sliced off the source. -/
def step (c : Char) (rest : List Char) : Except Fault (Element × List Char) :=
  match c with
  | '\\' =>
    match rest with
    | escaped :: _ =>
      if Element.isSpecial escaped then do return (.char escaped, ← slice (c :: rest) 2)
      else do return (.char '\\', ← slice (c :: rest) 1)
    | [] => do return (.char '\\', ← slice [c] 1)
  | '?' => do return (.any, ← slice (c :: rest) 1)
  | '*' => do return (.star, ← slice (c :: rest) 1)
  | '[' => do
    let (_, found) ← scan (← slice (c :: rest) 1)
    match found with
    | some (members, count) => return (.set members, ← slice (c :: rest) (1 + count))
    | none => return (.char '[', ← slice (c :: rest) 1)
  | c => .ok (.char c, rest)

theorem slice_one {c : Char} (hc : c.utf8Size = 1) (rest : List Char) :
    slice (c :: rest) 1 = .ok rest := by
  have hslice := slice_append_size [c] rest
  rwa [Text.size_cons, hc] at hslice

theorem utf8Size_of_isSpecial {c : Char} (h : Element.isSpecial c = true) : c.utf8Size = 1 := by
  have hmem := Element.isSpecial_iff.mp h
  simp only [List.mem_cons, List.not_mem_nil, or_false] at hmem
  rcases hmem with rfl | rfl | rfl | rfl <;> rfl

/-- Behind the body of a set is what the scan has left. -/
theorem slice_consumed {rest : List Char} {body : SetBody} (h : SetBody.read? rest = some body) :
    slice ('[' :: rest) (1 + SetBody.consumed rest body) = .ok body.rest := by
  obtain ⟨passed, -, hrest⟩ := exists_split_of_read? h
  have hcount : SetBody.consumed rest body = Text.size (passed ++ [']']) := by
    rw [hrest, SetBody.consumed_append]
  have hslice := slice_append_size ('[' :: (passed ++ [']'])) body.rest
  rwa [Text.size_cons, List.cons_append, ← hrest, ← hcount] at hslice

/-- **One element is read as from a list.** -/
theorem step_eq (c : Char) (rest : List Char) : step c rest = .ok (Element.next c rest) := by
  fun_cases Element.next c rest with
  | case1 escaped later hspecial =>
      have hslice : slice ('\\' :: escaped :: later) 2 = .ok later := by
        have hslice := slice_append_size ['\\', escaped] later
        rwa [Text.size_cons, Text.size_cons, utf8Size_of_isSpecial hspecial] at hslice
      simp only [step, hspecial, if_true, hslice]
      rfl
  | case2 escaped later hplain =>
      simp only [step, hplain, Bool.false_eq_true, if_false, slice_one (c := '\\') rfl]
      rfl
  | case3 => rfl
  | case4 =>
      simp only [step, slice_one (c := '?') rfl]
      rfl
  | case5 =>
      simp only [step, slice_one (c := '*') rfl]
      rfl
  | case6 rest body hread =>
      obtain ⟨states, hscan, -⟩ := scan_eq rest
      rw [hread] at hscan
      simp only [step, slice_one (c := '[') rfl]
      show (scan rest >>= _) = _
      rw [hscan]
      show (slice ('[' :: rest) (1 + SetBody.consumed rest body) >>= _) = _
      rw [slice_consumed hread]
      rfl
  | case7 rest hread =>
      obtain ⟨states, hscan, -⟩ := scan_eq rest
      rw [hread] at hscan
      simp only [step, slice_one (c := '[') rfl]
      show (scan rest >>= _) = _
      rw [hscan]
      rfl
  | case8 hslash hany hstar hset => simp only [step]

/-- **An element is taken off the front of a source.** -/
theorem exists_piece (c : Char) (rest : List Char) :
    ∃ piece, piece ≠ [] ∧ c :: rest = piece ++ (Element.next c rest).2 := by
  fun_cases Element.next c rest with
  | case1 escaped later => exact ⟨['\\', escaped], by simp, rfl⟩
  | case2 escaped later => exact ⟨['\\'], by simp, rfl⟩
  | case3 => exact ⟨['\\'], by simp, rfl⟩
  | case4 => exact ⟨['?'], by simp, rfl⟩
  | case5 => exact ⟨['*'], by simp, rfl⟩
  | case6 rest body hread =>
      obtain ⟨passed, -, hrest⟩ := exists_split_of_read? hread
      exact ⟨'[' :: (passed ++ [']']), by simp, by rw [List.cons_append, ← hrest]⟩
  | case7 rest hread => exact ⟨['['], by simp, rfl⟩
  | case8 => exact ⟨[c], by simp, rfl⟩

/-! ### A source -/

/-- How far a source has been read. -/
structure Reading where
  rest : List Char
  /-- The elements so far. -/
  elements : List Element
deriving DecidableEq, Repr

/-- A turn reads one element, unless nothing is left. -/
def Reading.turn (r : Reading) : Except Fault (Turn Reading (List Element)) :=
  match r.rest with
  | [] => .ok (.done r.elements)
  | c :: rest => do
    let (e, later) ← step c rest
    return .again ⟨later, r.elements ++ [e]⟩

/-- Reads a source.  Returns how far it has been read after each element, and the elements. -/
def read (source : List Char) : Except Fault (List Reading × List Element) :=
  loop Reading.turn (source.length + 1) ⟨source, []⟩

/-- What is taken off the source from one state to the next. -/
def pieces : List Reading → List (List Char)
  | r :: r' :: later => r.rest.take (r.rest.length - r'.rest.length) :: pieces (r' :: later)
  | _ => []

theorem pieces_cons (r r' : Reading) (later : List Reading) {piece : List Char}
    (h : r.rest = piece ++ r'.rest) :
    pieces (r :: r' :: later) = piece :: pieces (r' :: later) := by
  rw [pieces, h, List.length_append, Nat.add_sub_cancel, List.take_left]

theorem Runs.exists_cons {turn : σ → Except Fault (Turn σ α)} {s : σ} {states : List σ} {a : α}
    (h : Runs turn s states a) : ∃ later, states = s :: later := by
  cases h with
  | done => exact ⟨[], rfl⟩
  | again => exact ⟨_, rfl⟩

/-- **A source is read to its end, one element in each turn.** -/
theorem Reading.runs (source : List Char) (elements : List Element) :
    ∃ states, Runs turn ⟨source, elements⟩ states (elements ++ Element.ofSource source) ∧
      states.length = (Element.ofSource source).length + 1 ∧
      (∀ piece ∈ pieces states, piece ≠ []) ∧ (pieces states).flatten = source := by
  fun_induction Element.ofSource source generalizing elements with
  | case1 => exact ⟨_, Runs.done (by simp [turn]), by simp [pieces]⟩
  | case2 c rest ih =>
      obtain ⟨piece, hpiece, hsource⟩ := exists_piece c rest
      obtain ⟨states, hruns, hlength, hpieces, hflatten⟩ :=
        ih (elements ++ [(Element.next c rest).1])
      rw [List.append_assoc, List.singleton_append] at hruns
      have hturn : turn ⟨c :: rest, elements⟩ =
          .ok (.again ⟨(Element.next c rest).2, elements ++ [(Element.next c rest).1]⟩) := by
        simp only [turn, step_eq]
        rfl
      obtain ⟨later, rfl⟩ := hruns.exists_cons
      have hcons := pieces_cons ⟨c :: rest, elements⟩
        ⟨(Element.next c rest).2, elements ++ [(Element.next c rest).1]⟩ later hsource
      refine ⟨_, Runs.again hturn hruns, ?_, ?_, ?_⟩
      · rw [List.length_cons, hlength, List.length_cons]
      · rw [hcons]
        exact List.forall_mem_cons.mpr ⟨hpiece, hpieces⟩
      · rw [hcons, List.flatten_cons, hflatten, ← hsource]

theorem length_ofSource_le (source : List Char) :
    (Element.ofSource source).length ≤ source.length := by
  fun_induction Element.ofSource source with
  | case1 => simp
  | case2 c rest ih =>
      have hle := Element.length_next_le c rest
      simp only [List.length_cons]
      omega

/-- **Reading by offsets ends and reads what the reader of lists reads.** -/
theorem read_eq (source : List Char) :
    ∃ states, read source = .ok (states, Element.ofSource source) ∧
      states.length = (Element.ofSource source).length + 1 ∧
      (∀ piece ∈ pieces states, piece ≠ []) ∧ (pieces states).flatten = source := by
  obtain ⟨states, hruns, hlength, hpieces, hflatten⟩ := Reading.runs source []
  have hle := length_ofSource_le source
  refine ⟨states, hruns.loop_eq (by omega), hlength, hpieces, hflatten⟩

/-- **Reading a source ends, and slices it at places only.**  Each element is sliced off at a place
behind the first character, so that less is left.  The scan of a set's body goes further on with
each turn and stands at places, and if there is a set its number of bytes is at least two, leads to
a place in the body, and has the closing bracket as its last byte.  A source is therefore read in
at most as many steps as it has characters, and the pieces that the steps take make up the source.
In all of this the answers are those of the reader of lists. -/
theorem read_slices_at_places (source : List Char) :
    (∀ c rest, ∃ e later pos, step c rest = .ok (e, later) ∧
        IsBoundary (c :: rest) pos ∧ 0 < pos ∧ Text.slice (c :: rest) pos = .ok later ∧
        later <:+ c :: rest ∧ later.length < (c :: rest).length ∧
        Text.size later < Text.size (c :: rest) ∧ Element.next c rest = (e, later)) ∧
      (∀ body, ∃ states found, scan body = .ok (states, found) ∧
        states.length ≤ body.length + 1 ∧ (states.map Scan.i).Pairwise (· < ·) ∧
        (∀ s ∈ states, IsBoundary body s.i) ∧
        (∀ members count, found = some (members, count) →
          2 ≤ count ∧ count ≤ Text.size body ∧ IsBoundary body count ∧
            (Text.encode body)[count - 1]? = some 0x5d) ∧
        found = (SetBody.read? body).map fun b => (b.members, SetBody.consumed body b)) ∧
      ∃ states es, read source = .ok (states, es) ∧ es.length ≤ source.length ∧
        states.length = es.length + 1 ∧ (∀ piece ∈ pieces states, piece ≠ []) ∧
        (pieces states).flatten = source ∧ es = Element.ofSource source ∧
        ∀ fold, Program.ofElements fold es = Program.ofSource fold source := by
  refine ⟨?_, ?_, ?_⟩
  · intro c rest
    obtain ⟨piece, hpiece, hsource⟩ := exists_piece c rest
    have hpos : 0 < Text.size piece :=
      Nat.pos_of_ne_zero fun hzero => hpiece (Text.size_eq_zero.mp hzero)
    have hlength : 0 < piece.length := List.length_pos_iff.mpr hpiece
    refine ⟨(Element.next c rest).1, (Element.next c rest).2, Text.size piece, step_eq c rest,
      ?_, hpos, ?_, ?_, ?_, ?_, rfl⟩
    · rw [hsource]
      exact Text.isBoundary_size_append _ _
    · rw [hsource]
      exact Text.slice_append_size _ _
    · rw [hsource]
      exact List.suffix_append _ _
    · rw [hsource, List.length_append]
      omega
    · rw [hsource, Text.size_append]
      omega
  · intro body
    obtain ⟨states, hscan, hruns, hlength⟩ := scan_eq body
    refine ⟨states, _, hscan, hlength, (hruns.pairwise fun _ _ => Scan.i_lt_of_turn).2, ?_, ?_, rfl⟩
    · intro s hs
      obtain ⟨next, hturn⟩ := hruns.exists_turn s hs
      exact Scan.isBoundary_of_turn hturn
    · intro members count hfound
      obtain ⟨b, hread, hanswer⟩ := Option.map_eq_some_iff.mp hfound
      cases hanswer
      obtain ⟨htwo, hplace, hbyte⟩ := count_of_read? hread
      exact ⟨htwo, hplace.le_size, hplace, hbyte⟩
  · obtain ⟨states, hread, hlength, hpieces, hflatten⟩ := read_eq source
    exact ⟨states, _, hread, length_ofSource_le source, hlength, hpieces, hflatten, rfl,
      fun _ => rfl⟩

end Sliced

end LineGlob
