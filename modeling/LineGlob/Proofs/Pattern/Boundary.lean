/-
No offset is used that is not a place.

Matching computes offsets in three ways.  A text's size is added to the offset at which
the text was compared, a byte search adds what it passed over, and the sizes of the
characters that tokens took are summed up.  Each of them is sliced at or handed to the
next block, and `Text.slice` refuses an offset that falls inside a character.

An answer alone does not show which offsets were used.  `Recorder` is a monad for the
matching functions in which they are written down: every offset handed to a block, every
offset at which the text is sliced, and every offset that the loop over the blocks has
reached.  `Records` says that this is the only difference it makes, whatever a function
comes to.

The safety argument is then one about single functions.  A block that is asked at a
place uses only places and answers with a place at or behind the first one, and that is
all the loop needs: it goes on from the answer.  The argument asks nothing of the block.
Its tokens may be in any order and its text may be any text, because a text that occurs
in a text byte by byte starts and ends between characters.
-/
import LineGlob.Pattern.Basic
import LineGlob.Proofs.Text.Offset

namespace LineGlob

open Text (OffBoundary IsBoundary Slicer Use)

namespace Text.Use

/-- The offset that is used. -/
def pos : Use → Nat
  | reached pos | asked pos | sliced pos => pos

/-- The offset, if it is one that the loop has reached. -/
def reached? : Use → Option Nat
  | reached pos => some pos
  | asked _ | sliced _ => none

end Text.Use

namespace Recorded

/-! ### Writing offsets down -/

/-- A computation that keeps a list of the offsets it uses, in order. -/
abbrev Recorder :=
  StateT (List Use) (Except OffBoundary)

/-- Writes a use down. -/
def note (use : Use) : Recorder Unit := fun log => .ok ((), log ++ [use])

/-- All uses are written down, and slicing is one of them. -/
instance : Slicer Recorder where
  use := note
  slice text pos := do
    note (.sliced pos)
    Text.slice text pos

/-- Matches a whole text, with the offsets written down. -/
def run (p : Program) (text : List Char) : Recorder Bool :=
  p.runM text

/-! ### Writing down changes nothing -/

variable {α β : Type}

/-- Whatever is written down already, the computation comes to what the plain one comes to. -/
def Records (m : Recorder α) (plain : Except OffBoundary α) : Prop :=
  ∀ log, (m log).map Prod.fst = plain

theorem records_pure (a : α) : Records (pure a) (pure a) := by
  intro log
  rfl

theorem records_use (use : Use) : Records (Slicer.use use) (Slicer.use use) := by
  intro log
  rfl

theorem Records.bind {m : Recorder α} {plain : Except OffBoundary α} {k : α → Recorder β}
    {f : α → Except OffBoundary β} (h : Records m plain) (hk : ∀ a, Records (k a) (f a)) :
    Records (m >>= k) (plain >>= f) := by
  intro log
  have hm := h log
  show (m log >>= fun r => k r.1 r.2).map Prod.fst = plain >>= f
  cases hrun : m log with
  | error e =>
      rw [hrun] at hm
      rw [← hm]
      rfl
  | ok r =>
      rw [hrun] at hm
      rw [← hm]
      exact hk r.1 r.2

theorem records_slice (text : List Char) (pos : Nat) :
    Records (Slicer.slice text pos) (Slicer.slice text pos) := by
  intro log
  show (Text.slice text pos >>= fun rest => .ok (rest, log ++ [.sliced pos])).map Prod.fst =
    Text.slice text pos
  cases Text.slice text pos <;> rfl

variable (b : Block) (fold : Bool) (text : List Char)

theorem records_endAt (pos : Nat) :
    Records (b.endAtM fold text pos) (b.endAt fold text pos) := by
  unfold Block.endAt Block.endAtM
  refine (records_use _).bind fun _ => (records_slice text pos).bind fun rest => ?_
  cases b.literal with
  | none => exact records_pure _
  | some word =>
      by_cases hprefix : (Text.encode word).isPrefixOf (Text.encode rest) = true
      · simp only [if_pos hprefix]
        exact records_pure _
      · simp only [if_neg hprefix]
        exact records_pure _

theorem records_firstMatch (places : List Nat) :
    Records (b.firstMatchM fold text places) (b.firstMatch fold text places) := by
  induction places with
  | nil => exact records_pure _
  | cons pos later ih =>
      refine (records_endAt b fold text pos).bind fun found => ?_
      cases found with
      | none => exact ih
      | some stop => exact records_pure _

theorem records_firstEnd (pos : Nat) :
    Records (b.firstEndM fold text pos) (b.firstEnd fold text pos) := by
  unfold Block.firstEnd Block.firstEndM
  refine (records_use _).bind fun _ => ?_
  cases b.literal with
  | some word => exact (records_slice text pos).bind fun rest => records_pure _
  | none =>
      by_cases hempty : b.tokens.isEmpty = true
      · simp only [if_pos hempty]
        exact records_pure _
      · simp only [if_neg hempty]
        exact (records_slice text pos).bind fun rest => records_firstMatch b fold text _

theorem records_endsText (pos : Nat) :
    Records (b.endsTextM fold text pos) (b.endsText fold text pos) := by
  unfold Block.endsText Block.endsTextM
  refine (records_use _).bind fun _ => (records_slice text pos).bind fun rest => ?_
  cases b.literal with
  | some word => exact records_pure _
  | none =>
      cases b.tokens.length with
      | zero => exact records_pure _
      | succ before =>
          dsimp only
          cases (Text.starts pos rest).reverse[before]? with
          | none => exact records_pure _
          | some start => exact (records_endAt b fold text start).bind fun found => records_pure _

theorem records_matchTail (pos : Nat) (blocks : List Block) :
    Records (Program.matchTailM fold text pos blocks)
      (Program.matchTail fold text pos blocks) := by
  induction blocks generalizing pos with
  | nil => exact (records_use _).bind fun _ => records_pure _
  | cons block later ih =>
      cases later with
      | nil => exact (records_use _).bind fun _ => records_endsText block fold text pos
      | cons next later =>
          refine (records_use _).bind fun _ =>
            (records_firstEnd block fold text pos).bind fun found => ?_
          cases found with
          | none => exact records_pure _
          | some stop => exact ih stop

/-- **A recorded match comes to what the match comes to**, for every program and every text. -/
theorem records_run (p : Program) : Records (run p text) (p.run text) := by
  refine (records_endAt p.head p.fold text 0).bind fun found => ?_
  cases found with
  | none => exact records_pure _
  | some stop => exact records_matchTail p.fold text stop p.tail

/-! ### Where recorded offsets can be -/

/-- Whatever is written down already, the computation comes to an answer, and `Q` is true of the
answer and of the uses that are added. -/
def Returns (m : Recorder α) (Q : α → List Use → Prop) : Prop :=
  ∀ log, ∃ a uses, m log = .ok (a, log ++ uses) ∧ Q a uses

theorem returns_pure {Q : α → List Use → Prop} {a : α} (h : Q a []) : Returns (pure a) Q := by
  intro log
  refine ⟨a, [], ?_, h⟩
  rw [List.append_nil]
  rfl

theorem Returns.imp {m : Recorder α} {P Q : α → List Use → Prop} (h : Returns m P)
    (hPQ : ∀ a uses, P a uses → Q a uses) : Returns m Q := by
  intro log
  obtain ⟨a, uses, hrun, hP⟩ := h log
  exact ⟨a, uses, hrun, hPQ a uses hP⟩

theorem Returns.after_use {m : Recorder α} {Q : α → List Use → Prop} {use : Use}
    (h : Returns m fun a uses => Q a (use :: uses)) :
    Returns (Slicer.use use >>= fun _ => m) Q := by
  intro log
  obtain ⟨a, uses, hrun, hQ⟩ := h (log ++ [use])
  refine ⟨a, use :: uses, ?_, hQ⟩
  rw [List.append_cons]
  exact hrun

theorem Returns.bind {m : Recorder α} {k : α → Recorder β} {P : α → List Use → Prop}
    {Q : β → List Use → Prop} (h : Returns m P)
    (hk : ∀ a first, P a first → Returns (k a) fun c later => Q c (first ++ later)) :
    Returns (m >>= k) Q := by
  intro log
  obtain ⟨a, first, hrun, hP⟩ := h log
  obtain ⟨c, later, hrun', hQ⟩ := hk a first hP (log ++ first)
  refine ⟨c, first ++ later, ?_, hQ⟩
  show (m log >>= fun r => k r.1 r.2) = _
  rw [hrun, ← List.append_assoc]
  exact hrun'

/-- A recorded computation that returns gives the plain one's answer. -/
theorem Returns.plain {m : Recorder α} {plain : Except OffBoundary α} {Q : α → List Use → Prop}
    (h : Returns m Q) (hm : Records m plain) :
    ∃ a uses, m [] = .ok (a, uses) ∧ plain = .ok a ∧ Q a uses := by
  obtain ⟨a, uses, hrun, hQ⟩ := h []
  have hplain := hm []
  rw [hrun] at hplain
  exact ⟨a, uses, hrun, hplain.symm, hQ⟩

/-- The uses of a block: at places only, and none of them made by the loop. -/
structure AtPlaces (text : List Char) (uses : List Use) : Prop where
  isBoundary : ∀ use ∈ uses, IsBoundary text use.pos
  reached : uses.filterMap Use.reached? = []

variable {text}

theorem atPlaces_nil : AtPlaces text [] :=
  ⟨by simp, rfl⟩

theorem AtPlaces.append {first later : List Use} (h : AtPlaces text first)
    (h' : AtPlaces text later) : AtPlaces text (first ++ later) := by
  refine ⟨List.forall_mem_append.mpr ⟨h.isBoundary, h'.isBoundary⟩, ?_⟩
  rw [List.filterMap_append, h.reached, h'.reached, List.append_nil]

theorem atPlaces_asked {pos : Nat} (hpos : IsBoundary text pos) : AtPlaces text [.asked pos] :=
  ⟨by simpa [Use.pos] using hpos, rfl⟩

theorem atPlaces_sliced {pos : Nat} (hpos : IsBoundary text pos) : AtPlaces text [.sliced pos] :=
  ⟨by simpa [Use.pos] using hpos, rfl⟩

/-- An end that a block answers with is a place, at or behind the one it was asked about. -/
def EndsBehind (text : List Char) (pos : Nat) (found : Option Nat) : Prop :=
  ∀ stop ∈ found, IsBoundary text stop ∧ pos ≤ stop

theorem endsBehind_none (text : List Char) (pos : Nat) : EndsBehind text pos none := by
  intro stop hstop
  simp at hstop

/-- An end that is reached by passing over characters. -/
theorem endsBehind_size (before passed rest : List Char) :
    EndsBehind (before ++ (passed ++ rest)) (Text.size before)
      (some (Text.size before + Text.size passed)) := by
  intro stop hstop
  rw [Option.mem_some_iff] at hstop
  rw [← hstop, ← Text.size_append, ← List.append_assoc]
  exact ⟨Text.isBoundary_size_append _ _, by simp⟩

theorem EndsBehind.mono {pos pos' : Nat} {found : Option Nat} (h : EndsBehind text pos' found)
    (hle : pos ≤ pos') : EndsBehind text pos found := by
  intro stop hstop
  obtain ⟨hboundary, hle'⟩ := h stop hstop
  exact ⟨hboundary, Nat.le_trans hle hle'⟩

/-! ### Blocks -/

theorem returns_slice (before rest : List Char) :
    Returns (Slicer.slice (before ++ rest) (Text.size before)) fun cs uses =>
      cs = rest ∧ AtPlaces (before ++ rest) uses := by
  intro log
  refine ⟨rest, [.sliced (Text.size before)], ?_, rfl,
    atPlaces_sliced (Text.isBoundary_size_append before rest)⟩
  show (Text.slice (before ++ rest) (Text.size before) >>= fun cs => _) = _
  rw [Text.slice_append_size]
  rfl

/-- The characters that tokens take are passed over. -/
theorem exists_split_of_take? {fold : Bool} {ts : List Token} {cs : List Char} {pos stop : Nat}
    (h : Block.take? fold ts cs pos = some stop) :
    ∃ word rest, cs = word ++ rest ∧ stop = pos + Text.size word := by
  fun_induction Block.take? fold ts cs pos with
  | case1 cs pos =>
      cases h
      exact ⟨[], cs, rfl, rfl⟩
  | case2 => simp at h
  | case3 t ts c cs pos hadmits ih =>
      obtain ⟨word, rest, rfl, hstop⟩ := ih h
      exact ⟨c :: word, rest, rfl, by rw [hstop, Text.size_cons, Nat.add_assoc]⟩
  | case4 => simp at h

theorem endsBehind_take? (fold : Bool) (ts : List Token) (before rest : List Char) :
    EndsBehind (before ++ rest) (Text.size before)
      (Block.take? fold ts rest (Text.size before)) := by
  cases htake : Block.take? fold ts rest (Text.size before) with
  | none => exact endsBehind_none _ _
  | some stop =>
      obtain ⟨word, later, rfl, rfl⟩ := exists_split_of_take? htake
      exact endsBehind_size before word later

/-- The first occurrence of a text is passed over, and so is the text. -/
theorem endsBehind_firstOccurrence? (word before rest : List Char) :
    EndsBehind (before ++ rest) (Text.size before)
      ((Text.firstOccurrence? (Text.encode word) (Text.encode rest)).map
        (Text.size before + · + Text.size word)) := by
  cases hfound : Text.firstOccurrence? (Text.encode word) (Text.encode rest) with
  | none => exact endsBehind_none _ _
  | some i =>
      obtain ⟨gap, later, rfl, rfl⟩ := Text.exists_split_of_firstOccurrence? hfound
      have hend := endsBehind_size before (gap ++ word) later
      rw [Text.size_append, ← Nat.add_assoc, List.append_assoc] at hend
      exact hend

variable {b fold} {pos : Nat}

/-- **A block that is tried at a place ends at a place.** -/
theorem returns_endAt (hpos : IsBoundary text pos) :
    Returns (b.endAtM fold text pos) fun found uses =>
      AtPlaces text uses ∧ EndsBehind text pos found := by
  have hasked := atPlaces_asked hpos
  obtain ⟨before, rest, rfl, rfl⟩ := Text.isBoundary_iff.mp hpos
  refine Returns.after_use ((returns_slice before rest).bind ?_)
  rintro _ uses ⟨rfl, huses⟩
  have hplaces := hasked.append (huses.append atPlaces_nil)
  cases b.literal with
  | none => exact returns_pure ⟨hplaces, endsBehind_take? fold b.tokens before _⟩
  | some word =>
      dsimp only
      split
      · rename_i hprefix
        obtain ⟨later, rfl⟩ := Text.encode_prefix_iff.mp (List.isPrefixOf_iff_prefix.mp hprefix)
        exact returns_pure ⟨hplaces, endsBehind_size before word later⟩
      · exact returns_pure ⟨hplaces, endsBehind_none _ _⟩

theorem returns_firstMatch {places : List Nat}
    (hplaces : ∀ place ∈ places, IsBoundary text place ∧ pos ≤ place) :
    Returns (b.firstMatchM fold text places) fun found uses =>
      AtPlaces text uses ∧ EndsBehind text pos found := by
  induction places with
  | nil => exact returns_pure ⟨atPlaces_nil, endsBehind_none _ _⟩
  | cons place later ih =>
      obtain ⟨hplace, hle⟩ := hplaces place (by simp)
      refine (returns_endAt hplace).bind ?_
      rintro found uses ⟨huses, hfound⟩
      cases found with
      | none =>
          have hlater := ih fun place' hplace' => hplaces place' (by simp [hplace'])
          exact hlater.imp fun answer more hmore => ⟨huses.append hmore.1, hmore.2⟩
      | some stop => exact returns_pure ⟨huses.append atPlaces_nil, hfound.mono hle⟩

/-- Where the characters behind a place start, there are places behind it. -/
theorem isBoundary_of_mem_starts {before rest : List Char} {place : Nat}
    (h : place ∈ Text.starts (Text.size before) rest) :
    IsBoundary (before ++ rest) place ∧ Text.size before ≤ place := by
  obtain ⟨gap, later, rfl, rfl⟩ := Text.exists_split_of_mem_starts h
  rw [← Text.size_append, ← List.append_assoc]
  exact ⟨Text.isBoundary_size_append _ _, by simp⟩

/-- **A block that is looked for from a place on ends at a place behind it.** -/
theorem returns_firstEnd (hpos : IsBoundary text pos) :
    Returns (b.firstEndM fold text pos) fun found uses =>
      AtPlaces text uses ∧ EndsBehind text pos found := by
  have hasked := atPlaces_asked hpos
  refine Returns.after_use ?_
  cases b.literal with
  | some word =>
      obtain ⟨before, rest, rfl, rfl⟩ := Text.isBoundary_iff.mp hpos
      refine (returns_slice before rest).bind ?_
      rintro _ uses ⟨rfl, huses⟩
      exact returns_pure ⟨hasked.append (huses.append atPlaces_nil),
        endsBehind_firstOccurrence? word before _⟩
  | none =>
      dsimp only
      split
      · refine returns_pure ⟨hasked, ?_⟩
        intro stop hstop
        rw [Option.mem_some_iff] at hstop
        rw [← hstop]
        exact ⟨hpos, Nat.le_refl pos⟩
      · obtain ⟨before, rest, rfl, rfl⟩ := Text.isBoundary_iff.mp hpos
        refine (returns_slice before rest).bind ?_
        rintro _ uses ⟨rfl, huses⟩
        refine (returns_firstMatch fun place hplace => isBoundary_of_mem_starts hplace).imp ?_
        intro found more hmore
        exact ⟨hasked.append (huses.append hmore.1), hmore.2⟩

/-- **A block that is looked for at the end of a text is tried at places only.** -/
theorem returns_endsText (hpos : IsBoundary text pos) :
    Returns (b.endsTextM fold text pos) fun _ uses => AtPlaces text uses := by
  have hasked := atPlaces_asked hpos
  obtain ⟨before, rest, rfl, rfl⟩ := Text.isBoundary_iff.mp hpos
  refine Returns.after_use ((returns_slice before rest).bind ?_)
  rintro _ uses ⟨rfl, huses⟩
  have hplaces := hasked.append (huses.append atPlaces_nil)
  cases b.literal with
  | some word => exact returns_pure hplaces
  | none =>
      cases b.tokens.length with
      | zero => exact returns_pure hplaces
      | succ n =>
          dsimp only
          split
          · rename_i start hstart
            have hmem := List.mem_reverse.mp (List.mem_of_getElem? hstart)
            refine (returns_endAt (isBoundary_of_mem_starts hmem).1).bind ?_
            rintro found more ⟨hmore, -⟩
            exact returns_pure (hasked.append (huses.append (hmore.append atPlaces_nil)))
          · exact returns_pure hplaces

/-! ### The loop over the blocks -/

/-- What the loop writes down from an offset on: places only, and its own offsets in order. -/
structure Ascending (text : List Char) (pos : Nat) (uses : List Use) : Prop where
  isBoundary : ∀ use ∈ uses, IsBoundary text use.pos
  pairwise : (uses.filterMap Use.reached?).Pairwise (· ≤ ·)
  le : ∀ place ∈ uses.filterMap Use.reached?, pos ≤ place

theorem AtPlaces.ascending {uses : List Use} (h : AtPlaces text uses) (pos : Nat) :
    Ascending text pos uses := by
  refine ⟨h.isBoundary, ?_, ?_⟩
  · rw [h.reached]
    exact List.Pairwise.nil
  · rw [h.reached]
    simp

theorem Ascending.mono {pos' : Nat} {uses : List Use} (h : Ascending text pos' uses)
    (hle : pos ≤ pos') : Ascending text pos uses :=
  ⟨h.isBoundary, h.pairwise, fun place hplace => Nat.le_trans hle (h.le place hplace)⟩

theorem AtPlaces.append_ascending {first later : List Use} (h : AtPlaces text first)
    (h' : Ascending text pos later) : Ascending text pos (first ++ later) := by
  have hreached : (first ++ later).filterMap Use.reached? = later.filterMap Use.reached? := by
    rw [List.filterMap_append, h.reached, List.nil_append]
  refine ⟨List.forall_mem_append.mpr ⟨h.isBoundary, h'.isBoundary⟩, ?_, ?_⟩
  · rw [hreached]
    exact h'.pairwise
  · rw [hreached]
    exact h'.le

/-- The loop reaches an offset, and goes on from there or from further on. -/
theorem Ascending.cons {uses : List Use} (hpos : IsBoundary text pos)
    (h : Ascending text pos uses) : Ascending text pos (.reached pos :: uses) := by
  have hreached : (Use.reached pos :: uses).filterMap Use.reached? =
      pos :: uses.filterMap Use.reached? := rfl
  refine ⟨List.forall_mem_cons.mpr ⟨hpos, h.isBoundary⟩, ?_, ?_⟩
  · rw [hreached]
    exact List.pairwise_cons.mpr ⟨h.le, h.pairwise⟩
  · rw [hreached]
    exact List.forall_mem_cons.mpr ⟨Nat.le_refl pos, h.le⟩

/-- **From a place on, the loop uses places only and never goes back.** -/
theorem returns_matchTail (hpos : IsBoundary text pos) (blocks : List Block) :
    Returns (Program.matchTailM fold text pos blocks) fun _ uses => Ascending text pos uses := by
  induction blocks generalizing pos with
  | nil => exact Returns.after_use (returns_pure (.cons hpos (atPlaces_nil.ascending pos)))
  | cons block later ih =>
      cases later with
      | nil =>
          refine Returns.after_use ((returns_endsText hpos).imp ?_)
          intro answer uses huses
          exact .cons hpos (huses.ascending pos)
      | cons next later =>
          refine Returns.after_use ((returns_firstEnd hpos).bind ?_)
          rintro found uses ⟨huses, hfound⟩
          cases found with
          | none =>
              exact returns_pure (.cons hpos ((huses.append atPlaces_nil).ascending pos))
          | some stop =>
              -- The block's answer is what the loop carries on with.
              obtain ⟨hstop, hle⟩ := hfound stop rfl
              refine (ih hstop).imp ?_
              intro answer more hmore
              exact .cons hpos (huses.append_ascending (hmore.mono hle))

/-- **Every program, on every text, comes to an answer and uses places only.** -/
theorem returns_run (p : Program) (text : List Char) :
    Returns (run p text) fun _ uses => Ascending text 0 uses := by
  have hzero : IsBoundary text 0 := Text.isBoundary_size_append [] text
  refine (returns_endAt hzero).bind ?_
  rintro found uses ⟨huses, hfound⟩
  cases found with
  | none => exact returns_pure ((huses.append atPlaces_nil).ascending 0)
  | some stop =>
      obtain ⟨hstop, hle⟩ := hfound stop rfl
      refine (returns_matchTail hstop p.tail).imp ?_
      intro answer more hmore
      exact huses.append_ascending (hmore.mono hle)

end Recorded

namespace Pattern

/-- **Matching never slices a text inside a character.**  The match of any pattern, run with its
offsets written down, comes to the match's answer.  Every offset that is handed to a block and
every offset at which the text is sliced is then a place in the text, and so is every offset the
loop over the blocks has reached; these never decrease.  Of blocks alone more is true: whatever
tokens a block is made of, and however it treats letter case, asked at any place it answers, and
an end in the answer is a place between the one it was asked about and the end of the text. -/
theorem isMatch_uses_places (source : String) (mode : CaseMode) (text : String) :
    (∃ uses, Recorded.run (ofSource source mode).program text.toList [] =
          .ok ((ofSource source mode).isMatch text, uses) ∧
        (∀ use ∈ uses,
          Text.IsBoundary text.toList use.pos ∧ use.pos ≤ Text.size text.toList) ∧
        (uses.filterMap Use.reached?).Pairwise (· ≤ ·)) ∧
      (ofSource source mode).program.run text.toList =
        .ok ((ofSource source mode).isMatch text) ∧
      ∀ (made fold : Bool) (tokens : List Token) (pos : Nat), Text.IsBoundary text.toList pos →
        (∃ found, (Block.ofTokens made tokens).endAt fold text.toList pos = .ok found ∧
          ∀ stop ∈ found, Text.IsBoundary text.toList stop ∧ pos ≤ stop ∧
            stop ≤ Text.size text.toList) ∧
        (∃ found, (Block.ofTokens made tokens).firstEnd fold text.toList pos = .ok found ∧
          ∀ stop ∈ found, Text.IsBoundary text.toList stop ∧ pos ≤ stop ∧
            stop ≤ Text.size text.toList) ∧
        ∃ answer, (Block.ofTokens made tokens).endsText fold text.toList pos = .ok answer := by
  have hends : ∀ {pos : Nat} {found : Option Nat}, Recorded.EndsBehind text.toList pos found →
      ∀ stop ∈ found, Text.IsBoundary text.toList stop ∧ pos ≤ stop ∧
        stop ≤ Text.size text.toList := by
    intro pos found hfound stop hstop
    obtain ⟨hboundary, hle⟩ := hfound stop hstop
    exact ⟨hboundary, hle, hboundary.le_size⟩
  have hreturns := Recorded.returns_run (ofSource source mode).program text.toList
  obtain ⟨answer, uses, hrecorded, hrun, huses⟩ :=
    hreturns.plain (Recorded.records_run text.toList _)
  have hanswer : answer = (ofSource source mode).isMatch text := by
    unfold isMatch Program.isMatch
    rw [hrun]
  rw [hanswer] at hrecorded hrun
  refine ⟨⟨uses, hrecorded, ?_, huses.pairwise⟩, hrun, ?_⟩
  · intro use huse
    have hboundary := huses.isBoundary use huse
    exact ⟨hboundary, hboundary.le_size⟩
  · intro made fold tokens pos hpos
    refine ⟨?_, ?_, ?_⟩
    · obtain ⟨found, -, -, hend, -, hfound⟩ :=
        (Recorded.returns_endAt hpos).plain (Recorded.records_endAt _ fold _ pos)
      exact ⟨found, hend, hends hfound⟩
    · obtain ⟨found, -, -, hend, -, hfound⟩ :=
        (Recorded.returns_firstEnd hpos).plain (Recorded.records_firstEnd _ fold _ pos)
      exact ⟨found, hend, hends hfound⟩
    · obtain ⟨answer, -, -, hend, -⟩ :=
        (Recorded.returns_endsText hpos).plain (Recorded.records_endsText _ fold _ pos)
      exact ⟨answer, hend⟩

/-- A place between characters of two and of four bytes. -/
theorem isMatch_uses_places_wide :
    Text.IsBoundary "aé𐍈b".toList 3 ∧
      ∃ found, (Block.ofTokens false [.char '𐍈']).firstEnd false "aé𐍈b".toList 3 = .ok found ∧
        ∀ stop ∈ found, Text.IsBoundary "aé𐍈b".toList stop ∧ 3 ≤ stop ∧
          stop ≤ Text.size "aé𐍈b".toList := by
  have hplace : Text.IsBoundary "aé𐍈b".toList 3 := by decide
  exact ⟨hplace,
    ((isMatch_uses_places "*𐍈*" .sensitive "aé𐍈b").2.2 false false [.char '𐍈'] 3 hplace).2.1⟩

example : Recorded.run ⟨.ofTokens false [], [.ofTokens false [.char 'é'], .ofTokens false [.any]],
    false⟩ ['a', 'é', 'é'] [] =
      .ok (true, [.asked 0, .sliced 0, .reached 0, .asked 0, .sliced 0, .reached 3, .asked 3,
        .sliced 3, .asked 3, .sliced 3]) := by
  rfl

end Pattern

end LineGlob
