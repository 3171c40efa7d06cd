/-
How a program arranges its source.

A program is the list of its source's elements in another arrangement: the stars are gone,
what stood between them are the blocks, and each other element has become a token.  Its
types say nothing of what matching relies on.  A set has to be in order, or halving would
miss members, and the text that a block has at hand has to be the one that its tokens spell,
or the wrong bytes would be looked for.

`Arranges` lists what a program keeps of its elements.  The blocks are counted against the
stars, and this is where stars that touch are of interest: however many stand in a row, they
make one cut, so that only the first and the last block can be empty.  `starRuns` counts the
runs of stars by splitting the elements between any two that are not both stars; nothing of
how blocks are made goes into it.

Each part is an induction over the elements that follows `runs`: two stars that touch, a
token, or the last star of a run.  That no block is empty in the middle needs a look ahead,
at the element behind a run of stars; it is no star, and so the next block starts with it.
-/
import LineGlob.Proofs.Pattern.Language
import Mathlib.Data.List.SplitBy

namespace LineGlob

/-! ### Runs of stars -/

namespace Element

variable {e f : Element} {es : List Element}

/-- Both are stars. -/
def touch (e f : Element) : Bool :=
  e = star && f = star

/-- The number of maximal runs of stars. -/
def starRuns (es : List Element) : Nat :=
  (es.splitBy touch).countP (star ∈ ·)

/-- The first piece starts with the first element. -/
theorem exists_splitBy_cons (e : Element) (es : List Element) :
    ∃ piece pieces, (e :: es).splitBy touch = (e :: piece) :: pieces := by
  have hflat := List.flatten_splitBy touch (e :: es)
  have hnil := List.nil_notMem_splitBy touch (e :: es)
  rcases hsplit : (e :: es).splitBy touch with _ | ⟨_ | ⟨d, piece⟩, pieces⟩
  · rw [hsplit] at hflat
    cases hflat
  · rw [hsplit] at hnil
    exact absurd List.mem_cons_self hnil
  · rw [hsplit, List.flatten_cons, List.cons_append, List.cons.injEq] at hflat
    rw [hflat.1]
    exact ⟨piece, pieces, rfl⟩

/-- An element that touches the one behind it is in the same piece. -/
theorem splitBy_of_touch {piece : List Element} {pieces : List (List Element)}
    (htouch : touch e f = true) (h : (f :: es).splitBy touch = (f :: piece) :: pieces) :
    (e :: f :: es).splitBy touch = (e :: f :: piece) :: pieces := by
  rw [List.splitBy_eq_iff] at h ⊢
  obtain ⟨hflat, hnil, hchain, hgaps⟩ := h
  refine ⟨?_, ?_, ?_, ?_⟩
  · rw [hflat]
    simp
  · simpa using hnil
  · rw [List.forall_mem_cons] at hchain ⊢
    exact ⟨List.isChain_cons_cons.mpr ⟨htouch, hchain.1⟩, hchain.2⟩
  · rw [List.isChain_cons] at hgaps ⊢
    refine ⟨?_, hgaps.2⟩
    intro next hnext
    obtain ⟨hleft, hright, hlast⟩ := hgaps.1 next hnext
    refine ⟨List.cons_ne_nil _ _, hright, ?_⟩
    rwa [List.getLast_cons hleft]

/-- An element that does not touch the one behind it is a piece of its own. -/
theorem splitBy_of_not_touch (h : ∀ f ∈ es.head?, touch e f = false) :
    (e :: es).splitBy touch = [e] :: es.splitBy touch := by
  have happend := List.splitBy_append (r := touch) (l := [e]) (m := es) (by simpa using h)
  rw [List.singleton_append] at happend
  rw [happend]
  rfl

theorem starRuns_star_star (es : List Element) :
    starRuns (star :: star :: es) = starRuns (star :: es) := by
  obtain ⟨piece, pieces, hsplit⟩ := exists_splitBy_cons star es
  unfold starRuns
  rw [splitBy_of_touch rfl hsplit, hsplit, List.countP_cons_of_pos (by simp),
    List.countP_cons_of_pos (by simp)]

/-- A star with no other behind it ends a run. -/
theorem starRuns_star (h : ∀ later, es ≠ star :: later) :
    starRuns (star :: es) = starRuns es + 1 := by
  have hhead : ∀ f ∈ es.head?, touch star f = false := by
    intro f hf
    cases es with
    | nil => simp at hf
    | cons d later =>
        rw [List.head?_cons, Option.mem_some_iff] at hf
        subst hf
        have hne : d ≠ star := fun hd => h later (by rw [hd])
        simp [touch, hne]
  unfold starRuns
  rw [splitBy_of_not_touch hhead, List.countP_cons_of_pos (by simp)]

theorem starRuns_of_ne (h : e ≠ star) (es : List Element) : starRuns (e :: es) = starRuns es := by
  have hhead : ∀ f ∈ es.head?, touch e f = false := by
    intro f _
    simp [touch, h]
  unfold starRuns
  rw [splitBy_of_not_touch hhead, List.countP_cons_of_neg (by simpa using Ne.symm h)]

/-- Every set of a source has a member. -/
theorem members_ne_nil {source members : List Char} (h : set members ∈ ofSource source) :
    members ≠ [] := by
  fun_induction ofSource source with
  | case1 => cases h
  | case2 c rest ih =>
      rcases List.mem_cons.mp h with hset | hlater
      · have hstarts := starts_next c rest
        generalize (next c rest).2 = later at hstarts
        rw [← hset] at hstarts
        cases hstarts with
        | rule hrule =>
            cases hrule with
            | set hbody => exact hbody.nonempty
      · exact ih hlater

end Element

/-! ### One token -/

namespace Token

variable {fold : Bool}

/-- What a token keeps of the element for which it stands. -/
inductive Keeps (fold : Bool) : Element → Token → Prop
  | any : Keeps fold .any .any
  /-- A character is kept as it is compared. -/
  | char (c : Char) : Keeps fold (.char c) (.char (Text.foldIf fold c))
  /-- Of a set the members are kept as they are compared, each once and in order, and halving finds
  just these. -/
  | set {members : List Char} {sorted : Array Char} (hne : sorted ≠ #[])
      (hsorted : sorted.toList.Pairwise (· < ·))
      (hmem : ∀ c, c ∈ sorted ↔ ∃ m ∈ members, Text.foldIf fold m = c)
      (hsearch : ∀ c, search sorted c 0 sorted.size = true ↔ c ∈ sorted) :
      Keeps fold (.set members) (.set sorted)

theorem keeps_ofMembers {members : List Char} (hne : members ≠ []) :
    Keeps fold (.set members) (.ofMembers (members.map (Text.foldIf fold))) := by
  have hsorted := pairwise_lt_ofMembers (members.map (Text.foldIf fold))
  have hmem : ∀ c, c ∈ (sortUnique (members.map (Text.foldIf fold))).toArray ↔
      ∃ m ∈ members, Text.foldIf fold m = c := by
    intro c
    rw [List.mem_toArray, mem_sortUnique, List.mem_map]
  refine .set ?_ hsorted hmem (search_size_iff (hsorted.imp le_of_lt))
  intro hnil
  obtain ⟨m, hm⟩ := List.exists_mem_of_ne_nil members hne
  have hkept := (hmem (Text.foldIf fold m)).mpr ⟨m, hm, rfl⟩
  rw [hnil] at hkept
  simp at hkept

theorem keeps_of_token? {e : Element} {t : Token} (h : e.token? fold = some t)
    (hmembers : ∀ members, e = .set members → members ≠ []) : Keeps fold e t := by
  cases e with
  | star => cases h
  | any =>
      cases h
      exact .any
  | char c =>
      cases h
      exact .char c
  | set members =>
      cases h
      rw [← Text.map_foldIf]
      exact keeps_ofMembers (hmembers members rfl)

/-- The elements that are no stars have their tokens in order. -/
theorem forall₂_keeps {es : List Element} (hmembers : ∀ members, .set members ∈ es → members ≠ []) :
    List.Forall₂ (Keeps fold) (es.filter (· ≠ .star)) (es.filterMap (Element.token? fold)) := by
  induction es with
  | nil => exact .nil
  | cons e es ih =>
      have hrest := ih fun members h => hmembers members (List.mem_cons_of_mem e h)
      cases htoken : e.token? fold with
      | none =>
          have he := Element.eq_star_of_token? htoken
          rw [List.filterMap_cons_none htoken, List.filter_cons_of_neg (by simpa using he)]
          exact hrest
      | some t =>
          have he := Element.ne_star_of_token? htoken
          rw [List.filterMap_cons_some htoken, List.filter_cons_of_pos (by simpa using he)]
          refine .cons (keeps_of_token? htoken ?_) hrest
          intro members hset
          exact hmembers members (by simp [hset])

end Token

/-! ### Blocks -/

namespace Program

open Element (starRuns)

variable {fold : Bool} {es : List Element}

/-- **Each run of stars makes one cut.** -/
theorem length_runs (fold : Bool) (es : List Element) : (runs fold es).2.length = starRuns es := by
  fun_induction runs fold es with
  | case1 => rfl
  | case2 es ih => rw [ih, Element.starRuns_star_star]
  | case3 e es hstar first later hruns t htoken ih =>
      rw [hruns] at ih
      rw [Element.starRuns_of_ne (Element.ne_star_of_token? htoken), ← ih]
  | case4 e es hstar first later hruns htoken ih =>
      have he := Element.eq_star_of_token? htoken
      subst he
      rw [hruns] at ih
      rw [Element.starRuns_star fun later hlater => hstar later rfl hlater, ← ih, List.length_cons]

/-- **Cutting leaves the tokens in order**, and loses none. -/
theorem flatten_runs (fold : Bool) (es : List Element) :
    (runs fold es).1 ++ (runs fold es).2.flatten = es.filterMap (Element.token? fold) := by
  fun_induction runs fold es with
  | case1 => rfl
  | case2 es ih =>
      rw [ih]
      rfl
  | case3 e es hstar first later hruns t htoken ih =>
      rw [hruns] at ih
      rw [List.filterMap_cons_some htoken, ← ih, List.cons_append]
  | case4 e es hstar first later hruns htoken ih =>
      rw [hruns] at ih
      rw [List.filterMap_cons_none htoken, ← ih, List.nil_append, List.flatten_cons]

theorem runs_fst_ne_nil (fold : Bool) {e : Element} (he : e ≠ .star) (es : List Element) :
    (runs fold (e :: es)).1 ≠ [] := by
  cases e with
  | star => exact absurd rfl he
  | any => simp [runs, Element.token?]
  | char c => simp [runs, Element.token?]
  | set members => simp [runs, Element.token?]

/-- **Between two cuts there is a token.** -/
theorem ne_nil_of_mem_dropLast_runs (fold : Bool) (es : List Element) :
    ∀ ts ∈ (runs fold es).2.dropLast, ts ≠ [] := by
  fun_induction runs fold es with
  | case1 => simp
  | case2 es ih => exact ih
  | case3 e es hstar first later hruns t htoken ih =>
      rw [hruns] at ih
      exact ih
  | case4 e es hstar first later hruns htoken ih =>
      rw [hruns] at ih
      cases es with
      | nil =>
          cases hruns
          simp
      | cons d es =>
          -- What stands behind the last star of a run starts the next block.
          have he := Element.eq_star_of_token? htoken
          have hd : d ≠ .star := fun hd => hstar es he (by rw [hd])
          have hfirst := runs_fst_ne_nil fold hd es
          rw [hruns] at hfirst
          cases later with
          | nil => simp
          | cons next later =>
              rw [List.dropLast_cons_cons, List.forall_mem_cons]
              exact ⟨hfirst, ih⟩

theorem blocks_ofElements (fold : Bool) (es : List Element) :
    (ofElements fold es).blocks =
      ((runs fold es).1 :: (runs fold es).2).map (Block.ofTokens fold) := rfl

/-- How a program arranges the elements of its source. -/
structure Arranges (fold : Bool) (es : List Element) (p : Program) : Prop where
  fold_eq : p.fold = fold
  /-- There is one block, and one more for each run of stars. -/
  length_blocks : p.blocks.length = starRuns es + 1
  /-- A block between two others has tokens. -/
  middle : ∀ b ∈ p.blocks.tail.dropLast, b.tokens ≠ []
  /-- There are as many tokens as elements that are no stars, and each keeps what it should of the
  element in the same place. -/
  tokens : List.Forall₂ (Token.Keeps fold) (es.filter (· ≠ .star)) (p.blocks.flatMap Block.tokens)
  /-- A block has a text at hand if characters are compared as they are and its tokens, of which
  there are some, spell that text. -/
  literal : ∀ b ∈ p.blocks, ∀ word,
    b.literal = some word ↔ fold = false ∧ b.tokens ≠ [] ∧ b.tokens = word.map .char

theorem ofElements_arranges (hmembers : ∀ members, .set members ∈ es → members ≠ []) :
    Arranges fold es (ofElements fold es) where
  fold_eq := rfl
  length_blocks := by
    rw [blocks_ofElements, List.length_map, List.length_cons, length_runs]
  middle := by
    rw [blocks_ofElements, List.map_cons, List.tail_cons, ← List.map_dropLast]
    intro b hb
    obtain ⟨ts, hts, rfl⟩ := List.mem_map.mp hb
    exact ne_nil_of_mem_dropLast_runs fold es ts hts
  tokens := by
    have htokens : (((runs fold es).1 :: (runs fold es).2).map (Block.ofTokens fold)).map
        Block.tokens = (runs fold es).1 :: (runs fold es).2 := by
      rw [List.map_map]
      exact List.map_id _
    rw [blocks_ofElements, List.flatMap_def, htokens, List.flatten_cons, flatten_runs]
    exact Token.forall₂_keeps hmembers
  literal := by
    rw [blocks_ofElements]
    intro b hb word
    obtain ⟨ts, -, rfl⟩ := List.mem_map.mp hb
    exact Block.literal_ofTokens_eq_some_iff

/-- **A program arranges the elements of its source.**  It has one block more than the source has
runs of stars, and no empty one in the middle; its tokens are those of the other elements, in order,
with every set in strict order and what is compared folded where letter case is ignored; and the
blocks with a text at hand are those that spell one. -/
theorem ofSource_arranges (fold : Bool) (source : List Char) :
    Arranges fold (Element.ofSource source) (ofSource fold source) :=
  ofElements_arranges fun _ h => Element.members_ne_nil h

-- a star in front, two that touch, a set written out of order, and a star at the end
example : ofSource false "*a**[cba]*".toList =
    ⟨⟨[], none⟩, [⟨[.char 'a'], some ['a']⟩, ⟨[.set #['a', 'b', 'c']], none⟩, ⟨[], none⟩],
      false⟩ := by
  decide +kernel

end Program

end LineGlob
