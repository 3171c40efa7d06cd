/-
What a token stands for, and that admitting a character tests just that.

`Token.Takes` says it without an algorithm: a set takes a character if the folded
character is among its members.  `Token.admits` looks the character up by halving,
which is right only because the members are in order.  That order is `Token.Sorted`,
and it allows repeated members, since halving does not mind them.

The search keeps one invariant: every index at which the character stands lies between
the two bounds.  A look at the middle either finds the character or moves one bound
past the middle, and the order is what keeps the invariant then.

The sets that a pattern is made of are sorted when they are made, with each member
once; `sorted_ofMembers` and `takes_ofMembers` say that nothing else happens to them.
-/
import LineGlob.Pattern.Token
import Mathlib.Data.Char
import Mathlib.Order.Compare

namespace LineGlob

/-- A character as it is compared: folded, if letter case is ignored. -/
def Text.foldIf (fold : Bool) (c : Char) : Char :=
  if fold then Text.fold c else c

theorem Text.map_foldIf (fold : Bool) (cs : List Char) :
    cs.map (Text.foldIf fold) = if fold then cs.map Text.fold else cs := by
  cases fold with
  | false => exact List.map_id cs
  | true => rfl

namespace Token

/-- The characters for which a token stands. -/
def Takes (fold : Bool) : Token → Char → Prop
  | any, _ => True
  | char expected, c => Text.foldIf fold c = expected
  | set members, c => Text.foldIf fold c ∈ members

/-- A set's members are in increasing order.  Other tokens have none. -/
def Sorted : Token → Prop
  | set members => members.toList.Pairwise (· ≤ ·)
  | _ => True

instance (fold : Bool) (t : Token) (c : Char) : Decidable (t.Takes fold c) :=
  match t with
  | any => .isTrue trivial
  | char expected => inferInstanceAs (Decidable (Text.foldIf fold c = expected))
  | set members => decidable_of_iff (Text.foldIf fold c ∈ members.toList) Array.mem_toList_iff

instance (t : Token) : Decidable t.Sorted :=
  match t with
  | any | char _ => .isTrue trivial
  | set members => inferInstanceAs (Decidable (members.toList.Pairwise (· ≤ ·)))

/-! ### Looking a character up -/

theorem le_of_sorted {members : Array Char} (hsorted : members.toList.Pairwise (· ≤ ·))
    {i j : Nat} {c d : Char} (hij : i ≤ j) (hi : members[i]? = some c)
    (hj : members[j]? = some d) : c ≤ d := by
  rcases Nat.lt_or_eq_of_le hij with hlt | rfl
  · obtain ⟨hilt, rfl⟩ := Array.getElem?_eq_some_iff.mp hi
    obtain ⟨hjlt, rfl⟩ := Array.getElem?_eq_some_iff.mp hj
    exact List.pairwise_iff_getElem.mp hsorted i j hilt hjlt hlt
  · rw [hi, Option.some.injEq] at hj
    exact le_of_eq hj

/-- Halving finds a character if all its places lie between the bounds. -/
theorem search_iff {members : Array Char} (hsorted : members.toList.Pairwise (· ≤ ·)) (c : Char)
    (lo hi : Nat) (hhi : hi ≤ members.size)
    (hwithin : ∀ i, members[i]? = some c → lo ≤ i ∧ i < hi) :
    search members c lo hi = true ↔ c ∈ members := by
  fun_induction search members c lo hi with
  | case1 lo hi hlt mid hmid =>
      have hsize : members.size ≤ mid := Array.getElem?_eq_none_iff.mp hmid
      omega
  | case2 lo hi hlt mid hmid =>
      exact ⟨fun _ => Array.mem_of_getElem? hmid, fun _ => rfl⟩
  | case3 lo hi hlt mid m hmid hne hless ih =>
      refine ih (by omega) fun i hi' => ⟨(hwithin i hi').1, ?_⟩
      by_contra hge
      exact absurd (le_of_sorted hsorted (Nat.le_of_not_lt hge) hmid hi') (not_le_of_gt hless)
  | case4 lo hi hlt mid m hmid hne hless ih =>
      refine ih hhi fun i hi' => ⟨?_, (hwithin i hi').2⟩
      by_contra hlow
      have hle : c ≤ m := le_of_sorted hsorted (Nat.le_of_not_lt hlow) hi' hmid
      exact hless (lt_of_le_of_ne hle hne)
  | case5 lo hi hge =>
      refine ⟨fun h => absurd h (by simp), fun hc => ?_⟩
      obtain ⟨i, hi'⟩ := Array.getElem?_of_mem hc
      have := hwithin i hi'
      omega

/-- Halving finds the members of an increasing list, and nothing else. -/
theorem search_size_iff {members : Array Char} (hsorted : members.toList.Pairwise (· ≤ ·))
    (c : Char) : search members c 0 members.size = true ↔ c ∈ members := by
  refine search_iff hsorted c 0 members.size (Nat.le_refl _) ?_
  intro i hi
  exact ⟨Nat.zero_le i, (Array.getElem?_eq_some_iff.mp hi).1⟩

/-- **A token admits exactly the characters for which it stands.** -/
theorem admits_iff {t : Token} (hsorted : t.Sorted) (fold : Bool) (c : Char) :
    t.admits fold c = true ↔ t.Takes fold c := by
  cases t with
  | any => simp [admits, Takes]
  | char expected =>
      show (expected == Text.foldIf fold c) = true ↔ Text.foldIf fold c = expected
      rw [beq_iff_eq, eq_comm]
  | set members => exact search_size_iff hsorted _

/-! ### Making sets -/

/-- The members of a set come in strictly increasing order. -/
theorem pairwise_lt_ofMembers (cs : List Char) : (sortUnique cs).Pairwise (· < ·) :=
  (pairwise_sortUnique cs).imp compare_lt_iff_lt.mp

theorem sorted_ofMembers (cs : List Char) : (ofMembers cs).Sorted :=
  (pairwise_lt_ofMembers cs).imp le_of_lt

theorem takes_ofMembers {fold : Bool} {cs : List Char} {c : Char} :
    (ofMembers cs).Takes fold c ↔ Text.foldIf fold c ∈ cs := by
  show Text.foldIf fold c ∈ (sortUnique cs).toArray ↔ Text.foldIf fold c ∈ cs
  rw [List.mem_toArray, mem_sortUnique]

end Token

end LineGlob
