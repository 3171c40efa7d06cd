/-
How the source of a pattern is read.

The source is read from left to right into elements, and every source has a reading.
A backslash escapes the four characters `\`, `?`, `*` and `[` and stands for itself
anywhere else.  An opening bracket starts a set if a body with at least one member
and a closing bracket follows; otherwise it stands for itself.

The body of a set is the one ambiguous place.  A backslash before a closing bracket
makes the bracket a member, but if then no bracket is left to close the set, the last
such pair is read as a backslash followed by the closing bracket.  `SetBody.read?` reads
the body once and remembers the last pair it may have to give back.
-/
import LineGlob.Pattern.Program

namespace LineGlob

/-! ### Sets -/

/-- The body of a set that has been read, and what follows its closing bracket. -/
structure SetBody where
  /-- The members in the order in which they were written, repeated ones included. -/
  members : List Char
  rest : List Char
deriving DecidableEq, Repr

namespace SetBody

/-- Reads on in the body of a set.  `members` are those read so far, latest first, and `fallback`
is the reading to return to if the source ends before a closing bracket. -/
def scan (members : List Char) (fallback : Option SetBody) : List Char → Option SetBody
  | [] => fallback
  | '\\' :: ']' :: rest =>
    scan (']' :: members) (some ⟨('\\' :: members).reverse, rest⟩) rest
  | ']' :: rest => if members.isEmpty then none else some ⟨members.reverse, rest⟩
  | c :: rest => scan (c :: members) fallback rest

/-- Reads the body of a set from what follows an opening bracket.  There is none if the set would
be empty or is never closed. -/
def read? (source : List Char) : Option SetBody :=
  scan [] none source

/-- How many bytes of `source` the body took, the closing bracket included. -/
def consumed (source : List Char) (body : SetBody) : Nat :=
  Text.size source - Text.size body.rest

/-- What follows a body is shorter than the source it was read from. -/
theorem length_rest_scan {members source : List Char} {fallback : Option SetBody} {bound : Nat}
    {body : SetBody} (hfallback : ∀ b, fallback = some b → b.rest.length < bound)
    (hsource : source.length ≤ bound) (h : scan members fallback source = some body) :
    body.rest.length < bound := by
  fun_induction scan members fallback source with
  | case1 => exact hfallback _ h
  | case2 members fallback rest ih =>
    simp only [List.length_cons] at hsource
    refine ih ?_ (by omega) h
    rintro b ⟨⟩
    simp only
    omega
  | case3 => simp at h
  | case4 members fallback rest hmembers =>
    simp only [List.length_cons] at hsource
    cases h
    simp only
    omega
  | case5 members fallback c rest hpair hclose ih =>
    simp only [List.length_cons] at hsource
    exact ih hfallback (by omega) h

theorem length_rest_read? {source : List Char} {body : SetBody}
    (h : read? source = some body) : body.rest.length ≤ source.length :=
  Nat.le_of_lt_succ (length_rest_scan (by simp) (Nat.le_succ _) h)

end SetBody

/-! ### Elements -/

/-- A piece of a pattern. -/
inductive Element where
  /-- Any run of characters, the empty one included. -/
  | star
  /-- Any single character. -/
  | any
  /-- This character. -/
  | char (c : Char)
  /-- One of the listed characters, as they were written. -/
  | set (members : List Char)
deriving DecidableEq, Repr

namespace Element

/-- The characters that have a meaning of their own in a pattern, and that a backslash escapes. -/
def isSpecial (c : Char) : Bool :=
  c == '\\' || c == '?' || c == '*' || c == '['

/-- Reads the element that starts with `c`, and returns what follows it. -/
def next (c : Char) (rest : List Char) : Element × List Char :=
  match c with
  | '\\' =>
    match rest with
    | escaped :: later => if isSpecial escaped then (char escaped, later) else (char '\\', rest)
    | [] => (char '\\', [])
  | '?' => (any, rest)
  | '*' => (star, rest)
  | '[' =>
    match SetBody.read? rest with
    | some body => (set body.members, body.rest)
    | none => (char '[', rest)
  | c => (char c, rest)

/-- Reading an element never returns more than what followed its first character. -/
theorem length_next_le (c : Char) (rest : List Char) : (next c rest).2.length ≤ rest.length := by
  unfold next
  split
  · split
    · split <;> simp
    · simp
  · simp
  · simp
  · split
    · exact SetBody.length_rest_read? ‹_›
    · simp
  · simp

/-- The elements of a source. -/
def ofSource : List Char → List Element
  | [] => []
  | c :: rest => (next c rest).1 :: ofSource (next c rest).2
termination_by source => source.length
decreasing_by
  have := length_next_le c rest
  simp only [List.length_cons]
  omega

/-- The token for an element that takes one character. -/
def token? (fold : Bool) : Element → Option Token
  | star => none
  | any => some .any
  | char c => some (.char (if fold then Text.fold c else c))
  | set members => some (.ofMembers (if fold then members.map Text.fold else members))

end Element

/-! ### Programs -/

namespace Program

/-- The runs of tokens before, between and after the stars.  Stars that touch count as one. -/
def runs (fold : Bool) : List Element → List Token × List (List Token)
  | [] => ([], [])
  | .star :: .star :: es => runs fold (.star :: es)
  | e :: es =>
    let (first, later) := runs fold es
    match e.token? fold with
    | some t => (t :: first, later)
    | none => ([], first :: later)

/-- The program of a list of elements. -/
def ofElements (fold : Bool) (es : List Element) : Program :=
  let (first, later) := runs fold es
  ⟨.ofTokens fold first, later.map (.ofTokens fold), fold⟩

/-- The program of a pattern's source. -/
def ofSource (fold : Bool) (source : List Char) : Program :=
  ofElements fold (Element.ofSource source)

end Program

end LineGlob
