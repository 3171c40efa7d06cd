/-
Patterns: a source, how it treats letter case, and the program made of both.

The source is read once, when the pattern is made.  The program is a function of the
source and the case mode, and the structure says so; two patterns are therefore equal
as soon as these two are, and comparing patterns never looks at programs.
-/
import LineGlob.Pattern.Quote
import LineGlob.Text.Quoted

namespace LineGlob

/-- Whether letters are compared as they are or up to case. -/
inductive CaseMode where
  | sensitive
  | insensitive
deriving DecidableEq, Repr, Inhabited

namespace CaseMode

/-- Whether this mode folds letter case. -/
def folds : CaseMode → Bool
  | sensitive => false
  | insensitive => true

/-- The mode that an "ignore case" switch asks for. -/
def ofIgnoreCase (ignoreCase : Bool) : CaseMode :=
  if ignoreCase then insensitive else sensitive

/-- The name of the mode in descriptions. -/
def name : CaseMode → String
  | sensitive => "Sensitive"
  | insensitive => "Insensitive"

/-- Sensitive comes before insensitive. -/
instance : Ord CaseMode where
  compare a b := compare a.folds b.folds

end CaseMode

/-- A pattern for whole texts, ready to be matched. -/
structure Pattern where
  source : String
  mode : CaseMode
  program : Program
  program_eq : program = Program.ofSource mode.folds source.toList

namespace Pattern

/-- The pattern of a source. -/
def ofSource (source : String) (mode : CaseMode) : Pattern where
  source := source
  mode := mode
  program := Program.ofSource mode.folds source.toList
  program_eq := rfl

/-- The pattern that matches a text and nothing else. -/
def literal (text : String) : Pattern :=
  ofSource (String.ofList (quote text.toList)) .sensitive

/-- The pattern of the empty source. -/
instance : Inhabited Pattern := ⟨ofSource "" .sensitive⟩

/-- Whether a pattern matches a whole text. -/
def isMatch (p : Pattern) (text : String) : Bool :=
  p.program.isMatch text.toList

/-- A description of a pattern in one line. -/
def describe (p : Pattern) : String :=
  "Pattern \x7b source: " ++ String.ofList (Text.quoted p.source.toList) ++ ", case: " ++
    p.mode.name ++ " \x7d"

/-! ### Equality and order -/

/-- Two patterns with the same source and the same mode are the same pattern. -/
theorem ext_source_mode {p q : Pattern} (hsource : p.source = q.source) (hmode : p.mode = q.mode) :
    p = q := by
  obtain ⟨ps, pm, pp, hp⟩ := p
  obtain ⟨qs, qm, qp, hq⟩ := q
  simp only at hsource hmode
  subst hsource hmode hp hq
  rfl

instance : DecidableEq Pattern := fun p q =>
  if h : p.source = q.source ∧ p.mode = q.mode then
    .isTrue (ext_source_mode h.1 h.2)
  else
    .isFalse fun e => h (e ▸ ⟨rfl, rfl⟩)

/-- Patterns are ordered by the bytes of their sources, then by mode. -/
instance : Ord Pattern where
  compare p q :=
    (compare (Text.encode p.source.toList) (Text.encode q.source.toList)).then
      (compare p.mode q.mode)

/-- The same order where a comparison may leave two values apart.  It never does so. -/
def compare? (p q : Pattern) : Option Ordering :=
  some (compare p q)

end Pattern

end LineGlob
