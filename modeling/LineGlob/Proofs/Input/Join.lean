/-
Lines put together again.

Lines are kept without their newlines and printed with them.  What is printed can be read
again, and then the same lines come out of it, whatever bytes they hold, because none of
them holds a newline (`ofBytes_join`).

The other way round, the lines of some bytes put together are those bytes, except that a
last line without a newline has been given one (`join_ofBytes`).
-/
import LineGlob.Input.Basic
import LineGlob.Proofs.Input.Lines

namespace LineGlob.Lines

/-- Lines one behind the other, each with its newline. -/
def join (lines : List Bytes) : Bytes :=
  lines.flatMap (· ++ [newline])

@[simp] theorem join_nil : join [] = [] := rfl

@[simp] theorem join_cons (line : Bytes) (lines : List Bytes) :
    join (line :: lines) = line ++ newline :: join lines := by
  unfold join
  rw [List.flatMap_cons, List.append_assoc]
  rfl

/-- No line of some bytes holds a newline. -/
theorem notMem_of_mem_ofBytes (bytes : Bytes) : ∀ line ∈ ofBytes bytes, newline ∉ line := by
  induction bytes using induction with
  | last body hbody =>
      intro line hline
      rw [ofBytes_of_notMem hbody] at hline
      split at hline
      · simp at hline
      · rwa [List.mem_singleton.mp hline]
  | cons body rest hbody ih =>
      intro line hline
      rw [ofBytes_append_cons hbody] at hline
      rcases List.mem_cons.mp hline with rfl | hrest
      · exact hbody
      · exact ih line hrest

/-! ### Reading what was put together -/

variable {lines : List Bytes}

/-- **Lines put together are read as the lines that they were.** -/
theorem ofBytes_join (h : ∀ line ∈ lines, newline ∉ line) : ofBytes (join lines) = lines := by
  induction lines with
  | nil => rfl
  | cons line lines ih =>
      obtain ⟨hline, hlines⟩ := List.forall_mem_cons.mp h
      rw [join_cons, ofBytes_append_cons hline, ih hlines]

/-- The segments of lines put together are the lines with their newlines. -/
theorem segments_join (h : ∀ line ∈ lines, newline ∉ line) :
    Segments (join lines) (lines.map (· ++ [newline])) := by
  induction lines with
  | nil => exact .nil
  | cons line lines ih =>
      obtain ⟨hline, hlines⟩ := List.forall_mem_cons.mp h
      rw [join_cons, List.map_cons]
      exact .cons hline (ih hlines)

/-- Lines put together have as many newlines as there are lines. -/
theorem count_newline_join (h : ∀ line ∈ lines, newline ∉ line) :
    (join lines).count newline = lines.length := by
  induction lines with
  | nil => rfl
  | cons line lines ih =>
      obtain ⟨hline, hlines⟩ := List.forall_mem_cons.mp h
      rw [join_cons, List.count_append, List.count_eq_zero_of_not_mem hline, List.count_cons_self,
        ih hlines, List.length_cons, Nat.zero_add]

/-! ### Putting together what was read -/

/-- Bytes with a newline at their end, which they are given if they have none.  Where there are no
bytes there is no line to end. -/
def ended (bytes : Bytes) : Bytes :=
  if bytes = [] then [] else completed bytes

theorem ended_of_notMem {body : Bytes} (hbody : newline ∉ body) (hne : body ≠ []) :
    ended body = body ++ [newline] := by
  have hlast : body.getLast? ≠ some newline := fun hlast => hbody (List.mem_of_getLast? hlast)
  rw [ended, if_neg hne, completed, if_neg hlast]

theorem ended_append_cons (body rest : Bytes) :
    ended (body ++ newline :: rest) = body ++ newline :: ended rest := by
  have hne : body ++ newline :: rest ≠ [] := by simp
  rw [ended, if_neg hne]
  by_cases hrest : rest = []
  · rw [hrest, ended, if_pos rfl, completed, if_pos List.getLast?_concat]
  · have hlast : (body ++ newline :: rest).getLast? = rest.getLast? := by
      rw [List.getLast?_append_of_ne_nil _ (by simp), List.getLast?_cons_of_ne_nil hrest]
    rw [ended, if_neg hrest, completed, completed, hlast]
    split
    · rfl
    · rw [List.append_assoc, List.cons_append]

/-- **The lines of some bytes put together are the bytes**, with a newline at the end. -/
theorem join_ofBytes (bytes : Bytes) : join (ofBytes bytes) = ended bytes := by
  induction bytes using induction with
  | last body hbody =>
      rw [ofBytes_of_notMem hbody]
      by_cases hne : body = []
      · subst hne
        rfl
      · rw [if_neg (by simpa using hne), ended_of_notMem hbody hne, join_cons, join_nil]
  | cons body rest hbody ih =>
      rw [ofBytes_append_cons hbody, join_cons, ih, ended_append_cons]

end LineGlob.Lines

namespace LineGlob.Input

/-- No line of an input holds a newline, whether the input can be read to its end or not. -/
theorem notMem_of_mem_lines (input : Input) : ∀ line ∈ input.lines, Lines.newline ∉ line := by
  intro line hline
  unfold lines at hline
  split at hline
  · exact Lines.notMem_of_mem_ofBytes input.data line hline
  · rw [← Lines.ofBytes_complete] at hline
    exact Lines.notMem_of_mem_ofBytes _ line hline

end LineGlob.Input
