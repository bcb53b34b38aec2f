import RedactedBundle.Text.Lines

/-!
# The lines of a text

The rules by which a text falls into lines, said of the text as a whole. Line feeds are what lines
end at; a carriage return belongs to the end of a line only directly before a line feed, and stays
in its line anywhere else. By these rules each text has one list of lines.

## Main definitions

- `LinesOf`: a text and its lines

## Main statements

- `linesOf_iff`: the lines of a text are those that the rules give
- `LinesOf.feed_not_mem`: no line holds a line feed
-/

namespace RedactedBundle

namespace Text

/-- A text and its lines. A line ends with a line feed, or with a carriage return and a line feed,
and neither is part of it. What follows the last line feed is a line of its own if there is any. -/
inductive LinesOf : List Char → List (List Char) → Prop
  | empty : LinesOf [] []
  | last {line : List Char} (hfeed : '\n' ∉ line) (hne : line ≠ []) : LinesOf line [line]
  | feed {line rest : List Char} {lines : List (List Char)} (hfeed : '\n' ∉ line)
      (hreturn : line.getLast? ≠ some '\r') (hrest : LinesOf rest lines) :
      LinesOf (line ++ '\n' :: rest) (line :: lines)
  | returnFeed {line rest : List Char} {lines : List (List Char)} (hfeed : '\n' ∉ line)
      (hrest : LinesOf rest lines) : LinesOf (line ++ '\r' :: '\n' :: rest) (line :: lines)

variable {cs line rest current : List Char} {ls : List (List Char)}

/-! ## Closing a line -/

theorem closeLine_return (cs : List Char) : closeLine ('\r' :: cs) = cs.reverse := rfl

theorem closeLine_of_head?_ne (h : cs.head? ≠ some '\r') : closeLine cs = cs.reverse := by
  rw [closeLine]
  rintro rest rfl
  exact h rfl

/-! ## Splitting at line feeds -/

theorem linesFrom_append_feed (h : '\n' ∉ line) (current rest : List Char) :
    linesFrom current (line ++ '\n' :: rest) =
      closeLine (line.reverse ++ current) :: linesFrom [] rest := by
  induction line generalizing current with
  | nil => simp [linesFrom]
  | cons c cs ih =>
    rw [List.mem_cons, not_or] at h
    rw [List.cons_append, linesFrom, if_neg (Ne.symm h.1), ih h.2, List.reverse_cons,
      List.append_assoc, List.singleton_append]

theorem linesFrom_of_not_mem (h : '\n' ∉ line) (current : List Char) :
    linesFrom current line =
      if (line.reverse ++ current).isEmpty then [] else [(line.reverse ++ current).reverse] := by
  induction line generalizing current with
  | nil => rfl
  | cons c cs ih =>
    rw [List.mem_cons, not_or] at h
    rw [linesFrom, if_neg (Ne.symm h.1), ih h.2, List.reverse_cons, List.append_assoc,
      List.singleton_append]

/-- The lines that are split off follow the rules. -/
theorem linesOf_linesFrom (h : '\n' ∉ current) (cs : List Char) :
    LinesOf (current.reverse ++ cs) (linesFrom current cs) := by
  -- The line that is being read holds no line feed; it is closed at the next one.
  induction cs generalizing current with
  | nil =>
    rw [List.append_nil, linesFrom]
    have hfeed : '\n' ∉ current.reverse := by rwa [List.mem_reverse]
    split
    · next hempty =>
      rw [List.isEmpty_iff.mp hempty]
      exact .empty
    · next hempty => exact .last hfeed (by simpa using hempty)
  | cons c cs ih =>
    rw [linesFrom]
    split
    · next hc =>
      have hrest : LinesOf cs (linesFrom [] cs) := ih List.not_mem_nil
      subst hc
      by_cases hreturn : current.head? = some '\r'
      · obtain ⟨before, rfl⟩ := List.head?_eq_some_iff.mp hreturn
        have hfeed : '\n' ∉ before.reverse := by
          rw [List.mem_reverse]
          exact fun hmem => h (List.mem_cons_of_mem _ hmem)
        rw [closeLine_return, List.reverse_cons, List.append_assoc]
        exact .returnFeed hfeed hrest
      · rw [closeLine_of_head?_ne hreturn]
        refine .feed (by rwa [List.mem_reverse]) ?_ hrest
        rwa [List.getLast?_reverse]
    · next hc =>
      have hline : '\n' ∉ c :: current := by
        rw [List.mem_cons, not_or]
        exact ⟨Ne.symm hc, h⟩
      have hnext := ih hline
      rwa [List.reverse_cons, List.append_assoc] at hnext

/-- The rules give no lines but those that are split off. -/
theorem LinesOf.lines_eq (h : LinesOf cs ls) : lines cs = ls := by
  rw [lines]
  induction h with
  | empty => rfl
  | @last line hfeed hne =>
    have hempty : ¬ line.reverse.isEmpty = true := by simpa using hne
    rw [linesFrom_of_not_mem hfeed, List.append_nil, if_neg hempty, List.reverse_reverse]
  | @feed line rest ls hfeed hreturn _ ih =>
    have hhead : line.reverse.head? ≠ some '\r' := by rwa [List.head?_reverse]
    rw [linesFrom_append_feed hfeed, List.append_nil, closeLine_of_head?_ne hhead,
      List.reverse_reverse, ih]
  | @returnFeed line rest ls hfeed _ ih =>
    -- The carriage return is read as the last character of its line.
    have hfeed' : '\n' ∉ line ++ ['\r'] := by simpa using hfeed
    rw [List.append_cons, linesFrom_append_feed hfeed', List.append_nil, List.reverse_append, ih]
    exact congrArg (· :: ls) (List.reverse_reverse line)

/-- The lines of a text are those that the rules give. -/
theorem linesOf_iff : LinesOf cs ls ↔ lines cs = ls := by
  refine ⟨LinesOf.lines_eq, ?_⟩
  rintro rfl
  exact linesOf_linesFrom List.not_mem_nil cs

/-- A carriage return stays in its line unless a line feed follows it. -/
example : lines "a\rb\r\r\n\nc\r".toList =
    ["a\rb\r".toList, [], "c\r".toList] := by decide

theorem LinesOf.feed_not_mem (h : LinesOf cs ls) (hline : line ∈ ls) : '\n' ∉ line := by
  induction h with
  | empty => cases hline
  | last hfeed _ => rwa [List.mem_singleton.mp hline]
  | feed hfeed _ _ ih | returnFeed hfeed _ ih =>
    rcases List.mem_cons.mp hline with rfl | hmem
    · exact hfeed
    · exact ih hmem

end Text

end RedactedBundle
