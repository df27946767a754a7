import SwiftInterface.Proofs.Text.Lines

/-!
# Lines of source text

A Swift compiler ends a line at a line feed, at a carriage return, or at both
together.  These are some of the ends at which indentation works, so the lines
of an indented text are its lines, each of them indented.
-/

namespace SwiftInterface

namespace Text

/-- The lines of a source text without their endings. -/
def sourceLines : List Char → List (List Char)
  | [] => []
  | '\r' :: '\n' :: rest => [] :: sourceLines rest
  | char :: rest =>
      if char = '\r' ∨ char = '\n' then [] :: sourceLines rest
      else consSegment char (sourceLines rest)

/-- A stretch of text within one source line. -/
def Unbroken (chars : List Char) : Prop :=
  ∀ char ∈ chars, char ≠ '\r' ∧ char ≠ '\n'

/-- The ending of a source line in front of the rest of a text. -/
inductive SourceEnding : List Char → List Char → Prop
  | lineFeed (rest : List Char) : SourceEnding ['\n'] rest
  | pair (rest : List Char) : SourceEnding ['\r', '\n'] rest
  | alone {rest : List Char} (last : rest.head? ≠ some '\n') :
      SourceEnding ['\r'] rest

theorem SourceEnding.ne_nil {ending rest : List Char}
    (ends : SourceEnding ending rest) : ending ≠ [] := by
  cases ends <;> simp

theorem Unbroken.of_cons {char : Char} {line : List Char}
    (unbroken : Unbroken (char :: line)) : Unbroken line :=
  fun other otherMem => unbroken other (List.mem_cons_of_mem char otherMem)

theorem Unbroken.cons {char : Char} {line : List Char}
    (plain : char ≠ '\r' ∧ char ≠ '\n') (unbroken : Unbroken line) :
    Unbroken (char :: line) := by
  intro other otherMem
  rcases List.mem_cons.mp otherMem with rfl | lineMem
  · exact plain
  · exact unbroken other lineMem

theorem sourceLines_cons {char : Char} (rest : List Char)
    (plain : char ≠ '\r' ∧ char ≠ '\n') :
    sourceLines (char :: rest) = consSegment char (sourceLines rest) := by
  rw [sourceLines]
  · simp [plain]
  · exact fun _ equal _ => plain.1 equal

theorem sourceLines_ending {ending rest : List Char}
    (ends : SourceEnding ending rest) :
    sourceLines (ending ++ rest) = [] :: sourceLines rest := by
  cases ends with
  | lineFeed =>
      rw [List.singleton_append, sourceLines]
      · simp
      · exact fun _ equal _ => absurd equal (by decide)
  | pair => simp [sourceLines]
  | alone last =>
      rw [List.singleton_append, sourceLines]
      · simp
      · intro tail _ restEq
        exact last (by simp [restEq])

/-- A line and its ending come off the front of a text. -/
theorem sourceLines_line {line ending rest : List Char}
    (unbroken : Unbroken line) (ends : SourceEnding ending rest) :
    sourceLines (line ++ (ending ++ rest)) = line :: sourceLines rest := by
  induction line with
  | nil => exact sourceLines_ending ends
  | cons char line ih =>
      rw [List.cons_append, sourceLines_cons _ (unbroken char (by simp)),
        ih unbroken.of_cons]
      rfl

theorem sourceLines_of_unbroken {line : List Char} (unbroken : Unbroken line) :
    sourceLines line = if line = [] then [] else [line] := by
  induction line with
  | nil => rfl
  | cons char line ih =>
      rw [sourceLines_cons _ (unbroken char (by simp)), ih unbroken.of_cons]
      by_cases empty : line = []
      · simp [empty, consSegment]
      · simp [empty, consSegment]

/-- Every text is a stretch within one line, or such a stretch with its ending
in front of a rest. -/
theorem exists_sourceLine (chars : List Char) :
    Unbroken chars ∨ ∃ line ending rest,
      chars = line ++ (ending ++ rest) ∧ Unbroken line ∧
        SourceEnding ending rest := by
  induction chars with
  | nil => exact Or.inl (by simp [Unbroken])
  | cons char chars ih =>
      by_cases plain : char ≠ '\r' ∧ char ≠ '\n'
      · rcases ih with unbroken | ⟨line, ending, rest, rfl, unbroken, ends⟩
        · exact Or.inl (unbroken.cons plain)
        · exact Or.inr ⟨char :: line, ending, rest, rfl, unbroken.cons plain,
            ends⟩
      · have empty : Unbroken [] := by simp [Unbroken]
        by_cases lineFeed : char = '\n'
        · subst lineFeed
          exact Or.inr ⟨[], ['\n'], chars, rfl, empty, .lineFeed chars⟩
        · obtain rfl : char = '\r' :=
            Decidable.byContradiction fun notReturn =>
              plain ⟨notReturn, lineFeed⟩
          by_cases last : chars.head? = some '\n'
          · obtain ⟨rest, rfl⟩ := List.head?_eq_some_iff.mp last
            exact Or.inr ⟨[], ['\r', '\n'], rest, rfl, empty, .pair rest⟩
          · exact Or.inr ⟨[], ['\r'], chars, rfl, empty, .alone last⟩

/-- Induction over a text along its source lines. -/
theorem sourceInduction {motive : List Char → Prop}
    (lastLine : ∀ line, Unbroken line → motive line)
    (nextLine : ∀ line ending rest, Unbroken line → SourceEnding ending rest →
      motive rest → motive (line ++ (ending ++ rest)))
    (chars : List Char) : motive chars := by
  rcases exists_sourceLine chars with
    unbroken | ⟨line, ending, rest, charsEq, unbroken, ends⟩
  · exact lastLine chars unbroken
  · have shorter : rest.length < chars.length := by
      have := List.length_pos_iff.mpr ends.ne_nil
      simp only [charsEq, List.length_append]
      omega
    rw [charsEq]
    exact nextLine line ending rest unbroken ends
      (sourceInduction lastLine nextLine rest)
termination_by chars.length

/-- A line feed after a text without line feeds ends its last line. -/
theorem sourceLines_append_lineFeed {chars : List Char} (nonempty : chars ≠ [])
    (free : '\n' ∉ chars) (rest : List Char) :
    sourceLines (chars ++ '\n' :: rest) =
      sourceLines chars ++ sourceLines rest := by
  induction chars using sourceInduction with
  | lastLine line unbroken =>
      have closed := sourceLines_line unbroken (.lineFeed rest)
      rw [sourceLines_of_unbroken unbroken, if_neg nonempty]
      exact closed
  | nextLine line ending after unbroken ends ih =>
      rw [sourceLines_line unbroken ends]
      cases ends with
      | lineFeed => simp at free
      | pair => simp at free
      | alone last =>
          cases after with
          -- The carriage return at the end takes the line feed into its ending.
          | nil =>
              have joined := sourceLines_line unbroken (.pair rest)
              simpa [sourceLines] using joined
          | cons next after =>
              have others := ih (by simp) (by simp_all)
              have stillAlone :
                  SourceEnding ['\r'] ((next :: after) ++ '\n' :: rest) :=
                .alone (by simpa using last)
              have seam := sourceLines_line unbroken stillAlone
              rw [others] at seam
              simpa using seam

/-! ## Indentation -/

/-- A carriage return that ends a line is a seam of indentation, with or without
the line feed after it. -/
theorem indentChars_return {ending after : List Char} (mark before : List Char)
    (ends : Ending ('\r' :: ending) after) :
    indentChars mark (before ++ ('\r' :: ending ++ after)) =
      indentChars mark before ++
        ('\r' :: ending ++ indentChars mark after) := by
  induction before using lineInduction with
  | lastLine line endFree =>
      rw [indentChars_of_endFree mark endFree]
      exact indentChars_line mark endFree ends
  | nextLine line other rest endFree otherEnds ih =>
      have stillEnds :
          Ending other (rest ++ ('\r' :: ending ++ after)) := by
        cases otherEnds with
        | pair => exact .pair _
        | single isEnd alone =>
            refine .single isEnd fun charEq => ?_
            cases rest with
            | nil => simp
            | cons head rest => exact alone charEq
      rw [indentChars_line mark endFree otherEnds]
      have seam := indentChars_line mark endFree stillEnds
      rw [ih] at seam
      simpa only [List.append_assoc] using seam

theorem indentChars_sourceEnding {ending after : List Char}
    (mark before : List Char) (ends : SourceEnding ending after) :
    indentChars mark (before ++ (ending ++ after)) =
      indentChars mark before ++ (ending ++ indentChars mark after) := by
  cases ends with
  | lineFeed => exact indentChars_lineFeed mark before after
  | pair => exact indentChars_return mark before (.pair after)
  | alone last =>
      exact indentChars_return mark before
        (.single (by decide) fun _ => last)

theorem mem_or_mem_of_indentChars {char : Char} {mark chars : List Char}
    (charMem : char ∈ indentChars mark chars) : char ∈ mark ∨ char ∈ chars := by
  have ofSegment {line : List Char} (lineMem : char ∈ indentSegment mark line) :
      char ∈ mark ∨ char ∈ line := by
    rw [indentSegment] at lineMem
    split at lineMem
    · exact Or.inr lineMem
    · exact List.mem_append.mp lineMem
  induction chars using lineInduction with
  | lastLine line endFree =>
      rw [indentChars_of_endFree mark endFree] at charMem
      exact ofSegment charMem
  | nextLine line ending rest endFree ends ih =>
      rw [indentChars_line mark endFree ends] at charMem
      simp only [List.mem_append] at charMem ⊢
      rcases charMem with lineMem | endingMem | restMem
      · exact (ofSegment lineMem).imp_right Or.inl
      · exact Or.inr (Or.inr (Or.inl endingMem))
      · exact (ih restMem).imp_right fun mem => Or.inr (Or.inr mem)

theorem sublist_indentChars (mark chars : List Char) :
    chars.Sublist (indentChars mark chars) := by
  have ofSegment (line : List Char) :
      line.Sublist (indentSegment mark line) := by
    rw [indentSegment]
    split
    · exact List.Sublist.refl line
    · exact List.sublist_append_right mark line
  induction chars using lineInduction with
  | lastLine line endFree =>
      rw [indentChars_of_endFree mark endFree]
      exact ofSegment line
  | nextLine line ending rest endFree ends ih =>
      rw [indentChars_line mark endFree ends]
      exact (ofSegment line).append ((List.Sublist.refl ending).append ih)

theorem indentChars_eq_nil_iff {mark chars : List Char} :
    indentChars mark chars = [] ↔ chars = [] := by
  constructor
  · intro empty
    exact List.sublist_nil.mp (empty ▸ sublist_indentChars mark chars)
  · rintro rfl
    rfl

theorem Unbroken.indentChars {mark line : List Char} (markFree : EndFree mark)
    (unbroken : Unbroken line) : Unbroken (indentChars mark line) := by
  intro char charMem
  rcases mem_or_mem_of_indentChars charMem with markMem | lineMem
  · have notEnd := markFree char markMem
    constructor
    · rintro rfl
      exact absurd notEnd (by decide)
    · rintro rfl
      exact absurd notEnd (by decide)
  · exact unbroken char lineMem

/-- The lines of an indented text are its lines, each indented. -/
theorem sourceLines_indentChars {mark : List Char} (markFree : EndFree mark)
    (chars : List Char) :
    sourceLines (indentChars mark chars) =
      (sourceLines chars).map (indentChars mark) := by
  induction chars using sourceInduction with
  | lastLine line unbroken =>
      rw [sourceLines_of_unbroken (unbroken.indentChars markFree),
        sourceLines_of_unbroken unbroken]
      by_cases empty : line = []
      · simp [empty, indentChars_eq_nil_iff]
      · simp [empty, indentChars_eq_nil_iff]
  | nextLine line ending rest unbroken ends ih =>
      have stillEnds : SourceEnding ending (Text.indentChars mark rest) := by
        cases ends with
        | lineFeed => exact .lineFeed _
        | pair => exact .pair _
        | alone last =>
            exact .alone fun headEq => last (head_of_indentChars markFree headEq)
      rw [indentChars_sourceEnding mark line ends,
        sourceLines_line (unbroken.indentChars markFree) stillEnds, ih,
        sourceLines_line unbroken ends, List.map_cons]

end Text

end SwiftInterface
