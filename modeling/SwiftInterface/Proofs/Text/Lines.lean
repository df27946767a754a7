import Mathlib.Data.List.Flatten
import SwiftInterface.Text.Lines

/-!
# Lines under indentation

Indentation works on segments, while blocks are joined and compared by rows.
This file connects the two.  A text is read line by line: a stretch without
line ends, then the ending it has in front of the rest.  From this it follows
that a line feed is always a seam of indentation, even after a carriage
return, so indentation acts on every row by itself.  A mark without line ends
keeps the segments apart, so marks can be collected before they are written.
-/

namespace SwiftInterface

namespace Text

/-- A text that holds no line end. -/
def EndFree (chars : List Char) : Prop :=
  ∀ char ∈ chars, isLineEnd char = false

/-- The ending of a segment in front of the rest of a text.  A carriage return
is an ending by itself only when no line feed follows. -/
inductive Ending : List Char → List Char → Prop
  | pair (rest : List Char) : Ending ['\r', '\n'] rest
  | single {char : Char} {rest : List Char} (isEnd : isLineEnd char = true)
      (alone : char = '\r' → rest.head? ≠ some '\n') : Ending [char] rest

theorem isBlank_of_isLineEnd {char : Char} (isEnd : isLineEnd char = true) :
    isBlank char = true := by
  simp only [isLineEnd, isBlank, Bool.or_eq_true, Bool.and_eq_true,
    decide_eq_true_eq, beq_iff_eq] at isEnd ⊢
  omega

theorem EndFree.of_cons {char : Char} {line : List Char}
    (endFree : EndFree (char :: line)) : EndFree line :=
  fun other otherMem => endFree other (List.mem_cons_of_mem char otherMem)

theorem EndFree.append {first second : List Char}
    (firstFree : EndFree first) (secondFree : EndFree second) :
    EndFree (first ++ second) := by
  intro char charMem
  rcases List.mem_append.mp charMem with firstMem | secondMem
  · exact firstFree char firstMem
  · exact secondFree char secondMem

theorem Ending.lineFeed (rest : List Char) : Ending ['\n'] rest :=
  .single (by decide) (fun equal => absurd equal (by decide))

theorem Ending.isAllBlank {ending rest : List Char}
    (ends : Ending ending rest) : Text.isAllBlank ending = true := by
  cases ends with
  | pair => decide
  | single isEnd alone => simp [Text.isAllBlank, isBlank_of_isLineEnd isEnd]

theorem Ending.ne_nil {ending rest : List Char}
    (ends : Ending ending rest) : ending ≠ [] := by
  cases ends <;> simp

theorem segments_cons_of_not_isLineEnd {char : Char} (rest : List Char)
    (notEnd : isLineEnd char = false) :
    segments (char :: rest) = consSegment char (segments rest) := by
  have notReturn : char ≠ '\r' := by
    rintro rfl
    exact absurd notEnd (by decide)
  rw [segments]
  · simp [notEnd]
  · exact fun _ equal _ => notReturn equal

/-- A line and its ending are the first segment of a text. -/
theorem segments_line {line ending rest : List Char}
    (endFree : EndFree line) (ends : Ending ending rest) :
    segments (line ++ (ending ++ rest)) =
      (line ++ ending) :: segments rest := by
  induction line with
  | nil =>
      cases ends with
      | pair => rfl
      | @single char rest isEnd alone =>
          change segments (char :: rest) = [char] :: segments rest
          rw [segments]
          · simp [isEnd]
          · intro tail charEq restEq
            exact alone charEq (by simp [restEq])
  | cons char line ih =>
      rw [List.cons_append, segments_cons_of_not_isLineEnd _
        (endFree char (by simp)), ih endFree.of_cons]
      rfl

/-- A text without line ends is a single segment, unless it is empty. -/
theorem segments_of_endFree {line : List Char} (endFree : EndFree line) :
    segments line = if line = [] then [] else [line] := by
  induction line with
  | nil => rfl
  | cons char line ih =>
      rw [segments_cons_of_not_isLineEnd _ (endFree char (by simp)),
        ih endFree.of_cons]
      by_cases empty : line = []
      · simp [empty, consSegment]
      · simp [empty, consSegment]

theorem exists_ending_of_isLineEnd {char : Char} (rest : List Char)
    (isEnd : isLineEnd char = true) :
    ∃ ending tail, char :: rest = ending ++ tail ∧ Ending ending tail := by
  by_cases pair : char = '\r' ∧ rest.head? = some '\n'
  · obtain ⟨rfl, headEq⟩ := pair
    obtain ⟨tail, rfl⟩ := List.head?_eq_some_iff.mp headEq
    exact ⟨['\r', '\n'], tail, rfl, .pair tail⟩
  · exact ⟨[char], rest, rfl,
      .single isEnd fun charEq headEq => pair ⟨charEq, headEq⟩⟩

/-- Every text is a line without line ends, or such a line with its ending in
front of a rest. -/
theorem exists_line (chars : List Char) :
    EndFree chars ∨ ∃ line ending rest,
      chars = line ++ (ending ++ rest) ∧ EndFree line ∧
        Ending ending rest := by
  induction chars with
  | nil => exact Or.inl (fun char charMem => absurd charMem (by simp))
  | cons char chars ih =>
      cases isEnd : isLineEnd char with
      | true =>
          obtain ⟨ending, rest, charsEq, ends⟩ :=
            exists_ending_of_isLineEnd chars isEnd
          exact Or.inr ⟨[], ending, rest, charsEq,
            fun other otherMem => absurd otherMem (by simp), ends⟩
      | false =>
          have consFree {line : List Char} (endFree : EndFree line) :
              EndFree (char :: line) := by
            intro other otherMem
            rcases List.mem_cons.mp otherMem with rfl | lineMem
            · exact isEnd
            · exact endFree other lineMem
          rcases ih with endFree | ⟨line, ending, rest, rfl, endFree, ends⟩
          · exact Or.inl (consFree endFree)
          · exact Or.inr ⟨char :: line, ending, rest, rfl,
              consFree endFree, ends⟩

/-- Induction over a text line by line. -/
theorem lineInduction {motive : List Char → Prop}
    (lastLine : ∀ line, EndFree line → motive line)
    (nextLine : ∀ line ending rest, EndFree line → Ending ending rest →
      motive rest → motive (line ++ (ending ++ rest)))
    (chars : List Char) : motive chars := by
  rcases exists_line chars with
    endFree | ⟨line, ending, rest, charsEq, endFree, ends⟩
  · exact lastLine chars endFree
  · have shorter : rest.length < chars.length := by
      have := List.length_pos_iff.mpr ends.ne_nil
      simp only [charsEq, List.length_append]
      omega
    rw [charsEq]
    exact nextLine line ending rest endFree ends
      (lineInduction lastLine nextLine rest)
termination_by chars.length

theorem indentSegment_append {segment ending : List Char} (mark : List Char)
    (blank : isAllBlank ending = true) :
    indentSegment mark (segment ++ ending) =
      indentSegment mark segment ++ ending := by
  have sameTest : isAllBlank (segment ++ ending) = isAllBlank segment := by
    simp only [isAllBlank, List.all_append] at blank ⊢
    rw [blank, Bool.and_true]
  cases segmentBlank : isAllBlank segment <;>
    simp [indentSegment, sameTest, segmentBlank]

theorem indentChars_line {line ending rest : List Char} (mark : List Char)
    (endFree : EndFree line) (ends : Ending ending rest) :
    indentChars mark (line ++ (ending ++ rest)) =
      indentSegment mark line ++ (ending ++ indentChars mark rest) := by
  rw [indentChars, segments_line endFree ends, List.flatMap_cons,
    indentSegment_append mark ends.isAllBlank, List.append_assoc]
  rfl

theorem indentChars_of_endFree {line : List Char} (mark : List Char)
    (endFree : EndFree line) :
    indentChars mark line = indentSegment mark line := by
  rw [indentChars, segments_of_endFree endFree]
  by_cases empty : line = []
  · simp [empty, indentSegment, isAllBlank]
  · simp [empty]

/-- A line feed is a seam of indentation: what stands before it and after it is
indented apart. -/
theorem indentChars_lineFeed (mark before after : List Char) :
    indentChars mark (before ++ '\n' :: after) =
      indentChars mark before ++ '\n' :: indentChars mark after := by
  induction before using lineInduction with
  | lastLine line endFree =>
      rw [indentChars_of_endFree mark endFree]
      exact indentChars_line mark endFree (.lineFeed after)
  | nextLine line ending rest endFree ends ih =>
      rw [indentChars_line mark endFree ends]
      by_cases joins : ending = ['\r'] ∧ rest = []
      -- The carriage return at the very end takes the line feed into its ending.
      · obtain ⟨rfl, rfl⟩ := joins
        have joined := indentChars_line mark endFree (.pair after)
        simpa [indentChars, segments] using joined
      · have stillEnds : Ending ending (rest ++ '\n' :: after) := by
          cases ends with
          | pair => exact .pair _
          | single isEnd alone =>
              refine .single isEnd fun charEq => ?_
              cases rest with
              | nil => exact absurd ⟨by rw [charEq], rfl⟩ joins
              | cons head rest => exact alone charEq
        have seam := indentChars_line mark endFree stillEnds
        rw [ih] at seam
        simpa only [List.append_assoc] using seam

theorem indentSegment_nil (segment : List Char) :
    indentSegment [] segment = segment := by
  simp [indentSegment]

/-- The empty mark changes nothing. -/
theorem indentChars_nil (chars : List Char) : indentChars [] chars = chars := by
  induction chars using lineInduction with
  | lastLine line endFree =>
      rw [indentChars_of_endFree [] endFree, indentSegment_nil]
  | nextLine line ending rest endFree ends ih =>
      rw [indentChars_line [] endFree ends, indentSegment_nil, ih]

theorem EndFree.indentSegment {mark line : List Char}
    (markFree : EndFree mark) (lineFree : EndFree line) :
    EndFree (indentSegment mark line) := by
  rw [Text.indentSegment]
  split
  · exact lineFree
  · exact markFree.append lineFree

/-- Indentation by a mark without line ends puts no line feed in front. -/
theorem head_of_indentChars {mark chars : List Char} (markFree : EndFree mark)
    (headEq : (indentChars mark chars).head? = some '\n') :
    chars.head? = some '\n' := by
  have noLineFeed {line : List Char} (endFree : EndFree line)
      (lineFeed : line.head? = some '\n') : False := by
    have notEnd := endFree '\n' (List.mem_of_head? lineFeed)
    exact absurd notEnd (by decide)
  induction chars using lineInduction with
  | lastLine line endFree =>
      rw [indentChars_of_endFree mark endFree] at headEq
      exact (noLineFeed (markFree.indentSegment endFree) headEq).elim
  | nextLine line ending rest endFree ends =>
      rw [indentChars_line mark endFree ends] at headEq
      cases line with
      | nil =>
          have sameHead : ∀ tail : List Char,
              (ending ++ tail).head? = ending.head? := by
            intro tail
            cases ends <;> rfl
          simpa [indentSegment, isAllBlank, sameHead] using headEq
      | cons char line =>
          have indented : indentSegment mark (char :: line) ≠ [] := by
            rw [indentSegment]
            split <;> simp
          obtain ⟨head, tail, indentedEq⟩ := List.exists_cons_of_ne_nil indented
          have indentedHead : (indentSegment mark (char :: line)).head? =
              some '\n' := by
            rw [indentedEq] at headEq ⊢
            exact headEq
          exact (noLineFeed (markFree.indentSegment endFree) indentedHead).elim

theorem indentSegment_indentSegment (outer inner segment : List Char) :
    indentSegment outer (indentSegment inner segment) =
      indentSegment (outer ++ inner) segment := by
  cases blank : isAllBlank segment with
  | true => simp [indentSegment, blank]
  | false =>
      have stillInked : isAllBlank (inner ++ segment) = false := by
        simp only [isAllBlank, List.all_append] at blank ⊢
        rw [blank, Bool.and_false]
      simp [indentSegment, blank, stillInked]

/-- Indenting twice is indenting once by both marks, when the inner mark holds
no line end. -/
theorem indentChars_indentChars {inner : List Char} (outer chars : List Char)
    (innerFree : EndFree inner) :
    indentChars outer (indentChars inner chars) =
      indentChars (outer ++ inner) chars := by
  induction chars using lineInduction with
  | lastLine line endFree =>
      rw [indentChars_of_endFree inner endFree,
        indentChars_of_endFree outer (innerFree.indentSegment endFree),
        indentChars_of_endFree (outer ++ inner) endFree,
        indentSegment_indentSegment]
  | nextLine line ending rest endFree ends ih =>
      have stillEnds : Ending ending (indentChars inner rest) := by
        cases ends with
        | pair => exact .pair _
        | single isEnd alone =>
            exact .single isEnd fun charEq headEq =>
              alone charEq (head_of_indentChars innerFree headEq)
      rw [indentChars_line inner endFree ends,
        indentChars_line outer (innerFree.indentSegment endFree) stillEnds,
        indentChars_line (outer ++ inner) endFree ends,
        indentSegment_indentSegment, ih]

@[simp]
theorem indent_empty (mark : String) : indent mark "" = "" :=
  rfl

theorem indent_lineFeed (mark before after : String) :
    indent mark (before ++ "\n" ++ after) =
      indent mark before ++ "\n" ++ indent mark after := by
  apply String.toList_inj.mp
  simpa [indent] using
    indentChars_lineFeed mark.toList before.toList after.toList

@[simp]
theorem joinRows_nil : joinRows [] = "" :=
  rfl

theorem joinRows_singleton (text : String) : joinRows [text] = text :=
  String.intercalate_singleton

theorem joinRows_cons {texts : List String} (text : String)
    (nonempty : texts ≠ []) :
    joinRows (text :: texts) = text ++ "\n" ++ joinRows texts :=
  String.intercalate_cons_of_ne_nil nonempty

theorem joinRows_append {first second : List String}
    (firstNonempty : first ≠ []) (secondNonempty : second ≠ []) :
    joinRows (first ++ second) = joinRows first ++ "\n" ++ joinRows second := by
  induction first with
  | nil => exact absurd rfl firstNonempty
  | cons text texts ih =>
      by_cases empty : texts = []
      · rw [empty, List.singleton_append, joinRows_cons text secondNonempty,
          joinRows_singleton]
      · have joined : texts ++ second ≠ [] := by simp [empty]
        rw [List.cons_append, joinRows_cons text joined, ih empty,
          joinRows_cons text empty]
        simp only [String.append_assoc]

/-- Texts that were joined before can as well be joined with the others. -/
theorem joinRows_joinRows {texts : List String} (nonempty : texts ≠ [])
    (before after : List String) :
    joinRows (before ++ [joinRows texts] ++ after) =
      joinRows (before ++ texts ++ after) := by
  induction before with
  | nil =>
      simp only [List.nil_append, List.singleton_append]
      by_cases empty : after = []
      · rw [empty, joinRows_singleton, List.append_nil]
      · rw [joinRows_cons _ empty, joinRows_append nonempty empty]
  | cons text before ih =>
      have joined : before ++ [joinRows texts] ++ after ≠ [] := by simp
      have flattened : before ++ texts ++ after ≠ [] := by simp [nonempty]
      simp only [List.cons_append]
      rw [joinRows_cons text joined, joinRows_cons text flattened, ih]

/-- Indentation acts on each of the joined texts by itself. -/
theorem indent_joinRows (mark : String) (texts : List String) :
    indent mark (joinRows texts) = joinRows (texts.map (indent mark)) := by
  induction texts with
  | nil => rfl
  | cons text texts ih =>
      by_cases empty : texts = []
      · simp [empty, joinRows_singleton]
      · have mapped : texts.map (indent mark) ≠ [] := by simpa using empty
        rw [List.map_cons, joinRows_cons text empty,
          joinRows_cons (indent mark text) mapped, indent_lineFeed, ih]

@[simp]
theorem rowsOf_empty : rowsOf "" = [""] :=
  rfl

theorem rowsOf_ne_nil (text : String) : rowsOf text ≠ [] := by
  simp [rowsOf]

theorem rowsOf_lineFeed (before after : String) :
    rowsOf (before ++ "\n" ++ after) = rowsOf before ++ rowsOf after := by
  simp [rowsOf, List.splitOn_append_cons_self]

theorem joinRows_rowsOf (text : String) : joinRows (rowsOf text) = text := by
  apply String.toList_inj.mp
  simp [joinRows, rowsOf, Function.comp_def]

theorem rowsOf_joinRows {texts : List String} (nonempty : texts ≠ []) :
    rowsOf (joinRows texts) = texts.flatMap rowsOf := by
  induction texts with
  | nil => exact absurd rfl nonempty
  | cons text texts ih =>
      by_cases empty : texts = []
      · simp [empty, joinRows_singleton]
      · rw [joinRows_cons text empty, rowsOf_lineFeed, ih empty,
          List.flatMap_cons]

/-- The rows of an indented text come from its rows one by one.  A mark that
holds line feeds makes several rows of one. -/
theorem rowsOf_indent (mark text : String) :
    rowsOf (indent mark text) =
      (rowsOf text).flatMap fun row => rowsOf (indent mark row) := by
  have nonempty : (rowsOf text).map (indent mark) ≠ [] := by
    simpa using rowsOf_ne_nil text
  calc
    rowsOf (indent mark text) =
        rowsOf (indent mark (joinRows (rowsOf text))) := by
      rw [joinRows_rowsOf]
    _ = ((rowsOf text).map (indent mark)).flatMap rowsOf := by
      rw [indent_joinRows, rowsOf_joinRows nonempty]
    _ = (rowsOf text).flatMap fun row => rowsOf (indent mark row) :=
      List.flatMap_map ..

/-- Indentation keeps a selection of rows a selection of rows. -/
theorem rowsOf_indent_sublist {first second : String} (mark : String)
    (selected : (rowsOf first).Sublist (rowsOf second)) :
    (rowsOf (indent mark first)).Sublist (rowsOf (indent mark second)) := by
  rw [rowsOf_indent mark first, rowsOf_indent mark second]
  exact selected.flatMap _

end Text

end SwiftInterface
