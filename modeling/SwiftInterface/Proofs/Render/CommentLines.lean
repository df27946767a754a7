import SwiftInterface.Proofs.Render.Depth
import SwiftInterface.Proofs.Text.SourceLines

/-!
# Documentation inside comments

Documentation is cut at line feeds, and each piece gets a comment mark.  A Swift
compiler ends a line at a carriage return as well, so a piece may span several
lines of source, of which only the first has the mark.  This file says exactly
which documentation stays inside comments, however deep it is indented: that in
which a carriage return is followed by a line feed, by nothing, or by a comment
mark of its own.
-/

namespace SwiftInterface

namespace Render

open Text

/-- The mark of a body when no other is chosen. -/
def usualMark : String :=
  ({ minimumLevel := AccessLevel.fallback } : Options).indentMark

/-- The line holds nothing but a comment, behind at most so many spaces. -/
def CommentWithin (depth : Nat) (line : List Char) : Prop :=
  ∃ spaces ≤ depth,
    List.replicate spaces ' ' ++ documentationMark.toList <+: line

/-- What follows a carriage return opens no line without a comment mark. -/
def ReturnMarked (after : List Char) : Prop :=
  after = [] ∨ after.head? = some '\n' ∨ documentationMark.toList <+: after

/-- No carriage return opens a line without a comment mark. -/
def ReturnsMarked (chars : List Char) : Prop :=
  ∀ before after, chars = before ++ '\r' :: after → ReturnMarked after

/-! ## Indented lines -/

/-- What a text begins with does not reach beyond a character that it lacks. -/
theorem prefix_append_cons_iff {front chars rest : List Char} {char : Char}
    (outside : char ∉ front) :
    front <+: chars ++ char :: rest ↔ front <+: chars := by
  constructor
  · intro begins
    rcases List.prefix_or_prefix_of_prefix begins
      (List.prefix_append chars (char :: rest)) with within | beyond
    · exact within
    · obtain ⟨more, rfl⟩ := beyond
      cases more with
      | nil => exact (List.append_nil chars).symm ▸ List.prefix_rfl
      | cons next more =>
          have sameNext := (List.prefix_append_right_inj chars).mp begins
          obtain rfl := (List.cons_prefix_cons.mp sameNext).1
          simp at outside
  · intro begins
    exact begins.trans (List.prefix_append chars _)

theorem toList_deepMark_usualMark (depth : Nat) :
    (deepMark usualMark depth).toList = List.replicate depth ' ' := by
  induction depth with
  | zero => simp [deepMark]
  | succ depth ih =>
      rw [deepMark_succ, ih, List.replicate_succ']
      rfl

theorem documentationMark_endFree : EndFree documentationMark.toList := by
  intro char charMem
  have slashOrSpace : char = '/' ∨ char = ' ' := by
    simpa [documentationMark] using charMem
  rcases slashOrSpace with rfl | rfl
  · decide
  · decide

theorem spaces_endFree (count : Nat) : EndFree (List.replicate count ' ') := by
  intro char charMem
  rw [List.eq_of_mem_replicate charMem]
  decide

/-- A stretch without line ends is a comment after indentation exactly if it has
the comment mark in front. -/
theorem commentWithin_indentSegment_iff (depth : Nat) (line : List Char) :
    CommentWithin depth (indentSegment (List.replicate depth ' ') line) ↔
      documentationMark.toList <+: line := by
  rw [indentSegment]
  split
  case isTrue blank =>
      have noMark {front : List Char}
          (begins : front ++ documentationMark.toList <+: line) : False := by
        have slash : '/' ∈ line := begins.subset (by simp [documentationMark])
        exact absurd (List.all_eq_true.mp blank '/' slash) (by decide)
      constructor
      · rintro ⟨spaces, -, begins⟩
        exact (noMark begins).elim
      · intro begins
        exact (@noMark [] begins).elim
  case isFalse inked =>
      constructor
      · rintro ⟨spaces, bounded, begins⟩
        obtain ⟨more, rfl⟩ := Nat.exists_eq_add_of_le bounded
        rw [← List.replicate_append_replicate, List.append_assoc,
          List.prefix_append_right_inj] at begins
        cases more with
        | zero => exact begins
        | succ more =>
            rw [List.replicate_succ] at begins
            exact absurd (List.cons_prefix_cons.mp begins).1 (by decide)
      · intro begins
        exact ⟨depth, Nat.le_refl depth, (List.prefix_append_right_inj _).mpr begins⟩

theorem commentWithin_indentChars_iff (depth : Nat) (line : List Char) :
    CommentWithin depth (indentChars (List.replicate depth ' ') line) ↔
      documentationMark.toList <+: line := by
  rcases exists_line line with
    endFree | ⟨first, ending, rest, rfl, endFree, ends⟩
  · rw [indentChars_of_endFree _ endFree]
    exact commentWithin_indentSegment_iff depth line
  · obtain ⟨char, tail, rfl, isEnd⟩ :
        ∃ char tail, ending = char :: tail ∧ isLineEnd char = true := by
      cases ends with
      | pair => exact ⟨'\r', ['\n'], rfl, by decide⟩
      | single isEnd => exact ⟨_, [], rfl, isEnd⟩
    have outside {front : List Char} (frontFree : EndFree front) :
        char ∉ front := fun mem => by
      rw [frontFree char mem] at isEnd
      cases isEnd
    rw [indentChars_line _ endFree ends, List.cons_append, List.cons_append,
      prefix_append_cons_iff (outside documentationMark_endFree),
      ← commentWithin_indentSegment_iff depth first]
    have sameFront (spaces : Nat) :
        List.replicate spaces ' ' ++ documentationMark.toList <+:
            indentSegment (List.replicate depth ' ') first ++
              char :: (tail ++ indentChars (List.replicate depth ' ') rest) ↔
          List.replicate spaces ' ' ++ documentationMark.toList <+:
            indentSegment (List.replicate depth ' ') first :=
      prefix_append_cons_iff
        (outside ((spaces_endFree spaces).append documentationMark_endFree))
    simp only [CommentWithin, sameFront]

/-! ## Comment lines -/

/-- The comment lines of a documentation text. -/
def commentChars (chars : List Char) : List Char :=
  ((chars.splitOn '\n').filter fun row => row ≠ []).flatMap fun row =>
    documentationMark.toList ++ row ++ ['\n']

theorem toList_formatDocumentation (documentation : String) :
    (formatDocumentation documentation).toList =
      commentChars documentation.toList := by
  simp [formatDocumentation, commentChars, rowsOf, commentLine, List.filter_map,
    Function.comp_def, List.flatMap_def]

theorem commentChars_lineFeed (before after : List Char) :
    commentChars (before ++ '\n' :: after) =
      commentChars before ++ commentChars after := by
  simp [commentChars, List.splitOn_append_cons_self]

/-! ## Carriage returns -/

theorem returnMarked_lineFeed_iff (before after : List Char) :
    ReturnMarked (before ++ '\n' :: after) ↔ ReturnMarked before := by
  have outside : '\n' ∉ documentationMark.toList := by decide
  rw [ReturnMarked, ReturnMarked, prefix_append_cons_iff outside]
  cases before with
  | nil => simp
  | cons next before => simp

theorem returnsMarked_nil : ReturnsMarked [] := by
  intro before after split
  simp at split

theorem returnsMarked_cons_iff {char : Char} {rest : List Char} :
    ReturnsMarked (char :: rest) ↔
      (char = '\r' → ReturnMarked rest) ∧ ReturnsMarked rest := by
  constructor
  · intro marked
    constructor
    · rintro rfl
      exact marked [] rest rfl
    · rintro before after rfl
      exact marked (char :: before) after rfl
  · rintro ⟨first, others⟩ before after split
    cases before with
    | nil =>
        obtain ⟨rfl, rfl⟩ := List.cons.inj split
        exact first rfl
    | cons next before => exact others before after (List.cons.inj split).2

theorem returnsMarked_append_iff {front : List Char} (free : '\r' ∉ front)
    (rest : List Char) : ReturnsMarked (front ++ rest) ↔ ReturnsMarked rest := by
  induction front with
  | nil => exact Iff.rfl
  | cons char front ih =>
      have notReturn : char ≠ '\r' := by
        rintro rfl
        exact free (by simp)
      have others := ih fun mem => free (List.mem_cons_of_mem char mem)
      rw [List.cons_append, returnsMarked_cons_iff, others]
      simp [notReturn]

theorem returnsMarked_lineFeed_iff (before after : List Char) :
    ReturnsMarked (before ++ '\n' :: after) ↔
      ReturnsMarked before ∧ ReturnsMarked after := by
  induction before with
  | nil => simp [returnsMarked_cons_iff, returnsMarked_nil]
  | cons char before ih =>
      rw [List.cons_append, returnsMarked_cons_iff, returnMarked_lineFeed_iff,
        ih, returnsMarked_cons_iff, and_assoc]

/-- All lines of a piece have the comment mark exactly if it has one in front and
after each carriage return that opens a line. -/
theorem prefix_sourceLines_iff {chars : List Char} (free : '\n' ∉ chars) :
    (∀ line ∈ sourceLines chars, documentationMark.toList <+: line) ↔
      (chars = [] ∨ documentationMark.toList <+: chars) ∧
        ReturnsMarked chars := by
  induction chars using sourceInduction with
  | lastLine line unbroken =>
      have noReturn : '\r' ∉ line := fun mem => (unbroken '\r' mem).1 rfl
      have marked : ReturnsMarked line := by
        have trivially := returnsMarked_append_iff noReturn []
        rw [List.append_nil] at trivially
        exact trivially.mpr returnsMarked_nil
      rw [sourceLines_of_unbroken unbroken]
      by_cases empty : line = []
      · simp [empty, returnsMarked_nil]
      · simp [empty, marked]
  | nextLine line ending rest unbroken ends ih =>
      rw [sourceLines_line unbroken ends]
      cases ends with
      | lineFeed => simp at free
      | pair => simp at free
      | alone last =>
          have noReturn : '\r' ∉ line := fun mem => (unbroken '\r' mem).1 rfl
          have outside : '\r' ∉ documentationMark.toList := by decide
          have restFree : '\n' ∉ rest := by
            intro mem
            exact free (by simp [mem])
          have opens : ReturnMarked rest ↔
              rest = [] ∨ documentationMark.toList <+: rest := by
            simp [ReturnMarked, last]
          rw [List.forall_mem_cons, ih restFree, List.singleton_append,
            prefix_append_cons_iff outside, returnsMarked_append_iff noReturn,
            returnsMarked_cons_iff, opens]
          simp

/-! ## Documentation -/

theorem commentChars_of_free {row : List Char} (free : '\n' ∉ row) :
    commentChars row =
      if row = [] then [] else documentationMark.toList ++ row ++ ['\n'] := by
  rw [commentChars, List.splitOn_eq_singleton free]
  by_cases empty : row = []
  · simp [empty]
  · simp [empty]

theorem prefix_sourceLines_row_iff {row : List Char} (free : '\n' ∉ row)
    (rest : List Char) :
    (∀ line ∈ sourceLines (commentChars row ++ rest),
        documentationMark.toList <+: line) ↔
      ReturnsMarked row ∧
        ∀ line ∈ sourceLines rest, documentationMark.toList <+: line := by
  rw [commentChars_of_free free]
  by_cases empty : row = []
  · simp [empty, returnsMarked_nil]
  · have commented : documentationMark.toList ++ row ≠ [] := by simp [empty]
    have stillFree : '\n' ∉ documentationMark.toList ++ row := by
      simp [documentationMark, free]
    have markFree : '\r' ∉ documentationMark.toList := by decide
    rw [if_neg empty, List.append_assoc, List.singleton_append,
      sourceLines_append_lineFeed commented stillFree, List.forall_mem_append,
      prefix_sourceLines_iff stillFree, returnsMarked_append_iff markFree]
    simp

/-- Before it is indented, documentation stays inside comments exactly if its
carriage returns are marked. -/
theorem prefix_sourceLines_commentChars_iff (chars : List Char) :
    (∀ line ∈ sourceLines (commentChars chars),
        documentationMark.toList <+: line) ↔
      ReturnsMarked chars := by
  by_cases hasRow : '\n' ∈ chars
  · obtain ⟨row, rest, charsEq, rowFree⟩ := List.eq_append_cons_of_mem hasRow
    have shorter : rest.length < chars.length := by
      simp only [charsEq, List.length_append, List.length_cons]
      omega
    rw [charsEq, commentChars_lineFeed, prefix_sourceLines_row_iff rowFree,
      prefix_sourceLines_commentChars_iff rest, returnsMarked_lineFeed_iff]
  · have row := prefix_sourceLines_row_iff hasRow []
    simpa [sourceLines] using row
termination_by chars.length

theorem toList_iterate_indent (depth : Nat) (text : String) :
    ((indent usualMark)^[depth] text).toList =
      indentChars (List.replicate depth ' ') text.toList := by
  have markFree : EndFree usualMark.toList := spaces_endFree 1
  rw [iterate_indent markFree, printText_eq_indent, indent,
    toList_deepMark_usualMark, String.toList_ofList]

/-- Indented to any depth, each line of the comments of a declaration is a
comment, exactly if no carriage return of the documentation opens a line without
a comment mark. -/
theorem documentation_in_comments_iff (documentation : String) (depth : Nat) :
    (∀ line ∈ sourceLines ((indent usualMark)^[depth]
        (formatDocumentation documentation)).toList,
        CommentWithin depth line) ↔
      ReturnsMarked documentation.toList := by
  rw [toList_iterate_indent, sourceLines_indentChars (spaces_endFree depth),
    List.forall_mem_map, toList_formatDocumentation,
    ← prefix_sourceLines_commentChars_iff]
  simp only [commentWithin_indentChars_iff]

/-- A carriage return puts the rest of its row of documentation into the
source. -/
theorem documentation_outside_comments :
    ¬ ∀ line ∈ sourceLines ((indent usualMark)^[0]
        (formatDocumentation "Off.\rlet lit = true")).toList,
        CommentWithin 0 line := by
  intro inComments
  have leaks : "let lit = true".toList ∈ sourceLines ((indent usualMark)^[0]
      (formatDocumentation "Off.\rlet lit = true")).toList := by
    decide +kernel
  obtain ⟨spaces, none, begins⟩ := inComments _ leaks
  obtain rfl := Nat.le_zero.mp none
  exact absurd begins (by decide +kernel)

end Render

end SwiftInterface
