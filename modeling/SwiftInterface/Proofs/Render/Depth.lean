import Mathlib.Logic.Function.Iterate
import SwiftInterface.Proofs.Render.Fate

/-!
# Printing by depth

The renderer indents the body of a container after it is rendered, so a
declaration under several containers is indented once for each of them.  This
file prints a declaration in one pass that carries its depth and writes every
line with all its marks at once.  For marks without line ends the two agree at
every depth: indentation commutes with the seams between the parts of a text,
and repeated marks add up in front of each line.
-/

namespace SwiftInterface

namespace Render

open Text

/-- The mark of a line at a depth. -/
def deepMark (mark : String) (depth : Nat) : String :=
  String.join (List.replicate depth mark)

/-- Write a text at a depth: every segment that is not blank stands after as
many marks as the depth says. -/
def printText (mark : String) (depth : Nat) (text : String) : String :=
  String.ofList ((segments text.toList).flatMap fun segment =>
    if isAllBlank segment then segment
    else (deepMark mark depth).toList ++ segment)

/-- Write the comments and the header of a declaration at a depth. -/
def printHeader (mark : String) (depth : Nat) (documentation : Option String)
    (header : String) : String :=
  printText mark depth (commentsOf documentation) ++
    printText mark depth header

mutual

/-- Print one declaration at a depth, unless it is dropped. -/
def printDeclaration (options : Options) (depth : Nat) :
    Declaration → Option String
  | ⟨none, _, _, _, _, children⟩ =>
      some (joinRows (printForest options depth children))
  | ⟨some kind, _, accessibility, documentation, signature, children⟩ =>
      if Declaration.isEnumCaseKind (some kind) then
        some (joinRows ((children.filterMap elementLine?).map
          (printText options.indentMark depth)))
      else
        match verdict options accessibility signature with
        | .emitted signature =>
            if !children.isEmpty && Declaration.isContainerKind (some kind) then
              some (printHeader options.indentMark depth documentation
                  (signature ++ " \x7b") ++ "\n\n" ++
                joinRows (printForest options (depth + 1) children) ++ "\n" ++
                deepMark options.indentMark depth ++ "\x7d\n")
            else
              some (printHeader options.indentMark depth documentation
                signature ++ "\n")
        | _ => none
termination_by structural declaration => declaration

/-- Print sibling declarations at one depth. -/
def printForest (options : Options) (depth : Nat) : Forest → List String
  | [] => []
  | declaration :: rest =>
      (printDeclaration options depth declaration).toList ++
        printForest options depth rest
termination_by structural forest => forest

end

theorem printText_eq_indent (mark : String) (depth : Nat) (text : String) :
    printText mark depth text = indent (deepMark mark depth) text :=
  rfl

theorem deepMark_succ (mark : String) (depth : Nat) :
    (deepMark mark (depth + 1)).toList =
      (deepMark mark depth).toList ++ mark.toList := by
  simp [deepMark, List.replicate_succ']

/-- Indenting again and again writes all marks at once. -/
theorem iterate_indent {mark : String} (markFree : EndFree mark.toList)
    (depth : Nat) (text : String) :
    (indent mark)^[depth] text = printText mark depth text := by
  induction depth generalizing text with
  | zero =>
      have noMark : (deepMark mark 0).toList = [] := by simp [deepMark]
      simp [printText_eq_indent, indent, noMark, indentChars_nil]
  | succ depth ih =>
      rw [Function.iterate_succ_apply, ih]
      simp only [printText_eq_indent, indent, String.toList_ofList]
      rw [indentChars_indentChars _ _ markFree, deepMark_succ]

/-- The comment lines of a declaration end in a line feed, if there are any. -/
theorem commentsOf_eq_or (documentation : Option String) :
    commentsOf documentation = "" ∨
      ∃ before, commentsOf documentation = before ++ "\n" := by
  cases documentation with
  | none => exact Or.inl rfl
  | some documentation =>
      rw [commentsOf, formatDocumentation]
      generalize (rowsOf documentation).filter (fun row => row ≠ "") = rows
      rcases List.eq_nil_or_concat rows with rfl | ⟨others, last, rfl⟩
      · exact Or.inl rfl
      · refine Or.inr ⟨String.join (others.map commentLine) ++
          documentationMark ++ last, ?_⟩
        apply String.toList_inj.mp
        simp [commentLine]

/-- The seam between the comments and the header is one of indentation. -/
theorem indent_commentsOf_append (mark : String) (documentation : Option String)
    (header : String) :
    indent mark (commentsOf documentation ++ header) =
      indent mark (commentsOf documentation) ++ indent mark header := by
  rcases commentsOf_eq_or documentation with noComments | ⟨before, comments⟩
  · simp [noComments]
  · have closed := indent_lineFeed mark before ""
    rw [String.append_empty, indent_empty, String.append_empty] at closed
    rw [comments, indent_lineFeed, closed]

theorem indent_closingBrace (mark : String) :
    indent mark "\x7d" = mark ++ "\x7d" := by
  have endFree : EndFree ['\x7d'] := by
    simp [EndFree, isLineEnd]
  have inked : isAllBlank ['\x7d'] = false := by decide
  apply String.toList_inj.mp
  simp [indent, indentChars_of_endFree _ endFree, indentSegment, inked]

/-- The depth printer on the text of a container. -/
theorem printText_container {mark : String} (markFree : EndFree mark.toList)
    (depth : Nat) (documentation : Option String) (signature : String)
    (blocks : List String) :
    printText mark depth
        (container mark (commentsOf documentation) signature blocks) =
      printHeader mark depth documentation (signature ++ " \x7b") ++ "\n\n" ++
        joinRows (blocks.map (printText mark (depth + 1))) ++ "\n" ++
        deepMark mark depth ++ "\x7d\n" := by
  have body : printText mark depth (indent mark (joinRows blocks)) =
      joinRows (blocks.map (printText mark (depth + 1))) := by
    rw [← iterate_indent markFree, ← Function.iterate_succ_apply,
      iterate_indent markFree, printText_eq_indent, indent_joinRows]
    rfl
  have header : printText mark depth
      (commentsOf documentation ++ signature ++ " \x7b") =
        printHeader mark depth documentation (signature ++ " \x7b") := by
    rw [String.append_assoc, printText_eq_indent, indent_commentsOf_append]
    rfl
  have brace : printText mark depth "\x7d" = deepMark mark depth ++ "\x7d" :=
    indent_closingBrace _
  have empty : printText mark depth "" = "" := indent_empty _
  rw [container_eq_joinRows, printText_eq_indent, indent_joinRows]
  change joinRows [printText mark depth _, printText mark depth "",
    printText mark depth _, printText mark depth "\x7d",
    printText mark depth ""] = _
  rw [body, header, brace, empty]
  apply String.toList_inj.mp
  simp [joinRows]

/-- The depth printer on the text of a declaration without a body. -/
theorem printText_leaf (mark : String) (depth : Nat)
    (documentation : Option String) (signature : String) :
    printText mark depth (leaf (commentsOf documentation) signature) =
      printHeader mark depth documentation signature ++ "\n" := by
  have closed := indent_lineFeed (deepMark mark depth)
    (commentsOf documentation ++ signature) ""
  rw [String.append_empty, indent_empty, String.append_empty,
    indent_commentsOf_append] at closed
  exact closed

theorem printDeclaration_of_kindless {declaration : Declaration}
    (options : Options) (depth : Nat) (kindless : declaration.kind = none) :
    printDeclaration options depth declaration =
      some (joinRows (printForest options depth declaration.children)) := by
  cases declaration with
  | mk kind name accessibility documentation signature children =>
      subst kindless
      rw [printDeclaration]

theorem printDeclaration_of_group {declaration : Declaration}
    (options : Options) (depth : Nat)
    (group : declaration.isEnumCaseGroup = true) :
    printDeclaration options depth declaration =
      some (joinRows ((declaration.children.filterMap elementLine?).map
        (printText options.indentMark depth))) := by
  cases declaration with
  | mk kind name accessibility documentation signature children =>
      cases kind with
      | none => cases group
      | some kind =>
          have isGroup : Declaration.isEnumCaseKind (some kind) = true := group
          rw [printDeclaration, if_pos isGroup]

theorem printDeclaration_of_tested {declaration : Declaration}
    (options : Options) (depth : Nat) (tested : declaration.Tested) :
    printDeclaration options depth declaration =
      match verdict options declaration.accessibility declaration.signature with
      | .emitted signature =>
          if !declaration.children.isEmpty && declaration.isContainer then
            some (printHeader options.indentMark depth
                declaration.documentation (signature ++ " \x7b") ++ "\n\n" ++
              joinRows (printForest options (depth + 1) declaration.children) ++
              "\n" ++ deepMark options.indentMark depth ++ "\x7d\n")
          else
            some (printHeader options.indentMark depth
              declaration.documentation signature ++ "\n")
      | _ => none := by
  obtain ⟨kind, kindEq⟩ := Option.ne_none_iff_exists'.mp tested.1
  have notGroup := tested.2
  cases declaration with
  | mk _ name accessibility documentation signature children =>
      subst kindEq
      have notGroupKind : ¬ Declaration.isEnumCaseKind (some kind) = true :=
        Bool.not_eq_true _ ▸ notGroup
      rw [printDeclaration, if_neg notGroupKind]
      rfl

/-- Siblings are printed at a depth when their members are. -/
theorem printText_renderForest {options : Options} {depth : Nat}
    {forest : Forest}
    (members : ∀ declaration ∈ forest,
      (renderDeclaration options declaration).output.map
          (printText options.indentMark depth) =
        printDeclaration options depth declaration) :
    (renderForest options forest).output.map
        (printText options.indentMark depth) =
      printForest options depth forest := by
  induction forest with
  | nil =>
      rw [renderForest_nil, printForest]
      rfl
  | cons declaration forest ih =>
      have others := ih fun other otherMem =>
        members other (List.mem_cons_of_mem declaration otherMem)
      rw [renderForest_cons, printForest, List.map_append, others,
        ← members declaration (by simp)]
      cases (renderDeclaration options declaration).output <;> rfl

/-- The text of a declaration, written at a depth, is what the depth printer
prints. -/
theorem printText_renderDeclaration {options : Options}
    (markFree : EndFree options.indentMark.toList) (depth : Nat)
    (declaration : Declaration) :
    (renderDeclaration options declaration).output.map
        (printText options.indentMark depth) =
      printDeclaration options depth declaration := by
  induction declaration using Declaration.memberInduction
    generalizing depth with
  | node declaration members =>
      have body (depth : Nat) :
          (renderForest options declaration.children).output.map
              (printText options.indentMark depth) =
            printForest options depth declaration.children :=
        printText_renderForest fun member memberMem =>
          members member memberMem depth
      cases fate options declaration with
      | transparent kindless =>
          rw [renderDeclaration_of_kindless options kindless,
            printDeclaration_of_kindless options depth kindless, ← body,
            Option.map_some, printText_eq_indent, indent_joinRows]
          rfl
      | elements group =>
          rw [renderDeclaration_of_group options group,
            printDeclaration_of_group options depth group, elementLines,
            Option.map_some, printText_eq_indent, indent_joinRows]
          rfl
      | belowLevel below =>
          rw [renderDeclaration_of_belowLevel below,
            printDeclaration_of_tested options depth below.1, below.verdict]
          rfl
      | unsigned unsigned kindEq =>
          rw [renderDeclaration_of_unsigned unsigned kindEq,
            printDeclaration_of_tested options depth unsigned.1,
            unsigned.verdict]
          rfl
      | unbalanced unbalanced signed =>
          rw [renderDeclaration_of_unbalanced unbalanced signed,
            printDeclaration_of_tested options depth unbalanced.1,
            unbalanced.verdict signed]
          rfl
      | container passes signed hasBody =>
          rw [renderDeclaration_of_container passes signed hasBody,
            printDeclaration_of_tested options depth passes.1,
            passes.verdict signed, Option.map_some,
            printText_container markFree, body]
          exact (if_pos (Declaration.hasBody_iff.mp hasBody)).symm
      | leaf passes signed bare =>
          rw [renderDeclaration_of_leaf passes signed bare,
            printDeclaration_of_tested options depth passes.1,
            passes.verdict signed, Option.map_some, printText_leaf]
          exact (if_neg fun braces =>
            bare (Declaration.hasBody_iff.mpr braces)).symm

/-- Indenting a rendered declaration once for each enclosing body is printing
it in one pass at that depth.  In particular the renderer itself prints at
depth zero. -/
theorem iterate_indent_renderDeclaration {options : Options}
    (markFree : EndFree options.indentMark.toList) (declaration : Declaration) :
    (∀ depth : Nat,
      (renderDeclaration options declaration).output.map
          (indent options.indentMark)^[depth] =
        printDeclaration options depth declaration) ∧
      (renderDeclaration options declaration).output =
        printDeclaration options 0 declaration := by
  have atDepth (depth : Nat) :
      (renderDeclaration options declaration).output.map
          (indent options.indentMark)^[depth] =
        printDeclaration options depth declaration := by
    rw [← printText_renderDeclaration markFree depth declaration]
    congr 1
    funext text
    exact iterate_indent markFree depth text
  refine ⟨atDepth, ?_⟩
  simpa using atDepth 0

/-- A class over two lines, with comments, around an enum. -/
def classAroundEnum : Declaration :=
  ⟨some "source.lang.swift.decl.class", some "Lamp", some "public",
    some "Shines.\n\nOr not.", some "public class Lamp:\r\n  Light\r",
    [⟨some "source.lang.swift.decl.enum", some "State", some "public", none,
      some "public enum State",
      [⟨some "source.lang.swift.decl.enumcase", none, none, none, none,
        [⟨some "source.lang.swift.decl.enumelement", some "lit", none, none,
          none, []⟩]⟩]⟩]⟩

theorem iterate_indent_renderDeclaration_classAroundEnum :
    EndFree (Options.mk .publicAccess false "\t").indentMark.toList ∧
      (renderDeclaration ⟨.publicAccess, false, "\t"⟩ classAroundEnum).output.map
          (indent "\t")^[2] =
        some ("\t\t/// Shines.\n\t\t/// Or not.\n\t\tpublic class Lamp:\r\n" ++
          "\t\t  Light\r\t\t \x7b\n\n\t\t\tpublic enum State \x7b\n\n" ++
          "\t\t\t\tcase lit\n\t\t\t\x7d\n\n\t\t\x7d\n") := by
  have markFree :
      EndFree (Options.mk .publicAccess false "\t").indentMark.toList := by
    intro char charMem
    obtain rfl : char = '\t' := by simpa using charMem
    decide
  refine ⟨markFree, ?_⟩
  rw [(iterate_indent_renderDeclaration markFree classAroundEnum).1 2]
  decide +kernel

end Render

end SwiftInterface
