import Mathlib.Data.List.DropRight
import SwiftInterface.Files.Path

/-!
# Parts of paths

The last part of a path ends as the whole path does, up to an ending without
slashes.  Splitting off the last part leaves a front of the path that ends
before a slash, or nothing but slashes.
-/

namespace SwiftInterface

namespace Files

theorem splitOn_append_of_notMem {separator : Char} {rest : List Char}
    (front : List Char) (absent : separator ∉ rest) :
    ∃ parts last, (front ++ rest).splitOn separator = parts ++ [last ++ rest] := by
  by_cases present : separator ∈ front
  · obtain ⟨before, after, frontEq, afterFree⟩ :
        ∃ before after, front = before ++ separator :: after ∧
          separator ∉ after := by
      obtain ⟨after, before, reverseEq, afterFree⟩ :=
        List.eq_append_cons_of_mem (List.mem_reverse.mpr present)
      refine ⟨before.reverse, after.reverse, ?_, by simpa using afterFree⟩
      simpa using congrArg List.reverse reverseEq
    have restFree : separator ∉ after ++ rest := by simp [afterFree, absent]
    refine ⟨before.splitOn separator, after, ?_⟩
    rw [frontEq, List.append_assoc, List.cons_append,
      List.splitOn_append_cons_self, List.splitOn_eq_singleton restFree]
  · have free : separator ∉ front ++ rest := by simp [present, absent]
    exact ⟨[], front, by simp [List.splitOn_eq_singleton free]⟩

/-- The last part of a path ends as the path does, if the ending holds no
slash. -/
theorem exists_last_of_suffix {path : String} {ending : List Char}
    (ends : ending <:+ path.toList) (noSlash : '/' ∉ ending) :
    ∃ front last, partsOf path = front ++ [last] ∧ ending <:+ last.toList := by
  obtain ⟨front, pathEq⟩ := ends
  obtain ⟨parts, last, split⟩ := splitOn_append_of_notMem front noSlash
  refine ⟨parts.map String.ofList, String.ofList (last ++ ending), ?_, ?_⟩
  · rw [partsOf, ← pathEq, split, List.map_append, List.map_singleton]
  · simp

theorem suffix_join {name : String} {ending : List Char} (folder : String)
    (ends : ending <:+ name.toList) : ending <:+ (join folder name).toList := by
  rw [join]
  split
  · exact ends
  · split
    · rw [String.toList_append]
      exact ends.trans (List.suffix_append _ _)
    · rw [String.toList_append]
      exact ends.trans (List.suffix_append _ _)

/-! ## Fronts of paths -/

/-- A path, or what stands in it before one of its slashes. -/
def FrontOf (front chars : List Char) : Prop :=
  front = chars ∨ front ++ ['/'] <+: chars

theorem splitOn_of_all_slashes {chars : List Char}
    (slashes : ∀ char ∈ chars, char = '/') :
    ∀ part ∈ chars.splitOn '/', part = [] := by
  induction chars with
  | nil => simp
  | cons char chars ih =>
      obtain rfl : char = '/' := slashes char (by simp)
      have others := ih fun other otherMem =>
        slashes other (List.mem_cons_of_mem '/' otherMem)
      have split := List.splitOn_append_cons_self (a := '/') [] chars
      rw [List.nil_append, List.splitOn_nil] at split
      rw [split]
      simpa using others

theorem partsOf_of_all_slashes {chars : List Char}
    (slashes : ∀ char ∈ chars, char = '/') :
    ∀ part ∈ partsOf (String.ofList chars), part = "" := by
  simp only [partsOf, String.toList_ofList, List.mem_map]
  rintro part ⟨chars, charsMem, rfl⟩
  rw [splitOn_of_all_slashes slashes chars charsMem, String.ofList_nil]

theorem dropEndSlashes_isFront (chars : List Char) :
    dropEndSlashes chars <+: chars := by
  rw [dropEndSlashes]
  split
  · exact List.prefix_refl chars
  · exact List.rdropWhile_prefix (· == '/') chars

/-- Removing the slashes at the end of a path that has some leaves a front
that ends before a slash, or nothing but slashes. -/
theorem dropEndSlashes_front {chars : List Char}
    (slashed : ∀ last ∈ chars.getLast?, last = '/') :
    (∀ char ∈ dropEndSlashes chars, char = '/') ∨
      dropEndSlashes chars ++ ['/'] <+: chars := by
  rw [dropEndSlashes]
  split
  case isTrue slashes => exact .inl (by simpa using slashes)
  case isFalse =>
      rcases List.eq_nil_or_concat' chars with rfl | ⟨front, last, rfl⟩
      · exact .inl (by simp)
      · obtain rfl : last = '/' := slashed last (by simp)
        right
        have dropped : (front ++ ['/']).rdropWhile (· == '/') =
            front.rdropWhile (· == '/') :=
          List.rdropWhile_concat_pos _ front '/' rfl
        have slashes : front.rtakeWhile (· == '/') =
            List.replicate (front.rtakeWhile (· == '/')).length '/' :=
          List.eq_replicate_of_mem fun char charMem => by
            simpa using List.mem_rtakeWhile_imp charMem
        have split : front.rdropWhile (· == '/') ++
            front.rtakeWhile (· == '/') = front :=
          List.rdropWhile_append_rtakeWhile
        change (front ++ ['/']).rdropWhile (· == '/') ++ ['/'] <+: _
        rw [dropped]
        refine ⟨front.rtakeWhile (· == '/'), ?_⟩
        rw [List.append_assoc]
        nth_rewrite 3 [← split]
        rw [List.append_assoc, slashes, ← List.replicate_succ']
        rfl

theorem splitLast_eq (chars : List Char) :
    splitLast chars =
      (dropEndSlashes (chars.rdropWhile (· ≠ '/')),
        chars.rtakeWhile (· ≠ '/')) := by
  have split : chars.rdropWhile (· ≠ '/') ++ chars.rtakeWhile (· ≠ '/') =
      chars :=
    List.rdropWhile_append_rtakeWhile
  have lengths := congrArg List.length split
  rw [List.length_append] at lengths
  have front : chars.take (chars.length -
      (chars.rtakeWhile (· ≠ '/')).length) = chars.rdropWhile (· ≠ '/') := by
    rw [← lengths, Nat.add_sub_cancel]
    nth_rewrite 2 [← split]
    exact List.take_left
  change (dropEndSlashes (chars.take (chars.length -
    (chars.rtakeWhile (· ≠ '/')).length)), chars.rtakeWhile (· ≠ '/')) = _
  rw [front]

theorem splitLast_front (chars : List Char) :
    (∀ char ∈ (splitLast chars).1, char = '/') ∨
      (splitLast chars).1 ++ ['/'] <+: chars := by
  have slashed : ∀ last ∈ (chars.rdropWhile (· ≠ '/')).getLast?,
      last = '/' := by
    intro last lastMem
    obtain ⟨nonempty, rfl⟩ := List.mem_getLast?_eq_getLast lastMem
    simpa using List.rdropWhile_last_not (· ≠ '/') chars nonempty
  rw [splitLast_eq]
  rcases dropEndSlashes_front slashed with slashes | front
  · exact .inl slashes
  · exact .inr (front.trans (List.rdropWhile_prefix _ chars))

theorem splitLast_isFront (chars : List Char) :
    (splitLast chars).1 <+: chars :=
  (dropEndSlashes_isFront _).trans (List.take_prefix _ _)

theorem splitFolder_isFront (chars : List Char) :
    (splitFolder chars).1 <+: chars := by
  have whole := splitLast_isFront chars
  rw [splitFolder]
  split
  case h_1 folder splitEq =>
      have inside : folder <+: chars := by simpa [splitEq] using whole
      exact (splitLast_isFront folder).trans inside
  case h_2 => exact whole

/-- The folder part of a path is a front of it that ends before a slash, or
nothing but slashes. -/
theorem splitFolder_front (chars : List Char) :
    (∀ char ∈ (splitFolder chars).1, char = '/') ∨
      (splitFolder chars).1 ++ ['/'] <+: chars := by
  have whole := splitLast_front chars
  rw [splitFolder]
  split
  case h_1 folder splitEq =>
      have inside : folder <+: chars := by
        simpa [splitEq] using splitLast_isFront chars
      rcases splitLast_front folder with slashes | front
      · exact .inl slashes
      · exact .inr (front.trans inside)
  case h_2 => exact whole

end Files

end SwiftInterface
