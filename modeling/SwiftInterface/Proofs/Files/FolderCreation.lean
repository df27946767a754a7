import SwiftInterface.Proofs.Files.Path
import SwiftInterface.Proofs.Files.Resolution

/-!
# Creating a chain of folders

Creating a folder with the folders above it may stop half way, and what was
created until then stays.  This file says what that can be: the tree only
grows, everything new is a folder, and each new folder is named by the path
asked for or by a front of it that ends before a slash.
-/

namespace SwiftInterface

namespace Files

namespace Tree

/-- The location is that of the path or of a front of it. -/
def NamedWithin (tree : Tree) (here : Location) (chars : List Char)
    (location : Location) : Prop :=
  ∃ front, FrontOf front chars ∧
    tree.locate here (String.ofList front) = .ok location

/-- The second tree is the first with some folders added, all of them named
by a path or its fronts. -/
structure Grown (here : Location) (chars : List Char) (before after : Tree) :
    Prop where
  grows : Extends before after
  added : ∀ location, after.get? location ≠ before.get? location →
    after.get? location = some .folder ∧
      after.NamedWithin here chars location

theorem NamedWithin.of_extends {before after : Tree}
    (grows : Extends before after) {here location : Location}
    {chars : List Char} (named : before.NamedWithin here chars location) :
    after.NamedWithin here chars location := by
  obtain ⟨front, frontOf, located⟩ := named
  exact ⟨front, frontOf, locate_of_extends grows located⟩

theorem Grown.refl (here : Location) (chars : List Char) (tree : Tree) :
    Grown here chars tree tree :=
  ⟨.refl tree, fun _ changed => absurd rfl changed⟩

theorem Grown.trans {here : Location} {chars : List Char}
    {first second third : Tree} (grown : Grown here chars first second)
    (further : Grown here chars second third) :
    Grown here chars first third := by
  refine ⟨grown.grows.trans further.grows, fun location changed => ?_⟩
  by_cases late : third.get? location = second.get? location
  · have early : second.get? location ≠ first.get? location := by
      rwa [← late]
    obtain ⟨folder, named⟩ := grown.added location early
    exact ⟨late.trans folder, named.of_extends further.grows⟩
  · exact further.added location late

/-- No file comes or goes when folders are added. -/
theorem Grown.isFile_iff {here : Location} {chars : List Char}
    {before after : Tree} (grown : Grown here chars before after)
    (location : Location) (content : ByteArray) :
    after.get? location = some (.file content) ↔
      before.get? location = some (.file content) := by
  constructor
  · intro stands
    by_cases same : after.get? location = before.get? location
    · exact same ▸ stands
    · obtain ⟨isFolder, -⟩ := grown.added location same
      rw [stands] at isFolder
      cases isFolder
  · exact grown.grows location (.file content)

/-! ## One folder -/

theorem walk_of_blank {tree : Tree} {location : Location} {parts : List String}
    (folder : tree.get? location = some .folder)
    (blank : ∀ part ∈ parts, part = "") :
    tree.walk location parts = .ok location := by
  induction parts with
  | nil => exact tree.walk_nil location
  | cons part parts ih =>
      obtain rfl : part = "" := blank part (by simp)
      have stepped : tree.step location "" = .ok location := by
        simp [step, folder]
      have onward := ih fun other otherMem =>
        blank other (List.mem_cons_of_mem "" otherMem)
      exact walk_cons_eq_ok.mpr ⟨location, stepped, onward⟩

/-- The parts of a path are those before its end and empty ones. -/
theorem exists_blank_end (path : String) :
    ∃ blanks, partsOf path = partsBeforeEnd path ++ blanks ∧
      ∀ part ∈ blanks, part = "" := by
  refine ⟨(partsOf path).rtakeWhile (· == ""), ?_, ?_⟩
  · exact List.rdropWhile_append_rtakeWhile.symm
  · intro part partMem
    simpa using List.mem_rtakeWhile_imp partMem

theorem ne_empty_of_getLast? {path last : String}
    (lastEq : (partsBeforeEnd path).getLast? = some last) : last ≠ "" := by
  obtain ⟨nonempty, rfl⟩ := List.mem_getLast?_eq_getLast lastEq
  have kept : ¬ ((partsBeforeEnd path).getLast nonempty == "") = true :=
    List.rdropWhile_last_not (· == "") (partsOf path) nonempty
  simpa using kept

/-- The path of a folder leads to it once the folder is put into its slot. -/
theorem locate_put_folder {tree : Tree} {here location : Location}
    {path last : String} (accepted : refusalOf? path = none)
    (lastEq : (partsBeforeEnd path).getLast? = some last)
    (named : ¬ (last = "." ∨ last = ".."))
    (slotted : tree.slot here (partsBeforeEnd path) path = .ok location)
    (vacant : tree.get? location = none) :
    (tree.put location .folder).locate here path = .ok location := by
  obtain ⟨folder, walked, stands, short, rfl⟩ := slot_eq_ok lastEq slotted
  obtain ⟨blanks, parts, blank⟩ := exists_blank_end path
  have grows := extends_put .folder vacant
  have placed : (tree.put (folder ++ [last]) .folder).get? (folder ++ [last]) =
      some .folder := by
    rw [get?_put tree (by simp), if_pos rfl]
  have ordinary : Ordinary last :=
    ⟨ne_empty_of_getLast? lastEq, fun dot => named (.inl dot),
      fun dots => named (.inr dots)⟩
  have stepped : (tree.put (folder ++ [last]) .folder).step folder last =
      .ok (folder ++ [last]) :=
    (step_eq_ok_iff ordinary).mpr
      ⟨grows folder .folder stands, short, rfl, by simp [placed]⟩
  have lastPart : (partsBeforeEnd path).dropLast ++ [last] =
      partsBeforeEnd path :=
    List.dropLast_append_getLast? last lastEq
  rw [locate_eq_ok_iff, parts, ← lastPart]
  refine ⟨accepted, walk_append_eq_ok.mpr ⟨folder ++ [last],
    walk_append_eq_ok.mpr ⟨folder, walk_of_extends grows walked, ?_⟩,
    walk_of_blank placed blank⟩⟩
  rw [walk_singleton, stepped]

/-- A new folder stands where there was nothing, and its path leads to it. -/
theorem makeFolder_eq_ok {tree created : Tree} {here : Location}
    {path : String} (made : tree.makeFolder here path = .ok created) :
    ∃ location, tree.get? location = none ∧
      created = tree.put location .folder ∧
        created.locate here path = .ok location := by
  rw [makeFolder] at made
  cases accepted : refusalOf? path with
  | some refusal => simp [accepted] at made
  | none =>
      cases lastEq : (partsBeforeEnd path).getLast? with
      | none => simp [accepted, lastEq] at made
      | some last =>
          cases slotted : tree.slot here (partsBeforeEnd path) path with
          | error refusal => simp [accepted, lastEq, slotted] at made
          | ok location =>
              simp only [accepted, lastEq, slotted] at made
              split at made
              case isTrue => cases made
              case isFalse named =>
                  split at made
                  case isTrue => cases made
                  case isFalse free =>
                      have vacant : tree.get? location = none := by
                        simpa using free
                      obtain rfl := Except.ok.inj made
                      exact ⟨location, vacant, rfl,
                        locate_put_folder accepted lastEq named slotted vacant⟩

theorem ensureFolder_grown (tree : Tree) (here : Location)
    (chars : List Char) :
    Grown here chars tree
      (tree.ensureFolder here (String.ofList chars)).2 := by
  rw [ensureFolder]
  split
  case h_1 created made =>
      obtain ⟨location, vacant, rfl, located⟩ := makeFolder_eq_ok made
      have notFolder : tree.get? location ≠ some .folder := by simp [vacant]
      refine ⟨extends_put .folder vacant, fun other changed => ?_⟩
      rw [get?_put tree (ne_root_of_get? notFolder)] at changed ⊢
      split at changed
      case isTrue same =>
          subst same
          exact ⟨if_pos rfl, chars, .inl rfl, located⟩
      case isFalse => exact absurd rfl changed
  case h_2 =>
      split
      · exact .refl here chars tree
      · exact .refl here chars tree

/-! ## The folders above it -/

/-- A path of slashes only is the root, which is never new. -/
theorem eq_root_of_all_slashes {tree : Tree} {here location : Location}
    {chars : List Char} (slashes : ∀ char ∈ chars, char = '/')
    (located : tree.locate here (String.ofList chars) = .ok location) :
    location = [] := by
  obtain ⟨accepted, walked⟩ := locate_eq_ok_iff.mp located
  cases chars with
  | nil => simp [refusalOf?] at accepted
  | cons char chars =>
      obtain rfl : char = '/' := slashes char (by simp)
      have start : startOf here (String.ofList ('/' :: chars)) = [] := by
        simp [startOf]
      rw [start, walk_of_blank tree.get?_root
        (partsOf_of_all_slashes slashes)] at walked
      exact (Except.ok.inj walked).symm

/-- What was added for the folder part of a path counts for the path. -/
theorem Grown.of_splitFolder {here : Location} {chars : List Char}
    {before after : Tree}
    (grown : Grown here (splitFolder chars).1 before after) :
    Grown here chars before after := by
  refine ⟨grown.grows, fun location changed => ?_⟩
  obtain ⟨folder, front, frontOf, located⟩ := grown.added location changed
  refine ⟨folder, front, ?_, located⟩
  rcases frontOf with rfl | inner
  · rcases splitFolder_front chars with slashes | inside
    · have root := eq_root_of_all_slashes slashes located
      simp [root] at changed
    · exact .inr inside
  · exact .inr (inner.trans (splitFolder_isFront chars))

/-- Creating a folder and the folders above it adds folders named by the path
and its fronts, whether or not it succeeds. -/
theorem makeFolders_grown (here : Location) (room : Nat) (chars : List Char)
    (tree : Tree) :
    Grown here chars tree (makeFolders here room chars tree).2 := by
  induction room generalizing chars with
  | zero =>
      rw [makeFolders.eq_def]
      dsimp only
      split
      · exact tree.ensureFolder_grown here chars
      · exact .refl here chars tree
  | succ room ih =>
      rw [makeFolders.eq_def]
      dsimp only
      split
      case isTrue => exact tree.ensureFolder_grown here chars
      case isFalse =>
          have above := (ih (splitFolder chars).1).of_splitFolder
          -- The folders above are there or not; the last step is the same.
          have finished (grown : Tree) (sofar : Grown here chars tree grown) :
              Grown here chars tree
                (if (splitFolder chars).2 = ['.'] then (.ok (), grown)
                  else grown.ensureFolder here (String.ofList chars)).2 := by
            split
            · exact sofar
            · exact sofar.trans (grown.ensureFolder_grown here chars)
          split
          case h_1 grown madeAbove =>
              rw [madeAbove] at above
              exact finished grown above
          case h_2 error grown failedAbove =>
              rw [failedAbove] at above
              split
              · exact finished grown above
              · exact above

theorem createFolder_grown (tree : Tree) (room : Nat) (here : Location)
    (path : String) :
    Grown here path.toList tree (tree.createFolder room here path).2 :=
  makeFolders_grown here room path.toList tree

end Tree

end Files

end SwiftInterface
