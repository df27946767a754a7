import SwiftInterface.Proofs.Store.Repetition

/-!
# Modules that share a file

An interface is found by the name of its module, so two modules whose paths
coincide overwrite and remove each other's interface.  A folder puts the same
text in front of all names in it, so the paths coincide just if the file names
do, unless a name starts with a slash and leaves the folder.  File names
coincide in two ways only: a name is written with and without the ending of
interface files, and the module without a name is called `Unknown`.
-/

namespace SwiftInterface

namespace Files

/-- What a folder puts in front of the names in it. -/
def folderFront (folder : String) : String :=
  if folder = "" ∨ folder.toList.getLast? = some '/' then folder
  else folder ++ "/"

theorem join_of_relative {name : String}
    (relative : name.toList.head? ≠ some '/') (folder : String) :
    join folder name = folderFront folder ++ name := by
  rw [join, if_neg relative, folderFront]
  split
  · rfl
  · rfl

theorem getLast?_folderFront (folder : String) :
    ∀ last ∈ (folderFront folder).toList.getLast?, last = '/' := by
  rw [folderFront]
  split
  case isTrue closed =>
      rcases closed with rfl | slashed
      · simp
      · simp [slashed]
  case isFalse => simp

/-- A name without slashes is the last part of its path. -/
theorem splitLast_join {name : String} (noSlash : '/' ∉ name.toList)
    (folder : String) :
    (splitLast (join folder name).toList).2 = name.toList := by
  have relative : name.toList.head? ≠ some '/' :=
    fun slashed => noSlash (List.mem_of_head? slashed)
  have nameKept : ∀ char ∈ name.toList.reverse, decide (char ≠ '/') = true := by
    intro char member
    have member : char ∈ name.toList := List.mem_reverse.mp member
    simpa using ne_of_mem_of_not_mem member noSlash
  have frontDropped : (folderFront folder).toList.rtakeWhile (· ≠ '/') = [] := by
    rw [List.rtakeWhile_eq_nil_iff]
    intro nonempty
    have last := getLast?_folderFront folder _
      (List.getLast_mem_getLast? nonempty)
    simpa using last
  have frontDropped := List.reverse_eq_nil_iff.mp frontDropped
  rw [splitLast_eq, join_of_relative relative, String.toList_append]
  simp only [List.rtakeWhile]
  rw [List.reverse_append, List.takeWhile_append_of_pos nameKept, frontDropped,
    List.append_nil, List.reverse_reverse]

end Files

namespace Store

open Files

/-! ## File names -/

theorem fileName_of_ending {name : String} (ends : HasInterfaceEnding name) :
    Interface.fileName name = name := by
  have named : name ≠ "" := by
    rintro rfl
    exact absurd ends (by decide)
  have isSuffix : Interface.fileExtension.toList.isSuffixOf name.toList = true :=
    List.isSuffixOf_iff_suffix.mpr ends
  rw [Interface.fileName, Interface.nameOrUnknown, if_neg named]
  exact if_pos isSuffix

theorem fileName_of_bare {name : String} (named : name ≠ "")
    (bare : ¬ HasInterfaceEnding name) :
    Interface.fileName name = name ++ ".swift" := by
  have isNoSuffix :
      ¬ Interface.fileExtension.toList.isSuffixOf name.toList = true :=
    fun ends => bare (List.isSuffixOf_iff_suffix.mp ends)
  rw [Interface.fileName, Interface.nameOrUnknown, if_neg named]
  exact if_neg isNoSuffix

theorem hasInterfaceEnding_append (name : String) :
    HasInterfaceEnding (name ++ ".swift") := by
  rw [HasInterfaceEnding, String.toList_append]
  exact List.suffix_append _ _

theorem fileName_fileName (name : String) :
    Interface.fileName (Interface.fileName name) = Interface.fileName name :=
  fileName_of_ending (hasInterfaceEnding_fileName name)

/-- A module name that stands for a longer one: the ending is left out, or the
whole name. -/
inductive ShortFor : String → String → Prop
  | withoutEnding {name : String} (named : name ≠ "")
      (bare : ¬ HasInterfaceEnding name) : ShortFor name (name ++ ".swift")
  | withoutName : ShortFor "" "Unknown"
  | withoutNameAndEnding : ShortFor "" "Unknown.swift"

theorem ShortFor.fileName_eq {short long : String}
    (shortFor : ShortFor short long) :
    Interface.fileName short = Interface.fileName long := by
  cases shortFor with
  | withoutEnding named bare =>
      rw [fileName_of_bare named bare,
        fileName_of_ending (hasInterfaceEnding_append short)]
  | withoutName => decide
  | withoutNameAndEnding => decide

/-- A name is the name of its file, or short for it. -/
theorem eq_or_shortFor_fileName (name : String) :
    name = Interface.fileName name ∨ ShortFor name (Interface.fileName name) := by
  by_cases named : name = ""
  · subst named
    exact .inr .withoutNameAndEnding
  · by_cases ends : HasInterfaceEnding name
    · exact .inl (fileName_of_ending ends).symm
    · rw [fileName_of_bare named ends]
      exact .inr (.withoutEnding named ends)

/-- What is short for a file name lacks the ending, or all of it. -/
theorem ShortFor.cases_of_ending {short long : String}
    (shortFor : ShortFor short long) (ends : HasInterfaceEnding long) :
    long = short ++ ".swift" ∨ short = "" ∧ long = "Unknown" ++ ".swift" := by
  cases shortFor with
  | withoutEnding named bare => exact .inl rfl
  | withoutName => exact absurd ends (by decide)
  | withoutNameAndEnding => exact .inr ⟨rfl, rfl⟩

theorem ShortFor.related {first second long : String}
    (firstShort : ShortFor first long) (secondShort : ShortFor second long)
    (ends : HasInterfaceEnding long) :
    first = second ∨ ShortFor first second ∨ ShortFor second first := by
  rcases firstShort.cases_of_ending ends with longEq | ⟨rfl, longEq⟩
  · rcases secondShort.cases_of_ending ends with otherEq | ⟨rfl, otherEq⟩
    · exact .inl
        ((String.append_left_inj ".swift").mp (longEq.symm.trans otherEq))
    · rw [(String.append_left_inj ".swift").mp (longEq.symm.trans otherEq)]
      exact .inr (.inr .withoutName)
  · rcases secondShort.cases_of_ending ends with otherEq | ⟨rfl, otherEq⟩
    · rw [(String.append_left_inj ".swift").mp (otherEq.symm.trans longEq)]
      exact .inr (.inl .withoutName)
    · exact .inl rfl

/-- File names coincide only for a name and what is short for it. -/
theorem fileName_eq_iff {first second : String} :
    Interface.fileName first = Interface.fileName second ↔
      first = second ∨ ShortFor first second ∨ ShortFor second first := by
  constructor
  · intro same
    have ends := hasInterfaceEnding_fileName second
    have firstCases := eq_or_shortFor_fileName first
    have secondCases := eq_or_shortFor_fileName second
    rw [same] at firstCases
    rcases firstCases with firstEq | firstShort
    · rcases secondCases with secondEq | secondShort
      · exact .inl (firstEq.trans secondEq.symm)
      · rw [← firstEq] at secondShort
        exact .inr (.inr secondShort)
    · rcases secondCases with secondEq | secondShort
      · rw [← secondEq] at firstShort
        exact .inr (.inl firstShort)
      · exact firstShort.related secondShort ends
  · rintro (rfl | short | short)
    · rfl
    · exact short.fileName_eq
    · exact short.fileName_eq.symm

/-! ## Paths -/

theorem interfacePath_of_relative {moduleName : String}
    (relative : moduleName.toList.head? ≠ some '/') (folder : String) :
    interfacePath folder moduleName =
      folderFront folder ++ Interface.fileName moduleName :=
  join_of_relative (head?_fileName relative) folder

theorem slash_not_mem_fileName {moduleName : String}
    (noSlash : '/' ∉ moduleName.toList) :
    '/' ∉ (Interface.fileName moduleName).toList := by
  rcases eq_or_shortFor_fileName moduleName with same | short
  · rwa [← same]
  · rcases short.cases_of_ending (hasInterfaceEnding_fileName moduleName) with
      longEq | ⟨-, longEq⟩
    · rw [longEq, String.toList_append, List.mem_append, not_or]
      exact ⟨noSlash, by decide⟩
    · rw [longEq]
      decide

/-- The paths of two modules in a folder coincide only for a name and what is
short for it.  All paths have the ending of interface files, and the name of the
file, which is what follows the folder, leads to the same path as the module. -/
theorem interfacePaths_coincide (folder : String) :
    (∀ first second : String, first.toList.head? ≠ some '/' →
        second.toList.head? ≠ some '/' →
          (interfacePath folder first = interfacePath folder second ↔
            first = second ∨ ShortFor first second ∨ ShortFor second first)) ∧
      (∀ moduleName, HasInterfaceEnding (interfacePath folder moduleName)) ∧
        (∃ front, ∀ moduleName : String, moduleName.toList.head? ≠ some '/' →
          interfacePath folder moduleName =
            front ++ Interface.fileName moduleName) ∧
          (∀ moduleName : String, '/' ∉ moduleName.toList →
            (splitLast (interfacePath folder moduleName).toList).2 =
              (Interface.fileName moduleName).toList) ∧
            ∀ moduleName,
              interfacePath folder (Interface.fileName moduleName) =
                interfacePath folder moduleName := by
  refine ⟨?_, ?_, ⟨folderFront folder, ?_⟩, ?_, ?_⟩
  · intro first second firstRelative secondRelative
    rw [interfacePath_of_relative firstRelative,
      interfacePath_of_relative secondRelative, String.append_right_inj,
      fileName_eq_iff]
  · intro moduleName
    exact suffix_join folder (hasInterfaceEnding_fileName moduleName)
  · intro moduleName relative
    exact interfacePath_of_relative relative folder
  · intro moduleName noSlash
    exact splitLast_join (slash_not_mem_fileName noSlash) folder
  · intro moduleName
    rw [interfacePath, fileName_fileName, interfacePath]

/-- In a folder with a slash at its end, a module in a folder of its own and the
module without a name. -/
theorem interfacePaths_coincide_respelled :
    "Sub/Mini".toList.head? ≠ some '/' ∧
      "Sub/Mini.swift".toList.head? ≠ some '/' ∧ '/' ∉ "".toList ∧
        interfacePath "out/" "Sub/Mini" = interfacePath "out/" "Sub/Mini.swift" ∧
          interfacePath "out/" "" = interfacePath "out/" "Unknown" ∧
            interfacePath "out/" "" ≠ interfacePath "out/" ".swift" ∧
              (splitLast (interfacePath "out/" "").toList).2 =
                "Unknown.swift".toList := by
  have relative : "Sub/Mini".toList.head? ≠ some '/' := by decide
  have relativeFile : "Sub/Mini.swift".toList.head? ≠ some '/' := by decide
  have noSlash : '/' ∉ "".toList := by decide
  obtain ⟨coincide, -, -, last, -⟩ := interfacePaths_coincide "out/"
  have bare : ShortFor "Sub/Mini" "Sub/Mini.swift" :=
    .withoutEnding (by decide) (by decide)
  have apart : ¬ ("" = ".swift" ∨ ShortFor "" ".swift" ∨ ShortFor ".swift" "") := by
    rw [← fileName_eq_iff]
    decide
  refine ⟨relative, relativeFile, noSlash, ?_, ?_, ?_, last "" noSlash⟩
  · exact (coincide _ _ relative relativeFile).mpr (.inr (.inl bare))
  · exact (coincide _ _ (by decide) (by decide)).mpr (.inr (.inl .withoutName))
  · exact fun same => apart ((coincide _ _ (by decide) (by decide)).mp same)

end Store

end SwiftInterface
