import Mathlib.Data.List.Basic
import SwiftInterface.Proofs.Generation.SourceFaults

/-!
# The shapes of a dump

A dump is one structure, a map of files or an array of these, and the shapes
agree: an object is the array with the object as its only entry, the entries of
an array are read one after the other, and a map of files is read file by file,
also when it is cut into several maps or when other values stand between them.

All of this is first said of the harvest of a dump, which collects declarations
and notes together; the run that reads a dump writes the notes and returns the
declarations, so it takes the same laws over with everything it writes.
-/

namespace SwiftInterface

namespace Dump

open Run

/-! ## Harvests -/

namespace Harvest

@[simp]
theorem append_notes (first second : Harvest) :
    (first ++ second).notes = first.notes ++ second.notes :=
  rfl

theorem ext {first second : Harvest} (forest : first.forest = second.forest)
    (notes : first.notes = second.notes) : first = second := by
  cases first
  cases second
  cases forest
  cases notes
  rfl

theorem append_empty (harvest : Harvest) : harvest ++ ({} : Harvest) = harvest :=
  ext (by simp) (by simp)

theorem append_assoc (first second third : Harvest) :
    first ++ second ++ third = first ++ (second ++ third) :=
  ext (by simp) (by simp)

end Harvest

theorem ofEntries_append (first second : List Json) :
    ofEntries (first ++ second) = ofEntries first ++ ofEntries second := by
  induction first with
  | nil => rfl
  | cons entry first ih =>
      rw [List.cons_append, ofEntries, ih, ofEntries, Harvest.append_assoc]

theorem ofEntries_singleton (entry : Json) :
    ofEntries [entry] = ofEntry entry := by
  rw [ofEntries, ofEntries, Harvest.append_empty]

theorem isStructure_eq_false_iff {members : List (String × Json)} :
    isStructure members = false ↔
      ∀ member ∈ members, member.1 ≠ Declaration.childrenKey ∧
        member.1 ≠ Declaration.kindKey := by
  simp only [isStructure, Json.hasMember, Bool.or_eq_false_iff,
    List.any_eq_false, beq_iff_eq, ← forall_and]

/-- The declarations of the objects among the files of a map, in its order. -/
def declarationsOfFiles (members : List (String × Json)) : Forest :=
  members.filterMap fun member => Declaration.ofJson? member.2

theorem declarationsOfFiles_append (first second : List (String × Json)) :
    declarationsOfFiles (first ++ second) =
      declarationsOfFiles first ++ declarationsOfFiles second :=
  List.filterMap_append

theorem ofFiles_forest (members : List (String × Json)) :
    (ofFiles members).forest = declarationsOfFiles members := by
  induction members with
  | nil => rfl
  | cons member members ih =>
      rw [ofFiles, Harvest.append_forest, ofFile_forest, ih,
        declarationsOfFiles, declarationsOfFiles, List.filterMap_cons]
      cases Declaration.ofJson? member.2 <;> rfl

theorem ofMembers_of_files {members : List (String × Json)}
    (files : isStructure members = false) :
    ofMembers members = ofFiles members := by
  rw [ofMembers, files]
  rfl

/-- The members of the objects among the entries of an array. -/
def objectsIn : List Json → List (List (String × Json))
  | [] => []
  | .object members :: rest => members :: objectsIn rest
  | _ :: rest => objectsIn rest

/-- Maps of files in an array are read like one map, whatever other values stand
between them. -/
theorem ofEntries_forest {entries : List Json}
    (files : isStructure (objectsIn entries).flatten = false) :
    (ofEntries entries).forest =
      declarationsOfFiles (objectsIn entries).flatten := by
  induction entries with
  | nil => rfl
  | cons entry entries ih =>
      rw [ofEntries, Harvest.append_forest]
      cases entry with
      | object members =>
          rw [objectsIn, List.flatten_cons] at files ⊢
          rw [isStructure_eq_false_iff, List.forall_mem_append,
            ← isStructure_eq_false_iff, ← isStructure_eq_false_iff] at files
          rw [ofEntry, ofMembers_of_files files.1, ofFiles_forest, ih files.2,
            declarationsOfFiles_append]
      | _ => exact ih files

/-! ## Reading a dump -/

/-- Write the notes of a harvest and return its declarations. -/
def Harvest.deliver (harvest : Harvest) : Run Forest := do
  logNotes harvest.notes
  return harvest.forest

theorem forestOf_object (members : List (String × Json)) :
    forestOf (.object members) = (ofMembers members).deliver :=
  rfl

theorem forestOf_array (entries : List Json) :
    forestOf (.array entries) = (ofEntries entries).deliver :=
  rfl

theorem logNotes_append (first second : List Note) :
    logNotes (first ++ second) =
      (logNotes first >>= fun _ => logNotes second) := by
  induction first with
  | nil => rfl
  | cons note first ih =>
      rw [List.cons_append, logNotes, ih, logNotes, bind_assoc]

/-- Delivering two harvests together is delivering one after the other. -/
theorem Harvest.deliver_append (first second : Harvest) :
    (first ++ second).deliver =
      (do
        let before ← first.deliver
        let after ← second.deliver
        return before ++ after) := by
  simp [deliver, logNotes_append]

/-- The run returns the value in every world. -/
def Returns {α : Type} (run : Run α) (value : α) : Prop :=
  ∀ world, ∃ after, run world = .ok value after

theorem Harvest.returns_deliver (harvest : Harvest) :
    Returns harvest.deliver harvest.forest := by
  intro world
  obtain ⟨_, after, logged⟩ :=
    (logNotes_infallible harvest.notes).exists_ok world
  refine ⟨after, ?_⟩
  rw [deliver, bind_ok logged]
  rfl

theorem ofFile_eq_ofEntries {member : String × Json}
    (file : isStructure [member] = false) :
    ofFile member.1 member.2 = ofEntries [.object [member]] := by
  rw [ofEntries_singleton, ofEntry, ofMembers_of_files file, ofFiles, ofFiles,
    Harvest.append_empty]

/-- A map of files is read as the maps of its single files, one by one. -/
theorem deliver_ofFiles {members : List (String × Json)}
    (files : isStructure members = false) :
    (ofFiles members).deliver =
      (do
        let forests ← members.mapM fun member =>
          forestOf (.array [.object [member]])
        return forests.flatten) := by
  induction members with
  | nil => rfl
  | cons member members ih =>
      rw [isStructure_eq_false_iff, List.forall_mem_cons] at files
      have first : isStructure [member] = false :=
        isStructure_eq_false_iff.mpr (by simpa using files.1)
      have others := ih (isStructure_eq_false_iff.mpr files.2)
      rw [ofFiles, Harvest.deliver_append, others, ofFile_eq_ofEntries first,
        List.mapM_cons, forestOf_array]
      simp

theorem forestOf_fails_iff (payload : Json) (world : World) :
    (∃ cause after, forestOf payload world = .error (.producer cause) after) ↔
      (∀ members, payload ≠ .object members) ∧
        ∀ entries, payload ≠ .array entries := by
  have fails_of_none (refused : ofJson? payload = none) :
      ∃ cause after, forestOf payload world = .error (.producer cause) after := by
    rw [forestOf, refused]
    exact ⟨_, world, rfl⟩
  have delivers {harvest : Harvest} (read : forestOf payload = harvest.deliver) :
      ¬ ∃ cause after,
        forestOf payload world = .error (.producer cause) after := by
    rintro ⟨cause, after, failed⟩
    obtain ⟨_, returned⟩ := harvest.returns_deliver world
    rw [read, returned] at failed
    cases failed
  cases payload with
  | object members => simp [delivers (forestOf_object members)]
  | array entries => simp [delivers (forestOf_array entries)]
  | _ => simp [fails_of_none rfl]

/-- What is known of reading a map of files. -/
structure ReadByFile (members : List (String × Json)) : Prop where
  /-- It is read as the maps of its single files, in their order. -/
  oneByOne : forestOf (.object members) =
    (do
      let forests ← members.mapM fun member =>
        forestOf (.array [.object [member]])
      return forests.flatten)
  /-- Each file with an object gives one declaration, the others none. -/
  declarations :
    Returns (forestOf (.object members)) (declarationsOfFiles members)
  /-- The map may be cut into several, with other values in between. -/
  inPieces : ∀ entries, (objectsIn entries).flatten = members →
    Returns (forestOf (.array entries)) (declarationsOfFiles members)

theorem readByFile {members : List (String × Json)}
    (files : isStructure members = false) : ReadByFile members where
  oneByOne := by
    rw [forestOf_object, ofMembers_of_files files, deliver_ofFiles files]
  declarations := by
    rw [forestOf_object, ofMembers_of_files files, ← ofFiles_forest]
    exact Harvest.returns_deliver _
  inPieces := by
    rintro entries rfl
    rw [forestOf_array, ← ofEntries_forest files]
    exact Harvest.returns_deliver _

theorem declaration_eq_none_iff {value : Json} :
    Declaration.ofJson? value = none ↔ ∀ members, value ≠ .object members := by
  cases value <;> simp [Declaration.ofJson?]

/-- The shapes of a dump agree: only objects and arrays are dumps, an object is
an array of one, arrays are read piece by piece, and maps of files are read file
by file. -/
theorem shapes_agree :
    (∀ payload world,
      (∃ cause after, forestOf payload world = .error (.producer cause) after) ↔
        (∀ members, payload ≠ .object members) ∧
          ∀ entries, payload ≠ .array entries) ∧
    (∀ members,
      forestOf (.object members) = forestOf (.array [.object members])) ∧
    (∀ first second,
      forestOf (.array (first ++ second)) =
        (do
          let before ← forestOf (.array first)
          let after ← forestOf (.array second)
          return before ++ after)) ∧
    (∀ members : List (String × Json),
      (∀ member ∈ members, member.1 ≠ Declaration.childrenKey ∧
        member.1 ≠ Declaration.kindKey) → ReadByFile members) ∧
    ∀ value, Declaration.ofJson? value = none ↔
      ∀ members, value ≠ .object members := by
  refine ⟨forestOf_fails_iff, fun members => ?_, fun first second => ?_,
    fun members files => readByFile (isStructure_eq_false_iff.mpr files),
    fun value => declaration_eq_none_iff⟩
  · rw [forestOf_object, forestOf_array, ofEntries_singleton, ofEntry]
  · rw [forestOf_array, ofEntries_append, Harvest.deliver_append]
    rfl

end Dump

end SwiftInterface
