import SwiftInterface.Proofs.Files.FolderRepetition
import SwiftInterface.Proofs.Store.Changes

/-!
# Writing an interface again

What is written does not depend on whether the old interface was removed before,
and writing the same again changes nothing: contents that an opened file can take
once it can take again.  For a module whose name starts with
a slash this needs that the output folder is there when its creation is reported
as a success: such an interface is not written into the folder, so that the
write itself does not show it.
-/

namespace SwiftInterface

namespace Files

theorem partsOf_ne_nil (path : String) : partsOf path ≠ [] := by
  rw [partsOf, ne_eq, List.map_eq_nil_iff]
  exact List.splitOn_ne_nil '/' path.toList

/-- The parts of a name inside a folder are those of the folder, up to an empty
one at its end, and those of the name. -/
theorem exists_parts_of_join {folder name : String} (named : folder ≠ "")
    (inside : name.toList.head? ≠ some '/') :
    folder.toList <+: (join folder name).toList ∧
      ∃ front blanks, partsOf folder = front ++ blanks ∧
        (∀ part ∈ blanks, part = "") ∧
          partsOf (join folder name) = front ++ partsOf name := by
  rw [join, if_neg inside]
  by_cases slashed : folder.toList.getLast? = some '/'
  · obtain ⟨front, folderEq⟩ := List.getLast?_eq_some_iff.mp slashed
    have folderIs : folder = String.ofList (front ++ '/' :: []) := by
      rw [← folderEq, String.ofList_toList]
    have joinIs : folder ++ name =
        String.ofList (front ++ '/' :: name.toList) := by
      rw [folderIs, ← String.toList_inj]
      simp
    rw [if_pos (.inr slashed)]
    refine ⟨by simp, partsOf (String.ofList front), [""], ?_, by simp, ?_⟩
    · rw [folderIs, partsOf_append_slash]
      rfl
    · rw [joinIs, partsOf_append_slash, String.ofList_toList]
  · have joinIs : folder ++ "/" ++ name =
        String.ofList (folder.toList ++ '/' :: name.toList) := by
      rw [← String.toList_inj]
      simp
    rw [if_neg (by simp [named, slashed])]
    refine ⟨by simp, partsOf folder, [], by simp, by simp, ?_⟩
    rw [joinIs, partsOf_append_slash, String.ofList_toList, String.ofList_toList]

namespace Tree

variable {tree : Tree} {here location : Location} {path : String}

theorem walk_append_of_ok {start middle : Location} {front : List String}
    (walked : tree.walk start front = .ok middle) (rest : List String) :
    tree.walk start (front ++ rest) = tree.walk middle rest := by
  induction front generalizing start with
  | nil =>
      obtain rfl : start = middle := by simpa using walked
      rfl
  | cons part front ih =>
      obtain ⟨next, stepped, onward⟩ := walk_cons_eq_ok.mp walked
      rw [List.cons_append, walk, stepped]
      exact ih onward

/-- A path without a text names no folder. -/
theorem createFolder_empty (tree : Tree) (room : Nat) (here : Location) :
    tree.createFolder room here "" = (.error ⟨.notFound, ""⟩, tree) := by
  rw [createFolder, makeFolders.eq_def]
  rfl

/-- Every target is opened for writing. -/
theorem Target.writeTarget_eq (target : tree.Target here path location) :
    tree.writeTarget here path = .ok location := by
  cases stands : tree.get? location with
  | some entry =>
      have located := locate_of_aims target.aims target.accepted target.short
        (by simp [stands])
      rw [writeTarget, located]
      exact if_neg target.notFolder
  | none =>
      obtain ⟨front, last, folder, parts, ordinary, walked, isFolder, rfl⟩ :=
        target.aims
      have short : last.utf8ByteSize ≤ partLimit :=
        target.short last (by simp [parts])
      have nonempty : path ≠ "" :=
        EndsOrdinary.ne_empty ⟨front, last, parts, ordinary⟩
      have missing : tree.locate here path = .error .notFound := by
        obtain ⟨notEmpty, notDot, notDots⟩ := ordinary
        rw [locate, target.accepted, parts]
        dsimp only
        rw [walk_append_of_ok walked, walk_singleton, step, isFolder]
        simp [notEmpty, notDot, notDots, Nat.not_lt.mpr short, stands]
      have lastEq : (partsOf path).getLast? = some last := by simp [parts]
      have walkedFront : tree.walk (startOf here path)
          (partsOf path).dropLast = .ok folder := by
        rw [parts, List.dropLast_concat, walked]
      rw [writeTarget, missing]
      dsimp only
      rw [if_neg nonempty]
      exact slot_of_walk lastEq walkedFront isFolder short

theorem Target.of_keepsFolders {before after : Tree}
    (target : before.Target here path location)
    (keeps : KeepsFolders before after)
    (notFolder : after.get? location ≠ some .folder) :
    after.Target here path location :=
  ⟨target.aims.of_keepsFolders keeps, target.accepted, target.short, notFolder⟩

/-- Where a name inside a folder can be written, the folder is there. -/
theorem Target.isFolder_of_join {folder name : String}
    (target : tree.Target here (join folder name) location)
    (named : folder ≠ "") (inside : name.toList.head? ≠ some '/') :
    tree.isFolder here folder = true := by
  obtain ⟨isFront, front, blanks, folderParts, blank, parts⟩ :=
    exists_parts_of_join named inside
  obtain ⟨before, last, parent, lastParts, -, walked, stands, -⟩ := target.aims
  have charsNamed : folder.toList ≠ [] := by simpa using named
  have accepted := refusalOf?_of_front isFront charsNamed
    (by rw [String.ofList_toList]; exact target.accepted)
  have start := startOf_of_front isFront charsNamed here
  rw [String.ofList_toList] at accepted start
  rw [String.ofList_toList] at start
  have beforeEq : before = front ++ (partsOf name).dropLast := by
    have dropped := congrArg List.dropLast (lastParts.symm.trans parts)
    rwa [List.dropLast_concat,
      List.dropLast_append_of_ne_nil (partsOf_ne_nil name)] at dropped
  rw [beforeEq] at walked
  obtain ⟨middle, walkedFront, onward⟩ := walk_append_eq_ok.mp walked
  have isFolder := folder_of_walk onward stands
  refine isFolder_iff.mpr
    ⟨middle, locate_eq_ok_iff.mpr ⟨accepted, ?_⟩, isFolder⟩
  rw [start, folderParts, walk_append_of_ok walkedFront]
  exact walk_of_blank isFolder blank

end Tree

end Files

namespace Store

open Files Run

/-! ## The folder of an interface -/

theorem head?_fileName {moduleName : String}
    (relative : moduleName.toList.head? ≠ some '/') :
    (Interface.fileName moduleName).toList.head? ≠ some '/' := by
  have unnamed : (Interface.nameOrUnknown moduleName).toList.head? ≠ some '/' ∧
      (Interface.nameOrUnknown moduleName).toList ≠ [] := by
    rw [Interface.nameOrUnknown]
    split
    case isTrue => decide
    case isFalse named => exact ⟨relative, by simpa using named⟩
  rw [Interface.fileName]
  split
  case isTrue => exact unnamed.1
  case isFalse =>
      rw [String.toList_append, List.head?_append_of_ne_nil _ unnamed.2]
      exact unnamed.1

/-- The output folder is ready: its name is empty, or its creation succeeds. -/
def Opens (room : Nat) (here : Location) (folder : String)
    (before after : Tree) : Prop :=
  if folder = "" then after = before
  else before.createFolder room here folder = (.ok (), after)

/-- If the interface does not go into the output folder, since the name of its
module starts with a slash, the output folder is there once its creation is
reported as a success. -/
def Reliable (room : Nat) (here : Location) (folder moduleName : String)
    (tree : Tree) : Prop :=
  moduleName.toList.head? = some '/' →
    (tree.createFolder room here folder).1 = .ok () →
      (tree.createFolder room here folder).2.isFolder here folder = true

section Opens

variable {room : Nat} {here location : Location} {folder moduleName : String}
  {before opened : Tree}

theorem createFolder_eq_ok_iff {world after : World} :
    createFolder folder world = .ok () after ↔
      ∃ files, Opens world.machine.reach.folders world.here folder world.files
          files ∧
        after = { world with files } := by
  rw [createFolder]
  simp only [Opens]
  split
  case isTrue =>
      rw [pure_eq_ok, exists_eq_left]
      simp only [true_and]
      exact eq_comm
  case isFalse =>
      rw [bind_ok (get_eq world)]
      cases world.files.createFolder world.machine.reach.folders world.here
          folder with
      | mk result files =>
          cases result with
          | ok =>
              change EStateM.Result.ok () { world with files } = _ ↔ _
              simp [eq_comm]
          | error error =>
              refine iff_of_false fail_ne_ok ?_
              simp

/-- Where an interface can be written, the output folder is there: the path of
the interface goes through it, or its creation can be relied on. -/
theorem Opens.isFolder (opens : Opens room here folder before opened)
    (target : opened.Target here (interfacePath folder moduleName) location)
    (reliable : Reliable room here folder moduleName before)
    (named : folder ≠ "") : opened.isFolder here folder = true := by
  by_cases absolute : moduleName.toList.head? = some '/'
  · rw [Opens, if_neg named] at opens
    have isFolder := reliable absolute (by rw [opens])
    rwa [opens] at isFolder
  · exact target.isFolder_of_join named (head?_fileName absolute)

theorem opens_of_isFolder {tree : Tree}
    (isFolder : folder ≠ "" → tree.isFolder here folder = true) :
    Opens room here folder tree tree := by
  rw [Opens]
  split
  case isTrue => rfl
  case isFalse named => exact Tree.createFolder_of_isFolder (isFolder named) room

theorem Opens.grown (opens : Opens room here folder before opened) :
    Tree.Grown here folder.toList before opened := by
  rw [Opens] at opens
  split at opens
  case isTrue => exact opens ▸ .refl here folder.toList before
  case isFalse =>
      have grown := before.createFolder_grown room here folder
      rwa [opens] at grown

theorem Opens.snd_createFolder (opens : Opens room here folder before opened) :
    (before.createFolder room here folder).2 = opened := by
  rw [Opens] at opens
  split at opens
  case isTrue empty => rw [empty, opens, Tree.createFolder_empty]
  case isFalse => rw [opens]

/-- The folder can be opened without a file that stands beside it. -/
theorem Opens.erase {removed : Location} {content : ByteArray}
    (opens : Opens room here folder before opened)
    (isFile : before.get? removed = some (.file content))
    (isFolder : folder ≠ "" → opened.isFolder here folder = true) :
    Opens room here folder (before.erase removed) (opened.erase removed) := by
  rw [Opens] at opens ⊢
  split
  case isTrue empty => rw [if_pos empty] at opens; rw [opens]
  case isFalse named =>
      rw [if_neg named] at opens
      have isFolder := isFolder named
      rw [← String.ofList_toList (s := folder)] at isFolder
      have built := Tree.builds_of_makeFolders opens isFolder
      exact Tree.makeFolders_of_builds (built.erase isFile)

theorem exists_opens_of_erase {removed : Location} {content : ByteArray}
    (opens : Opens room here folder (before.erase removed) opened)
    (isFile : before.get? removed = some (.file content))
    (free : opened.get? removed = none)
    (isFolder : folder ≠ "" → opened.isFolder here folder = true) :
    ∃ beside, Opens room here folder before beside ∧
      beside.erase removed = opened := by
  simp only [Opens] at opens ⊢
  split
  case isTrue empty =>
      rw [if_pos empty] at opens
      exact ⟨before, rfl, opens.symm⟩
  case isFalse named =>
      rw [if_neg named] at opens
      have isFolder := isFolder named
      rw [← String.ofList_toList (s := folder)] at isFolder
      have built := Tree.builds_of_makeFolders opens isFolder
      obtain ⟨beside, builtBeside, erased⟩ :=
        Tree.exists_builds_of_erase built isFile free
      exact ⟨beside, Tree.makeFolders_of_builds builtBeside, erased⟩

end Opens

/-! ## Writing -/

/-- Writing an interface with the contents turns the first tree into the
second: the folder is opened and a file put where the path aims, which takes
the contents whole. -/
def Deposits (machine : Machine) (here : Location)
    (folder moduleName contents : String) (before after : Tree) : Prop :=
  ∃ opened location, Opens machine.reach.folders here folder before opened ∧
    opened.Target here (interfacePath folder moduleName) location ∧
      breakOff? machine (interfacePath folder moduleName) contents = none ∧
        after = opened.put location (.file (Text.encodeUtf8 contents))

theorem write_deposits {folder moduleName contents path : String}
    {world after : World}
    (succeeded : write folder moduleName contents world = .ok path after) :
    path = interfacePath folder moduleName ∧
      Deposits world.machine world.here folder moduleName contents world.files
        after.files := by
  obtain ⟨_, middle, made, succeeded⟩ := bind_eq_ok.mp succeeded
  obtain ⟨opened, opens, rfl⟩ := createFolder_eq_ok_iff.mp made
  rw [writeFile_eq] at succeeded
  dsimp only at succeeded
  cases targeted : opened.writeTarget world.here
      (interfacePath folder moduleName) with
  | error refusal => simp [targeted] at succeeded
  | ok location =>
      cases broken : breakOff? world.machine (interfacePath folder moduleName)
          contents with
      | some result => simp [targeted, broken] at succeeded
      | none =>
          simp only [targeted, broken] at succeeded
          obtain ⟨pathEq, rfl⟩ := EStateM.Result.ok.inj succeeded
          have target := Tree.target_of_writeTarget
            (endsOrdinary_interfacePath folder moduleName) targeted
          exact ⟨pathEq.symm, opened, location, opens, target, broken,
            (sameButLog_log _ _ _ _ _).files⟩

theorem exists_write_of_deposits {folder moduleName contents : String}
    {world : World} {files : Tree}
    (deposits : Deposits world.machine world.here folder moduleName contents
      world.files files) :
    ∃ after, write folder moduleName contents world =
        .ok (interfacePath folder moduleName) after ∧ after.files = files := by
  obtain ⟨opened, location, opens, target, whole, rfl⟩ := deposits
  have made : createFolder folder world =
      .ok () { world with files := opened } :=
    createFolder_eq_ok_iff.mpr ⟨opened, opens, rfl⟩
  have logged := sameButLog_log
    (holding location (Text.encodeUtf8 contents) { world with files := opened })
    .info .generator
    ("Wrote module interface to " ++ interfacePath folder moduleName) none
  refine ⟨_, ?_, logged.files⟩
  rw [write, bind_ok made, writeFile_eq]
  simp only [target.writeTarget_eq, whole]

section Deposits

variable {machine : Machine} {here removed : Location}
  {folder moduleName contents : String} {content : ByteArray}
  {before after : Tree}

/-- An interface is written over an old one as it is written in its place after
its removal. -/
theorem deposits_erase_iff
    (located : before.locate here (interfacePath folder moduleName) =
      .ok removed)
    (isFile : before.get? removed = some (.file content))
    (reliable : Reliable machine.reach.folders here folder moduleName before)
    (reliableAfter : Reliable machine.reach.folders here folder moduleName
      (before.erase removed)) :
    Deposits machine here folder moduleName contents (before.erase removed)
        after ↔
      Deposits machine here folder moduleName contents before after := by
  have notFolder := Tree.ne_folder_of_file isFile
  have notRoot := Tree.ne_root_of_get? notFolder
  have aims := (Tree.aims_of_locate
    (endsOrdinary_interfacePath folder moduleName) located).1
  constructor
  · rintro ⟨opened, location, opens, target, whole, rfl⟩
    have grown := opens.grown
    have keeps : Tree.KeepsFolders before opened :=
      (Tree.keepsFolders_erase notFolder).trans grown.grows.keepsFolders
    obtain rfl : removed = location :=
      (aims.of_keepsFolders keeps).unique target.aims
    -- Only folders were added, and the target is none of them.
    have free : opened.get? removed = none := by
      by_contra occupied
      have added := (grown.added removed (by
        rwa [Tree.get?_erase before notRoot, if_pos rfl])).1
      exact target.notFolder added
    obtain ⟨beside, opensBeside, rfl⟩ := exists_opens_of_erase opens isFile free
      (opens.isFolder target reliableAfter)
    have stillFile := opensBeside.grown.grows _ _ isFile
    exact ⟨beside, removed, opensBeside,
      target.of_keepsFolders (Tree.erase_extends notRoot).keepsFolders
        (Tree.ne_folder_of_file stillFile),
      whole, Tree.put_erase_self beside removed _⟩
  · rintro ⟨opened, location, opens, target, whole, rfl⟩
    obtain rfl : removed = location :=
      (aims.of_keepsFolders opens.grown.grows.keepsFolders).unique target.aims
    have free : (opened.erase removed).get? removed ≠ some .folder := by
      simp [Tree.get?_erase opened notRoot]
    exact ⟨opened.erase removed, removed,
      opens.erase isFile (opens.isFolder target reliable),
      target.of_keepsFolders (Tree.keepsFolders_erase target.notFolder) free,
      whole, (Tree.put_erase_self opened removed _).symm⟩

theorem Removed.deposits_iff {cleared : Tree}
    (removal : Removed (.named folder) moduleName here before cleared)
    (reliable : ∀ tree, Removed (.named folder) moduleName here before tree →
      Reliable machine.reach.folders here folder moduleName tree) :
    Deposits machine here folder moduleName contents cleared after ↔
      Deposits machine here folder moduleName contents before after := by
  have reliableAfter := reliable cleared removal
  cases removal with
  | kept => rfl
  | erased named located isFile =>
      obtain rfl := Folder.named.inj named
      exact deposits_erase_iff located isFile (reliable before .kept)
        reliableAfter

theorem Deposits.keepsFolders
    (deposits : Deposits machine here folder moduleName contents before after) :
    Tree.KeepsFolders before after := by
  obtain ⟨opened, location, opens, target, -, rfl⟩ := deposits
  exact opens.grown.grows.keepsFolders.trans
    (Tree.keepsFolders_put _ target.notFolder)

/-- After an interface was written, its folder is there. -/
theorem Deposits.isFolder
    (deposits : Deposits machine here folder moduleName contents before after)
    (reliable : Reliable machine.reach.folders here folder moduleName before)
    (named : folder ≠ "") : after.isFolder here folder = true := by
  obtain ⟨opened, location, opens, target, -, rfl⟩ := deposits
  exact Tree.isFolder_of_keepsFolders
    (Tree.keepsFolders_put _ target.notFolder)
    (opens.isFolder target reliable named)

/-- An interface that was just written can be written once more, and nothing
changes. -/
theorem Deposits.again
    (deposits : Deposits machine here folder moduleName contents before after)
    (reliable : Reliable machine.reach.folders here folder moduleName before) :
    Deposits machine here folder moduleName contents after after := by
  have opens : Opens machine.reach.folders here folder after after :=
    opens_of_isFolder (deposits.isFolder reliable)
  obtain ⟨opened, location, -, target, whole, rfl⟩ := deposits
  have noFolder : (opened.put location
      (.file (Text.encodeUtf8 contents))).get? location ≠ some .folder := by
    simp [target.get?_put]
  exact ⟨_, location, opens,
    target.of_keepsFolders (Tree.keepsFolders_put _ target.notFolder) noFolder,
    whole, (Tree.put_put_self opened location _ _).symm⟩

/-- Where the folder is there, its creation can be relied on. -/
theorem reliable_of_isFolder {room : Nat} {tree : Tree}
    (isFolder : folder ≠ "" → tree.isFolder here folder = true) :
    Reliable room here folder moduleName tree := by
  intro absolute created
  by_cases named : folder = ""
  · rw [named, Tree.createFolder_empty] at created
    cases created
  · have same := Tree.createFolder_of_isFolder (isFolder named) room
    rw [same]
    exact isFolder named

end Deposits

end Store

end SwiftInterface
