import SwiftInterface.Proofs.Files.FolderCreation
import SwiftInterface.Proofs.World.Preservation
import SwiftInterface.Store

/-!
# What the store changes

Removing an interface takes away the file that its path leads to, or nothing.
Writing one adds folders named by the output folder and its fronts, and then
puts one file where the path aims; if the path is refused, the folders are all
that is new.  Contents with halves, or with more bytes than the file takes, are
noticed when the file is open already: it then holds nothing or the beginning
of them.  The path of an interface ends in a name with the ending of interface
files, whatever folder and module it is made of, so nothing else is touched.
-/

namespace SwiftInterface

namespace Store

open Files Run

/-- Whether a text ends as the names of interface files do. -/
def HasInterfaceEnding (name : String) : Prop :=
  Interface.fileExtension.toList <:+ name.toList

instance : DecidablePred HasInterfaceEnding :=
  fun _ => inferInstanceAs (Decidable (_ <:+ _))

theorem hasInterfaceEnding_fileName (moduleName : String) :
    HasInterfaceEnding (Interface.fileName moduleName) := by
  rw [HasInterfaceEnding, Interface.fileName]
  split
  case isTrue ends => exact List.isSuffixOf_iff_suffix.mp ends
  case isFalse =>
      rw [String.toList_append]
      exact List.suffix_append _ _

/-- The last part of an interface's path has the ending of interface files,
whatever the folder and the module are. -/
theorem exists_last_interfacePath (folder moduleName : String) :
    ∃ front last, partsOf (interfacePath folder moduleName) = front ++ [last] ∧
      HasInterfaceEnding last := by
  have ends := suffix_join folder (hasInterfaceEnding_fileName moduleName)
  exact exists_last_of_suffix ends (by decide)

theorem ordinary_of_hasInterfaceEnding {name : String}
    (ends : HasInterfaceEnding name) : Tree.Ordinary name := by
  refine ⟨?_, ?_, ?_⟩
  · rintro rfl
    exact absurd ends (by decide)
  · rintro rfl
    exact absurd ends (by decide)
  · rintro rfl
    exact absurd ends (by decide)

theorem endsOrdinary_interfacePath (folder moduleName : String) :
    Tree.EndsOrdinary (interfacePath folder moduleName) := by
  obtain ⟨front, last, parts, ends⟩ := exists_last_interfacePath folder moduleName
  exact ⟨front, last, parts, ordinary_of_hasInterfaceEnding ends⟩

/-- Whether a failure ends the writing to a file that was opened. -/
def breaksOff : Failure → Bool
  | .fault (.unencodable _) => true
  | .output (.writeRefused _ ⟨.brokenOff _ _, _⟩) => true
  | _ => false

/-! ## Removing -/

/-- The files after an attempt to remove an interface: those from before, or
those without the file that the path led to. -/
inductive Removed (folder : Folder) (moduleName : String) (here : Location)
    (before : Tree) : Tree → Prop
  | kept : Removed folder moduleName here before before
  | erased {path : String} {location : Location} {content : ByteArray}
      (named : folder = .named path)
      (located : before.locate here (interfacePath path moduleName) =
        .ok location)
      (isFile : before.get? location = some (.file content)) :
      Removed folder moduleName here before (before.erase location)

section Removed

variable {folder : Folder} {moduleName : String} {here : Location}
  {before after : Tree}

theorem Removed.shrinks (removed : Removed folder moduleName here before after) :
    Tree.Extends after before := by
  cases removed with
  | kept => exact .refl before
  | erased named located isFile =>
      have notFolder := Tree.ne_folder_of_file isFile
      exact Tree.erase_extends (Tree.ne_root_of_get? notFolder)

theorem Removed.keepsFolders
    (removed : Removed folder moduleName here before after) :
    Tree.KeepsFolders before after := by
  cases removed with
  | kept => exact .refl before
  | erased named located isFile =>
      exact Tree.keepsFolders_erase (Tree.ne_folder_of_file isFile)

/-- Only the place of the interface can change. -/
theorem Removed.kept_or_located
    (removed : Removed folder moduleName here before after)
    (location : Location) :
    after.get? location = before.get? location ∨
      ∃ path, folder = .named path ∧
        before.locate here (interfacePath path moduleName) = .ok location := by
  cases removed with
  | kept => exact .inl rfl
  | erased named located isFile =>
      have notFolder := Tree.ne_folder_of_file isFile
      rw [Tree.get?_erase _ (Tree.ne_root_of_get? notFolder)]
      split
      case isTrue same => exact .inr ⟨_, named, same ▸ located⟩
      case isFalse => exact .inl rfl

end Removed

/-- What an attempt to remove an interface comes to. -/
inductive RemovalOutcome (folder moduleName : String) (world : World) :
    EStateM.Result Failure World Bool → Prop
  | absent {after : World} (same : SameButLog world after)
      (noFile : world.files.isFile world.here (interfacePath folder moduleName) =
        false) :
      RemovalOutcome folder moduleName world (.ok false after)
  | refused {failure : Failure} {after : World} (same : SameButLog world after)
      (isFile : world.files.isFile world.here
        (interfacePath folder moduleName) = true)
      (refuses : world.refusesRemoval = true)
      (closed : breaksOff failure = false) :
      RemovalOutcome folder moduleName world (.error failure after)
  | erased {location : Location} {content : ByteArray} {after : World}
      (located : world.files.locate world.here
        (interfacePath folder moduleName) = .ok location)
      (isFile : world.files.get? location = some (.file content))
      (same : SameButFiles world after)
      (files : after.files = world.files.erase location) :
      RemovalOutcome folder moduleName world (.ok true after)

theorem remove_outcome (folder moduleName : String) (world : World) :
    RemovalOutcome folder moduleName world (remove folder moduleName world) := by
  have logged (message : String) :=
    sameButLog_log world .info .generator message none
  rw [remove, bind_ok (get_eq world)]
  cases located : world.files.locate world.here
      (interfacePath folder moduleName) with
  | error refusal => exact .absent (logged _) (by rw [Tree.isFile, located])
  | ok location =>
      cases stands : world.files.get? location with
      | none =>
          have noFile : world.files.isFile world.here
              (interfacePath folder moduleName) = false := by
            simp only [Tree.isFile, located, stands]
          simp only [stands]
          exact .absent (logged _) noFile
      | some entry =>
          cases entry with
          | folder =>
              have noFile : world.files.isFile world.here
                  (interfacePath folder moduleName) = false := by
                simp only [Tree.isFile, located, stands]
              simp only [stands]
              exact .absent (logged _) noFile
          | file content =>
              have isFile : world.files.isFile world.here
                  (interfacePath folder moduleName) = true := by
                simp only [Tree.isFile, located, stands]
              simp only [stands]
              rw [bind_ok (info_eq _ _ world)]
              split
              case isTrue refuses => exact .refused (logged _) isFile refuses rfl
              case isFalse =>
                  refine .erased located stands
                    ⟨(logged _).machine, (logged _).here, (logged _).script,
                      (logged _).calls⟩ ?_
                  rw [← (logged _).files]

theorem remove_after (folder moduleName : String) (world : World) :
    Removed (.named folder) moduleName world.here world.files
        ((remove folder moduleName).after world).files ∧
      SameButFiles world ((remove folder moduleName).after world) := by
  have outcome := remove_outcome folder moduleName world
  rw [Run.after]
  generalize remove folder moduleName world = result at outcome
  cases outcome with
  | absent same noFile => exact ⟨same.files ▸ .kept, same.toSameButFiles⟩
  | refused same isFile refuses closed =>
      exact ⟨same.files ▸ .kept, same.toSameButFiles⟩
  | erased located isFile same files =>
      exact ⟨files ▸ .erased rfl located isFile, same⟩

/-- Remove an interface from a folder that must have a name. -/
def removeFrom (folder : Folder) (moduleName : String) : Run Unit := do
  let path ← folderPath folder
  let _ ← remove path moduleName

theorem removeFrom_after (folder : Folder) (moduleName : String)
    (world : World) :
    Removed folder moduleName world.here world.files
        ((removeFrom folder moduleName).after world).files ∧
      SameButFiles world ((removeFrom folder moduleName).after world) := by
  cases folder with
  | nameless => exact ⟨.kept, .refl world⟩
  | named path =>
      have found : folderPath (.named path) world = .ok path world := rfl
      have returning : Keeps (fun after : World =>
          Removed (.named path) moduleName world.here world.files after.files ∧
            SameButFiles world after) (pure () : Run Unit) := .pure ()
      rw [removeFrom, after_bind_of_ok found]
      exact Keeps.after_bind (remove_after path moduleName world)
        fun _ => returning

/-! ## Writing -/

/-- A path that is refused is not opened. -/
theorem breaksOff_of_isOfPath {refusal : Refusal}
    (ofPath : refusal.isOfPath = true) (path : String) :
    breaksOff (failureOf (.writeRefused path) ⟨refusal, path⟩) = false := by
  cases refusal with
  | brokenOff number wording => cases ofPath
  | _ => rfl

/-- What an opened file is left with by contents that it cannot take, and the
failure in which that ends. -/
def breakOff? (machine : Machine) (path contents : String) :
    Option (ByteArray × Failure) :=
  match machine.halves.encode contents with
  | .error fault => some (ByteArray.empty, .fault (.unencodable fault))
  | .ok content =>
      machine.shortfall.map fun shortfall =>
        (content.extract 0 shortfall.kept,
          .output (.writeRefused path
            ⟨.brokenOff shortfall.number shortfall.wording, path⟩))

theorem breaksOff_of_breakOff? {machine : Machine} {path contents : String}
    {kept : ByteArray} {failure : Failure}
    (broken : breakOff? machine path contents = some (kept, failure)) :
    breaksOff failure = true := by
  rw [breakOff?] at broken
  split at broken
  · obtain ⟨-, rfl⟩ := Prod.mk.inj (Option.some.inj broken)
    rfl
  · obtain ⟨shortfall, -, same⟩ := Option.map_eq_some_iff.mp broken
    obtain ⟨-, rfl⟩ := Prod.mk.inj same
    rfl

theorem encodeUtf8_of_encode {halves : Text.Halves} {contents : String}
    {content : ByteArray} (encoded : halves.encode contents = .ok content) :
    content = Text.encodeUtf8 contents := by
  rw [Text.Halves.encode] at encoded
  split at encoded
  · exact (Except.ok.inj encoded).symm
  · cases encoded

/-- Contents that can be written whole have an encoding. -/
theorem encode_of_breakOff?_eq_none {machine : Machine}
    {path contents : String} (whole : breakOff? machine path contents = none) :
    machine.halves.encode contents = .ok (Text.encodeUtf8 contents) := by
  rw [breakOff?] at whole
  split at whole
  case h_1 => cases whole
  case h_2 content encoded => rw [encoded, encodeUtf8_of_encode encoded]

/-- What writing an interface comes to. -/
inductive WriteOutcome (folder moduleName contents : String) (world : World) :
    EStateM.Result Failure World String → Prop
  | refused {failure : Failure} {after : World}
      (added : Tree.Grown world.here folder.toList world.files after.files)
      (closed : breaksOff failure = false) (same : SameButFiles world after) :
      WriteOutcome folder moduleName contents world (.error failure after)
  | brokenOff {grown : Tree} {location : Location} {kept : ByteArray}
      {failure : Failure} {after : World}
      (added : Tree.Grown world.here folder.toList world.files grown)
      (target : grown.Target world.here (interfacePath folder moduleName)
        location)
      (broken : breakOff? world.machine (interfacePath folder moduleName)
        contents = some (kept, failure))
      (files : after.files = grown.put location (.file kept))
      (same : SameButFiles world after) :
      WriteOutcome folder moduleName contents world (.error failure after)
  | written {grown : Tree} {location : Location} {after : World}
      (added : Tree.Grown world.here folder.toList world.files grown)
      (target : grown.Target world.here (interfacePath folder moduleName)
        location)
      (whole : breakOff? world.machine (interfacePath folder moduleName)
        contents = none)
      (files : after.files =
        grown.put location (.file (Text.encodeUtf8 contents)))
      (same : SameButFiles world after) :
      WriteOutcome folder moduleName contents world
        (.ok (interfacePath folder moduleName) after)

theorem createFolder_after (folder : String) (world : World) :
    Tree.Grown world.here folder.toList world.files
        ((createFolder folder).after world).files ∧
      SameButFiles world ((createFolder folder).after world) := by
  rw [createFolder]
  split
  · exact ⟨.refl _ _ _, .refl world⟩
  · have grown := world.files.createFolder_grown world.machine.reach.folders
      world.here folder
    rw [after_bind_of_ok (get_eq world)]
    cases created : world.files.createFolder world.machine.reach.folders
        world.here folder with
    | mk result files =>
        rw [created] at grown
        cases result with
        | ok => exact ⟨grown, rfl, rfl, rfl, rfl⟩
        | error error => exact ⟨grown, rfl, rfl, rfl, rfl⟩

theorem breaksOff_of_createFolder {folder : String} {failure : Failure}
    {world after : World}
    (failed : createFolder folder world = .error failure after) :
    breaksOff failure = false := by
  rw [createFolder] at failed
  split at failed
  case isTrue => cases failed
  case isFalse =>
      rcases bind_eq_error.mp failed with failed | ⟨_, _, got, failed⟩
      · cases failed
      obtain ⟨rfl, rfl⟩ := EStateM.Result.ok.inj got
      cases created : world.files.createFolder world.machine.reach.folders
          world.here folder with
      | mk result files =>
          rw [created] at failed
          cases result with
          | ok => cases failed
          | error error =>
              obtain ⟨rfl, -⟩ := EStateM.Result.error.inj failed
              rw [failureOf]
              split
              · rfl
              · rfl

/-- The world with a file at a location. -/
def holding (location : Location) (content : ByteArray) (world : World) :
    World :=
  { world with files := world.files.put location (.file content) }

theorem holding_holding (location : Location) (content old : ByteArray)
    (world : World) :
    holding location content (holding location old world) =
      holding location content world := by
  simp only [holding, Tree.put_put_self]

theorem openFile_eq (path : String) (world : World) :
    openFile path world =
      match world.files.writeTarget world.here path with
      | .error refusal =>
          .error (failureOf (.writeRefused path) ⟨refusal, path⟩) world
      | .ok location =>
          .ok location (holding location ByteArray.empty world) := by
  rw [openFile, bind_ok (get_eq world)]
  cases world.files.writeTarget world.here path with
  | error refusal => rfl
  | ok location => rfl

theorem encode_eq (contents : String) (world : World) :
    encode contents world =
      match world.machine.halves.encode contents with
      | .error fault => .error (.fault (.unencodable fault)) world
      | .ok content => .ok content world := by
  rw [encode, bind_ok (get_eq world)]
  cases world.machine.halves.encode contents with
  | error fault => rfl
  | ok content => rfl

theorem fill_eq (path : String) (location : Location) (content : ByteArray)
    (world : World) :
    fill path location content world =
      match world.machine.shortfall with
      | none => .ok () (holding location content world)
      | some shortfall =>
          .error (.output (.writeRefused path
              ⟨.brokenOff shortfall.number shortfall.wording, path⟩))
            (holding location (content.extract 0 shortfall.kept) world) := by
  rw [fill, bind_ok (get_eq world)]
  cases world.machine.shortfall with
  | none => rfl
  | some shortfall => rfl

/-- A file is left as it is, or it is opened and takes the contents as far as
it can. -/
theorem writeFile_eq (path contents : String) (world : World) :
    writeFile path contents world =
      match world.files.writeTarget world.here path with
      | .error refusal =>
          .error (failureOf (.writeRefused path) ⟨refusal, path⟩) world
      | .ok location =>
          match breakOff? world.machine path contents with
          | some (kept, failure) =>
              .error failure (holding location kept world)
          | none =>
              .ok path
                ((holding location (Text.encodeUtf8 contents) world).log .info
                  .generator ("Wrote module interface to " ++ path) none) := by
  have opening := openFile_eq path world
  rw [writeFile]
  cases targeted : world.files.writeTarget world.here path with
  | error refusal =>
      rw [targeted] at opening
      exact bind_eq_error.mpr (.inl opening)
  | ok location =>
      rw [targeted] at opening
      rw [bind_ok opening]
      have encoding :=
        encode_eq contents (holding location ByteArray.empty world)
      change encode contents (holding location ByteArray.empty world) =
        match world.machine.halves.encode contents with
        | .error fault => _
        | .ok content => _ at encoding
      rw [breakOff?]
      cases encoded : world.machine.halves.encode contents with
      | error fault =>
          rw [encoded] at encoding
          exact bind_eq_error.mpr (.inl encoding)
      | ok content =>
          obtain rfl := encodeUtf8_of_encode encoded
          rw [encoded] at encoding
          rw [bind_ok encoding]
          have filling := fill_eq path location (Text.encodeUtf8 contents)
            (holding location ByteArray.empty world)
          simp only [holding_holding] at filling
          change fill path location (Text.encodeUtf8 contents)
              (holding location ByteArray.empty world) =
            match world.machine.shortfall with
            | none => _
            | some shortfall => _ at filling
          cases broken : world.machine.shortfall with
          | none =>
              rw [broken] at filling
              rw [bind_ok filling]
              rfl
          | some shortfall =>
              rw [broken] at filling
              exact bind_eq_error.mpr (.inl filling)

theorem write_outcome (folder moduleName contents : String) (world : World) :
    WriteOutcome folder moduleName contents world
      (write folder moduleName contents world) := by
  have created := createFolder_after folder world
  rw [write]
  cases prepared : createFolder folder world with
  | error failure after =>
      rw [after_of_error prepared] at created
      rw [bind_eq_error.mpr (.inl prepared)]
      exact .refused created.1 (breaksOff_of_createFolder prepared) created.2
  | ok _ middle =>
      rw [after_of_ok prepared] at created
      obtain ⟨added, same⟩ := created
      rw [bind_ok prepared, writeFile_eq]
      cases targeted : middle.files.writeTarget middle.here
          (interfacePath folder moduleName) with
      | error refusal =>
          have ofPath := middle.files.writeTarget_refusesByPath middle.here _
            refusal targeted
          exact .refused added (breaksOff_of_isOfPath ofPath _) same
      | ok location =>
          have target := Tree.target_of_writeTarget
            (endsOrdinary_interfacePath folder moduleName) targeted
          rw [same.here] at target
          cases broken : breakOff? middle.machine
              (interfacePath folder moduleName) contents with
          | some result =>
              obtain ⟨kept, failure⟩ := result
              exact .brokenOff added target (same.machine ▸ broken) rfl
                ⟨same.machine, same.here, same.script, same.calls⟩
          | none =>
              have logged := sameButLog_log
                (holding location (Text.encodeUtf8 contents) middle) .info
                .generator
                ("Wrote module interface to " ++
                  interfacePath folder moduleName) none
              exact .written added target (same.machine ▸ broken) logged.files
                ⟨logged.machine.trans same.machine,
                  logged.here.trans same.here,
                  logged.script.trans same.script,
                  logged.calls.trans same.calls⟩

/-- A write that succeeds puts one file where the path aims, after folders were
added. -/
theorem write_eq_ok {folder moduleName contents path : String}
    {world after : World}
    (succeeded : write folder moduleName contents world = .ok path after) :
    path = interfacePath folder moduleName ∧ SameButFiles world after ∧
      breakOff? world.machine path contents = none ∧
        ∃ grown location,
          Tree.Grown world.here folder.toList world.files grown ∧
            grown.Target world.here path location ∧
              after.files =
                grown.put location (.file (Text.encodeUtf8 contents)) := by
  have outcome := write_outcome folder moduleName contents world
  rw [succeeded] at outcome
  cases outcome with
  | written added target whole files same =>
      exact ⟨rfl, same, whole, _, _, added, target, files⟩

/-! ## Properties that do not look at the files -/

section FileBlind

variable {property : World → Prop}

theorem folderPath_keeps (folder : Folder) :
    Keeps property (folderPath folder) := by
  cases folder with
  | named path => exact .pure path
  | nameless => exact .fail _

theorem remove_fileBlind (blind : FileBlind property)
    (folder moduleName : String) :
    Keeps property (remove folder moduleName) := by
  have absent : Keeps property (remove.notFound folder moduleName) :=
    (Keeps.info blind.log _ _).bind fun _ => .pure false
  refine Keeps.get.bind fun world => ?_
  split
  · exact absent
  · split
    · refine (Keeps.info blind.log _ _).bind fun _ => ?_
      split
      · exact .fail _
      · refine Keeps.bind ?_ fun _ => .pure true
        exact fun world holds => blind.files world _ holds
    · exact absent

theorem removeFrom_fileBlind (blind : FileBlind property) (folder : Folder)
    (moduleName : String) : Keeps property (removeFrom folder moduleName) := by
  refine (folderPath_keeps folder).bind fun path => ?_
  exact (remove_fileBlind blind path moduleName).bind fun _ => .pure ()

theorem createFolder_fileBlind (blind : FileBlind property) (folder : String) :
    Keeps property (createFolder folder) := by
  rw [createFolder]
  split
  · exact .pure ()
  · intro world holds
    rw [after_bind_of_ok (get_eq world)]
    cases created : world.files.createFolder world.machine.reach.folders
        world.here folder with
    | mk result files =>
        cases result with
        | ok => exact blind.files world files holds
        | error error => exact blind.files world files holds

theorem writeFile_fileBlind (blind : FileBlind property)
    (path contents : String) : Keeps property (writeFile path contents) := by
  have held {world : World} (holds : property world) (location : Location)
      (content : ByteArray) : property (holding location content world) :=
    blind.files world _ holds
  refine Keeps.bind (fun world holds => ?_) fun location => ?_
  · rw [Run.after, openFile_eq]
    cases world.files.writeTarget world.here path with
    | error refusal => exact holds
    | ok location => exact held holds location _
  refine Keeps.bind (fun world holds => ?_) fun content => ?_
  · rw [Run.after, encode_eq]
    cases world.machine.halves.encode contents with
    | error fault => exact holds
    | ok content => exact holds
  refine Keeps.bind (fun world holds => ?_) fun _ => ?_
  · rw [Run.after, fill_eq]
    cases world.machine.shortfall with
    | none => exact held holds location _
    | some shortfall => exact held holds location _
  · exact (Keeps.info blind.log _ _).bind fun _ => .pure _

theorem write_fileBlind (blind : FileBlind property)
    (folder moduleName contents : String) :
    Keeps property (write folder moduleName contents) :=
  (createFolder_fileBlind blind folder).bind fun _ =>
    writeFile_fileBlind blind _ contents

end FileBlind

end Store

end SwiftInterface
