import SwiftInterface.Proofs.Store.Changes

/-!
# The store as a map of contents

Seen by the contents of its files, the store is a map: a successful write sets
the content at one place, a successful removal clears it, and a write that
breaks off sets it to the part that was kept.  Nothing else changes any content,
however the folders and modules of the requests are spelled.  So after any
requests a place holds what the last of these left there.
-/

namespace SwiftInterface

namespace Files

namespace Tree

variable {tree : Tree} {here location : Location} {path : String}

/-- The content of the file at a location, if there is a file. -/
def content? (tree : Tree) (location : Location) : Option ByteArray :=
  match tree.get? location with
  | some (.file content) => some content
  | _ => none

theorem content?_eq_some_iff {content : ByteArray} :
    tree.content? location = some content ↔
      tree.get? location = some (.file content) := by
  unfold content?
  split
  case h_1 found stands => simp [stands]
  case h_2 noFile => simpa using noFile content

theorem Grown.content?_eq {chars : List Char} {before after : Tree}
    (grown : Grown here chars before after) (location : Location) :
    after.content? location = before.content? location := by
  ext content
  rw [content?_eq_some_iff, content?_eq_some_iff, grown.isFile_iff]

theorem Target.content?_put (target : tree.Target here path location)
    (content : ByteArray) (other : Location) :
    (tree.put location (.file content)).content? other =
      if other = location then some content else tree.content? other := by
  unfold content?
  rw [target.get?_put]
  by_cases same : other = location
  · rw [if_pos same, if_pos same]
  · rw [if_neg same, if_neg same]

theorem content?_erase (notRoot : location ≠ []) (other : Location) :
    (tree.erase location).content? other =
      if other = location then none else tree.content? other := by
  unfold content?
  rw [get?_erase tree notRoot]
  by_cases same : other = location
  · rw [if_pos same, if_pos same]
  · rw [if_neg same, if_neg same]

theorem isFile_iff :
    tree.isFile here path = true ↔
      ∃ location content, tree.locate here path = .ok location ∧
        tree.get? location = some (.file content) := by
  unfold isFile
  cases tree.locate here path with
  | error refusal => simp
  | ok location =>
      dsimp only
      split
      case h_1 content stands => simp [stands]
      case h_2 noFile => simpa using noFile

theorem isSome_of_locate (ends : EndsOrdinary path)
    (located : tree.locate here path = .ok location) :
    (tree.get? location).isSome = true := by
  obtain ⟨front, last, parts, ordinary⟩ := ends
  have walked := (locate_eq_ok_iff.mp located).2
  rw [parts] at walked
  obtain ⟨folder, -, stepped⟩ := walk_append_eq_ok.mp walked
  rw [walk_singleton] at stepped
  obtain ⟨-, -, rfl, found⟩ := (step_eq_ok_iff ordinary).mp stepped
  exact found

theorem isFile_of_read {content : ByteArray}
    (reads : tree.read here path = .ok content) :
    tree.isFile here path = true := by
  unfold read at reads
  split at reads
  case h_1 => cases reads
  case h_2 location located =>
      split at reads
      case h_1 found stands =>
          exact isFile_iff.mpr ⟨location, found, located, stands⟩
      case h_2 => cases reads
      case h_3 => cases reads

theorem isFile_of_not_holds (missing : tree.holds here path = false) :
    tree.isFile here path = false := by
  unfold holds at missing
  split at missing
  case h_1 => cases missing
  case h_2 refusal unlocated => rw [isFile, unlocated]

/-- The path of a file that was taken away leads nowhere. -/
theorem exists_locate_erase (ends : EndsOrdinary path)
    (located : tree.locate here path = .ok location)
    (notRoot : location ≠ []) :
    ∃ refusal, (tree.erase location).locate here path = .error refusal := by
  cases relocated : (tree.erase location).locate here path with
  | error refusal => exact ⟨refusal, rfl⟩
  | ok other =>
      have before := locate_of_extends (erase_extends notRoot) relocated
      obtain rfl : other = location := Except.ok.inj (before.symm.trans located)
      have found := isSome_of_locate ends relocated
      rw [get?_erase tree notRoot, if_pos rfl] at found
      cases found

end Tree

end Files

namespace Store

open Files Run

/-! ## Requests -/

/-- A use of the store.  Whether the surroundings let a writing break off or
refuse to remove a file can be different each time. -/
inductive Request where
  | write (folder moduleName contents : String) (shortfall : Option Shortfall)
  | remove (folder moduleName : String) (refused : Bool)

inductive Answer where
  | written (path : String)
  | removed (found : Bool)
  | failed (failure : Failure)
deriving DecidableEq

namespace Request

/-- The path of the interface that is asked for. -/
def path : Request → String
  | write folder moduleName _ _ => interfacePath folder moduleName
  | remove folder moduleName _ => interfacePath folder moduleName

def run : Request → Run Answer
  | write folder moduleName contents shortfall => do
      modify fun world =>
        { world with machine := { world.machine with shortfall } }
      let path ← Store.write folder moduleName contents
      return .written path
  | remove folder moduleName refused => do
      modify fun world => { world with refusesRemoval := refused }
      let found ← Store.remove folder moduleName
      return .removed found

/-- The answer to a request and the world after it. -/
def serve (request : Request) (world : World) : Answer × World :=
  match request.run world with
  | .ok answer after => (answer, after)
  | .error failure after => (.failed failure, after)

/-- The content that a request puts into the file of its interface, if it does,
going by its answer. -/
def leaves? (machine : Machine) : Request → Answer → Option ByteArray
  | write _ _ contents _, .written _ => some (Text.encodeUtf8 contents)
  | write folder moduleName contents shortfall, .failed failure =>
      if breaksOff failure then
        (breakOff? { machine with shortfall } (interfacePath folder moduleName)
          contents).map Prod.fst
      else none
  | _, _ => none

end Request

/-- The answers to requests one after the other, and the world after them. -/
def serveAll : List Request → World → List Answer × World
  | [], world => ([], world)
  | request :: requests, world =>
      let (answer, middle) := request.serve world
      let (answers, after) := serveAll requests middle
      (answer :: answers, after)

/-- A place with its new content, or without one. -/
abbrev Change := Location × Option ByteArray

/-- The change that a request made, going by its answer.  It concerns the place
where the path leads when the file is there. -/
def changeOf (machine : Machine) (here : Location) (before after : Tree)
    (request : Request) (answer : Answer) : Option Change :=
  match request.leaves? machine answer with
  | some content =>
      (after.locate here request.path).toOption.map fun location =>
        (location, some content)
  | none =>
      if answer = .removed true then
        (before.locate here request.path).toOption.map fun location =>
          (location, none)
      else none

/-- The changes that requests make, in order. -/
def changes : List Request → World → List Change
  | [], _ => []
  | request :: requests, world =>
      let (answer, middle) := request.serve world
      (changeOf world.machine world.here world.files middle.files request
        answer).toList ++ changes requests middle

/-! ## One request -/

/-- What a request can do to the files, and what is answered then. -/
inductive Served (machine : Machine) (here : Location) (before : Tree) :
    Request → Answer → Tree → Prop
  | written {folder moduleName contents : String}
      {shortfall : Option Shortfall} {grown : Tree} {location : Location}
      (added : Tree.Grown here folder.toList before grown)
      (target : grown.Target here (interfacePath folder moduleName) location) :
      Served machine here before (.write folder moduleName contents shortfall)
        (.written (interfacePath folder moduleName))
        (grown.put location (.file (Text.encodeUtf8 contents)))
  | unwritten {folder moduleName contents : String}
      {shortfall : Option Shortfall} {failure : Failure} {grown : Tree}
      (added : Tree.Grown here folder.toList before grown)
      (closed : breaksOff failure = false) :
      Served machine here before (.write folder moduleName contents shortfall)
        (.failed failure) grown
  | brokenOff {folder moduleName contents : String}
      {shortfall : Option Shortfall} {failure : Failure} {grown : Tree}
      {location : Location} {kept : ByteArray}
      (added : Tree.Grown here folder.toList before grown)
      (target : grown.Target here (interfacePath folder moduleName) location)
      (broken : breakOff? { machine with shortfall }
        (interfacePath folder moduleName) contents = some (kept, failure)) :
      Served machine here before (.write folder moduleName contents shortfall)
        (.failed failure) (grown.put location (.file kept))
  | erased {folder moduleName : String} {refused : Bool} {location : Location}
      {content : ByteArray}
      (located : before.locate here (interfacePath folder moduleName) =
        .ok location)
      (isFile : before.get? location = some (.file content)) :
      Served machine here before (.remove folder moduleName refused) (.removed true)
        (before.erase location)
  | absent {folder moduleName : String} {refused : Bool}
      (noFile : before.isFile here (interfacePath folder moduleName) = false) :
      Served machine here before (.remove folder moduleName refused) (.removed false)
        before
  | unerased {folder moduleName : String} {failure : Failure}
      (isFile : before.isFile here (interfacePath folder moduleName) = true)
      (closed : breaksOff failure = false) :
      Served machine here before (.remove folder moduleName true) (.failed failure)
        before

theorem Request.serve_of_ok {request : Request} {answer : Answer}
    {world after : World} (succeeded : request.run world = .ok answer after) :
    request.serve world = (answer, after) := by
  rw [serve, succeeded]

theorem Request.serve_of_error {request : Request} {failure : Failure}
    {world after : World} (failed : request.run world = .error failure after) :
    request.serve world = (.failed failure, after) := by
  rw [serve, failed]

theorem exists_serve_write (folder moduleName contents : String)
    (shortfall : Option Shortfall) (world : World) :
    ∃ answer after,
      (Request.write folder moduleName contents shortfall).serve world =
          (answer, after) ∧
        after.here = world.here ∧
          Served world.machine world.here world.files
            (.write folder moduleName contents shortfall) answer
            after.files := by
  have outcome := write_outcome folder moduleName contents
    { world with machine := { world.machine with shortfall } }
  have ran : (Request.write folder moduleName contents shortfall).run world =
      (Store.write folder moduleName contents >>=
          fun path => pure (.written path))
        { world with machine := { world.machine with shortfall } } := by
    rw [Request.run]
    exact bind_ok rfl
  cases result : Store.write folder moduleName contents
      { world with machine := { world.machine with shortfall } } with
  | error failure after =>
      rw [result] at outcome
      have served := Request.serve_of_error
        (ran.trans (bind_eq_error.mpr (.inl result)))
      cases outcome with
      | refused added closed same =>
          exact ⟨.failed failure, after, served, same.here,
            .unwritten added closed⟩
      | brokenOff added target broken files same =>
          refine ⟨.failed failure, after, served, same.here, ?_⟩
          rw [files]
          exact .brokenOff added target broken
  | ok path after =>
      rw [result] at outcome
      have served := Request.serve_of_ok (ran.trans (bind_ok result))
      cases outcome with
      | written added target whole files same =>
          refine ⟨.written _, after, served, same.here, ?_⟩
          rw [files]
          exact .written added target

theorem exists_serve_remove (folder moduleName : String) (refused : Bool)
    (world : World) :
    ∃ answer after,
      (Request.remove folder moduleName refused).serve world =
          (answer, after) ∧
        after.here = world.here ∧
          Served world.machine world.here world.files
            (.remove folder moduleName refused) answer after.files := by
  have outcome := remove_outcome folder moduleName
    { world with refusesRemoval := refused }
  have ran : (Request.remove folder moduleName refused).run world =
      (Store.remove folder moduleName >>= fun found => pure (.removed found))
        { world with refusesRemoval := refused } := by
    rw [Request.run]
    exact bind_ok rfl
  cases result : Store.remove folder moduleName
      { world with refusesRemoval := refused } with
  | error failure after =>
      rw [result] at outcome
      cases outcome with
      | refused same isFile refuses closed =>
          obtain rfl : refused = true := refuses
          refine ⟨.failed failure, after, Request.serve_of_error
            (ran.trans (bind_eq_error.mpr (.inl result))), same.here, ?_⟩
          rw [same.files]
          exact .unerased isFile closed
  | ok found after =>
      rw [result] at outcome
      have served := Request.serve_of_ok (ran.trans (bind_ok result))
      cases outcome with
      | absent same noFile =>
          refine ⟨.removed false, after, served, same.here, ?_⟩
          rw [same.files]
          exact .absent noFile
      | erased located isFile same files =>
          refine ⟨.removed true, after, served, same.here, ?_⟩
          rw [files]
          exact .erased located isFile

theorem Request.served (request : Request) (world : World) :
    Served world.machine world.here world.files request
        (request.serve world).1 (request.serve world).2.files ∧
      (request.serve world).2.here = world.here := by
  cases request with
  | write folder moduleName contents shortfall =>
      obtain ⟨answer, after, serveEq, sameHere, served⟩ :=
        exists_serve_write folder moduleName contents shortfall world
      rw [serveEq]
      exact ⟨served, sameHere⟩
  | remove folder moduleName refused =>
      obtain ⟨answer, after, serveEq, sameHere, served⟩ :=
        exists_serve_remove folder moduleName refused world
      rw [serveEq]
      exact ⟨served, sameHere⟩

section Served

variable {machine : Machine} {here : Location} {before after : Tree}
  {request : Request} {answer : Answer}

/-- A request that puts a file where its path aims changes the content there. -/
theorem content?_eq_of_leaves {grown : Tree} {chars : List Char}
    {path : String} {place : Location} {content : ByteArray}
    (named : request.path = path)
    (added : Tree.Grown here chars before grown)
    (target : grown.Target here path place)
    (leaves : request.leaves? machine answer = some content)
    (location : Location) :
    (grown.put place (.file content)).content? location =
      ((changeOf machine here before (grown.put place (.file content)) request
        answer).toList.lookup location).getD (before.content? location) := by
  have located := target.locate_put content
  rw [target.content?_put, added.content?_eq]
  simp only [changeOf, leaves, named, located]
  by_cases same : location = place
  · simp [same, Except.toOption]
  · have skipped : (location == place) = false := by simpa using same
    simp [same, skipped, Except.toOption, List.lookup_cons]

/-- A request changes the contents as its answer tells. -/
theorem Served.content?_eq
    (served : Served machine here before request answer after)
    (location : Location) :
    after.content? location =
      ((changeOf machine here before after request answer).toList.lookup
        location).getD (before.content? location) := by
  cases served with
  | written added target =>
      exact content?_eq_of_leaves (by rfl) added target rfl location
  | unwritten added closed =>
      simp only [changeOf, Request.leaves?, closed, Bool.false_eq_true,
        if_false, reduceCtorEq]
      exact added.content?_eq location
  | brokenOff added target broken =>
      refine content?_eq_of_leaves (by rfl) added target ?_ location
      rw [Request.leaves?, if_pos (breaksOff_of_breakOff? broken), broken]
      rfl
  | @erased folder moduleName refused place content located isFile =>
      have notRoot := Tree.ne_root_of_get? (Tree.ne_folder_of_file isFile)
      rw [Tree.content?_erase notRoot]
      simp only [changeOf, Request.leaves?, Request.path, located, if_true]
      by_cases same : location = place
      · simp [same, Except.toOption]
      · have skipped : (location == place) = false := by simpa using same
        simp [same, skipped, Except.toOption, List.lookup_cons]
  | absent noFile => rfl
  | unerased isFile closed =>
      simp only [changeOf, Request.leaves?, reduceCtorEq, if_false]
      rfl

/-- What can be relied on after a request, whatever it answers. -/
structure Conforms (machine : Machine) (here : Location) (before : Tree)
    (request : Request) (answer : Answer) (after : Tree) : Prop where
  /-- No file changes but the one that the path of the interface leads to. -/
  elsewhere : ∀ location, before.locate here request.path ≠ .ok location →
    after.locate here request.path ≠ .ok location →
      after.content? location = before.content? location
  written : ∀ folder moduleName contents shortfall path,
    request = .write folder moduleName contents shortfall →
      answer = .written path →
        path = request.path ∧
          after.read here path = .ok (Text.encodeUtf8 contents)
  removed : ∀ found, answer = .removed found →
    (found = true ↔ before.isFile here request.path = true)
  gone : answer = .removed true → after.holds here request.path = false
  unchanged : (answer = .removed false ∨
      ∃ failure, answer = .failed failure ∧ breaksOff failure = false) →
    ∀ location, after.content? location = before.content? location
  /-- A write that breaks off leaves nothing but what was kept. -/
  brokenOff : ∀ failure, answer = .failed failure → breaksOff failure = true →
    ∃ folder moduleName contents shortfall kept,
      request = .write folder moduleName contents shortfall ∧
        breakOff? { machine with shortfall } request.path contents =
            some (kept, failure) ∧
          after.read here request.path = .ok kept

/-- Putting a file where the path aims changes no other file. -/
theorem content?_put_elsewhere {grown : Tree} {chars : List Char}
    {path : String} {place location : Location} {content : ByteArray}
    (added : Tree.Grown here chars before grown)
    (target : grown.Target here path place)
    (notAfter : (grown.put place (.file content)).locate here path ≠
      .ok location) :
    (grown.put place (.file content)).content? location =
      before.content? location := by
  have different : location ≠ place := by
    rintro rfl
    exact notAfter (target.locate_put _)
  rw [target.content?_put, if_neg different, added.content?_eq]

theorem Served.conforms
    (served : Served machine here before request answer after) :
    Conforms machine here before request answer after := by
  cases served with
  | @written folder moduleName contents shortfall grown place added target =>
      refine ⟨fun location _ notAfter =>
        content?_put_elsewhere added target notAfter, ?_, nofun, nofun, by simp,
        nofun⟩
      rintro _ _ _ _ _ ⟨⟩ ⟨⟩
      exact ⟨rfl, target.read_put _⟩
  | unwritten added closed =>
      have same := added.content?_eq
      refine ⟨fun location _ _ => same location, nofun, nofun, nofun,
        fun _ => same, ?_⟩
      rintro _ ⟨⟩ broken
      rw [closed] at broken
      cases broken
  | @brokenOff folder moduleName contents shortfall failure grown place kept
      added target broken =>
      have breaks := breaksOff_of_breakOff? broken
      refine ⟨fun location _ notAfter =>
        content?_put_elsewhere added target notAfter, nofun, nofun, nofun, ?_,
        ?_⟩
      · rintro (⟨⟨⟩⟩ | ⟨_, ⟨⟩, closed⟩)
        rw [breaks] at closed
        cases closed
      · rintro _ ⟨⟩ -
        exact ⟨folder, moduleName, contents, shortfall, kept, rfl, broken,
          target.read_put _⟩
  | @erased folder moduleName refused place content located isFile =>
      have notRoot := Tree.ne_root_of_get? (Tree.ne_folder_of_file isFile)
      refine ⟨fun location notBefore _ => ?_, nofun, ?_, fun _ => ?_, by simp,
        nofun⟩
      · have different : location ≠ place := by
          rintro rfl
          exact notBefore located
        rw [Tree.content?_erase notRoot, if_neg different]
      · rintro found ⟨⟩
        exact ⟨fun _ => Tree.isFile_iff.mpr ⟨place, content, located, isFile⟩,
          fun _ => rfl⟩
      · obtain ⟨refusal, relocated⟩ := Tree.exists_locate_erase
          (endsOrdinary_interfacePath folder moduleName) located notRoot
        rw [Tree.holds, Request.path, relocated]
  | absent noFile =>
      refine ⟨fun _ _ _ => rfl, nofun, ?_, nofun, fun _ _ => rfl, nofun⟩
      rintro found ⟨⟩
      simp [Request.path, noFile]
  | unerased isFile closed =>
      refine ⟨fun _ _ _ => rfl, nofun, nofun, nofun, fun _ _ => rfl, ?_⟩
      rintro _ ⟨⟩ broken
      rw [closed] at broken
      cases broken

end Served

/-- A removal finds no file where there is none, refused or not. -/
theorem answer_remove_of_no_file {folder moduleName : String} {world : World}
    (noFile : world.files.isFile world.here (interfacePath folder moduleName) =
      false) (refused : Bool) :
    ((Request.remove folder moduleName refused).serve world).1 =
      .removed false := by
  obtain ⟨answer, after, serveEq, -, served⟩ :=
    exists_serve_remove folder moduleName refused world
  rw [serveEq]
  generalize after.files = tree at served
  cases served with
  | erased located isFile =>
      have found := Tree.isFile_iff.mpr ⟨_, _, located, isFile⟩
      simp [found] at noFile
  | absent _ => rfl
  | unerased isFile closed => simp [isFile] at noFile

theorem answer_remove_of_file {folder moduleName : String} {world : World}
    (isFile : world.files.isFile world.here (interfacePath folder moduleName) =
      true) :
    ((Request.remove folder moduleName false).serve world).1 =
      .removed true := by
  obtain ⟨answer, after, serveEq, -, served⟩ :=
    exists_serve_remove folder moduleName false world
  rw [serveEq]
  generalize after.files = tree at served
  cases served with
  | erased _ _ => rfl
  | absent noFile => simp [isFile] at noFile

/-! ## Requests one after the other -/

/-- The world after requests. -/
def worldAfter (requests : List Request) (world : World) : World :=
  (serveAll requests world).2

/-- After any requests a place holds what the last change there left, and what
it held at first if there was none. -/
theorem content?_worldAfter (requests : List Request) (world : World)
    (location : Location) :
    (worldAfter requests world).files.content? location =
      ((changes requests world).reverse.lookup location).getD
        (world.files.content? location) := by
  induction requests generalizing world with
  | nil => rfl
  | cons request requests ih =>
      have step := (request.served world).1.content?_eq location
      have onward := ih (request.serve world).2
      rw [step] at onward
      have single (change : Option Change) :
          change.toList.reverse = change.toList := by
        cases change with
        | none => rfl
        | some change => rfl
      rw [changes, List.reverse_append, List.lookup_append, Option.getD_or,
        single]
      exact onward

/-- An interface that was just written is found by one removal, and not by the
next. -/
theorem answers_write_remove_remove {folder moduleName contents path : String}
    {shortfall : Option Shortfall} {world : World}
    (written :
      ((Request.write folder moduleName contents shortfall).serve world).1 =
        .written path) (refused : Bool) :
    (serveAll [.write folder moduleName contents shortfall,
        .remove folder moduleName false,
        .remove folder moduleName refused] world).1 =
      [.written (interfacePath folder moduleName), .removed true,
        .removed false] := by
  obtain ⟨answer, stored, writeEq, sameHere, served⟩ :=
    exists_serve_write folder moduleName contents shortfall world
  rw [writeEq] at written
  obtain rfl : answer = .written path := written
  obtain ⟨rfl, reads⟩ := served.conforms.written _ _ _ _ path rfl rfl
  rw [← sameHere] at reads
  have found := answer_remove_of_file (Tree.isFile_of_read reads)
  obtain ⟨answer, cleared, removeEq, stillHere, removed⟩ :=
    exists_serve_remove folder moduleName false stored
  rw [removeEq] at found
  obtain rfl : answer = .removed true := found
  have gone := removed.conforms.gone rfl
  rw [← stillHere] at gone
  have missing := answer_remove_of_no_file (Tree.isFile_of_not_holds gone) refused
  simp only [serveAll, writeEq, removeEq, missing]
  rfl

/-- Each request does what its answer says and nothing else to the contents;
after any requests a place holds what the last change left there; and an
interface that was just written can be removed once. -/
theorem contents_follow_requests (requests : List Request) (request : Request)
    (world : World) :
    Conforms world.machine world.here world.files request
        (request.serve world).1 (request.serve world).2.files ∧
      (∀ location, (worldAfter requests world).files.content? location =
        ((changes requests world).reverse.lookup location).getD
          (world.files.content? location)) ∧
      ∀ folder moduleName contents shortfall path refused,
        ((Request.write folder moduleName contents shortfall).serve
            world).1 = .written path →
          (serveAll [.write folder moduleName contents shortfall,
              .remove folder moduleName false,
              .remove folder moduleName refused] world).1 =
            [.written (interfacePath folder moduleName), .removed true,
              .removed false] := by
  refine ⟨(request.served world).1.conforms,
    content?_worldAfter requests world, ?_⟩
  intro folder moduleName contents shortfall path refused written
  exact answers_write_remove_remove written refused

/-- A world with one interface. -/
def withYams : World where
  files.entries :=
    [ (["out"], .folder),
      (["out", "Yams.swift"], .file (Text.encodeUtf8 "import Yams\n\n")) ]

/-- Requests for that interface in several spellings, and for another one. -/
def respelled : List Request :=
  [ .write "out" "Yams" "a" none,
    .remove "./out//" "Yams.swift" true,
    .write "out/../out" "Yams.swift" "bcd"
      (some ⟨1, 28, "No space left on device"⟩),
    .write "out/Yams.swift" "Main" "c" none,
    .remove "out" "" false ]

theorem contents_follow_requests_respelled :
    (worldAfter respelled withYams).files.content? ["out", "Yams.swift"] =
        some (Text.encodeUtf8 "b") ∧
      (serveAll [.write "/out" "Yams" "d" none, .remove "/out" "Yams" false,
          .remove "/out" "Yams" true] withYams).1 =
        [.written "/out/Yams.swift", .removed true, .removed false] := by
  obtain ⟨-, last, again⟩ :=
    contents_follow_requests respelled (.remove "out" "Yams" false) withYams
  constructor
  · rw [last]
    decide +kernel
  · exact again "/out" "Yams" "d" none "/out/Yams.swift" true
      (by decide +kernel)

/-- Contents with a half in front. -/
def tornContents : String :=
  String.singleton (withYams.machine.halves.standIn 0xd800)

/-- Contents with a half empty the file before they are refused. -/
theorem not_unchanged_of_failed_torn :
    ¬ ∀ request world failure, (Request.serve request world).1 = .failed failure →
      ∀ location, (Request.serve request world).2.files.content? location =
        world.files.content? location := by
  intro unchanged
  have same := unchanged (.write "out" "Yams" tornContents none) withYams
    (.fault (.unencodable ⟨0, 0xd800, 1⟩)) (by decide +kernel)
    ["out", "Yams.swift"]
  revert same
  decide +kernel

end Store

end SwiftInterface
