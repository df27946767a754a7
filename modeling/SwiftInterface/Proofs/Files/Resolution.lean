import SwiftInterface.Files.Tree
import SwiftInterface.Proofs.Lookup

/-!
# Resolving paths while a tree changes

A run changes the file tree between two uses of a path.  This file says what
stands where after a change and which resolutions survive it: a path that
exists keeps its location when the tree only grows, and a path whose last part
is an ordinary name aims at the same location as long as no folder is lost,
whether or not the name itself exists.
-/

namespace SwiftInterface

namespace Files

namespace Tree

@[simp]
theorem get?_root (tree : Tree) : tree.get? [] = some .folder :=
  if_pos rfl

theorem ne_root_of_get? {tree : Tree} {location : Location}
    (notFolder : tree.get? location ≠ some .folder) : location ≠ [] := by
  rintro rfl
  exact notFolder tree.get?_root

theorem ne_folder_of_file {tree : Tree} {location : Location}
    {content : ByteArray} (isFile : tree.get? location = some (.file content)) :
    tree.get? location ≠ some .folder := by
  simp [isFile]

theorem get?_put {location : Location} (tree : Tree) (notRoot : location ≠ [])
    (entry : Entry) (other : Location) :
    (tree.put location entry).get? other =
      if other = location then some entry else tree.get? other := by
  by_cases root : other = []
  · have different : [] ≠ location := notRoot.symm
    simp [root, different]
  by_cases same : other = location
  · simp [get?, put, same, notRoot]
  · have skipped : (other == location) = false := by simpa using same
    simp only [get?, put, root, same, if_false, List.lookup_cons, skipped]
    exact lookup_filter_ne same tree.entries

theorem get?_erase {location : Location} (tree : Tree)
    (notRoot : location ≠ []) (other : Location) :
    (tree.erase location).get? other =
      if other = location then none else tree.get? other := by
  by_cases root : other = []
  · have different : [] ≠ location := notRoot.symm
    simp [root, different]
  by_cases same : other = location
  · subst same
    simp only [get?, erase, root, if_false, if_true]
    exact lookup_filter_self other tree.entries
  · simp only [get?, erase, root, same, if_false]
    exact lookup_filter_ne same tree.entries

/-! ## Trees that grow or keep their folders -/

/-- Whatever stands in the first tree stands in the second. -/
def Extends (before after : Tree) : Prop :=
  ∀ location entry, before.get? location = some entry →
    after.get? location = some entry

/-- Every folder of the first tree is a folder of the second. -/
def KeepsFolders (before after : Tree) : Prop :=
  ∀ location, before.get? location = some .folder →
    after.get? location = some .folder

theorem Extends.refl (tree : Tree) : Extends tree tree :=
  fun _ _ stands => stands

theorem Extends.trans {first second third : Tree}
    (grows : Extends first second) (growsOn : Extends second third) :
    Extends first third :=
  fun location entry stands =>
    growsOn location entry (grows location entry stands)

theorem Extends.keepsFolders {before after : Tree}
    (grows : Extends before after) : KeepsFolders before after :=
  fun location stands => grows location .folder stands

theorem KeepsFolders.refl (tree : Tree) : KeepsFolders tree tree :=
  fun _ stands => stands

theorem KeepsFolders.trans {first second third : Tree}
    (keeps : KeepsFolders first second) (keepsOn : KeepsFolders second third) :
    KeepsFolders first third :=
  fun location stands => keepsOn location (keeps location stands)

theorem extends_put {tree : Tree} {location : Location} (entry : Entry)
    (vacant : tree.get? location = none) :
    Extends tree (tree.put location entry) := by
  intro other standing stands
  have notFolder : tree.get? location ≠ some .folder := by simp [vacant]
  have different : other ≠ location := by
    rintro rfl
    rw [vacant] at stands
    cases stands
  rw [get?_put tree (ne_root_of_get? notFolder), if_neg different]
  exact stands

theorem keepsFolders_put {tree : Tree} {location : Location} (entry : Entry)
    (notFolder : tree.get? location ≠ some .folder) :
    KeepsFolders tree (tree.put location entry) := by
  intro other stands
  have different : other ≠ location := by
    rintro rfl
    exact notFolder stands
  rw [get?_put tree (ne_root_of_get? notFolder), if_neg different]
  exact stands

theorem keepsFolders_erase {tree : Tree} {location : Location}
    (notFolder : tree.get? location ≠ some .folder) :
    KeepsFolders tree (tree.erase location) := by
  intro other stands
  have different : other ≠ location := by
    rintro rfl
    exact notFolder stands
  rw [get?_erase tree (ne_root_of_get? notFolder), if_neg different]
  exact stands

theorem erase_extends {tree : Tree} {location : Location}
    (notRoot : location ≠ []) : Extends (tree.erase location) tree := by
  intro other entry stands
  rw [get?_erase tree notRoot] at stands
  split at stands
  · cases stands
  · exact stands

/-! ## Walking along parts -/

/-- A part of a path that names an entry of its folder. -/
def Ordinary (part : String) : Prop :=
  part ≠ "" ∧ part ≠ "." ∧ part ≠ ".."

theorem folder_of_step {tree : Tree} {location next : Location}
    {part : String} (stepped : tree.step location part = .ok next) :
    tree.get? location = some .folder := by
  rw [step] at stepped
  split at stepped
  · cases stepped
  · cases stepped
  · assumption

/-- A step by an ordinary part leads to an entry of the folder. -/
theorem step_eq_ok_iff {tree : Tree} {location next : Location} {part : String}
    (ordinary : Ordinary part) :
    tree.step location part = .ok next ↔
      tree.get? location = some .folder ∧ part.utf8ByteSize ≤ partLimit ∧
        next = location ++ [part] ∧
          (tree.get? (location ++ [part])).isSome = true := by
  obtain ⟨notEmpty, notDot, notDots⟩ := ordinary
  rw [step]
  split
  case h_1 stands => simp [stands]
  case h_2 stands => simp [stands]
  case h_3 stands =>
      simp only [notEmpty, notDot, notDots, or_self, if_false, stands,
        true_and]
      by_cases long : partLimit < part.utf8ByteSize
      · simp [long, Nat.not_le.mpr long]
      · have short := Nat.le_of_not_lt long
        cases (tree.get? (location ++ [part])).isSome with
        | true => simp [long, short, eq_comm]
        | false => simp [long]

/-- A step of one tree is a step of another in which the folder is still there
and the entry that is reached, if it stood there, too. -/
theorem step_transfer {before after : Tree} {location next : Location}
    {part : String} (stepped : before.step location part = .ok next)
    (stays : after.get? location = some .folder)
    (arrives : (before.get? next).isSome = true →
      (after.get? next).isSome = true) :
    after.step location part = .ok next := by
  by_cases ordinary : Ordinary part
  · obtain ⟨-, short, rfl, found⟩ := (step_eq_ok_iff ordinary).mp stepped
    exact (step_eq_ok_iff ordinary).mpr ⟨stays, short, rfl, arrives found⟩
  · have special : (part = "" ∨ part = ".") ∨ part = ".." := by
      grind [Ordinary]
    rw [step, folder_of_step stepped] at stepped
    rw [step, stays]
    rcases special with same | rfl
    · simpa [same] using stepped
    · simpa using stepped

@[simp]
theorem walk_nil (tree : Tree) (location : Location) :
    tree.walk location [] = .ok location := by
  rw [walk]

theorem walk_cons_eq_ok {tree : Tree} {location target : Location}
    {part : String} {parts : List String} :
    tree.walk location (part :: parts) = .ok target ↔
      ∃ next, tree.step location part = .ok next ∧
        tree.walk next parts = .ok target := by
  rw [walk]
  cases tree.step location part with
  | error refusal => simp
  | ok next => simp

theorem walk_append_eq_ok {tree : Tree} {location target : Location}
    {front rest : List String} :
    tree.walk location (front ++ rest) = .ok target ↔
      ∃ middle, tree.walk location front = .ok middle ∧
        tree.walk middle rest = .ok target := by
  induction front generalizing location with
  | nil => simp
  | cons part front ih =>
      simp only [List.cons_append, walk_cons_eq_ok, ih]
      grind

theorem walk_singleton (tree : Tree) (location : Location) (part : String) :
    tree.walk location [part] = tree.step location part := by
  rw [walk]
  cases tree.step location part with
  | error refusal => rfl
  | ok next => exact tree.walk_nil next

/-- Whoever ends in a folder has started in one. -/
theorem folder_of_walk {tree : Tree} {location target : Location}
    {parts : List String} (walked : tree.walk location parts = .ok target)
    (ends : tree.get? target = some .folder) :
    tree.get? location = some .folder := by
  cases parts with
  | nil =>
      obtain rfl : location = target := by simpa using walked
      exact ends
  | cons part parts =>
      obtain ⟨next, stepped, -⟩ := walk_cons_eq_ok.mp walked
      exact folder_of_step stepped

theorem walk_of_extends {before after : Tree} (grows : Extends before after)
    {location target : Location} {parts : List String}
    (walked : before.walk location parts = .ok target) :
    after.walk location parts = .ok target := by
  induction parts generalizing location with
  | nil => simpa using walked
  | cons part parts ih =>
      obtain ⟨next, stepped, onward⟩ := walk_cons_eq_ok.mp walked
      have stays := grows location .folder (folder_of_step stepped)
      have arrives : (before.get? next).isSome = true →
          (after.get? next).isSome = true := by
        intro found
        obtain ⟨entry, stands⟩ := Option.isSome_iff_exists.mp found
        rw [grows next entry stands]
        rfl
      exact walk_cons_eq_ok.mpr
        ⟨next, step_transfer stepped stays arrives, ih onward⟩

/-- A walk that ends in a folder has passed through folders only, so it is
possible as long as no folder is lost. -/
theorem walk_of_keepsFolders {before after : Tree}
    (keeps : KeepsFolders before after) {location target : Location}
    {parts : List String} (walked : before.walk location parts = .ok target)
    (ends : before.get? target = some .folder) :
    after.walk location parts = .ok target := by
  induction parts generalizing location with
  | nil => simpa using walked
  | cons part parts ih =>
      obtain ⟨next, stepped, onward⟩ := walk_cons_eq_ok.mp walked
      have stays := keeps location (folder_of_step stepped)
      have arrived := keeps next (folder_of_walk onward ends)
      exact walk_cons_eq_ok.mpr
        ⟨next, step_transfer stepped stays fun _ => by simp [arrived],
          ih onward⟩

theorem locate_eq_ok_iff {tree : Tree} {here location : Location}
    {path : String} :
    tree.locate here path = .ok location ↔
      refusalOf? path = none ∧
        tree.walk (startOf here path) (partsOf path) = .ok location := by
  rw [locate]
  cases refusalOf? path with
  | none => simp
  | some refusal => simp

theorem locate_of_extends {before after : Tree} (grows : Extends before after)
    {here location : Location} {path : String}
    (located : before.locate here path = .ok location) :
    after.locate here path = .ok location := by
  obtain ⟨accepted, walked⟩ := locate_eq_ok_iff.mp located
  exact locate_eq_ok_iff.mpr ⟨accepted, walk_of_extends grows walked⟩

theorem read_of_extends {before after : Tree} (grows : Extends before after)
    {here : Location} {path : String} {content : ByteArray}
    (reads : before.read here path = .ok content) :
    after.read here path = .ok content := by
  rw [read] at reads
  split at reads
  case h_1 => cases reads
  case h_2 location located =>
      rw [read, locate_of_extends grows located]
      split at reads
      case h_1 stands =>
          obtain rfl := Except.ok.inj reads
          simp [grows location _ stands]
      case h_2 => cases reads
      case h_3 => cases reads

/-! ## The place a path aims at -/

/-- The folder of a path exists and the location is that of the last part in
it, which is an ordinary name and need not exist. -/
def Aims (tree : Tree) (here : Location) (path : String)
    (location : Location) : Prop :=
  ∃ front last folder, partsOf path = front ++ [last] ∧ Ordinary last ∧
    tree.walk (startOf here path) front = .ok folder ∧
      tree.get? folder = some .folder ∧ location = folder ++ [last]

theorem Aims.unique {tree : Tree} {here first second : Location}
    {path : String} (aims : tree.Aims here path first)
    (others : tree.Aims here path second) : first = second := by
  obtain ⟨front, last, folder, parts, -, walked, -, rfl⟩ := aims
  obtain ⟨front', last', folder', parts', -, walked', -, rfl⟩ := others
  obtain ⟨rfl, sameLast⟩ :=
    List.append_inj' (parts.symm.trans parts') rfl
  obtain rfl : folder = folder' := Except.ok.inj (walked.symm.trans walked')
  rw [sameLast]

theorem Aims.of_keepsFolders {before after : Tree}
    (keeps : KeepsFolders before after) {here location : Location}
    {path : String} (aims : before.Aims here path location) :
    after.Aims here path location := by
  obtain ⟨front, last, folder, parts, ordinary, walked, stands, rfl⟩ := aims
  exact ⟨front, last, folder, parts, ordinary,
    walk_of_keepsFolders keeps walked stands, keeps folder stands, rfl⟩

theorem Aims.getLast? {tree : Tree} {here location : Location} {path : String}
    (aims : tree.Aims here path location) :
    location.getLast? = (partsOf path).getLast? := by
  obtain ⟨front, last, folder, parts, -, -, -, rfl⟩ := aims
  simp [parts]

/-- A path whose last part is an ordinary name. -/
def EndsOrdinary (path : String) : Prop :=
  ∃ front last, partsOf path = front ++ [last] ∧ Ordinary last

theorem aims_of_locate {tree : Tree} {here location : Location}
    {path : String} (ends : EndsOrdinary path)
    (located : tree.locate here path = .ok location) :
    tree.Aims here path location ∧
      ∀ last ∈ (partsOf path).getLast?, last.utf8ByteSize ≤ partLimit := by
  obtain ⟨front, last, parts, ordinary⟩ := ends
  have walked := (locate_eq_ok_iff.mp located).2
  rw [parts] at walked
  obtain ⟨folder, walkedFront, stepped⟩ := walk_append_eq_ok.mp walked
  rw [walk_singleton] at stepped
  obtain ⟨stands, short, target, -⟩ := (step_eq_ok_iff ordinary).mp stepped
  refine ⟨⟨front, last, folder, parts, ordinary, walkedFront, stands, target⟩, ?_⟩
  simpa [parts] using short

theorem locate_of_aims {tree : Tree} {here location : Location}
    {path : String} (aims : tree.Aims here path location)
    (accepted : refusalOf? path = none)
    (short : ∀ last ∈ (partsOf path).getLast?, last.utf8ByteSize ≤ partLimit)
    (found : (tree.get? location).isSome = true) :
    tree.locate here path = .ok location := by
  obtain ⟨front, last, folder, parts, ordinary, walked, stands, rfl⟩ := aims
  have shortLast : last.utf8ByteSize ≤ partLimit := short last (by simp [parts])
  rw [locate_eq_ok_iff, parts]
  refine ⟨accepted, walk_append_eq_ok.mpr ⟨folder, walked, ?_⟩⟩
  rw [walk_singleton, step_eq_ok_iff ordinary]
  exact ⟨stands, shortLast, rfl, found⟩

theorem EndsOrdinary.ne_empty {path : String} (ends : EndsOrdinary path) :
    path ≠ "" := by
  rintro rfl
  obtain ⟨front, last, parts, ordinary⟩ := ends
  have single : [""] = front ++ [last] := parts
  have lastEmpty : last = "" := by
    simpa using (congrArg List.getLast? single).symm
  exact ordinary.1 lastEmpty

theorem refusalOf?_ne_notFound {path : String} (nonempty : path ≠ "") :
    refusalOf? path ≠ some .notFound := by
  rw [refusalOf?, if_neg nonempty]
  split
  · simp
  · split
    · simp
    · simp

/-- Where a file with a path may be written: the place the path aims at, which
holds no folder. -/
structure Target (tree : Tree) (here : Location) (path : String)
    (location : Location) : Prop where
  aims : tree.Aims here path location
  accepted : refusalOf? path = none
  short : ∀ last ∈ (partsOf path).getLast?, last.utf8ByteSize ≤ partLimit
  notFolder : tree.get? location ≠ some .folder

/-- A slot is a place for the last part in the folder of the others. -/
theorem slot_eq_ok {tree : Tree} {here location : Location}
    {parts : List String} {path last : String}
    (lastEq : parts.getLast? = some last)
    (slotted : tree.slot here parts path = .ok location) :
    ∃ folder, tree.walk (startOf here path) parts.dropLast = .ok folder ∧
      tree.get? folder = some .folder ∧ last.utf8ByteSize ≤ partLimit ∧
        location = folder ++ [last] := by
  rw [slot, lastEq] at slotted
  dsimp only at slotted
  split at slotted
  case h_1 => cases slotted
  case h_2 folder walked =>
      split at slotted
      case h_1 => cases slotted
      case h_2 => cases slotted
      case h_3 stands =>
          split at slotted
          case isTrue => cases slotted
          case isFalse long =>
              exact ⟨folder, walked, stands, Nat.le_of_not_lt long,
                (Except.ok.inj slotted).symm⟩

theorem target_of_slot {tree : Tree} {here location : Location} {path : String}
    (ends : EndsOrdinary path)
    (missing : tree.locate here path = .error .notFound)
    (slotted : tree.slot here (partsOf path) path = .ok location) :
    tree.Target here path location := by
  have accepted : refusalOf? path = none := by
    cases refused : refusalOf? path with
    | none => rfl
    | some refusal =>
        rw [locate, refused] at missing
        obtain rfl := Except.error.inj missing
        exact absurd refused (refusalOf?_ne_notFound ends.ne_empty)
  obtain ⟨front, last, parts, ordinary⟩ := ends
  have lastEq : (partsOf path).getLast? = some last := by simp [parts]
  obtain ⟨folder, walked, stands, shortLast, rfl⟩ := slot_eq_ok lastEq slotted
  rw [parts, List.dropLast_concat] at walked
  have aims : tree.Aims here path (folder ++ [last]) :=
    ⟨front, last, folder, parts, ordinary, walked, stands, rfl⟩
  have short : ∀ name ∈ (partsOf path).getLast?,
      name.utf8ByteSize ≤ partLimit := by
    simpa [parts] using shortLast
  refine ⟨aims, accepted, short, fun occupied => ?_⟩
  have located := locate_of_aims aims accepted short (by simp [occupied])
  rw [located] at missing
  cases missing

theorem target_of_writeTarget {tree : Tree} {here location : Location}
    {path : String} (ends : EndsOrdinary path)
    (targeted : tree.writeTarget here path = .ok location) :
    tree.Target here path location := by
  rw [writeTarget] at targeted
  split at targeted
  case h_1 found located =>
      split at targeted
      case isTrue => cases targeted
      case isFalse notFolder =>
          obtain rfl := Except.ok.inj targeted
          obtain ⟨aims, short⟩ := aims_of_locate ends located
          exact ⟨aims, (locate_eq_ok_iff.mp located).1, short, notFolder⟩
  case h_2 missing =>
      rw [if_neg ends.ne_empty] at targeted
      exact target_of_slot ends missing targeted
  case h_3 => cases targeted

theorem Target.get?_put {tree : Tree} {here location : Location}
    {path : String} (target : tree.Target here path location)
    (content : ByteArray) (other : Location) :
    (tree.put location (.file content)).get? other =
      if other = location then some (.file content) else tree.get? other :=
  Tree.get?_put tree (ne_root_of_get? target.notFolder) _ other

theorem Target.locate_put {tree : Tree} {here location : Location}
    {path : String} (target : tree.Target here path location)
    (content : ByteArray) :
    (tree.put location (.file content)).locate here path = .ok location := by
  have aims := target.aims.of_keepsFolders
    (keepsFolders_put (.file content) target.notFolder)
  exact locate_of_aims aims target.accepted target.short
    (by simp [target.get?_put])

/-- A file that was written is read back by its path. -/
theorem Target.read_put {tree : Tree} {here location : Location}
    {path : String} (target : tree.Target here path location)
    (content : ByteArray) :
    (tree.put location (.file content)).read here path = .ok content := by
  have stands : (tree.put location (.file content)).get? location =
      some (.file content) := by
    simp [target.get?_put]
  rw [read, target.locate_put]
  simp only [stands]

/-- A path of nothing but a dot leads to no file. -/
theorem read_dot_ne_ok (tree : Tree) (here : Location) (content : ByteArray) :
    tree.read here "." ≠ .ok content := by
  intro reads
  have located : tree.locate here "." = tree.step here "." := by
    rw [← walk_singleton]
    rfl
  rw [read, located, step] at reads
  cases stands : tree.get? here with
  | none => simp [stands] at reads
  | some entry => cases entry <;> simp [stands] at reads

/-- Only the last entry that is put at a location counts. -/
theorem put_put_self (tree : Tree) (location : Location) (entry other : Entry) :
    (tree.put location other).put location entry = tree.put location entry := by
  simp [put, List.filter_filter]

/-! ## Null characters

A path with a null character is refused before the tree is looked at, and no
other path is refused for that reason. -/

theorem refusalOf?_eq_null_iff {path : String} :
    refusalOf? path = some .nullCharacter ↔ '\x00' ∈ path.toList := by
  rw [refusalOf?]
  split
  case isTrue null => simpa using null
  case isFalse noNull =>
      have absent : '\x00' ∉ path.toList := by simpa using noNull
      refine iff_of_false ?_ absent
      split
      · simp
      · split
        · simp
        · simp

theorem step_ne_null (tree : Tree) (location : Location) (part : String) :
    tree.step location part ≠ .error .nullCharacter := by
  rw [step]
  split
  · simp
  · simp
  · repeat' split
    all_goals simp

theorem walk_ne_null (tree : Tree) (location : Location)
    (parts : List String) :
    tree.walk location parts ≠ .error .nullCharacter := by
  induction parts generalizing location with
  | nil => simp
  | cons part parts ih =>
      rw [walk]
      cases stepped : tree.step location part with
      | error refusal =>
          rintro ⟨⟩
          exact tree.step_ne_null location part stepped
      | ok next => exact ih next

theorem locate_eq_null_iff (tree : Tree) (here : Location) (path : String) :
    tree.locate here path = .error .nullCharacter ↔ '\x00' ∈ path.toList := by
  rw [← refusalOf?_eq_null_iff, locate]
  cases refusalOf? path with
  | none => simpa using tree.walk_ne_null (startOf here path) (partsOf path)
  | some refusal => simp

theorem read_eq_null_iff {tree : Tree} {here : Location} {path : String} :
    tree.read here path = .error .nullCharacter ↔ '\x00' ∈ path.toList := by
  rw [← tree.locate_eq_null_iff here path, read]
  cases tree.locate here path with
  | error refusal => simp
  | ok location =>
      refine iff_of_false ?_ nofun
      dsimp only
      split
      · simp
      · simp
      · simp

theorem slot_ne_null (tree : Tree) (here : Location) (parts : List String)
    (path : String) : tree.slot here parts path ≠ .error .nullCharacter := by
  rw [slot]
  split
  · simp
  · split
    case h_1 refusal walked =>
        rintro ⟨⟩
        exact tree.walk_ne_null _ _ walked
    case h_2 =>
        split
        · simp
        · simp
        · split
          · simp
          · simp

theorem writeTarget_eq_null_iff {tree : Tree} {here : Location}
    {path : String} :
    tree.writeTarget here path = .error .nullCharacter ↔
      '\x00' ∈ path.toList := by
  rw [← tree.locate_eq_null_iff here path, writeTarget]
  cases tree.locate here path with
  | ok location =>
      by_cases isFolder : tree.get? location = some .folder
      · simp [isFolder]
      · simp [isFolder]
  | error refusal =>
      cases refusal with
      | notFound =>
          have noSlot := tree.slot_ne_null here (partsOf path) path
          by_cases empty : path = ""
          · simp [empty]
          · cases slotted : tree.slot here (partsOf path) path with
            | error other =>
                rw [slotted] at noSlot
                simpa [empty, slotted] using noSlot
            | ok location => simp [empty]
      | _ => simp

end Tree

/-! ## Refusals of paths

Folders that are missing and contents that are too large are no matter of a
single path. -/

/-- Whether a path alone can be refused so. -/
def Refusal.isOfPath : Refusal → Bool
  | tooDeep => false
  | brokenOff _ _ => false
  | _ => true

namespace Tree

/-- Whatever is refused is refused for the path alone. -/
def RefusesByPath {α : Type} (result : Except Refusal α) : Prop :=
  ∀ refusal, result = .error refusal → refusal.isOfPath = true

theorem RefusesByPath.ok {α : Type} (value : α) :
    RefusesByPath (.ok value : Except Refusal α) :=
  nofun

theorem RefusesByPath.error {α : Type} {refusal : Refusal}
    (ofPath : refusal.isOfPath = true) :
    RefusesByPath (.error refusal : Except Refusal α) := by
  rintro _ ⟨⟩
  exact ofPath

theorem refusalOf?_isOfPath {path : String} {refusal : Refusal}
    (refused : refusalOf? path = some refusal) : refusal.isOfPath = true := by
  rw [refusalOf?] at refused
  split at refused
  · exact Option.some.inj refused ▸ rfl
  split at refused
  · exact Option.some.inj refused ▸ rfl
  split at refused
  · exact Option.some.inj refused ▸ rfl
  · cases refused

theorem step_refusesByPath (tree : Tree) (location : Location)
    (part : String) : RefusesByPath (tree.step location part) := by
  rw [step]
  split
  · exact .error rfl
  · exact .error rfl
  · repeat' split
    all_goals first | exact .ok _ | exact .error rfl

theorem walk_refusesByPath (tree : Tree) (location : Location)
    (parts : List String) : RefusesByPath (tree.walk location parts) := by
  induction parts generalizing location with
  | nil => exact .ok location
  | cons part parts ih =>
      rw [walk]
      cases stepped : tree.step location part with
      | error refusal =>
          exact .error (tree.step_refusesByPath location part refusal stepped)
      | ok next => exact ih next

theorem locate_refusesByPath (tree : Tree) (here : Location) (path : String) :
    RefusesByPath (tree.locate here path) := by
  rw [locate]
  cases refused : refusalOf? path with
  | some refusal => exact .error (refusalOf?_isOfPath refused)
  | none => exact tree.walk_refusesByPath _ _

theorem slot_refusesByPath (tree : Tree) (here : Location)
    (parts : List String) (path : String) :
    RefusesByPath (tree.slot here parts path) := by
  rw [slot]
  split
  · exact .error rfl
  · split
    case h_1 refusal walked =>
        exact .error (tree.walk_refusesByPath _ _ refusal walked)
    case h_2 =>
        split
        · exact .error rfl
        · exact .error rfl
        · split
          · exact .error rfl
          · exact .ok _

theorem writeTarget_refusesByPath (tree : Tree) (here : Location)
    (path : String) : RefusesByPath (tree.writeTarget here path) := by
  rw [writeTarget]
  split
  · split
    · exact .error rfl
    · exact .ok _
  · split
    · exact .error rfl
    · exact tree.slot_refusesByPath here _ path
  case h_3 refusal _ unlocated =>
      exact .error (tree.locate_refusesByPath here path refusal unlocated)

/-- A path is refused by the system unless it holds a null character. -/
theorem writeTarget_isOfSystem {tree : Tree} {here : Location} {path : String}
    {refusal : Refusal} (refused : tree.writeTarget here path = .error refusal) :
    refusal.isOfSystem = true ∨
      refusal = .nullCharacter ∧ '\x00' ∈ path.toList := by
  have ofPath := tree.writeTarget_refusesByPath here path refusal refused
  cases refusal with
  | nullCharacter => exact .inr ⟨rfl, writeTarget_eq_null_iff.mp refused⟩
  | tooDeep => cases ofPath
  | brokenOff number wording => cases ofPath
  | _ => exact .inl rfl

end Tree

end Files

end SwiftInterface
