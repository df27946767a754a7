import SwiftInterface.Proofs.Files.FolderCreation

/-!
# Creating folders again

Creating a chain of folders can report success although the folder asked for
is not there: an existing file above a last part that is a dot is taken for a
folder.  Where the folder is there in the end, the creation has *built* it part
by part, and then all goes as one expects: creating it again changes nothing,
and a file that does not stand in the way can be taken away before the folders
are created, or after it.
-/

namespace SwiftInterface

namespace Files

/-! ## What stands above the last part -/

theorem partsOf_append_slash (first second : List Char) :
    partsOf (String.ofList (first ++ '/' :: second)) =
      partsOf (String.ofList first) ++ partsOf (String.ofList second) := by
  simp only [partsOf, String.toList_ofList, List.splitOn_append_cons_self,
    List.map_append]

/-- The last part that is split off a path holds no slash. -/
theorem exists_rest_of_splitLast {chars : List Char}
    (named : (splitLast chars).2 ≠ []) :
    ∃ rest, chars = (splitLast chars).1 ++ rest ∧ ∃ char ∈ rest, char ≠ '/' := by
  rw [splitLast_eq] at named ⊢
  dsimp only at named ⊢
  obtain ⟨slashes, frontEq⟩ :=
    dropEndSlashes_isFront (chars.rdropWhile (· ≠ '/'))
  refine ⟨slashes ++ chars.rtakeWhile (· ≠ '/'), ?_, ?_⟩
  · rw [← List.append_assoc, frontEq, List.rdropWhile_append_rtakeWhile]
  · obtain ⟨char, charMem⟩ := List.exists_mem_of_ne_nil _ named
    refine ⟨char, List.mem_append_right slashes charMem, ?_⟩
    simpa using List.mem_rtakeWhile_imp charMem

theorem exists_rest_of_splitFolder {chars : List Char}
    (named : (splitFolder chars).2 ≠ []) :
    ∃ rest, chars = (splitFolder chars).1 ++ rest ∧
      ∃ char ∈ rest, char ≠ '/' := by
  rw [splitFolder] at named ⊢
  split at named
  case h_1 folder splitEq =>
      obtain ⟨rest, folderEq, char, charMem, noSlash⟩ :=
        exists_rest_of_splitLast named
      obtain ⟨slashes, charsEq⟩ : folder <+: chars := by
        simpa [splitEq] using splitLast_isFront chars
      refine ⟨rest ++ slashes, ?_, char, ?_, noSlash⟩
      · rw [← List.append_assoc, ← folderEq, charsEq]
      · exact List.mem_append_left slashes charMem
  case h_2 => exact exists_rest_of_splitLast named

theorem eq_slash_of_mem_intercalate {parts : List (List Char)}
    (blank : ∀ part ∈ parts, part = []) :
    ∀ char ∈ ['/'].intercalate parts, char = '/' := by
  induction parts with
  | nil => simp
  | cons part parts ih =>
      obtain rfl : part = [] := blank part (by simp)
      have others := ih fun other otherMem =>
        blank other (List.mem_cons_of_mem [] otherMem)
      cases parts with
      | nil => simp
      | cons next parts =>
          rw [List.intercalate_cons_cons]
          simpa using others

theorem exists_part_of_char {chars : List Char} {char : Char}
    (charMem : char ∈ chars) (noSlash : char ≠ '/') :
    ∃ part ∈ partsOf (String.ofList chars), part ≠ "" := by
  by_contra none
  have blank : ∀ part ∈ chars.splitOn '/', part = [] := by
    intro part partMem
    by_contra named
    refine none ⟨String.ofList part, ?_, by simpa using named⟩
    rw [partsOf, String.toList_ofList]
    exact List.mem_map_of_mem partMem
  have slashes := eq_slash_of_mem_intercalate blank
  rw [List.intercalate_splitOn] at slashes
  exact noSlash (slashes char charMem)

/-- The parts of a path are those of its folder part and others, one of which
names something, unless the folder part is the root. -/
theorem exists_parts_of_splitFolder {chars : List Char}
    (named : (splitFolder chars).2 ≠ []) :
    (∀ char ∈ (splitFolder chars).1, char = '/') ∨
      ∃ rest, partsOf (String.ofList chars) =
          partsOf (String.ofList (splitFolder chars).1) ++ rest ∧
        ∃ part ∈ rest, part ≠ "" := by
  rcases splitFolder_front chars with slashes | ⟨behind, frontEq⟩
  · exact .inl slashes
  · right
    obtain ⟨rest, restEq, char, charMem, noSlash⟩ :=
      exists_rest_of_splitFolder named
    rw [List.append_assoc, List.singleton_append] at frontEq
    obtain rfl : rest = '/' :: behind :=
      List.append_cancel_left (restEq.symm.trans frontEq.symm)
    have inBehind : char ∈ behind := by simpa [noSlash] using charMem
    refine ⟨partsOf (String.ofList behind), ?_,
      exists_part_of_char inBehind noSlash⟩
    rw [← partsOf_append_slash, frontEq]

namespace Tree

theorem refusalOf?_eq_none_iff {path : String} :
    refusalOf? path = none ↔
      '\x00' ∉ path.toList ∧ path ≠ "" ∧ path.utf8ByteSize ≤ pathLimit := by
  unfold refusalOf?
  split
  case isTrue null => simp [List.contains_iff_mem.mp null]
  case isFalse noNull =>
      have absent : '\x00' ∉ path.toList := by simpa using noNull
      split
      case isTrue empty => simp [empty]
      case isFalse nonempty =>
          split
          case isTrue long => simp [Nat.not_le.mpr long]
          case isFalse short => simp [absent, nonempty, Nat.le_of_not_lt short]

theorem refusalOf?_of_front {front chars : List Char} (inside : front <+: chars)
    (named : front ≠ []) (accepted : refusalOf? (String.ofList chars) = none) :
    refusalOf? (String.ofList front) = none := by
  obtain ⟨rest, rfl⟩ := inside
  rw [refusalOf?_eq_none_iff] at accepted ⊢
  obtain ⟨noNull, -, short⟩ := accepted
  rw [String.toList_ofList] at noNull ⊢
  rw [String.ofList_append, String.utf8ByteSize_append] at short
  refine ⟨fun null => noNull (List.mem_append_left rest null), ?_, by omega⟩
  simpa using named

theorem startOf_of_front {front chars : List Char} (inside : front <+: chars)
    (named : front ≠ []) (here : Location) :
    startOf here (String.ofList front) = startOf here (String.ofList chars) := by
  obtain ⟨rest, rfl⟩ := inside
  cases front with
  | nil => exact absurd rfl named
  | cons char front => simp [startOf]

variable {tree : Tree} {here location : Location} {path : String}

theorem isFolder_iff :
    tree.isFolder here path = true ↔
      ∃ location, tree.locate here path = .ok location ∧
        tree.get? location = some .folder := by
  unfold isFolder
  cases tree.locate here path with
  | error refusal => simp
  | ok location => simp

theorem isFolder_of_keepsFolders {before after : Tree}
    (keeps : KeepsFolders before after)
    (isFolder : before.isFolder here path = true) :
    after.isFolder here path = true := by
  obtain ⟨location, located, stands⟩ := isFolder_iff.mp isFolder
  obtain ⟨accepted, walked⟩ := locate_eq_ok_iff.mp located
  refine isFolder_iff.mpr ⟨location, locate_eq_ok_iff.mpr ⟨accepted, ?_⟩,
    keeps location stands⟩
  exact walk_of_keepsFolders keeps walked stands

theorem isFolder_of_all_slashes {chars : List Char}
    (slashes : ∀ char ∈ chars, char = '/')
    (accepted : refusalOf? (String.ofList chars) = none) :
    tree.isFolder here (String.ofList chars) = true := by
  cases chars with
  | nil => simp [refusalOf?] at accepted
  | cons char chars =>
      obtain rfl : char = '/' := slashes char (by simp)
      have start : startOf here (String.ofList ('/' :: chars)) = [] := by
        simp [startOf]
      refine isFolder_iff.mpr ⟨[], locate_eq_ok_iff.mpr ⟨accepted, ?_⟩,
        tree.get?_root⟩
      rw [start]
      exact walk_of_blank tree.get?_root (partsOf_of_all_slashes slashes)

/-- A walk along the parts of the folder part and some more shows that the
folder part is a folder. -/
theorem isFolder_splitFolder_of_walk {chars : List Char} {rest : List String}
    (above : (splitFolder chars).1 ≠ [])
    (accepted : refusalOf? (String.ofList chars) = none)
    (walked : tree.walk (startOf here (String.ofList chars))
      (partsOf (String.ofList (splitFolder chars).1) ++ rest) = .ok location)
    (stands : tree.get? location = some .folder) :
    tree.isFolder here (String.ofList (splitFolder chars).1) = true := by
  have inside := splitFolder_isFront chars
  obtain ⟨middle, walkedFront, onward⟩ := walk_append_eq_ok.mp walked
  refine isFolder_iff.mpr ⟨middle, locate_eq_ok_iff.mpr
    ⟨refusalOf?_of_front inside above accepted, ?_⟩,
    folder_of_walk onward stands⟩
  rw [startOf_of_front inside above]
  exact walkedFront

/-- Above a folder there are folders. -/
theorem isFolder_splitFolder {chars : List Char}
    (above : (splitFolder chars).1 ≠ []) (named : (splitFolder chars).2 ≠ [])
    (isFolder : tree.isFolder here (String.ofList chars) = true) :
    tree.isFolder here (String.ofList (splitFolder chars).1) = true := by
  obtain ⟨location, located, stands⟩ := isFolder_iff.mp isFolder
  obtain ⟨accepted, walked⟩ := locate_eq_ok_iff.mp located
  rcases exists_parts_of_splitFolder named with slashes | ⟨rest, parts, -⟩
  · exact isFolder_of_all_slashes slashes
      (refusalOf?_of_front (splitFolder_isFront chars) above accepted)
  · rw [parts] at walked
    exact isFolder_splitFolder_of_walk above accepted walked stands

/-! ## One folder -/

/-- Where a folder with a path may be made: the place of its last part, an
ordinary name, in the folder of the others. -/
structure Vacant (tree : Tree) (here : Location) (path : String)
    (location : Location) : Prop where
  accepted : refusalOf? path = none
  placed : ∃ folder last, (partsBeforeEnd path).getLast? = some last ∧
    ¬ (last = "." ∨ last = "..") ∧ last.utf8ByteSize ≤ partLimit ∧
      tree.walk (startOf here path) (partsBeforeEnd path).dropLast =
          .ok folder ∧
        tree.get? folder = some .folder ∧ location = folder ++ [last]
  free : tree.get? location = none

theorem Vacant.of_keepsFolders {before after : Tree}
    (vacant : before.Vacant here path location)
    (keeps : KeepsFolders before after)
    (free : after.get? location = none) : after.Vacant here path location := by
  obtain ⟨folder, last, lastEq, named, short, walked, stands, locationEq⟩ :=
    vacant.placed
  exact ⟨vacant.accepted, ⟨folder, last, lastEq, named, short,
    walk_of_keepsFolders keeps walked stands, keeps folder stands, locationEq⟩,
    free⟩

theorem Vacant.ne_root (vacant : tree.Vacant here path location) :
    location ≠ [] := by
  obtain ⟨folder, last, -, -, -, -, -, rfl⟩ := vacant.placed
  simp

theorem slot_of_walk {folder : Location} {parts : List String} {last : String}
    (lastEq : parts.getLast? = some last)
    (walked : tree.walk (startOf here path) parts.dropLast = .ok folder)
    (stands : tree.get? folder = some .folder)
    (short : last.utf8ByteSize ≤ partLimit) :
    tree.slot here parts path = .ok (folder ++ [last]) := by
  rw [slot, lastEq]
  simp only [walked, stands]
  rw [if_neg (Nat.not_lt.mpr short)]

theorem makeFolder_eq_ok_iff {created : Tree} :
    tree.makeFolder here path = .ok created ↔
      ∃ location, tree.Vacant here path location ∧
        created = tree.put location .folder := by
  constructor
  · intro made
    rw [makeFolder] at made
    cases accepted : refusalOf? path with
    | some refusal => simp [accepted] at made
    | none =>
        cases lastEq : (partsBeforeEnd path).getLast? with
        | none => simp [accepted, lastEq] at made
        | some last =>
            cases slotted : tree.slot here (partsBeforeEnd path) path with
            | error refusal => simp [accepted, lastEq, slotted] at made
            | ok location =>
                obtain ⟨folder, walked, stands, short, locationEq⟩ :=
                  slot_eq_ok lastEq slotted
                simp only [accepted, lastEq, slotted] at made
                split at made
                case isTrue => cases made
                case isFalse named =>
                    split at made
                    case isTrue => cases made
                    case isFalse free =>
                        refine ⟨location, ⟨accepted, ⟨folder, last, lastEq,
                          named, short, walked, stands, locationEq⟩, ?_⟩, ?_⟩
                        · simpa using free
                        · exact (Except.ok.inj made).symm
  · rintro ⟨location, ⟨accepted, placed, free⟩, rfl⟩
    obtain ⟨folder, last, lastEq, named, short, walked, stands, rfl⟩ := placed
    have slotted := slot_of_walk lastEq walked stands short
    rw [makeFolder, accepted]
    simp only [lastEq, slotted]
    rw [if_neg named, if_neg (by simp [free])]

/-- The last part before the end of a path is not in front of a part that names
something. -/
theorem exists_dropLast_partsBeforeEnd {front rest : List String}
    (parts : partsOf path = front ++ rest)
    (named : ∃ part ∈ rest, part ≠ "") :
    ∃ others, (partsBeforeEnd path).dropLast = front ++ others := by
  have kept : rest.rdropWhile (· == "") ≠ [] := by
    obtain ⟨part, partMem, partNamed⟩ := named
    rw [ne_eq, List.rdropWhile_eq_nil_iff]
    intro blank
    exact partNamed (by simpa using blank part partMem)
  have keptReverse : ¬ (rest.reverse.dropWhile (· == "")).isEmpty = true := by
    rw [List.isEmpty_iff]
    exact fun none => kept (by rw [List.rdropWhile, none, List.reverse_nil])
  have before : partsBeforeEnd path = front ++ rest.rdropWhile (· == "") := by
    rw [partsBeforeEnd, parts, List.reverse_append, List.dropWhile_append,
      if_neg keptReverse, List.reverse_append, List.reverse_reverse,
      List.rdropWhile]
  exact ⟨_, by rw [before, List.dropLast_append_of_ne_nil kept]⟩

/-- A folder is made inside a folder. -/
theorem Vacant.isFolder_splitFolder {chars : List Char}
    (vacant : tree.Vacant here (String.ofList chars) location)
    (above : (splitFolder chars).1 ≠ []) (named : (splitFolder chars).2 ≠ []) :
    tree.isFolder here (String.ofList (splitFolder chars).1) = true := by
  obtain ⟨folder, last, -, -, -, walked, stands, -⟩ := vacant.placed
  rcases exists_parts_of_splitFolder named with
    slashes | ⟨rest, parts, restNamed⟩
  · exact isFolder_of_all_slashes slashes
      (refusalOf?_of_front (splitFolder_isFront chars) above vacant.accepted)
  · obtain ⟨others, before⟩ := exists_dropLast_partsBeforeEnd parts restNamed
    rw [before] at walked
    exact isFolder_splitFolder_of_walk above vacant.accepted walked stands

/-- A folder that is there cannot be made. -/
theorem makeFolder_of_isFolder (isFolder : tree.isFolder here path = true) :
    ∃ refusal, tree.makeFolder here path = .error refusal := by
  cases made : tree.makeFolder here path with
  | error refusal => exact ⟨refusal, rfl⟩
  | ok created =>
      obtain ⟨location, free, rfl, located⟩ := makeFolder_eq_ok made
      obtain ⟨old, oldLocated, stands⟩ := isFolder_iff.mp isFolder
      have relocated := locate_of_extends (extends_put .folder free) oldLocated
      obtain rfl : old = location :=
        Except.ok.inj (relocated.symm.trans located)
      rw [free] at stands
      cases stands

theorem ensureFolder_eq_ok_iff {after : Tree} :
    tree.ensureFolder here path = (.ok (), after) ↔
      tree.makeFolder here path = .ok after ∨
        tree.isFolder here path = true ∧ after = tree := by
  constructor
  · intro ensured
    rw [ensureFolder] at ensured
    split at ensured
    case h_1 created made =>
        obtain rfl : created = after := congrArg Prod.snd ensured
        exact .inl made
    case h_2 =>
        split at ensured
        case isTrue isFolder =>
            exact .inr ⟨isFolder, (congrArg Prod.snd ensured).symm⟩
        case isFalse => cases congrArg Prod.fst ensured
  · rintro (made | ⟨isFolder, rfl⟩)
    · rw [ensureFolder, made]
    · obtain ⟨refusal, unmade⟩ := makeFolder_of_isFolder isFolder
      rw [ensureFolder, unmade]
      exact if_pos isFolder

theorem isFolder_of_ensureFolder {after : Tree}
    (ensured : tree.ensureFolder here path = (.ok (), after)) :
    after.isFolder here path = true := by
  rcases ensureFolder_eq_ok_iff.mp ensured with made | ⟨isFolder, rfl⟩
  · obtain ⟨location, free, rfl, located⟩ := makeFolder_eq_ok made
    have notFolder : tree.get? location ≠ some .folder := by simp [free]
    refine isFolder_iff.mpr ⟨location, located, ?_⟩
    rw [get?_put tree (ne_root_of_get? notFolder), if_pos rfl]
  · exact isFolder

theorem isFolder_splitFolder_of_ensureFolder {chars : List Char} {after : Tree}
    (above : (splitFolder chars).1 ≠ []) (named : (splitFolder chars).2 ≠ [])
    (ensured : tree.ensureFolder here (String.ofList chars) =
      (.ok (), after)) :
    tree.isFolder here (String.ofList (splitFolder chars).1) = true := by
  rcases ensureFolder_eq_ok_iff.mp ensured with made | ⟨isFolder, rfl⟩
  · obtain ⟨location, vacant, -⟩ := makeFolder_eq_ok_iff.mp made
    exact vacant.isFolder_splitFolder above named
  · exact isFolder_splitFolder above named isFolder

/-! ## Chains of folders -/

/-- A folder and the folders above it are created one after the other, and each
of them is there when the next one is.  The number counts how many folders may
wait for those above them. -/
inductive Builds (here : Location) :
    Nat → List Char → Tree → Tree → Prop
  | direct {room : Nat} {chars : List Char} {before after : Tree}
      (reached : (splitFolder chars).1 ≠ [] → (splitFolder chars).2 ≠ [] →
        before.holds here (String.ofList (splitFolder chars).1) = true)
      (ensured : before.ensureFolder here (String.ofList chars) =
        (.ok (), after)) :
      Builds here room chars before after
  | dotted {room : Nat} {chars : List Char} {before after : Tree}
      (above : (splitFolder chars).1 ≠ [])
      (dot : (splitFolder chars).2 = ['.'])
      (missing : before.holds here (String.ofList (splitFolder chars).1) =
        false)
      (built : Builds here room (splitFolder chars).1 before after)
      (arrived : after.isFolder here (String.ofList chars) = true) :
      Builds here (room + 1) chars before after
  | nested {room : Nat} {chars : List Char} {before middle after : Tree}
      (above : (splitFolder chars).1 ≠ [])
      (named : (splitFolder chars).2 ≠ [])
      (undotted : (splitFolder chars).2 ≠ ['.'])
      (missing : before.holds here (String.ofList (splitFolder chars).1) =
        false)
      (built : Builds here room (splitFolder chars).1 before middle)
      (ensured : middle.ensureFolder here (String.ofList chars) =
        (.ok (), after)) :
      Builds here (room + 1) chars before after

variable {room : Nat} {chars : List Char} {before after : Tree}

theorem Builds.isFolder (built : Builds here room chars before after) :
    after.isFolder here (String.ofList chars) = true := by
  cases built with
  | direct reached ensured => exact isFolder_of_ensureFolder ensured
  | dotted above dot missing built arrived => exact arrived
  | nested above named undotted missing built ensured =>
      exact isFolder_of_ensureFolder ensured

theorem makeFolders_of_builds (built : Builds here room chars before after) :
    makeFolders here room chars before = (.ok (), after) := by
  induction built with
  | direct reached ensured =>
      rw [makeFolders.eq_def]
      dsimp only
      split
      case isTrue => exact ensured
      case isFalse unreached =>
          simp only [Bool.or_eq_true, not_or, List.isEmpty_iff,
            Bool.not_eq_true] at unreached
          obtain ⟨⟨above, named⟩, missing⟩ := unreached
          simp [reached above named] at missing
  | dotted above dot missing built arrived ih =>
      rw [makeFolders]
      simp [above, dot, missing, ih]
  | nested above named undotted missing built ensured ih =>
      rw [makeFolders]
      simp [above, named, undotted, missing, ih, ensured]

theorem holds_of_isFolder (isFolder : tree.isFolder here path = true) :
    tree.holds here path = true := by
  obtain ⟨location, located, -⟩ := isFolder_iff.mp isFolder
  rw [holds, located]

/-- Nothing has to be done for a folder that is there. -/
theorem builds_of_isFolder
    (isFolder : tree.isFolder here (String.ofList chars) = true) (room : Nat) :
    Builds here room chars tree tree := by
  refine .direct (fun above named => ?_) ?_
  · exact holds_of_isFolder (isFolder_splitFolder above named isFolder)
  · exact ensureFolder_eq_ok_iff.mpr (.inr ⟨isFolder, rfl⟩)

theorem createFolder_of_isFolder (isFolder : tree.isFolder here path = true)
    (room : Nat) : tree.createFolder room here path = (.ok (), tree) := by
  rw [← String.ofList_toList (s := path)] at isFolder
  exact makeFolders_of_builds (builds_of_isFolder isFolder room)

/-- What is reported as occupied is no folder. -/
theorem isFolder_of_occupied {error : Error}
    (refused : makeFolders here room chars before = (.error error, after))
    (occupied : error.refusal = .occupied) :
    after.isFolder here (String.ofList chars) = false := by
  have single {tree : Tree}
      (ensured : tree.ensureFolder here (String.ofList chars) =
        (.error error, after)) :
      after.isFolder here (String.ofList chars) = false := by
    rw [ensureFolder] at ensured
    split at ensured
    case h_1 => cases congrArg Prod.fst ensured
    case h_2 =>
        split at ensured
        case isTrue => cases congrArg Prod.fst ensured
        case isFalse noFolder =>
            obtain rfl : tree = after := congrArg Prod.snd ensured
            simpa using noFolder
  rw [makeFolders.eq_def] at refused
  dsimp only at refused
  split at refused
  case isTrue => exact single refused
  case isFalse =>
      split at refused
      case h_1 =>
          obtain rfl := Except.error.inj (congrArg Prod.fst refused)
          cases occupied
      case h_2 =>
          split at refused
          case h_1 =>
              split at refused
              case isTrue => cases congrArg Prod.fst refused
              case isFalse => exact single refused
          case h_2 =>
              split at refused
              case isTrue =>
                  split at refused
                  case isTrue => cases congrArg Prod.fst refused
                  case isFalse => exact single refused
              case isFalse other =>
                  obtain rfl : _ = error :=
                    Except.error.inj (congrArg Prod.fst refused)
                  exact absurd occupied other

theorem builds_of_ensureFolder
    (reached : ((splitFolder chars).1.isEmpty || (splitFolder chars).2.isEmpty ||
      before.holds here (String.ofList (splitFolder chars).1)) = true)
    (ensured : before.ensureFolder here (String.ofList chars) = (.ok (), after))
    (room : Nat) : Builds here room chars before after := by
  refine .direct (fun above named => ?_) ensured
  simpa [above, named] using reached

/-- A creation after which the folder is there has built it. -/
theorem builds_of_makeFolders
    (created : makeFolders here room chars before = (.ok (), after))
    (isFolder : after.isFolder here (String.ofList chars) = true) :
    Builds here room chars before after := by
  induction room generalizing chars after with
  | zero =>
      rw [makeFolders.eq_def] at created
      dsimp only at created
      split at created
      case isTrue reached =>
          exact builds_of_ensureFolder reached created 0
      case isFalse => cases congrArg Prod.fst created
  | succ room ih =>
      rw [makeFolders.eq_def] at created
      dsimp only at created
      split at created
      case isTrue reached =>
          exact builds_of_ensureFolder reached created (room + 1)
      case isFalse unreached =>
          simp only [Bool.or_eq_true, not_or, List.isEmpty_iff,
            Bool.not_eq_true] at unreached
          obtain ⟨⟨above, named⟩, missing⟩ := unreached
          -- Whatever is reported about the folder above, it is there now.
          have onward {middle : Tree}
              (finished : (if (splitFolder chars).2 = ['.'] then
                  (.ok (), middle)
                else middle.ensureFolder here (String.ofList chars)) =
                (.ok (), after)) :
              middle.isFolder here (String.ofList (splitFolder chars).1) =
                true := by
            split at finished
            case isTrue =>
                obtain rfl : middle = after := congrArg Prod.snd finished
                exact isFolder_splitFolder above named isFolder
            case isFalse =>
                exact isFolder_splitFolder_of_ensureFolder above named finished
          split at created
          case h_1 middle madeAbove =>
              have built := ih madeAbove (onward created)
              split at created
              case isTrue dot =>
                  obtain rfl : middle = after := congrArg Prod.snd created
                  exact .dotted above dot missing built isFolder
              case isFalse undotted =>
                  exact .nested above named undotted missing built created
          case h_2 error middle refused =>
              split at created
              case isTrue occupied =>
                  have noFolder := isFolder_of_occupied refused occupied
                  rw [onward created] at noFolder
                  cases noFolder
              case isFalse => cases congrArg Prod.fst created

/-! ## A file taken away first -/

theorem erase_put_of_ne {removed : Location} (different : location ≠ removed)
    (tree : Tree) (entry : Entry) :
    (tree.put location entry).erase removed =
      (tree.erase removed).put location entry := by
  simp only [put, erase]
  rw [List.filter_cons_of_pos (by simpa using different), List.filter_comm]

theorem put_erase_self (tree : Tree) (location : Location) (entry : Entry) :
    (tree.erase location).put location entry = tree.put location entry := by
  simp [put, erase, List.filter_filter]

/-- A path keeps leading to a location if no folder is lost and the location
keeps its entry. -/
theorem locate_of_keepsFolders (keeps : KeepsFolders before after)
    (same : after.get? location = before.get? location)
    (located : before.locate here path = .ok location) :
    after.locate here path = .ok location := by
  obtain ⟨accepted, walked⟩ := locate_eq_ok_iff.mp located
  refine locate_eq_ok_iff.mpr ⟨accepted, ?_⟩
  generalize startOf here path = start at walked ⊢
  generalize partsOf path = parts at walked ⊢
  induction parts generalizing start with
  | nil => simpa using walked
  | cons part parts ih =>
      obtain ⟨next, stepped, onward⟩ := walk_cons_eq_ok.mp walked
      have stays := keeps start (folder_of_step stepped)
      -- The next place is the end of the walk, or a folder on the way.
      have arrives : (before.get? next).isSome = true →
          (after.get? next).isSome = true := by
        cases parts with
        | nil =>
            obtain rfl : next = location := by simpa using onward
            rw [same]
            exact id
        | cons other parts =>
            obtain ⟨_, steppedOn, -⟩ := walk_cons_eq_ok.mp onward
            intro
            rw [keeps next (folder_of_step steppedOn)]
            rfl
      exact walk_cons_eq_ok.mpr
        ⟨next, step_transfer stepped stays arrives, ih next onward⟩

theorem read_eq_ok_iff {content : ByteArray} :
    tree.read here path = .ok content ↔
      ∃ location, tree.locate here path = .ok location ∧
        tree.get? location = some (.file content) := by
  unfold read
  cases tree.locate here path with
  | error refusal => simp
  | ok location =>
      dsimp only
      split
      case h_1 found stands => simp [stands]
      case h_2 stands => simp [stands]
      case h_3 stands => simp [stands]

theorem read_of_keepsFolders {content : ByteArray}
    (keeps : KeepsFolders before after)
    (same : ∀ location, before.locate here path = .ok location →
      before.get? location = some (.file content) →
        after.get? location = some (.file content))
    (reads : before.read here path = .ok content) :
    after.read here path = .ok content := by
  obtain ⟨location, located, stands⟩ := read_eq_ok_iff.mp reads
  have stays := same location located stands
  refine read_eq_ok_iff.mpr ⟨location, ?_, stays⟩
  exact locate_of_keepsFolders keeps (stays.trans stands.symm) located

section Erase

variable {removed : Location} {content : ByteArray}

theorem isFolder_erase (isFile : tree.get? removed = some (.file content))
    (isFolder : tree.isFolder here path = true) :
    (tree.erase removed).isFolder here path = true :=
  isFolder_of_keepsFolders (keepsFolders_erase (ne_folder_of_file isFile))
    isFolder

theorem ensureFolder_erase (isFile : tree.get? removed = some (.file content))
    (ensured : tree.ensureFolder here path = (.ok (), after)) :
    (tree.erase removed).ensureFolder here path =
      (.ok (), after.erase removed) := by
  have notFolder := ne_folder_of_file isFile
  rcases ensureFolder_eq_ok_iff.mp ensured with made | ⟨isFolder, rfl⟩
  · obtain ⟨location, vacant, rfl⟩ := makeFolder_eq_ok_iff.mp made
    have different : location ≠ removed := by
      rintro rfl
      rw [vacant.free] at isFile
      cases isFile
    have free : (tree.erase removed).get? location = none := by
      rw [get?_erase tree (ne_root_of_get? notFolder), if_neg different,
        vacant.free]
    rw [erase_put_of_ne different]
    exact ensureFolder_eq_ok_iff.mpr (.inl (makeFolder_eq_ok_iff.mpr ⟨location,
      vacant.of_keepsFolders (keepsFolders_erase notFolder) free, rfl⟩))
  · exact ensureFolder_eq_ok_iff.mpr
      (.inr ⟨isFolder_erase isFile isFolder, rfl⟩)

/-- If the folder is not made in the place of the file, it can be made while the
file is there. -/
theorem ensureFolder_of_erase
    (isFile : tree.get? removed = some (.file content))
    (ensured : (tree.erase removed).ensureFolder here path = (.ok (), after))
    (free : after.get? removed = none) :
    ∃ grown, tree.ensureFolder here path = (.ok (), grown) ∧
      grown.erase removed = after := by
  have notRoot := ne_root_of_get? (ne_folder_of_file isFile)
  have back : KeepsFolders (tree.erase removed) tree :=
    (erase_extends notRoot).keepsFolders
  rcases ensureFolder_eq_ok_iff.mp ensured with made | ⟨isFolder, rfl⟩
  · obtain ⟨location, vacant, rfl⟩ := makeFolder_eq_ok_iff.mp made
    have vacantFree := vacant.free
    have different : location ≠ removed := by
      rintro rfl
      rw [get?_put _ vacant.ne_root, if_pos rfl] at free
      cases free
    rw [get?_erase tree notRoot, if_neg different] at vacantFree
    refine ⟨tree.put location .folder, ?_, erase_put_of_ne different tree _⟩
    exact ensureFolder_eq_ok_iff.mpr (.inl (makeFolder_eq_ok_iff.mpr
      ⟨location, vacant.of_keepsFolders back vacantFree, rfl⟩))
  · exact ⟨tree, ensureFolder_eq_ok_iff.mpr
      (.inr ⟨isFolder_of_keepsFolders back isFolder, rfl⟩), rfl⟩

theorem Builds.grown (built : Builds here room chars before after) :
    Grown here chars before after := by
  have grown := makeFolders_grown here room chars before
  rwa [makeFolders_of_builds built] at grown

/-- A path that turns out to be a folder did not lead to the file. -/
theorem not_holds_of_erase {later : Tree}
    (isFile : tree.get? removed = some (.file content))
    (missing : (tree.erase removed).holds here path = false)
    (grows : Extends tree later)
    (isFolder : later.isFolder here path = true) :
    tree.holds here path = false := by
  have notFolder := ne_folder_of_file isFile
  obtain ⟨location, located, stands⟩ := isFolder_iff.mp isFolder
  cases before : tree.locate here path with
  | error refusal => rw [holds, before]
  | ok old =>
      obtain rfl : old = location :=
        Except.ok.inj ((locate_of_extends grows before).symm.trans located)
      have different : old ≠ removed := by
        rintro rfl
        rw [grows _ _ isFile] at stands
        cases stands
      have same : (tree.erase removed).get? old = tree.get? old := by
        rw [get?_erase tree (ne_root_of_get? notFolder), if_neg different]
      have relocated := locate_of_keepsFolders (keepsFolders_erase notFolder)
        same before
      rw [holds, relocated] at missing
      cases missing

/-- Folders that are built beside a file are built without it, too. -/
theorem Builds.erase (built : Builds here room chars before after)
    (isFile : before.get? removed = some (.file content)) :
    Builds here room chars (before.erase removed) (after.erase removed) := by
  have notRoot := ne_root_of_get? (ne_folder_of_file isFile)
  have stillMissing {before : Tree} {path : String}
      (missing : before.holds here path = false) :
      (before.erase removed).holds here path = false := by
    cases located : (before.erase removed).locate here path with
    | error refusal => rw [holds, located]
    | ok location =>
        rw [holds, locate_of_extends (erase_extends notRoot) located] at missing
        cases missing
  induction built with
  | direct reached ensured =>
      refine .direct (fun above named => ?_)
        (ensureFolder_erase isFile ensured)
      exact holds_of_isFolder (isFolder_erase isFile
        (isFolder_splitFolder_of_ensureFolder above named ensured))
  | dotted above dot missing built arrived ih =>
      have stillFile := built.grown.grows _ _ isFile
      exact .dotted above dot (stillMissing missing) (ih isFile)
        (isFolder_erase stillFile arrived)
  | nested above named undotted missing built ensured ih =>
      have stillFile := built.grown.grows _ _ isFile
      exact .nested above named undotted (stillMissing missing) (ih isFile)
        (ensureFolder_erase stillFile ensured)

/-- Folders that are built without a file and leave its place free can be built
while it is there. -/
theorem exists_builds_of_erase
    (built : Builds here room chars (tree.erase removed) after)
    (isFile : tree.get? removed = some (.file content))
    (free : after.get? removed = none) :
    ∃ grown, Builds here room chars tree grown ∧ grown.erase removed = after := by
  have notRoot := ne_root_of_get? (ne_folder_of_file isFile)
  have back (grown : Tree) : KeepsFolders (grown.erase removed) grown :=
    (erase_extends notRoot).keepsFolders
  generalize cleared : tree.erase removed = before at built
  induction built with
  | direct reached ensured =>
      subst cleared
      obtain ⟨grown, ensuredBeside, erased⟩ :=
        ensureFolder_of_erase isFile ensured free
      refine ⟨grown, .direct (fun above named => ?_) ensuredBeside,
        erased⟩
      exact holds_of_isFolder
        (isFolder_splitFolder_of_ensureFolder above named ensuredBeside)
  | dotted above dot missing built arrived ih =>
      obtain ⟨grown, builtBeside, rfl⟩ := ih free cleared
      subst cleared
      have isFolder := isFolder_of_keepsFolders (back grown) built.isFolder
      exact ⟨grown, .dotted above dot
        (not_holds_of_erase isFile missing builtBeside.grown.grows isFolder)
        builtBeside (isFolder_of_keepsFolders (back grown) arrived), rfl⟩
  | @nested room chars before middle after above named undotted missing built
      ensured ih =>
      have middleFree : middle.get? removed = none := by
        have grown := middle.ensureFolder_grown here chars
        rw [ensured] at grown
        cases stands : middle.get? removed with
        | none => rfl
        | some entry =>
            rw [grown.grows _ _ stands] at free
            cases free
      obtain ⟨grownAbove, builtBeside, rfl⟩ := ih middleFree cleared
      subst cleared
      have stillFile := builtBeside.grown.grows _ _ isFile
      have isFolder := isFolder_of_keepsFolders (back grownAbove) built.isFolder
      obtain ⟨grown, ensuredBeside, erased⟩ :=
        ensureFolder_of_erase stillFile ensured free
      exact ⟨grown, .nested above named undotted
        (not_holds_of_erase isFile missing builtBeside.grown.grows isFolder)
        builtBeside ensuredBeside, erased⟩

end Erase

end Tree

end Files

end SwiftInterface
