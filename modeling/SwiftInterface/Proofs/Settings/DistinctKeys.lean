import SwiftInterface.Proofs.Settings.Loading

/-!
# Distinct keys

A mapping in a settings file holds each key once: a key that is repeated
replaces the value from before, in JSON as in YAML.  For YAML this is an
invariant of the construction.  All mappings are distinct at every step, for a
mapping starts empty and is filled at once with the entries that are left when
repeated keys have been put together.
-/

namespace SwiftInterface

/-! ## Putting entries together -/

section PutEntry

variable {Key Entry : Type} (same : Key → Key → Bool)

/-- Add an entry, or replace the one whose key is the same. -/
def putEntry (key : Key) (entry : Entry) :
    List (Key × Entry) → List (Key × Entry)
  | [] => [(key, entry)]
  | head :: rest =>
      if same head.1 key then (head.1, entry) :: rest
      else head :: putEntry key entry rest

/-- No two keys are the same. -/
def Apart (entries : List (Key × Entry)) : Prop :=
  entries.Pairwise fun first second => same first.1 second.1 = false

variable {same} {entries : List (Key × Entry)}

theorem key_of_mem_putEntry {key : Key} {entry : Entry} {item : Key × Entry}
    (member : item ∈ putEntry same key entry entries) :
    item.1 = key ∨ ∃ old ∈ entries, item.1 = old.1 := by
  induction entries with
  | nil =>
      rw [putEntry, List.mem_singleton] at member
      subst member
      exact .inl rfl
  | cons head rest ih =>
      rw [putEntry] at member
      split at member
      · rcases List.mem_cons.mp member with rfl | member
        · exact .inr ⟨head, by simp, rfl⟩
        · exact .inr ⟨item, by simp [member], rfl⟩
      · rcases List.mem_cons.mp member with rfl | member
        · exact .inr ⟨item, by simp, rfl⟩
        · rcases ih member with sameKey | ⟨old, oldMember, sameKey⟩
          · exact .inl sameKey
          · exact .inr ⟨old, by simp [oldMember], sameKey⟩

theorem Apart.putEntry (apart : Apart same entries) (key : Key)
    (entry : Entry) :
    Apart same (SwiftInterface.putEntry same key entry entries) := by
  induction entries with
  | nil => exact List.pairwise_singleton _ _
  | cons head rest ih =>
      obtain ⟨first, others⟩ := List.pairwise_cons.mp apart
      rw [SwiftInterface.putEntry]
      split
      case isTrue replaced => exact List.pairwise_cons.mpr ⟨first, others⟩
      case isFalse different =>
          refine List.pairwise_cons.mpr ⟨?_, ih others⟩
          intro item member
          rcases key_of_mem_putEntry member with
            sameKey | ⟨old, oldMember, sameKey⟩
          · rw [sameKey]
            simpa using different
          · rw [sameKey]
            exact first old oldMember

/-- Whatever entries are put together one by one, no key is left twice. -/
theorem Apart.foldl_putEntry (added : List (Key × Entry))
    (apart : Apart same entries) :
    Apart same (added.foldl
      (fun kept item => SwiftInterface.putEntry same item.1 item.2 kept)
      entries) := by
  induction added generalizing entries with
  | nil => exact apart
  | cons item rest ih => exact ih (apart.putEntry item.1 item.2)

theorem Apart.unique (apart : Apart same entries) {key : Key}
    (reflexive : same key key = true) {entry other : Entry}
    (first : (key, entry) ∈ entries) (second : (key, other) ∈ entries) :
    entry = other := by
  induction entries with
  | nil => cases first
  | cons head rest ih =>
      obtain ⟨headApart, others⟩ := List.pairwise_cons.mp apart
      have absent (value : Entry) (isHead : head.1 = key)
          (member : (key, value) ∈ rest) : False := by
        have differs := headApart (key, value) member
        rw [isHead, reflexive] at differs
        cases differs
      rcases List.mem_cons.mp first with rfl | firstLater
      · rcases List.mem_cons.mp second with isSame | secondLater
        · exact (Prod.mk.inj isSame).2.symm
        · exact (absent other rfl secondLater).elim
      · rcases List.mem_cons.mp second with rfl | secondLater
        · exact (absent entry rfl firstLater).elim
        · exact ih others firstLater secondLater

end PutEntry

/-- No two entries of a mapping have the same key. -/
abbrev Value.DistinctKeys (entries : List (Value × Value)) : Prop :=
  Apart Value.sameKey entries

theorem Value.insertEntry_eq (key value : Value)
    (entries : List (Value × Value)) :
    insertEntry key value entries = putEntry sameKey key value entries := by
  induction entries with
  | nil => rfl
  | cons head rest ih => rw [insertEntry, putEntry, ih]

theorem Value.distinctKeys_mappingOf (entries : List (Value × Value)) :
    DistinctKeys (mappingOf entries) := by
  have start : DistinctKeys [] := .nil
  rw [mappingOf]
  simp only [insertEntry_eq]
  exact start.foldl_putEntry entries

/-! ## JSON -/

namespace Json

theorem insertMember_eq (name : String) (value : Json)
    (members : List (String × Json)) :
    insertMember name value members =
      putEntry (fun first second => first == second) name value members := by
  induction members with
  | nil => rfl
  | cons head rest ih =>
      rw [insertMember, putEntry, ih]
      split
      case isTrue replaced => rw [eq_of_beq replaced]
      case isFalse => rfl

/-- The names of an object's members are distinct. -/
def DistinctNames (members : List (String × Json)) : Prop :=
  Apart (fun first second => first == second) members

theorem distinctNames_unifyMembers (members : List (String × Json)) :
    DistinctNames (unifyMembers members) := by
  have start : DistinctNames [] := .nil
  rw [unifyMembers]
  simp only [insertMember_eq]
  exact start.foldl_putEntry members

/-- No word stands for an object. -/
theorem ne_object_of_readWord? {chars rest : List Char} {json : Json}
    (read : readWord? chars = some (json, rest))
    (members : List (String × Json)) : json ≠ .object members := by
  obtain ⟨⟨word, value⟩, member, found⟩ := List.exists_of_findSome?_eq_some read
  dsimp only at found
  split at found
  case isFalse => cases found
  case isTrue =>
      obtain ⟨rfl, -⟩ := Prod.mk.inj (Option.some.inj found)
      rintro rfl
      simp [wordValues] at member

theorem ne_object_of_readNumber {chars rest : List Char} {json : Json}
    (read : readNumber chars = .ok (json, rest))
    (members : List (String × Json)) : json ≠ .object members := by
  unfold readNumber at read
  split at read
  split at read
  case h_1 => cases read
  case h_2 =>
      dsimp only at read
      split at read
      · split at read
        · cases read
        · obtain ⟨rfl, -⟩ := Prod.mk.inj (Except.ok.inj read)
          nofun
      · obtain ⟨rfl, -⟩ := Prod.mk.inj (Except.ok.inj read)
        nofun

/-- The names of an object that is read are distinct. -/
theorem distinctNames_of_readValue {halves : Text.Halves} {room fuel : Nat}
    {chars rest : List Char} {members : List (String × Json)}
    (read : readValue halves room fuel chars = .ok (.object members, rest)) :
    DistinctNames members := by
  cases fuel with
  | zero =>
      rw [readValue] at read
      cases read
  | succ fuel =>
      rw [readValue.eq_def] at read
      dsimp only at read
      split at read
      · obtain ⟨_, _, returned⟩ := exists_of_bind_eq_ok read
        cases returned
      · obtain ⟨inner, -, read⟩ := exists_of_bind_eq_ok read
        split at read
        · cases read
          exact .nil
        · obtain ⟨found, _, returned⟩ := exists_of_bind_eq_ok read
          cases returned
          exact distinctNames_unifyMembers found.1
      · obtain ⟨inner, -, read⟩ := exists_of_bind_eq_ok read
        split at read
        · cases read
        · obtain ⟨_, _, returned⟩ := exists_of_bind_eq_ok read
          cases returned
      · split at read
        case h_1 result found =>
            cases read
            exact absurd rfl (ne_object_of_readWord? found members)
        case h_2 => exact absurd rfl (ne_object_of_readNumber read members)

theorem distinctNames_of_read {machine : Machine} {chars : List Char}
    {members : List (String × Json)}
    (isRead : read machine chars = .ok (.object members)) :
    DistinctNames members := by
  rw [read.eq_def] at isRead
  split at isRead
  case h_1 => cases isRead
  case h_2 =>
      obtain ⟨⟨value, rest⟩, valueRead, ended⟩ := exists_of_bind_eq_ok isRead
      dsimp only at ended
      split at ended
      case h_1 =>
          obtain rfl := Except.ok.inj ended
          exact distinctNames_of_readValue valueRead
      case h_2 => cases ended

end Json

namespace Content

theorem keys_addMembers (collections : Collections)
    (members : List (String × Json)) :
    (addMembers collections members).1.map Prod.fst =
      members.map fun member => .text member.1 := by
  induction members generalizing collections with
  | nil => simp [addMembers]
  | cons member rest ih =>
      obtain ⟨name, json⟩ := member
      simp [addMembers, ih]

/-- The entries of a JSON object have distinct keys. -/
theorem distinctKeys_ofJson {machine : Machine} {json : Json}
    {entries : List (Value × Value)}
    (distinct : ∀ members, json = .object members → Json.DistinctNames members)
    (found : (ofJson machine json).collections.entries?
      (ofJson machine json).root = some entries) :
    Value.DistinctKeys entries := by
  cases json with
  | object members =>
      have entriesEq : (addMembers { machine } members).1 = entries := by
        simpa [ofJson, addJson, Collections.add, Collections.entries?]
          using found
      have keys := keys_addMembers { machine } members
      have apart : (members.map fun member => Value.text member.1).Pairwise
          fun first second => first.sameKey second = false :=
        List.pairwise_map.mpr (distinct members rfl)
      rw [← keys, entriesEq] at apart
      exact List.pairwise_map.mp apart
  | array items =>
      simp [ofJson, addJson, Collections.add, Collections.entries?] at found
  | _ => simp [ofJson, addJson, Collections.entries?] at found

end Content

/-! ## YAML -/

/-- All mappings have distinct keys. -/
def Collections.DistinctKeys (collections : Collections) : Prop :=
  ∀ entries, Collection.mapping entries ∈ collections.places →
    Value.DistinctKeys entries

namespace Collections

variable {collections : Collections} {added : Collection}

/-- A collection that may be put among others: a mapping must have distinct
keys. -/
def Admits (added : Collection) : Prop :=
  ∀ entries, added = .mapping entries → Value.DistinctKeys entries

theorem admits_of_ne (noMapping : ∀ entries, added ≠ .mapping entries) :
    Admits added :=
  fun entries isMapping => absurd isMapping (noMapping entries)

theorem DistinctKeys.add (distinct : collections.DistinctKeys)
    (admits : Admits added) : (collections.add added).2.DistinctKeys := by
  intro entries member
  rcases Array.mem_push.mp member with member | same
  · exact distinct entries member
  · exact admits entries same.symm

theorem DistinctKeys.setIfInBounds (distinct : collections.DistinctKeys)
    (admits : Admits added) (place : Nat) :
    Collections.DistinctKeys
      { collections with
        places := collections.places.setIfInBounds place added } := by
  intro entries member
  rcases Array.mem_or_eq_of_mem_setIfInBounds member with member | same
  · exact distinct entries member
  · exact admits entries same.symm

theorem mem_of_entries? {value : Value} {entries : List (Value × Value)}
    (found : collections.entries? value = some entries) :
    .mapping entries ∈ collections.places := by
  rw [entries?.eq_def] at found
  split at found
  case h_2 => cases found
  case h_1 place =>
      split at found
      case h_2 => cases found
      case h_1 others standing =>
          obtain rfl := Option.some.inj found
          exact Array.mem_of_getElem? standing

end Collections

namespace Yaml

namespace Construct

variable {α β : Type}

theorem exists_of_bind {step : Construct α} {next : α → Construct β}
    {state after : Construction} {result : β}
    (done : (step >>= next) state = .ok (result, after)) :
    ∃ value middle, step state = .ok (value, middle) ∧
      next value middle = .ok (result, after) := by
  obtain ⟨⟨value, middle⟩, first, second⟩ := exists_of_bind_eq_ok done
  exact ⟨value, middle, first, second⟩

/-- All mappings stay distinct if they were before. -/
def Keeps (step : Construct α) : Prop :=
  ∀ state value after, step state = .ok (value, after) →
    state.collections.DistinctKeys → after.collections.DistinctKeys

theorem Keeps.pure (value : α) : Keeps (Pure.pure value) := by
  intro state result after done distinct
  cases done
  exact distinct

theorem Keeps.throw (problem : Problem) :
    Keeps (throw problem : Construct α) := by
  intro state result after done
  cases done

theorem Keeps.get : Keeps (get : Construct Construction) := by
  intro state result after done distinct
  cases done
  exact distinct

theorem Keeps.modify {change : Construction → Construction}
    (keeps : ∀ state, state.collections.DistinctKeys →
      (change state).collections.DistinctKeys) :
    Keeps (modify change : Construct Unit) := by
  intro state result after done distinct
  cases done
  exact keeps state distinct

theorem Keeps.bind {step : Construct α} {next : α → Construct β}
    (keeps : Keeps step) (keepsOn : ∀ value, Keeps (next value)) :
    Keeps (step >>= next) := by
  intro state result after done distinct
  obtain ⟨value, middle, first, second⟩ := exists_of_bind done
  exact keepsOn value middle result after second
    (keeps state value middle first distinct)

theorem Keeps.mapM {step : α → Construct β} (keeps : ∀ item, Keeps (step item))
    (items : List α) : Keeps (items.mapM step) := by
  induction items with
  | nil => exact .pure []
  | cons item rest ih =>
      rw [List.mapM_cons]
      exact (keeps item).bind fun value => ih.bind fun values => .pure _

theorem Keeps.forM {step : α → Construct PUnit}
    (keeps : ∀ item, Keeps (step item)) (items : List α) :
    Keeps (items.forM step) := by
  induction items with
  | nil => exact .pure _
  | cons item rest ih => exact (keeps item).bind fun _ => ih

theorem Keeps.of_except (answer : Except Problem α) :
    Keeps (liftM answer : Construct α) := by
  intro state result after done distinct
  cases answer with
  | error problem => cases done
  | ok value =>
      cases done
      exact distinct

theorem require_keeps (answer : Option α) : Keeps (require answer) := by
  cases answer with
  | some answer => exact .pure answer
  | none => exact .throw _

theorem entriesAt_keeps (place : Nat) : Keeps (entriesAt place) :=
  Keeps.get.bind fun _ => require_keeps _

theorem itemsAt_keeps (place : Nat) : Keeps (itemsAt place) :=
  Keeps.get.bind fun _ => require_keeps _

theorem setEntries_keeps (place : Nat) (entries : List (Nat × Nat)) :
    Keeps (setEntries place entries) :=
  .modify fun _ distinct => distinct

theorem retagDefaults_keeps (entries : List (Nat × Nat)) :
    Keeps (retagDefaults entries) :=
  .modify fun _ distinct => distinct

theorem enter_keeps (room : Nat) : Keeps (enter room) := by
  cases room with
  | zero => exact .throw _
  | succ inner => exact .pure inner

theorem flatten_keeps (room fuel place : Nat) (merged : List (Nat × Nat)) :
    Keeps (flatten room fuel place merged) := by
  induction fuel generalizing room place merged with
  | zero => exact .throw _
  | succ fuel ih =>
      have flattened (part : Nat) : Keeps (do
          let _ ← entriesAt part
          let inner ← enter room
          flatten inner fuel part []
          entriesAt part) := by
        refine (entriesAt_keeps part).bind fun _ => ?_
        refine (enter_keeps room).bind fun inner => ?_
        exact (ih inner part []).bind fun _ => entriesAt_keeps part
      rw [flatten]
      refine (entriesAt_keeps place).bind fun entries => ?_
      refine Keeps.get.bind fun state => ?_
      split
      · exact (retagDefaults_keeps entries).bind fun _ => setEntries_keeps _ _
      · refine (setEntries_keeps place _).bind fun _ => ?_
        refine Keeps.get.bind fun next => ?_
        split
        · refine (Keeps.mapM flattened _).bind fun parts => ?_
          exact (Keeps.pure _).bind fun added => ih room place _
        · exact (flattened _).bind fun added => ih room place _

theorem scalarOf_keeps (place : Nat) (tag : Tag) :
    Keeps (scalarOf place tag) := by
  refine Keeps.get.bind fun state => ?_
  refine Keeps.get.bind fun again => ?_
  refine (Keeps.of_except _).bind fun text => ?_
  have checked {rest : Construct Value} (kept : Keeps rest) : Keeps (do
      if tag = .timestamp ∧ (state.nodes.entriesAt? place).isSome then
        throw (.fault .timeOfCollection)
      rest) := by
    split
    · exact (Keeps.throw _).bind fun _ => kept
    · exact kept
  apply checked
  split
  · exact .pure _
  · exact .throw _

/-- A collection starts without entries. -/
theorem startCollection_keeps (node : Nat) (filling : Filling) :
    Keeps (startCollection node filling) := by
  have admits : Collections.Admits filling.start := by
    intro entries isMapping
    cases filling with
    | mapping =>
        cases isMapping
        exact .nil
    | _ => cases isMapping
  intro state value after done distinct
  cases done
  exact distinct.add admits

theorem valueOf_keeps (place : Nat) : Keeps (valueOf place) := by
  have recorded (value : Value) : Keeps (do
      modify fun after : Construction =>
        { after with built := after.built.setIfInBounds place (some value) }
      return value : Construct Value) := by
    refine Keeps.bind ?_ fun _ => .pure value
    exact .modify fun _ distinct => distinct
  refine Keeps.get.bind fun state => ?_
  split
  · exact .pure _
  · refine (require_keeps _).bind fun tag => ?_
    split
    · exact (startCollection_keeps place _).bind recorded
    · split
      · exact (scalarOf_keeps place tag).bind recorded
      · exact (Keeps.throw _).bind recorded

theorem entryOf_keeps (entry : Nat × Nat) : Keeps (entryOf entry) := by
  refine (valueOf_keeps entry.1).bind fun key => ?_
  have others : Keeps (do
      let value ← valueOf entry.2
      return (key, value)) :=
    (valueOf_keeps entry.2).bind fun value => .pure _
  split
  · exact (Keeps.throw _).bind fun _ => others
  · exact others

theorem pairOf_keeps (place : Nat) : Keeps (pairOf place) := by
  refine (entriesAt_keeps place).bind fun entries => ?_
  split
  · refine (valueOf_keeps _).bind fun first => ?_
    refine (valueOf_keeps _).bind fun second => ?_
    intro state value after done distinct
    cases done
    exact distinct.add (Collections.admits_of_ne (by simp))
  · exact .throw _

theorem finish_keeps {filled : Collection}
    (admits : Collections.Admits filled) (place : Nat) :
    Keeps (finish place filled) :=
  .modify fun _ distinct => distinct.setIfInBounds admits place

theorem mappingEntries_keeps (place : Nat) : Keeps (mappingEntries place) := by
  refine (entriesAt_keeps place).bind fun _ => ?_
  refine Keeps.get.bind fun state => ?_
  refine (flatten_keeps _ _ place []).bind fun _ => ?_
  refine (entriesAt_keeps place).bind fun entries => ?_
  exact (Keeps.mapM entryOf_keeps entries).bind fun _ => .pure _

theorem mappingEntries_distinct {place : Nat} {state after : Construction}
    {entries : List (Value × Value)}
    (done : mappingEntries place state = .ok (entries, after)) :
    Value.DistinctKeys entries := by
  obtain ⟨_, _, -, done⟩ := exists_of_bind done
  obtain ⟨_, _, -, done⟩ := exists_of_bind done
  obtain ⟨_, _, -, done⟩ := exists_of_bind done
  obtain ⟨_, _, -, done⟩ := exists_of_bind done
  obtain ⟨_, _, -, returned⟩ := exists_of_bind done
  cases returned
  exact Value.distinctKeys_mappingOf _

/-- A collection is filled with what may be put there. -/
theorem fill_keeps (job : Job) : Keeps (fill job) := by
  rw [fill.eq_def]
  split
  · refine (itemsAt_keeps _).bind fun items => ?_
    refine (Keeps.mapM valueOf_keeps items).bind fun _ => ?_
    exact finish_keeps (Collections.admits_of_ne (by simp)) _
  · refine (itemsAt_keeps _).bind fun items => ?_
    refine (Keeps.mapM pairOf_keeps items).bind fun _ => ?_
    exact finish_keeps (Collections.admits_of_ne (by simp)) _
  · intro state value after done distinct
    obtain ⟨entries, middle, first, second⟩ := exists_of_bind done
    have admits : Collections.Admits (.mapping entries) := by
      rintro _ ⟨⟩
      exact mappingEntries_distinct first
    exact finish_keeps admits _ middle value after second
      (mappingEntries_keeps _ _ _ _ first distinct)
  · refine (mappingEntries_keeps _).bind fun _ => ?_
    exact finish_keeps (Collections.admits_of_ne (by simp)) _

theorem fillAll_keeps (fuel : Nat) : Keeps (fillAll fuel) := by
  induction fuel with
  | zero => exact .throw _
  | succ fuel ih =>
      have filled (jobs : List Job) : Keeps (do
          jobs.forM fill
          fillAll fuel) :=
        (Keeps.forM fill_keeps jobs).bind fun _ => ih
      intro state value after done distinct
      rw [fillAll] at done
      obtain ⟨_, _, got, done⟩ := exists_of_bind done
      cases got
      split at done
      · cases done
        exact distinct
      · obtain ⟨_, _, isSet, done⟩ := exists_of_bind done
        cases isSet
        exact filled _ _ _ _ done distinct

end Construct

/-- The mappings of a document have distinct keys. -/
theorem distinctKeys_of_read {machine : Machine} {chars : List Char}
    {content : Content} (isRead : read machine chars = .ok content) :
    content.collections.DistinctKeys := by
  obtain ⟨⟨root, nodes⟩, -, built⟩ := exists_of_bind_eq_ok isRead
  cases root with
  | none =>
      obtain rfl := Except.ok.inj built
      intro entries member
      cases member
      contradiction
  | some root =>
      obtain ⟨⟨value, state⟩, constructed, returned⟩ :=
        exists_of_bind_eq_ok built
      obtain rfl := Except.ok.inj returned
      have keeps : Construct.Keeps (do
          let value ← Construct.valueOf root
          Construct.fillAll (nodes.size + 2)
          return value) :=
        (Construct.valueOf_keeps root).bind fun value =>
          (Construct.fillAll_keeps _).bind fun _ => .pure value
      apply keeps _ _ _ constructed
      intro entries member
      simp at member

end Yaml

/-! ## Settings files -/

namespace Settings

open Run

theorem distinctKeys_of_parse {machine : Machine} {path text : String}
    {content : Content} {entries : List (Value × Value)}
    (parsed : parse machine path text = .ok content)
    (found : content.collections.entries? content.root = some entries) :
    Value.DistinctKeys entries := by
  rw [parse] at parsed
  split at parsed
  · split at parsed
    case h_1 json isRead =>
        obtain rfl := Except.ok.inj parsed
        refine Content.distinctKeys_ofJson ?_ found
        rintro members rfl
        exact Json.distinctNames_of_read isRead
    all_goals cases parsed
  · split at parsed
    case h_1 document isRead =>
        obtain rfl := Except.ok.inj parsed
        have distinct := Yaml.distinctKeys_of_read isRead
        exact distinct entries (Collections.mem_of_entries? found)
    case h_2 => cases parsed
    case h_3 => cases parsed

theorem distinctKeys_of_entriesOf {content : Content}
    {entries : List (Value × Value)}
    (distinct : ∀ entries,
      content.collections.entries? content.root = some entries →
        Value.DistinctKeys entries)
    (found : entriesOf content = .ok entries) :
    Value.DistinctKeys entries := by
  rw [entriesOf.eq_def] at found
  split at found
  · obtain rfl := Except.ok.inj found
    exact .nil
  · split at found
    case h_1 collections root _ others isMapping =>
        obtain rfl := Except.ok.inj found
        exact distinct _ isMapping
    case h_2 => cases found

/-- Whatever file is read, its entries have distinct keys. -/
theorem distinctKeys_of_readEntries {path : String} {world : World}
    {collections : Collections} {entries : List (Value × Value)}
    (isRead : (readEntries path).result world = .ok (collections, entries)) :
    Value.DistinctKeys entries := by
  rw [readEntries_result] at isRead
  obtain ⟨content, readContent, isRead⟩ := exists_of_bind_eq_ok isRead
  obtain ⟨others, found, returned⟩ := exists_of_bind_eq_ok isRead
  cases returned
  obtain ⟨bytes, -, decoded⟩ := exists_of_bind_eq_ok readContent
  split at decoded
  case h_1 => cases decoded
  case h_2 text _ =>
      refine distinctKeys_of_entriesOf (fun entries isMapping => ?_) found
      exact distinctKeys_of_parse decoded isMapping

end Settings

end SwiftInterface
