import Mathlib.Data.List.Forall2
import Mathlib.Logic.Relation
import SwiftInterface.Declaration.Dump
import SwiftInterface.Proofs.Lookup

/-!
# What a declaration is read from

Reading a declaration passes over members with other names, over members whose
value has another type, and over nested values that are no objects.  Removing
all of these changes nothing that is read, and it leaves nothing that could be
removed besides: two objects give the same declaration exactly when what remains
of them differs in the order of members and in empty arrays of nested
declarations only.

The way there leads through the object a declaration is written as.  What remains
of an object can be rearranged into the object written for the declaration that
is read from it, so objects with the same declaration can be rearranged into each
other.
-/

namespace SwiftInterface

namespace Declaration

/-! ## Cleaning -/

/-- The members that hold texts. -/
def textKeys : List String :=
  [kindKey, nameKey, accessibilityKey, documentationKey, signatureKey]

mutual

/-- What remains of the members of an object.  A member that stands after one of
its name is never looked at and goes as well. -/
def cleanMembers : List (String × Json) → List (String × Json)
  | [] => []
  | (name, value) :: rest =>
      (cleanValue? name value).toList.map (fun cleaned => (name, cleaned)) ++
        (cleanMembers rest).filter fun member => member.1 ≠ name
termination_by structural members => members

/-- What remains of the value of a member: a text under a name for texts, and an
array under the name for nested declarations. -/
def cleanValue? (name : String) : Json → Option Json
  | .string text => if name ∈ textKeys then some (.string text) else none
  | .array items =>
      if name = childrenKey then some (.array (cleanItems items)) else none
  | _ => none
termination_by structural json => json

/-- What remains of an item of an array: only objects do. -/
def cleanItem? : Json → Option Json
  | .object members => some (.object (cleanMembers members))
  | _ => none
termination_by structural json => json

/-- What remains of the items of an array. -/
def cleanItems : List Json → List Json
  | [] => []
  | item :: rest => (cleanItem? item).toList ++ cleanItems rest
termination_by structural items => items

end

/-- What remains of one member. -/
def cleanMember? (member : String × Json) : Option (String × Json) :=
  (cleanValue? member.1 member.2).map fun cleaned => (member.1, cleaned)

theorem cleanMembers_cons (member : String × Json)
    (rest : List (String × Json)) :
    cleanMembers (member :: rest) = (cleanMember? member).toList ++
      (cleanMembers rest).filter fun other => other.1 ≠ member.1 := by
  rw [cleanMembers, cleanMember?]
  cases cleanValue? member.1 member.2 <;> rfl

theorem distinct_cleanMembers (members : List (String × Json)) :
    ((cleanMembers members).map Prod.fst).Nodup := by
  induction members with
  | nil => exact List.nodup_nil
  | cons member rest ih =>
      have others : (((cleanMembers rest).filter
          fun other => other.1 ≠ member.1).map Prod.fst).Nodup :=
        ih.sublist (List.filter_sublist.map Prod.fst)
      rw [cleanMembers_cons, cleanMember?]
      cases cleanValue? member.1 member.2 with
      | none => exact others
      | some cleaned =>
          simp only [Option.map_some, Option.toList_some, List.singleton_append,
            List.map_cons, List.nodup_cons]
          exact ⟨lookup_eq_none_iff_not_mem.mp (lookup_filter_self _ _), others⟩

/-- A name finds what remains of the value that it finds before cleaning. -/
theorem lookup_cleanMembers (name : String) (members : List (String × Json)) :
    (cleanMembers members).lookup name =
      (members.lookup name).bind (cleanValue? name) := by
  induction members with
  | nil => rfl
  | cons member rest ih =>
      obtain ⟨head, value⟩ := member
      rw [cleanMembers_cons, List.lookup_append, cleanMember?]
      by_cases same : name = head
      · subst same
        rw [lookup_filter_self, List.lookup_cons_self, Option.or_none,
          Option.bind_some]
        cases cleanValue? name value with
        | none => rfl
        | some cleaned => exact List.lookup_cons_self
      · rw [lookup_filter_ne same, lookup_cons_of_ne same, ih]
        cases cleanValue? head value with
        | none => rfl
        | some cleaned =>
            rw [Option.map_some, Option.toList_some,
              lookup_cons_of_ne same]
            rfl

theorem not_mem_cleanMembers_names {name : String}
    {members : List (String × Json)} (absent : name ∉ members.map Prod.fst) :
    name ∉ (cleanMembers members).map Prod.fst := by
  rw [← lookup_eq_none_iff_not_mem] at absent ⊢
  rw [lookup_cleanMembers, absent]
  rfl

/-- In an object with distinct names each member is cleaned by itself. -/
theorem cleanMembers_eq_filterMap {members : List (String × Json)}
    (distinct : (members.map Prod.fst).Nodup) :
    cleanMembers members = members.filterMap cleanMember? := by
  induction members with
  | nil => rfl
  | cons member rest ih =>
      rw [List.map_cons, List.nodup_cons] at distinct
      have unshadowed : (cleanMembers rest).filter
          (fun other => other.1 ≠ member.1) = cleanMembers rest := by
        rw [List.filter_eq_self]
        intro other remains
        rw [decide_eq_true_iff]
        intro sameName
        exact not_mem_cleanMembers_names distinct.1
          (List.mem_map.mpr ⟨other, remains, sameName⟩)
      rw [cleanMembers_cons, unshadowed, ih distinct.2, List.filterMap_cons]
      cases cleanMember? member <;> rfl

example :
    cleanMembers
        [ (nameKey, .string "Lamp"), (kindKey, .int 3), ("key.offset", .int 0),
          (childrenKey, .array [.null, .object [(nameKey, .null)]]) ] =
      [(nameKey, .string "Lamp"), (childrenKey, .array [.object []])] :=
  rfl

theorem cleanItems_eq_filterMap (items : List Json) :
    cleanItems items = items.filterMap cleanItem? := by
  induction items with
  | nil => rfl
  | cons item items ih =>
      rw [cleanItems, ih, List.filterMap_cons]
      cases cleanItem? item <;> rfl

theorem ofItems_eq_filterMap (items : List Json) :
    ofItems items = items.filterMap ofJson? := by
  induction items with
  | nil => rfl
  | cons item items ih =>
      rw [ofItems, ih, List.filterMap_cons]
      cases ofJson? item <;> rfl

theorem childrenOfMembers_eq (members : List (String × Json)) :
    childrenOfMembers members =
      ((members.lookup childrenKey).map childrenOfValue).getD [] := by
  induction members with
  | nil => rfl
  | cons member rest ih =>
      obtain ⟨name, value⟩ := member
      rw [childrenOfMembers]
      by_cases same : childrenKey = name
      · subst same
        rw [List.lookup_cons_self, if_pos (beq_self_eq_true _)]
        rfl
      · rw [lookup_cons_of_ne same, ih,
          if_neg (by simpa using Ne.symm same)]

/-- What holds of an object when it holds of the objects nested in it holds of
all objects. -/
theorem objectInduction {motive : List (String × Json) → Prop}
    (step : ∀ members,
      (∀ items, members.lookup childrenKey = some (.array items) →
        ∀ nested, Json.object nested ∈ items → motive nested) →
      motive members) (members : List (String × Json)) : motive members := by
  apply step
  intro items found nested inItems
  exact objectInduction step nested
-- The definitions recurse through the values of other members as well, but those
-- are never read, so a nested object is reached in one step.
termination_by sizeOf members
decreasing_by
  have inMembers := List.sizeOf_lt_of_mem (mem_of_lookup found)
  have inArray := List.sizeOf_lt_of_mem inItems
  simp only [Prod.mk.sizeOf_spec, Json.array.sizeOf_spec,
    Json.object.sizeOf_spec] at inMembers inArray
  omega

/-! ## Cleaning changes nothing that is read -/

theorem textMember_eq (name : String) (members : List (String × Json)) :
    textMember name members = (members.lookup name).bind Json.text? :=
  rfl

/-- A declaration is read from the texts and the nested declarations only. -/
theorem ofJson?_object_eq {first second : List (String × Json)}
    (texts : ∀ name ∈ textKeys, textMember name first = textMember name second)
    (children : childrenOfMembers first = childrenOfMembers second) :
    ofJson? (.object first) = ofJson? (.object second) := by
  simp only [textKeys, List.forall_mem_cons] at texts
  obtain ⟨kind, name, accessibility, documentation, signature, -⟩ := texts
  rw [ofJson?, ofJson?, kind, name, accessibility, documentation, signature,
    children]

theorem childrenKey_not_mem_textKeys : childrenKey ∉ textKeys := by
  decide

theorem ne_childrenKey_of_text {name : String} (isText : name ∈ textKeys) :
    name ≠ childrenKey := by
  rintro rfl
  exact childrenKey_not_mem_textKeys isText

theorem bind_cleanValue?_of_text {name : String} (isText : name ∈ textKeys)
    (found : Option Json) :
    found.bind (cleanValue? name) = (found.bind Json.text?).map .string := by
  have notChildren := ne_childrenKey_of_text isText
  cases found with
  | none => rfl
  | some value =>
      cases value with
      | string text => simp [cleanValue?, isText, Json.text?]
      | array items => simp [cleanValue?, notChildren, Json.text?]
      | _ => rfl

theorem textMember_cleanMembers {name : String} (isText : name ∈ textKeys)
    (members : List (String × Json)) :
    textMember name (cleanMembers members) = textMember name members := by
  rw [textMember_eq, lookup_cleanMembers, bind_cleanValue?_of_text isText,
    ← textMember_eq]
  cases textMember name members <;> rfl

theorem bind_cleanValue?_childrenKey (found : Option Json) :
    (∃ items, found = some (.array items) ∧
      found.bind (cleanValue? childrenKey) =
        some (.array (cleanItems items))) ∨
    (found.map childrenOfValue).getD [] = [] ∧
      found.bind (cleanValue? childrenKey) = none := by
  cases found with
  | none => exact .inr ⟨rfl, rfl⟩
  | some value =>
      cases value with
      | array items => exact .inl ⟨items, rfl, by simp [cleanValue?]⟩
      | string text =>
          exact .inr ⟨rfl, by
            simp [cleanValue?, childrenKey_not_mem_textKeys]⟩
      | _ => exact .inr ⟨rfl, rfl⟩

theorem ofItems_cleanItems {items : List Json}
    (nested : ∀ members, Json.object members ∈ items →
      ofJson? (.object (cleanMembers members)) = ofJson? (.object members)) :
    ofItems (cleanItems items) = ofItems items := by
  rw [ofItems_eq_filterMap, cleanItems_eq_filterMap, List.filterMap_filterMap,
    ofItems_eq_filterMap]
  refine List.filterMap_congr fun item inItems => ?_
  cases item with
  | object members => exact nested members inItems
  | _ => rfl

theorem ofJson?_cleanMembers (members : List (String × Json)) :
    ofJson? (.object (cleanMembers members)) = ofJson? (.object members) := by
  induction members using objectInduction with
  | step members ih =>
      refine ofJson?_object_eq
        (fun name isText => textMember_cleanMembers isText members) ?_
      rw [childrenOfMembers_eq, childrenOfMembers_eq, lookup_cleanMembers]
      obtain ⟨items, found, cleaned⟩ | ⟨noChildren, cleaned⟩ :=
        bind_cleanValue?_childrenKey (members.lookup childrenKey)
      · rw [cleaned, found]
        exact ofItems_cleanItems (ih items found)
      · rw [cleaned, noChildren]
        rfl

/-! ## Rearranging -/

/-- An object with nested declarations among its members. -/
def withChildren (before : List (String × Json)) (items : List Json)
    (after : List (String × Json)) : Json :=
  .object (before ++ (childrenKey, .array items) :: after)

/-- One change that concerns only the order of members or an empty array of
nested declarations, in an object or anywhere below it. -/
inductive Rearrangement : Json → Json → Prop
  | reorder {first second : List (String × Json)}
      (distinct : (first.map Prod.fst).Nodup) (same : first.Perm second) :
      Rearrangement (.object first) (.object second)
  | dropEmpty {before after : List (String × Json)}
      (only : childrenKey ∉ (before ++ after).map Prod.fst) :
      Rearrangement (withChildren before [] after) (.object (before ++ after))
  | nested {before after : List (String × Json)} {earlier later : List Json}
      {item changed : Json} (change : Rearrangement item changed) :
      Rearrangement (withChildren before (earlier ++ item :: later) after)
        (withChildren before (earlier ++ changed :: later) after)

/-- Equality up to the order of members and up to empty arrays of nested
declarations. -/
def Rearranged : Json → Json → Prop :=
  Relation.EqvGen Rearrangement

theorem textMember_withChildren {name : String} (isText : name ∈ textKeys)
    (before after : List (String × Json)) (items : Json) :
    textMember name (before ++ (childrenKey, items) :: after) =
      textMember name (before ++ after) := by
  have notChildren := ne_childrenKey_of_text isText
  rw [textMember_eq, List.lookup_append, lookup_cons_of_ne notChildren,
    ← List.lookup_append, textMember_eq]

theorem childrenOfMembers_withChildren (before after : List (String × Json))
    (items : List Json) :
    childrenOfMembers (before ++ (childrenKey, .array items) :: after) =
      ((before.lookup childrenKey).map childrenOfValue).getD
        (ofItems items) := by
  rw [childrenOfMembers_eq, List.lookup_append, List.lookup_cons_self]
  cases before.lookup childrenKey <;> rfl

/-- One change leaves the declaration that is read as it is. -/
theorem Rearrangement.ofJson?_eq {first second : Json}
    (change : Rearrangement first second) : ofJson? first = ofJson? second := by
  induction change with
  | reorder distinct same =>
      have alike := lookup_eq_of_perm distinct same
      refine ofJson?_object_eq (fun name _ => ?_) ?_
      · rw [textMember_eq, textMember_eq, alike]
      · rw [childrenOfMembers_eq, childrenOfMembers_eq, alike]
  | @dropEmpty before after only =>
      have absent := lookup_eq_none_iff_not_mem.mpr only
      refine ofJson?_object_eq
        (fun name isText => textMember_withChildren isText before after _) ?_
      rw [childrenOfMembers_withChildren, childrenOfMembers_eq, absent]
      rw [List.lookup_append, Option.or_eq_none_iff] at absent
      rw [absent.1]
      rfl
  | @nested before after earlier later item changed _ ih =>
      refine ofJson?_object_eq (fun name isText => ?_) ?_
      · rw [textMember_withChildren isText, textMember_withChildren isText]
      · have itemsEq : ofItems (earlier ++ item :: later) =
            ofItems (earlier ++ changed :: later) := by
          simp only [ofItems_eq_filterMap, List.filterMap_append,
            List.filterMap_cons, ih]
        rw [childrenOfMembers_withChildren, childrenOfMembers_withChildren,
          itemsEq]

theorem Rearranged.ofJson?_eq {first second : Json}
    (rearranged : Rearranged first second) :
    ofJson? first = ofJson? second := by
  induction rearranged with
  | rel first second change => exact change.ofJson?_eq
  | refl json => rfl
  | symm first second _ ih => exact ih.symm
  | trans first second third _ _ ih ih' => exact ih.trans ih'

theorem Rearranged.item {item changed : Json}
    (rearranged : Rearranged item changed) (before after : List (String × Json))
    (earlier later : List Json) :
    Rearranged (withChildren before (earlier ++ item :: later) after)
      (withChildren before (earlier ++ changed :: later) after) := by
  induction rearranged with
  | rel item changed change => exact .rel _ _ (.nested change)
  | refl item => exact .refl _
  | symm item changed _ ih => exact .symm _ _ ih
  | trans item between changed _ _ ih ih' => exact .trans _ _ _ ih ih'

/-- Nested declarations can be rearranged one after the other; those that have
been dealt with stand in front. -/
theorem Rearranged.items {items changed : List Json}
    (each : List.Forall₂ Rearranged items changed)
    (before after : List (String × Json)) (done : List Json) :
    Rearranged (withChildren before (done ++ items) after)
      (withChildren before (done ++ changed) after) := by
  induction each generalizing done with
  | nil => exact .refl _
  | @cons item changed items changedItems first _ ih =>
      have others := ih (done ++ [changed])
      rw [List.append_assoc, List.append_assoc] at others
      exact .trans _ _ _ (first.item before after done items) others

/-! ## Writing a declaration -/

/-- The texts of a declaration under their names. -/
def texts (declaration : Declaration) : List (String × Option String) :=
  [ (kindKey, declaration.kind),
    (nameKey, declaration.name),
    (accessibilityKey, declaration.accessibility),
    (documentationKey, declaration.documentation),
    (signatureKey, declaration.signature) ]

/-- The member for a text; an absent text has none. -/
def writtenText? (text : String × Option String) : Option (String × Json) :=
  text.2.map fun chars => (text.1, .string chars)

mutual

/-- The members that a declaration is written as. -/
def toMembers : Declaration → List (String × Json)
  | declaration@⟨_, _, _, _, _, children⟩ =>
      declaration.texts.filterMap writtenText? ++
        [(childrenKey, .array (toItems children))]
termination_by structural declaration => declaration

/-- The objects that declarations are written as. -/
def toItems : List Declaration → List Json
  | [] => []
  | declaration :: rest => .object (toMembers declaration) :: toItems rest
termination_by structural declarations => declarations

end

/-- What remains of the member that a name finds. -/
def remaining? (members : List (String × Json)) (name : String) :
    Option (String × Json) :=
  ((members.lookup name).bind (cleanValue? name)).map
    fun cleaned => (name, cleaned)

theorem remaining?_eq_some_iff {members : List (String × Json)} {name : String}
    {member : String × Json} :
    remaining? members name = some member ↔
      member.1 = name ∧ member ∈ cleanMembers members := by
  obtain ⟨memberName, value⟩ := member
  rw [remaining?, ← lookup_cleanMembers, Option.map_eq_some_iff]
  constructor
  · rintro ⟨_, found, memberEq⟩
    cases memberEq
    exact ⟨rfl, mem_of_lookup found⟩
  · rintro ⟨rfl, remains⟩
    exact ⟨value, (lookup_eq_some_iff_mem
      (distinct_cleanMembers members)).mpr remains, rfl⟩

theorem mem_keys_of_cleanValue? {name : String} {value cleaned : Json}
    (remains : cleanValue? name value = some cleaned) :
    name ∈ textKeys ++ [childrenKey] := by
  cases value with
  | string text =>
      rw [cleanValue?, Option.ite_none_right_eq_some] at remains
      exact List.mem_append_left _ remains.1
  | array items =>
      rw [cleanValue?, Option.ite_none_right_eq_some] at remains
      exact List.mem_append_right _ (List.mem_singleton.mpr remains.1)
  | _ => cases remains

/-- What remains of an object, in the order of the known names. -/
theorem cleanMembers_perm (members : List (String × Json)) :
    (cleanMembers members).Perm
      ((textKeys ++ [childrenKey]).filterMap (remaining? members)) := by
  have keysNodup : (textKeys ++ [childrenKey]).Nodup := by decide
  rw [List.perm_ext_iff_of_nodup (distinct_cleanMembers members).of_map]
  · intro member
    simp only [List.mem_filterMap, remaining?_eq_some_iff]
    refine ⟨fun remains => ?_, fun ⟨_, _, _, remains⟩ => remains⟩
    have found := (lookup_eq_some_iff_mem
      (distinct_cleanMembers members)).mpr remains
    rw [lookup_cleanMembers, Option.bind_eq_some_iff] at found
    obtain ⟨value, -, cleaned⟩ := found
    exact ⟨member.1, mem_keys_of_cleanValue? cleaned, rfl, remains⟩
  · refine keysNodup.filterMap fun name other member found foundOther => ?_
    rw [Option.mem_def, remaining?_eq_some_iff] at found foundOther
    exact found.1.symm.trans foundOther.1

theorem filterMap_remaining?_textKeys {members : List (String × Json)}
    {declaration : Declaration}
    (read : ofJson? (.object members) = some declaration) :
    textKeys.filterMap (remaining? members) =
      declaration.texts.filterMap writtenText? := by
  have textsEq : declaration.texts =
      textKeys.map fun name => (name, textMember name members) := by
    cases read
    rfl
  rw [textsEq, List.filterMap_map]
  refine List.filterMap_congr fun name isText => ?_
  rw [remaining?, bind_cleanValue?_of_text isText, Option.map_map]
  rfl

theorem children_eq_of_read {members : List (String × Json)}
    {declaration : Declaration}
    (read : ofJson? (.object members) = some declaration) :
    declaration.children = childrenOfMembers members := by
  cases read
  rfl

theorem toMembers_eq (declaration : Declaration) :
    toMembers declaration = declaration.texts.filterMap writtenText? ++
      [(childrenKey, .array (toItems declaration.children))] := by
  cases declaration
  rfl

theorem childrenKey_not_mem_written (declaration : Declaration) :
    childrenKey ∉
      (declaration.texts.filterMap writtenText?).map Prod.fst := by
  simp only [List.mem_map, List.mem_filterMap, writtenText?,
    Option.map_eq_some_iff]
  rintro ⟨_, ⟨text, inTexts, _, _, rfl⟩, nameEq⟩
  have isText : text.1 ∈ textKeys := List.mem_map_of_mem inTexts
  exact ne_childrenKey_of_text isText nameEq

theorem forall₂_cleanItems {items : List Json}
    (nested : ∀ members, Json.object members ∈ items → ∀ declaration,
      ofJson? (.object members) = some declaration →
        Rearranged (.object (cleanMembers members))
          (.object (toMembers declaration))) :
    List.Forall₂ Rearranged (cleanItems items) (toItems (ofItems items)) := by
  induction items with
  | nil => exact .nil
  | cons item items ih =>
      have others := ih fun members inItems =>
        nested members (List.mem_cons_of_mem item inItems)
      cases item with
      | object members =>
          exact .cons (nested members List.mem_cons_self _ rfl) others
      | _ => exact others

/-- What remains of an object can be rearranged into the object written for the
declaration that is read from it. -/
theorem rearranged_toMembers (members : List (String × Json)) :
    ∀ declaration, ofJson? (.object members) = some declaration →
      Rearranged (.object (cleanMembers members))
        (.object (toMembers declaration)) := by
  induction members using objectInduction with
  | step members ih =>
      intro declaration read
      -- First the order in which a declaration is written, then the array of
      -- nested declarations, which is changed item by item or has to be added.
      have ordered : Rearranged (.object (cleanMembers members))
          (.object ((textKeys ++ [childrenKey]).filterMap
            (remaining? members))) :=
        .rel _ _ (.reorder (distinct_cleanMembers members)
          (cleanMembers_perm members))
      refine .trans _ _ _ ordered ?_
      rw [List.filterMap_append, filterMap_remaining?_textKeys read,
        toMembers_eq, children_eq_of_read read, childrenOfMembers_eq]
      obtain ⟨items, found, cleaned⟩ | ⟨noChildren, cleaned⟩ :=
        bind_cleanValue?_childrenKey (members.lookup childrenKey)
      · have last : remaining? members childrenKey =
            some (childrenKey, .array (cleanItems items)) := by
          rw [remaining?, cleaned]
          rfl
        rw [List.filterMap_cons_some last, found]
        exact Rearranged.items (forall₂_cleanItems (ih items found)) _ [] []
      · have last : remaining? members childrenKey = none := by
          rw [remaining?, cleaned]
          rfl
        rw [List.filterMap_cons_none last, noChildren]
        refine .symm _ _ (.rel _ _ (.dropEmpty ?_))
        rw [List.append_nil]
        exact childrenKey_not_mem_written declaration

/-- Reading ignores what cleaning removes and nothing else. -/
theorem reads_what_remains :
    (∀ members : List (String × Json), (members.map Prod.fst).Nodup →
      cleanMembers members = members.filterMap cleanMember?) ∧
    (∀ members,
      ofJson? (.object (cleanMembers members)) = ofJson? (.object members)) ∧
    ∀ first second, ofJson? (.object first) = ofJson? (.object second) ↔
      Rearranged (.object (cleanMembers first))
        (.object (cleanMembers second)) := by
  refine ⟨fun _ => cleanMembers_eq_filterMap, ofJson?_cleanMembers,
    fun first second => ⟨fun same => ?_, fun rearranged => ?_⟩⟩
  · exact .trans _ _ _ (rearranged_toMembers first _ rfl)
      (.symm _ _ (rearranged_toMembers second _ same.symm))
  · rw [← ofJson?_cleanMembers first, ← ofJson?_cleanMembers second]
    exact rearranged.ofJson?_eq

end Declaration

end SwiftInterface
