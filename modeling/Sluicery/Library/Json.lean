import Mathlib.Data.Rat.Init

/-!
# JSON values and merge patches

Values as a JSON column stores them.  An object is a list of fields in
insertion order, as a dictionary keeps it; `set` replaces a field in place or
appends it, and `mergePatch` is the recursive merge of a patch into a value,
in which a `null` deletes the field it is the value of.
-/

namespace Sluicery.Library

/-- A JSON value. -/
inductive Json where
  | null
  | bool (value : Bool)
  | int (value : Int)
  | real (value : Rat)
  | str (value : String)
  | arr (items : List Json)
  | obj (fields : List (String × Json))
deriving Repr

namespace Json

/-- The fields of an object. -/
abbrev Fields := List (String × Json)

mutual

/-- Structural equality of values. -/
def same : Json → Json → Bool
  | .null, .null => true
  | .bool left, .bool right => left == right
  | .int left, .int right => left == right
  | .real left, .real right => left == right
  | .str left, .str right => left == right
  | .arr left, .arr right => sameItems left right
  | .obj left, .obj right => sameFields left right
  | _, _ => false

/-- Structural equality of arrays. -/
def sameItems : List Json → List Json → Bool
  | [], [] => true
  | left :: lefts, right :: rights => same left right && sameItems lefts rights
  | _, _ => false

/-- Structural equality of objects. -/
def sameFields : Fields → Fields → Bool
  | [], [] => true
  | (leftKey, left) :: lefts, (rightKey, right) :: rights =>
      leftKey == rightKey && same left right && sameFields lefts rights
  | _, _ => false

end

mutual

theorem same_iff : ∀ left right : Json, same left right = true ↔ left = right
  | .null, right => by cases right <;> simp [same]
  | .bool _, right => by cases right <;> simp [same]
  | .int _, right => by cases right <;> simp [same]
  | .real _, right => by cases right <;> simp [same]
  | .str _, right => by cases right <;> simp [same]
  | .arr left, right => by
      cases right with
      | arr right => simp [same, sameItems_iff left right]
      | _ => simp [same]
  | .obj left, right => by
      cases right with
      | obj right => simp [same, sameFields_iff left right]
      | _ => simp [same]

theorem sameItems_iff :
    ∀ left right : List Json, sameItems left right = true ↔ left = right
  | [], right => by cases right <;> simp [sameItems]
  | left :: lefts, right => by
      cases right with
      | nil => simp [sameItems]
      | cons right rights =>
          simp [sameItems, same_iff left right, sameItems_iff lefts rights]

theorem sameFields_iff :
    ∀ left right : Fields, sameFields left right = true ↔ left = right
  | [], right => by cases right <;> simp [sameFields]
  | (leftKey, left) :: lefts, right => by
      cases right with
      | nil => simp [sameFields]
      | cons right rights =>
          simp [sameFields, same_iff left right.2,
            sameFields_iff lefts rights, Prod.ext_iff]

end

instance : DecidableEq Json := fun left right =>
  decidable_of_iff (same left right = true) (same_iff left right)

/-! ## Dictionaries -/

/-- `fields.get(key)`. -/
def lookup (fields : Fields) (key : String) : Option Json :=
  (fields.find? fun field => field.1 == key).map Prod.snd

/-- `fields[key] = value`. -/
def set (fields : Fields) (key : String) (value : Json) : Fields :=
  match fields with
  | [] => [(key, value)]
  | field :: rest =>
      if field.1 == key then (key, value) :: rest
      else field :: set rest key value

/-- `fields.update(values)`, which is also `{**fields, **values}`. -/
def update (fields values : Fields) : Fields :=
  values.foldl (fun current value => set current value.1 value.2) fields

@[simp]
theorem lookup_set (fields : Fields) (changed : String) (value : Json)
    (key : String) :
    lookup (set fields changed value) key =
      if key = changed then some value else lookup fields key := by
  induction fields with
  | nil =>
      by_cases same : key = changed
      · simp [set, lookup, same]
      · simp [set, lookup, same, Ne.symm same]
  | cons field rest induction =>
      simp only [lookup] at induction ⊢
      rw [set]
      by_cases head : field.1 = changed
      · by_cases same : key = changed
        · simp [head, same]
        · simp [head, same, Ne.symm same]
      · by_cases same : field.1 = key
        · have other : key ≠ changed := same ▸ head
          simp [same, other]
        · simp [head, same, induction]

/-- Every occurrence of the key has this value. -/
def Agrees (key : String) (value : Json) (fields : Fields) : Prop :=
  ∀ field ∈ fields, field.1 = key → field.2 = value

theorem Agrees.set
    {key : String} {value : Json} {fields : Fields}
    {changed : String} {new : Json}
    (agrees : Agrees key value fields)
    (same : changed = key → new = value) :
    Agrees key value (Json.set fields changed new) := by
  induction fields with
  | nil =>
      intro field member
      rw [Json.set, List.mem_singleton] at member
      subst member
      exact same
  | cons head rest induction =>
      have inRest := induction fun field member =>
        agrees field (List.mem_cons_of_mem _ member)
      intro field member
      rw [Json.set] at member
      split at member
      · rcases List.mem_cons.mp member with rfl | member
        · exact same
        · exact agrees field (List.mem_cons_of_mem _ member)
      · rcases List.mem_cons.mp member with rfl | member
        · exact agrees _ List.mem_cons_self
        · exact inRest field member

theorem Agrees.update
    {key : String} {value : Json} {fields values : Fields}
    (agrees : Agrees key value fields) (same : Agrees key value values) :
    Agrees key value (Json.update fields values) := by
  unfold Json.update
  induction values generalizing fields with
  | nil => exact agrees
  | cons head rest induction =>
      refine induction (agrees.set (same head List.mem_cons_self)) ?_
      exact fun field member => same field (List.mem_cons_of_mem _ member)

/-- An update which agrees with the value keeps it. -/
theorem lookup_update_of_agrees
    {key : String} {value : Json} {fields values : Fields}
    (found : lookup fields key = some value) (same : Agrees key value values) :
    lookup (update fields values) key = some value := by
  unfold update
  induction values generalizing fields with
  | nil => exact found
  | cons head rest induction =>
      refine induction ?_
        fun field member => same field (List.mem_cons_of_mem _ member)
      rw [lookup_set]
      split
      · next isKey => rw [same head List.mem_cons_self isKey.symm]
      · exact found

/-! ## Dictionaries with distinct keys -/

theorem keys_set (fields : Fields) (changed : String) (value : Json) :
    (set fields changed value).map Prod.fst =
      if changed ∈ fields.map Prod.fst then fields.map Prod.fst
      else fields.map Prod.fst ++ [changed] := by
  induction fields with
  | nil => rfl
  | cons field rest induction =>
      rw [set]
      by_cases head : field.1 = changed
      · simp [head]
      · rw [if_neg (by simpa using head), List.map_cons, induction]
        simp only [List.map_cons, List.mem_cons, Ne.symm head, false_or]
        split <;> rfl

theorem distinct_set
    {fields : Fields} (distinct : (fields.map Prod.fst).Nodup)
    (changed : String) (value : Json) :
    ((set fields changed value).map Prod.fst).Nodup := by
  rw [keys_set]
  split
  · exact distinct
  · next new =>
      rw [List.nodup_append]
      refine ⟨distinct, by simp, ?_⟩
      intro key member other isChanged same
      rw [List.mem_singleton] at isChanged
      exact new (isChanged ▸ same ▸ member)

theorem distinct_update
    {fields : Fields} (distinct : (fields.map Prod.fst).Nodup)
    (values : Fields) :
    ((update fields values).map Prod.fst).Nodup := by
  rw [update]
  induction values generalizing fields with
  | nil => exact distinct
  | cons value rest induction =>
      exact induction (distinct_set distinct value.1 value.2)

/-- An update with distinct keys has its own values, and else the old ones. -/
theorem lookup_update
    (fields : Fields) {values : Fields}
    (distinct : (values.map Prod.fst).Nodup) (key : String) :
    lookup (update fields values) key =
      (lookup values key).or (lookup fields key) := by
  rw [update]
  induction values generalizing fields with
  | nil => rfl
  | cons value rest induction =>
      rw [List.map_cons, List.nodup_cons] at distinct
      rw [List.foldl_cons, induction _ distinct.2, lookup_set]
      by_cases same : value.1 = key
      · have absent : lookup rest key = none := by
          rw [lookup, Option.map_eq_none_iff, List.find?_eq_none]
          intro other member isKey
          rw [beq_iff_eq] at isKey
          apply distinct.1
          rw [same, ← isKey]
          exact List.mem_map_of_mem member
        rw [absent, if_pos same.symm]
        simp [lookup, same]
      · rw [if_neg (Ne.symm same)]
        simp [lookup, same]

/-- A dictionary: no key occurs twice. -/
structure Dict where
  fields : Fields
  distinct : (fields.map Prod.fst).Nodup

namespace Dict

/-- `{**dict, **values}`. -/
def update (dict : Dict) (values : Fields) : Dict where
  fields := Json.update dict.fields values
  distinct := distinct_update dict.distinct values

/-- An updated dictionary has the new value. -/
theorem lookup_update_of_some
    (dict : Dict) {values : Fields} {key : String} {value : Json}
    (distinct : (values.map Prod.fst).Nodup)
    (found : lookup values key = some value) :
    lookup (dict.update values).fields key = some value := by
  rw [Dict.update, lookup_update _ distinct, found]
  rfl

/-- A key which is not updated keeps its value. -/
theorem lookup_update_of_none
    (dict : Dict) {values : Fields} {key : String}
    (distinct : (values.map Prod.fst).Nodup)
    (missing : lookup values key = none) :
    lookup (dict.update values).fields key = lookup dict.fields key := by
  rw [Dict.update, lookup_update _ distinct, missing]
  rfl

end Dict

/-! ## Merge patches -/

mutual

/-- Merge a patch into a value (`json_patch`). -/
def mergePatch (target : Json) : Json → Json
  | .obj patch =>
      .obj (mergeFields (match target with | .obj fields => fields | _ => [])
        patch)
  | patch => patch

/-- Merge the fields of a patch one after the other. -/
def mergeFields (fields : Fields) : Fields → Fields
  | [] => fields
  | (key, .null) :: rest =>
      mergeFields (fields.filter fun field => field.1 != key) rest
  | (key, value) :: rest =>
      mergeFields
        (set fields key (mergePatch ((lookup fields key).getD .null) value))
        rest

end

end Json

end Sluicery.Library
