/-! Structured values as a serializer sees them. An object lists its fields in
key order, the order in which a canonical serializer writes them. -/

set_option autoImplicit false

namespace ControlTower.Foundation

inductive Document where
  | null
  | flag (value : Bool)
  | number (value : Int)
  /-- A point in time, written by the serializer in its ISO form. -/
  | instant (microseconds : Nat)
  /-- A fraction, written by the serializer as a decimal. -/
  | fraction (numerator : Int) (denominator : Nat)
  | text (value : String)
  | list (items : List Document)
  | object (fields : List (String × Document))

namespace Document

mutual

def same : (left right : Document) → Decidable (left = right)
  | .null, .null => isTrue rfl
  | .flag a, .flag b => decidable_of_iff (a = b) (by simp)
  | .number a, .number b => decidable_of_iff (a = b) (by simp)
  | .instant a, .instant b => decidable_of_iff (a = b) (by simp)
  | .fraction a m, .fraction b n => decidable_of_iff (a = b ∧ m = n) (by simp)
  | .text a, .text b => decidable_of_iff (a = b) (by simp)
  | .list a, .list b => @decidable_of_iff _ (a = b) (by simp) (sameList a b)
  | .object a, .object b => @decidable_of_iff _ (a = b) (by simp) (sameFields a b)
  | .null, .flag _ | .null, .number _ | .null, .instant _ | .null, .fraction _ _ | .null, .text _
  | .null, .list _ | .null, .object _ => isFalse nofun
  | .flag _, .null | .flag _, .number _ | .flag _, .instant _ | .flag _, .fraction _ _
  | .flag _, .text _ | .flag _, .list _ | .flag _, .object _ => isFalse nofun
  | .number _, .null | .number _, .flag _ | .number _, .instant _ | .number _, .fraction _ _
  | .number _, .text _ | .number _, .list _ | .number _, .object _ => isFalse nofun
  | .instant _, .null | .instant _, .flag _ | .instant _, .number _ | .instant _, .fraction _ _
  | .instant _, .text _ | .instant _, .list _ | .instant _, .object _ => isFalse nofun
  | .fraction _ _, .null | .fraction _ _, .flag _ | .fraction _ _, .number _ | .fraction _ _, .instant _
  | .fraction _ _, .text _ | .fraction _ _, .list _ | .fraction _ _, .object _ => isFalse nofun
  | .text _, .null | .text _, .flag _ | .text _, .number _ | .text _, .instant _
  | .text _, .fraction _ _ | .text _, .list _ | .text _, .object _ => isFalse nofun
  | .list _, .null | .list _, .flag _ | .list _, .number _ | .list _, .instant _
  | .list _, .fraction _ _ | .list _, .text _ | .list _, .object _ => isFalse nofun
  | .object _, .null | .object _, .flag _ | .object _, .number _ | .object _, .instant _
  | .object _, .fraction _ _ | .object _, .text _ | .object _, .list _ => isFalse nofun

def sameList : (left right : List Document) → Decidable (left = right)
  | [], [] => isTrue rfl
  | [], _ :: _ | _ :: _, [] => isFalse nofun
  | a :: left, b :: right =>
      @decidable_of_iff _ (a = b ∧ left = right) (by simp)
        (@instDecidableAnd _ _ (same a b) (sameList left right))

def sameFields : (left right : List (String × Document)) → Decidable (left = right)
  | [], [] => isTrue rfl
  | [], _ :: _ | _ :: _, [] => isFalse nofun
  | (name, a) :: left, (other, b) :: right =>
      @decidable_of_iff _ (name = other ∧ a = b ∧ left = right) (by simp [and_assoc])
        (@instDecidableAnd _ _ inferInstance
          (@instDecidableAnd _ _ (same a b) (sameFields left right)))

end

instance : DecidableEq Document := same

/-- The value of a field, when the document is an object that has it. -/
def field (name : String) : Document → Option Document
  | .object fields => fields.lookup name
  | _ => none

/-- Truth of a value: null, zero and empty values are false. -/
def truthy : Document → Bool
  | .null => false
  | .flag value => value
  | .number value => value != 0
  | .instant _ => true
  | .fraction numerator _ => numerator != 0
  | .text value => value != ""
  | .list items => !items.isEmpty
  | .object fields => !fields.isEmpty

def ofText (value : Option String) : Document :=
  match value with
  | some words => .text words
  | none => .null

def ofTexts (values : List String) : Document := .list (values.map .text)

mutual

/-- The text of a document, fields and items in their order. -/
def written : Document → String
  | .null => "null"
  | .flag value => if value then "true" else "false"
  | .number value => toString value
  | .instant microseconds => "@" ++ toString microseconds
  | .fraction numerator denominator => toString numerator ++ "/" ++ toString denominator
  | .text value => "<" ++ value ++ ">"
  | .list items => "[" ++ writtenItems items ++ "]"
  | .object fields => "(" ++ writtenFields fields ++ ")"

def writtenItems : List Document → String
  | [] => ""
  | item :: rest => written item ++ "," ++ writtenItems rest

def writtenFields : List (String × Document) → String
  | [] => ""
  | (name, value) :: rest => name ++ ":" ++ written value ++ "," ++ writtenFields rest

end

/-- Write a field of an object, keeping the fields in key order. -/
def setField (name : String) (value : Document) : List (String × Document) → List (String × Document)
  | [] => [(name, value)]
  | field :: rest =>
      if field.1 = name then (name, value) :: rest
      else if name < field.1 then (name, value) :: field :: rest
      else field :: setField name value rest

@[simp] theorem lookup_setField (name : String) (value : Document) (fields : List (String × Document)) :
    (setField name value fields).lookup name = some value := by
  induction fields with
  | nil => simp [setField]
  | cons field rest ih =>
    unfold setField
    split
    · simp
    · rename_i other
      split
      · simp
      · have different : (name == field.1) = false := by simpa using Ne.symm other
        rw [List.lookup_cons, different]
        exact ih

end Document

end ControlTower.Foundation
