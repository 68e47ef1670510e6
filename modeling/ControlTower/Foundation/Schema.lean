import Mathlib.Data.List.Basic
import Mathlib.Data.String.Basic
import ControlTower.Foundation.Document

/-! Records that are written as JSON and read back under a schema. Writing turns
a point in time into a text; reading checks every field and turns it back where
the schema says so. A record survives exactly when it conforms to its schema. -/

set_option autoImplicit false

namespace ControlTower.Foundation

namespace Document

mutual

/-- A value of an untyped field after it was written as JSON and read again,
with the form that the JSON writer gives to a point in time. -/
def reread (isoText : Nat → String) : Document → Document
  | .null => .null
  | .flag value => .flag value
  | .number value => .number value
  | .instant microseconds => .text (isoText microseconds)
  | .fraction numerator denominator => .fraction numerator denominator
  | .text value => .text value
  | .list items => .list (rereadItems isoText items)
  | .object fields => .object (rereadFields isoText fields)

def rereadItems (isoText : Nat → String) : List Document → List Document
  | [] => []
  | item :: rest => reread isoText item :: rereadItems isoText rest

def rereadFields (isoText : Nat → String) : List (String × Document) → List (String × Document)
  | [] => []
  | (name, value) :: rest => (name, reread isoText value) :: rereadFields isoText rest

end

mutual

/-- Whether a point in time stands anywhere in the value. -/
def holdsInstant : Document → Bool
  | .instant _ => true
  | .list items => holdsInstantItems items
  | .object fields => holdsInstantFields fields
  | _ => false

def holdsInstantItems : List Document → Bool
  | [] => false
  | item :: rest => holdsInstant item || holdsInstantItems rest

def holdsInstantFields : List (String × Document) → Bool
  | [] => false
  | (_, value) :: rest => holdsInstant value || holdsInstantFields rest

end

mutual

theorem reread_eq (isoText : Nat → String) : (value : Document) →
    (reread isoText value = value ↔ holdsInstant value = false)
  | .null | .flag _ | .number _ | .instant _ | .fraction _ _ | .text _ => by simp [reread, holdsInstant]
  | .list items => by simp [reread, holdsInstant, rereadItems_eq isoText items]
  | .object fields => by simp [reread, holdsInstant, rereadFields_eq isoText fields]

theorem rereadItems_eq (isoText : Nat → String) : (items : List Document) →
    (rereadItems isoText items = items ↔ holdsInstantItems items = false)
  | [] => by simp [rereadItems, holdsInstantItems]
  | item :: rest => by
    simp [rereadItems, holdsInstantItems, reread_eq isoText item, rereadItems_eq isoText rest]

theorem rereadFields_eq (isoText : Nat → String) : (fields : List (String × Document)) →
    (rereadFields isoText fields = fields ↔ holdsInstantFields fields = false)
  | [] => by simp [rereadFields, holdsInstantFields]
  | (name, value) :: rest => by
    simp [rereadFields, holdsInstantFields, reread_eq isoText value, rereadFields_eq isoText rest]

end

theorem rereadItems_map (isoText : Nat → String) (items : List Document) :
    rereadItems isoText items = items.map (reread isoText) := by
  induction items with
  | nil => rfl
  | cons item rest ih => simp [rereadItems, ih]

theorem lookup_rereadFields (isoText : Nat → String) (name : String) (fields : List (String × Document)) :
    (rereadFields isoText fields).lookup name = (fields.lookup name).map (reread isoText) := by
  induction fields with
  | nil => rfl
  | cons field rest ih =>
    obtain ⟨other, value⟩ := field
    simp only [rereadFields, List.lookup_cons, ih]
    split <;> rfl

end Document

/-- The JSON dialect of a validation library: the text of a point in time, and
what the library makes of values that are not of a field's own kind. -/
structure Dialect where
  isoText : Nat → String
  flagOf : Document → Option Bool
  integerOf : Document → Option Int
  /-- A fraction as numerator and denominator. -/
  amountOf : Document → Option (Int × Nat)
  momentOf : Document → Option Nat
  momentOf_isoText : ∀ instant, momentOf (.text (isoText instant)) = some instant

/-- The type of a field. -/
inductive Shape where
  /-- Any value. -/
  | untyped
  /-- An object with any fields. -/
  | mapping
  /-- A text that a check accepts and may rewrite; null may stand for a default. -/
  | text (absent : Option String) (check : String → Option String)
  /-- A list of texts that a check accepts and may rewrite. -/
  | texts (check : List String → Option (List String))
  | flag
  | integer (least most : Option Int)
  | amount (least most : Option Nat)
  | moment
  | optional (shape : Shape)
  | list (item : Shape)
  | record (fields : List (String × Shape))

namespace Shape

def string : Shape := .text none some

/-- A text of bounded length. -/
def brief (longest : Nat) : Shape := .text none fun value => if value.length ≤ longest then some value else none

/-- A value of an enumeration. -/
def choice (values : List String) : Shape := .text none fun value => if value ∈ values then some value else none

def strings : Shape := .texts some

def choices (values : List String) : Shape :=
  .texts fun items => if items.all values.contains then some items else none

def int : Shape := .integer none none

/-- A list of texts of bounded length. -/
def fewStrings (longest : Nat) : Shape :=
  .texts fun items => if items.length ≤ longest then some items else none

/-- Whether a number lies within optional bounds. -/
def within (least most : Option Int) (value : Int) : Bool :=
  least.all (· ≤ value) && most.all (value ≤ ·)

/-- Whether a fraction lies within optional bounds. -/
def amountWithin (least most : Option Nat) (numerator : Int) (denominator : Nat) : Bool :=
  (least.all fun bound => (bound * denominator : Int) ≤ numerator) &&
    most.all fun bound => numerator ≤ (bound * denominator : Int)

/-- The texts of a list that holds nothing else. -/
def allTexts : List Document → Option (List String)
  | [] => some []
  | .text value :: rest => (allTexts rest).map (value :: ·)
  | _ :: _ => none

variable (dialect : Dialect)

def readAmount (least most : Option Nat) (value : Document) : Option Document :=
  match value with
  | .number number => if amountWithin least most number 1 then some (.number number) else none
  | .fraction numerator denominator =>
      if amountWithin least most numerator denominator then some (.fraction numerator denominator) else none
  | other => do
      let (numerator, denominator) ← dialect.amountOf other
      if amountWithin least most numerator denominator then some (.fraction numerator denominator) else none

/-- A number, or what the dialect makes of another value. -/
def numberOf : Document → Option Int
  | .number number => some number
  | other => dialect.integerOf other

def readInteger (least most : Option Int) (value : Document) : Option Document :=
  (numberOf dialect value).bind fun number => if within least most number then some (.number number) else none

def readText (absent : Option String) (check : String → Option String) (value : Document) : Option Document :=
  match value with
  | .text words => (check words).map .text
  | .null => (absent.bind check).map .text
  | _ => none

def readTexts (check : List String → Option (List String)) (value : Document) : Option Document :=
  match value with
  | .list items => ((allTexts items).bind check).map .ofTexts
  | _ => none

mutual

/-- Read a JSON value under a shape. -/
def read : Shape → Document → Option Document
  | .untyped, value => some value
  | .mapping, value =>
      match value with
      | .object fields => some (.object fields)
      | _ => none
  | .text absent check, value => readText absent check value
  | .texts check, value => readTexts check value
  | .flag, value =>
      match value with
      | .flag given => some (.flag given)
      | other => (dialect.flagOf other).map .flag
  | .integer least most, value => readInteger dialect least most value
  | .amount least most, value => readAmount dialect least most value
  | .moment, value => (dialect.momentOf value).map .instant
  | .optional shape, value => if value = .null then some .null else read shape value
  | .list item, value =>
      match value with
      | .list items => (items.mapM (read item)).map .list
      | _ => none
  | .record schema, value =>
      match value with
      | .object fields => (readFields schema fields).map .object
      | _ => none

/-- Read each declared field; fields that are not declared are dropped. -/
def readFields : List (String × Shape) → List (String × Document) → Option (List (String × Document))
  | [], _ => some []
  | (name, shape) :: rest, fields => do
      let value ← read shape (← fields.lookup name)
      let others ← readFields rest fields
      return (name, value) :: others

end

mutual

/-- What a validated value of a shape looks like. Untyped parts hold no point in
time, since they would come back as a text. -/
def Conforms : Shape → Document → Prop
  | .untyped, value => value.holdsInstant = false
  | .mapping, value => (∃ fields, value = .object fields) ∧ value.holdsInstant = false
  | .text _ check, value => ∃ words, value = .text words ∧ check words = some words
  | .texts check, value => ∃ words, value = .ofTexts words ∧ check words = some words
  | .flag, value => ∃ flag, value = .flag flag
  | .integer least most, value => ∃ number, value = .number number ∧ within least most number = true
  | .amount least most, value =>
      (∃ number, value = .number number ∧ amountWithin least most number 1 = true) ∨
        ∃ numerator denominator, value = .fraction numerator denominator ∧
          amountWithin least most numerator denominator = true
  | .moment, value => ∃ microseconds, value = .instant microseconds
  | .optional shape, value => value = .null ∨ (value ≠ .null ∧ Conforms shape value)
  | .list item, value => ∃ items, value = .list items ∧ ∀ one ∈ items, Conforms item one
  | .record schema, value => ∃ fields, value = .object fields ∧ FieldsConform schema fields

def FieldsConform : List (String × Shape) → List (String × Document) → Prop
  | [], [] => True
  | (name, shape) :: schema, (other, value) :: fields =>
      name = other ∧ Conforms shape value ∧ FieldsConform schema fields
  | _, _ => False

end

mutual

/-- No record of a shape declares a field twice. -/
def distinctNames : Shape → Bool
  | .optional shape => distinctNames shape
  | .list item => distinctNames item
  | .record schema => decide (schema.map Prod.fst).Nodup && distinctFields schema
  | _ => true

def distinctFields : List (String × Shape) → Bool
  | [] => true
  | (_, shape) :: rest => distinctNames shape && distinctFields rest

end

section RoundTrip

variable {dialect : Dialect}

theorem allTexts_ofTexts (words : List String) : allTexts (words.map .text) = some words := by
  induction words with
  | nil => rfl
  | cons word rest ih => simp [allTexts, ih]

theorem reread_ofTexts (isoText : Nat → String) (words : List String) :
    (Document.ofTexts words).reread isoText = .ofTexts words := by
  rw [Document.ofTexts, Document.reread, Document.rereadItems_map, List.map_map]
  rfl

theorem ofTexts_inj {left right : List String} (same : Document.ofTexts left = .ofTexts right) : left = right := by
  simp only [Document.ofTexts, Document.list.injEq] at same
  exact List.map_injective_iff.mpr (fun _ _ equal => Document.text.inj equal) same

theorem read_text_iff (absent : Option String) (check : String → Option String) (value : Document) :
    readText absent check (value.reread dialect.isoText) = some value ↔
      ∃ words, value = .text words ∧ check words = some words := by
  cases value with
  | null =>
    cases given : absent.bind check <;> simp [Document.reread, readText, given]
  | _ => simp [Document.reread, readText]

theorem readTexts_eq {check : List String → Option (List String)} {words : List String} {value : Document} :
    readTexts check (.ofTexts words) = some value ↔ ∃ cleaned, check words = some cleaned ∧ .ofTexts cleaned = value := by
  simp [readTexts, Document.ofTexts, allTexts_ofTexts]

/-- What reading a list of texts returns is a list of texts. -/
theorem readTexts_texts {check : List String → Option (List String)} {given value : Document}
    (made : readTexts check given = some value) : ∃ words, value = .ofTexts words := by
  cases given with
  | list items =>
    obtain ⟨words, -, rfl⟩ := Option.map_eq_some_iff.mp made
    exact ⟨words, rfl⟩
  | _ => cases made

theorem read_texts_iff (check : List String → Option (List String)) (value : Document) :
    readTexts check (value.reread dialect.isoText) = some value ↔
      ∃ words, value = .ofTexts words ∧ check words = some words := by
  constructor
  · intro kept
    obtain ⟨words, rfl⟩ := readTexts_texts kept
    rw [reread_ofTexts, readTexts_eq] at kept
    obtain ⟨cleaned, cleans, same⟩ := kept
    rw [ofTexts_inj same] at cleans
    exact ⟨words, rfl, cleans⟩
  · rintro ⟨words, rfl, cleans⟩
    rw [reread_ofTexts, readTexts_eq]
    exact ⟨words, cleans, rfl⟩

theorem read_integer_iff (least most : Option Int) (value : Document) :
    readInteger dialect least most (value.reread dialect.isoText) = some value ↔
      ∃ number, value = .number number ∧ within least most number = true := by
  constructor
  · intro kept
    obtain ⟨number, -, made⟩ := Option.bind_eq_some_iff.mp kept
    split at made
    · next fits =>
      cases made
      exact ⟨number, rfl, fits⟩
    · cases made
  · rintro ⟨number, rfl, fits⟩
    simp [Document.reread, readInteger, numberOf, fits]

theorem read_amount_iff (least most : Option Nat) (value : Document) :
    readAmount dialect least most (value.reread dialect.isoText) = some value ↔
      (∃ number, value = .number number ∧ amountWithin least most number 1 = true) ∨
        ∃ numerator denominator, value = .fraction numerator denominator ∧
          amountWithin least most numerator denominator = true := by
  constructor
  · intro kept
    unfold readAmount at kept
    split at kept
    · split at kept
      · next number _ fits =>
        cases kept
        exact .inl ⟨number, rfl, fits⟩
      · cases kept
    · split at kept
      · next numerator denominator _ fits =>
        cases kept
        exact .inr ⟨numerator, denominator, rfl, fits⟩
      · cases kept
    · obtain ⟨⟨numerator, denominator⟩, -, made⟩ := Option.bind_eq_some_iff.mp kept
      simp only at made
      split at made
      · next fits =>
        cases made
        exact .inr ⟨numerator, denominator, rfl, fits⟩
      · cases made
  · rintro (⟨number, rfl, fits⟩ | ⟨numerator, denominator, rfl, fits⟩)
    · simp [Document.reread, readAmount, fits]
    · simp [Document.reread, readAmount, fits]

theorem mapM_kept {items : List Document} {body : Document → Option Document} {isoText : Nat → String} :
    (items.map (Document.reread isoText)).mapM body = some items ↔
      ∀ item ∈ items, body (item.reread isoText) = some item := by
  induction items with
  | nil => simp
  | cons item rest ih =>
    simp only [List.map_cons, List.mapM_cons, Option.pure_def, Option.bind_eq_bind, Option.bind_eq_some_iff,
      Option.some.injEq, List.cons.injEq, List.forall_mem_cons]
    constructor
    · rintro ⟨first, read, others, kept, rfl, rfl⟩
      exact ⟨read, ih.mp kept⟩
    · rintro ⟨read, kept⟩
      exact ⟨item, read, rest, ih.mpr kept, rfl, rfl⟩

/-- Reading fields returns them under the declared names. -/
theorem readFields_names {schema : List (String × Shape)} {fields read : List (String × Document)}
    (made : readFields dialect schema fields = some read) : read.map Prod.fst = schema.map Prod.fst := by
  induction schema generalizing read with
  | nil =>
    cases made
    rfl
  | cons field rest ih =>
    obtain ⟨name, shape⟩ := field
    simp only [readFields, Option.pure_def, Option.bind_eq_bind, Option.bind_eq_some_iff] at made
    obtain ⟨_, -, _, -, others, kept, same⟩ := made
    cases same
    simp [ih kept]

theorem lookup_of_member {fields : List (String × Document)} (distinct : (fields.map Prod.fst).Nodup) {name : String}
    {value : Document} (member : (name, value) ∈ fields) : fields.lookup name = some value := by
  induction fields with
  | nil => cases member
  | cons field rest ih =>
    obtain ⟨other, first⟩ := field
    simp only [List.map_cons, List.nodup_cons] at distinct
    rcases List.mem_cons.mp member with same | later
    · cases same
      simp
    · have away : name ≠ other := by
        rintro rfl
        exact distinct.1 (List.mem_map_of_mem later)
      rw [List.lookup_cons, beq_eq_false_iff_ne.mpr away]
      exact ih distinct.2 later

theorem fieldsConform_names {schema : List (String × Shape)} {fields : List (String × Document)}
    (conform : FieldsConform schema fields) : fields.map Prod.fst = schema.map Prod.fst := by
  induction schema generalizing fields with
  | nil =>
    cases fields with
    | nil => rfl
    | cons field fields => simp [FieldsConform] at conform
  | cons declared rest ih =>
    cases fields with
    | nil => simp [FieldsConform] at conform
    | cons field fields =>
      simp only [FieldsConform] at conform
      simp [conform.1, ih conform.2.2]

mutual

/-- A value survives exactly when it conforms to its shape. -/
theorem read_reread_iff (dialect : Dialect) : (shape : Shape) → distinctNames shape = true → (value : Document) →
    (read dialect shape (value.reread dialect.isoText) = some value ↔ Conforms shape value)
  | .untyped, _, value => by simp [read, Conforms, Document.reread_eq]
  | .mapping, _, value => by
    cases value with
    | object fields => simp [read, Conforms, Document.reread, Document.rereadFields_eq, Document.holdsInstant]
    | _ => simp [read, Conforms, Document.reread]
  | .text absent check, _, value => by
    rw [read, Conforms]
    exact read_text_iff absent check value
  | .texts check, _, value => by
    rw [read, Conforms]
    exact read_texts_iff check value
  | .flag, _, value => by
    cases value with
    | flag given => simp [read, Conforms, Document.reread]
    | _ => simp [read, Conforms, Document.reread]
  | .integer least most, _, value => by
    rw [read, Conforms]
    exact read_integer_iff least most value
  | .amount least most, _, value => by
    rw [read, Conforms]
    exact read_amount_iff least most value
  | .moment, _, value => by
    cases value with
    | instant microseconds => simp [read, Conforms, Document.reread, dialect.momentOf_isoText]
    | _ => simp [read, Conforms, Document.reread]
  | .optional shape, distinct, value => by
    have inner := read_reread_iff dialect shape (by simpa [distinctNames] using distinct) value
    cases value with
    | null => simp [read, Conforms, Document.reread]
    | _ => simpa [read, Conforms, Document.reread] using inner
  | .list item, distinct, value => by
    have inner := read_reread_iff dialect item (by simpa [distinctNames] using distinct)
    cases value with
    | list items =>
      simp only [read, Conforms, Document.reread, Document.rereadItems_map, Option.map_eq_some_iff,
        Document.list.injEq, exists_eq_right, exists_eq_left']
      rw [mapM_kept]
      exact forall₂_congr fun one _ => inner one
    | _ => simp [read, Conforms, Document.reread]
  | .record schema, distinct, value => by
    simp only [distinctNames, Bool.and_eq_true, decide_eq_true_eq] at distinct
    cases value with
    | object fields =>
      simp only [read, Conforms, Document.reread, Option.map_eq_some_iff, Document.object.injEq, exists_eq_right,
        exists_eq_left']
      constructor
      · intro made
        have names := readFields_names made
        have distinctFields := names.symm ▸ distinct.1
        exact (readFields_iff dialect schema distinct.2 fields fields fun name value member =>
          lookup_of_member distinctFields member).mp made
      · intro conform
        have names := fieldsConform_names conform
        have distinctFields := names.symm ▸ distinct.1
        exact (readFields_iff dialect schema distinct.2 fields fields fun name value member =>
          lookup_of_member distinctFields member).mpr conform
    | _ => simp [read, Conforms, Document.reread]

/-- The fields of a record survive exactly when each conforms. -/
theorem readFields_iff (dialect : Dialect) : (schema : List (String × Shape)) → distinctFields schema = true →
    (whole fields : List (String × Document)) →
    (∀ name value, (name, value) ∈ fields → whole.lookup name = some value) →
    (readFields dialect schema (Document.rereadFields dialect.isoText whole) = some fields ↔ FieldsConform schema fields)
  | [], _, whole, fields, _ => by
    cases fields <;> simp [readFields, FieldsConform]
  | (name, shape) :: rest, _, whole, [], _ => by
    refine iff_of_false (fun made => ?_) (by simp [FieldsConform])
    have names := readFields_names made
    cases names
  | (name, shape) :: rest, distinct, whole, (other, value) :: fields, found => by
    simp only [distinctFields, Bool.and_eq_true] at distinct
    have inner := read_reread_iff dialect shape distinct.1 value
    have others := readFields_iff dialect rest distinct.2 whole fields fun name value member =>
      found name value (List.mem_cons_of_mem _ member)
    have here := found other value List.mem_cons_self
    simp only [readFields, FieldsConform, Document.lookup_rereadFields, Option.pure_def, Option.bind_eq_bind,
      Option.bind_eq_some_iff, Option.some.injEq, List.cons.injEq, Prod.mk.injEq, Option.map_eq_some_iff]
    constructor
    · rintro ⟨first, ⟨original, located, rfl⟩, kept, made, later, readLater, ⟨rfl, rfl⟩, rfl⟩
      rw [here] at located
      cases located
      exact ⟨rfl, inner.mp made, others.mp readLater⟩
    · rintro ⟨rfl, conforms, conform⟩
      exact ⟨_, ⟨value, here, rfl⟩, value, inner.mpr conforms, fields, others.mpr conform, ⟨rfl, rfl⟩, rfl⟩

end

end RoundTrip

end Shape

end ControlTower.Foundation
