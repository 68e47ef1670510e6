import ControlTower.Foundation.Document

/-! Redaction of nested values: a marker in the place of every value under a hidden key.
Two values look the same where they differ under hidden keys only. -/

set_option autoImplicit false

namespace ControlTower.Foundation

namespace Document

section Redact

variable (hidden : String → Bool) (marker : Document)

mutual

def redact : Document → Document
  | .null => .null
  | .flag value => .flag value
  | .number value => .number value
  | .instant microseconds => .instant microseconds
  | .fraction numerator denominator => .fraction numerator denominator
  | .text value => .text value
  | .list items => .list (redactItems items)
  | .object fields => .object (redactFields fields)

def redactItems : List Document → List Document
  | [] => []
  | item :: rest => redact item :: redactItems rest

def redactFields : List (String × Document) → List (String × Document)
  | [] => []
  | (name, value) :: rest => (name, if hidden name then marker else redact value) :: redactFields rest

end

end Redact

section Relations

variable (hidden : String → Bool)

mutual

/-- Values that differ under hidden keys only. -/
inductive SameShown : Document → Document → Prop
  | same (value : Document) : SameShown value value
  | list {items others : List Document} : SameItems items others → SameShown (.list items) (.list others)
  | object {fields others : List (String × Document)} : SameFields fields others → SameShown (.object fields) (.object others)

inductive SameItems : List Document → List Document → Prop
  | nil : SameItems [] []
  | cons {item other : Document} {items others : List Document} : SameShown item other → SameItems items others →
      SameItems (item :: items) (other :: others)

inductive SameFields : List (String × Document) → List (String × Document) → Prop
  | nil : SameFields [] []
  | hidden {name : String} (value other : Document) {fields others : List (String × Document)} : hidden name = true →
      SameFields fields others → SameFields ((name, value) :: fields) ((name, other) :: others)
  | shown {name : String} {value other : Document} {fields others : List (String × Document)} : SameShown value other →
      SameFields fields others → SameFields ((name, value) :: fields) ((name, other) :: others)

end

variable (marker : Document)

mutual

/-- The second value is the first with the marker under every hidden key, and with nothing else changed. -/
inductive Redacted : Document → Document → Prop
  | null : Redacted .null .null
  | flag (value : Bool) : Redacted (.flag value) (.flag value)
  | number (value : Int) : Redacted (.number value) (.number value)
  | instant (microseconds : Nat) : Redacted (.instant microseconds) (.instant microseconds)
  | fraction (numerator : Int) (denominator : Nat) : Redacted (.fraction numerator denominator) (.fraction numerator denominator)
  | text (value : String) : Redacted (.text value) (.text value)
  | list {items shown : List Document} : RedactedItems items shown → Redacted (.list items) (.list shown)
  | object {fields shown : List (String × Document)} : RedactedFields fields shown → Redacted (.object fields) (.object shown)

inductive RedactedItems : List Document → List Document → Prop
  | nil : RedactedItems [] []
  | cons {item shown : Document} {items rest : List Document} : Redacted item shown → RedactedItems items rest →
      RedactedItems (item :: items) (shown :: rest)

inductive RedactedFields : List (String × Document) → List (String × Document) → Prop
  | nil : RedactedFields [] []
  | hidden {name : String} (value : Document) {fields rest : List (String × Document)} : hidden name = true →
      RedactedFields fields rest → RedactedFields ((name, value) :: fields) ((name, marker) :: rest)
  | shown {name : String} {value shown : Document} {fields rest : List (String × Document)} : hidden name = false →
      Redacted value shown → RedactedFields fields rest → RedactedFields ((name, value) :: fields) ((name, shown) :: rest)

end

end Relations

section Laws

variable {hidden : String → Bool} {marker : Document}

mutual

theorem redact_redacted : (value : Document) → Redacted hidden marker value (redact hidden marker value)
  | .null => .null
  | .flag value => .flag value
  | .number value => .number value
  | .instant microseconds => .instant microseconds
  | .fraction numerator denominator => .fraction numerator denominator
  | .text value => .text value
  | .list items => .list (redactItems_redacted items)
  | .object fields => .object (redactFields_redacted fields)

theorem redactItems_redacted : (items : List Document) → RedactedItems hidden marker items (redactItems hidden marker items)
  | [] => .nil
  | item :: rest => .cons (redact_redacted item) (redactItems_redacted rest)

theorem redactFields_redacted :
    (fields : List (String × Document)) → RedactedFields hidden marker fields (redactFields hidden marker fields)
  | [] => .nil
  | (name, value) :: rest => by
      unfold redactFields
      cases secret : hidden name with
      | true => exact .hidden value secret (redactFields_redacted rest)
      | false => exact .shown secret (redact_redacted value) (redactFields_redacted rest)

end

mutual

/-- A value looks the same as its redaction. -/
theorem redact_sameShown : (value : Document) → SameShown hidden value (redact hidden marker value)
  | .null => .same _
  | .flag _ => .same _
  | .number _ => .same _
  | .instant _ => .same _
  | .fraction _ _ => .same _
  | .text _ => .same _
  | .list items => .list (redactItems_sameItems items)
  | .object fields => .object (redactFields_sameFields fields)

theorem redactItems_sameItems : (items : List Document) → SameItems hidden items (redactItems hidden marker items)
  | [] => .nil
  | item :: rest => .cons (redact_sameShown item) (redactItems_sameItems rest)

theorem redactFields_sameFields :
    (fields : List (String × Document)) → SameFields hidden fields (redactFields hidden marker fields)
  | [] => .nil
  | (name, value) :: rest => by
      unfold redactFields
      cases secret : hidden name with
      | true => exact .hidden value marker secret (redactFields_sameFields rest)
      | false => exact .shown (redact_sameShown value) (redactFields_sameFields rest)

end

mutual

/-- Values that look the same have one redaction. -/
theorem SameShown.redact {value other : Document} : SameShown hidden value other →
    Document.redact hidden marker value = Document.redact hidden marker other
  | .same _ => rfl
  | .list items => congrArg Document.list items.redact
  | .object fields => congrArg Document.object fields.redact

theorem SameItems.redact {items others : List Document} : SameItems hidden items others →
    redactItems hidden marker items = redactItems hidden marker others
  | .nil => rfl
  | .cons item rest => List.cons_eq_cons.mpr ⟨item.redact, rest.redact⟩

theorem SameFields.redact {fields others : List (String × Document)} : SameFields hidden fields others →
    redactFields hidden marker fields = redactFields hidden marker others
  | .nil => rfl
  | .hidden value other secret rest => by
      unfold redactFields
      rw [secret, rest.redact]
      rfl
  | .shown value rest => by
      unfold redactFields
      rw [value.redact, rest.redact]

end

theorem SameFields.names {fields others : List (String × Document)} : SameFields hidden fields others →
    fields.map Prod.fst = others.map Prod.fst
  | .nil => rfl
  | .hidden _ _ _ rest => congrArg (List.cons _) rest.names
  | .shown _ rest => congrArg (List.cons _) rest.names

theorem lookup_isSome_of_names {fields : List (String × Document)} (name : String) :
    (fields.lookup name).isSome = decide (name ∈ fields.map Prod.fst) := by
  rw [Bool.eq_iff_iff, List.lookup_isSome_iff, decide_eq_true_iff, List.mem_map]
  constructor
  · rintro ⟨field, member, same⟩
    exact ⟨field, member, (beq_iff_eq.mp same).symm⟩
  · rintro ⟨field, member, same⟩
    exact ⟨field, member, beq_iff_eq.mpr same.symm⟩

/-- Values that look the same have the same fields. -/
theorem SameFields.lookup_isSome {fields others : List (String × Document)} (same : SameFields hidden fields others)
    (name : String) : (fields.lookup name).isSome = (others.lookup name).isSome := by
  rw [lookup_isSome_of_names, lookup_isSome_of_names, same.names]

end Laws

end Document

end ControlTower.Foundation
