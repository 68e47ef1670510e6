import ControlTower.Foundation.Document
import Mathlib.Data.Nat.Digits.Defs
import Mathlib.Data.String.Basic

/-! A text for every document from which the document can be read back. It is
the digest and the signature of runs in which no two values collide. -/

set_option autoImplicit false

namespace ControlTower.Foundation.Document

/-- Every letter behind a comma, and a full stop at the end. -/
def lettersCode : List Char → List Char
  | [] => ['.']
  | letter :: rest => ',' :: letter :: lettersCode rest

def tally (value : Nat) : List Char := List.replicate value '|' ++ ['.']

def digitsCode : List Nat → List Char
  | [] => ['.']
  | digit :: rest => ',' :: (tally digit ++ digitsCode rest)

def natCode (value : Nat) : List Char := digitsCode (Nat.digits 10 value)

def intCode : Int → List Char
  | .ofNat value => '+' :: natCode value
  | .negSucc value => '-' :: natCode value

mutual

def code : Document → List Char
  | .null => ['n']
  | .flag value => [if value then 't' else 'f']
  | .number value => 'i' :: intCode value
  | .instant microseconds => '@' :: natCode microseconds
  | .fraction numerator denominator => '/' :: (intCode numerator ++ natCode denominator)
  | .text value => '"' :: lettersCode value.toList
  | .list items => '[' :: itemsCode items
  | .object fields => 'o' :: fieldsCode fields

def itemsCode : List Document → List Char
  | [] => [']']
  | item :: rest => ',' :: (code item ++ itemsCode rest)

def fieldsCode : List (String × Document) → List Char
  | [] => [']']
  | (name, value) :: rest => ',' :: (lettersCode name.toList ++ (code value ++ fieldsCode rest))

end

theorem lettersCode_cancel {left right more others : List Char}
    (same : lettersCode left ++ more = lettersCode right ++ others) : left = right ∧ more = others := by
  induction left generalizing right with
  | nil =>
    cases right with
    | nil => simpa [lettersCode] using same
    | cons letter rest => simp [lettersCode] at same
  | cons letter rest ih =>
    cases right with
    | nil => simp [lettersCode] at same
    | cons other tail =>
      simp only [lettersCode, List.cons_append, List.cons.injEq, true_and] at same
      obtain ⟨letters, rest⟩ := same
      obtain ⟨tails, after⟩ := ih rest
      exact ⟨by rw [letters, tails], after⟩

theorem tally_cancel {left right : Nat} {more others : List Char}
    (same : tally left ++ more = tally right ++ others) : left = right ∧ more = others := by
  induction left generalizing right with
  | zero =>
    cases right with
    | zero => simpa [tally] using same
    | succ right => simp [tally, List.replicate_succ] at same
  | succ left ih =>
    cases right with
    | zero => simp [tally, List.replicate_succ] at same
    | succ right =>
      have rest : tally left ++ more = tally right ++ others := by
        simpa [tally, List.replicate_succ] using same
      obtain ⟨values, after⟩ := ih rest
      exact ⟨by rw [values], after⟩

theorem digitsCode_cancel {left right : List Nat} {more others : List Char}
    (same : digitsCode left ++ more = digitsCode right ++ others) : left = right ∧ more = others := by
  induction left generalizing right with
  | nil =>
    cases right with
    | nil => simpa [digitsCode] using same
    | cons digit rest => simp [digitsCode] at same
  | cons digit rest ih =>
    cases right with
    | nil => simp [digitsCode] at same
    | cons other tail =>
      simp only [digitsCode, List.cons_append, List.cons.injEq, true_and, List.append_assoc] at same
      obtain ⟨digits, rests⟩ := tally_cancel same
      obtain ⟨tails, after⟩ := ih rests
      exact ⟨by rw [digits, tails], after⟩

theorem natCode_cancel {left right : Nat} {more others : List Char}
    (same : natCode left ++ more = natCode right ++ others) : left = right ∧ more = others := by
  obtain ⟨digits, after⟩ := digitsCode_cancel same
  exact ⟨Nat.digits_inj_iff.mp digits, after⟩

theorem intCode_cancel {left right : Int} {more others : List Char}
    (same : intCode left ++ more = intCode right ++ others) : left = right ∧ more = others := by
  cases left <;> cases right <;> simp [intCode] at same
  all_goals
    obtain ⟨values, after⟩ := natCode_cancel same
    exact ⟨by rw [values], after⟩

mutual

theorem code_cancel : (left right : Document) → {more others : List Char} →
    code left ++ more = code right ++ others → left = right ∧ more = others
  | .null, right, more, others, same => by
    -- two codes of different kinds differ in their first letter
    cases right <;> simp [code] at same
    case null => exact ⟨rfl, same⟩
    case flag value => cases value <;> simp at same
  | .flag value, right, more, others, same => by
    cases value <;> cases right <;> simp [code] at same
    all_goals
      rename_i other
      cases other <;> simp at same
      exact ⟨rfl, same⟩
  | .number value, right, more, others, same => by
    cases right <;> simp [code] at same
    case number other =>
      obtain ⟨values, after⟩ := intCode_cancel same
      exact ⟨by rw [values], after⟩
    case flag other => cases other <;> simp at same
  | .instant value, right, more, others, same => by
    cases right <;> simp [code] at same
    case instant other =>
      obtain ⟨values, after⟩ := natCode_cancel same
      exact ⟨by rw [values], after⟩
    case flag other => cases other <;> simp at same
  | .fraction numerator denominator, right, more, others, same => by
    cases right <;> simp [code] at same
    case fraction other under =>
      obtain ⟨above, below⟩ := intCode_cancel same
      obtain ⟨values, after⟩ := natCode_cancel below
      exact ⟨by rw [above, values], after⟩
    case flag other => cases other <;> simp at same
  | .text value, right, more, others, same => by
    cases right <;> simp [code] at same
    case text other =>
      obtain ⟨letters, after⟩ := lettersCode_cancel same
      exact ⟨by rw [String.toList_injective letters], after⟩
    case flag other => cases other <;> simp at same
  | .list items, right, more, others, same => by
    cases right <;> simp [code] at same
    case list other =>
      obtain ⟨values, after⟩ := itemsCode_cancel items other same
      exact ⟨by rw [values], after⟩
    case flag other => cases other <;> simp at same
  | .object fields, right, more, others, same => by
    cases right <;> simp [code] at same
    case object other =>
      obtain ⟨values, after⟩ := fieldsCode_cancel fields other same
      exact ⟨by rw [values], after⟩
    case flag other => cases other <;> simp at same

theorem itemsCode_cancel : (left right : List Document) → {more others : List Char} →
    itemsCode left ++ more = itemsCode right ++ others → left = right ∧ more = others
  | [], right, more, others, same => by
    cases right <;> simp [itemsCode] at same
    exact ⟨rfl, same⟩
  | item :: rest, right, more, others, same => by
    cases right with
    | nil => simp [itemsCode] at same
    | cons other tail =>
      simp only [itemsCode, List.cons_append, List.cons.injEq, true_and, List.append_assoc] at same
      obtain ⟨items, rests⟩ := code_cancel item other same
      obtain ⟨tails, after⟩ := itemsCode_cancel rest tail rests
      exact ⟨by rw [items, tails], after⟩

theorem fieldsCode_cancel : (left right : List (String × Document)) → {more others : List Char} →
    fieldsCode left ++ more = fieldsCode right ++ others → left = right ∧ more = others
  | [], right, more, others, same => by
    cases right <;> simp [fieldsCode] at same
    exact ⟨rfl, same⟩
  | (name, value) :: rest, right, more, others, same => by
    cases right with
    | nil => simp [fieldsCode] at same
    | cons other tail =>
      simp only [fieldsCode, List.cons_append, List.cons.injEq, true_and, List.append_assoc] at same
      obtain ⟨letters, values⟩ := lettersCode_cancel same
      obtain ⟨documents, rests⟩ := code_cancel value other.2 values
      obtain ⟨tails, after⟩ := fieldsCode_cancel rest tail rests
      have fields : (name, value) = other := Prod.ext (String.toList_injective letters) documents
      exact ⟨by rw [fields, tails], after⟩

end

/-- Different documents have different codes. -/
theorem code_injective (left right : Document) (same : code left = code right) : left = right :=
  (code_cancel left right (congrArg (· ++ []) same)).1

end ControlTower.Foundation.Document
