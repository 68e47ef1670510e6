import Mathlib.Data.List.DropRight
import Mathlib.Data.List.Infix

/-! Text operations on the characters of a string, with the meaning the usual
scripting-language methods give them and structural enough to evaluate. -/

set_option autoImplicit false

namespace ControlTower.Foundation.Text

/-- The characters that `strip` removes: the white space of Unicode. -/
def isSpace (c : Char) : Bool :=
  let n := c.toNat
  (9 ≤ n && n ≤ 13) || (28 ≤ n && n ≤ 32) || n == 0x85 || n == 0xA0 || n == 0x1680 ||
    (0x2000 ≤ n && n ≤ 0x200A) || n == 0x2028 || n == 0x2029 || n == 0x202F || n == 0x205F || n == 0x3000

def dropEndWhile (drop : Char → Bool) (text : List Char) : List Char :=
  (text.reverse.dropWhile drop).reverse

/-- `value.strip()`. -/
def strip (value : String) : String :=
  String.ofList (dropEndWhile isSpace (value.toList.dropWhile isSpace))

/-- The end of a trimmed text is dropped without uncovering more of its start. -/
theorem dropWhile_dropEndWhile (drop : Char → Bool) (text : List Char) :
    (dropEndWhile drop (text.dropWhile drop)).dropWhile drop = dropEndWhile drop (text.dropWhile drop) := by
  have front : dropEndWhile drop (text.dropWhile drop) <+: text.dropWhile drop := List.rdropWhile_prefix drop _
  cases trimmed : dropEndWhile drop (text.dropWhile drop) with
  | nil => rfl
  | cons first rest =>
    rw [trimmed] at front
    obtain ⟨tail, whole⟩ := front
    have kept : drop first = false := by
      have head := List.head_dropWhile_not drop (l := text) (by simp [← whole])
      simpa [← whole] using head
    simp [kept]

theorem strip_strip (value : String) : strip (strip value) = strip value := by
  simp only [strip, String.toList_ofList, dropWhile_dropEndWhile]
  exact congrArg String.ofList (List.rdropWhile_idempotent Text.isSpace _)

/-- Nothing is stripped from a text that begins and ends with other characters than white space. -/
theorem strip_of_ends {first last : Char} (middle : List Char) (front : isSpace first = false)
    (back : isSpace last = false) :
    strip (String.ofList (first :: middle ++ [last])) = String.ofList (first :: middle ++ [last]) := by
  simp [strip, dropEndWhile, front, back]

/-- Nothing is stripped from a text without white space. -/
theorem strip_of_solid {value : String} (solid : ∀ c ∈ value.toList, isSpace c = false) : strip value = value := by
  have front : value.toList.dropWhile isSpace = value.toList := by
    cases text : value.toList with
    | nil => rfl
    | cons first rest =>
      apply List.dropWhile_cons_of_neg
      rw [solid first (text ▸ List.mem_cons_self)]
      exact Bool.noConfusion
  have back : dropEndWhile isSpace value.toList = value.toList := by
    apply List.rdropWhile_eq_self_iff.mpr
    intro present
    rw [solid _ (List.getLast_mem present)]
    exact Bool.noConfusion
  unfold strip
  rw [front, back, String.ofList_toList]

/-- `value.rstrip(character)`. -/
def stripEnd (character : Char) (value : String) : String :=
  String.ofList (dropEndWhile (· == character) value.toList)

/-- `value.replace(old, new)` for single characters. -/
def replaceChar (old new : Char) (value : String) : String :=
  String.ofList (value.toList.map fun c => if c = old then new else c)

def startsWith (value start : String) : Bool := start.toList.isPrefixOf value.toList

def endsWith (value tail : String) : Bool := tail.toList.isSuffixOf value.toList

def infixOf (part : List Char) : List Char → Bool
  | [] => part.isEmpty
  | c :: rest => part.isPrefixOf (c :: rest) || infixOf part rest

/-- `part in value`. -/
def contains (value part : String) : Bool := infixOf part.toList value.toList

theorem infixOf_iff {part text : List Char} : infixOf part text = true ↔ part <:+: text := by
  induction text with
  | nil => simp [infixOf]
  | cons c rest ih => rw [infixOf, Bool.or_eq_true, List.isPrefixOf_iff_prefix, ih, List.infix_cons_iff]

theorem contains_iff {value part : String} : contains value part = true ↔ part.toList <:+: value.toList := infixOf_iff

def splitChars (separator : Char) : List Char → List (List Char)
  | [] => [[]]
  | c :: rest =>
      match splitChars separator rest with
      | [] => [[c]]
      | word :: words => if c = separator then [] :: word :: words else (c :: word) :: words

/-- `value.split(separator)` for a single character. -/
def split (separator : Char) (value : String) : List String :=
  (splitChars separator value.toList).map String.ofList

theorem head?_splitChars (separator : Char) (text : List Char) :
    (splitChars separator text).head? = some (text.takeWhile (· != separator)) := by
  induction text with
  | nil => rfl
  | cons c rest ih =>
    unfold splitChars
    cases words : splitChars separator rest with
    | nil =>
      rw [words] at ih
      cases ih
    | cons word others =>
      rw [words] at ih
      have first : word = rest.takeWhile (· != separator) := Option.some.inj ih
      by_cases here : c = separator
      · simp [here]
      · simp [here, first]

/-- The text before the first separator is a given part. -/
theorem takeWhile_eq_iff {separator : Char} {text part : List Char} (whole : separator ∉ part) :
    text.takeWhile (· != separator) = part ↔ text = part ∨ part ++ [separator] <+: text := by
  induction text generalizing part with
  | nil =>
    cases part with
    | nil => simp
    | cons first more => simp
  | cons c rest ih =>
    cases part with
    | nil =>
      by_cases here : c = separator
      · simp [here]
      · simp [here, Ne.symm here]
    | cons first more =>
      obtain ⟨apart, separate⟩ : separator ≠ first ∧ separator ∉ more := by simpa using whole
      by_cases here : c = separator
      · subst here
        simp [apart, Ne.symm apart]
      · by_cases same : c = first
        · subst same
          simp [here, ih separate]
        · simp [here, same, Ne.symm same]

/-- The first part of a split text is a given one. -/
theorem head?_split_iff {separator : Char} {text part : String} (whole : separator ∉ part.toList) :
    (split separator text).head? = some part ↔
      text = part ∨ startsWith text (part ++ String.ofList [separator]) = true := by
  have parts : text.toList.takeWhile (· != separator) = part.toList ↔ _ := takeWhile_eq_iff whole
  unfold split startsWith
  rw [List.head?_map, head?_splitChars, Option.map_some, Option.some.injEq, List.isPrefixOf_iff_prefix,
    String.toList_append, String.toList_ofList]
  constructor
  · intro same
    have listed : text.toList.takeWhile (· != separator) = part.toList := by rw [← same, String.toList_ofList]
    rcases parts.mp listed with equal | starts
    · exact .inl (String.toList_inj.mp equal)
    · exact .inr starts
  · intro starts
    have listed : text.toList.takeWhile (· != separator) = part.toList := by
      apply parts.mpr
      rcases starts with equal | starts
      · exact .inl (congrArg String.toList equal)
      · exact .inr starts
    rw [listed, String.ofList_toList]

/-- Behind the first part of a text that splits stands the separator, and the rest splits further. -/
theorem splitChars_cons {separator : Char} {text first second : List Char} {rest : List (List Char)}
    (parts : splitChars separator text = first :: second :: rest) :
    ∃ tail, text = first ++ separator :: tail ∧ splitChars separator tail = second :: rest := by
  induction text generalizing first with
  | nil => cases parts
  | cons c more ih =>
    unfold splitChars at parts
    cases words : splitChars separator more with
    | nil =>
      rw [words] at parts
      cases parts
    | cons word others =>
      rw [words] at parts
      dsimp only at parts
      by_cases here : c = separator
      · rw [if_pos here] at parts
        cases parts
        exact ⟨more, by rw [here, List.nil_append], words⟩
      · rw [if_neg here] at parts
        cases parts
        obtain ⟨tail, same, split⟩ := ih words
        exact ⟨tail, by rw [same, List.cons_append], split⟩

/-- A text whose first two parts are given ones. -/
theorem take_two_split {separator : Char} {text first second : String} (whole : separator ∉ second.toList)
    (parts : (split separator text).take 2 = [first, second]) :
    text = first ++ String.ofList [separator] ++ second ∨
      startsWith text (first ++ String.ofList [separator] ++ second ++ String.ofList [separator]) = true := by
  unfold split at parts
  rcases words : splitChars separator text.toList with _ | ⟨head, _ | ⟨next, rest⟩⟩
  · rw [words] at parts
    cases parts
  · rw [words] at parts
    cases parts
  · rw [words] at parts
    obtain ⟨tail, same, split⟩ := splitChars_cons words
    have heads : String.ofList head = first ∧ String.ofList next = second := by simpa using parts
    have firstChars : head = first.toList := by rw [← heads.1, String.toList_ofList]
    have secondChars : next = second.toList := by rw [← heads.2, String.toList_ofList]
    have begins : tail.takeWhile (· != separator) = second.toList := by
      have front := head?_splitChars separator tail
      rw [split] at front
      rw [← secondChars]
      exact (Option.some.inj front).symm
    rcases (takeWhile_eq_iff whole).mp begins with ends | ⟨more, ends⟩
    · left
      apply String.toList_inj.mp
      rw [same, firstChars, ends]
      simp
    · right
      unfold startsWith
      rw [List.isPrefixOf_iff_prefix, same, firstChars, ← ends]
      exact ⟨more, by simp⟩

/-- Texts that are cut at their first separator. -/
theorem cut_first {α : Type} {separator : α} {left right : List α} (first : separator ∉ left) (second : separator ∉ right)
    {before after : List α} (same : left ++ separator :: before = right ++ separator :: after) :
    left = right ∧ before = after := by
  induction left generalizing right with
  | nil =>
    cases right with
    | nil => exact ⟨rfl, List.tail_eq_of_cons_eq same⟩
    | cons head rest =>
      cases same
      exact absurd List.mem_cons_self second
  | cons head rest ih =>
    cases right with
    | nil =>
      cases same
      exact absurd List.mem_cons_self first
    | cons other more =>
      obtain ⟨heads, tails⟩ := List.cons_eq_cons.mp same
      obtain ⟨parts, ends⟩ := ih (fun member => first (List.mem_cons_of_mem _ member))
        (fun member => second (List.mem_cons_of_mem _ member)) tails
      exact ⟨List.cons_eq_cons.mpr ⟨heads, parts⟩, ends⟩

/-- Texts that are cut at their last separator. -/
theorem cut_last {α : Type} {separator : α} {before after : List α} (first : separator ∉ before) (second : separator ∉ after)
    {left right : List α} (same : left ++ separator :: before = right ++ separator :: after) :
    left = right ∧ before = after := by
  have backwards : before.reverse ++ separator :: left.reverse = after.reverse ++ separator :: right.reverse := by
    simpa using congrArg List.reverse same
  obtain ⟨ends, parts⟩ := cut_first (fun member => first (List.mem_reverse.mp member))
    (fun member => second (List.mem_reverse.mp member)) backwards
  exact ⟨List.reverse_injective parts, List.reverse_injective ends⟩

/-- `separator.join(parts)`. -/
def join (separator : String) : List String → String
  | [] => ""
  | [part] => part
  | part :: rest => part ++ separator ++ join separator rest

/-- `value[:count]`. -/
def take (count : Nat) (value : String) : String := String.ofList (value.toList.take count)

/-- `value or default`: the empty text counts as absent. -/
def orElse (value default : String) : String :=
  if value = "" then default else value

/-- Truth of an optional text: the empty text counts as absent. -/
def present (value : Option String) : Bool :=
  match value with
  | some text => text != ""
  | none => false

end ControlTower.Foundation.Text
