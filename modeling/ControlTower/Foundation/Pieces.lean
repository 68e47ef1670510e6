import ControlTower.Foundation.Text

/-! Texts as the pieces between their separators. What is split joins again, and a text
that goes on behind another, or ends in it, at a separator has its pieces in front, or
at the end. -/

set_option autoImplicit false

namespace ControlTower.Foundation.Text

theorem splitChars_eq_splitOn (separator : Char) (text : List Char) :
    splitChars separator text = text.splitOn separator := by
  induction text with
  | nil => exact (List.splitOn_nil separator).symm
  | cons c rest ih =>
    unfold splitChars
    rw [List.splitOn_cons_eq_if_modifyHead, ih]
    cases pieces : rest.splitOn separator with
    | nil => exact absurd pieces (List.splitOn_ne_nil separator rest)
    | cons first more =>
      by_cases here : c = separator
      · simp [here]
      · simp [here]

theorem join_cons {first : String} {rest : List String} (filled : rest ≠ []) (separator : String) :
    join separator (first :: rest) = first ++ separator ++ join separator rest := by
  cases rest with
  | nil => exact absurd rfl filled
  | cons second more => rfl

theorem toList_join (separator : Char) (parts : List String) :
    (join (String.ofList [separator]) parts).toList = [separator].intercalate (parts.map String.toList) := by
  induction parts with
  | nil => rfl
  | cons first rest ih =>
    cases rest with
    | nil => simp [join]
    | cons second more =>
      rw [join_cons (List.cons_ne_nil second more), String.toList_append, String.toList_append, ih]
      simp

section Pieces

variable {separator : Char} {text part : String}

theorem map_toList_split (separator : Char) (text : String) :
    (split separator text).map String.toList = text.toList.splitOn separator := by
  unfold split
  rw [splitChars_eq_splitOn, List.map_map]
  exact List.map_id'' (fun _ => String.toList_ofList) _

theorem split_ne_nil (separator : Char) (text : String) : split separator text ≠ [] := by
  intro empty
  have pieces := map_toList_split separator text
  rw [empty] at pieces
  exact List.splitOn_ne_nil separator text.toList pieces.symm

theorem join_split (separator : Char) (text : String) :
    join (String.ofList [separator]) (split separator text) = text := by
  apply String.toList_inj.mp
  rw [toList_join, map_toList_split, List.intercalate_splitOn]

theorem split_injective (separator : Char) : Function.Injective (split separator) := by
  intro text other same
  rw [← join_split separator text, same, join_split]

theorem split_join {parts : List String} (filled : parts ≠ []) (whole : ∀ part ∈ parts, separator ∉ part.toList) :
    split separator (join (String.ofList [separator]) parts) = parts := by
  apply List.map_injective_iff.mpr @String.toList_injective
  rw [map_toList_split, toList_join]
  apply List.splitOn_intercalate
  · intro chars member
    obtain ⟨part, present, rfl⟩ := List.mem_map.mp member
    exact whole part present
  · simpa using filled

theorem split_whole (whole : separator ∉ part.toList) : split separator part = [part] := by
  apply List.map_injective_iff.mpr @String.toList_injective
  rw [map_toList_split, List.splitOn_eq_singleton whole]
  rfl

/-- A separator cuts a text into the pieces before it and those behind it. -/
theorem split_append (separator : Char) (before behind : String) :
    split separator (before ++ String.ofList [separator] ++ behind) =
      split separator before ++ split separator behind := by
  apply List.map_injective_iff.mpr @String.toList_injective
  rw [List.map_append, map_toList_split, map_toList_split, map_toList_split, String.toList_append,
    String.toList_append, String.toList_ofList, List.append_assoc, List.singleton_append,
    List.splitOn_append_cons_self]

theorem whole_of_mem_splitChars {text piece : List Char} (member : piece ∈ splitChars separator text) :
    separator ∉ piece := by
  induction text generalizing piece with
  | nil =>
    obtain rfl := List.mem_singleton.mp member
    exact List.not_mem_nil
  | cons c rest ih =>
    unfold splitChars at member
    cases words : splitChars separator rest with
    | nil =>
      rw [splitChars_eq_splitOn] at words
      exact absurd words (List.splitOn_ne_nil separator rest)
    | cons word others =>
      rw [words] at member ih
      dsimp only at member
      by_cases here : c = separator
      · rw [if_pos here] at member
        rcases List.mem_cons.mp member with rfl | later
        · exact List.not_mem_nil
        · exact ih later
      · rw [if_neg here] at member
        rcases List.mem_cons.mp member with rfl | later
        · intro inside
          rcases List.mem_cons.mp inside with first | behind
          · exact here first.symm
          · exact ih List.mem_cons_self behind
        · exact ih (List.mem_cons_of_mem _ later)

/-- No piece holds the separator. -/
theorem whole_of_mem_split (member : part ∈ split separator text) : separator ∉ part.toList := by
  unfold split at member
  obtain ⟨chars, present, rfl⟩ := List.mem_map.mp member
  rw [String.toList_ofList]
  exact whole_of_mem_splitChars present

/-- What is joined from two runs of pieces is joined at a separator. -/
theorem join_append {front back : List String} (first : front ≠ []) (second : back ≠ []) :
    join (String.ofList [separator]) (front ++ back) =
      join (String.ofList [separator]) front ++ String.ofList [separator] ++ join (String.ofList [separator]) back := by
  induction front with
  | nil => exact absurd rfl first
  | cons head rest ih =>
    by_cases last : rest = []
    · rw [last, List.singleton_append, join_cons second]
      rfl
    · have filled : rest ++ back ≠ [] := by simp [last]
      rw [List.cons_append, join_cons filled, ih last, join_cons last]
      simp only [String.append_assoc]

/-- A text is another one, or goes on behind it at a separator, exactly when its pieces
begin with the pieces of the other. -/
theorem split_prefix_iff (separator : Char) (text base : String) :
    split separator base <+: split separator text ↔
      text = base ∨ startsWith text (base ++ String.ofList [separator]) = true := by
  unfold startsWith
  rw [List.isPrefixOf_iff_prefix]
  constructor
  · rintro ⟨rest, pieces⟩
    by_cases ended : rest = []
    · left
      rw [ended, List.append_nil] at pieces
      exact split_injective separator pieces.symm
    · right
      have whole := join_split separator text
      rw [← pieces, join_append (split_ne_nil separator base) ended, join_split] at whole
      exact ⟨(join (String.ofList [separator]) rest).toList, by rw [← whole, ← String.toList_append]⟩
  · rintro (rfl | ⟨tail, same⟩)
    · exact List.prefix_rfl
    · have whole : text = base ++ String.ofList [separator] ++ String.ofList tail := by
        apply String.toList_inj.mp
        rw [String.toList_append, String.toList_ofList, same]
      rw [whole, split_append]
      exact List.prefix_append _ _

/-- A text is another one, or ends in it behind a separator, exactly when its pieces end
with the pieces of the other. -/
theorem split_suffix_iff (separator : Char) (text base : String) :
    split separator base <:+ split separator text ↔
      text = base ∨ endsWith text (String.ofList [separator] ++ base) = true := by
  unfold endsWith
  rw [List.isSuffixOf_iff_suffix]
  constructor
  · rintro ⟨front, pieces⟩
    by_cases begun : front = []
    · left
      rw [begun, List.nil_append] at pieces
      exact split_injective separator pieces.symm
    · right
      have whole := join_split separator text
      rw [← pieces, join_append begun (split_ne_nil separator base), join_split, String.append_assoc] at whole
      exact ⟨(join (String.ofList [separator]) front).toList, by rw [← whole, ← String.toList_append]⟩
  · rintro (rfl | ⟨front, same⟩)
    · exact List.suffix_rfl
    · have whole : text = String.ofList front ++ String.ofList [separator] ++ base := by
        apply String.toList_inj.mp
        rw [String.append_assoc, String.toList_append, String.toList_ofList, same]
      rw [whole, split_append]
      exact List.suffix_append _ _

end Pieces

section Ends

variable {separator : Char}

theorem dropEndWhile_append_replicate (separator : Char) (text : List Char) :
    ∃ count, text = dropEndWhile (· == separator) text ++ List.replicate count separator := by
  obtain ⟨tail, whole, same⟩ : ∃ tail, text = dropEndWhile (· == separator) text ++ tail ∧
      ∀ c ∈ tail, c = separator := by
    refine ⟨(text.reverse.takeWhile (· == separator)).reverse, ?_, ?_⟩
    · apply List.reverse_injective
      simp [dropEndWhile]
    · intro c member
      simpa using List.mem_takeWhile_imp (List.mem_reverse.mp member)
  exact ⟨tail.length, by rw [← List.eq_replicate_of_mem same, ← whole]⟩

/-- The separators at the end of a text add empty pieces only. -/
theorem split_stripEnd (separator : Char) (text : String) :
    ∃ count, split separator text = split separator (stripEnd separator text) ++ List.replicate count "" := by
  obtain ⟨count, whole⟩ := dropEndWhile_append_replicate separator text.toList
  have grows : ∀ (front : String) count, split separator (front ++ String.ofList (List.replicate count separator)) =
      split separator front ++ List.replicate count "" := by
    intro front count
    induction count generalizing front with
    | zero => simp
    | succ more ih =>
      have shifted : front ++ String.ofList (List.replicate (more + 1) separator) =
          (front ++ String.ofList [separator] ++ "") ++ String.ofList (List.replicate more separator) := by
        apply String.toList_inj.mp
        simp [List.replicate_succ]
      have bare : split separator "" = [""] := split_whole List.not_mem_nil
      rw [shifted, ih, split_append, bare, List.replicate_succ]
      simp
  refine ⟨count, ?_⟩
  rw [← grows]
  apply congrArg
  apply String.toList_inj.mp
  rw [String.toList_append, stripEnd, String.toList_ofList, String.toList_ofList, ← whole]

end Ends

end ControlTower.Foundation.Text
