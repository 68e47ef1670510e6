import ControlTower.Task.Plans

/-! Names of branches: the slug of a title, the branch that is generated for a task,
and what a branch is that a plan accepts. -/

set_option autoImplicit false

namespace ControlTower

open Foundation

section Strips

theorem stripChar_within (character : Char) (text : List Char) : stripChar character text <:+: text :=
  (List.rdropWhile_prefix _ _).isInfix.trans (List.dropWhile_suffix _).isInfix

theorem stripChar_front (character : Char) (text : List Char) : (stripChar character text).head? ≠ some character := by
  intro front
  have again : (stripChar character text).dropWhile (· == character) = stripChar character text :=
    Text.dropWhile_dropEndWhile (· == character) text
  cases stripped : stripChar character text with
  | nil =>
    rw [stripped] at front
    cases front
  | cons first rest =>
    rw [stripped] at front again
    have same : first = character := Option.some.inj front
    have dropped : (first :: rest).dropWhile (· == character) = rest.dropWhile (· == character) :=
      List.dropWhile_cons_of_pos (beq_iff_eq.mpr same)
    have suffix : rest.dropWhile (· == character) <:+ rest := List.dropWhile_suffix _
    have size := suffix.length_le
    rw [← dropped, again, List.length_cons] at size
    exact Nat.lt_irrefl _ size

theorem stripChar_back (character : Char) (text : List Char) : (stripChar character text).getLast? ≠ some character := by
  intro back
  have present : stripChar character text ≠ [] := by
    intro empty
    rw [empty] at back
    cases back
  have last := List.rdropWhile_last_not (· == character) (text.dropWhile (· == character)) present
  rw [List.getLast?_eq_getLast_of_ne_nil present] at back
  exact last (beq_iff_eq.mpr (Option.some.inj back))

/-- Nothing is stripped from a text that neither begins nor ends with the character. -/
theorem stripChar_self {character : Char} {text : List Char} (front : text.head? ≠ some character)
    (back : text.getLast? ≠ some character) : stripChar character text = text := by
  unfold stripChar
  have start : text.dropWhile (· == character) = text := by
    cases text with
    | nil => rfl
    | cons first rest =>
      apply List.dropWhile_cons_of_neg
      intro same
      exact front (congrArg some (beq_iff_eq.mp same))
  rw [start]
  apply List.rdropWhile_eq_self_iff.mpr
  intro present same
  apply back
  rw [List.getLast?_eq_getLast_of_ne_nil present]
  exact congrArg some (beq_iff_eq.mp same)

end Strips

section Runs

variable {keep : Char → Bool}

def doubleDash : List Char := ['-', '-']

theorem mem_dashRuns {text : List Char} {inRun : Bool} {c : Char} (member : c ∈ dashRuns keep inRun text) :
    keep c = true ∧ c ∈ text ∨ c = '-' := by
  induction text generalizing inRun with
  | nil => cases member
  | cons first rest ih =>
    have later {inRun : Bool} (member : c ∈ dashRuns keep inRun rest) : keep c = true ∧ c ∈ first :: rest ∨ c = '-' := by
      rcases ih member with ⟨kept, within⟩ | dash
      · exact .inl ⟨kept, List.mem_cons_of_mem _ within⟩
      · exact .inr dash
    unfold dashRuns at member
    by_cases kept : keep first = true
    · rw [if_pos kept] at member
      rcases List.mem_cons.mp member with rfl | further
      · exact .inl ⟨kept, List.mem_cons_self⟩
      · exact later further
    · rw [if_neg kept] at member
      cases inRun with
      | true => exact later member
      | false =>
        rcases List.mem_cons.mp member with rfl | further
        · exact .inr rfl
        · exact later further

/-- A run of other characters leaves one dash, and none behind a dash. -/
theorem dashRuns_single (separates : keep '-' = false) (text : List Char) (inRun : Bool) :
    ¬ doubleDash <:+: dashRuns keep inRun text ∧ (inRun = true → (dashRuns keep inRun text).head? ≠ some '-') := by
  induction text generalizing inRun with
  | nil =>
    constructor
    · intro inside
      cases List.infix_nil.mp inside
    · intro _ impossible
      cases impossible
  | cons first rest ih =>
    unfold dashRuns
    by_cases kept : keep first = true
    · -- a character that is kept is no dash, so no double dash begins here
      have other : first ≠ '-' := by
        intro same
        rw [same, separates] at kept
        cases kept
      rw [if_pos kept]
      constructor
      · intro inside
        rcases List.infix_cons_iff.mp inside with starts | later
        · exact other (List.cons_prefix_cons.mp starts).1.symm
        · exact (ih false).1 later
      · intro _ same
        exact other (Option.some.inj same)
    · rw [if_neg kept]
      cases inRun with
      | true => exact ih true
      -- the dash that stands for a run is followed by none, by the second part of the induction
      | false =>
        constructor
        · intro inside
          rcases List.infix_cons_iff.mp inside with starts | later
          · obtain ⟨tail, same⟩ := (List.cons_prefix_cons.mp starts).2
            apply (ih true).2 rfl
            rw [← same]
            rfl
          · exact (ih true).1 later
        · intro impossible
          cases impossible

/-- A text of kept characters and single dashes stays as it is. -/
theorem dashRuns_self {text : List Char}
    (letters : ∀ c ∈ text, keep c = true ∨ c = '-') (single : ¬ doubleDash <:+: text) {inRun : Bool}
    (behind : inRun = true → text.head? ≠ some '-') : dashRuns keep inRun text = text := by
  induction text generalizing inRun with
  | nil => rfl
  | cons first rest ih =>
    have others : ∀ c ∈ rest, keep c = true ∨ c = '-' := fun c member => letters c (List.mem_cons_of_mem _ member)
    have restSingle : ¬ doubleDash <:+: rest := fun inside => single (List.infix_cons inside)
    unfold dashRuns
    by_cases kept : keep first = true
    · rw [if_pos kept, ih others restSingle Bool.noConfusion]
    · have dash : first = '-' := (letters first List.mem_cons_self).resolve_left kept
      subst dash
      rw [if_neg kept]
      cases inRun with
      | true => exact absurd rfl (behind rfl)
      | false =>
        have next : rest.head? ≠ some '-' := by
          intro starts
          cases rest with
          | nil => cases starts
          | cons second more =>
            cases starts
            exact single ⟨[], more, rfl⟩
        exact congrArg (List.cons '-') (ih others restSingle fun _ => next)

end Runs

section Slugs

/-- Words of lower-case letters and digits with single dashes between them. -/
structure SlugText (text : List Char) : Prop where
  letters : ∀ c ∈ text, isSlugChar c = true ∨ c = '-'
  single : ¬ doubleDash <:+: text

theorem SlugText.part {text part : List Char} (slug : SlugText text) (inside : part <:+: text) : SlugText part := by
  constructor
  · intro c member
    exact slug.letters c (inside.subset member)
  · intro double
    exact slug.single (double.trans inside)

/-- A slug of a title. -/
structure WellFormedSlug (slug : String) : Prop where
  nonempty : slug ≠ ""
  text : SlugText slug.toList
  short : slug.length ≤ 48
  front : slug.toList.head? ≠ some '-'
  back : slug.toList.getLast? ≠ some '-'

theorem fallback_wellFormed : WellFormedSlug "task" := by
  have letters : "task".toList.all isSlugChar = true := by decide
  refine ⟨by decide, ⟨fun c member => .inl (List.all_eq_true.mp letters c member), ?_⟩, by decide, by decide, by decide⟩
  intro double
  have dash : '-' ∈ "task".toList := double.subset List.mem_cons_self
  revert dash
  decide

/-- The words of a title, before they are cut. -/
theorem slugText_words (text : List Char) :
    SlugText (dashRuns (· != '-') false (stripChar '-' (dashRuns isSlugChar false text))) := by
  constructor
  · intro c member
    rcases mem_dashRuns member with ⟨-, within⟩ | dash
    · rcases mem_dashRuns ((stripChar_within _ _).subset within) with ⟨kept, -⟩ | dash
      · exact .inl kept
      · exact .inr dash
    · exact .inr dash
  · exact (dashRuns_single (by decide) _ false).1

variable {runtime : Runtime}

theorem slug_wellFormed (value : String) : WellFormedSlug (slug runtime value) := by
  have words := slugText_words (runtime.lower value).toList
  unfold slug
  dsimp only
  generalize dashRuns (· != '-') false (stripChar '-' (dashRuns isSlugChar false (runtime.lower value).toList)) = single
    at words ⊢
  have chosen : SlugText (if single = [] then "task".toList else single) := by
    split
    · exact fallback_wellFormed.text
    · exact words
  generalize (if single = [] then "task".toList else single) = whole at chosen ⊢
  have inside : stripChar '-' (whole.take 48) <:+: whole.take 48 := stripChar_within _ _
  unfold Text.orElse
  by_cases empty : String.ofList (stripChar '-' (whole.take 48)) = ""
  · rw [if_pos empty]
    exact fallback_wellFormed
  · rw [if_neg empty]
    constructor
    · exact empty
    · rw [String.toList_ofList]
      exact chosen.part (inside.trans (List.take_prefix 48 whole).isInfix)
    · rw [String.length_ofList]
      exact Nat.le_trans inside.length_le (List.length_take_le 48 whole)
    · rw [String.toList_ofList]
      exact stripChar_front _ _
    · rw [String.toList_ofList]
      exact stripChar_back _ _

/-- `str.lower` on ASCII characters. -/
def LowersAscii (runtime : Runtime) : Prop :=
  ∀ text : String, (∀ c ∈ text.toList, c.toNat < 128) → runtime.lower text = String.ofList (text.toList.map Char.toLower)

theorem slugChar_code {c : Char} (letter : isSlugChar c = true ∨ c = '-') :
    97 ≤ c.toNat ∧ c.toNat ≤ 122 ∨ 48 ≤ c.toNat ∧ c.toNat ≤ 57 ∨ c.toNat = 45 := by
  rcases letter with letter | rfl
  · unfold isSlugChar at letter
    simp only [Bool.or_eq_true, Bool.and_eq_true, decide_eq_true_eq, Char.le_def, UInt32.le_iff_toNat_le] at letter
    rcases letter with small | digit
    · exact .inl small
    · exact .inr (.inl digit)
  · exact .inr (.inr rfl)

theorem slugChar_ascii {c : Char} (letter : isSlugChar c = true ∨ c = '-') : c.toNat < 128 ∧ c.toLower = c := by
  have code := slugChar_code letter
  constructor
  · omega
  · unfold Char.toLower
    apply dif_neg
    intro upper
    have low : 65 ≤ c.toNat := UInt32.le_iff_toNat_le.mp upper.1
    have high : c.toNat ≤ 90 := UInt32.le_iff_toNat_le.mp upper.2
    omega

theorem lower_slug (ascii : LowersAscii runtime) {slug : String} (wellFormed : WellFormedSlug slug) :
    runtime.lower slug = slug := by
  rw [ascii slug fun c member => (slugChar_ascii (wellFormed.text.letters c member)).1]
  have same : slug.toList.map Char.toLower = slug.toList := by
    calc slug.toList.map Char.toLower
      _ = slug.toList.map id :=
        List.map_congr_left fun c member => (slugChar_ascii (wellFormed.text.letters c member)).2
      _ = slug.toList := List.map_id _
  rw [same, String.ofList_toList]

/-- A slug is the slug of itself. -/
theorem slug_self (ascii : LowersAscii runtime) {value : String} (wellFormed : WellFormedSlug value) :
    slug runtime value = value := by
  have letters := wellFormed.text.letters
  have words : dashRuns isSlugChar false value.toList = value.toList :=
    dashRuns_self letters wellFormed.text.single Bool.noConfusion
  have stripped : stripChar '-' value.toList = value.toList := stripChar_self wellFormed.front wellFormed.back
  have again : dashRuns (· != '-') false value.toList = value.toList := by
    apply dashRuns_self _ wellFormed.text.single Bool.noConfusion
    intro c _
    by_cases dash : c = '-'
    · exact .inr dash
    · exact .inl (bne_iff_ne.mpr dash)
  have some_ : value.toList ≠ [] := fun none => wellFormed.nonempty (String.toList_inj.mp none)
  have whole : value.toList.take 48 = value.toList := List.take_of_length_le wellFormed.short
  unfold slug
  dsimp only
  rw [lower_slug ascii wellFormed, words, stripped, again, if_neg some_, whole, stripped, String.ofList_toList]
  exact if_neg wellFormed.nonempty

end Slugs

section Names

/-- A character that a generated branch has besides its slash. -/
def isTailChar (c : Char) : Bool := isWordChar c || c == '-'

theorem tailChar_code {c : Char} (letter : isTailChar c = true) :
    65 ≤ c.toNat ∧ c.toNat ≤ 90 ∨ 97 ≤ c.toNat ∧ c.toNat ≤ 122 ∨ 48 ≤ c.toNat ∧ c.toNat ≤ 57 ∨ c.toNat = 95 ∨ c.toNat = 45 := by
  unfold isTailChar isWordChar at letter
  simp only [Bool.or_eq_true, Bool.and_eq_true, decide_eq_true_eq, Char.le_def, UInt32.le_iff_toNat_le, beq_iff_eq] at letter
  rcases letter with (((upper | lower) | digit) | rfl) | rfl
  · exact .inl upper
  · exact .inr (.inl lower)
  · exact .inr (.inr (.inl digit))
  · exact .inr (.inr (.inr (.inl rfl)))
  · exact .inr (.inr (.inr (.inr rfl)))

theorem tailChar_ne {c : Char} (letter : isTailChar c = true) : c ≠ '/' ∧ c ≠ '.' := by
  constructor <;> intro same <;> subst same <;> exact absurd letter (by decide)

theorem solid_of_code {c : Char} (low : 33 ≤ c.toNat) (high : c.toNat < 128) : Text.isSpace c = false := by
  unfold Text.isSpace
  simp only [Bool.or_eq_false_iff, Bool.and_eq_false_iff, decide_eq_false_iff_not, beq_eq_false_iff_ne]
  omega

theorem slugChar_tail {c : Char} (letter : isSlugChar c = true ∨ c = '-') : isTailChar c = true := by
  rcases letter with letter | rfl
  · unfold isSlugChar at letter
    unfold isTailChar isWordChar
    rw [Bool.or_eq_true] at letter
    rcases letter with lower | digit
    · simp only [lower, Bool.or_true, Bool.true_or]
    · simp only [digit, Bool.or_true, Bool.true_or]
  · decide

theorem branchChar {c : Char} (letter : isTailChar c = true ∨ c = '/') : (isNameChar c || c == '/') = true := by
  rcases letter with letter | rfl
  · unfold isTailChar at letter
    unfold isNameChar
    rw [Bool.or_eq_true] at letter
    rcases letter with word | dash
    · simp only [word, Bool.true_or]
    · simp only [dash, Bool.or_true, Bool.true_or]
  · decide

theorem removeAll_subset (part : List Char) (skip : Nat) (text : List Char) : removeAll part skip text ⊆ text := by
  induction text generalizing skip with
  | nil =>
    cases skip <;> exact List.nil_subset _
  | cons first rest ih =>
    cases skip with
    | succ skip => exact List.Subset.trans (ih skip) (List.subset_cons_self first rest)
    | zero =>
      unfold removeAll
      split
      · exact List.Subset.trans (ih _) (List.subset_cons_self first rest)
      · exact List.cons_subset_cons first (ih 0)

theorem shortTaskId_subset (taskId : String) : (shortTaskId taskId).toList ⊆ taskId.toList := by
  unfold shortTaskId Text.orElse
  split
  · unfold Text.take
    rw [String.toList_ofList]
    exact List.take_subset 12 _
  · unfold Text.take
    rw [String.toList_ofList, String.toList_ofList]
    exact List.Subset.trans (List.take_subset 12 _) (removeAll_subset _ 0 _)

end Names

section Safe

variable {runtime : Runtime}

/-- What the check of a branch asks for, of its trimmed name. -/
structure SafeBranch (runtime : Runtime) (clean : String) : Prop where
  leading : Text.startsWith clean "/" = false
  trailing : Text.endsWith clean "/" = false
  dots : Text.contains clean ".." = false
  slashes : Text.contains clean "//" = false
  pattern : isBranchText clean = true
  unprotected : isProtectedBranch runtime clean = false
  start : ∃ start ∈ safeBranchPrefixes, Text.startsWith clean start = true

theorem isSafeBranchName_iff {branch : String} :
    isSafeBranchName runtime branch = true ↔ SafeBranch runtime (Text.strip branch) := by
  unfold isSafeBranchName
  simp only [Bool.and_eq_true, Bool.not_eq_true', List.any_eq_true]
  constructor
  · rintro ⟨⟨⟨⟨⟨⟨⟨-, leading⟩, trailing⟩, dots⟩, slashes⟩, pattern⟩, unprotected⟩, start⟩
    exact ⟨leading, trailing, dots, slashes, pattern, unprotected, start⟩
  · intro safe
    have present : (Text.strip branch != "") = true := (Bool.and_eq_true_iff.mp safe.pattern).1
    exact ⟨⟨⟨⟨⟨⟨⟨present, safe.leading⟩, safe.trailing⟩, safe.dots⟩, safe.slashes⟩, safe.pattern⟩, safe.unprotected⟩,
      safe.start⟩

theorem endsWith_slash {text : String} (back : text.toList.getLast? ≠ some '/') : Text.endsWith text "/" = false := by
  unfold Text.endsWith
  rw [Bool.eq_false_iff, ne_eq, List.isSuffixOf_iff_suffix]
  rintro ⟨front, same⟩
  apply back
  rw [← same]
  exact List.getLast?_concat

theorem back_of_endsWith {text : String} (back : Text.endsWith text "/" = false) : text.toList.getLast? ≠ some '/' := by
  intro last
  obtain ⟨front, same⟩ := List.getLast?_eq_some_iff.mp last
  unfold Text.endsWith at back
  rw [Bool.eq_false_iff, ne_eq, List.isSuffixOf_iff_suffix] at back
  exact back ⟨front, same.symm⟩

theorem front_of_startsWith {text : String} (front : Text.startsWith text "/" = false) : text.toList.head? ≠ some '/' := by
  intro first
  obtain ⟨rest, same⟩ := List.head?_eq_some_iff.mp first
  unfold Text.startsWith at front
  rw [Bool.eq_false_iff, ne_eq, List.isPrefixOf_iff_prefix] at front
  exact front ⟨rest, same.symm⟩

theorem branchText_solid {text : String} (pattern : isBranchText text = true) : ∀ c ∈ text.toList, Text.isSpace c = false := by
  unfold isBranchText at pattern
  intro c member
  have letter := List.all_eq_true.mp (Bool.and_eq_true_iff.mp pattern).2 c member
  unfold isNameChar at letter
  simp only [Bool.or_eq_true, beq_iff_eq] at letter
  rcases letter with ((word | rfl) | rfl) | rfl
  · have code := tailChar_code (Bool.or_eq_true_iff.mpr (.inl word))
    exact solid_of_code (by omega) (by omega)
  · decide
  · decide
  · decide

end Safe

section Generated

variable {runtime : Runtime}

/-- The part of a generated branch behind its first slash. -/
def branchTail (runtime : Runtime) (task : AgentTask) : String :=
  "agent-task-" ++ shortTaskId task.id ++ "-" ++ slug runtime task.title

/-- Identifiers of ASCII letters, digits and underscores. -/
def PlainId (taskId : String) : Prop := ∀ c ∈ taskId.toList, isWordChar c = true

theorem branchTail_chars {task : AgentTask} (plain : PlainId task.id) :
    ∀ c ∈ (branchTail runtime task).toList, isTailChar c = true := by
  intro c member
  unfold branchTail at member
  simp only [String.toList_append, List.mem_append] at member
  rcases member with ((start | short) | dash) | title
  · exact List.all_eq_true.mp (by decide) c start
  · exact Bool.or_eq_true_iff.mpr (.inl (plain c (shortTaskId_subset task.id short)))
  · exact List.all_eq_true.mp (by decide) c dash
  · exact slugChar_tail ((slug_wellFormed task.title).text.letters c title)

/-- A branch that begins with `feature/`, and one slash only. -/
theorem generated_chars {task : AgentTask} (plain : PlainId task.id) :
    ∀ c ∈ ("feature/" ++ branchTail runtime task).toList, isTailChar c = true ∨ c = '/' := by
  intro c member
  rw [String.toList_append, List.mem_append] at member
  rcases member with start | tail
  · have letters : ("feature/".toList.all fun c => isTailChar c || c == '/') = true := by decide
    simpa using List.all_eq_true.mp letters c start
  · exact .inl (branchTail_chars plain c tail)

theorem generated_back (task : AgentTask) : ("feature/" ++ branchTail runtime task).toList.getLast? ≠ some '/' := by
  have title := @slug_wellFormed runtime task.title
  have present : (slug runtime task.title).toList ≠ [] := fun none => title.nonempty (String.toList_inj.mp none)
  intro back
  unfold branchTail at back
  rw [String.toList_append, String.toList_append, List.getLast?_append_of_ne_nil _ (List.append_ne_nil_of_right_ne_nil _ present),
    List.getLast?_append_of_ne_nil _ present] at back
  rcases title.text.letters '/' (List.mem_of_getLast? back) with letter | dash
  · revert letter
    decide
  · revert dash
    decide

theorem generated_single_slash {task : AgentTask} (plain : PlainId task.id) :
    ¬ ['/', '/'] <:+: ("feature/" ++ branchTail runtime task).toList := by
  intro double
  have twice := double.sublist.count_le '/'
  have none : (branchTail runtime task).toList.count '/' = 0 :=
    List.count_eq_zero.mpr fun member => (tailChar_ne (branchTail_chars plain '/' member)).1 rfl
  rw [String.toList_append, List.count_append, none] at twice
  revert twice
  decide

theorem generated_no_dots {task : AgentTask} (plain : PlainId task.id) :
    ¬ ['.', '.'] <:+: ("feature/" ++ branchTail runtime task).toList := by
  intro double
  rcases generated_chars plain '.' (double.subset List.mem_cons_self) with letter | slash
  · exact (tailChar_ne letter).2 rfl
  · revert slash
    decide

theorem generated_solid {task : AgentTask} (plain : PlainId task.id) :
    ∀ c ∈ ("feature/" ++ branchTail runtime task).toList, 33 ≤ c.toNat ∧ c.toNat < 128 := by
  intro c member
  rcases generated_chars plain c member with letter | rfl
  · have code := tailChar_code letter
    omega
  · decide

theorem generated_unprotected (ascii : LowersAscii runtime) {task : AgentTask} (plain : PlainId task.id) :
    isProtectedBranch runtime ("feature/" ++ branchTail runtime task) = false := by
  have solid : Text.strip ("feature/" ++ branchTail runtime task) = "feature/" ++ branchTail runtime task :=
    Text.strip_of_solid fun c member => solid_of_code (generated_solid plain c member).1 (generated_solid plain c member).2
  have front : ("feature/" ++ branchTail runtime task).toList.head? ≠ some '/' := by
    rw [String.toList_append]
    intro same
    cases same
  unfold isProtectedBranch
  rw [solid, stripChar_self front (generated_back task), String.ofList_toList,
    ascii _ fun c member => (generated_solid plain c member).2]
  have slash : '/' ∈ (String.ofList (("feature/" ++ branchTail runtime task).toList.map Char.toLower)).toList := by
    rw [String.toList_ofList, String.toList_append, List.map_append]
    exact List.mem_append_left _ (by decide)
  generalize String.ofList (("feature/" ++ branchTail runtime task).toList.map Char.toLower) = lowered at slash ⊢
  rw [List.contains_eq_mem, decide_eq_false_iff_not]
  intro member
  have apart : ∀ name ∈ workerProtectedBranches, '/' ∉ name.toList := by decide
  exact apart lowered member slash

theorem plannedBranch_generated {task : AgentTask} (preference : Text.present task.branchPreference = false) :
    plannedBranchForTask runtime task = "feature/" ++ branchTail runtime task := by
  unfold plannedBranchForTask branchTail
  rw [preference, if_neg Bool.noConfusion]
  apply String.toList_inj.mp
  simp only [String.toList_append, List.append_assoc]
  rfl

/-- A generated branch passes its own check. -/
theorem generated_safe (ascii : LowersAscii runtime) {task : AgentTask}
    (preference : Text.present task.branchPreference = false) (plain : PlainId task.id) :
    isSafeBranchName runtime (plannedBranchForTask runtime task) = true := by
  rw [plannedBranch_generated preference]
  -- a generated name has no white space to strip
  have solid : Text.strip ("feature/" ++ branchTail runtime task) = "feature/" ++ branchTail runtime task :=
    Text.strip_of_solid fun c member => solid_of_code (generated_solid plain c member).1 (generated_solid plain c member).2
  rw [isSafeBranchName_iff, solid]
  constructor
  · unfold Text.startsWith
    rw [String.toList_append]
    rfl
  · exact endsWith_slash (generated_back task)
  · rw [Bool.eq_false_iff, ne_eq, Text.contains_iff]
    exact generated_no_dots plain
  · rw [Bool.eq_false_iff, ne_eq, Text.contains_iff]
    exact generated_single_slash plain
  · unfold isBranchText
    rw [Bool.and_eq_true, List.all_eq_true]
    constructor
    · apply bne_iff_ne.mpr
      intro empty
      have front := congrArg String.toList empty
      rw [String.toList_append] at front
      cases front
    · intro c member
      exact branchChar (generated_chars plain c member)
  · exact generated_unprotected ascii plain
  · refine ⟨"feature/", List.mem_cons_self, ?_⟩
    unfold Text.startsWith
    rw [List.isPrefixOf_iff_prefix, String.toList_append]
    exact List.prefix_append _ _

/-- A branch that a plan accepts is safe. -/
theorem validateBranchPlan_safe {task : AgentTask} (accepted : validateBranchPlan runtime task = none) :
    SafeBranch runtime (Text.strip (plannedBranchForTask runtime task)) := by
  apply isSafeBranchName_iff.mp
  unfold validateBranchPlan at accepted
  dsimp only at accepted
  by_contra unsafe_
  rw [Bool.not_eq_true] at unsafe_
  rw [if_pos unsafe_] at accepted
  split at accepted
  · cases accepted
  split at accepted <;> cases accepted

/-- No spelling of a branch with capital letters is protected. -/
theorem SafeBranch.anyCase (ascii : LowersAscii runtime) {clean variant : String} (safe : SafeBranch runtime clean)
    (same : runtime.lower variant = runtime.lower clean) : variant ∉ workerProtectedBranches := by
  intro member
  have plain : ∀ name ∈ workerProtectedBranches, (∀ c ∈ name.toList, c.toNat < 128) ∧
      name.toList.map Char.toLower = name.toList := by
    have each : (workerProtectedBranches.all fun name => (name.toList.all fun c => decide (c.toNat < 128)) &&
        name.toList.map Char.toLower == name.toList) = true := by decide
    simpa using each
  have lowered : runtime.lower variant = variant := by
    rw [ascii variant (plain variant member).1, (plain variant member).2, String.ofList_toList]
  have named := safe.unprotected
  unfold isProtectedBranch at named
  rw [Text.strip_of_solid (branchText_solid safe.pattern), stripChar_self (front_of_startsWith safe.leading)
    (back_of_endsWith safe.trailing), String.ofList_toList, ← same, lowered, List.contains_eq_mem,
    decide_eq_false_iff_not] at named
  exact named member

/-- Generated branches are usable, slugs are well formed, and accepted branches are safe. -/
theorem branches_usable_and_safe (ascii : LowersAscii runtime) :
    (∀ task : AgentTask, Text.present task.branchPreference = false → PlainId task.id →
      isSafeBranchName runtime (plannedBranchForTask runtime task) = true) ∧
    (∀ value, WellFormedSlug (slug runtime value) ∧ slug runtime (slug runtime value) = slug runtime value) ∧
    ∀ task, validateBranchPlan runtime task = none →
      SafeBranch runtime (Text.strip (plannedBranchForTask runtime task)) ∧
        ∀ variant, runtime.lower variant = runtime.lower (Text.strip (plannedBranchForTask runtime task)) →
          variant ∉ workerProtectedBranches := by
  refine ⟨fun task preference plain => generated_safe ascii preference plain, ?_, ?_⟩
  · intro value
    have wellFormed := @slug_wellFormed runtime value
    exact ⟨wellFormed, slug_self ascii wellFormed⟩
  · intro task accepted
    have safe := validateBranchPlan_safe accepted
    exact ⟨safe, fun variant => safe.anyCase ascii⟩

/-- A runtime that lowers the letters of ASCII only. -/
def asciiRuntime : Runtime :=
  { Runtime.plain true with lower := fun text => String.ofList (text.toList.map Char.toLower) }

theorem asciiRuntime_branches :
    (∀ task : AgentTask, Text.present task.branchPreference = false → PlainId task.id →
      isSafeBranchName asciiRuntime (plannedBranchForTask asciiRuntime task) = true) ∧
    (∀ value, WellFormedSlug (slug asciiRuntime value) ∧
      slug asciiRuntime (slug asciiRuntime value) = slug asciiRuntime value) ∧
    ∀ task, validateBranchPlan asciiRuntime task = none →
      SafeBranch asciiRuntime (Text.strip (plannedBranchForTask asciiRuntime task)) ∧
        ∀ variant, asciiRuntime.lower variant = asciiRuntime.lower (Text.strip (plannedBranchForTask asciiRuntime task)) →
          variant ∉ workerProtectedBranches :=
  branches_usable_and_safe fun _ _ => rfl

end Generated

end ControlTower
