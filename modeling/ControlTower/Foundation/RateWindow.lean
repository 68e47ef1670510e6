import Mathlib.Data.Finset.Max
import Mathlib.Data.Finset.Union
import Mathlib.Algebra.Order.BigOperators.Group.Finset
import Mathlib.Order.Lattice.Nat
import Mathlib.Order.Monotone.Basic

/-! Fixed windows that count requests. The first request of a window opens it; within
the window a bounded number of requests is accepted, and the first request behind it
opens the next one. Requests arrive at non-decreasing times, the first at index zero. -/

set_option autoImplicit false

namespace ControlTower.Foundation.RateWindow

/-- An open window: the index of the request that opened it, and how many it has accepted. -/
structure Window where
  opener : Nat
  used : Nat
  deriving DecidableEq

inductive Verdict where
  | accepted | rejected
  /-- The end of the window cannot be represented. -/
  | stuck
  deriving DecidableEq

/-- Requests at their times, with the length of a window, the bound on accepted requests
in it, and the first point in time that cannot be represented. -/
structure Load where
  time : Nat → Nat
  length : Nat
  limit : Nat
  horizon : Nat

variable (load : Load)

/-- The verdict on a request in a window, and the window after it. -/
def judge (state : Option Window) (index : Nat) : Verdict × Option Window :=
  match state with
  | none => (.accepted, some ⟨index, 1⟩)
  | some window =>
      if load.horizon ≤ load.time window.opener + load.length then (.stuck, some window)
      else if load.time window.opener + load.length ≤ load.time index then (.accepted, some ⟨index, 1⟩)
      else if window.used < load.limit then (.accepted, some { window with used := window.used + 1 })
      else (.rejected, some window)

/-- The window before a request. -/
def before : Nat → Option Window
  | 0 => none
  | index + 1 => (judge load (before index) index).2

def verdict (index : Nat) : Verdict := (judge load (before load index) index).1

/-- The request that opened the window of a request. -/
def opener (index : Nat) : Nat := ((before load (index + 1)).map (·.opener)).getD 0

def acceptedBelow (count : Nat) : Finset Nat := (Finset.range count).filter fun index => verdict load index = .accepted

/-- The accepted requests of one window, among the first ones. -/
def acceptedIn (count window : Nat) : Finset Nat := (acceptedBelow load count).filter fun index => opener load index = window

section Steps

variable {load}

theorem judge_stuck {window : Window} (late : load.horizon ≤ load.time window.opener + load.length) (index : Nat) :
    judge load (some window) index = (.stuck, some window) := by
  unfold judge
  dsimp only
  rw [if_pos late]

theorem judge_passed {window : Window} {index : Nat} (early : ¬ load.horizon ≤ load.time window.opener + load.length)
    (passed : load.time window.opener + load.length ≤ load.time index) :
    judge load (some window) index = (.accepted, some ⟨index, 1⟩) := by
  unfold judge
  dsimp only
  rw [if_neg early, if_pos passed]

theorem judge_free {window : Window} {index : Nat} (early : ¬ load.horizon ≤ load.time window.opener + load.length)
    (inside : ¬ load.time window.opener + load.length ≤ load.time index) (free : window.used < load.limit) :
    judge load (some window) index = (.accepted, some { window with used := window.used + 1 }) := by
  unfold judge
  dsimp only
  rw [if_neg early, if_neg inside, if_pos free]

theorem judge_full {window : Window} {index : Nat} (early : ¬ load.horizon ≤ load.time window.opener + load.length)
    (inside : ¬ load.time window.opener + load.length ≤ load.time index) (full : ¬ window.used < load.limit) :
    judge load (some window) index = (.rejected, some window) := by
  unfold judge
  dsimp only
  rw [if_neg early, if_neg inside, if_neg full]

/-- What one request does. -/
theorem judge_cases (index : Nat) :
    (∃ window, before load index = some window ∧ before load (index + 1) = some window ∧
        verdict load index = .stuck) ∨
      ((before load index = none ∨ ∃ window, before load index = some window ∧
          load.time window.opener + load.length ≤ load.time index) ∧
        before load (index + 1) = some ⟨index, 1⟩ ∧ verdict load index = .accepted) ∨
      (∃ window, before load index = some window ∧ load.time index < load.time window.opener + load.length ∧
        window.used < load.limit ∧ before load (index + 1) = some { window with used := window.used + 1 } ∧
        verdict load index = .accepted) ∨
      (∃ window, before load index = some window ∧ load.time index < load.time window.opener + load.length ∧
        load.limit ≤ window.used ∧ before load (index + 1) = some window ∧ verdict load index = .rejected) := by
  have next : before load (index + 1) = (judge load (before load index) index).2 := rfl
  rw [next]
  unfold verdict
  cases state : before load index with
  | none => exact .inr (.inl ⟨.inl rfl, rfl, rfl⟩)
  | some window =>
    by_cases late : load.horizon ≤ load.time window.opener + load.length
    · rw [judge_stuck late]
      exact .inl ⟨window, rfl, rfl, rfl⟩
    by_cases passed : load.time window.opener + load.length ≤ load.time index
    · rw [judge_passed late passed]
      exact .inr (.inl ⟨.inr ⟨window, rfl, passed⟩, rfl, rfl⟩)
    have inside := Nat.lt_of_not_le passed
    by_cases free : window.used < load.limit
    · rw [judge_free late passed free]
      exact .inr (.inr (.inl ⟨window, rfl, inside, free, rfl, rfl⟩))
    · rw [judge_full late passed free]
      exact .inr (.inr (.inr ⟨window, rfl, inside, Nat.le_of_not_lt free, rfl, rfl⟩))

theorem opener_eq {index : Nat} {window : Window} (state : before load (index + 1) = some window) :
    opener load index = window.opener := by
  unfold opener
  rw [state]
  rfl

/-- The window of the current state is where the requests before it have left it. -/
structure Settled (load : Load) (index : Nat) (window : Window) : Prop where
  opened : window.opener < index
  own : opener load window.opener = window.opener
  count : (acceptedIn load index window.opener).card = window.used
  within : window.used ≤ load.limit
  latest : ∀ earlier < index, opener load earlier ≤ window.opener

theorem acceptedBelow_succ (index : Nat) :
    acceptedBelow load (index + 1) =
      if verdict load index = .accepted then insert index (acceptedBelow load index) else acceptedBelow load index := by
  unfold acceptedBelow
  rw [Finset.range_add_one, Finset.filter_insert]

theorem acceptedIn_succ (index window : Nat) :
    acceptedIn load (index + 1) window =
      if verdict load index = .accepted ∧ opener load index = window then insert index (acceptedIn load index window)
      else acceptedIn load index window := by
  unfold acceptedIn
  rw [acceptedBelow_succ]
  by_cases accepted : verdict load index = .accepted
  · rw [if_pos accepted, Finset.filter_insert]
    simp only [accepted, true_and]
  · rw [if_neg accepted, if_neg fun both => accepted both.1]

theorem index_not_mem (index window : Nat) : index ∉ acceptedIn load index window := by
  unfold acceptedIn acceptedBelow
  simp

theorem acceptedIn_empty {index window : Nat} (later : ∀ earlier < index, opener load earlier ≠ window) :
    acceptedIn load index window = ∅ := by
  unfold acceptedIn acceptedBelow
  apply Finset.filter_eq_empty_iff.mpr
  intro earlier member
  exact later earlier (Finset.mem_range.mp (Finset.mem_filter.mp member).1)

theorem before_some {index : Nat} (later : 0 < index) : ∃ window, before load index = some window := by
  cases index with
  | zero => exact absurd later (Nat.lt_irrefl 0)
  | succ index =>
    rcases @judge_cases load index with ⟨held, -, now, -⟩ | ⟨-, now, -⟩ | ⟨held, -, -, -, now, -⟩ |
      ⟨held, -, -, -, now, -⟩
    · exact ⟨held, now⟩
    · exact ⟨⟨index, 1⟩, now⟩
    · exact ⟨_, now⟩
    · exact ⟨held, now⟩

/-- A request that is not accepted leaves its window as it was. -/
theorem Settled.hold {index : Nat} {window : Window} (so_far : Settled load index window)
    (now : before load (index + 1) = some window) (ruled : verdict load index ≠ .accepted) :
    Settled load (index + 1) window := by
  constructor
  · exact Nat.lt_succ_of_lt so_far.opened
  · exact so_far.own
  · rw [acceptedIn_succ, if_neg fun both => ruled both.1]
    exact so_far.count
  · exact so_far.within
  · intro earlier bound
    rcases Nat.lt_succ_iff_lt_or_eq.mp bound with before | rfl
    · exact so_far.latest earlier before
    · exact Nat.le_of_eq (opener_eq now)

/-- The first request behind a window, or the first of all, opens its own. -/
theorem settled_opened (positive : 1 ≤ load.limit) {index : Nat}
    (now : before load (index + 1) = some ⟨index, 1⟩) (ruled : verdict load index = .accepted)
    (before_it : ∀ earlier < index, opener load earlier < index) : Settled load (index + 1) ⟨index, 1⟩ := by
  have own : opener load index = index := opener_eq now
  constructor
  · exact Nat.lt_succ_self index
  · exact own
  · rw [acceptedIn_succ, if_pos ⟨ruled, own⟩,
      acceptedIn_empty fun earlier bound => Nat.ne_of_lt (before_it earlier bound)]
    rfl
  · exact positive
  · intro earlier bound
    rcases Nat.lt_succ_iff_lt_or_eq.mp bound with before | rfl
    · exact Nat.le_of_lt (before_it earlier before)
    · exact Nat.le_of_eq own

theorem Settled.accept {index : Nat} {window : Window} (so_far : Settled load index window)
    (free : window.used < load.limit) (now : before load (index + 1) = some { window with used := window.used + 1 })
    (ruled : verdict load index = .accepted) : Settled load (index + 1) { window with used := window.used + 1 } := by
  have own : opener load index = window.opener := (opener_eq now).trans rfl
  constructor
  · exact Nat.lt_succ_of_lt so_far.opened
  · exact so_far.own
  · rw [acceptedIn_succ, if_pos ⟨ruled, own⟩, Finset.card_insert_of_notMem (index_not_mem index _), so_far.count]
  · exact free
  · intro earlier bound
    rcases Nat.lt_succ_iff_lt_or_eq.mp bound with before | rfl
    · exact so_far.latest earlier before
    · exact Nat.le_of_eq own

theorem settled (positive : 1 ≤ load.limit) {index : Nat} {window : Window} (state : before load index = some window) :
    Settled load index window := by
  induction index generalizing window with
  | zero => cases state
  | succ index ih =>
    rcases @judge_cases load index with ⟨held, was, now, ruled⟩ | ⟨opens, now, ruled⟩ |
      ⟨held, was, -, free, now, ruled⟩ | ⟨held, was, -, -, now, ruled⟩
    all_goals
      rw [now] at state
      cases state
    · apply (ih was).hold now
      rw [ruled]
      intro impossible
      cases impossible
    · apply settled_opened positive now ruled
      intro earlier bound
      obtain ⟨held, was⟩ := @before_some load _ (Nat.zero_lt_of_lt bound)
      exact Nat.lt_of_le_of_lt ((ih was).latest earlier bound) (ih was).opened
    · exact (ih was).accept free now ruled
    · apply (ih was).hold now
      rw [ruled]
      intro impossible
      cases impossible

end Steps

section Bounds

variable {load} (positive : 1 ≤ load.limit) (ordered : Monotone load.time)

include positive in
theorem opener_le (index : Nat) : opener load index ≤ index := by
  obtain ⟨window, state⟩ := @before_some load _ (Nat.succ_pos index)
  rw [opener_eq state]
  exact Nat.le_of_lt_succ (settled positive state).opened

include positive in
theorem opener_own (index : Nat) : opener load (opener load index) = opener load index := by
  obtain ⟨window, state⟩ := @before_some load _ (Nat.succ_pos index)
  rw [opener_eq state]
  exact (settled positive state).own

include positive in
theorem opener_mono {index later : Nat} (order : index ≤ later) : opener load index ≤ opener load later := by
  obtain ⟨window, state⟩ := @before_some load _ (Nat.succ_pos later)
  rw [opener_eq state]
  exact (settled positive state).latest index (Nat.lt_succ_of_le order)

include positive in
/-- No window accepts more than the limit. -/
theorem window_bounded (count window : Nat) : (acceptedIn load count window).card ≤ load.limit := by
  induction count with
  | zero => exact Nat.zero_le _
  | succ index ih =>
    by_cases counted : verdict load index = .accepted ∧ opener load index = window
    · obtain ⟨state, now⟩ := @before_some load _ (Nat.succ_pos index)
      have filled := settled positive now
      rw [← counted.2, opener_eq now, filled.count]
      exact filled.within
    · rw [acceptedIn_succ, if_neg counted]
      exact ih

include positive ordered in
/-- A window lasts before the next one opens. -/
theorem openers_apart {first second : Nat} (one : opener load first = first) (other : opener load second = second)
    (order : first < second) : load.time first + load.length ≤ load.time second := by
  have inside {held : Window} (was : before load second = some held) (same : opener load second = held.opener) :
      False := by
    have opened := (settled positive was).opened
    rw [← same, other] at opened
    exact Nat.lt_irrefl second opened
  rcases @judge_cases load second with ⟨held, was, now, -⟩ | ⟨opens, now, -⟩ | ⟨held, was, -, -, now, -⟩ |
    ⟨held, was, -, -, now, -⟩
  · exact (inside was (opener_eq now)).elim
  · rcases opens with none | ⟨held, was, passed⟩
    · obtain ⟨held, was⟩ := @before_some load _ (Nat.zero_lt_of_lt order)
      rw [none] at was
      cases was
    · have latest := (settled positive was).latest first order
      rw [one] at latest
      calc load.time first + load.length
        _ ≤ load.time held.opener + load.length := Nat.add_le_add_right (ordered latest) _
        _ ≤ load.time second := passed
  · exact (inside was ((opener_eq now).trans rfl)).elim
  · exact (inside was (opener_eq now)).elim

/-- The accepted requests among the first ones from a point in time on, for as long as a window lasts. -/
def acceptedFrom (load : Load) (count start : Nat) : Finset Nat :=
  (acceptedBelow load count).filter fun index => start ≤ load.time index ∧ load.time index < start + load.length

include positive ordered in
/-- The requests of an interval as long as a window are from two windows. -/
theorem interval_openers (count start : Nat) : ((acceptedFrom load count start).image (opener load)).card ≤ 2 := by
  rcases Finset.eq_empty_or_nonempty ((acceptedFrom load count start).image (opener load)) with empty | some
  · rw [empty]
    exact Nat.zero_le 2
  obtain ⟨first, least⟩ := Finset.mem_image.mp (Finset.min'_mem _ some)
  -- behind the first opener there is at most one other
  have later : ((((acceptedFrom load count start).image (opener load)).erase
      (Finset.min' _ some))).card ≤ 1 := by
    apply Finset.card_le_one.mpr
    have apart {one other : Nat}
        (member : one ∈ ((acceptedFrom load count start).image (opener load)).erase (Finset.min' _ some))
        (another : other ∈ ((acceptedFrom load count start).image (opener load)).erase (Finset.min' _ some)) :
        ¬ one < other := by
      intro order
      obtain ⟨index, present, rfl⟩ := Finset.mem_image.mp (Finset.mem_of_mem_erase member)
      obtain ⟨last, found, rfl⟩ := Finset.mem_image.mp (Finset.mem_of_mem_erase another)
      -- a second and a third opener are a length apart, and all requests lie within one length
      have behind : opener load first < opener load index := by
        rw [least.2]
        exact Nat.lt_of_le_of_ne (Finset.min'_le _ _ (Finset.mem_of_mem_erase member))
          (Ne.symm (Finset.ne_of_mem_erase member))
      have moved : first ≤ opener load index := by
        apply Nat.le_of_not_lt
        intro early
        have same := opener_mono positive (Nat.le_of_lt early)
        rw [opener_own positive] at same
        exact Nat.lt_irrefl _ (Nat.lt_of_lt_of_le behind same)
      have spaced := openers_apart positive ordered (opener_own positive index) (opener_own positive last) order
      have begun := (Finset.mem_filter.mp least.1).2.1
      have ended := (Finset.mem_filter.mp found).2.2
      have onward := ordered moved
      have reached := ordered (opener_le positive last)
      omega
    intro one member other another
    exact Nat.le_antisymm (Nat.le_of_not_lt (apart another member)) (Nat.le_of_not_lt (apart member another))
  rw [← Finset.card_erase_add_one (Finset.min'_mem _ some)]
  exact Nat.succ_le_succ later

include positive ordered in
/-- An interval as long as a window accepts at most twice the limit. -/
theorem interval_bounded (count start : Nat) : (acceptedFrom load count start).card ≤ 2 * load.limit := by
  calc (acceptedFrom load count start).card
    _ ≤ load.limit * ((acceptedFrom load count start).image (opener load)).card := by
      apply Finset.card_le_mul_card_image
      intro window _
      apply Nat.le_trans (Finset.card_le_card _) (window_bounded positive count window)
      apply Finset.filter_subset_filter
      exact Finset.filter_subset _ _
    _ ≤ load.limit * 2 := Nat.mul_le_mul_left _ (interval_openers positive ordered count start)
    _ = 2 * load.limit := Nat.mul_comm _ _

/-- The accepted requests before one, not further back than a window lasts. -/
def acceptedBehind (load : Load) (index : Nat) : Finset Nat :=
  (acceptedBelow load index).filter fun earlier => load.time index < load.time earlier + load.length

include positive ordered in
/-- A request is rejected only behind as many accepted ones as the limit allows. -/
theorem rejected_full {index : Nat} (ruled : verdict load index = .rejected) :
    load.limit ≤ (acceptedBehind load index).card := by
  have unlike {other : Verdict} (is : verdict load index = other) (differs : other ≠ .rejected) : False :=
    differs (is.symm.trans ruled)
  rcases @judge_cases load index with ⟨-, -, -, other⟩ | ⟨-, -, other⟩ | ⟨-, -, -, -, -, other⟩ |
    ⟨held, was, inside, full, -, -⟩
  · exact (unlike other Verdict.noConfusion).elim
  · exact (unlike other Verdict.noConfusion).elim
  · exact (unlike other Verdict.noConfusion).elim
  have filled := settled positive was
  calc load.limit
    _ ≤ held.used := full
    _ = (acceptedIn load index held.opener).card := filled.count.symm
    _ ≤ (acceptedBehind load index).card := by
      apply Finset.card_le_card
      intro earlier member
      have parts := Finset.mem_filter.mp member
      apply Finset.mem_filter.mpr
      constructor
      · exact parts.1
      · have opened := ordered (opener_le positive earlier)
        rw [parts.2] at opened
        omega

include positive ordered in
/-- Two windows that open at one time are one window. -/
theorem opener_eq_of_time (lasts : 0 < load.length) {index other : Nat}
    (same : load.time (opener load index) = load.time (opener load other)) :
    opener load index = opener load other := by
  rcases Nat.lt_trichotomy (opener load index) (opener load other) with before | same | behind
  · have apart := openers_apart positive ordered (opener_own positive index) (opener_own positive other) before
    omega
  · exact same
  · have apart := openers_apart positive ordered (opener_own positive other) (opener_own positive index) behind
    omega

theorem mem_acceptedBelow {count index : Nat} :
    index ∈ acceptedBelow load count ↔ index < count ∧ verdict load index = .accepted := by
  unfold acceptedBelow
  rw [Finset.mem_filter, Finset.mem_range]

theorem lt_of_member {requests : Finset Nat} {index : Nat} (member : index ∈ requests) :
    index < requests.sup id + 1 := by
  have below : id index ≤ requests.sup id := Finset.le_sup member
  exact Nat.lt_succ_of_le below

include positive in
/-- However many requests of one window are accepted, they are within the limit. -/
theorem card_le_of_window {requests : Finset Nat} {window : Nat}
    (accepted : ∀ index ∈ requests, verdict load index = .accepted ∧ opener load index = window) :
    requests.card ≤ load.limit := by
  apply Nat.le_trans (Finset.card_le_card _) (window_bounded positive (requests.sup id + 1) window)
  intro index member
  apply Finset.mem_filter.mpr
  constructor
  · exact mem_acceptedBelow.mpr ⟨lt_of_member member, (accepted index member).1⟩
  · exact (accepted index member).2

include positive ordered in
/-- Accepted requests that are less than the length of a window apart are within twice the limit. -/
theorem card_le_of_interval {requests : Finset Nat} (accepted : ∀ index ∈ requests, verdict load index = .accepted)
    (close : ∀ index ∈ requests, ∀ other ∈ requests, load.time other < load.time index + load.length) :
    requests.card ≤ 2 * load.limit := by
  rcases Finset.eq_empty_or_nonempty requests with rfl | some
  · exact Nat.zero_le _
  obtain ⟨first, present, least⟩ := Finset.exists_min_image requests load.time some
  apply Nat.le_trans (Finset.card_le_card _)
    (interval_bounded positive ordered (requests.sup id + 1) (load.time first))
  intro index member
  apply Finset.mem_filter.mpr
  constructor
  · exact mem_acceptedBelow.mpr ⟨lt_of_member member, accepted index member⟩
  · exact ⟨least index member, close first present index member⟩

end Bounds

end ControlTower.Foundation.RateWindow
