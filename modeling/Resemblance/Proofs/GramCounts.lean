import Mathlib
import Resemblance.Proofs.ClippedMatches

/-!
The table of the grams of a token list. It has what a map has that enters one window after the
other: each gram with the number of places where it stands in the list, and nothing else. A gram
stands where its beginning stands, and its end stands one place further, so that neither is counted
less often.
-/

namespace Resemblance

section Tallies

variable {α : Type} [BEq α]

theorem tally_keys (le : α → α → Bool) (xs : List α) :
    (tally le xs).map Prod.fst = distinct le xs := by
  rw [tally, List.map_map]
  exact List.map_id _

variable [LawfulBEq α]

theorem lookup_counted (f : α → Nat) (x : α) (xs : List α) :
    (xs.map fun y => (y, f y)).lookup x = if x ∈ xs then some (f x) else none := by
  induction xs with
  | nil => rfl
  | cons y rest induction =>
      rw [List.map_cons, List.lookup_cons, induction]
      by_cases same : x = y
      · subst same
        rw [beq_self_eq_true, if_pos List.mem_cons_self]
      · simp only [beq_false_of_ne same, List.mem_cons, same, false_or]

theorem lookup_tally (le : α → α → Bool) (x : α) (xs : List α) :
    (tally le xs).lookup x = if x ∈ xs then some (xs.count x) else none := by
  rw [tally, lookup_counted]
  simp only [mem_distinct]

/-- The counts of a tally sum up to the length of the list, since the groups of equal things are the
list. -/
theorem sum_tally (le : α → α → Bool) (xs : List α) :
    sumOf ((tally le xs).map Prod.snd) = xs.length := by
  have groups : ((distinct le xs).flatMap fun chosen => xs.filter fun x => x == chosen).Perm xs :=
    groups_perm (nodup_distinct le xs) xs fun x member => mem_distinct.2 member
  rw [← groups.length_eq, List.length_flatMap, sum_of_eq_sum, tally, List.map_map]
  exact congrArg List.sum (List.map_congr_left fun x _ => List.count_eq_length_filter)

end Tallies

namespace Gram

section Places

variable {α : Type} [BEq α] {n : Nat} {gram : List α}

def occurrences (gram xs : List α) : Nat :=
  (List.range xs.length).countP fun place => gram.isPrefixOf (xs.drop place)

theorem occurrences_cons (gram : List α) (x : α) (rest : List α) :
    occurrences gram (x :: rest) = occurrences gram rest + if gram.isPrefixOf (x :: rest)
      then 1 else 0 := by
  rw [occurrences, List.length_cons, List.range_succ_eq_map, List.countP_cons, List.countP_map]
  rfl

variable [LawfulBEq α]

theorem window_eq_iff (length : gram.length = n) (xs : List α) :
    (xs.take n == gram) = gram.isPrefixOf xs := by
  rw [Bool.eq_iff_iff, beq_iff_eq, List.isPrefixOf_iff_prefix, List.prefix_iff_eq_take, length]
  exact eq_comm

theorem count_windows (positive : 0 < n) (length : gram.length = n) (xs : List α) :
    (windows n xs).count gram = occurrences gram xs := by
  induction xs with
  | nil => rfl
  | cons x rest induction =>
      rw [occurrences_cons, ← induction, windows]
      split
      next short =>
        have none : windows n rest = [] := by
          rw [← List.length_eq_zero_iff, windows_length positive]
          omega
        have apart : gram.isPrefixOf (x :: rest) = false := by
          rw [← Bool.not_eq_true, List.isPrefixOf_iff_prefix]
          intro begins
          have fits := begins.length_le
          rw [List.length_cons] at fits
          omega
        rw [none, apart]
        rfl
      next enough => rw [List.count_cons, window_eq_iff length]

end Places

section Neighbours

variable {α : Type} {n : Nat}

/-- Without their first elements, longer windows are the windows that start one place further. -/
theorem windows_endings (positive : 0 < n) (xs : List α) :
    (windows (n + 1) xs).map List.tail = windows n xs.tail := by
  induction xs with
  | nil => rfl
  | cons x rest induction =>
      rw [windows, List.tail_cons]
      split
      next short =>
        rw [List.map_nil, eq_comm, ← List.length_eq_zero_iff, windows_length positive]
        omega
      next enough =>
        obtain ⟨y, more, rfl⟩ : ∃ y more, rest = y :: more :=
          List.exists_cons_of_length_pos (by omega)
        rw [List.map_cons, induction, List.take_succ_cons, List.tail_cons, List.tail_cons,
          windows, if_neg]
        rw [List.length_cons] at enough
        omega

theorem windows_endings_sublist (positive : 0 < n) (xs : List α) :
    ((windows (n + 1) xs).map List.tail).Sublist (windows n xs) := by
  rw [windows_endings positive]
  cases xs with
  | nil => exact .refl _
  | cons x rest => exact windows_tail_sublist n x rest

end Neighbours

section Table

variable {n : Nat} {tokens gram : List String}

theorem lookup_table (n : Nat) (tokens gram : List String) :
    (table n tokens).lookup gram =
      if gram ∈ windows n tokens then some ((windows n tokens).count gram) else none :=
  lookup_tally textsLe gram (windows n tokens)

theorem table_get (n : Nat) (tokens gram : List String) :
    ((table n tokens).lookup gram).getD 0 = (windows n tokens).count gram := by
  rw [lookup_table]
  split
  next => rfl
  next absent => exact (List.count_eq_zero_of_not_mem absent).symm

def enter (counts : List String → Option Nat) (gram : List String) : List String → Option Nat :=
  fun other => if other = gram then some ((counts gram).getD 0 + 1) else counts other

theorem enter_all (counts : List String → Option Nat) (grams : List (List String))
    (gram : List String) :
    grams.foldl enter counts gram =
      if gram ∈ grams then some ((counts gram).getD 0 + grams.count gram) else counts gram := by
  induction grams generalizing counts with
  | nil => rfl
  | cons first rest induction =>
      rw [List.foldl_cons, induction, enter]
      by_cases same : gram = first
      · subst same
        rw [if_pos rfl, if_pos List.mem_cons_self, List.count_cons_self, Option.getD_some]
        split
        next => congr 1; omega
        next absent => rw [List.count_eq_zero_of_not_mem absent]
      · rw [if_neg same, List.count_cons_of_ne (Ne.symm same)]
        simp only [List.mem_cons, same, false_or]

/-- The table of a list, as the map that its windows make when they are entered one after the
other. -/
theorem table_eq_entered (n : Nat) (tokens gram : List String) :
    (table n tokens).lookup gram = (windows n tokens).foldl enter (fun _ => none) gram := by
  rw [lookup_table, enter_all, Option.getD_none, Nat.zero_add]

/-- A shorter gram that windows hold at least as often is in its table with no lesser count. -/
theorem found_at_least {shorter : List String} {m count : Nat}
    (found : (table n tokens).lookup gram = some count)
    (more : (windows n tokens).count gram ≤ (windows m tokens).count shorter) :
    ∃ count', (table m tokens).lookup shorter = some count' ∧ count ≤ count' := by
  rw [lookup_table, Option.ite_none_right_eq_some] at found
  obtain ⟨member, counted⟩ := found
  have some := (List.count_pos_iff.2 member).trans_le more
  rw [lookup_table, if_pos (List.count_pos_iff.1 some)]
  exact ⟨_, rfl, (Option.some.inj counted) ▸ more⟩

/-- What a table of grams says of a token list: each gram of the length has the number of its
places; what is listed is a gram of that length with some place, once; and the counts sum up to the
number of windows. -/
structure Counts (n : Nat) (tokens : List String) (table : List (List String × Nat)) : Prop where
  places : ∀ gram, gram.length = n → (table.lookup gram).getD 0 = occurrences gram tokens
  once : (table.map Prod.fst).Nodup
  grams : ∀ entry ∈ table, entry.1.length = n
  positive : ∀ entry ∈ table, 1 ≤ entry.2
  total : sumOf (table.map Prod.snd) = tokens.length + 1 - n

theorem table_counts (positive : 0 < n) (tokens : List String) :
    Counts n tokens (table n tokens) where
  places gram length := by rw [table_get, count_windows positive length]
  once := by
    rw [table, tally_keys]
    exact nodup_distinct _ _
  grams := by
    rintro ⟨gram, count⟩ listed
    exact ((mem_windows_iff positive).1 (mem_tally.1 listed).1).1
  positive := by
    rintro ⟨gram, count⟩ listed
    obtain ⟨member, rfl⟩ := mem_tally.1 listed
    exact List.count_pos_iff.2 member
  total := by rw [table, sum_tally, windows_length positive]

/-- The table of the grams of a length counts their places, as the map does that enters the windows
one after the other; the number of grams is the sum of the counts. A longer gram has no greater
count than its beginning and its end. There are no grams of length zero. -/
theorem table_counts_places (tokens : List String) :
    (∀ n, 1 ≤ n → Counts n tokens (table n tokens) ∧ total n tokens = tokens.length + 1 - n) ∧
      (∀ n gram, (table n tokens).lookup gram =
        (windows n tokens).foldl enter (fun _ => none) gram) ∧
      (∀ n gram count, 1 < n → (table n tokens).lookup gram = some count →
        (∃ more, (table (n - 1) tokens).lookup gram.dropLast = some more ∧ count ≤ more) ∧
          ∃ more, (table (n - 1) tokens).lookup gram.tail = some more ∧ count ≤ more) ∧
      table 0 tokens = [] := by
  refine ⟨fun n least => ⟨table_counts least tokens, windows_length least tokens⟩,
    fun n gram => table_eq_entered n tokens gram, fun n gram count longer found => ?_, ?_⟩
  · obtain ⟨m, rfl⟩ : ∃ m, n = m + 1 := ⟨n - 1, by omega⟩
    have positive : 0 < m := by omega
    have length : gram.length = m + 1 := by
      rw [lookup_table, Option.ite_none_right_eq_some] at found
      exact ((mem_windows_iff (Nat.succ_pos m)).1 found.1).1
    have beginning : gram.dropLast = gram.take m := by
      rw [List.dropLast_eq_take, length, Nat.add_sub_cancel]
    rw [Nat.add_sub_cancel, beginning]
    constructor
    · exact found_at_least found
        ((List.count_le_count_map).trans ((windows_beginnings positive tokens).count_le _))
    · exact found_at_least found
        ((List.count_le_count_map).trans ((windows_endings_sublist positive tokens).count_le _))
  · rw [table, windows_nothing, tally, distinct, List.eraseDups_nil,
      List.mergeSort_nil, List.map_nil]

/-- Three pairs with two of them equal, and windows that overlap in equal tokens. -/
theorem overlapping_pairs_counted :
    Counts 2 ["x", "x", "x", "y"] (table 2 ["x", "x", "x", "y"]) ∧
      ((table 2 ["x", "x", "x", "y"]).lookup ["x", "x"]).getD 0 = 2 ∧
      total 2 ["x", "x", "x", "y"] = 3 ∧
      ∃ more, (table 1 ["x", "x", "x", "y"]).lookup ["x"] = some more ∧ 2 ≤ more := by
  obtain ⟨counts, -, shorter, -⟩ := table_counts_places ["x", "x", "x", "y"]
  obtain ⟨pairs, total⟩ := counts 2 (by decide)
  have places := pairs.places ["x", "x"] rfl
  refine ⟨pairs, places, total, (shorter 2 ["x", "x"] 2 (by decide) ?_).1⟩
  rw [lookup_table]
  rfl

end Table

end Gram

end Resemblance
