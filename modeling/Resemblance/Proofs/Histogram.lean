import Mathlib.Data.List.Dedup
import Mathlib.Data.String.Basic
import Resemblance.Histogram

/-!
What a histogram says about the things it was counted from: its kinds stand in increasing order,
each of them with the number of its occurrences.
-/

namespace Resemblance

namespace Histogram

/-- The kinds of counts stand in increasing order, so that each is there once. -/
def Increasing (counts : List (String × Nat)) : Prop :=
  counts.Pairwise fun entry later => entry.1 < later.1

theorem lookup_cons (kind : String) (entry : String × Nat) (rest : List (String × Nat)) :
    (entry :: rest).lookup kind = if kind = entry.1 then some entry.2 else rest.lookup kind := by
  by_cases same : kind = entry.1
  · rw [if_pos same, List.lookup_cons, beq_iff_eq.2 same]
  · rw [if_neg same, List.lookup_cons, beq_false_of_ne same]

theorem lookup_eq_none_of_before {kind : String} {counts : List (String × Nat)}
    (before : ∀ entry ∈ counts, kind < entry.1) : counts.lookup kind = none := by
  induction counts with
  | nil => rfl
  | cons entry rest ih =>
      have other : kind ≠ entry.1 := ne_of_lt (before entry (by simp))
      rw [lookup_cons, if_neg other]
      exact ih fun later member => before later (by simp [member])

theorem lookup_eq_some_iff {counts : List (String × Nat)} (increasing : Increasing counts)
    (kind : String) (number : Nat) :
    counts.lookup kind = some number ↔ (kind, number) ∈ counts := by
  induction counts with
  | nil => simp
  | cons entry rest ih =>
      obtain ⟨before, others⟩ := List.pairwise_cons.1 increasing
      rw [lookup_cons]
      by_cases same : kind = entry.1
      · have absent : (kind, number) ∉ rest := fun member =>
          lt_irrefl kind (lt_of_eq_of_lt same (before (kind, number) member))
        rw [if_pos same, List.mem_cons, or_iff_left absent, Option.some.injEq, Prod.ext_iff]
        simp [same, eq_comm]
      · have elsewhere : (kind, number) ≠ entry := fun equal => same (congrArg Prod.fst equal)
        rw [if_neg same, ih others, List.mem_cons, or_iff_right elsewhere]

theorem lookup_count_one {counts : List (String × Nat)} (increasing : Increasing counts)
    (kind other : String) :
    ((countOne kind counts).lookup other).getD 0 =
      (counts.lookup other).getD 0 + if other = kind then 1 else 0 := by
  induction counts with
  | nil =>
      rw [countOne, lookup_cons]
      split
      · rfl
      · rfl
  | cons entry rest ih =>
      obtain ⟨before, others⟩ := List.pairwise_cons.1 increasing
      simp only [countOne]
      split
      next same =>
        rw [lookup_cons, lookup_cons, same]
        split
        · rfl
        · rfl
      next different =>
        split
        next first =>
          have absent : (entry :: rest).lookup kind = none := by
            apply lookup_eq_none_of_before
            intro later member
            rcases List.mem_cons.1 member with rfl | below
            · exact first
            · exact lt_trans first (before later below)
          rw [lookup_cons]
          by_cases asked : other = kind
          · rw [if_pos asked, if_pos asked, asked, absent]
            rfl
          · rw [if_neg asked, if_neg asked]
            rfl
        next later =>
          rw [lookup_cons, lookup_cons]
          by_cases asked : other = entry.1
          · have unlike : other ≠ kind := fun equal => different (equal.symm.trans asked)
            rw [if_pos asked, if_pos asked, if_neg unlike]
            rfl
          · rw [if_neg asked, if_neg asked, ih others]

theorem mem_count_one {kind : String} {counts : List (String × Nat)} {entry : String × Nat}
    (member : entry ∈ countOne kind counts) :
    (entry.1 = kind ∨ ∃ known ∈ counts, known.1 = entry.1) ∧
      ((∀ known ∈ counts, 1 ≤ known.2) → 1 ≤ entry.2) := by
  induction counts with
  | nil =>
      obtain rfl := List.mem_singleton.1 member
      exact ⟨Or.inl rfl, fun _ => Nat.le_refl 1⟩
  | cons first rest ih =>
      simp only [countOne] at member
      split at member
      next same =>
        rcases List.mem_cons.1 member with rfl | below
        · exact ⟨Or.inl rfl, fun _ => Nat.le_add_left 1 _⟩
        · exact ⟨Or.inr ⟨entry, by simp [below], rfl⟩,
            fun positive => positive entry (by simp [below])⟩
      next different =>
        split at member
        next before =>
          rcases List.mem_cons.1 member with rfl | below
          · exact ⟨Or.inl rfl, fun _ => Nat.le_refl 1⟩
          · exact ⟨Or.inr ⟨entry, below, rfl⟩, fun positive => positive entry below⟩
        next later =>
          rcases List.mem_cons.1 member with rfl | below
          · exact ⟨Or.inr ⟨entry, by simp, rfl⟩, fun positive => positive entry (by simp)⟩
          · obtain ⟨known, positive⟩ := ih below
            refine ⟨known.imp_right ?_, fun all =>
              positive fun other listed => all other (by simp [listed])⟩
            rintro ⟨other, listed, equal⟩
            exact ⟨other, by simp [listed], equal⟩

theorem increasing_count_one {counts : List (String × Nat)} (increasing : Increasing counts)
    (kind : String) : Increasing (countOne kind counts) := by
  induction counts with
  | nil => exact List.pairwise_singleton _ _
  | cons entry rest ih =>
      obtain ⟨before, others⟩ := List.pairwise_cons.1 increasing
      simp only [countOne]
      split
      next same =>
        subst same
        exact List.pairwise_cons.2 ⟨before, others⟩
      next different =>
        split
        next first =>
          refine List.pairwise_cons.2 ⟨?_, increasing⟩
          intro later member
          rcases List.mem_cons.1 member with rfl | below
          · exact first
          · exact lt_trans first (before later below)
        next later =>
          refine List.pairwise_cons.2 ⟨?_, ih others⟩
          intro other member
          rcases (mem_count_one member).1 with equal | ⟨known, listed, equal⟩
          · rw [equal]
            exact lt_of_le_of_ne (not_lt.1 later) (Ne.symm different)
          · rw [← equal]
            exact before known listed

theorem sum_count_one (kind : String) (counts : List (String × Nat)) :
    sumOf ((countOne kind counts).map Prod.snd) = sumOf (counts.map Prod.snd) + 1 := by
  induction counts with
  | nil => rfl
  | cons entry rest ih =>
      simp only [countOne]
      split
      · simp only [List.map_cons, sumOf]
        omega
      · split
        · simp only [List.map_cons, sumOf]
          omega
        · simp only [List.map_cons, sumOf, ih]
          omega

def keys (histogram : Histogram) : List String :=
  histogram.counts.map Prod.fst

theorem find_eq_none_iff (histogram : Histogram) (kind : String) :
    histogram.find? kind = none ↔ kind ∉ histogram.keys := by
  rw [find?, keys]
  induction histogram.counts with
  | nil => simp
  | cons entry rest ih =>
      rw [lookup_cons, List.map_cons, List.mem_cons]
      by_cases same : kind = entry.1
      · simp [same]
      · rw [if_neg same, ih, or_iff_right same]

theorem count_of_not_mem {histogram : Histogram} {kind : String}
    (absent : kind ∉ histogram.keys) : histogram.count kind = 0 := by
  rw [count, (find_eq_none_iff histogram kind).2 absent]
  rfl

theorem count_of_mem {histogram : Histogram} (increasing : Increasing histogram.counts)
    {entry : String × Nat} (member : entry ∈ histogram.counts) :
    histogram.count entry.1 = entry.2 := by
  rw [count, find?, (lookup_eq_some_iff increasing entry.1 entry.2).2 member]
  rfl

theorem Increasing.nodup_keys {histogram : Histogram} (increasing : Increasing histogram.counts) :
    histogram.keys.Nodup :=
  List.pairwise_map.2 (increasing.imp fun before => ne_of_lt before)

/-- A histogram says how often each kind occurs in a list. -/
structure CountsOf (histogram : Histogram) (kinds : List String) : Prop where
  increasing : Increasing histogram.counts
  exact_count : ∀ kind, histogram.count kind = kinds.count kind
  positive : ∀ entry ∈ histogram.counts, 1 ≤ entry.2
  total : sumOf histogram.values = kinds.length

theorem counts_of_empty : empty.CountsOf [] where
  increasing := List.Pairwise.nil
  exact_count _ := rfl
  positive _ member := absurd member List.not_mem_nil
  total := rfl

theorem CountsOf.add {histogram : Histogram} {kinds : List String}
    (counted : histogram.CountsOf kinds) (kind : String) :
    (histogram.add kind).CountsOf (kinds ++ [kind]) where
  increasing := increasing_count_one counted.increasing kind
  exact_count other := by
    have before := counted.exact_count other
    rw [List.count_append, ← before, List.count_singleton]
    simpa [count, find?, Histogram.add, eq_comm (a := kind)] using
      lookup_count_one counted.increasing kind other
  positive entry member := (mem_count_one member).2 counted.positive
  total := by
    have before := counted.total
    rw [List.length_append, List.length_singleton, ← before]
    exact sum_count_one kind histogram.counts

theorem CountsOf.add_all {histogram : Histogram} {kinds : List String}
    (counted : histogram.CountsOf kinds) (more : List String) :
    (more.foldl Histogram.add histogram).CountsOf (kinds ++ more) := by
  induction more generalizing histogram kinds with
  | nil => simpa using counted
  | cons kind rest ih =>
      have next := ih (counted.add kind)
      rwa [List.append_assoc, List.singleton_append] at next

theorem CountsOf.mem_keys {histogram : Histogram} {kinds : List String}
    (counted : histogram.CountsOf kinds) (kind : String) :
    kind ∈ histogram.keys ↔ kind ∈ kinds := by
  rw [← List.count_pos_iff (l := kinds), ← counted.exact_count kind]
  constructor
  · intro member
    obtain ⟨entry, listed, rfl⟩ := List.mem_map.1 member
    rw [count_of_mem counted.increasing listed]
    exact counted.positive entry listed
  · intro positive
    by_contra absent
    rw [count_of_not_mem absent] at positive
    exact lt_irrefl 0 positive

theorem CountsOf.length_eq {histogram : Histogram} {kinds : List String}
    (counted : histogram.CountsOf kinds) : histogram.counts.length = kinds.dedup.length := by
  have perm : histogram.keys.Perm kinds.dedup := by
    apply (List.perm_ext_iff_of_nodup counted.increasing.nodup_keys kinds.nodup_dedup).2
    intro kind
    rw [counted.mem_keys, List.mem_dedup]
  rw [← perm.length_eq, keys, List.length_map]

end Histogram
end Resemblance
