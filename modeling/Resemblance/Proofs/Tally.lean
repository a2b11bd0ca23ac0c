import Mathlib.Data.List.Perm.Basic
import Mathlib.Data.List.Perm.Lattice
import Resemblance.Tally

/-!
Sums of counts, which do not depend on the order, and the distinct members of a list, each of them
once; the groups of a list by keys, which together are the list. Texts and lists of texts are
totally ordered. A tally shows how often each member of a list occurs, and nothing else.
-/

namespace Resemblance

theorem sum_of_perm {xs ys : List Nat} (perm : xs.Perm ys) : sumOf xs = sumOf ys := by
  induction perm with
  | nil => rfl
  | cons n _ ih => rw [sumOf, sumOf, ih]
  | swap m n rest => rw [sumOf, sumOf, sumOf, sumOf, Nat.add_left_comm]
  | trans _ _ first second => rw [first, second]

section Keys

variable {α β γ : Type} {key : α → β} {xs ys : List α}

/-- Two lists that have the same keys in some order: one of them can be put in the order of the
other. -/
theorem exists_perm_map_eq (perm : (xs.map key).Perm (ys.map key)) :
    ∃ zs : List α, zs.Perm ys ∧ xs.map key = zs.map key := by
  have matched := (congrFun₂ (List.eq_map_comp_perm key) (xs.map key) ys).mpr perm
  obtain ⟨zs, same, moved⟩ := matched
  exact ⟨zs, moved, same⟩

theorem pairs_of_map_eq {related : α → α → Prop}
    (agree : ∀ x ∈ xs, ∀ y ∈ ys, key x = key y → related x y) (equal : xs.map key = ys.map key) :
    List.Forall₂ related xs ys := by
  induction xs generalizing ys with
  | nil =>
      have none_left : ys = [] := by simpa using equal.symm
      rw [none_left]
      exact .nil
  | cons x rest ih =>
      cases ys with
      | nil => simp at equal
      | cons y others =>
          obtain ⟨first, later⟩ := List.cons.inj equal
          refine .cons (agree x (by simp) y (by simp) first) (ih ?_ later)
          intro x' member y' member'
          exact agree x' (by simp [member]) y' (by simp [member'])

theorem map_eq_of_map_eq {measure : α → γ}
    (agree : ∀ x ∈ xs, ∀ y ∈ ys, key x = key y → measure x = measure y)
    (equal : xs.map key = ys.map key) : xs.map measure = ys.map measure := by
  have pairs := pairs_of_map_eq agree equal
  rwa [← List.forall₂_eq_eq_eq, List.forall₂_map_left_iff, List.forall₂_map_right_iff]

theorem sum_of_map_eq {measure : α → Nat}
    (agree : ∀ x ∈ xs, ∀ y ∈ ys, key x = key y → measure x = measure y)
    (perm : (xs.map key).Perm (ys.map key)) : sumOf (xs.map measure) = sumOf (ys.map measure) := by
  obtain ⟨zs, moved, equal⟩ := exists_perm_map_eq perm
  have measures : xs.map measure = zs.map measure :=
    map_eq_of_map_eq (fun x member y member' => agree x member y (moved.subset member')) equal
  rw [measures, sum_of_perm (moved.map measure)]

end Keys

section Texts

variable {a b c : List String}

theorem texts_le_cons_iff {first other : String} {rest more : List String} :
    textsLe (first :: rest) (other :: more) = true ↔
      first < other ∨ first = other ∧ textsLe rest more = true := by
  rw [textsLe]
  split
  · rename_i same
    have same := eq_of_beq same
    simp [same]
  · rename_i apart
    have apart : first ≠ other := by simpa using apart
    have less : first ≤ other ↔ first < other :=
      ⟨fun le => String.not_le.1 fun back => apart (String.le_antisymm le back),
        fun less => String.not_lt.1 fun back => String.lt_irrefl _ (String.lt_trans less back)⟩
    simp [textLe, less, apart]

theorem text_lt_trichotomy (first other : String) : first < other ∨ first = other ∨
    other < first := by
  by_cases le : first ≤ other
  · by_cases back : other ≤ first
    · exact .inr (.inl (String.le_antisymm le back))
    · exact .inl (String.not_le.1 back)
  · exact .inr (.inr (String.not_le.1 le))

theorem texts_le_total (a b : List String) : textsLe a b = true ∨ textsLe b a = true := by
  induction a generalizing b with
  | nil => exact .inl rfl
  | cons first rest ih =>
      cases b with
      | nil => exact .inr rfl
      | cons other more =>
          rw [texts_le_cons_iff, texts_le_cons_iff]
          rcases text_lt_trichotomy first other with less | rfl | greater
          · exact .inl (.inl less)
          · exact (ih more).imp (fun le => .inr ⟨rfl, le⟩) fun le => .inr ⟨rfl, le⟩
          · exact .inr (.inl greater)

theorem texts_le_trans (first : textsLe a b = true) (second : textsLe b c = true) :
    textsLe a c = true := by
  induction a generalizing b c with
  | nil => rfl
  | cons x rest ih =>
      cases b with
      | nil => exact nomatch first
      | cons y more =>
          cases c with
          | nil => exact nomatch second
          | cons z last =>
              rw [texts_le_cons_iff] at first second ⊢
              rcases first with less | ⟨rfl, first⟩
              · rcases second with less' | ⟨rfl, -⟩
                · exact .inl (String.lt_trans less less')
                · exact .inl less
              · exact second.imp id fun ⟨same, second⟩ => ⟨same, ih first second⟩

theorem texts_le_antisymm (first : textsLe a b = true) (second : textsLe b a = true) : a = b := by
  induction a generalizing b with
  | nil =>
      cases b with
      | nil => rfl
      | cons y more => exact nomatch second
  | cons x rest ih =>
      cases b with
      | nil => exact nomatch first
      | cons y more =>
          rw [texts_le_cons_iff] at first second
          rcases first with less | ⟨rfl, first⟩
          · rcases second with greater | ⟨rfl, -⟩
            · exact absurd (String.lt_trans less greater) (String.lt_irrefl x)
            · exact absurd less (String.lt_irrefl _)
          · rcases second with greater | ⟨-, second⟩
            · exact absurd greater (String.lt_irrefl x)
            · rw [ih first second]

theorem texts_lt_iff : a < b ↔ textsLe a b = true ∧ a ≠ b := by
  induction a generalizing b with
  | nil =>
      cases b with
      | nil => exact ⟨fun less => absurd less (List.lt_irrefl []), fun apart => absurd rfl apart.2⟩
      | cons y more =>
          exact ⟨fun _ => ⟨rfl, (List.cons_ne_nil y more).symm⟩, fun _ => List.nil_lt_cons y more⟩
  | cons x rest ih =>
      cases b with
      | nil => exact ⟨fun less => absurd less (List.not_lt_nil _), fun le => nomatch le.1⟩
      | cons y more =>
          rw [List.cons_lt_cons_iff, texts_le_cons_iff, ih]
          constructor
          · rintro (less | ⟨rfl, le, apart⟩)
            · refine ⟨.inl less, fun same => ?_⟩
              rw [(List.cons.inj same).1] at less
              exact String.lt_irrefl y less
            · exact ⟨.inr ⟨rfl, le⟩, fun same => apart (List.cons.inj same).2⟩
          · rintro ⟨less | ⟨rfl, le⟩, apart⟩
            · exact .inl less
            · exact .inr ⟨rfl, le, fun same => apart (congrArg _ same)⟩

end Texts

variable {α : Type} [BEq α]

theorem sorted_distinct {le : α → α → Bool} (total : ∀ a b, le a b = true ∨ le b a = true)
    (trans : ∀ a b c, le a b = true → le b c = true → le a c = true) (xs : List α) :
    (distinct le xs).Pairwise fun a b => le a b = true :=
  List.pairwise_mergeSort trans (by simpa using total) _

variable [LawfulBEq α]

/-- The recursion goes over the list without what equals its first entry. -/
theorem nodup_erase_dups (xs : List α) : xs.eraseDups.Nodup := by
  cases xs with
  | nil => exact List.nodup_nil
  | cons x rest =>
      rw [List.eraseDups_cons, List.nodup_cons]
      refine ⟨?_, nodup_erase_dups (rest.filter fun y => !y == x)⟩
      simp [List.mem_eraseDups]
termination_by xs.length
decreasing_by
  exact Nat.lt_succ_of_le (List.length_filter_le _ _)

theorem nodup_distinct (le : α → α → Bool) (xs : List α) : (distinct le xs).Nodup :=
  (List.mergeSort_perm xs.eraseDups le).nodup_iff.2 (nodup_erase_dups xs)

theorem mem_distinct {le : α → α → Bool} {xs : List α} {x : α} : x ∈ distinct le xs ↔ x ∈ xs := by
  rw [distinct, (List.mergeSort_perm xs.eraseDups le).mem_iff, List.mem_eraseDups]

theorem distinct_increasing {le : α → α → Bool} {texts : α → List String}
    (ordered : ∀ a b, le a b = textsLe (texts a) (texts b))
    (apart : ∀ a b, texts a = texts b → a = b)
    (xs : List α) : (distinct le xs).Pairwise fun a b => texts a < texts b := by
  have total : ∀ a b, le a b = true ∨ le b a = true := by
    intro a b
    rw [ordered, ordered]
    exact texts_le_total _ _
  have trans : ∀ a b c, le a b = true → le b c = true → le a c = true := by
    intro a b c
    rw [ordered, ordered, ordered]
    exact texts_le_trans
  refine ((sorted_distinct total trans xs).and (nodup_distinct le xs)).imp fun {a b} pair => ?_
  exact texts_lt_iff.2 ⟨(ordered a b).symm.trans pair.1, fun same => pair.2 (apart a b same)⟩

section Tallies

variable {le : α → α → Bool} {xs ys : List α}

theorem mem_tally {x : α} {count : Nat} :
    (x, count) ∈ tally le xs ↔ x ∈ xs ∧ xs.count x = count := by
  rw [tally, List.mem_map]
  constructor
  · rintro ⟨other, member, equal⟩
    obtain ⟨rfl, counted⟩ := Prod.mk.inj equal
    exact ⟨mem_distinct.1 member, counted⟩
  · rintro ⟨member, rfl⟩
    exact ⟨x, mem_distinct.2 member, rfl⟩

theorem mem_of_tally_eq (same : tally le xs = tally le ys) {x : α} (member : x ∈ xs) :
    x ∈ ys ∧ ys.count x = xs.count x := by
  have listed : (x, xs.count x) ∈ tally le xs := mem_tally.2 ⟨member, rfl⟩
  rw [same] at listed
  exact mem_tally.1 listed

theorem distinct_of_perm (total : ∀ a b, le a b = true ∨ le b a = true)
    (trans : ∀ a b c, le a b = true → le b c = true → le a c = true)
    (antisymm : ∀ a b, le a b = true → le b a = true → a = b) (perm : xs.Perm ys) :
    distinct le xs = distinct le ys := by
  have members : xs.eraseDups.Perm ys.eraseDups := by
    apply (List.perm_ext_iff_of_nodup (nodup_erase_dups xs) (nodup_erase_dups ys)).2
    intro x
    rw [List.mem_eraseDups, List.mem_eraseDups, perm.mem_iff]
  have moved : (distinct le xs).Perm (distinct le ys) :=
    ((List.mergeSort_perm _ le).trans members).trans (List.mergeSort_perm _ le).symm
  exact moved.eq_of_pairwise (fun a b _ _ => antisymm a b) (sorted_distinct total trans xs)
    (sorted_distinct total trans ys)

/-- A tally in a total order shows which things a list has how often, and nothing else. -/
theorem tally_eq_iff (total : ∀ a b, le a b = true ∨ le b a = true)
    (trans : ∀ a b c, le a b = true → le b c = true → le a c = true)
    (antisymm : ∀ a b, le a b = true → le b a = true → a = b) :
    tally le xs = tally le ys ↔ xs.Perm ys := by
  constructor
  · intro same
    rw [List.perm_iff_count]
    intro x
    by_cases member : x ∈ xs
    · exact (mem_of_tally_eq same member).2.symm
    · have absent : x ∉ ys := fun other => member (mem_of_tally_eq same.symm other).1
      rw [List.count_eq_zero_of_not_mem member, List.count_eq_zero_of_not_mem absent]
  · intro perm
    rw [tally, tally, distinct_of_perm total trans antisymm perm]
    exact List.map_congr_left fun x _ => by rw [perm.count_eq]

end Tallies

section Groups

variable {β : Type} {key : β → α}

theorem filter_key_of_ne {first chosen : α} (different : chosen ≠ first) (things : List β) :
    ((things.filter fun thing => !(key thing == first)).filter fun thing => key thing == chosen) =
      things.filter fun thing => key thing == chosen := by
  rw [List.filter_filter]
  apply List.filter_congr
  intro thing _
  cases found : key thing == chosen with
  | false => rfl
  | true =>
      rw [eq_of_beq found, beq_false_of_ne different]
      rfl

theorem groups_perm {keys : List α} (nodup : keys.Nodup) (things : List β)
    (covered : ∀ thing ∈ things, key thing ∈ keys) :
    (keys.flatMap fun chosen => things.filter fun thing => key thing == chosen).Perm things := by
  induction keys generalizing things with
  | nil =>
      rw [List.eq_nil_iff_forall_not_mem.2 fun thing member =>
        List.not_mem_nil (covered thing member)]
      exact .refl _
  | cons first keys induction =>
      obtain ⟨absent, nodup⟩ := List.nodup_cons.1 nodup
      have rest :=
          induction nodup (things.filter fun thing => !(key thing == first)) fun thing member => by
        obtain ⟨member, other⟩ := List.mem_filter.1 member
        exact (List.mem_cons.1 (covered thing member)).resolve_left (by simpa using other)
      rw [List.flatMap_congr fun chosen member =>
        filter_key_of_ne (ne_of_mem_of_not_mem member absent) things] at rest
      rw [List.flatMap_cons]
      exact (rest.append_left _).trans (List.filter_append_perm _ things)

end Groups
end Resemblance
