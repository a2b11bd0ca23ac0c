import Mathlib.Data.List.Perm.Lattice
import Resemblance.Calculator
import Resemblance.Proofs.Double
import Resemblance.Proofs.EditScript
import Resemblance.Proofs.Overlap
import Resemblance.Proofs.ShapeMetrics

/-!
Comparisons do not depend on which side comes first. Sums of doubles are taken over the common kinds
in their order, which is the same on both sides; sums of counts may be taken in any order; the
overlaps are those of sets, and a least edit distance is the same in both directions.
-/

namespace Resemblance

theorem delta_ratio_comm (a b : Nat) : deltaRatio a b = deltaRatio b a := by
  rw [deltaRatio, deltaRatio, Nat.max_comm, Nat.min_comm]

theorem delta_comm (a b : Nat) : delta a b = delta b a := by
  rw [delta, delta, delta_ratio_comm]

namespace Histogram

def countBoth (a b : Histogram) (kind : String) : Nat × Nat :=
  (a.count kind, b.count kind)

def commonKeys (a b : Histogram) : List String :=
  a.keys.filter fun kind => decide (kind ∈ b.keys)

def eitherKeys (a b : Histogram) : List String :=
  a.keys ++ b.keys.filter fun kind => decide (kind ∉ a.keys)

variable {a b : Histogram}

theorem filter_map_common {entries : List (String × Nat)}
    (counted : ∀ entry ∈ entries, a.count entry.1 = entry.2) :
    (entries.filterMap fun entry => (b.find? entry.1).map fun other => (entry.2, other)) =
      ((entries.map Prod.fst).filter fun kind => decide (kind ∈ b.keys)).map (countBoth a b) := by
  induction entries with
  | nil => rfl
  | cons entry rest ih =>
      have others := ih fun later member => counted later (by simp [member])
      have own := counted entry (by simp)
      cases found : b.find? entry.1 with
      | none =>
          have absent := (find_eq_none_iff b entry.1).1 found
          rw [List.map_cons, List.filter_cons_of_neg (by simpa using absent), ← others]
          simp [found]
      | some other =>
          have present : entry.1 ∈ b.keys := by
            by_contra absent
            rw [(find_eq_none_iff b entry.1).2 absent] at found
            simp at found
          have both : countBoth a b entry.1 = (entry.2, other) := by
            rw [countBoth, own, count, found]
            rfl
          rw [List.map_cons, List.filter_cons_of_pos (by simpa using present), List.map_cons,
            ← others, both]
          simp [found]

theorem common_eq (increasing : Increasing a.counts) :
    common a b = (commonKeys a b).map (countBoth a b) :=
  filter_map_common fun _ member => count_of_mem increasing member

theorem paired_eq (increasing : Increasing a.counts) (increasing' : Increasing b.counts) :
    paired a b = (eitherKeys a b).map (countBoth a b) := by
  rw [paired, eitherKeys, List.map_append, keys, keys, List.filter_map, List.map_map, List.map_map]
  congr 1
  · apply List.map_congr_left
    intro entry member
    simp [countBoth, count_of_mem increasing member]
  · have same : (fun entry : String × Nat => (a.find? entry.1).isNone) =
        (fun kind => decide (kind ∉ a.keys)) ∘ Prod.fst := by
      funext entry
      rw [Bool.eq_iff_iff]
      simp [← find_eq_none_iff]
    rw [same]
    apply List.map_congr_left
    intro entry member
    obtain ⟨listed, unknown⟩ := List.mem_filter.1 member
    have absent : entry.1 ∉ a.keys := by simpa using unknown
    simp [countBoth, count_of_mem increasing' listed, count_of_not_mem absent]

theorem common_keys_comm (increasing : Increasing a.counts) (increasing' : Increasing b.counts) :
    commonKeys a b = commonKeys b a := by
  have sorted : (commonKeys a b).Pairwise (· < ·) :=
    (List.pairwise_map.2 increasing).sublist List.filter_sublist
  have sorted' : (commonKeys b a).Pairwise (· < ·) :=
    (List.pairwise_map.2 increasing').sublist List.filter_sublist
  have perm : (commonKeys a b).Perm (commonKeys b a) := by
    apply (List.perm_ext_iff_of_nodup (sorted.imp fun before => ne_of_lt before)
      (sorted'.imp fun before => ne_of_lt before)).2
    intro kind
    simp only [commonKeys, List.mem_filter, decide_eq_true_eq]
    exact and_comm
  apply perm.eq_of_pairwise _ sorted sorted'
  intro kind other _ _ before after
  exact absurd before (lt_asymm after)

theorem either_keys_perm (increasing : Increasing a.counts) (increasing' : Increasing b.counts) :
    (eitherKeys a b).Perm (eitherKeys b a) := by
  have once := increasing.nodup_keys
  have once' := increasing'.nodup_keys
  have apart : ∀ {x y : Histogram}, x.keys.Disjoint
      (y.keys.filter fun kind => decide (kind ∉ x.keys)) := by
    intro x y kind member other
    simp only [List.mem_filter, decide_eq_true_eq] at other
    exact other.2 member
  apply (List.perm_ext_iff_of_nodup (once.append (once'.filter _) apart)
    (once'.append (once.filter _) apart)).2
  intro kind
  simp only [List.mem_append, List.mem_filter, decide_eq_true_eq]
  tauto

theorem cosine_comm (increasing : Increasing a.counts) (increasing' : Increasing b.counts) :
    cosine a b = cosine b a := by
  have products : (common a b).map (fun pair => pair.1.toFloat * pair.2.toFloat) =
      (common b a).map fun pair => pair.1.toFloat * pair.2.toFloat := by
    rw [common_eq increasing, common_eq increasing', common_keys_comm increasing increasing',
      List.map_map, List.map_map]
    apply List.map_congr_left
    intro kind _
    exact float_mul_comm _ _
  rw [cosine, cosine, products, Bool.and_comm, Bool.or_comm, float_mul_comm a.norm]

theorem distance_ratio_comm (increasing : Increasing a.counts)
    (increasing' : Increasing b.counts) : distanceRatio a b = distanceRatio b a := by
  have sums : ∀ measure : Nat × Nat → Nat, (∀ m n, measure (m, n) = measure (n, m)) →
      sumOf ((paired a b).map measure) = sumOf ((paired b a).map measure) := by
    intro measure symmetric
    have perm := (either_keys_perm increasing increasing').map (measure ∘ countBoth a b)
    rw [paired_eq increasing increasing', paired_eq increasing' increasing, List.map_map,
      List.map_map, sum_of_perm perm]
    congr 1
    apply List.map_congr_left
    intro kind _
    exact symmetric _ _
  have least := sums (fun pair => max pair.1 pair.2 - min pair.1 pair.2) fun m n => by
    rw [Nat.max_comm, Nat.min_comm]
  have greatest := sums (fun pair => max pair.1 pair.2) fun m n => Nat.max_comm m n
  rw [distanceRatio, distanceRatio, least, greatest]

theorem distance_comm (increasing : Increasing a.counts) (increasing' : Increasing b.counts) :
    distance a b = distance b a := by
  rw [distance, distance, distance_ratio_comm increasing increasing']

end Histogram

namespace ShapeScores

variable {H : Type}

theorem edit_comm {diff : EditTree H → EditTree H → Nat} (least : Edit.LeastCost diff)
    (a b : Option (WeighedTree H)) : edit diff a b = edit diff b a := by
  cases a with
  | none =>
      cases b with
      | none => rfl
      | some other => rfl
  | some own =>
      cases b with
      | none => rfl
      | some other => rw [edit, edit, least.comm, Nat.add_comm own.weight]

theorem profile_increasing [BEq H] (hasher : Hasher H) (limit : Nat) (shape : Shape) :
    Histogram.Increasing
      (ShapeProfile.ofShapeWith hasher limit shape).metrics.histogram.counts :=
  (ShapeMetrics.of_shape_counts shape).increasing

theorem compare_with_comm [BEq H] [LawfulBEq H] {diff : EditTree H → EditTree H → Nat}
    (least : Edit.LeastCost diff) (hasher : Hasher H) (limit limit' : Nat) (shape shape' : Shape) :
    let profile := ShapeProfile.ofShapeWith hasher limit shape
    let profile' := ShapeProfile.ofShapeWith hasher limit' shape'
    compareWith diff profile profile' = compareWith diff profile' profile := by
  intro profile profile'
  have increasing := profile_increasing hasher limit shape
  have increasing' := profile_increasing hasher limit' shape'
  have overlap : Overlap.ratio profile.subtrees profile'.subtrees =
      Overlap.ratio profile'.subtrees profile.subtrees :=
    Overlap.ratio_comm (nodup_erase_dups _) (nodup_erase_dups _)
  simp only [compareWith]
  rw [delta_comm profile.metrics.nodeCount, delta_comm profile.metrics.maxDepth,
    Histogram.cosine_comm increasing increasing', Histogram.distance_comm increasing increasing',
    overlap, edit_comm least profile.editTree, edit_comm least profile.weightedEditTree]

end ShapeScores

namespace Vocabulary

structure Distinct (vocabulary : Vocabulary) : Prop where
  tokens : vocabulary.tokens.Nodup
  words : vocabulary.words.Nodup
  identifiers : vocabulary.identifiers.Nodup
  keywords : vocabulary.keywords.Nodup
  names : vocabulary.names.Nodup

theorem nodup_set_of (texts : List String) : (setOf texts).Nodup :=
  nodup_distinct textLe texts

theorem distinct_of_stripped (stripped : List Char) (names : Option (List String)) :
    (ofStripped stripped names).Distinct where
  tokens := nodup_set_of _
  words := nodup_set_of _
  identifiers := (nodup_set_of _).filter _
  keywords := (nodup_set_of _).filter _
  names := by
    cases names with
    | none => exact nodup_set_of _
    | some known => exact nodup_set_of _

theorem distinct_of_source (source : String) (tree : Option SyntaxTree) :
    (ofSource source tree).Distinct := by
  cases tree with
  | none =>
      rw [ofSource]
      exact distinct_of_stripped _ none
  | some tree =>
      rw [ofSource]
      exact distinct_of_stripped _ _

theorem Distinct.compare_comm {a b : Vocabulary} (once : a.Distinct) (once' : b.Distinct) :
    a.compare b = b.compare a := by
  simp only [compare, overlap_eq_ratio]
  rw [Overlap.ratio_comm once.tokens once'.tokens, Overlap.ratio_comm once.words once'.words,
    Overlap.ratio_comm once.identifiers once'.identifiers,
    Overlap.ratio_comm once.keywords once'.keywords, Overlap.ratio_comm once.names once'.names]

end Vocabulary

theorem Analysis.profile_of_source {grammar : Grammar} {limit : Nat} {source : String}
    {profile : ShapeProfile} (found : (ofSource grammar limit source).profile = some profile) :
    ∃ shape, profile = ShapeProfile.ofShape limit shape := by
  obtain ⟨tree, _, rfl⟩ := Option.map_eq_some_iff.1 found
  exact ⟨_, rfl⟩

theorem PairValidity.both_valid_comm (a b : Validity) :
    (PairValidity.mk a b).bothValid = (PairValidity.mk b a).bothValid :=
  Bool.and_comm _ _

namespace Calculator

theorem record_structural_comm (calculator calculator' : Calculator) (grammar : Grammar)
    (limit limit' : Nat) (reference candidate : String) (part part' : DelegatePart) :
    (calculator.record reference candidate (.ofSource grammar limit reference)
        (.ofSource grammar limit' candidate) part).structural =
      (calculator'.record candidate reference (.ofSource grammar limit' candidate)
        (.ofSource grammar limit reference) part').structural := by
  simp only [record]
  rw [PairValidity.both_valid_comm]
  split
  next valid =>
    cases found : (Analysis.ofSource grammar limit reference).profile with
    | none =>
        cases found' : (Analysis.ofSource grammar limit' candidate).profile with
        | none => rfl
        | some profile' => rfl
    | some profile =>
        cases found' : (Analysis.ofSource grammar limit' candidate).profile with
        | none => rfl
        | some profile' =>
            obtain ⟨shape, rfl⟩ := Analysis.profile_of_source found
            obtain ⟨shape', rfl⟩ := Analysis.profile_of_source found'
            exact congrArg some
              (ShapeScores.compare_with_comm Edit.distance_least ShapeTree.hasher limit limit'
                shape shape')
  next invalid => rfl

theorem record_vocabulary_comm (calculator calculator' : Calculator) (grammar : Grammar)
    (limit limit' : Nat) (reference candidate : String) (part part' : DelegatePart) :
    (calculator.record reference candidate (.ofSource grammar limit reference)
        (.ofSource grammar limit' candidate) part).vocabulary =
      (calculator'.record candidate reference (.ofSource grammar limit' candidate)
        (.ofSource grammar limit reference) part').vocabulary :=
  (Vocabulary.distinct_of_source _ _).compare_comm (Vocabulary.distinct_of_source _ _)

end Calculator

/-- Swapping reference and candidate changes nothing in the scores of two shapes, if the distance of
edit trees is a least cost, nothing in the overlaps of two vocabularies, and nothing in those two
parts of a record. -/
theorem swapped_sides_score_same {H : Type} [BEq H] [LawfulBEq H]
    {diff : EditTree H → EditTree H → Nat} (least : Edit.LeastCost diff) :
    (∀ (hasher : Hasher H) (limit limit' : Nat) (shape shape' : Shape),
      ShapeScores.compareWith diff (.ofShapeWith hasher limit shape)
          (.ofShapeWith hasher limit' shape') =
        ShapeScores.compareWith diff (.ofShapeWith hasher limit' shape')
          (.ofShapeWith hasher limit shape)) ∧
      (∀ (source source' : String) (tree tree' : Option SyntaxTree),
        (Vocabulary.ofSource source tree).compare (.ofSource source' tree') =
          (Vocabulary.ofSource source' tree').compare (.ofSource source tree)) ∧
      ∀ (calculator calculator' : Calculator) (grammar : Grammar) (limit limit' : Nat)
        (reference candidate : String) (part part' : Calculator.DelegatePart),
        let record := calculator.record reference candidate (.ofSource grammar limit reference)
          (.ofSource grammar limit' candidate) part
        let record' := calculator'.record candidate reference (.ofSource grammar limit' candidate)
          (.ofSource grammar limit reference) part'
        record.structural = record'.structural ∧ record.vocabulary = record'.vocabulary := by
  refine ⟨?_, ?_, ?_⟩
  · intro hasher limit limit' shape shape'
    exact ShapeScores.compare_with_comm least hasher limit limit' shape shape'
  · intro source source' tree tree'
    exact (Vocabulary.distinct_of_source source tree).compare_comm
      (Vocabulary.distinct_of_source source' tree')
  · intro calculator calculator' grammar limit limit' reference candidate part part'
    exact ⟨Calculator.record_structural_comm _ _ grammar limit limit' reference candidate _ _,
      Calculator.record_vocabulary_comm _ _ grammar limit limit' reference candidate _ _⟩

/-- A shape of three nodes, which has edit trees, against one of a single node, which has none. -/
theorem swapped_name_scores_same :
    let name := Shape.mk #[⟨"module", none, 1, #[1]⟩, ⟨"expression_statement", none, 2, #[2]⟩,
      ⟨"identifier", some "x", 3, #[]⟩]
    let empty := Shape.mk #[⟨"module", some "", 1, #[]⟩]
    Edit.LeastCost (Edit.distance (H := ShapeTree)) ∧
      ShapeScores.compare (.ofShape 500 name) (.ofShape 0 empty) =
        ShapeScores.compare (.ofShape 0 empty) (.ofShape 500 name) := by
  intro name empty
  have least : Edit.LeastCost (Edit.distance (H := ShapeTree)) := Edit.distance_least
  have same := (swapped_sides_score_same least).1 ShapeTree.hasher 500 0 name empty
  exact ⟨least, same⟩

end Resemblance
