import Mathlib
import Resemblance.Temperature.Comparison
import Resemblance.Proofs.BucketAccounts
import Resemblance.Proofs.Buckets
import Resemblance.Proofs.ConsistencyRange

/-!
Comparisons of temperatures. There is one for each model, challenge and prompt that entries are
stored under at two temperatures, in the order of these three; it has the temperatures of their
buckets, in order. The best and the worst are the first of their kind, since averages of scores in
the unit interval are numbers, which can be compared.
-/

namespace Resemblance

section First

variable {α β : Type} [LinearOrder β] {below upTo below' upTo' : α → α → Prop} {xs : List α} {x : α}

/-- The first of some things that none of them is above. -/
def FirstOf (below upTo : α → α → Prop) (xs : List α) (x : α) : Prop :=
  ∃ before after, xs = before ++ x :: after ∧ (∀ y ∈ before, below y x) ∧ ∀ y ∈ after, upTo y x

theorem FirstOf.mem (chosen : FirstOf below upTo xs x) : x ∈ xs := by
  obtain ⟨before, after, rfl, -, -⟩ := chosen
  exact List.mem_append_right before List.mem_cons_self

theorem FirstOf.imp (chosen : FirstOf below upTo xs x)
    (lower : ∀ a ∈ xs, ∀ b ∈ xs, below a b → below' a b)
    (level : ∀ a ∈ xs, ∀ b ∈ xs, upTo a b → upTo' a b) : FirstOf below' upTo' xs x := by
  have own := chosen.mem
  obtain ⟨before, after, rfl, first, last⟩ := chosen
  refine ⟨before, after, rfl, fun y member => ?_, fun y member => ?_⟩
  · exact lower y (List.mem_append_left _ member) x own (first y member)
  · exact level y (List.mem_append_right _ (List.mem_cons_of_mem x member)) x own (last y member)

/-- Going through a list and taking each thing that is above the one taken so far ends at the first
of the greatest. The induction is on the list from its end, where the last thing is taken or not. -/
theorem first_of_fold [DecidableRel below] (measure : α → β) (first : α) (rest : List α)
    (agree : ∀ x ∈ first :: rest, ∀ y ∈ first :: rest, below x y ↔ measure x < measure y) :
    FirstOf (fun x y => measure x < measure y) (fun x y => measure x ≤ measure y) (first :: rest)
      (rest.foldl (fun chosen x => if below chosen x then x else chosen) first) := by
  induction rest using List.reverseRecOn with
  | nil => exact ⟨[], [], rfl, List.forall_mem_nil _, List.forall_mem_nil _⟩
  | append_singleton rest x induction =>
      have start : first :: rest ⊆ first :: (rest ++ [x]) :=
        List.cons_subset_cons first (List.subset_append_left _ _)
      have own : x ∈ first :: (rest ++ [x]) := by simp
      have chosen := induction fun x member y member' => agree x (start member) y (start member')
      rw [List.foldl_append, List.foldl_cons, List.foldl_nil]
      generalize rest.foldl _ first = best at chosen
      have member := start chosen.mem
      obtain ⟨before, after, parts, lower, upTo⟩ := chosen
      split
      next above =>
        refine ⟨first :: rest, [], rfl, ?_, List.forall_mem_nil _⟩
        have more := (agree best member x own).1 above
        rw [parts, List.forall_mem_append, List.forall_mem_cons]
        exact ⟨fun y listed => (lower y listed).trans more, more,
          fun y listed => (upTo y listed).trans_lt more⟩
      next level =>
        refine ⟨before, after ++ [x], ?_, lower,
          List.forall_mem_append.2 ⟨upTo, List.forall_mem_singleton.2 ?_⟩⟩
        · rw [← List.cons_append, parts, List.append_assoc, List.cons_append]
        · exact not_lt.1 fun more => level ((agree best member x own).2 more)

end First

namespace TemperatureSetting

def average (setting : TemperatureSetting) : Float :=
  setting.consistency.average

def FirstBest : List TemperatureSetting → TemperatureSetting → Prop :=
  FirstOf (fun a b => a.average < b.average) fun a b => a.average ≤ b.average

def FirstWorst : List TemperatureSetting → TemperatureSetting → Prop :=
  FirstOf (fun a b => a.average > b.average) fun a b => a.average ≥ b.average

section Extremes

variable {first : TemperatureSetting} {rest : List TemperatureSetting}
  (numbers : ∀ setting ∈ first :: rest, Sided .positive setting.average)

include numbers

theorem exists_measure : ∃ measure : TemperatureSetting → EReal,
    ∀ setting ∈ first :: rest, Valued setting.average (measure setting) := by
  have valued : ∀ setting ∈ first :: rest, ∃ value, Valued setting.average value :=
      fun setting member =>
    number_valued (numbers setting member).is_number
  choose! measure valued using valued
  exact ⟨measure, valued⟩

theorem best_of_is_first : FirstBest (first :: rest) (bestOf first rest) := by
  obtain ⟨measure, valued⟩ := exists_measure numbers
  have lower : ∀ a ∈ first :: rest, ∀ b ∈ first :: rest, a.average < b.average ↔
      measure a < measure b :=
    fun a member b member' => (valued a member).lt_iff (valued b member')
  exact (first_of_fold measure first rest lower).imp
    (fun a member b member' => (lower a member b member').2)
    fun a member b member' => ((valued a member).le_iff (valued b member')).2

theorem worst_of_is_first : FirstWorst (first :: rest) (worstOf first rest) := by
  obtain ⟨measure, valued⟩ := exists_measure numbers
  have higher : ∀ a ∈ first :: rest, ∀ b ∈ first :: rest,
      a.average > b.average ↔ OrderDual.toDual (measure a) < OrderDual.toDual (measure b) :=
    fun a member b member' => (valued b member').lt_iff (valued a member)
  exact (first_of_fold _ first rest higher).imp
    (fun a member b member' => (higher a member b member').2)
    fun a member b member' => ((valued b member').le_iff (valued a member)).2

end Extremes

end TemperatureSetting

namespace TemperatureComparison

def texts (comparison : TemperatureComparison) : List String :=
  [comparison.model, comparison.challenge, comparison.prompt]

def labels (comparison : TemperatureComparison) : List String :=
  comparison.settings.map TemperatureSetting.label

def bucket (comparison : TemperatureComparison) (label : String) : BucketKey :=
  ⟨comparison.model, comparison.challenge, comparison.prompt, label⟩

/-- What a comparison says of the entries: its labels are those of the buckets of its model,
challenge and prompt, in order; each setting is read from its label and measured on the entries of
its bucket; and best, worst and effect describe the settings. -/
structure Compares (entries : List CacheEntry) (comparison : TemperatureComparison) : Prop where
  increasing : comparison.labels.Pairwise (· < ·)
  labels : ∀ label, label ∈ comparison.labels ↔
    ∃ entry ∈ entries, entry.key.reference.bucket = comparison.bucket label
  parameters : ∀ setting ∈ comparison.settings, setting.parameters = .ofLabel setting.label
  consistency : ∀ setting ∈ comparison.settings, setting.consistency =
    .ofRecords (((comparison.bucket setting.label).members entries).map CacheEntry.record)
  best : ∃ setting, TemperatureSetting.FirstBest comparison.settings setting ∧
    comparison.best = setting.label
  worst : ∃ setting, TemperatureSetting.FirstWorst comparison.settings setting ∧
    comparison.worst = setting.label
  effect : comparison.effect.isSome = true ↔
    2 ≤ comparison.labels.countP fun label => (Temperature.ofLabel label).temperature.isSome

/-- What it is for comparisons to cover some entries: they are in the order of model, challenge and
prompt, and there is one exactly for those that entries are stored under at two temperatures. -/
structure Cover (entries : List CacheEntry) (comparisons : List TemperatureComparison) : Prop where
  increasing : comparisons.Pairwise fun a b => a.texts < b.texts
  compared : ∀ model challenge prompt,
    (∃ comparison ∈ comparisons, comparison.texts = [model, challenge, prompt]) ↔
      ∃ first ∈ entries, ∃ second ∈ entries, ∃ label label', label ≠ label' ∧
        first.key.reference.bucket = ⟨model, challenge, prompt, label⟩ ∧
        second.key.reference.bucket = ⟨model, challenge, prompt, label'⟩

section Groups

variable {entries : List CacheEntry} {bucket : BucketSummary} {key : List String}
  {comparison : TemperatureComparison}

def summariesOf (entries : List CacheEntry) (key : List String) : List BucketSummary :=
  (BucketSummary.ofEntries entries).filter fun bucket => group bucket == key

def temperaturesOf (entries : List CacheEntry) (key : List String) : List String :=
  (summariesOf entries key).map fun bucket => bucket.key.temperature

theorem mem_summaries_of : bucket ∈ summariesOf entries key ↔
    bucket ∈ BucketSummary.ofEntries entries ∧ group bucket = key := by
  rw [summariesOf, List.mem_filter, beq_iff_eq]

theorem key_of_group {model challenge prompt : String}
    (same : group bucket = [model, challenge, prompt]) :
    bucket.key = ⟨model, challenge, prompt, bucket.key.temperature⟩ := by
  simp only [group, List.cons.injEq, and_true] at same
  obtain ⟨rfl, rfl, rfl⟩ := same
  rfl

theorem mem_temperatures_of {model challenge prompt label : String} :
    label ∈ temperaturesOf entries [model, challenge, prompt] ↔
      ∃ entry ∈ entries, entry.key.reference.bucket = ⟨model, challenge, prompt, label⟩ := by
  have listed (key : BucketKey) : key ∈ bucketKeys entries ↔
      ∃ entry ∈ entries, entry.key.reference.bucket = key :=
    mem_distinct.trans List.mem_map
  rw [← listed, temperaturesOf, List.mem_map]
  constructor
  · rintro ⟨bucket, member, rfl⟩
    obtain ⟨summarized, same⟩ := mem_summaries_of.1 member
    rw [← key_of_group same]
    obtain ⟨key, stored, rfl⟩ := List.mem_map.1 summarized
    exact stored
  · intro stored
    exact ⟨_, mem_summaries_of.2 ⟨List.mem_map_of_mem stored, rfl⟩, rfl⟩

theorem temperatures_increase (entries : List CacheEntry) (key : List String) :
    (temperaturesOf entries key).Pairwise (· < ·) := by
  have keys : (BucketSummary.ofEntries entries).Pairwise fun a b => a.key.texts < b.key.texts :=
    List.pairwise_map.2 (BucketKey.distinct_increasing _)
  rw [temperaturesOf, List.pairwise_map]
  refine (keys.filter _).imp_of_mem fun {a b} first second less => ?_
  have same : group a = group b :=
    (mem_summaries_of.1 first).2.trans (mem_summaries_of.1 second).2.symm
  simp only [group, List.cons.injEq, and_true] at same
  obtain ⟨models, challenges, prompts⟩ := same
  simpa [BucketKey.texts, models, challenges, prompts, List.cons_lt_cons_iff] using less

/-- The summaries that a comparison is made of. -/
theorem of_buckets_spec {buckets : List BucketSummary}
    (made : ofBuckets? buckets = some comparison) :
    ∃ first rest, buckets = first :: rest ∧ comparison.texts = group first ∧
      comparison.settings = TemperatureSetting.ofBucket first ::
        rest.map TemperatureSetting.ofBucket ∧
      comparison.best = (TemperatureSetting.bestOf (.ofBucket first) (rest.map .ofBucket)).label ∧
      comparison.worst = (TemperatureSetting.worstOf (.ofBucket first) (rest.map .ofBucket)).label ∧
      comparison.effect = TemperatureEffect.ofPoints?
        ((comparison.settings.filterMap TemperatureSetting.point?).map Prod.fst)
        ((comparison.settings.filterMap TemperatureSetting.point?).map Prod.snd) := by
  unfold ofBuckets? at made
  split at made
  next first second rest =>
    obtain rfl := Option.some.inj made
    exact ⟨first, second :: rest, rfl, rfl, rfl, rfl, rfl, rfl⟩
  next => cases made

theorem of_buckets_isSome_iff (buckets : List BucketSummary) :
    (ofBuckets? buckets).isSome = true ↔ 2 ≤ buckets.length := by
  match buckets with
  | [] => exact ⟨nofun, nofun⟩
  | [_] => exact ⟨nofun, fun more => absurd more (by simp)⟩
  | _ :: _ :: _ => exact ⟨fun _ => by simp, fun _ => rfl⟩

theorem exists_summary_of_made (made : ofBuckets? (summariesOf entries key) = some comparison) :
    ∃ bucket ∈ summariesOf entries key, comparison.texts = group bucket := by
  obtain ⟨first, rest, buckets, texts, -⟩ := of_buckets_spec made
  exact ⟨first, buckets ▸ List.mem_cons_self, texts⟩

theorem texts_of_made (made : ofBuckets? (summariesOf entries key) = some comparison) :
    comparison.texts = key := by
  obtain ⟨bucket, own, texts⟩ := exists_summary_of_made made
  exact texts.trans (mem_summaries_of.1 own).2

theorem mem_of_summaries : comparison ∈ ofSummaries (BucketSummary.ofEntries entries) ↔
    ofBuckets? (summariesOf entries comparison.texts) = some comparison := by
  rw [ofSummaries, List.mem_filterMap]
  constructor
  · rintro ⟨key, -, made⟩
    have same := texts_of_made made
    rwa [same]
  · intro made
    refine ⟨comparison.texts, ?_, made⟩
    obtain ⟨bucket, own, texts⟩ := exists_summary_of_made made
    rw [mem_distinct, texts]
    exact List.mem_map_of_mem (mem_summaries_of.1 own).1

theorem exists_comparison_iff (entries : List CacheEntry) (key : List String) :
    (∃ comparison ∈ ofSummaries (BucketSummary.ofEntries entries), comparison.texts = key) ↔
      2 ≤ (summariesOf entries key).length := by
  rw [← of_buckets_isSome_iff, Option.isSome_iff_exists]
  constructor
  · rintro ⟨comparison, member, rfl⟩
    exact ⟨comparison, mem_of_summaries.1 member⟩
  · rintro ⟨comparison, made⟩
    have same := texts_of_made made
    exact ⟨comparison, mem_of_summaries.2 (by rwa [same]), same⟩

theorem comparisons_increase (entries : List CacheEntry) :
    (ofSummaries (BucketSummary.ofEntries entries)).Pairwise fun a b => a.texts < b.texts := by
  have ordered : ∀ a b, textsLe a b = textsLe (id a) (id b) := fun _ _ => rfl
  have keys := distinct_increasing ordered (fun _ _ same => same)
    ((BucketSummary.ofEntries entries).map group)
  rw [ofSummaries, List.pairwise_filterMap]
  refine keys.imp fun {key key'} less a made b made' => ?_
  rw [texts_of_made made, texts_of_made made']
  exact less

theorem two_temperatures_iff (entries : List CacheEntry) (key : List String) :
    2 ≤ (summariesOf entries key).length ↔
      ∃ label ∈ temperaturesOf entries key, ∃ label' ∈ temperaturesOf entries key,
      label ≠ label' := by
  have apart : (temperaturesOf entries key).Nodup :=
    (temperatures_increase entries key).imp ne_of_lt
  have length : (temperaturesOf entries key).length = (summariesOf entries key).length :=
    List.length_map _
  have two := Finset.one_lt_card (s := (temperaturesOf entries key).toFinset)
  simp only [List.toFinset_card_of_nodup apart, length, List.mem_toFinset] at two
  exact two

theorem effect_isSome_iff {settings : List TemperatureSetting}
    (parameters : ∀ setting ∈ settings, setting.parameters = .ofLabel setting.label) :
    (TemperatureEffect.ofPoints? ((settings.filterMap TemperatureSetting.point?).map Prod.fst)
        ((settings.filterMap TemperatureSetting.point?).map Prod.snd)).isSome = true ↔
      2 ≤ (settings.map TemperatureSetting.label).countP fun label =>
        (Temperature.ofLabel label).temperature.isSome := by
  have points : (settings.filterMap TemperatureSetting.point?).length =
      (settings.map TemperatureSetting.label).countP fun label =>
          (Temperature.ofLabel label).temperature.isSome := by
    rw [List.length_filterMap_eq_countP, List.countP_map]
    refine List.countP_congr fun setting member => ?_
    rw [Function.comp_apply, ← parameters setting member, TemperatureSetting.point?,
      Option.isSome_map]
  rw [← points, TemperatureEffect.ofPoints?, List.length_map, List.length_map, bne_self_eq_false,
    Bool.or_false]
  split
  next few => exact ⟨nofun, fun more => absurd (of_decide_eq_true few) (Nat.not_lt.2 more)⟩
  next more => exact ⟨fun _ => Nat.not_lt.1 fun few => more (decide_eq_true few), fun _ => rfl⟩

theorem setting_of_made (made : ofBuckets? (summariesOf entries comparison.texts) = some comparison)
    {setting : TemperatureSetting} (member : setting ∈ comparison.settings) :
    setting.parameters = .ofLabel setting.label ∧ setting.consistency =
      .ofRecords (((comparison.bucket setting.label).members entries).map CacheEntry.record) := by
  obtain ⟨first, rest, buckets, -, settings, -⟩ := of_buckets_spec made
  rw [settings, ← List.map_cons, ← buckets] at member
  obtain ⟨bucket, own, rfl⟩ := List.mem_map.1 member
  obtain ⟨listed, same⟩ := mem_summaries_of.1 own
  have whole : bucket.key = comparison.bucket bucket.key.temperature := key_of_group same
  refine ⟨rfl, ?_⟩
  change bucket.consistency =
    .ofRecords (((comparison.bucket bucket.key.temperature).members entries).map CacheEntry.record)
  rw [← whole]
  obtain ⟨key, -, rfl⟩ := List.mem_map.1 listed
  rfl

theorem compares (scored : ∀ entry ∈ entries, ∀ score ∈ entry.record.scores, InUnit score)
    (member : comparison ∈ ofSummaries (BucketSummary.ofEntries entries)) :
    comparison.Compares entries := by
  have made := mem_of_summaries.1 member
  have parts := fun setting (listed : setting ∈ comparison.settings) => setting_of_made made listed
  obtain ⟨first, rest, buckets, -, settings, best, worst, effect⟩ := of_buckets_spec made
  have labels : comparison.labels = temperaturesOf entries comparison.texts := by
    rw [TemperatureComparison.labels, temperaturesOf, settings, buckets,
      ← List.map_cons, List.map_map]
    rfl
  have numbers : ∀ setting ∈ comparison.settings, Sided .positive setting.average := by
    intro setting listed
    rw [TemperatureSetting.average, (parts setting listed).2]
    refine ConsistencyScores.average_sided (List.forall_mem_map.2 fun entry stored => ?_)
    exact scored entry (List.mem_filter.1 stored).1
  rw [settings] at numbers
  have best_first : TemperatureSetting.FirstBest comparison.settings _ :=
    settings ▸ TemperatureSetting.best_of_is_first numbers
  have worst_first : TemperatureSetting.FirstWorst comparison.settings _ :=
    settings ▸ TemperatureSetting.worst_of_is_first numbers
  exact
    { increasing := labels ▸ temperatures_increase entries _
      labels := fun label => labels ▸ mem_temperatures_of
      parameters := fun setting listed => (parts setting listed).1
      consistency := fun setting listed => (parts setting listed).2
      best := ⟨_, best_first, best⟩
      worst := ⟨_, worst_first, worst⟩
      effect := effect ▸ effect_isSome_iff fun setting listed => (parts setting listed).1 }

theorem cover (entries : List CacheEntry) :
    Cover entries (ofSummaries (BucketSummary.ofEntries entries)) where
  increasing := comparisons_increase entries
  compared := by
    intro model challenge prompt
    rw [exists_comparison_iff, two_temperatures_iff]
    simp only [mem_temperatures_of]
    constructor
    · rintro ⟨label, ⟨first, stored, own⟩, label', ⟨second, stored', own'⟩, apart⟩
      exact ⟨first, stored, second, stored', label, label', apart, own, own'⟩
    · rintro ⟨first, stored, second, stored', label, label', apart, own, own'⟩
      exact ⟨label, ⟨first, stored, own⟩, label', ⟨second, stored', own'⟩, apart⟩

end Groups

/-- The comparisons of some entries cover them, and each of them says what holds. -/
theorem entries_covered_and_compared (entries : List CacheEntry)
    (scored : ∀ entry ∈ entries, ∀ score ∈ entry.record.scores, InUnit score) :
    Cover entries (ofSummaries (BucketSummary.ofEntries entries)) ∧
      ∀ comparison ∈ ofSummaries (BucketSummary.ofEntries entries), comparison.Compares entries :=
  ⟨cover entries, fun _ member => compares scored member⟩

section Instances

def scoredEntry (prompt temperature : String) (composite : Float) : CacheEntry :=
  ⟨⟨⟨"sort", prompt, temperature, 0, "m"⟩, ⟨"sort", prompt, temperature, 1, "m"⟩, "a", "b", "v1"⟩,
    { Record.ofFailure ⟨1735689600, 0⟩ (.internal "") with
      composite, validity := some ⟨.valid, .valid⟩, error := none }⟩

def scoredEntries : List CacheEntry :=
  [scoredEntry "p" "temp_0.8" 0.5, scoredEntry "p" "temp_0.2" 1.0, scoredEntry "q" "temp_0.2" 0.5]

theorem scored_entries_in_unit : ∀ entry ∈ scoredEntries, ∀ score ∈ entry.record.scores,
    InUnit score := by
  have low : InUnit 0.0 := ⟨by decide +kernel, by decide +kernel⟩
  have middle : InUnit 0.5 := ⟨by decide +kernel, by decide +kernel⟩
  have high : InUnit 1.0 := ⟨by decide +kernel, by decide +kernel⟩
  simp [scoredEntries, scoredEntry, Record.scores, Record.textScores, Record.countScores,
    Record.ofFailure, VocabularyScores.values, low, middle, high]

/-- Of two prompts only the one that is stored at two temperatures has a comparison. -/
theorem prompt_at_two_temperatures_compared :
    (∀ entry ∈ scoredEntries, ∀ score ∈ entry.record.scores, InUnit score) ∧
      (∃ comparison ∈ ofSummaries (BucketSummary.ofEntries scoredEntries),
        comparison.texts = ["m", "sort", "p"] ∧ comparison.Compares scoredEntries) ∧
      ¬ ∃ comparison ∈ ofSummaries (BucketSummary.ofEntries scoredEntries),
        comparison.texts = ["m", "sort", "q"] := by
  obtain ⟨cover, compares⟩ := entries_covered_and_compared scoredEntries scored_entries_in_unit
  refine ⟨scored_entries_in_unit, ?_, fun compared => ?_⟩
  · obtain ⟨comparison, member, texts⟩ := (cover.compared "m" "sort" "p").2
      ⟨scoredEntry "p" "temp_0.8" 0.5, by simp [scoredEntries], scoredEntry "p" "temp_0.2" 1.0,
        by simp [scoredEntries], "temp_0.8", "temp_0.2", by decide, rfl, rfl⟩
    exact ⟨comparison, member, texts, compares comparison member⟩
  · have only : ∀ entry ∈ scoredEntries, ∀ label,
        entry.key.reference.bucket = ⟨"m", "sort", "q", label⟩ → "temp_0.2" = label := by
      simp [scoredEntries, scoredEntry, ArtifactId.bucket]
    obtain ⟨first, stored, second, stored', label, label', apart, own, own'⟩ :=
      (cover.compared "m" "sort" "q").1 compared
    exact apart ((only first stored label own).symm.trans (only second stored' label' own'))

end Instances

end TemperatureComparison

end Resemblance
