import Mathlib.Data.List.Nodup
import Resemblance.Proofs.CachePaths
import Resemblance.Proofs.FileTree

/-!
Trees of files as they can stand on a disk: in every directory the names are those of entries, each
once and in their order. The listing of such a tree has everything below it exactly once, and
putting something of this kind at a place of plain names keeps a tree so.
-/

namespace Resemblance.FileTree

/-- In every directory the names are plain and stand in their order, none twice. -/
inductive Sound : FileTree → Prop
  | file (content : ByteArray) : Sound (.file content)
  | link (target : String) : Sound (.link target)
  | directory {entries : List (String × FileTree)}
      (increasing : entries.Pairwise fun entry next => entry.1 < next.1)
      (plain : ∀ entry ∈ entries, Path.Plain entry.1)
      (below : ∀ entry ∈ entries, Sound entry.2) : Sound (.directory entries)

variable {tree value found : FileTree} {place names : List String} {name : String}
variable {entries : List (String × FileTree)}

theorem sound_empty : Sound empty :=
  .directory .nil (fun _ => nofun) (fun _ => nofun)

theorem sound_single (plain : Path.Plain name) (sound : value.Sound) :
    (directory [(name, value)]).Sound :=
  .directory (List.pairwise_singleton _ _) (List.forall_mem_singleton.2 plain)
    (List.forall_mem_singleton.2 sound)

section Entries

theorem lookup_eq_some_iff (increasing : entries.Pairwise fun entry next => entry.1 < next.1) :
    entries.lookup name = some found ↔ (name, found) ∈ entries := by
  induction entries with
  | nil => simp
  | cons entry rest ih =>
      obtain ⟨key, child⟩ := entry
      obtain ⟨first, increasing⟩ := List.pairwise_cons.1 increasing
      by_cases same : name = key
      · subst same
        have elsewhere : (name, found) ∉ rest :=
          fun member => String.lt_irrefl name (first _ member)
        simp [elsewhere, eq_comm]
      · have other : (name == key) = false := beq_false_of_ne same
        simp [List.lookup_cons, other, same, ih increasing]

theorem text_le_iff {first second : String} : textLe first second = true ↔ first ≤ second :=
  decide_eq_true_iff

theorem mem_setEntry {entry : String × FileTree} (member : entry ∈ setEntry name value entries) :
    entry = (name, value) ∨ entry ∈ entries := by
  induction entries with
  | nil => exact .inl (List.mem_singleton.1 member)
  | cons first rest ih =>
      rw [setEntry] at member
      split at member
      · rcases List.mem_cons.1 member with same | later
        · exact .inl same
        · exact .inr (.tail _ later)
      · split at member
        · rcases List.mem_cons.1 member with same | later
          · exact .inr (same ▸ List.mem_cons_self)
          · exact (ih later).imp id (.tail _)
        · exact (List.mem_cons.1 member).imp id id

theorem increasing_setEntry (increasing : entries.Pairwise fun entry next => entry.1 < next.1) :
    (setEntry name value entries).Pairwise fun entry next => entry.1 < next.1 := by
  induction entries with
  | nil => exact List.pairwise_singleton _ _
  | cons first rest ih =>
      obtain ⟨before, later⟩ := List.pairwise_cons.1 increasing
      rw [setEntry]
      split
      · rename_i same
        exact List.pairwise_cons.2 ⟨same ▸ before, later⟩
      · rename_i other
        split
        · rename_i le
          refine List.pairwise_cons.2 ⟨fun entry member => ?_, ih later⟩
          rcases mem_setEntry member with rfl | member
          · have unequal : ¬name ≤ first.1 :=
              fun back => other (String.le_antisymm (text_le_iff.1 le) back)
            exact String.not_le.1 unequal
          · exact before entry member
        · rename_i greater
          have less : name < first.1 := String.not_le.1 fun le => greater (text_le_iff.2 le)
          refine List.pairwise_cons.2 ⟨fun entry member => ?_, increasing⟩
          rcases List.mem_cons.1 member with rfl | member
          · exact less
          · exact String.lt_trans less (before entry member)

end Entries

section Places

theorem Sound.of_entries (sound : tree.Sound) :
    tree.entries.Pairwise (fun entry next => entry.1 < next.1) ∧
      (∀ entry ∈ tree.entries, Path.Plain entry.1) ∧ ∀ entry ∈ tree.entries, entry.2.Sound := by
  cases sound with
  | file content => exact ⟨.nil, fun _ => nofun, fun _ => nofun⟩
  | link target => exact ⟨.nil, fun _ => nofun, fun _ => nofun⟩
  | directory increasing plain below => exact ⟨increasing, plain, below⟩

theorem Sound.child (sound : tree.Sound) (here : tree.entries.lookup name = some found) :
    found.Sound :=
  sound.of_entries.2.2 _ ((lookup_eq_some_iff sound.of_entries.1).1 here)

theorem Sound.get (sound : tree.Sound) (here : tree.get? place = some found) : found.Sound := by
  induction place generalizing tree with
  | nil => exact Option.some.inj ((get?_nil tree).symm.trans here) ▸ sound
  | cons name place ih =>
      rw [get?] at here
      obtain ⟨child, first, rest⟩ := Option.bind_eq_some_iff.1 here
      exact ih (sound.child first) rest

theorem Sound.set (sound : tree.Sound) (valueSound : value.Sound)
    (plain : ∀ name ∈ place, Path.Plain name) :
    (tree.set value place).Sound := by
  induction place generalizing tree with
  | nil => exact valueSound
  | cons name place ih =>
      have childSound : ((tree.entries.lookup name).getD empty).Sound := by
        cases here : tree.entries.lookup name with
        | none => exact sound_empty
        | some child => exact sound.child here
      have below := ih childSound fun name member => plain name (.tail _ member)
      obtain ⟨increasing, plainNames, sounds⟩ := sound.of_entries
      rw [FileTree.set]
      refine .directory (increasing_setEntry increasing) ?_ ?_
      · intro entry member
        rcases mem_setEntry member with rfl | member
        · exact plain _ List.mem_cons_self
        · exact plainNames entry member
      · intro entry member
        rcases mem_setEntry member with rfl | member
        · exact below
        · exact sounds entry member

theorem Sound.plain (sound : tree.Sound) (here : tree.get? place = some found) :
    ∀ name ∈ place, Path.Plain name := by
  induction place generalizing tree with
  | nil => exact fun _ => nofun
  | cons first place ih =>
      rw [get?] at here
      obtain ⟨child, child_here, rest⟩ := Option.bind_eq_some_iff.1 here
      intro name member
      rcases List.mem_cons.1 member with rfl | member
      · exact sound.of_entries.2.1 _ ((lookup_eq_some_iff sound.of_entries.1).1 child_here)
      · exact ih (sound.child child_here) rest name member

theorem Sound.find {path : String} (sound : tree.Sound) (there : tree.find path = .ok found) :
    found.Sound := by
  obtain ⟨-, place, -, here⟩ := find_ok_iff.1 there
  exact sound.get here

end Places

section Listing

theorem contents_among_eq (place : List String) (entries : List (String × FileTree)) :
    contentsAmong place entries = entries.flatMap fun entry =>
      (place ++ [entry.1], entry.2) :: contents (place ++ [entry.1]) entry.2 := by
  induction entries with
  | nil => rw [contentsAmong, List.flatMap_nil]
  | cons entry rest ih =>
      obtain ⟨name, tree⟩ := entry
      rw [contentsAmong, ih, List.flatMap_cons, List.cons_append]

theorem mem_contents (sound : tree.Sound) {listed : List String × FileTree} :
    listed ∈ contents place tree ↔
      ∃ name rest, listed.1 = place ++ name :: rest ∧ tree.get? (name :: rest) = some listed.2 := by
  induction sound generalizing place with
  | file content => simp [contents, get?, FileTree.entries]
  | link target => simp [contents, get?, FileTree.entries]
  | @directory entries increasing plain below ih =>
      rw [contents, contents_among_eq, List.mem_flatMap]
      constructor
      · rintro ⟨entry, member, here⟩
        have first : (directory entries).entries.lookup entry.1 = some entry.2 :=
          (lookup_eq_some_iff increasing).2 member
        rcases List.mem_cons.1 here with rfl | deeper
        · exact ⟨entry.1, [], rfl, by rw [get?, first, Option.bind_some, get?_nil]⟩
        · obtain ⟨name, rest, same, found⟩ := (ih entry member).1 deeper
          refine ⟨entry.1, name :: rest, ?_, by rw [get?, first, Option.bind_some, found]⟩
          rw [same, List.append_assoc, List.singleton_append]
      · rintro ⟨name, rest, same, here⟩
        rw [get?] at here
        obtain ⟨child, first, here⟩ := Option.bind_eq_some_iff.1 here
        have member := (lookup_eq_some_iff increasing).1 first
        refine ⟨(name, child), member, ?_⟩
        cases rest with
        | nil =>
            rw [get?_nil] at here
            obtain rfl := Option.some.inj here
            exact List.mem_cons.2 (.inl (Prod.ext same rfl))
        | cons next rest =>
            refine .tail _ ((ih _ member).2 ⟨next, rest, ?_, here⟩)
            rw [same, List.append_assoc, List.singleton_append]

/-- Everything below a tree is listed with the names that lead to it. -/
theorem mem_walk (sound : tree.Sound) {listed : List String × FileTree} :
    listed ∈ tree.walk ↔ listed.1 ≠ [] ∧ tree.get? listed.1 = some listed.2 := by
  rw [walk, mem_contents sound]
  constructor
  · rintro ⟨name, rest, same, here⟩
    rw [same, List.nil_append]
    exact ⟨List.cons_ne_nil name rest, here⟩
  · rintro ⟨some, here⟩
    obtain ⟨name, rest, same⟩ := List.exists_cons_of_ne_nil some
    exact ⟨name, rest, same, same ▸ here⟩

theorem places_nodup (sound : tree.Sound) (place : List String) :
    ((contents place tree).map Prod.fst).Nodup := by
  induction sound generalizing place with
  | file content => exact List.nodup_nil
  | link target => exact List.nodup_nil
  | @directory entries increasing plain below ih =>
      rw [contents, contents_among_eq, List.map_flatMap, List.nodup_flatMap]
      constructor
      · intro entry member
        refine List.nodup_cons.2 ⟨fun again => ?_, ih entry member _⟩
        obtain ⟨listed, deeper, same⟩ := List.mem_map.1 again
        obtain ⟨name, rest, longer, -⟩ := (mem_contents (below entry member)).1 deeper
        rw [longer] at same
        simpa using congrArg List.length same
      · refine (increasing.imp_of_mem fun {entry next} member member' less => ?_)
        have starts (entry : String × FileTree) (member : entry ∈ entries) :
            ∀ listed ∈ ((place ++ [entry.1], entry.2) :: contents (place ++ [entry.1]) entry.2).map
                Prod.fst,
              ∃ rest, listed = place ++ entry.1 :: rest := by
          intro listed among
          obtain ⟨whole, stands, rfl⟩ := List.mem_map.1 among
          rcases List.mem_cons.1 stands with rfl | deeper
          · exact ⟨[], rfl⟩
          · obtain ⟨name, rest, same, -⟩ := (mem_contents (below entry member)).1 deeper
            exact ⟨name :: rest, by rw [same, List.append_assoc, List.singleton_append]⟩
        intro listed here here'
        obtain ⟨rest, same⟩ := starts entry member listed here
        obtain ⟨rest', same'⟩ := starts next member' listed here'
        have first := (List.cons.inj (List.append_cancel_left (same.symm.trans same'))).1
        exact String.lt_irrefl _ (first ▸ less)

/-- Nothing is listed twice. -/
theorem walk_nodup (sound : tree.Sound) : (tree.walk.map Prod.fst).Nodup :=
  places_nodup sound []

end Listing

end Resemblance.FileTree
