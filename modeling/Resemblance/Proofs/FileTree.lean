import Mathlib.Data.List.Infix
import Resemblance.FileTree.Access

/-!
How trees of files grow. Making a directory where nothing is and putting a file in the place of
nothing or of another file leave all links and all directories where they are, so a path that led to
a place before still leads there.
-/

namespace Resemblance.FileTree

variable {tree tree' value found : FileTree} {place names more rest : List String} {name : String}
variable {entries : List (String × FileTree)}

section Places

theorem get?_append (tree : FileTree) (place names : List String) :
    tree.get? (place ++ names) = (tree.get? place).bind (get? · names) := by
  induction place generalizing tree with
  | nil => rw [List.nil_append, get?_nil, Option.bind_some]
  | cons name place ih =>
      rw [List.cons_append, get?, get?]
      cases tree.entries.lookup name with
      | none => rfl
      | some child => exact ih child

theorem get?_child (here : tree.get? place = some (directory entries)) (name : String) :
    tree.get? (place ++ [name]) = entries.lookup name := by
  rw [get?_append, here, Option.bind_some, get?]
  simp only [get?_nil]
  exact Option.bind_fun_some _

def DirectoryAt (tree : FileTree) (place : List String) : Prop :=
  ∃ entries, tree.get? place = some (directory entries)

theorem directory_above (below : tree.get? (place ++ name :: rest) = some found) :
    tree.DirectoryAt place := by
  rw [get?_append] at below
  obtain ⟨above, here, below⟩ := Option.bind_eq_some_iff.1 below
  cases above with
  | directory entries => exact ⟨entries, here⟩
  | file content => simp [get?, FileTree.entries] at below
  | link target => simp [get?, FileTree.entries] at below

theorem directory_above_entry (above : names <+: place) (other : names ≠ place)
    (here : tree.get? place = some found) : tree.DirectoryAt names := by
  obtain ⟨rest, rfl⟩ := above
  cases rest with
  | nil => simp at other
  | cons name rest => exact directory_above here

theorem DirectoryAt.dropLast (here : tree.DirectoryAt place) : tree.DirectoryAt place.dropLast := by
  by_cases top : place.dropLast = place
  · rwa [top]
  · obtain ⟨entries, here⟩ := here
    exact directory_above_entry (List.dropLast_prefix place) top here

theorem bare_of_not_directory (bare : ¬ tree.DirectoryAt place) :
    ∀ old, tree.get? place = some old → old.entries = []
  | directory entries, here => absurd ⟨entries, here⟩ bare
  | file _, _ => rfl
  | link _, _ => rfl

theorem get?_empty (some : names ≠ []) : empty.get? names = none := by
  obtain ⟨name, rest, rfl⟩ := List.exists_cons_of_ne_nil some
  rfl

/-- Apart from the way to it, only the place itself changes, if nothing is below it before and
after. -/
theorem get?_set_apart (bare : value.entries = [])
    (before : ∀ old, tree.get? place = some old → old.entries = []) (apart : ¬ names <+: place) :
    (tree.set value place).get? names = tree.get? names := by
  induction place generalizing tree names with
  | nil =>
      cases names with
      | nil => simp at apart
      | cons name names => simp only [set, get?, bare, before tree (get?_nil tree), List.lookup_nil]
  | cons step place ih =>
      cases names with
      | nil => simp at apart
      | cons name names =>
          rw [set, get?, get?]
          show (List.lookup name (setEntry step _ tree.entries)).bind _ = _
          by_cases same : name = step
          · subst same
            have apart : ¬ names <+: place := fun above => apart (by simpa using above)
            rw [lookup_setEntry_self, Option.bind_some]
            rw [get?] at before
            cases child : tree.entries.lookup name with
            | some child =>
                rw [child, Option.bind_some] at before
                exact ih before apart
            | none =>
                have inside : names ≠ [] := fun none => apart (none ▸ List.nil_prefix)
                have bareBefore (old : FileTree) (here : empty.get? place = some old) :
                    old.entries = [] := by
                  cases place with
                  | nil => exact Option.some.inj here ▸ rfl
                  | cons name place => contradiction
                rw [Option.getD_none, ih bareBefore apart, get?_empty inside]
                rfl
          · rw [lookup_setEntry_other _ _ same]

end Places

section Growth

/-- The links of both trees are the same, and the second has all directories of the first. -/
structure Grows (tree tree' : FileTree) : Prop where
  links : ∀ place target,
    tree.get? place = some (link target) ↔ tree'.get? place = some (link target)
  directories : ∀ place, tree.DirectoryAt place → tree'.DirectoryAt place

theorem Grows.refl (tree : FileTree) : Grows tree tree :=
  ⟨fun _ _ => Iff.rfl, fun _ here => here⟩

theorem Grows.trans {between : FileTree} (first : Grows tree between)
    (second : Grows between tree') :
    Grows tree tree' :=
  ⟨fun place target => (first.links place target).trans (second.links place target),
    fun place here => second.directories place (first.directories place here)⟩

/-- A thing without entries is put into a directory, in the place of nothing or of a file. -/
structure Fits (tree : FileTree) (place : List String) (name : String)
    (value : FileTree) : Prop where
  above : tree.DirectoryAt place
  noDirectory : ¬ tree.DirectoryAt (place ++ [name])
  noLink : ∀ target, tree.get? (place ++ [name]) ≠ some (link target)
  bare : value.entries = []
  plain : ∀ target, value ≠ link target

theorem Fits.of_free (directory : tree.DirectoryAt place)
    (free : ∀ there, tree.get? (place ++ [name]) = some there → there.isFile = true)
    (bare : value.entries = []) (plain : ∀ target, value ≠ link target) :
    Fits tree place name value where
  above := directory
  noDirectory := fun ⟨_, here⟩ => Bool.false_ne_true (free _ here)
  noLink := fun _ here => Bool.false_ne_true (free _ here)
  bare := bare
  plain := plain

theorem Fits.of_missing (directory : tree.DirectoryAt place)
    (missing : tree.get? (place ++ [name]) = none) : Fits tree place name empty :=
  .of_free directory (fun _ here => by cases missing.symm.trans here) rfl fun _ same => by cases same

theorem Fits.above_set (fits : Fits tree place name value) (above : names <+: place ++ [name])
    (other : names ≠ place ++ [name]) :
    tree.DirectoryAt names ∧ (tree.set value (place ++ [name])).DirectoryAt names := by
  refine ⟨?_, directory_above_entry above other (get?_set _ _ _)⟩
  have above := (List.prefix_concat_iff.1 above).resolve_left other
  by_cases same : names = place
  · exact same ▸ fits.above
  · obtain ⟨entries, here⟩ := fits.above
    exact directory_above_entry above same here

theorem Fits.set_apart (fits : Fits tree place name value) (apart : ¬ names <+: place ++ [name]) :
    (tree.set value (place ++ [name])).get? names = tree.get? names :=
  get?_set_apart fits.bare (bare_of_not_directory fits.noDirectory) apart

theorem Fits.grows (fits : Fits tree place name value) :
    Grows tree (tree.set value (place ++ [name])) where
  links names target := by
    by_cases above : names <+: place ++ [name]
    · by_cases same : names = place ++ [name]
      · subst same
        rw [get?_set, Option.some_inj]
        exact iff_of_false (fits.noLink target) (fits.plain target)
      · obtain ⟨⟨_, before⟩, ⟨_, after⟩⟩ := fits.above_set above same
        simp [before, after]
    · rw [fits.set_apart above]
  directories names here := by
    by_cases above : names <+: place ++ [name]
    · by_cases same : names = place ++ [name]
      · exact absurd (same ▸ here) fits.noDirectory
      · exact (fits.above_set above same).2
    · rwa [DirectoryAt, fits.set_apart above]

theorem Fits.file_iff {content : ByteArray} (fits : Fits tree place name value)
    (other : names ≠ place ++ [name]) :
    tree.get? names = some (file content) ↔
      (tree.set value (place ++ [name])).get? names = some (file content) := by
  by_cases above : names <+: place ++ [name]
  · obtain ⟨⟨_, before⟩, ⟨_, after⟩⟩ := fits.above_set above other
    simp [before, after]
  · rw [fits.set_apart above]

end Growth

section Ways

variable {arrival : Arrival} {links : Nat} {target : String} {goal : List String}

theorem advance_back_ok :
    advance tree place (".." :: rest) = .ok arrival ↔
      tree.DirectoryAt place ∧ advance tree place.dropLast rest = .ok arrival := by
  rw [advance]
  split
  · rename_i entries here
    have directory : tree.DirectoryAt place := ⟨entries, here⟩
    simp [directory]
  · rename_i other
    have none : ¬ tree.DirectoryAt place := fun ⟨entries, here⟩ => other entries here
    simp [none]

/-- One step down on a way: out of a directory, by a name that is not too long. What is missing at
its end is no directory, so the way ends there. -/
theorem advance_cons_ok (down : name ≠ "..") :
    advance tree place (name :: rest) = .ok arrival ↔
      tree.DirectoryAt place ∧ name.utf8ByteSize ≤ greatestName ∧
        ((∃ target, tree.get? (place ++ [name]) = some (link target) ∧
            arrival = .linked place target rest) ∨
          (∀ target, tree.get? (place ++ [name]) ≠ some (link target)) ∧
            advance tree (place ++ [name]) rest = .ok arrival) := by
  rw [advance]
  split
  · rename_i entries here
    have directory : tree.DirectoryAt place := ⟨entries, here⟩
    rw [get?_child here, if_neg down]
    split
    · rename_i long
      simp [Nat.not_le.2 long]
    · rename_i short
      have short := Nat.not_lt.1 short
      split
      · rename_i missing
        cases rest with
        | nil => simp [directory, short, advance, missing]
        | cons next rest =>
            have gone := (get?_child here name).trans missing
            simp [advance, missing, gone]
      · rename_i target linked
        simp [directory, short, linked, eq_comm]
      · rename_i child other found
        have apart (target : String) : child ≠ link target := other target
        simp [directory, short, found, apart]
  · rename_i other
    have none : ¬ tree.DirectoryAt place := fun ⟨entries, here⟩ => other entries here
    simp [none]

theorem directory_of_advance (found : advance tree place (name :: rest) = .ok arrival) :
    tree.DirectoryAt place := by
  rw [advance] at found
  split at found
  · rename_i entries here
    exact ⟨entries, here⟩
  · exact nomatch found

theorem advance_grown (grown : Grows tree tree') (found : advance tree place names = .ok arrival) :
    advance tree' place names = .ok arrival := by
  induction names generalizing place with
  | nil => exact found
  | cons name rest ih =>
      by_cases back : name = ".."
      · subst back
        rw [advance_back_ok] at found ⊢
        exact ⟨grown.directories place found.1, ih found.2⟩
      rw [advance_cons_ok back] at found ⊢
      obtain ⟨directory, short, ⟨target, here, rfl⟩ | ⟨clear, found⟩⟩ := found
      · exact ⟨grown.directories place directory, short,
          .inl ⟨target, (grown.links _ target).1 here, rfl⟩⟩
      · exact ⟨grown.directories place directory, short,
          .inr ⟨fun target here => clear target ((grown.links _ target).2 here), ih found⟩⟩

/-- A way down in the larger tree that ends at something of the smaller one, or at a link, is a way
there too. A step back out of a directory that only the larger tree has would be none. -/
theorem advance_shrunk (grown : Grows tree tree') (down : ".." ∉ names)
    (found : advance tree' place names = .ok arrival)
    (stands : ∀ goal, arrival = .reached goal → ∃ end_, tree.get? goal = some end_) :
    advance tree place names = .ok arrival ∧
      ∃ more end_, tree.get? (place ++ more) = some end_ := by
  induction names generalizing place with
  | nil =>
      obtain ⟨end_, here⟩ := stands place (by simpa [advance] using found.symm)
      exact ⟨found, [], end_, by rwa [List.append_nil]⟩
  | cons name rest ih =>
      obtain ⟨first, down⟩ := not_or.1 (mt List.mem_cons.2 down)
      rw [advance_cons_ok (Ne.symm first)] at found ⊢
      obtain ⟨-, short, ⟨target, here, rfl⟩ | ⟨clear, found⟩⟩ := found
      · have here := (grown.links _ target).2 here
        exact ⟨⟨directory_above here, short, .inl ⟨target, here, rfl⟩⟩, [name], _, here⟩
      · obtain ⟨found, more, end_, here⟩ := ih down found
        rw [List.append_assoc] at here
        exact ⟨⟨directory_above here, short,
          .inr ⟨fun target here => clear target ((grown.links _ target).1 here), found⟩⟩,
          name :: more, end_, here⟩

/-- A way is taken part by part; a link in its first part is met before the rest is. -/
theorem advance_append_ok :
    advance tree place (names ++ more) = .ok arrival ↔
      (∃ goal, advance tree place names = .ok (.reached goal) ∧
          advance tree goal more = .ok arrival) ∨
        ∃ directory target rest, advance tree place names = .ok (.linked directory target rest) ∧
          arrival = .linked directory target (rest ++ more) := by
  induction names generalizing place with
  | nil => simp [advance]
  | cons name rest ih =>
      rw [List.cons_append]
      by_cases back : name = ".."
      · subst back
        simp only [advance_back_ok, ih, and_or_left, exists_and_left, and_assoc]
      simp only [advance_cons_ok back, ih]
      constructor
      · rintro ⟨directory, short,
          ⟨target, here, rfl⟩ | ⟨clear, ⟨goal, first, second⟩ | ⟨_, _, _, first, rfl⟩⟩⟩
        · exact .inr ⟨place, target, rest, ⟨directory, short, .inl ⟨target, here, rfl⟩⟩, rfl⟩
        · exact .inl ⟨goal, ⟨directory, short, .inr ⟨clear, first⟩⟩, second⟩
        · exact .inr ⟨_, _, _, ⟨directory, short, .inr ⟨clear, first⟩⟩, rfl⟩
      · rintro (⟨goal, ⟨directory, short, ⟨_, _, same⟩ | ⟨clear, first⟩⟩, second⟩ |
          ⟨_, _, _, ⟨directory, short, ⟨target, here, same⟩ | ⟨clear, first⟩⟩, rfl⟩)
        · exact nomatch same
        · exact ⟨directory, short, .inr ⟨clear, .inl ⟨goal, first, second⟩⟩⟩
        · obtain ⟨rfl, rfl, rfl⟩ := Arrival.linked.inj same
          exact ⟨directory, short, .inl ⟨_, here, rfl⟩⟩
        · exact ⟨directory, short, .inr ⟨clear, .inr ⟨_, _, _, first, rfl⟩⟩⟩

theorem advance_reached (down : ".." ∉ names)
    (found : advance tree place names = .ok (.reached goal)) :
    goal = place ++ names := by
  induction names generalizing place with
  | nil => simpa [advance] using found.symm
  | cons name rest ih =>
      obtain ⟨first, down⟩ := not_or.1 (mt List.mem_cons.2 down)
      obtain ⟨-, -, ⟨_, _, same⟩ | ⟨-, found⟩⟩ := (advance_cons_ok (Ne.symm first)).1 found
      · exact nomatch same
      · rw [ih down found, List.append_assoc, List.singleton_append]

def isLink : FileTree → Bool
  | link _ => true
  | _ => false

/-- No link lies below a place on the way by some names. -/
def ClearBelow (tree : FileTree) (place names : List String) : Prop :=
  ∀ way, way <+: names → way ≠ [] → ∀ target, tree.get? (place ++ way) ≠ some (link target)

instance : Decidable (tree.ClearBelow place names) :=
  decidable_of_iff (∀ way ∈ names.inits, way ≠ [] →
    (tree.get? (place ++ way)).all (!·.isLink) = true)
    (forall_congr' fun way => by
      rw [List.mem_inits]
      refine imp_congr_right fun _ => imp_congr_right fun _ => ?_
      cases tree.get? (place ++ way) with
      | none => simp
      | some found => cases found <;> simp [isLink])

theorem ClearBelow.shorter (clear : tree.ClearBelow place more) (above : names <+: more) :
    tree.ClearBelow place names :=
  fun way short => clear way (short.trans above)

theorem ClearBelow.head (clear : tree.ClearBelow place (name :: rest)) (target : String) :
    tree.get? (place ++ [name]) ≠ some (link target) :=
  clear [name] (by simp) (by simp) target

theorem ClearBelow.tail (clear : tree.ClearBelow place (name :: rest)) :
    tree.ClearBelow (place ++ [name]) rest := by
  intro way above some target
  rw [List.append_assoc]
  exact clear (name :: way) (by simpa using above) (by simp) target

theorem ClearBelow.grown (clear : tree.ClearBelow place names) (grown : Grows tree tree') :
    tree'.ClearBelow place names :=
  fun way above some target linked => clear way above some target ((grown.links _ target).2 linked)

theorem ClearBelow.not_linked {directory : List String} (clear : tree.ClearBelow place names)
    (down : ".." ∉ names) : advance tree place names ≠ .ok (.linked directory target rest) := by
  intro found
  induction names generalizing place with
  | nil => simp [advance] at found
  | cons name names ih =>
      obtain ⟨first, down⟩ := not_or.1 (mt List.mem_cons.2 down)
      obtain ⟨-, -, ⟨target, here, -⟩ | ⟨-, found⟩⟩ := (advance_cons_ok (Ne.symm first)).1 found
      · exact clear.head target here
      · exact ih clear.tail down found

theorem resolve_succ_ok :
    resolve tree (links + 1) names = .ok goal ↔
      advance tree [] names = .ok (.reached goal) ∨
        ∃ directory target rest, advance tree [] names = .ok (.linked directory target rest) ∧
          resolve tree links
            (Path.names (Path.join ("/" ++ "/".intercalate directory) target) ++ rest) =
              .ok goal := by
  rw [resolve]
  cases advance tree [] names with
  | error fault => simp [bind, Except.bind]
  | ok arrival =>
      cases arrival with
      | reached place => simp [bind, Except.bind]
      | linked directory target rest =>
          simp only [bind, Except.bind, Except.ok.injEq, reduceCtorEq,
            Arrival.linked.injEq, false_or]
          exact ⟨fun found => ⟨_, _, _, ⟨rfl, rfl, rfl⟩, found⟩,
            fun ⟨_, _, _, ⟨rfl, rfl, rfl⟩, found⟩ => found⟩

theorem resolve_grown (grown : Grows tree tree') (found : resolve tree links names = .ok goal) :
    resolve tree' links names = .ok goal := by
  induction links generalizing names with
  | zero => exact nomatch found
  | succ links ih =>
      rw [resolve_succ_ok] at found ⊢
      obtain found | ⟨_, _, _, found, further⟩ := found
      · exact .inl (advance_grown grown found)
      · exact .inr ⟨_, _, _, advance_grown grown found, ih further⟩

theorem resolve_append (found : resolve tree links names = .ok place)
    (further : advance tree place more = .ok (.reached goal)) :
    resolve tree links (names ++ more) = .ok goal := by
  induction links generalizing names with
  | zero => exact nomatch found
  | succ links ih =>
      rw [resolve_succ_ok] at found ⊢
      obtain found | ⟨_, _, _, found, behind⟩ := found
      · exact .inl (advance_append_ok.2 (.inl ⟨_, found, further⟩))
      · refine .inr ⟨_, _, _, advance_append_ok.2 (.inr ⟨_, _, _, found, rfl⟩), ?_⟩
        rw [← List.append_assoc]
        exact ih behind

theorem resolve_below
    (clear : ∀ place, resolve tree links names = .ok place → tree.ClearBelow place more)
    (down : ".." ∉ more) (found : resolve tree links (names ++ more) = .ok goal) :
    ∃ place, resolve tree links names = .ok place ∧
    advance tree place more = .ok (.reached goal) := by
  induction links generalizing names with
  | zero => exact nomatch found
  | succ links ih =>
      simp only [resolve_succ_ok] at clear found ⊢
      obtain found | ⟨_, _, _, found, behind⟩ := found
      · obtain ⟨place, first, second⟩ | ⟨_, _, _, _, same⟩ := advance_append_ok.1 found
        · exact ⟨place, .inl first, second⟩
        · exact nomatch same
      · obtain ⟨place, first, second⟩ | ⟨_, _, _, first, same⟩ := advance_append_ok.1 found
        · exact absurd second ((clear place (.inl first)).not_linked down)
        · obtain ⟨rfl, rfl, rfl⟩ := Arrival.linked.inj same
          rw [← List.append_assoc] at behind
          obtain ⟨place, before, after⟩ := ih
            (fun place found => clear place (.inr ⟨_, _, _, first, found⟩)) behind
          exact ⟨place, .inr ⟨_, _, _, first, before⟩, after⟩

/-- A way ends above a directory, or in it at its last name, unless that is the name of a link. -/
theorem resolve_concat (found : resolve tree links (names ++ [name]) = .ok goal) :
    ∃ place, resolve tree links names = .ok place ∧ tree.DirectoryAt place ∧
      (name = ".." ∧ goal = place.dropLast ∨
        name ≠ ".." ∧ name.utf8ByteSize ≤ greatestName ∧
          ((∃ target, tree.get? (place ++ [name]) = some (link target)) ∨
            goal = place ++ [name])) := by
  induction links generalizing names with
  | zero => exact nomatch found
  | succ links ih =>
      simp only [resolve_succ_ok] at found ⊢
      obtain found | ⟨_, _, _, found, behind⟩ := found
      · obtain ⟨place, first, last⟩ | ⟨_, _, _, _, same⟩ := advance_append_ok.1 found
        · by_cases back : name = ".."
          · subst back
            obtain ⟨directory, ends⟩ := advance_back_ok.1 last
            exact ⟨place, .inl first, directory,
              .inl ⟨rfl, (advance_reached List.not_mem_nil ends).trans (List.append_nil _)⟩⟩
          · obtain ⟨directory, short, ⟨_, _, same⟩ | ⟨-, ends⟩⟩ := (advance_cons_ok back).1 last
            · exact nomatch same
            · exact ⟨place, .inl first, directory, .inr ⟨back, short,
                .inr ((advance_reached List.not_mem_nil ends).trans (List.append_nil _))⟩⟩
        · exact nomatch same
      · obtain ⟨place, first, last⟩ | ⟨_, _, _, first, same⟩ := advance_append_ok.1 found
        · by_cases back : name = ".."
          · subst back
            exact nomatch (advance_back_ok.1 last).2
          · obtain ⟨directory, short, ⟨target, here, -⟩ | ⟨-, ends⟩⟩ :=
              (advance_cons_ok back).1 last
            · exact ⟨place, .inl first, directory, .inr ⟨back, short, .inl ⟨target, here⟩⟩⟩
            · exact nomatch ends
        · obtain ⟨rfl, rfl, rfl⟩ := Arrival.linked.inj same
          rw [← List.append_assoc] at behind
          obtain ⟨place, before, facts⟩ := ih behind
          exact ⟨place, .inr ⟨_, _, _, first, before⟩, facts⟩

end Ways

section Access

variable {path text : String} {goal : List String}

theorem find_short_path (short : path.utf8ByteSize ≤ greatestPath) :
    tree.find path = tree.locate path >>= fun place =>
      (tree.get? place).elim (.error .notFound) .ok := by
  rw [find, checkPath, if_neg (Nat.not_lt.2 short)]
  refine congrArg (tree.locate path >>= ·) (funext fun place => ?_)
  cases tree.get? place <;> rfl

theorem find_long_path (long : greatestPath < path.utf8ByteSize) :
    tree.find path = .error .nameTooLong := by
  rw [find, checkPath, if_pos long]
  rfl

theorem find_ok_iff : tree.find path = .ok found ↔ path.utf8ByteSize ≤ greatestPath ∧
    ∃ place, tree.locate path = .ok place ∧ tree.get? place = some found := by
  rcases Nat.lt_or_ge greatestPath path.utf8ByteSize with long | short
  · rw [find_long_path long]
    exact iff_of_false nofun fun ⟨short, _⟩ => Nat.not_lt.2 short long
  · rw [find_short_path short]
    cases tree.locate path with
    | error fault => simp [bind, Except.bind]
    | ok place => cases here : tree.get? place <;> simp [bind, Except.bind, short, here]

theorem read_text_ok :
    tree.readText path = .ok text ↔ path.utf8ByteSize ≤ greatestPath ∧
      ∃ place content, tree.locate path = .ok place ∧ tree.get? place = some (file content) ∧
        String.fromUTF8? content = some text := by
  have read : tree.readText path = .ok text ↔
      ∃ content, tree.find path = .ok (file content) ∧ String.fromUTF8? content = some text := by
    rw [readText, readBytes]
    cases tree.find path with
    | error fault => simp [bind, Except.bind]
    | ok found =>
        cases found with
        | file content =>
            cases decoded : String.fromUTF8? content <;> simp [bind, Except.bind, decoded]
        | link target => simp [bind, Except.bind]
        | directory entries => simp [bind, Except.bind]
  rw [read]
  simp only [find_ok_iff]
  constructor
  · rintro ⟨content, ⟨short, place, found, here⟩, decoded⟩
    exact ⟨short, place, content, found, here, decoded⟩
  · rintro ⟨short, place, content, found, here, decoded⟩
    exact ⟨content, ⟨short, place, found, here⟩, decoded⟩

/-- Making directories opens no way by a path to anything that is there already. Only a directory
that is missing, and that the path steps back from, could open one. -/
def Steady (tree : FileTree) (path : String) : Prop :=
  ∀ tree' place found, Grows tree tree' → tree'.locate path = .ok place →
    tree.get? place = some found → tree.locate path = .ok place

theorem steady_of_located {place : List String} (located : tree.locate path = .ok place) :
    tree.Steady path := by
  intro tree' place' found grown located' _
  obtain rfl := Except.ok.inj ((resolve_grown grown located).symm.trans located')
  exact located

/-- A path that only leads down, past no link, is steady. -/
theorem steady_of_down (down : ".." ∉ Path.names path)
    (clear : tree.ClearBelow [] (Path.names path)) :
    tree.Steady path := by
  intro tree' place found grown located here
  obtain reached | ⟨_, _, _, linked, -⟩ := resolve_succ_ok.1 located
  · refine resolve_succ_ok.2 (.inl (advance_shrunk grown down reached fun goal same => ?_).1)
    obtain rfl := Arrival.reached.inj same
    exact ⟨found, here⟩
  · exact absurd linked ((clear.grown grown).not_linked down)

theorem locate_name_ok (down : name ≠ "..") :
    tree.locateName (names ++ [name]) = .ok goal ↔
      ∃ place, tree.resolve (greatestLinks + 1) names = .ok place ∧ tree.DirectoryAt place ∧
        name.utf8ByteSize ≤ greatestName ∧ goal = place ++ [name] := by
  simp only [locateName, List.getLast?_concat, List.dropLast_concat, if_neg down]
  cases tree.resolve (greatestLinks + 1) names with
  | error fault => simp [bind, Except.bind]
  | ok place =>
      simp only [bind, Except.bind, Except.ok.injEq, exists_eq_left', DirectoryAt]
      cases tree.get? place with
      | none => simp
      | some found =>
          cases found with
          | file content => simp
          | link target => simp
          | directory entries =>
              by_cases short : greatestName < name.utf8ByteSize
              · simp [short, Nat.not_le.2 short]
              · simp [short, Nat.not_lt.1 short, eq_comm]

/-- A tree with more directories, and otherwise the same links and files. -/
structure Extends (tree tree' : FileTree) : Prop extends Grows tree tree' where
  files : ∀ place content,
    tree.get? place = some (file content) ↔ tree'.get? place = some (file content)

theorem Extends.refl (tree : FileTree) : Extends tree tree :=
  ⟨.refl tree, fun _ _ => Iff.rfl⟩

theorem Extends.trans {between : FileTree} (first : Extends tree between)
    (second : Extends between tree') : Extends tree tree' :=
  ⟨first.toGrows.trans second.toGrows,
    fun place content => (first.files place content).trans (second.files place content)⟩

theorem resolve_child {place : List String} (down : name ≠ "..")
    (found : tree.resolve (greatestLinks + 1) names = .ok place)
    (directory : tree.DirectoryAt place)
    (short : name.utf8ByteSize ≤ greatestName)
    (noLink : ∀ target, tree.get? (place ++ [name]) ≠ some (link target)) :
    tree.resolve (greatestLinks + 1) (names ++ [name]) = .ok (place ++ [name]) :=
  resolve_append found ((advance_cons_ok down).2 ⟨directory, short, .inr ⟨noLink, rfl⟩⟩)

/-- What was put below a resolved place is found there by its name. -/
theorem Fits.resolve_set (fits : Fits tree place name value) (down : name ≠ "..")
    (found : tree.resolve (greatestLinks + 1) names = .ok place)
    (short : name.utf8ByteSize ≤ greatestName) :
    (tree.set value (place ++ [name])).resolve (greatestLinks + 1) (names ++ [name]) =
      .ok (place ++ [name]) := by
  refine resolve_child down (resolve_grown fits.grows found)
    (fits.grows.directories _ fits.above) short fun target here => fits.plain target ?_
  exact Option.some.inj ((get?_set _ _ _).symm.trans here)

theorem locate_name_back :
    tree.locateName (names ++ [".."]) = tree.resolve (greatestLinks + 1) (names ++ [".."]) := by
  simp [locateName]

/-- Nothing is made where a name steps back, for what lies above a directory is there. -/
theorem make_all_back (made : makeAll tree names (".." :: rest) = .ok tree') :
    makeAll tree (names ++ [".."]) rest = .ok tree' ∧
      ∃ goal, tree.resolve (greatestLinks + 1) (names ++ [".."]) = .ok goal ∧
      tree.DirectoryAt goal := by
  rw [makeAll, locate_name_back] at made
  cases located : tree.resolve (greatestLinks + 1) (names ++ [".."]) with
  | error fault => simp [located, bind, Except.bind] at made
  | ok goal =>
      obtain ⟨place, -, directory, ⟨-, rfl⟩ | ⟨down, -⟩⟩ := resolve_concat located
      · obtain ⟨entries, here⟩ := directory.dropLast
        simp only [located, bind, Except.bind, here] at made
        exact ⟨made, _, rfl, entries, here⟩
      · exact absurd rfl down

theorem make_all_cons (made : makeAll tree names (name :: rest) = .ok tree') :
    ∃ between, makeAll between (names ++ [name]) rest = .ok tree' ∧ Extends tree between ∧
      ∃ goal, between.resolve (greatestLinks + 1) (names ++ [name]) = .ok goal ∧
        between.DirectoryAt goal := by
  by_cases back : name = ".."
  · subst back
    obtain ⟨made, above⟩ := make_all_back made
    exact ⟨tree, made, .refl tree, above⟩
  rw [makeAll] at made
  cases located : tree.locateName (names ++ [name]) with
  | error fault => simp [located, bind, Except.bind] at made
  | ok goal =>
      simp only [located, bind, Except.bind] at made
      obtain ⟨place, found, directory, short, rfl⟩ := (locate_name_ok back).1 located
      split at made
      · rename_i missing
        have fits : Fits tree place name empty := .of_missing directory missing
        have here := get?_set tree empty (place ++ [name])
        refine ⟨_, made, ⟨fits.grows, fun other content => ?_⟩, place ++ [name],
          fits.resolve_set back found short, _, here⟩
        by_cases same : other = place ++ [name]
        · rw [same, missing, here]
          exact ⟨nofun, nofun⟩
        · exact fits.file_iff same
      · rename_i entries here
        exact ⟨tree, made, .refl tree, _,
          resolve_child back found directory short (by simp [here]), _, here⟩
      · exact nomatch made
      · cases behind : tree.resolve (greatestLinks + 1) (names ++ [name]) with
        | error fault => simp [behind] at made
        | ok goal =>
            simp only [behind] at made
            split at made
            · exact nomatch made
            · rename_i entries here
              exact ⟨tree, made, .refl tree, goal, behind, entries, here⟩
            · exact nomatch made

theorem make_all_ok (made : makeAll tree names rest = .ok tree') (some : rest ≠ []) :
    Extends tree tree' ∧
      ∃ goal, tree'.resolve (greatestLinks + 1) (names ++ rest) = .ok goal ∧
      tree'.DirectoryAt goal := by
  induction rest generalizing tree names with
  | nil => exact absurd rfl some
  | cons name rest ih =>
      obtain ⟨between, made, extends_, goal, found⟩ := make_all_cons made
      cases rest with
      | nil =>
          obtain rfl := Except.ok.inj made
          exact ⟨extends_, goal, found⟩
      | cons next rest =>
          obtain ⟨further, goal, found⟩ := ih made (by simp)
          rw [List.append_assoc] at found
          exact ⟨extends_.trans further, goal, found⟩

theorem check_path_ok : checkPath path = .ok () ↔ path.utf8ByteSize ≤ greatestPath := by
  rw [checkPath]
  split
  · rename_i long
    exact iff_of_false nofun (Nat.not_le.2 long)
  · rename_i short
    exact iff_of_true rfl (Nat.not_lt.1 short)

theorem make_directories_ok : tree.makeDirectories path = .ok tree' ↔
    path.utf8ByteSize ≤ greatestPath ∧ makeAll tree [] (Path.names path) = .ok tree' := by
  rw [makeDirectories, ← check_path_ok]
  cases checked : checkPath path <;> simp [bind, Except.bind]

theorem replace_ok (down : name ≠ "..") (ends : Path.names path = names ++ [name])
    (put : tree.replace path value = .ok tree') :
    ∃ place, tree.resolve (greatestLinks + 1) names = .ok place ∧ tree.DirectoryAt place ∧
      name.utf8ByteSize ≤ greatestName ∧ ¬ tree.DirectoryAt (place ++ [name]) ∧
        tree' = tree.set value (place ++ [name]) := by
  rw [replace, ends] at put
  cases checked : checkPath path with
  | error fault => simp [checked, bind, Except.bind] at put
  | ok _ =>
      cases located : tree.locateName (names ++ [name]) with
      | error fault => simp [checked, located, bind, Except.bind] at put
      | ok goal =>
          obtain ⟨place, found, directory, short, rfl⟩ := (locate_name_ok down).1 located
          simp only [checked, located, bind, Except.bind] at put
          split at put
          · exact nomatch put
          · rename_i other
            exact ⟨place, found, directory, short, fun ⟨entries, here⟩ => other entries here,
              (Except.ok.inj put).symm⟩

end Access

end Resemblance.FileTree
