import Resemblance.Proofs.SoundTrees

/-!
Which directories are made, and what is found below a place. Making the directories on a way goes
past those that are there and makes those that are missing, one below the other, and no others. On a
way without links below a directory, what is found is what stands there, unless a directory is asked
for a name that is too long.
-/

namespace Resemblance.FileTree

variable {tree tree' value found : FileTree} {place root names more rest : List String}
  {name : String}
variable {links : Nat} {goal : List String}

section Making

theorem Fits.directory_iff (fits : Fits tree place name value) (other : names ≠ place ++ [name]) :
    tree.DirectoryAt names ↔ (tree.set value (place ++ [name])).DirectoryAt names := by
  by_cases above : names <+: place ++ [name]
  · exact iff_of_true (fits.above_set above other).1 (fits.above_set above other).2
  · rw [DirectoryAt, DirectoryAt, fits.set_apart above]

theorem resolve_above (found : resolve tree links (names ++ more) = .ok goal)
    (directory : tree.DirectoryAt goal) :
    ∃ place, resolve tree links names = .ok place ∧ tree.DirectoryAt place := by
  induction more using List.reverseRecOn generalizing goal with
  | nil => exact ⟨goal, by rwa [List.append_nil] at found, directory⟩
  | append_singleton more name ih =>
      rw [← List.append_assoc] at found
      obtain ⟨place, before, directory, -⟩ := resolve_concat found
      exact ih before directory

theorem make_all_there (found : tree.resolve (greatestLinks + 1) (names ++ more) = .ok goal)
    (directory : tree.DirectoryAt goal) :
    makeAll tree names (more ++ rest) = makeAll tree (names ++ more) rest := by
  induction more generalizing names with
  | nil => rw [List.append_nil, List.nil_append]
  | cons name more ih =>
      have whole : names ++ name :: more = names ++ [name] ++ more := by simp
      rw [whole] at found ⊢
      obtain ⟨here, reached, directoryHere⟩ := resolve_above found directory
      obtain ⟨place, before, above, ends⟩ := resolve_concat reached
      obtain ⟨entries, stands⟩ := directoryHere
      rw [List.cons_append, makeAll, ← ih found]
      obtain ⟨rfl, rfl⟩ | ⟨down, short, ends⟩ := ends
      · simp only [locate_name_back, reached, bind, Except.bind, stands]
      have located : tree.locateName (names ++ [name]) = .ok (place ++ [name]) :=
        (locate_name_ok down).2 ⟨place, before, above, short, rfl⟩
      rcases ends with ⟨target, linked⟩ | rfl
      · simp only [located, bind, Except.bind, linked, reached, stands]
      · simp only [located, bind, Except.bind, stands]

/-- What holds of a tree and is kept as a directory is made holds after all are made. -/
theorem make_all_induction {motive : FileTree → Prop}
    (found : tree.resolve (greatestLinks + 1) names = .ok place)
    (clear : tree.ClearBelow place rest)
    (down : ".." ∉ rest) (made : makeAll tree names rest = .ok tree') (start : motive tree)
    (kept : ∀ between way name, way ++ [name] <+: rest → Fits between (place ++ way) name empty →
      motive between → motive (between.set empty (place ++ way ++ [name]))) : motive tree' := by
  induction rest generalizing tree names place with
  | nil => exact Except.ok.inj made ▸ start
  | cons name rest ih =>
      obtain ⟨first, down⟩ := not_or.1 (mt List.mem_cons.2 down)
      have first := Ne.symm first
      rw [makeAll] at made
      cases located : tree.locateName (names ++ [name]) with
      | error fault => simp [located, bind, Except.bind] at made
      | ok goal =>
          obtain ⟨place', found', directory, short, rfl⟩ := (locate_name_ok first).1 located
          obtain rfl := Except.ok.inj (found.symm.trans found')
          have below (between : FileTree) (way : List String) (name' : String)
              (above : way ++ [name'] <+: rest)
              (fits : Fits between (place ++ [name] ++ way) name' empty) (before : motive between) :
              motive (between.set empty (place ++ [name] ++ way ++ [name'])) := by
            have moved : place ++ [name] ++ way = place ++ name :: way := by simp
            rw [moved] at fits ⊢
            exact kept between (name :: way) name' (by simpa using above) fits before
          simp only [located, bind, Except.bind] at made
          split at made
          · rename_i missing
            have fits : Fits tree place name empty := .of_missing directory missing
            have once := kept tree [] name (by simp) (by rwa [List.append_nil]) start
            rw [List.append_nil] at once
            exact ih (fits.resolve_set first found short) (clear.tail.grown fits.grows) down made
              once below
          · exact ih (resolve_child first found directory short clear.head) clear.tail down
              made start below
          · cases made
          · rename_i target linked
            exact absurd linked (clear.head target)

theorem make_all_directories (found : tree.resolve (greatestLinks + 1) names = .ok place)
    (clear : tree.ClearBelow place rest) (down : ".." ∉ rest)
    (made : makeAll tree names rest = .ok tree')
    (directory : tree'.DirectoryAt goal) :
    tree.DirectoryAt goal ∨ ∃ way, way <+: rest ∧ goal = place ++ way := by
  refine make_all_induction (motive := fun between => between.DirectoryAt goal →
    tree.DirectoryAt goal ∨ ∃ way, way <+: rest ∧ goal = place ++ way) found clear
    down made .inl ?_ directory
  intro between way name above fits before after
  by_cases same : goal = place ++ way ++ [name]
  · exact .inr ⟨way ++ [name], above, by rw [same, List.append_assoc]⟩
  · exact before ((fits.directory_iff same).2 after)

end Making

section SoundPlaces

def SoundAt (tree : FileTree) (place : List String) : Prop :=
  ∀ found, tree.get? place = some found → found.Sound

theorem get?_set_below (tree value : FileTree) (place names : List String) :
    (tree.set value (place ++ names)).get? place =
      some (((tree.get? place).getD empty).set value names) := by
  induction place generalizing tree with
  | nil => rw [List.nil_append, get?_nil, get?_nil, Option.getD_some]
  | cons name place ih =>
      rw [List.cons_append, FileTree.set, get?, get?]
      show ((setEntry name _ tree.entries).lookup name).bind _ = _
      rw [lookup_setEntry_self, Option.bind_some, ih]
      cases child : tree.entries.lookup name with
      | some child => rfl
      | none =>
          rw [Option.getD_none, Option.bind_none, Option.getD_none]
          cases place with
          | nil => rfl
          | cons next place => rfl

theorem SoundAt.set (sound : tree.SoundAt root) (valueSound : value.Sound)
    (plain : ∀ name ∈ names, Path.Plain name) : (tree.set value (root ++ names)).SoundAt root := by
  intro after here
  rw [get?_set_below] at here
  obtain rfl := Option.some.inj here
  refine Sound.set ?_ valueSound plain
  cases before : tree.get? root with
  | none => exact sound_empty
  | some found => exact sound found before

theorem make_all_sound (found : tree.resolve (greatestLinks + 1) names = .ok root)
    (clear : tree.ClearBelow root rest) (plain : ∀ name ∈ rest, Path.Plain name)
    (made : makeAll tree names rest = .ok tree') (sound : tree.SoundAt root) :
    tree'.SoundAt root := by
  refine make_all_induction (motive := fun between => between.SoundAt root) found clear
    (Path.not_back plain) made sound fun between way name above _ before => ?_
  rw [List.append_assoc]
  exact before.set sound_empty fun name' member => plain name' (above.subset member)

end SoundPlaces

section Finding

variable {path : String} {fault : FileFault}

theorem advance_append_of_here (found : advance tree place names = .ok (.reached goal))
    (here : tree.get? goal = some value) :
    advance tree place (names ++ more) = advance tree goal more := by
  induction names generalizing place with
  | nil =>
      obtain rfl := Arrival.reached.inj (Except.ok.inj found)
      rw [List.nil_append]
  | cons name rest ih =>
      obtain ⟨entries, stands⟩ := directory_of_advance found
      by_cases back : name = ".."
      · subst back
        rw [List.cons_append, advance, stands]
        exact ih (advance_back_ok.1 found).2
      obtain ⟨-, short, ⟨_, _, same⟩ | ⟨noLink, found⟩⟩ := (advance_cons_ok back).1 found
      · cases same
      · rw [List.cons_append, advance, stands]
        simp only [if_neg back, if_neg (Nat.not_lt.2 short)]
        have child := get?_child stands name
        cases there : entries.lookup name with
        | none =>
            have missing := child.trans there
            cases rest with
            | nil =>
                obtain rfl := Arrival.reached.inj (Except.ok.inj found)
                cases missing.symm.trans here
            | cons next rest =>
                obtain ⟨_, below⟩ := directory_of_advance found
                cases missing.symm.trans below
        | some child' =>
            cases child' with
            | link target => exact absurd (child.trans there) (noLink target)
            | file content => exact ih found
            | directory entries => exact ih found

theorem resolve_append_error (found : resolve tree links names = .ok place)
    (here : tree.get? place = some value) (failed : advance tree place more = .error fault) :
    resolve tree links (names ++ more) = .error fault := by
  induction links generalizing names with
  | zero => exact nomatch found
  | succ links ih =>
      obtain found | ⟨_, _, _, found, behind⟩ := resolve_succ_ok.1 found
      · rw [resolve, advance_append_of_here found here, failed]
        rfl
      · have linked : advance tree [] (names ++ more) = .ok (.linked _ _ (_ ++ more)) :=
          advance_append_ok.2 (.inr ⟨_, _, _, found, rfl⟩)
        rw [resolve, linked]
        simp only [bind, Except.bind]
        rw [← List.append_assoc]
        exact ih behind

/-- On the way no directory is asked for a name that is too long. -/
def ShortBelow (tree : FileTree) (place names : List String) : Prop :=
  ∀ before name rest, names = before ++ name :: rest → tree.DirectoryAt (place ++ before) →
    name.utf8ByteSize ≤ greatestName

/-- What stands on the way, before its end, is a directory. -/
def OpenBelow (tree : FileTree) (place names : List String) : Prop :=
  ∀ before name rest found, names = before ++ name :: rest →
  tree.get? (place ++ before) = some found →
    tree.DirectoryAt (place ++ before)

theorem ShortBelow.tail (short : tree.ShortBelow place (name :: rest)) :
    tree.ShortBelow (place ++ [name]) rest := by
  intro before name' rest' same directory
  rw [List.append_assoc] at directory
  exact short (name :: before) name' rest' (by rw [same, List.cons_append]) directory

theorem OpenBelow.tail (isOpen : tree.OpenBelow place (name :: rest)) :
    tree.OpenBelow (place ++ [name]) rest := by
  intro before name' rest' found same here
  rw [List.append_assoc] at here ⊢
  exact isOpen (name :: before) name' rest' found (by rw [same, List.cons_append]) here

theorem advance_short (directory : tree.DirectoryAt place) (down : ".." ∉ names)
    (clear : tree.ClearBelow place names) (short : tree.ShortBelow place names)
    (isOpen : tree.OpenBelow place names) :
    advance tree place names = .ok (.reached (place ++ names)) ∨
      advance tree place names = .error .notFound ∧ tree.get? (place ++ names) = none := by
  induction names generalizing place with
  | nil => exact .inl (by rw [advance, List.append_nil])
  | cons name rest ih =>
      obtain ⟨first, down⟩ := not_or.1 (mt List.mem_cons.2 down)
      have here : name.utf8ByteSize ≤ greatestName :=
        short [] name rest rfl (by rwa [List.append_nil])
      have moved (way : List String) : place ++ [name] ++ way = place ++ name :: way := by simp
      obtain ⟨entries, stands⟩ := directory
      rw [advance, stands]
      simp only [if_neg (Ne.symm first), if_neg (Nat.not_lt.2 here)]
      have child := get?_child stands name
      split
      · rename_i missing
        have gone : tree.get? (place ++ name :: rest) = none := by
          rw [← moved, get?_append, child, missing, Option.bind_none]
        split
        · rename_i last
          rw [List.isEmpty_iff.1 last]
          exact .inl rfl
        · exact .inr ⟨rfl, gone⟩
      · rename_i target linked
        exact absurd (child.trans linked) (clear.head target)
      · rename_i found other there
        cases rest with
        | nil => exact .inl (by rw [advance])
        | cons next rest =>
            have below := ih (isOpen [name] next rest found rfl (child.trans there)) down clear.tail
              short.tail isOpen.tail
            rwa [moved] at below

theorem not_back_of_long (long : greatestName < name.utf8ByteSize) : name ≠ ".." := by
  rintro rfl
  exact absurd long (by decide)

theorem advance_long (directory : tree.DirectoryAt (place ++ names)) (down : ".." ∉ names)
    (clear : tree.ClearBelow place names) (short : ∀ name ∈ names, name.utf8ByteSize ≤ greatestName)
    (long : greatestName < name.utf8ByteSize) :
    advance tree place (names ++ name :: rest) = .error .nameTooLong := by
  obtain ⟨entries, here⟩ := directory
  have above (way rest : List String) (same : names = way ++ rest) :
      tree.DirectoryAt (place ++ way) := by
    rw [same, ← List.append_assoc] at here
    cases rest with
    | nil => exact ⟨entries, by rwa [List.append_nil] at here⟩
    | cons next rest => exact directory_above here
  have before : advance tree place names = .ok (.reached (place ++ names)) := by
    have top : tree.DirectoryAt place := List.append_nil place ▸ above [] names rfl
    refine (advance_short top down clear ?_ ?_).resolve_right fun ⟨_, missing⟩ =>
      nomatch missing.symm.trans here
    · exact fun way name rest same _ => short name (by simp [same])
    · exact fun way name rest _ same _ => above way (name :: rest) same
  rw [advance_append_of_here before here, advance, here]
  simp only [if_neg (not_back_of_long long), if_pos long]

variable {base : List String}

/-- What is found below a directory on a way without long names is what stands there. -/
theorem find_short (fits : path.utf8ByteSize ≤ greatestPath)
    (ways : Path.names path = base ++ names)
    (found : tree.resolve (greatestLinks + 1) base = .ok place) (directory : tree.DirectoryAt place)
    (down : ".." ∉ names) (clear : tree.ClearBelow place names)
    (short : tree.ShortBelow place names)
    (isOpen : tree.OpenBelow place names) :
    tree.find path = (tree.get? (place ++ names)).elim (.error .notFound) .ok := by
  obtain ⟨entries, here⟩ := directory
  rw [find_short_path fits, locate, ways]
  rcases advance_short ⟨entries, here⟩ down clear short isOpen with reached | ⟨failed, missing⟩
  · rw [resolve_append found reached]
    rfl
  · rw [resolve_append_error found here failed, missing]
    rfl

/-- A directory that is asked for a long name refuses it, and so is a path refused that is long
itself. -/
theorem find_long (ways : Path.names path = base ++ (names ++ name :: rest))
    (found : tree.resolve (greatestLinks + 1) base = .ok place) (top : tree.DirectoryAt place)
    (directory : tree.DirectoryAt (place ++ names)) (down : ".." ∉ names)
    (clear : tree.ClearBelow place names) (short : ∀ name ∈ names, name.utf8ByteSize ≤ greatestName)
    (long : greatestName < name.utf8ByteSize) : tree.find path = .error .nameTooLong := by
  rcases Nat.lt_or_ge greatestPath path.utf8ByteSize with longPath | fits
  · exact find_long_path longPath
  · obtain ⟨entries, here⟩ := top
    rw [find_short_path fits, locate, ways,
      resolve_append_error found here (advance_long directory down clear short long)]
    rfl

theorem read_text_found {content : ByteArray} {text : String}
    (found : tree.find path = .ok (.file content))
    (decoded : String.fromUTF8? content = some text) : tree.readText path = .ok text := by
  simp [readText, readBytes, found, decoded, bind, Except.bind]

theorem read_text_error (failed : tree.find path = .error fault) :
    tree.readText path = .error fault := by
  simp [readText, readBytes, failed, bind, Except.bind]

end Finding

end Resemblance.FileTree
