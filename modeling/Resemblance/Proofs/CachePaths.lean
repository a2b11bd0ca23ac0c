import Resemblance.Cache.Directory
import Resemblance.Proofs.NumberText

/-!
Where the cache keeps its documents: the names of a key lead from the cache's directory to the
document without a step back, and two keys of one version share a document only if all their safe
names and both iterations are the same.
-/

namespace Resemblance

namespace Path

variable {name path : String} {parts : List String}

/-- A name that stands for itself in a path. -/
structure Plain (name : String) : Prop where
  undivided : '/' ∉ name.toList
  filled : name ≠ ""
  notDot : name ≠ "."
  notDots : name ≠ ".."

theorem pieces_ne_nil (cs : List Char) : pieces cs ≠ [] := by
  induction cs with
  | nil => simp [pieces]
  | cons c rest ih =>
      rw [pieces]
      split
      · contradiction
      · split <;> simp

theorem pieces_undivided {cs : List Char} (undivided : '/' ∉ cs) : pieces cs = [cs] := by
  induction cs with
  | nil => rfl
  | cons c rest ih =>
      obtain ⟨other, undivided⟩ := not_or.1 (mt List.mem_cons.2 undivided)
      simp [pieces, ih undivided, Ne.symm other]

theorem pieces_cons {cs piece : List Char} {more : List (List Char)} (c : Char)
    (parts : pieces cs = piece :: more) :
    pieces (c :: cs) = if c = '/' then [] :: piece :: more else (c :: piece) :: more := by
  rw [pieces, parts]

theorem pieces_append (before after : List Char) :
    pieces (before ++ '/' :: after) = pieces before ++ pieces after := by
  induction before with
  | nil =>
      obtain ⟨piece, more, parts⟩ := List.exists_cons_of_ne_nil (pieces_ne_nil after)
      rw [List.nil_append, pieces_cons '/' parts, parts]
      rfl
  | cons c before ih =>
      obtain ⟨piece, more, parts⟩ := List.exists_cons_of_ne_nil (pieces_ne_nil before)
      rw [parts] at ih
      rw [List.cons_append, pieces_cons c ih, pieces_cons c parts]
      split <;> rfl

theorem names_append (before after : String) :
    names (before ++ "/" ++ after) = names before ++ names after := by
  have text : (before ++ "/" ++ after).toList = before.toList ++ '/' :: after.toList := by simp
  simp only [names, text, pieces_append, List.filter_append, List.map_append]

theorem names_join (base : String) (relative : isAbsolute path = false) :
    names (join base path) = names base ++ names path := by
  rw [join, relative, if_neg Bool.false_ne_true]
  split
  · rename_i ends
    rcases Bool.or_eq_true_iff.1 ends with empty | slash
    · obtain rfl := String.isEmpty_iff.1 empty
      rw [String.empty_append]
      rfl
    · obtain ⟨before, text⟩ := List.getLast?_eq_some_iff.1 (eq_of_beq slash)
      have divided : base = String.ofList before ++ "/" ++ "" := by
        apply String.toList_inj.1
        simp [text]
      have joined : base ++ path = String.ofList before ++ "/" ++ path := by
        rw [divided, String.append_empty]
      rw [joined, names_append, divided, names_append]
      simp [show names "" = [] from rfl]
  · exact names_append base path

theorem Plain.names (plain : Plain name) : names name = [name] := by
  have filled : name.toList.isEmpty = false := by simpa using plain.filled
  have notDot : name.toList ≠ ['.'] := fun same => plain.notDot (String.toList_inj.1 same)
  simp [Path.names, pieces_undivided plain.undivided, filled, notDot]

theorem intercalate_cons (name : String) (some : parts ≠ []) :
    "/".intercalate (name :: parts) = name ++ "/" ++ "/".intercalate parts := by
  obtain ⟨next, rest, rfl⟩ := List.exists_cons_of_ne_nil some
  apply String.toList_inj.1
  simp [String.toList_intercalate]

theorem intercalate_concat (some : parts ≠ []) (name : String) :
    "/".intercalate (parts ++ [name]) = "/".intercalate parts ++ "/" ++ name := by
  induction parts with
  | nil => contradiction
  | cons first parts ih =>
      by_cases single : parts = []
      · subst single
        exact intercalate_cons first (by simp)
      · rw [List.cons_append, intercalate_cons first (by simp), ih single,
          intercalate_cons first single]
        simp only [String.append_assoc]

theorem names_intercalate (plain : ∀ name ∈ parts, Plain name) :
    names ("/".intercalate parts) = parts := by
  induction parts with
  | nil => rfl
  | cons name parts ih =>
      have first := plain name List.mem_cons_self
      by_cases single : parts = []
      · subst single
        exact first.names
      · rw [intercalate_cons name single, names_append, first.names,
          ih fun name member => plain name (.tail _ member), List.singleton_append]

theorem Plain.head {c : Char} (plain : Plain name)
    (first : name.toList.head? = some c) : c ≠ '/' := by
  rintro rfl
  exact plain.undivided (List.mem_of_head? first)

theorem relative_intercalate (plain : ∀ name ∈ parts, Plain name) :
    isAbsolute ("/".intercalate parts) = false := by
  cases parts with
  | nil => rfl
  | cons name parts =>
      have first := plain name List.mem_cons_self
      obtain ⟨c, rest, text⟩ :=
        List.exists_cons_of_ne_nil (mt String.toList_eq_nil_iff.1 first.filled)
      have other : c ≠ '/' := first.head (by rw [text]; rfl)
      have start : ("/".intercalate (name :: parts)).toList.head? = some c := by
        by_cases single : parts = []
        · subst single
          exact congrArg List.head? text
        · simp [intercalate_cons name single, text]
      rw [isAbsolute, start]
      simpa using other

theorem Plain.relative (plain : Plain name) : isAbsolute name = false := by
  have alone := relative_intercalate (List.forall_mem_singleton.2 plain)
  rwa [String.intercalate_singleton] at alone

/-- The names of a path below another come behind those of the other. -/
theorem names_below_path (base : String) (plain : ∀ name ∈ parts, Plain name) :
    names (join base ("/".intercalate parts)) = names base ++ parts := by
  rw [names_join base (relative_intercalate plain), names_intercalate plain]

theorem not_back (plain : ∀ name ∈ parts, Plain name) : ".." ∉ parts :=
  fun member => (plain ".." member).notDots rfl

theorem parent_append {base : String} {c : Char} (ends : base.toList.getLast? = some c)
    (other : c ≠ '/')
    (plain : Plain name) : parent (base ++ "/" ++ name) = base := by
  obtain ⟨before, text⟩ := List.getLast?_eq_some_iff.1 ends
  have reversed : (base ++ "/" ++ name).toList.reverse =
      name.toList.reverse ++ '/' :: c :: before.reverse := by simp [text]
  have undivided : ∀ d ∈ name.toList.reverse, (d != '/') = true := fun d member =>
    bne_iff_ne.2 fun same => plain.undivided (same ▸ List.mem_reverse.1 member)
  obtain ⟨last, front, start⟩ := List.exists_cons_of_ne_nil
    (mt List.reverse_eq_nil_iff.1 (mt String.toList_eq_nil_iff.1 plain.filled))
  have notSlash : (last == '/') = false := by
    simpa using undivided last (start ▸ List.mem_cons_self)
  have kept : (name.toList.reverse ++ '/' :: c :: before.reverse).dropWhile (· == '/') =
      name.toList.reverse ++ '/' :: c :: before.reverse := by
    rw [start, List.cons_append, List.dropWhile_cons_of_neg (by simp [notSlash])]
  have cut : (name.toList.reverse ++ '/' :: c :: before.reverse).dropWhile (· != '/') =
      '/' :: c :: before.reverse := by
    rw [List.dropWhile_append_of_pos undivided, List.dropWhile_cons_of_neg (by simp)]
  have left : ('/' :: c :: before.reverse).dropWhile (· == '/') = c :: before.reverse := by
    rw [List.dropWhile_cons_of_pos (by simp), List.dropWhile_cons_of_neg (by simpa using other)]
  rw [parent, reversed]
  simp only [kept, cut, left]
  apply String.toList_inj.1
  simp [text]

theorem join_concat (base : String) (plain : ∀ name ∈ parts, Plain name) (some : parts ≠ [])
    (last : Plain name) :
    join base ("/".intercalate (parts ++ [name])) =
      join base ("/".intercalate parts) ++ "/" ++ name := by
  have all : ∀ other ∈ parts ++ [name], Plain other := by
    intro other member
    rcases List.mem_append.1 member with member | member
    · exact plain other member
    · exact List.mem_singleton.1 member ▸ last
  rw [join, join, relative_intercalate plain, relative_intercalate all, intercalate_concat some]
  simp only [Bool.false_eq_true, if_false]
  split <;> simp only [String.append_assoc]

theorem join_last (base : String) (plain : ∀ name ∈ parts, Plain name) (some : parts ≠ []) :
    ∃ c, (join base ("/".intercalate parts)).toList.getLast? = .some c ∧ c ≠ '/' := by
  obtain ⟨c, ends, other⟩ : ∃ c, ("/".intercalate parts).toList.getLast? = .some c ∧ c ≠ '/' := by
    obtain ⟨front, name, rfl⟩ := (List.eq_nil_or_concat' parts).resolve_left some
    have last := plain name (by simp)
    obtain ⟨before, c, text⟩ :=
      (List.eq_nil_or_concat' name.toList).resolve_left (mt String.toList_eq_nil_iff.1 last.filled)
    refine ⟨c, ?_, fun same => last.undivided (by simp [text, same])⟩
    by_cases single : front = []
    · subst single
      exact (congrArg List.getLast? text).trans List.getLast?_concat
    · rw [intercalate_concat single, String.toList_append, text, ← List.append_assoc,
        List.getLast?_concat]
  refine ⟨c, ?_, other⟩
  have filled : ("/".intercalate parts).toList ≠ [] := fun none => by simp [none] at ends
  rw [join, relative_intercalate plain, if_neg Bool.false_ne_true]
  split
  · rw [String.toList_append, List.getLast?_append_of_ne_nil _ filled, ends]
  · rw [String.toList_append, List.getLast?_append_of_ne_nil _ filled, ends]

theorem join_below {base : String} {c : Char} (ends : base.toList.getLast? = some c)
    (other : c ≠ '/')
    (plain : Plain name) : join base name = base ++ "/" ++ name := by
  have filled : base.isEmpty = false := by
    rw [Bool.eq_false_iff, Ne, String.isEmpty_iff]
    rintro rfl
    exact nomatch ends
  have undivided : (base.toList.getLast? == some '/') = false := by
    rw [ends]
    simpa using other
  rw [join, plain.relative, filled, undivided]
  rfl

theorem size_join_le (base : String) (plain : Plain name) :
    base.utf8ByteSize ≤ (join base name).utf8ByteSize := by
  rw [join, plain.relative, if_neg Bool.false_ne_true]
  split
  · rw [String.utf8ByteSize_append]
    omega
  · rw [String.utf8ByteSize_append, String.utf8ByteSize_append]
    omega

theorem parent_join (base : String) (plain : ∀ name ∈ parts, Plain name) (some : parts ≠ [])
    (last : Plain name) :
    parent (join base ("/".intercalate (parts ++ [name]))) = join base ("/".intercalate parts) := by
  obtain ⟨c, ends, other⟩ := join_last base plain some
  rw [join_concat base plain some last, parent_append ends other last]

theorem size_parent_le (base : String) (plain : ∀ name ∈ parts, Plain name) (some : parts ≠ [])
    (last : Plain name) :
    (parent (join base ("/".intercalate (parts ++ [name])))).utf8ByteSize ≤
      (join base ("/".intercalate (parts ++ [name]))).utf8ByteSize := by
  rw [parent_join base plain some last, join_concat base plain some last,
    String.utf8ByteSize_append, String.utf8ByteSize_append]
  omega

theorem Plain.of_list {cs : List Char} (undivided : '/' ∉ cs) (filled : cs ≠ [])
    (notDot : cs ≠ ['.'])
    (notDots : cs ≠ ['.', '.']) : Plain (String.ofList cs) where
  undivided := by rwa [String.toList_ofList]
  filled same := filled (String.ofList_injective same)
  notDot same := notDot (String.ofList_injective same)
  notDots same := notDots (String.ofList_injective same)

end Path

theorem safe_name_plain (text : String) : Path.Plain (safeName text) := by
  have undivided : '/' ∉ text.toList.map fun c => if endsName c then '_' else c := by
    intro member
    obtain ⟨c, -, same⟩ := List.mem_map.1 member
    split at same
    · exact nomatch same
    · rename_i ends
      exact ends (same ▸ rfl)
  rw [safeName]
  generalize text.toList.map (fun c => if endsName c then '_' else c) = cleaned at undivided
  split
  · exact .of_list (by simpa using undivided) (by simp) (by simp) (by simp)
  · rename_i apart
    simp only [Bool.or_eq_true, List.isEmpty_iff, beq_iff_eq, not_or] at apart
    exact .of_list undivided apart.1.1 apart.1.2 apart.2

/-- Numbers that are followed by something else than a digit are told apart by their texts. -/
theorem digits_append_inj {n m : Nat} {rest rest' : List Char} (ends : EndsDigits rest)
    (ends' : EndsDigits rest')
    (same : Decimal.digitChars n ++ rest = Decimal.digitChars m ++ rest') :
    n = m ∧ rest = rest' := by
  have digits := takeWhile_digits (fun _ => @isDigit_of_mem_digitChars n _) ends
  rw [same, takeWhile_digits (fun _ => @isDigit_of_mem_digitChars m _) ends'] at digits
  have number := congrArg Json.natOfDigits digits
  rw [Json.natOfDigits_digitChars, Json.natOfDigits_digitChars] at number
  exact ⟨number.symm, List.append_cancel_left (digits ▸ same)⟩

namespace CacheKey

variable {key other : CacheKey}

theorem file_name_text (key : CacheKey) :
    key.fileName.toList =
      "iter_".toList ++ (Decimal.digitChars key.reference.iteration ++
        ("__iter_".toList ++ (Decimal.digitChars key.candidate.iteration ++ ".json".toList))) := by
  simp [fileName, toString, Decimal.digitChars]

theorem file_name_plain (key : CacheKey) : Path.Plain key.fileName := by
  have digit (n : Nat) : '/' ∉ Decimal.digitChars n := fun member =>
    nomatch isDigit_of_mem_digitChars member
  rw [← String.ofList_toList (s := key.fileName), file_name_text]
  exact .of_list (by simp [digit]) (by simp) (by simp) (by simp)

theorem file_name_inj (same : key.fileName = other.fileName) :
    key.reference.iteration = other.reference.iteration ∧
      key.candidate.iteration = other.candidate.iteration := by
  have same := congrArg String.toList same
  rw [file_name_text, file_name_text] at same
  have same := List.append_cancel_left same
  obtain ⟨reference, same⟩ := digits_append_inj (by simp [EndsDigits]) (by simp [EndsDigits]) same
  have same := List.append_cancel_left same
  exact ⟨reference, (digits_append_inj (by simp [EndsDigits]) (by simp [EndsDigits]) same).1⟩

def directoryNames (key : CacheKey) : List String :=
  [safeName key.version, safeName key.reference.challenge, safeName key.reference.prompt,
   safeName key.reference.temperature, safeName key.reference.model]

theorem names_eq (key : CacheKey) : key.names = key.directoryNames ++ [key.fileName] := rfl

theorem directory_names_plain (key : CacheKey) : ∀ name ∈ key.directoryNames, Path.Plain name := by
  simp only [directoryNames, List.forall_mem_cons, safe_name_plain, true_and]
  exact fun _ => nofun

theorem names_plain (key : CacheKey) : ∀ name ∈ key.names, Path.Plain name := by
  rw [names_eq, List.forall_mem_append]
  exact ⟨key.directory_names_plain, List.forall_mem_singleton.2 key.file_name_plain⟩

end CacheKey

namespace CacheDirectory

theorem names_entry_path (cache : CacheDirectory) (key : CacheKey) :
    Path.names (cache.entryPath key) = Path.names cache.root ++ key.names :=
  Path.names_below_path cache.root key.names_plain

theorem names_entry_parent (cache : CacheDirectory) (key : CacheKey) :
    Path.names (Path.parent (cache.entryPath key)) =
      Path.names cache.root ++ key.directoryNames := by
  have some : key.directoryNames ≠ [] := by simp [CacheKey.directoryNames]
  rw [entryPath, CacheKey.path, CacheKey.names_eq]
  rw [Path.parent_join cache.root key.directory_names_plain some key.file_name_plain,
    Path.names_below_path cache.root key.directory_names_plain]

theorem size_entry_parent_le (cache : CacheDirectory) (key : CacheKey) :
    (Path.parent (cache.entryPath key)).utf8ByteSize ≤ (cache.entryPath key).utf8ByteSize := by
  have some : key.directoryNames ≠ [] := by simp [CacheKey.directoryNames]
  rw [entryPath, CacheKey.path, CacheKey.names_eq]
  exact Path.size_parent_le cache.root key.directory_names_plain some key.file_name_plain

end CacheDirectory
end Resemblance
