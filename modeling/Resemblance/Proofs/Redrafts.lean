import Mathlib.Data.List.Pairwise
import Mathlib.Data.List.Perm.Basic
import Resemblance.Json.Shape

/-!
Objects written anew. The members of an object may change their order, go by another of their names,
be left out where null stands for nothing, and stand among others that nobody knows. None of it
changes the values that the slots of a structure are filled with, except where a value of a slot is
itself written anew.
-/

namespace Resemblance.Json

abbrev Members := List (Option String × Json)

/-- Somewhere in a value an object has its members in another order. -/
inductive Shuffled : Json → Json → Prop
  | members {members members' : Members} (same : members.Perm members') :
      Shuffled (.object members) (.object members')
  | member {before after : Members} {name : Option String} {value value' : Json}
      (inside : Shuffled value value') :
      Shuffled (.object (before ++ (name, value) :: after))
        (.object (before ++ (name, value') :: after))
  | item {before after : List Json} {value value' : Json} (inside : Shuffled value value') :
      Shuffled (.array (before ++ value :: after)) (.array (before ++ value' :: after))

/-- A member that a structure knows: its slot, whether null in it stands for nothing, and the ways
its value may be written anew, of which the order of members is always one. -/
structure Field where
  slot : Slot
  optional : Bool
  Rewritten : Json → Json → Prop
  shuffled : ∀ {value value' : Json}, Shuffled value value' → Rewritten value value'
  filled : ∀ {value value' : Json}, Rewritten value value' → value ≠ .null ∧ value' ≠ .null

/-- The ways to write an object with known members anew. What is added under another name must be
fit for it. -/
inductive Redrafted (Fit : Json → Prop) (fields : List Field) : Json → Json → Prop
  | shuffled {json json' : Json} (same : Shuffled json json') : Redrafted Fit fields json json'
  | added {before after : Members} {name : String} {value : Json}
      (unknown : ∀ field ∈ fields, name ∉ field.slot.names) (fit : Fit value) :
      Redrafted Fit fields (.object (before ++ after))
        (.object (before ++ (some name, value) :: after))
  | removed {before after : Members} {name : String} {value : Json}
      (unknown : ∀ field ∈ fields, name ∉ field.slot.names) :
      Redrafted Fit fields (.object (before ++ (some name, value) :: after))
        (.object (before ++ after))
  | dropped {before after : Members} {name : String} {field : Field} (known : field ∈ fields)
      (named : name ∈ field.slot.names) (optional : field.optional = true) :
      Redrafted Fit fields (.object (before ++ (some name, .null) :: after))
        (.object (before ++ after))
  | renamed {before after : Members} {name name' : String} {value : Json} {field : Field}
      (known : field ∈ fields) (named : name ∈ field.slot.names)
      (named' : name' ∈ field.slot.names) :
      Redrafted Fit fields (.object (before ++ (some name, value) :: after))
        (.object (before ++ (some name', value) :: after))
  | member {before after : Members} {name : String} {value value' : Json} {field : Field}
      (known : field ∈ fields) (named : name ∈ field.slot.names)
      (inside : field.Rewritten value value') :
      Redrafted Fit fields (.object (before ++ (some name, value) :: after))
        (.object (before ++ (some name, value') :: after))
  | item {before after : List Json} {value value' : Json} {field : Field}
      (known : fields[before.length]? = some field) (inside : field.Rewritten value value') :
      Redrafted Fit fields (.array (before ++ value :: after)) (.array (before ++ value' :: after))

section Filled

variable {Fit : Json → Prop} {fields : List Field} {json json' : Json}

theorem Shuffled.filled (shuffled : Shuffled json json') : json ≠ .null ∧ json' ≠ .null := by
  cases shuffled with
  | members same => exact ⟨nofun, nofun⟩
  | member inside => exact ⟨nofun, nofun⟩
  | item inside => exact ⟨nofun, nofun⟩

theorem Redrafted.filled (redrafted : Redrafted Fit fields json json') :
    json ≠ .null ∧ json' ≠ .null := by
  cases redrafted with
  | shuffled same => exact same.filled
  | added unknown fit => exact ⟨nofun, nofun⟩
  | removed unknown => exact ⟨nofun, nofun⟩
  | dropped known named optional => exact ⟨nofun, nofun⟩
  | renamed known named named' => exact ⟨nofun, nofun⟩
  | member known named inside => exact ⟨nofun, nofun⟩
  | item known inside => exact ⟨nofun, nofun⟩

end Filled

theorem Redrafted.at_place {Fit : Json → Prop} {fields : List Field} {members : Members}
    {name : String}
    {value value' : Json} {field : Field} (place : Nat)
    (here : members[place]? = some (some name, value)) (known : field ∈ fields)
    (named : name ∈ field.slot.names) (inside : field.Rewritten value value') :
    Redrafted Fit fields (.object members) (.object (members.set place (some name, value'))) := by
  obtain ⟨within, here⟩ := List.getElem?_eq_some_iff.1 here
  have split : members = members.take place ++ (some name, value) :: members.drop (place + 1) := by
    rw [← here, List.getElem_cons_drop, List.take_append_drop]
  have anew : members.set place (some name, value') =
      members.take place ++ (some name, value') :: members.drop (place + 1) :=
    List.set_eq_take_append_cons_drop.trans (if_pos within)
  rw [anew]
  nth_rewrite 1 [split]
  exact .member known named inside

/-- A member whose value has no known members. -/
def Field.plain (slot : Slot) (optional : Bool) : Field where
  slot := slot
  optional := optional
  Rewritten := Shuffled
  shuffled := id
  filled := Shuffled.filled

/-- A member whose value is an object with known members of its own. -/
def Field.part (slot : Slot) (optional : Bool) (Fit : Json → Prop)
    (fields : List Field) : Field where
  slot := slot
  optional := optional
  Rewritten := Redrafted Fit fields
  shuffled := .shuffled
  filled := Redrafted.filled

def Separate (slots : List Slot) : Prop :=
  slots.Pairwise fun slot slot' => ∀ name ∈ slot.names, name ∉ slot'.names

instance (slots : List Slot) : Decidable (Separate slots) :=
  inferInstanceAs (Decidable (List.Pairwise _ _))

section Slots

variable {slot : Slot} {members before after : Members} {name : Option String} {value : Json}

/-- What a member fills a slot with. -/
def Slot.taken (slot : Slot) (name : Option String) (value : Json) : Option Json :=
  if name.any slot.names.contains then some value else none

theorem Slot.taken_known {name : String} (named : name ∈ slot.names) :
    slot.taken (some name) value = some value := by
  rw [Slot.taken, if_pos (by simpa using named)]

theorem Slot.taken_unknown {name : String} (unknown : name ∉ slot.names) :
    slot.taken (some name) value = none := by
  rw [Slot.taken, if_neg (by simpa using unknown)]

theorem values_named_append : valuesNamed slot.names (before ++ after) =
    valuesNamed slot.names before ++ valuesNamed slot.names after := by
  simp [valuesNamed]

theorem values_named_between : valuesNamed slot.names (before ++ (name, value) :: after) =
    valuesNamed slot.names before ++
      ((slot.taken name value).toList ++ valuesNamed slot.names after) := by
  rw [values_named_append, Slot.taken]
  congr 1
  cases known : name.any slot.names.contains <;> simp [valuesNamed, known]

theorem slot_value_iff {held : Option Json} :
    slotValue members slot = some held ↔ valuesNamed slot.names members = held.toList := by
  rw [slotValue]
  split
  · rename_i none
    cases held <;> simp [none]
  · rename_i value one
    cases held <;> simp [one]
  · rename_i none one
    cases held with
    | none => exact ⟨nofun, fun empty => (none empty).elim⟩
    | some value => exact ⟨nofun, fun single => (one value single).elim⟩

end Slots

section Carrying

variable {α : Type} {field : Field} {held held' : Option Json} {read : Json → Option α} {x : α}

/-- What a slot is filled with before and after a document is written anew. -/
inductive Field.Carries (field : Field) : Option Json → Option Json → Prop
  | same (held : Option Json) : Carries field held held
  | inside {value value' : Json} (redrafted : field.Rewritten value value') :
      Carries field (some value) (some value')
  | dropped (optional : field.optional = true) : Carries field (some .null) none

/-- A reader that accepts what it accepted, with the same outcome, however the value is written
anew. -/
def Keeps (redrafted : Json → Json → Prop) (read : Json → Option α) : Prop :=
  ∀ ⦃json json' : Json⦄ ⦃x : α⦄, redrafted json json' → read json = some x → read json' = some x

theorem Field.Carries.required (carries : field.Carries held held')
    (needed : field.optional = false)
    (keeps : Keeps field.Rewritten read) (found : Json.required read held = some x) :
    Json.required read held' = some x := by
  cases carries with
  | same => exact found
  | inside redrafted => exact keeps redrafted found
  | dropped optional => exact absurd (needed.symm.trans optional) Bool.false_ne_true

theorem Field.Carries.optional {x : Option α} (carries : field.Carries held held')
    (keeps : Keeps field.Rewritten read) (found : Json.optional read held = some x) :
    Json.optional read held' = some x := by
  cases carries with
  | same => exact found
  | dropped optional => exact found
  | inside redrafted =>
      obtain ⟨filled, filled'⟩ := field.filled redrafted
      have plain {value : Json} (filled : value ≠ .null) :
          Json.optional read (some value) = (read value).map some := by
        rw [Json.optional, toOption?]
        exact filled
      rw [plain filled] at found
      rw [plain filled']
      obtain ⟨y, read, rfl⟩ := Option.map_eq_some_iff.1 found
      rw [keeps redrafted read]
      rfl

theorem Field.Carries.between {front back : List Json} {alone : Option Json}
    (carries : field.Carries held held') (single : front ++ (held.toList ++ back) = alone.toList) :
    ∃ alone', front ++ (held'.toList ++ back) = alone'.toList ∧ field.Carries alone alone' := by
  have only {value : Json} (single : front ++ (value :: back) = alone.toList) :
      front = [] ∧ back = [] ∧ alone = some value := by
    cases alone with
    | none => simp at single
    | some value' =>
        obtain ⟨rfl, equal⟩ | ⟨_, empty⟩ := List.append_eq_cons_iff.1 single
        · obtain ⟨rfl, rfl⟩ := List.cons.inj equal
          exact ⟨rfl, rfl, rfl⟩
        · simp at empty
  cases carries with
  | same => exact ⟨alone, single, .same alone⟩
  | inside redrafted =>
      obtain ⟨rfl, rfl, rfl⟩ := only single
      exact ⟨_, rfl, .inside redrafted⟩
  | dropped optional =>
      obtain ⟨rfl, rfl, rfl⟩ := only single
      exact ⟨none, rfl, .dropped optional⟩

end Carrying

section Objects

variable {Fit : Json → Prop} {fields : List Field} {field : Field} {members members' : Members}

theorem same_field {other : Field} {name : String} (separate : Separate (fields.map Field.slot))
    (known : field ∈ fields) (known' : other ∈ fields) (named : name ∈ field.slot.names)
    (named' : name ∈ other.slot.names) : field = other := by
  by_contra differ
  have apart := List.pairwise_map.1 separate
  have symmetric : Std.Symm fun field other : Field =>
      ∀ name ∈ field.slot.names, name ∉ other.slot.names :=
    ⟨fun _ _ apart name named named' => apart name named' named⟩
  exact apart.forall known known' differ name named named'

theorem Slot.taken_apart {other : Field} {name : String} {value : Json}
    (separate : Separate (fields.map Field.slot)) (known : field ∈ fields) (known' : other ∈ fields)
    (named : name ∈ other.slot.names) (differ : field ≠ other) :
    field.slot.taken (some name) value = none :=
  taken_unknown fun own => differ (same_field separate known known' own named)

theorem slot_value_shuffled {held : Option Json}
    (shuffled : Shuffled (.object members) (.object members'))
    (found : valuesNamed field.slot.names members = held.toList) :
    ∃ held', valuesNamed field.slot.names members' = held'.toList ∧ field.Carries held held' := by
  cases shuffled with
  | members same =>
      have carried :=
        (same.filter fun member => member.1.any field.slot.names.contains).map Prod.snd
      have perm : held.toList.Perm (valuesNamed field.slot.names members') := found ▸ carried
      cases held with
      | none => exact ⟨none, List.perm_nil.1 perm.symm, .same none⟩
      | some value => exact ⟨some value, List.perm_singleton.1 perm.symm, .same (some value)⟩
  | @member before after name value value' inside =>
      rw [values_named_between] at found ⊢
      apply Field.Carries.between _ found
      rw [Slot.taken, Slot.taken]
      split
      · exact .inside (field.shuffled inside)
      · exact .same none

/-- A slot that could be filled from an object is filled from every redraft of it. -/
theorem slot_value_redrafted {held : Option Json} (separate : Separate (fields.map Field.slot))
    (known : field ∈ fields) (redrafted : Redrafted Fit fields (.object members) (.object members'))
    (found : slotValue members field.slot = some held) :
    ∃ held', slotValue members' field.slot = some held' ∧ field.Carries held held' := by
  rw [slot_value_iff] at found
  simp only [slot_value_iff]
  cases redrafted with
  | shuffled shuffled => exact slot_value_shuffled shuffled found
  | added unknown fit =>
      rw [values_named_append] at found
      rw [values_named_between, Slot.taken_unknown (unknown field known)]
      exact ⟨held, found, .same held⟩
  | removed unknown =>
      rw [values_named_between, Slot.taken_unknown (unknown field known)] at found
      rw [values_named_append]
      exact ⟨held, found, .same held⟩
  | @dropped before after name other known' named optional =>
      rw [values_named_between] at found
      rw [values_named_append]
      obtain rfl | differ := eq_or_ne field other
      · rw [Slot.taken_known named] at found
        exact (Field.Carries.dropped optional).between found
      · rw [Slot.taken_apart separate known known' named differ] at found
        exact ⟨held, found, .same held⟩
  | @renamed before after name name' value other known' named named' =>
      have same : field.slot.taken (some name) value = field.slot.taken (some name') value := by
        obtain rfl | differ := eq_or_ne field other
        · rw [Slot.taken_known named, Slot.taken_known named']
        · rw [Slot.taken_apart separate known known' named differ,
            Slot.taken_apart separate known known' named' differ]
      rw [values_named_between] at found ⊢
      exact ⟨held, same ▸ found, .same held⟩
  | @member before after name value value' other known' named inside =>
      rw [values_named_between] at found ⊢
      obtain rfl | differ := eq_or_ne field other
      · rw [Slot.taken_known named] at found ⊢
        exact (Field.Carries.inside inside).between found
      · rw [Slot.taken_apart separate known known' named differ] at found ⊢
        exact ⟨held, found, .same held⟩

theorem members_redrafted {Good : Json → Prop} (fits : ∀ value, Fit value → Good value)
    (shuffles : ∀ value value', Shuffled value value' → Good value → Good value')
    (rewrites : ∀ field ∈ fields, ∀ value value', field.Rewritten value value' →
      Good value → Good value')
    (redrafted : Redrafted Fit fields (.object members) (.object members'))
    (good : ∀ member ∈ members, member.1.isSome = true ∧ Good member.2) :
    ∀ member ∈ members', member.1.isSome = true ∧ Good member.2 := by
  cases redrafted with
  | shuffled shuffled =>
      cases shuffled with
      | members same => exact fun member listed => good member (same.mem_iff.2 listed)
      | member inside =>
          simp only [List.forall_mem_append, List.forall_mem_cons] at good ⊢
          exact ⟨good.1, ⟨good.2.1.1, shuffles _ _ inside good.2.1.2⟩, good.2.2⟩
  | added unknown fit =>
      simp only [List.forall_mem_append, List.forall_mem_cons] at good ⊢
      exact ⟨good.1, ⟨rfl, fits _ fit⟩, good.2⟩
  | removed unknown =>
      simp only [List.forall_mem_append, List.forall_mem_cons] at good ⊢
      exact ⟨good.1, good.2.2⟩
  | dropped known named optional =>
      simp only [List.forall_mem_append, List.forall_mem_cons] at good ⊢
      exact ⟨good.1, good.2.2⟩
  | renamed known named named' =>
      simp only [List.forall_mem_append, List.forall_mem_cons] at good ⊢
      exact ⟨good.1, ⟨rfl, good.2.1.2⟩, good.2.2⟩
  | member known named inside =>
      simp only [List.forall_mem_append, List.forall_mem_cons] at good ⊢
      exact ⟨good.1, ⟨rfl, rewrites _ known _ _ inside good.2.1.2⟩, good.2.2⟩

theorem named_redrafted (redrafted : Redrafted Fit fields (.object members) (.object members'))
    (named : ∀ member ∈ members, member.1.isSome = true) :
    ∀ member ∈ members', member.1.isSome = true := by
  have good := members_redrafted (fun _ _ => trivial) (fun _ _ _ _ => trivial)
    (fun _ _ _ _ _ _ => trivial) redrafted fun member listed => ⟨named member listed, trivial⟩
  exact fun member listed => (good member listed).1

/-- The values of all slots, one by one as they are carried over. -/
inductive Carried : List Field → List (Option Json) → List (Option Json) → Prop
  | nil : Carried [] [] []
  | cons {field : Field} {fields : List Field} {held held' : Option Json}
      {values values' : List (Option Json)} (first : field.Carries held held')
      (others : Carried fields values values') :
      Carried (field :: fields) (held :: values) (held' :: values')

theorem slot_values_carried {values : List (Option Json)}
    (each : ∀ field ∈ fields, ∀ held, slotValue members field.slot = some held →
      ∃ held', slotValue members' field.slot = some held' ∧ field.Carries held held')
    (found : (fields.map Field.slot).mapM (slotValue members) = some values) :
    ∃ values', (fields.map Field.slot).mapM (slotValue members') = some values' ∧
      Carried fields values values' := by
  induction fields generalizing values with
  | nil =>
      obtain rfl : [] = values := Option.some.inj found
      exact ⟨[], rfl, .nil⟩
  | cons field fields ih =>
      rw [List.map_cons, List.mapM_cons] at found
      simp only [Option.bind_eq_bind, Option.bind_eq_some_iff] at found
      obtain ⟨held, first, values, others, same⟩ := found
      obtain rfl := Option.some.inj same
      obtain ⟨held', first', carries⟩ := each field List.mem_cons_self held first
      obtain ⟨values', others', carried⟩ :=
        ih (fun field known => each field (.tail _ known)) others
      exact ⟨held' :: values', by rw [List.map_cons, List.mapM_cons, first', others']; rfl,
        .cons carries carried⟩

theorem slot_value_of_listed {slots : List Slot} {slot : Slot} {values : List (Option Json)}
    (listed : slot ∈ slots) (found : slots.mapM (slotValue members) = some values) :
    ∃ held, slotValue members slot = some held := by
  induction slots generalizing values with
  | nil => cases listed
  | cons first slots ih =>
      rw [List.mapM_cons] at found
      simp only [Option.bind_eq_bind, Option.bind_eq_some_iff] at found
      obtain ⟨held, own, values, others, -⟩ := found
      obtain rfl | listed := List.mem_cons.1 listed
      · exact ⟨held, own⟩
      · exact ih listed others

theorem slots_of_doubled {slots : List Slot} {slot : Slot} {name name' : String}
    {value value' : Json}
    (listed : slot ∈ slots) (named : name ∈ slot.names) (named' : name' ∈ slot.names)
    (differ : name ≠ name') (member : (some name, value) ∈ members)
    (member' : (some name', value') ∈ members) : slots? slots (.object members) = none := by
  have taken : ∀ {name : String} {value : Json}, name ∈ slot.names → (some name, value) ∈ members →
      (some name, value) ∈ members.filter fun member => member.1.any slot.names.contains :=
    fun named member => List.mem_filter.2 ⟨member, List.contains_iff_mem.2 named⟩
  rw [slots?]
  split
  · by_contra found
    obtain ⟨values, found⟩ := Option.ne_none_iff_exists'.1 found
    obtain ⟨held, found⟩ := slot_value_of_listed listed found
    rw [slot_value_iff, valuesNamed] at found
    have there := taken named member
    have there' := taken named' member'
    cases held with
    | none => simp [List.map_eq_nil_iff.1 found] at there
    | some only =>
        obtain ⟨single, filtered, -⟩ := List.map_eq_singleton_iff.1 found
        rw [filtered, List.mem_singleton] at there there'
        exact differ (Option.some.inj (Prod.mk.inj (there.trans there'.symm)).1)
  · rfl

end Objects

section Arrays

variable {Fit : Json → Prop} {fields : List Field} {values : List (Option Json)} {json json' : Json}

theorem Carried.refl (length : values.length = fields.length) : Carried fields values values := by
  induction fields generalizing values with
  | nil =>
      obtain rfl := List.length_eq_zero_iff.1 length
      exact .nil
  | cons field fields ih =>
      cases values with
      | nil => cases length
      | cons held values => exact .cons (.same held) (ih (Nat.succ.inj length))

theorem length_spread {slots : List Slot} {items : List Json}
    (found : spread slots items = some values) :
    values.length = slots.length ∧ items.length ≤ slots.length := by
  fun_induction spread slots items generalizing values with
  | case1 =>
      obtain rfl : [] = values := Option.some.inj found
      exact ⟨rfl, Nat.le_refl _⟩
  | case2 => cases found
  | case3 slot slots item items ih =>
      obtain ⟨values, others, rfl⟩ := Option.map_eq_some_iff.1 found
      obtain ⟨length, enough⟩ := ih others
      exact ⟨congrArg Nat.succ length, Nat.succ_le_succ enough⟩
  | case4 slot slots defaulted ih =>
      obtain ⟨values, others, rfl⟩ := Option.map_eq_some_iff.1 found
      obtain ⟨length, enough⟩ := ih others
      exact ⟨congrArg Nat.succ length, Nat.zero_le _⟩
  | case5 => cases found

theorem spread_carried {before after : List Json} {value value' : Json} {field : Field}
    (known : fields[before.length]? = some field) (inside : field.Rewritten value value')
    (found : spread (fields.map Field.slot) (before ++ value :: after) = some values) :
    ∃ values', spread (fields.map Field.slot) (before ++ value' :: after) = some values' ∧
      Carried fields values values' := by
  induction before generalizing fields values with
  | nil =>
      cases fields with
      | nil => cases known
      | cons first fields =>
          obtain rfl : first = field := Option.some.inj known
          obtain ⟨values, others, rfl⟩ := Option.map_eq_some_iff.1 found
          have length := (length_spread others).1.trans (List.length_map _)
          exact ⟨some value' :: values, congrArg _ others, .cons (.inside inside) (.refl length)⟩
  | cons item before ih =>
      cases fields with
      | nil => cases known
      | cons first fields =>
          obtain ⟨values, others, rfl⟩ := Option.map_eq_some_iff.1 found
          obtain ⟨values', others', carried⟩ := ih known others
          exact ⟨some item :: values', congrArg _ others', .cons (.same _) carried⟩

/-- From every redraft of a structure that could be read, its slots are filled as before, or with
values that are written anew themselves. -/
theorem slots_redrafted (separate : Separate (fields.map Field.slot))
    (redrafted : Redrafted Fit fields json json')
    (found : json.slots? (fields.map Field.slot) = some values) :
    ∃ values', json'.slots? (fields.map Field.slot) = some values' ∧
    Carried fields values values' := by
  have object {members members' : Members}
      (redrafted : Redrafted Fit fields (.object members) (.object members'))
      (found : slots? (fields.map Field.slot) (.object members) = some values) :
      ∃ values', slots? (fields.map Field.slot) (.object members') = some values' ∧
        Carried fields values values' := by
    rw [slots?] at found ⊢
    split at found
    · rename_i named
      rw [if_pos (List.all_eq_true.2 (named_redrafted redrafted (List.all_eq_true.1 named)))]
      exact slot_values_carried
        (fun field known held found => slot_value_redrafted separate known redrafted found) found
    · cases found
  cases redrafted with
  | shuffled shuffled =>
      cases shuffled with
      | members same => exact object (.shuffled (.members same)) found
      | member inside => exact object (.shuffled (.member inside)) found
      | @item before after value value' inside =>
          have enough := (length_spread found).2
          have place : before.length < fields.length := by
            simp only [List.length_append, List.length_cons, List.length_map] at enough
            omega
          exact spread_carried (List.getElem?_eq_getElem place)
            (fields[before.length].shuffled inside) found
  | added unknown fit => exact object (.added unknown fit) found
  | removed unknown => exact object (.removed unknown) found
  | dropped known named optional => exact object (.dropped known named optional) found
  | renamed known named named' => exact object (.renamed known named named') found
  | member known named inside => exact object (.member known named inside) found
  | item known inside => exact spread_carried known inside found

/-- A structure built from its slots keeps its redrafts, if what it is built of may be carried
over. -/
theorem keeps_of_slots {α : Type} {build : List (Option Json) → Option α}
    (separate : Separate (fields.map Field.slot))
    (carry : ∀ {values values' : List (Option Json)} {x : α}, Carried fields values values' →
      build values = some x → build values' = some x) :
    Keeps (Redrafted Fit fields) fun json => (json.slots? (fields.map Field.slot)).bind build := by
  intro json json' x redrafted found
  obtain ⟨values, taken, found⟩ := Option.bind_eq_some_iff.1 found
  obtain ⟨values', taken', carried⟩ := slots_redrafted separate redrafted taken
  exact Option.bind_eq_some_iff.2 ⟨values', taken', carry carried found⟩

end Arrays

end Resemblance.Json
