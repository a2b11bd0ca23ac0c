import Resemblance.Yaml
import Resemblance.Yaml.Token

/-!
Reading a YAML text: its tokens must form at most one document. Anchors name values, and an alias
stands for the value last named so.
-/

namespace Resemblance.Yaml

/-- The named values, the latest first; a value that is still being read is not known yet. -/
abbrev Names := List (String × Option Yaml)

/-- The tokens to come, and the names given so far. -/
structure Reader where
  tokens : List Token
  names : Names
  handles : List String

namespace Reader

def next (r : Reader) : Token :=
  r.tokens.headD .finish

def skip (r : Reader) : Reader :=
  { r with tokens := r.tokens.drop 1 }

def sees (r : Reader) (tokens : List Token) : Bool :=
  tokens.contains r.next

/-- Reads an anchor and a tag in either order. The second part says whether there was either. -/
def readProperties (r : Reader) : Option (Option String × Bool × Reader) :=
  let known := fun (r : Reader) (handle : String) => r.handles.contains handle
  match r.tokens with
  | .anchor name :: .tag handle :: rest =>
      if known r handle then some (some name, true, { r with tokens := rest }) else none
  | .tag handle :: .anchor name :: rest =>
      if known r handle then some (some name, true, { r with tokens := rest }) else none
  | .anchor name :: rest => some (some name, true, { r with tokens := rest })
  | .tag handle :: rest =>
      if known r handle then some (none, true, { r with tokens := rest }) else none
  | _ => some (none, false, r)

def name (r : Reader) (anchor : Option String) (value : Option Yaml) : Reader :=
  match anchor with
  | none => r
  | some anchor => { r with names := (anchor, value) :: r.names }

mutual

/-- Reads a value. Blocks are admitted outside brackets, and a sequence without indentation of its
own after a key. -/
def readNode (block indentless : Bool) : Nat → Reader → Option (Yaml × Reader)
  | 0, _ => none
  | fuel + 1, r =>
      match r.next with
      | .alias name =>
          match r.names.lookup name with
          | none => none
          | some value => some (value.getD .cycle, r.skip)
      | _ =>
          match r.readProperties with
          | none => none
          | some (anchor, marked, r) =>
              match readContent block indentless marked fuel (r.name anchor none) with
              | none => none
              | some (value, r) => some (value, r.name anchor (some value))

def readContent (block indentless marked : Bool) : Nat → Reader → Option (Yaml × Reader)
  | 0, _ => none
  | fuel + 1, r =>
      match r.next with
      | .scalar plain text => some (.scalar plain text, r.skip)
      | .openSequence =>
          (readFlowItems true fuel r.skip).map fun (items, r) => (.sequence items, r)
      | .openMapping =>
          (readFlowMembers true fuel r.skip).map fun (members, r) => (.mapping members, r)
      | .entry =>
          if indentless then
            (readEntries true fuel r).map fun (items, r) => (.sequence items, r)
          else if marked then some (empty, r)
          else none
      | .blockSequence =>
          if block then
            (readEntries false fuel r.skip).map fun (items, r) => (.sequence items, r)
          else if marked then some (empty, r)
          else none
      | .blockMapping =>
          if block then
            (readMembers fuel r.skip).map fun (members, r) => (.mapping members, r)
          else if marked then some (empty, r)
          else none
      | _ => if marked then some (empty, r) else none

/-- Reads the entries of a block sequence. One without indentation ends before the first other
token. -/
def readEntries (indentless : Bool) : Nat → Reader → Option (List Yaml × Reader)
  | 0, _ => none
  | fuel + 1, r =>
      match r.next with
      | .entry =>
          let r := r.skip
          let stops : List Token :=
            if indentless then [.entry, .key, .value, .blockEnd] else [.entry, .blockEnd]
          let item :=
            if r.sees stops then some (empty, r) else readNode true false fuel r
          match item with
          | none => none
          | some (item, r) =>
              (readEntries indentless fuel r).map fun (items, r) => (item :: items, r)
      | .blockEnd => some ([], if indentless then r else r.skip)
      | _ => if indentless then some ([], r) else none

def readMembers : Nat → Reader → Option (List (Yaml × Yaml) × Reader)
  | 0, _ => none
  | fuel + 1, r =>
      let part := fun (r : Reader) =>
        if r.sees [.key, .value, .blockEnd] then some (empty, r) else readNode true true fuel r
      match r.next with
      | .blockEnd => some ([], r.skip)
      | .key =>
          match part r.skip with
          | none => none
          | some (key, r) =>
              match (if r.next == .value then part r.skip else some (empty, r)) with
              | none => none
              | some (value, r) =>
                  (readMembers fuel r).map fun (members, r) => ((key, value) :: members, r)
      | _ => none

/-- Reads the items of a sequence in brackets. A pair may stand for a mapping of one member. -/
def readFlowItems (first : Bool) : Nat → Reader → Option (List Yaml × Reader)
  | 0, _ => none
  | fuel + 1, r =>
      if r.next == .closeSequence then some ([], r.skip)
      else if !first && r.next != .comma then none
      else
        let r := if first then r else r.skip
        if r.next == .closeSequence then some ([], r.skip)
        else
          let item :=
            if r.next == .key then
              match readFlowPart [.value, .comma, .closeSequence] fuel r.skip with
              | none => none
              | some (key, r) =>
                  match readFlowValue [.comma, .closeSequence] fuel r with
                  | none => none
                  | some (value, r) => some (.mapping [(key, value)], r)
            else readNode false false fuel r
          match item with
          | none => none
          | some (item, r) =>
              (readFlowItems false fuel r).map fun (items, r) => (item :: items, r)

def readFlowMembers (first : Bool) : Nat → Reader → Option (List (Yaml × Yaml) × Reader)
  | 0, _ => none
  | fuel + 1, r =>
      if r.next == .closeMapping then some ([], r.skip)
      else if !first && r.next != .comma then none
      else
        let r := if first then r else r.skip
        if r.next == .closeMapping then some ([], r.skip)
        else
          let member :=
            if r.next == .key then
              match readFlowPart [.value, .comma, .closeMapping] fuel r.skip with
              | none => none
              | some (key, r) =>
                  match readFlowValue [.comma, .closeMapping] fuel r with
                  | none => none
                  | some (value, r) => some ((key, value), r)
            else (readNode false false fuel r).map fun (key, r) => ((key, empty), r)
          match member with
          | none => none
          | some (member, r) =>
              (readFlowMembers false fuel r).map fun (members, r) => (member :: members, r)

def readFlowPart (stops : List Token) : Nat → Reader → Option (Yaml × Reader)
  | 0, _ => none
  | fuel + 1, r => if r.sees stops then some (empty, r) else readNode false false fuel r

def readFlowValue (stops : List Token) : Nat → Reader → Option (Yaml × Reader)
  | 0, _ => none
  | fuel + 1, r =>
      if r.next == .value then readFlowPart stops fuel r.skip else some (empty, r)

end

/-- Reads the directives in front of a document: at most one version, of the first generation, and
handles of tags. -/
def readDirectives : List Token → Bool → List String → Option (List String × List Token)
  | .versionLine major minor :: rest, seen, handles =>
      if seen || major != 1 || (minor != 1 && minor != 2) then none
      else readDirectives rest true handles
  | .tagLine handle :: rest, seen, handles =>
      if handles.contains handle then none else readDirectives rest seen (handle :: handles)
  | rest, _, handles => some (handles, rest)

/-- Reads the tokens of at most one document; no document at all is an empty one. -/
def ofTokens? (tokens : List Token) : Option Yaml := do
  let (handles, rest) ← readDirectives tokens false []
  let directives := rest.length < tokens.length
  let known := "" :: "!" :: "!!" :: handles
  let finish := fun (value : Yaml) (rest : List Token) =>
    match rest.dropWhile (· == .documentEnd) with
    | [.finish] => some value
    | _ => none
  let content := fun (rest : List Token) =>
    match rest with
    | .documentEnd :: _ => finish empty rest
    | .finish :: _ => finish empty rest
    | .documentStart :: _ => none
    | _ =>
        match readNode true false (10 * rest.length + 10) ⟨rest, [], known⟩ with
        | some (value, r) => finish value r.tokens
        | none => none
  match rest with
  | .documentStart :: rest => content rest
  | _ => if directives then none else content rest

end Reader

def read (text : String) : Option Yaml :=
  (tokens text).bind Reader.ofTokens?

end Resemblance.Yaml
