import BoundedStream.Proofs.Config.Conversions
import Mathlib.Data.List.Induction

/-!
# Shape of configuration documents

The transport section of a document is a list of pairs.  It is read if every key names a field,
no field is named twice, every value is converted to the type of its field, and the kind and the
path are there; what is read depends on the values alone, not on the order of the pairs.
Otherwise the first pair that offends, in document order, is the fault of the whole document,
before a missing field and before anything that is wrong with the values.
-/

namespace BoundedStream

namespace Config

open Yaml

/-! ## Pairs -/

/-- A key is a scalar with a name. -/
def Names (document : Document) (key : Node) (name : String) : Prop :=
  HasText (document.resolve key) name

/-- A pair has the name of a field and a value of its type. -/
structure Gives (document : Document) (pair : Node × Node) (value : FieldValue) : Prop where
  names : Names document pair.1 value.field.name
  converts : Converts document (document.resolve pair.2) value

/-- One of the pairs gives a value. -/
def Has (document : Document) (pairs : List (Node × Node)) (value : FieldValue) : Prop :=
  ∃ pair ∈ pairs, Gives document pair value

/-- Each pair names a field of its own and has a value of the type of that field. -/
structure Faultless (document : Document) (pairs : List (Node × Node)) : Prop where
  known : ∀ pair ∈ pairs, ∃ field : Field, Names document pair.1 field.name
  distinct : pairs.Pairwise fun first second =>
    ∀ name, Names document first.1 name → ¬ Names document second.1 name
  converts : ∀ pair ∈ pairs, ∀ field : Field, Names document pair.1 field.name →
    ∃ value, value.field = field ∧ Converts document (document.resolve pair.2) value

/-- The pairs that make up a section. -/
structure WellShaped (document : Document) (pairs : List (Node × Node)) : Prop
    extends Faultless document pairs where
  kind : ∃ pair ∈ pairs, Names document pair.1 "kind"
  path : ∃ pair ∈ pairs, Names document pair.1 "path"

/-- A pair offends, given the pairs before it, with this fault. -/
inductive Offends (document : Document) (location : String) (earlier : List (Node × Node)) :
    Node × Node → DocumentError → Prop
  | nameless (key value : Node) (nameless : ∀ name, ¬ Names document key name) :
      Offends document location earlier (key, value)
        (invalidType location (document.resolve key) "field identifier")
  | unknown (key value : Node) (name : String) (names : Names document key name)
      (unknown : ∀ field : Field, field.name ≠ name) :
      Offends document location earlier (key, value)
        (unknownField location name (Field.all.map Field.name))
  | repeated (key value : Node) (field : Field) (names : Names document key field.name)
      (again : ∃ pair ∈ earlier, Names document pair.1 field.name) :
      Offends document location earlier (key, value) (duplicateField location field.name)
  | mistyped (key value : Node) (field : Field) (fault : DocumentError)
      (names : Names document key field.name)
      (first : ∀ pair ∈ earlier, ¬ Names document pair.1 field.name)
      (refused : field.convert document location (valueLocation location key field.name)
        (document.resolve value) = .error fault) :
      Offends document location earlier (key, value) fault

/-- Which field is missing from pairs that do not offend. -/
inductive Lacks (document : Document) (location : String) (pairs : List (Node × Node)) :
    DocumentError → Prop
  | kind (unnamed : ∀ pair ∈ pairs, ¬ Names document pair.1 "kind") :
      Lacks document location pairs (documentFault location "missing field \x60kind\x60")
  | path (named : ∃ pair ∈ pairs, Names document pair.1 "kind")
      (unnamed : ∀ pair ∈ pairs, ¬ Names document pair.1 "path") :
      Lacks document location pairs (documentFault location "missing field \x60path\x60")

/-- A section with the values that there are; a list of flags that is not there is empty. -/
structure Collects (has : FieldValue → Prop) (raw : Section) : Prop where
  kind : has (.kind raw.kind)
  path : has (.path raw.path)
  mode : ∀ mode, raw.mode = some mode ↔ has (.mode (some mode))
  capacity : ∀ capacity, raw.capacity = some capacity ↔ has (.capacity (some capacity))
  flags : has (.flags raw.flags) ∨ (∀ flags, ¬ has (.flags flags)) ∧ raw.flags = []

/-- A document is well formed and has one key, `transport`, with a mapping of pairs. -/
structure Presents (document : Document) (location : String) (pairs : List (Node × Node)) :
    Prop where
  tree : ∃ rootTag key value tag,
    document.resolve document.root = .mapping rootTag [(key, value)] ∧
      Names document key "transport" ∧ document.resolve value = .mapping tag pairs ∧
      location = valueLocation "" key "transport"
  complete : document.complete = true

variable {document document' : Document} {location name name' : String} {key : Node}
  {pair : Node × Node} {pairs pairs' earlier front rest : List (Node × Node)}
  {field other : Field} {value value' : FieldValue} {fault : DocumentError} {raw : Section}

theorem Names.eq (names : Names document key name) (names' : Names document key name') :
    name = name' := by
  obtain ⟨scalar, isScalar, rfl⟩ := names
  obtain ⟨scalar', isScalar', rfl⟩ := names'
  rw [isScalar] at isScalar'
  cases isScalar'
  rfl

theorem Field.ofName?_eq_some_iff : Field.ofName? name = some field ↔ field.name = name := by
  constructor
  · intro found
    simpa using List.find?_some found
  · rintro rfl
    cases field <;> rfl

theorem Field.name_injective (same : field.name = other.name) : field = other := by
  have found := ofName?_eq_some_iff.mpr same
  rw [ofName?_eq_some_iff.mpr rfl] at found
  exact (Option.some.inj found).symm

theorem Faultless.sublist (faultless : Faultless document pairs) (part : front.Sublist pairs) :
    Faultless document front where
  known pair member := faultless.known pair (part.subset member)
  distinct := faultless.distinct.sublist part
  converts pair member := faultless.converts pair (part.subset member)

/-! ## Drafts -/

namespace Draft

/-- The value of a field, if it was read. -/
def get? (draft : Draft) : Field → Option FieldValue
  | .kind => draft.kind.map .kind
  | .path => draft.path.map .path
  | .mode => draft.mode.map .mode
  | .capacity => draft.capacity.map .capacity
  | .flags => draft.flags.map .flags

def store (draft : Draft) : FieldValue → Draft
  | .kind kind => { draft with kind := some kind }
  | .path path => { draft with path := some path }
  | .mode mode => { draft with mode := some mode }
  | .capacity capacity => { draft with capacity := some capacity }
  | .flags flags => { draft with flags := some flags }

/-- The draft has the values of the pairs and no others. -/
def Records (draft : Draft) (document : Document) (pairs : List (Node × Node)) : Prop :=
  ∀ value : FieldValue, draft.get? value.field = some value ↔ Has document pairs value

variable {draft : Draft}

@[simp]
theorem get?_store_self (draft : Draft) (value : FieldValue) :
    (draft.store value).get? value.field = some value := by
  cases value <;> rfl

theorem get?_store_of_ne (other : field ≠ value.field) :
    (draft.store value).get? field = draft.get? field := by
  cases value <;> cases field <;> first | rfl | exact absurd rfl other

theorem has_eq (draft : Draft) (field : Field) : draft.has field = (draft.get? field).isSome := by
  cases field <;> simp [has, get?]

theorem field_of_get? (found : draft.get? field = some value) : value.field = field := by
  cases field <;> simp only [get?, Option.map_eq_some_iff] at found <;>
    obtain ⟨_, -, rfl⟩ := found <;> rfl

theorem read_eq (draft : Draft) (document : Document) (parent location : String) (field : Field)
    (node : Node) :
    draft.read document parent location field node =
      (field.convert document parent location node).map draft.store := by
  cases field with
  | kind =>
      rw [read, Field.convert]
      cases readKind parent location node <;> rfl
  | path =>
      rw [read, Field.convert]
      cases readText location "a string" node <;> rfl
  | mode =>
      rw [read, Field.convert]
      cases readOptional parent (readText location "a string") node <;> rfl
  | capacity =>
      rw [read, Field.convert]
      cases readOptional parent (readSize location) node <;> rfl
  | flags =>
      rw [read, Field.convert]
      cases readTexts document location node <;> rfl

theorem records_empty (document : Document) : empty.Records document [] := by
  intro value
  constructor
  · intro found
    cases value <;> cases found
  · rintro ⟨pair, member, -⟩
    cases member

theorem Records.has_iff (records : draft.Records document pairs)
    (faultless : Faultless document pairs) :
    draft.has field = true ↔ ∃ pair ∈ pairs, Names document pair.1 field.name := by
  rw [has_eq, Option.isSome_iff_exists]
  constructor
  · rintro ⟨value, found⟩
    obtain rfl := field_of_get? found
    obtain ⟨pair, member, gives⟩ := (records value).mp found
    exact ⟨pair, member, gives.names⟩
  · rintro ⟨pair, member, names⟩
    obtain ⟨value, rfl, converts⟩ := faultless.converts pair member field names
    exact ⟨value, (records value).mpr ⟨pair, member, names, converts⟩⟩

theorem Records.not_has (records : draft.Records document pairs)
    (faultless : Faultless document pairs)
    (unnamed : ∀ pair ∈ pairs, ¬ Names document pair.1 field.name) : ¬ draft.has field = true := by
  intro taken
  obtain ⟨pair, member, names⟩ := (records.has_iff faultless).mp taken
  exact unnamed pair member names

/-- A value of a field that no pair before it names is recorded beside the others. -/
theorem Records.store (records : draft.Records document pairs) (gives : Gives document pair value)
    (first : ∀ earlier ∈ pairs, ¬ Names document earlier.1 value.field.name) :
    (draft.store value).Records document (pairs ++ [pair]) := by
  intro other
  by_cases same : other.field = value.field
  · rw [same, get?_store_self]
    constructor
    · rintro ⟨⟩
      exact ⟨pair, by simp, gives⟩
    · rintro ⟨found, member, gives'⟩
      rcases List.mem_append.mp member with before | last
      · exact absurd (same ▸ gives'.names) (first found before)
      · obtain rfl := List.mem_singleton.mp last
        rw [gives.converts.unique gives'.converts same.symm]
  · rw [get?_store_of_ne same, records other]
    constructor
    · rintro ⟨found, member, gives'⟩
      exact ⟨found, List.mem_append_left _ member, gives'⟩
    · rintro ⟨found, member, gives'⟩
      rcases List.mem_append.mp member with before | last
      · exact ⟨found, before, gives'⟩
      · obtain rfl := List.mem_singleton.mp last
        exact absurd (Field.name_injective (gives'.names.eq gives.names)) same

end Draft

/-! ## Pairs in document order -/

theorem readKey_eq_ok_iff : readKey document location key = .ok name ↔ Names document key name :=
  readText_eq_ok_iff

variable {draft : Draft}

/-- A pair that names a field repeats it or has its value converted. -/
theorem readFields_of_names (names : Names document key field.name) (node : Node) :
    readFields document location ((key, node) :: rest) draft =
      if draft.has field then .error (duplicateField location field.name)
      else
        (field.convert document location (valueLocation location key field.name)
          (document.resolve node)).bind fun value =>
            readFields document location rest (draft.store value) := by
  rw [readFields, readKey_eq_ok_iff.mpr names]
  dsimp only [bind, Except.bind]
  rw [Field.ofName?_eq_some_iff.mpr rfl]
  dsimp only
  rw [Draft.read_eq]
  cases field.convert document location (valueLocation location key field.name)
    (document.resolve node) <;> rfl

/-- A pair that gives the value of a new field is stored, and the reading goes on. -/
theorem readFields_of_gives (records : draft.Records document earlier)
    (faultless : Faultless document earlier) (gives : Gives document pair value)
    (first : ∀ before ∈ earlier, ¬ Names document before.1 value.field.name) :
    readFields document location (pair :: rest) draft =
      readFields document location rest (draft.store value) := by
  obtain ⟨key, node⟩ := pair
  have converted : ∀ place, value.field.convert document location place
      (document.resolve node) = .ok value :=
    fun place => convert_eq_ok_iff.mpr ⟨rfl, gives.converts⟩
  rw [readFields_of_names gives.names, if_neg (records.not_has faultless first), converted]
  rfl

/-- A pair that offends is the fault. -/
theorem readFields_of_offends (records : draft.Records document earlier)
    (faultless : Faultless document earlier)
    (offends : Offends document location earlier pair fault) :
    readFields document location (pair :: rest) draft = .error fault := by
  cases offends with
  | nameless key value nameless =>
      rw [readFields, readKey, readText_of_no_text nameless]
      rfl
  | unknown key value name names unknown =>
      have none : Field.ofName? name = none := by
        cases found : Field.ofName? name with
        | none => rfl
        | some field => exact absurd (Field.ofName?_eq_some_iff.mp found) (unknown field)
      rw [readFields, readKey_eq_ok_iff.mpr names]
      dsimp only [bind, Except.bind]
      rw [none]
  | repeated key value field names again =>
      rw [readFields_of_names names, if_pos ((records.has_iff faultless).mpr again)]
  | mistyped key value field fault names first refused =>
      rw [readFields_of_names names, if_neg (records.not_has faultless first), refused]
      rfl

/-- Pairs without a fault are recorded one after the other. -/
theorem readFields_of_faultless (faultless : Faultless document (earlier ++ front))
    (records : draft.Records document earlier) (location : String) :
    ∃ next : Draft, next.Records document (earlier ++ front) ∧
      ∀ rest, readFields document location (front ++ rest) draft =
        readFields document location rest next := by
  induction front generalizing earlier draft with
  | nil =>
      rw [List.append_nil]
      exact ⟨draft, records, fun rest => rfl⟩
  | cons pair front ih =>
      have before : Faultless document earlier :=
        faultless.sublist (List.sublist_append_left ..)
      have member : pair ∈ earlier ++ pair :: front := by simp
      obtain ⟨field, names⟩ := faultless.known pair member
      obtain ⟨value, rfl, converts⟩ := faultless.converts pair member field names
      have first : ∀ other ∈ earlier, ¬ Names document other.1 value.field.name := by
        intro other isEarlier named
        have apart := (List.pairwise_append.mp faultless.distinct).2.2
        exact apart other isEarlier pair List.mem_cons_self _ named names
      rw [List.append_cons] at faultless ⊢
      obtain ⟨next, recorded, goesOn⟩ := ih faultless (records.store ⟨names, converts⟩ first)
      refine ⟨next, recorded, fun rest => ?_⟩
      rw [List.cons_append, readFields_of_gives records before ⟨names, converts⟩ first]
      exact goesOn rest

/-- Pairs without a fault are all read into one draft, whatever follows them. -/
theorem Faultless.exists_draft (faultless : Faultless document pairs) (location : String) :
    ∃ draft : Draft, draft.Records document pairs ∧
      ∀ rest, readFields document location (pairs ++ rest) Draft.empty =
        readFields document location rest draft :=
  readFields_of_faultless (show Faultless document ([] ++ pairs) from faultless)
    (Draft.records_empty document) location

theorem Faultless.snoc (faultless : Faultless document pairs) (gives : Gives document pair value)
    (first : ∀ earlier ∈ pairs, ¬ Names document earlier.1 value.field.name) :
    Faultless document (pairs ++ [pair]) := by
  refine ⟨?_, ?_, ?_⟩
  · intro other member
    rcases List.mem_append.mp member with before | last
    · exact faultless.known other before
    · obtain rfl := List.mem_singleton.mp last
      exact ⟨value.field, gives.names⟩
  · refine List.pairwise_append.mpr ⟨faultless.distinct, List.pairwise_singleton _ _, ?_⟩
    intro earlier member other last name names names'
    obtain rfl := List.mem_singleton.mp last
    exact first earlier member (gives.names.eq names' ▸ names)
  · intro other member field names
    rcases List.mem_append.mp member with before | last
    · exact faultless.converts other before field names
    · obtain rfl := List.mem_singleton.mp last
      exact ⟨value, Field.name_injective (gives.names.eq names), gives.converts⟩

/-- One more pair either offends or leaves the pairs without a fault. -/
theorem Faultless.snoc_or_offends (faultless : Faultless document pairs) (location : String)
    (pair : Node × Node) :
    Faultless document (pairs ++ [pair]) ∨ ∃ fault, Offends document location pairs pair fault := by
  obtain ⟨key, node⟩ := pair
  by_cases named : ∃ name, Names document key name
  · obtain ⟨name, names⟩ := named
    by_cases known : ∃ field : Field, field.name = name
    · obtain ⟨field, rfl⟩ := known
      by_cases again : ∃ pair ∈ pairs, Names document pair.1 field.name
      · exact .inr ⟨_, .repeated key node field names again⟩
      · have first : ∀ pair ∈ pairs, ¬ Names document pair.1 field.name := by
          intro pair member names'
          exact again ⟨pair, member, names'⟩
        cases read : field.convert document location (valueLocation location key field.name)
            (document.resolve node) with
        | error fault => exact .inr ⟨fault, .mistyped key node field fault names first read⟩
        | ok value =>
            obtain ⟨rfl, converts⟩ := convert_eq_ok_iff.mp read
            exact .inl (faultless.snoc ⟨names, converts⟩ first)
    · exact .inr ⟨_, .unknown key node name names (not_exists.mp known)⟩
  · exact .inr ⟨_, .nameless key node (not_exists.mp named)⟩

theorem faultless_or_offends (document : Document) (location : String)
    (pairs : List (Node × Node)) :
    Faultless document pairs ∨ ∃ front pair rest fault, pairs = front ++ pair :: rest ∧
      Faultless document front ∧ Offends document location front pair fault := by
  induction pairs using List.reverseRecOn with
  | nil =>
      refine .inl ⟨?_, List.Pairwise.nil, ?_⟩
      · intro pair member
        cases member
      · intro pair member
        cases member
  | append_singleton pairs pair ih =>
      rcases ih with faultless | ⟨front, offender, rest, fault, rfl, faultless, offends⟩
      · rcases faultless.snoc_or_offends location pair with more | ⟨fault, offends⟩
        · exact .inl more
        · exact .inr ⟨pairs, pair, [], fault, rfl, faultless, offends⟩
      · refine .inr ⟨front, offender, rest ++ [pair], fault, ?_, faultless, offends⟩
        rw [List.append_assoc, List.cons_append]

/-! ## Sections -/

namespace Draft.Records

variable (records : draft.Records document pairs)
include records

theorem kind_iff {kind : TransportKind} :
    draft.kind = some kind ↔ Has document pairs (.kind kind) := by
  rw [← records (.kind kind)]
  simp [get?, FieldValue.field]

theorem path_iff {path : String} : draft.path = some path ↔ Has document pairs (.path path) := by
  rw [← records (.path path)]
  simp [get?, FieldValue.field]

theorem mode_iff {mode : Option String} :
    draft.mode = some mode ↔ Has document pairs (.mode mode) := by
  rw [← records (.mode mode)]
  simp [get?, FieldValue.field]

theorem capacity_iff {capacity : Option Nat} :
    draft.capacity = some capacity ↔ Has document pairs (.capacity capacity) := by
  rw [← records (.capacity capacity)]
  simp [get?, FieldValue.field]

theorem flags_iff {flags : List String} :
    draft.flags = some flags ↔ Has document pairs (.flags flags) := by
  rw [← records (.flags flags)]
  simp [get?, FieldValue.field]

/-- What a draft with a kind and a path is finished to collects its values. -/
theorem collects {kind : TransportKind} {path : String} (hasKind : draft.kind = some kind)
    (hasPath : draft.path = some path) :
    Collects (Has document pairs)
      ⟨kind, path, draft.mode.join, draft.capacity.join, draft.flags.getD []⟩ := by
  refine ⟨records.kind_iff.mp hasKind, records.path_iff.mp hasPath, ?_, ?_, ?_⟩
  · intro mode
    rw [← records.mode_iff]
    exact Option.join_eq_some_iff
  · intro capacity
    rw [← records.capacity_iff]
    exact Option.join_eq_some_iff
  · cases found : draft.flags with
    | none =>
        refine .inr ⟨fun flags given => ?_, rfl⟩
        rw [← records.flags_iff, found] at given
        cases given
    | some flags => exact .inl (records.flags_iff.mp found)

end Draft.Records

/-- The values of a section leave no choice. -/
theorem Collects.eq {has : FieldValue → Prop} {raw' : Section} (collects : Collects has raw)
    (collects' : Collects has raw')
    (unique : ∀ value value', has value → has value' → value.field = value'.field →
      value = value') : raw = raw' := by
  have kind := unique _ _ collects.kind collects'.kind rfl
  have path := unique _ _ collects.path collects'.path rfl
  have mode : raw.mode = raw'.mode := by
    ext mode
    rw [collects.mode mode, collects'.mode mode]
  have capacity : raw.capacity = raw'.capacity := by
    ext capacity
    rw [collects.capacity capacity, collects'.capacity capacity]
  have flags : raw.flags = raw'.flags := by
    rcases collects.flags with given | ⟨missing, empty⟩
    · rcases collects'.flags with given' | ⟨missing, -⟩
      · injection unique _ _ given given' rfl
      · exact absurd given (missing raw.flags)
    · rcases collects'.flags with given' | ⟨-, empty'⟩
      · exact absurd given' (missing raw'.flags)
      · rw [empty, empty']
  obtain ⟨_, _, _, _, _⟩ := raw
  obtain ⟨_, _, _, _, _⟩ := raw'
  cases kind
  cases path
  cases mode
  cases capacity
  cases flags
  rfl

/-- Pairs without a fault have at most one value of a field. -/
theorem Faultless.has_unique (faultless : Faultless document pairs)
    (has : Has document pairs value) (has' : Has document pairs value')
    (same : value.field = value'.field) : value = value' := by
  obtain ⟨draft, records, -⟩ := faultless.exists_draft ""
  have found := (records value).mpr has
  rw [same, (records value').mpr has'] at found
  exact (Option.some.inj found).symm

theorem WellShaped.exists_kind_path (shaped : WellShaped document pairs) :
    (∃ kind, Has document pairs (.kind kind)) ∧ ∃ path, Has document pairs (.path path) := by
  obtain ⟨pair, member, names⟩ := shaped.kind
  obtain ⟨pair', member', names'⟩ := shaped.path
  constructor
  · obtain ⟨value, isKind, converts⟩ := shaped.converts pair member .kind names
    cases value with
    | kind kind => exact ⟨kind, pair, member, names, converts⟩
    | _ => cases isKind
  · obtain ⟨value, isPath, converts⟩ := shaped.converts pair' member' .path names'
    cases value with
    | path path => exact ⟨path, pair', member', names', converts⟩
    | _ => cases isPath

/-- Reading the pairs of a section. -/
def readPairs (document : Document) (location : String) (pairs : List (Node × Node)) :
    Except DocumentError Section :=
  readFields document location pairs Draft.empty >>= fun draft => draft.finish location

theorem readPairs_of_wellShaped (shaped : WellShaped document pairs) (location : String) :
    ∃ raw, Collects (Has document pairs) raw ∧ readPairs document location pairs = .ok raw := by
  obtain ⟨draft, records, read⟩ := shaped.toFaultless.exists_draft location
  obtain ⟨⟨kind, hasKind⟩, path, hasPath⟩ := shaped.exists_kind_path
  have isKind := records.kind_iff.mpr hasKind
  have isPath := records.path_iff.mpr hasPath
  refine ⟨_, records.collects isKind isPath, ?_⟩
  have whole := read []
  rw [List.append_nil] at whole
  rw [readPairs, whole]
  change draft.finish location = _
  rw [Draft.finish, isKind, isPath]

/-- The first pair that offends is the fault, whatever follows it. -/
theorem readPairs_of_offends (faultless : Faultless document front)
    (offends : Offends document location front pair fault) (rest : List (Node × Node)) :
    readPairs document location (front ++ pair :: rest) = .error fault := by
  obtain ⟨draft, records, read⟩ := faultless.exists_draft location
  rw [readPairs, read, readFields_of_offends records faultless offends]
  rfl

/-- Without an offence only the kind or the path may be missing. -/
theorem readPairs_of_lacks (faultless : Faultless document pairs)
    (lacks : Lacks document location pairs fault) :
    readPairs document location pairs = .error fault := by
  obtain ⟨draft, records, read⟩ := faultless.exists_draft location
  have whole := read []
  have missing : ∀ field : Field, (∀ pair ∈ pairs, ¬ Names document pair.1 field.name) →
      draft.has field = false := by
    intro field unnamed
    exact Bool.eq_false_iff.mpr (records.not_has faultless unnamed)
  rw [List.append_nil] at whole
  rw [readPairs, whole]
  change draft.finish location = _
  rw [Draft.finish]
  cases lacks with
  | kind unnamed =>
      have none : draft.kind = none := by simpa [Draft.has] using missing .kind unnamed
      rw [none]
  | path named unnamed =>
      have none : draft.path = none := by simpa [Draft.has] using missing .path unnamed
      have some : draft.has .kind = true := (records.has_iff faultless).mpr named
      obtain ⟨kind, isKind⟩ := Option.isSome_iff_exists.mp some
      rw [none, isKind]

theorem Faultless.wellShaped_or_lacks (faultless : Faultless document pairs) (location : String) :
    WellShaped document pairs ∨ ∃ fault, Lacks document location pairs fault := by
  by_cases kind : ∃ pair ∈ pairs, Names document pair.1 "kind"
  · by_cases path : ∃ pair ∈ pairs, Names document pair.1 "path"
    · exact .inl ⟨faultless, kind, path⟩
    · refine .inr ⟨_, .path kind ?_⟩
      intro pair member names
      exact path ⟨pair, member, names⟩
  · refine .inr ⟨_, .kind ?_⟩
    intro pair member names
    exact kind ⟨pair, member, names⟩

theorem readPairs_eq_ok_iff :
    readPairs document location pairs = .ok raw ↔
      WellShaped document pairs ∧ Collects (Has document pairs) raw := by
  constructor
  · intro read
    rcases faultless_or_offends document location pairs with faultless | offence
    · rcases faultless.wellShaped_or_lacks location with shaped | ⟨fault, lacks⟩
      · obtain ⟨found, collects, read'⟩ := readPairs_of_wellShaped shaped location
        rw [read'] at read
        cases read
        exact ⟨shaped, collects⟩
      · rw [readPairs_of_lacks faultless lacks] at read
        cases read
    · obtain ⟨front, pair, rest, fault, rfl, faultless, offends⟩ := offence
      rw [readPairs_of_offends faultless offends] at read
      cases read
  · rintro ⟨shaped, collects⟩
    obtain ⟨found, collects', read⟩ := readPairs_of_wellShaped shaped location
    rw [read, collects'.eq collects fun value value' => shaped.toFaultless.has_unique]

/-! ## Documents -/

/-- What becomes of a document. -/
def outcome (document : Document) : Except StreamError Config :=
  match Section.ofDocument document with
  | .error fault => .error (.configDocument fault)
  | .ok raw => raw.validate.mapError .validation

theorem loadText_eq (text : String) : loadText text = outcome (Document.read text) := by
  rw [loadText, outcome]
  cases Section.ofDocument (Document.read text) with
  | error fault => rfl
  | ok raw =>
      dsimp only
      cases raw.validate <;> rfl

theorem ofDocument_eq (presents : Presents document location pairs) :
    Section.ofDocument document = readPairs document location pairs := by
  obtain ⟨rootTag, key, value, tag, root, names, isMapping, rfl⟩ := presents.tree
  have section_eq : readSection document (valueLocation "" key "transport")
      (document.resolve value) =
        readPairs document (valueLocation "" key "transport") pairs := by
    rw [isMapping]
    rfl
  rw [Section.ofDocument, root]
  change readRoot document [(key, value)] none >>= _ = _
  rw [readRoot, readKey_eq_ok_iff.mpr names]
  change (readSection document (valueLocation "" key "transport") (document.resolve value) >>= _)
    >>= _ = _
  rw [section_eq]
  cases readPairs document (valueLocation "" key "transport") pairs with
  | error fault => rfl
  | ok raw =>
      change (if document.complete = true then _ else _) = _
      rw [if_pos presents.complete]
      rfl

/-! ## Permutations -/

section Permuted

variable (same : document'.targets = document.targets)
include same

/-- What its aliases stand for is all that a document adds to its pairs. -/
theorem resolve_congr (node : Node) : document'.resolve node = document.resolve node := by
  cases node <;> simp [Document.resolve, same]

theorem names_congr : Names document' key name ↔ Names document key name := by
  rw [Names, Names, resolve_congr same]

theorem Converts.congr {node : Node} (converts : Converts document node value) :
    Converts document' node value := by
  cases converts with
  | kind _ kind names => exact .kind node kind names
  | path _ text isText => exact .path node text isText
  | noMode _ absent => exact .noMode node absent
  | mode scalar present => exact .mode scalar present
  | noCapacity _ absent => exact .noCapacity node absent
  | capacity scalar size present denotes => exact .capacity scalar size present denotes
  | voidFlags => exact .voidFlags
  | emptyFlags scalar plain empty => exact .emptyFlags scalar plain empty
  | flags tag items texts read =>
      apply Converts.flags
      simpa only [resolve_congr same] using read

theorem Gives.congr (gives : Gives document pair value) : Gives document' pair value where
  names := (names_congr same).mpr gives.names
  converts := by
    rw [resolve_congr same]
    exact gives.converts.congr same

theorem Has.permuted (permuted : pairs'.Perm pairs) (has : Has document pairs value) :
    Has document' pairs' value := by
  obtain ⟨pair, member, gives⟩ := has
  exact ⟨pair, permuted.mem_iff.mpr member, gives.congr same⟩

theorem WellShaped.permuted (permuted : pairs'.Perm pairs) (shaped : WellShaped document pairs) :
    WellShaped document' pairs' := by
  refine ⟨⟨?_, ?_, ?_⟩, ?_, ?_⟩
  · intro pair member
    simpa only [names_congr same] using shaped.known pair (permuted.mem_iff.mp member)
  · simp only [names_congr same]
    refine (permuted.pairwise_iff ?_).mpr shaped.distinct
    intro first second apart name names names'
    exact apart name names' names
  · intro pair member field names
    obtain ⟨value, isField, converts⟩ := shaped.converts pair (permuted.mem_iff.mp member) field
      ((names_congr same).mp names)
    refine ⟨value, isField, ?_⟩
    rw [resolve_congr same]
    exact converts.congr same
  · obtain ⟨pair, member, names⟩ := shaped.kind
    exact ⟨pair, permuted.mem_iff.mpr member, (names_congr same).mpr names⟩
  · obtain ⟨pair, member, names⟩ := shaped.path
    exact ⟨pair, permuted.mem_iff.mpr member, (names_congr same).mpr names⟩

end Permuted

/-- The values decide what becomes of a document whose pairs make up a section. -/
theorem outcome_eq_of_has_iff {location' : String} (presents : Presents document location pairs)
    (presents' : Presents document' location' pairs') (shaped : WellShaped document pairs)
    (shaped' : WellShaped document' pairs')
    (sameValues : ∀ value, Has document' pairs' value ↔ Has document pairs value) :
    outcome document' = outcome document := by
  obtain ⟨raw, collects, read⟩ := readPairs_of_wellShaped shaped location
  have collects' : Collects (Has document' pairs') raw := by
    rwa [show Has document' pairs' = Has document pairs from funext fun value =>
      propext (sameValues value)]
  have read' : readPairs document' location' pairs' = .ok raw :=
    readPairs_eq_ok_iff.mpr ⟨shaped', collects'⟩
  rw [outcome, outcome, ofDocument_eq presents, ofDocument_eq presents', read, read']

/-- A document with one mapping of pairs under the key `transport` is read as a section exactly
when each pair names a field of its own and has a value of its type, and the kind and the path
are there; the section collects the values.  The order of the pairs does not matter then, nor
anything else but their values.  If some pair offends, the first one is the fault, whatever
follows it; only if none does, a field may be missing. -/
theorem loadText_verdict (presents : Presents document location pairs) :
    (∀ text, Document.read text = document → loadText text = outcome document) ∧
    ((∃ raw, Section.ofDocument document = .ok raw) ↔ WellShaped document pairs) ∧
    (∀ raw, Section.ofDocument document = .ok raw ↔
      WellShaped document pairs ∧ Collects (Has document pairs) raw) ∧
    (∀ document' location' pairs', Presents document' location' pairs' →
      WellShaped document pairs → WellShaped document' pairs' →
      (∀ value, Has document' pairs' value ↔ Has document pairs value) →
      outcome document' = outcome document) ∧
    (∀ document' location' pairs', Presents document' location' pairs' →
      document'.targets = document.targets → pairs'.Perm pairs → WellShaped document pairs →
      WellShaped document' pairs' ∧ outcome document' = outcome document) ∧
    (∀ front pair rest fault, pairs = front ++ pair :: rest → Faultless document front →
      Offends document location front pair fault →
      outcome document = .error (.configDocument fault)) ∧
    (¬ Faultless document pairs → ∃ front pair rest fault, pairs = front ++ pair :: rest ∧
      Faultless document front ∧ Offends document location front pair fault) ∧
    ∀ fault, Faultless document pairs → Lacks document location pairs fault →
      outcome document = .error (.configDocument fault) := by
  have read := ofDocument_eq presents
  refine ⟨?_, ?_, ?_, ?_, ?_, ?_, ?_, ?_⟩
  · rintro text rfl
    exact loadText_eq text
  · constructor
    · rintro ⟨raw, found⟩
      exact (readPairs_eq_ok_iff.mp (read ▸ found)).1
    · intro shaped
      obtain ⟨raw, -, found⟩ := readPairs_of_wellShaped shaped location
      exact ⟨raw, read ▸ found⟩
  · intro raw
    rw [read]
    exact readPairs_eq_ok_iff
  · intro document' location' pairs' presents' shaped shaped' sameValues
    exact outcome_eq_of_has_iff presents presents' shaped shaped' sameValues
  · intro document' location' pairs' presents' same permuted shaped
    have shaped' := shaped.permuted same permuted
    refine ⟨shaped', outcome_eq_of_has_iff presents presents' shaped shaped' fun value => ?_⟩
    exact ⟨Has.permuted same.symm permuted.symm, Has.permuted same permuted⟩
  · rintro front pair rest fault rfl faultless offends
    rw [outcome, read, readPairs_of_offends faultless offends]
  · intro faulty
    exact (faultless_or_offends document location pairs).resolve_left faulty
  · intro fault faultless lacks
    rw [outcome, read, readPairs_of_lacks faultless lacks]

/-- A plain scalar without a tag. -/
def plainNode (text : String) : Node := .scalar ⟨none, .plain, text⟩

/-- Pairs of which the second one offends first. -/
def colouredPairs : List (Node × Node) :=
  [(plainNode "kind", plainNode "shared_memory"), (plainNode "colour", plainNode "red"),
    (plainNode "path", plainNode "p"), (plainNode "kind", plainNode "tcp")]

def colouredDocument : Document :=
  ⟨.mapping none [(plainNode "transport", .mapping none colouredPairs)], [], true⟩

def colouredText : String :=
  "transport:\n  kind: shared_memory\n  colour: red\n  path: p\n  kind: tcp\n"

theorem read_colouredText : Document.read colouredText = colouredDocument := by
  have scanned : Token.scan colouredText.toList =
      [.blockMappingStart, .key, .scalar .plain "transport", .value, .blockMappingStart,
        .key, .scalar .plain "kind", .value, .scalar .plain "shared_memory",
        .key, .scalar .plain "colour", .value, .scalar .plain "red",
        .key, .scalar .plain "path", .value, .scalar .plain "p",
        .key, .scalar .plain "kind", .value, .scalar .plain "tcp",
        .blockEnd, .blockEnd, .streamEnd] := by
    decide +kernel
  rw [Document.read, scanned]
  rfl

/-- The unknown key is the fault, although the kind comes again, is not one then, and the
capacity is missing. -/
theorem loadText_verdict_of_unknown_key :
    Presents colouredDocument "transport" colouredPairs ∧
      loadText colouredText =
        .error (.configDocument
          (unknownField "transport" "colour" ["kind", "path", "mode", "capacity", "flags"])) := by
  have presents : Presents colouredDocument "transport" colouredPairs :=
    ⟨⟨none, plainNode "transport", .mapping none colouredPairs, none, rfl, ⟨_, rfl, rfl⟩, rfl, rfl⟩,
      rfl⟩
  have named : Names colouredDocument (plainNode "kind") "kind" := ⟨_, rfl, rfl⟩
  have gives : Gives colouredDocument (plainNode "kind", plainNode "shared_memory")
      (.kind .sharedMemory) :=
    ⟨named, .kind _ _ (.text _ _ nofun rfl)⟩
  have empty : Faultless colouredDocument [] := ⟨nofun, .nil, nofun⟩
  have faultless : Faultless colouredDocument [(plainNode "kind", plainNode "shared_memory")] :=
    empty.snoc gives nofun
  have offends : Offends colouredDocument "transport"
      [(plainNode "kind", plainNode "shared_memory")]
      (plainNode "colour", plainNode "red")
      (unknownField "transport" "colour" ["kind", "path", "mode", "capacity", "flags"]) :=
    .unknown _ _ "colour" ⟨_, rfl, rfl⟩ fun field => by cases field <;> decide
  obtain ⟨loads, -, -, -, -, refused, -⟩ := loadText_verdict presents
  exact ⟨presents, (loads _ read_colouredText).trans
    (refused _ _ _ _ rfl faultless offends)⟩

end Config

end BoundedStream
