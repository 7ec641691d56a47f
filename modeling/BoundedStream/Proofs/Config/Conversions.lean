import BoundedStream.Config.Document
import Mathlib.Data.List.Forall2

/-!
# Values of the fields of a section

Each field of a transport section has a type, and the node of a document is converted to it: the
name of a backend, a text, a text or nothing, a size or nothing, a list of texts.  The reader of
a field answers exactly with the value to which its node is converted.
-/

namespace BoundedStream

namespace Config

open Yaml

/-- The value of a field of a section. -/
inductive FieldValue where
  | kind (kind : TransportKind)
  | path (path : String)
  | mode (mode : Option String)
  | capacity (capacity : Option Nat)
  | flags (flags : List String)
deriving DecidableEq

def FieldValue.field : FieldValue → Field
  | kind _ => .kind
  | path _ => .path
  | mode _ => .mode
  | capacity _ => .capacity
  | flags _ => .flags

/-! ## Conversions -/

/-- Nothing is written, or a plain word for nothing. -/
def IsNothing (scalar : Scalar) : Prop :=
  scalar.style = .plain ∧ (scalar.text = "" ∨ Value.isNullWord scalar.text = true)

/-- The nodes that stand for no value: a tag for nothing asks for one of the words for nothing,
and under any other tag those words are texts. -/
inductive Absent : Node → Prop
  | void : Absent .void
  | untagged (scalar : Scalar) (untagged : scalar.tag = none) (nothing : IsNothing scalar) :
      Absent (.scalar scalar)
  | nullTag (scalar : Scalar) (plain : scalar.style = .plain)
      (tagged : scalar.tag = some (basicTag "null"))
      (word : Value.isNullWord scalar.text = true) : Absent (.scalar scalar)
  | otherTag (scalar : Scalar) (tag : String) (plain : scalar.style = .plain)
      (tagged : scalar.tag = some tag) (other : tag ≠ basicTag "null")
      (empty : scalar.text = "") : Absent (.scalar scalar)

/-- The scalars that stand for a value where there may be none. -/
inductive Present (scalar : Scalar) : Prop
  | quoted (styled : scalar.style ≠ .plain)
  | untagged (untagged : scalar.tag = none) (something : ¬ IsNothing scalar)
  | tagged (tag : String) (tagged : scalar.tag = some tag) (other : tag ≠ basicTag "null")
      (nonempty : scalar.text ≠ "")

/-- A backend is named by a text, or by a tag of its own before nothing. -/
inductive NamesKind : Node → TransportKind → Prop
  | text (scalar : Scalar) (kind : TransportKind)
      (untagged : ∀ name, scalar.tag ≠ some ("!" ++ name)) (named : scalar.text = kind.text) :
      NamesKind (.scalar scalar) kind
  | tag (scalar : Scalar) (kind : TransportKind) (tagged : scalar.tag = some ("!" ++ kind.text))
      (nothing : IsNothing scalar) : NamesKind (.scalar scalar) kind

/-- A plain integer of 64 bits, or a literal block that is tagged as an integer. -/
structure DenotesSize (scalar : Scalar) (size : Nat) : Prop where
  style : scalar.style = .plain ∨
    scalar.style = .literal ∧ scalar.tag = some (basicTag "int")
  number : Value.unsigned? (1 <<< 64) scalar.text.toList = some size

/-- A node is a scalar with a text. -/
def HasText (node : Node) (text : String) : Prop :=
  ∃ scalar, node = .scalar scalar ∧ scalar.text = text

/-- A node is converted to a value of the type of a field. -/
inductive Converts (document : Document) : Node → FieldValue → Prop
  | kind (node : Node) (kind : TransportKind) (names : NamesKind node kind) :
      Converts document node (.kind kind)
  | path (node : Node) (text : String) (isText : HasText node text) :
      Converts document node (.path text)
  | noMode (node : Node) (absent : Absent node) : Converts document node (.mode none)
  | mode (scalar : Scalar) (present : Present scalar) :
      Converts document (.scalar scalar) (.mode (some scalar.text))
  | noCapacity (node : Node) (absent : Absent node) : Converts document node (.capacity none)
  | capacity (scalar : Scalar) (size : Nat) (present : Present scalar)
      (denotes : DenotesSize scalar size) :
      Converts document (.scalar scalar) (.capacity (some size))
  | voidFlags : Converts document .void (.flags [])
  | emptyFlags (scalar : Scalar) (plain : scalar.style = .plain) (empty : scalar.text = "") :
      Converts document (.scalar scalar) (.flags [])
  | flags (tag : Option String) (items : List Node) (texts : List String)
      (read : List.Forall₂ (fun item text => HasText (document.resolve item) text) items texts) :
      Converts document (.sequence tag items) (.flags texts)

/-- Read the value of a field, which stands at a place in its parent. -/
def Field.convert (document : Document) (parent location : String) (node : Node) :
    Field → Except DocumentError FieldValue
  | kind => (readKind parent location node).map .kind
  | path => (readText location "a string" node).map .path
  | mode => (readOptional parent (readText location "a string") node).map .mode
  | capacity => (readOptional parent (readSize location) node).map .capacity
  | flags => (readTexts document location node).map .flags

variable {document : Document} {parent location wanted text : String} {node : Node}
  {scalar : Scalar} {size : Nat} {kind : TransportKind}

/-! ## Texts, sizes and nothing -/

theorem readText_eq_ok_iff : readText location wanted node = .ok text ↔ HasText node text := by
  cases node <;> simp [readText, HasText]

theorem readText_of_no_text (unscalar : ∀ text, ¬ HasText node text) :
    readText location wanted node = .error (invalidType location node wanted) := by
  cases node with
  | scalar scalar => exact absurd ⟨scalar, rfl, rfl⟩ (unscalar scalar.text)
  | _ => rfl

/-- A scalar that may be a number is read as one. -/
theorem readSize_scalar (scalar : Scalar) (location : String) :
    readSize location (.scalar scalar) =
      match if scalar.style = .plain ∨
            scalar.style = .literal ∧ scalar.tag = some (basicTag "int") then
          Value.unsigned? (1 <<< 64) scalar.text.toList else none with
      | some size => .ok size
      | none => .error (invalidType location (.scalar scalar) "usize") := by
  have style : (scalar.style == .plain ||
      (scalar.style == .literal && scalar.tag == some (basicTag "int"))) = true ↔
        scalar.style = .plain ∨ scalar.style = .literal ∧ scalar.tag = some (basicTag "int") := by
    simp only [Bool.or_eq_true, Bool.and_eq_true, beq_iff_eq]
  rw [← if_congr style rfl rfl]
  rfl

theorem readSize_eq_ok_iff :
    readSize location node = .ok size ↔
      ∃ scalar, node = .scalar scalar ∧ DenotesSize scalar size := by
  constructor
  · intro read
    cases node with
    | scalar scalar =>
        rw [readSize_scalar] at read
        split at read
        · rename_i number found
          cases read
          obtain ⟨style, number⟩ := (Option.ite_none_right_eq_some).mp found
          exact ⟨scalar, rfl, style, number⟩
        · cases read
    | _ => cases read
  · rintro ⟨scalar, rfl, style, number⟩
    rw [readSize_scalar, if_pos style, number]

theorem isAbsent_of_absent (absent : Absent node) : isAbsent parent node = .ok true := by
  cases absent with
  | void => rfl
  | untagged scalar untagged nothing =>
      rw [isAbsent, if_neg (not_not.mpr nothing.1), untagged]
      simpa using nothing.2
  | nullTag scalar plain tagged word =>
      rw [isAbsent, if_neg (not_not.mpr plain), tagged]
      simp [word]
  | otherTag scalar tag plain tagged other empty =>
      rw [isAbsent, if_neg (not_not.mpr plain), tagged]
      simp [other, empty]

theorem isAbsent_of_present (present : Present scalar) :
    isAbsent parent (.scalar scalar) = .ok false := by
  by_cases styled : scalar.style ≠ .plain
  · rw [isAbsent, if_pos styled]
  · rw [isAbsent, if_neg styled]
    have plain : scalar.style = .plain := not_not.mp styled
    cases present with
    | quoted styled' => exact absurd styled' styled
    | untagged untagged something =>
        rw [untagged]
        simpa [IsNothing, plain] using something
    | tagged tag tagged other nonempty =>
        rw [tagged]
        simpa [other] using nonempty

/-- A scalar is absent, present, or tagged as nothing without being so. -/
theorem absent_or_present (scalar : Scalar) :
    Absent (.scalar scalar) ∨ Present scalar ∨
      ∀ parent, isAbsent parent (.scalar scalar) =
        .error (invalidValue parent scalar.text "null") := by
  by_cases plain : scalar.style = .plain
  · cases tagged : scalar.tag with
    | none =>
        by_cases nothing : IsNothing scalar
        · exact .inl (.untagged scalar tagged nothing)
        · exact .inr (.inl (.untagged tagged nothing))
    | some tag =>
        by_cases null : tag = basicTag "null"
        · subst null
          by_cases word : Value.isNullWord scalar.text = true
          · exact .inl (.nullTag scalar plain tagged word)
          · refine .inr (.inr fun parent => ?_)
            rw [isAbsent, if_neg (not_not.mpr plain), tagged]
            simp [word]
        · by_cases empty : scalar.text = ""
          · exact .inl (.otherTag scalar tag plain tagged null empty)
          · exact .inr (.inl (.tagged tag tagged null empty))
  · exact .inr (.inl (.quoted plain))

theorem absent_of_isAbsent (absent : isAbsent parent node = .ok true) : Absent node := by
  cases node with
  | void => exact .void
  | scalar scalar =>
      rcases absent_or_present scalar with absent' | present | misnamed
      · exact absent'
      · rw [isAbsent_of_present present] at absent
        cases absent
      · rw [misnamed parent] at absent
        cases absent
  | _ => cases absent

theorem present_of_isAbsent (present : isAbsent parent (.scalar scalar) = .ok false) :
    Present scalar := by
  rcases absent_or_present scalar with absent | present' | misnamed
  · rw [isAbsent_of_absent absent] at present
    cases present
  · exact present'
  · rw [misnamed parent] at present
    cases present

/-- Of a value that may be missing, and that only scalars stand for, nothing is read or what its
reader finds. -/
theorem readOptional_eq_ok_iff {α : Type} {read : Node → Except DocumentError α}
    {found : Option α} (ofScalar : ∀ {value}, read node = .ok value →
      ∃ scalar, node = .scalar scalar) :
    readOptional parent read node = .ok found ↔
      Absent node ∧ found = none ∨
        ∃ scalar value, node = .scalar scalar ∧ Present scalar ∧
          read node = .ok value ∧ found = some value := by
  constructor
  · intro result
    rw [readOptional] at result
    cases absence : isAbsent parent node with
    | error fault =>
        rw [absence] at result
        cases result
    | ok absent =>
        rw [absence] at result
        cases absent with
        | true =>
            cases result
            exact .inl ⟨absent_of_isAbsent absence, rfl⟩
        | false =>
            cases answer : read node with
            | error fault =>
                change read node >>= _ = _ at result
                rw [answer] at result
                cases result
            | ok value =>
                obtain ⟨scalar, rfl⟩ := ofScalar answer
                change (read (.scalar scalar)).map some = _ at result
                rw [answer] at result
                cases result
                exact .inr ⟨scalar, value, rfl, present_of_isAbsent absence, rfl, rfl⟩
  · rintro (⟨absent, rfl⟩ | ⟨scalar, value, rfl, present, answer, rfl⟩)
    · rw [readOptional, isAbsent_of_absent absent]
      rfl
    · rw [readOptional, isAbsent_of_present present]
      change (read (.scalar scalar)).map some = _
      rw [answer]
      rfl

/-! ## Lists of texts -/

theorem readItems_eq_ok_iff {items : List Node} {texts : List String} {index : Nat} :
    readItems document location index items = .ok texts ↔
      List.Forall₂ (fun item text => HasText (document.resolve item) text) items texts := by
  induction items generalizing texts index with
  | nil => simp [readItems, eq_comm]
  | cons item items ih =>
      rw [readItems, List.forall₂_cons_left_iff]
      constructor
      · intro read
        cases first : readText (location ++ "[" ++ toString index ++ "]") "a string"
            (document.resolve item) with
        | error fault =>
            rw [first] at read
            cases read
        | ok text =>
            rw [first] at read
            cases others : readItems document location (index + 1) items with
            | error fault =>
                dsimp only [bind, Except.bind] at read
                rw [others] at read
                cases read
            | ok rest =>
                dsimp only [bind, Except.bind] at read
                rw [others] at read
                cases read
                exact ⟨text, rest, readText_eq_ok_iff.mp first, ih.mp others, rfl⟩
      · rintro ⟨text, rest, isText, others, rfl⟩
        rw [readText_eq_ok_iff.mpr isText]
        dsimp only [bind, Except.bind]
        rw [ih.mpr others]
        rfl

theorem readTexts_eq_ok_iff {texts : List String} :
    readTexts document location node = .ok texts ↔ Converts document node (.flags texts) := by
  constructor
  · intro read
    cases node with
    | void =>
        cases read
        exact .voidFlags
    | sequence tag items => exact .flags tag items texts (readItems_eq_ok_iff.mp read)
    | scalar scalar =>
        unfold readTexts at read
        dsimp only at read
        split at read
        · rename_i blank
          cases read
          simp only [Scalar.isBlank, Bool.and_eq_true, String.isEmpty_iff, beq_iff_eq] at blank
          exact .emptyFlags scalar blank.2 blank.1
        · cases read
    | _ => cases read
  · intro converts
    cases converts with
    | voidFlags => rfl
    | emptyFlags scalar plain empty =>
        rw [readTexts, if_pos]
        simp [Scalar.isBlank, plain, empty]
    | flags tag items texts read => exact readItems_eq_ok_iff.mpr read

/-! ## Backends -/

theorem ofText?_eq_some_iff {name : String} :
    TransportKind.ofText? name = some kind ↔ name = kind.text := by
  constructor
  · intro named
    unfold TransportKind.ofText? at named
    split at named
    · rename_i isPipe
      cases named
      exact isPipe
    · split at named
      · rename_i isShared
        cases named
        exact isShared
      · cases named
  · rintro rfl
    exact TransportKind.ofText?_text kind

theorem ownTag?_eq_some_iff {tag : Option String} {name : String} :
    ownTag? tag = some name ↔ tag = some ("!" ++ name) := by
  cases tag with
  | none => simp [ownTag?]
  | some tag =>
      have spelled : tag = "!" ++ name ↔ tag.toList = '!' :: name.toList := by
        rw [← String.toList_inj, String.toList_append]
        rfl
      rw [ownTag?, Option.map_some, Option.some.injEq, spelled]
      split
      · rename_i own _ same
        rw [Option.some.inj same, Option.some.injEq, ← String.toList_inj, String.toList_ofList]
        simp
      · rename_i unmarked
        constructor
        · rintro ⟨⟩
        · intro marked
          exact absurd (congrArg some marked) (unmarked name.toList)

theorem readKindName_eq_ok_iff {name : String} (location : String) :
    readKindName location name = .ok kind ↔ name = kind.text := by
  rw [← ofText?_eq_some_iff, readKindName]
  cases TransportKind.ofText? name <;> simp

theorem readNothing_eq_ok_iff (location : String) :
    readNothing location (.scalar scalar) = .ok () ↔ IsNothing scalar := by
  by_cases empty : scalar.text = "" <;> simp [readNothing, IsNothing, empty]

/-- Behind a tag of its own only nothing may stand. -/
theorem readKind_of_ownTag {name : String} (tagged : scalar.tag = some ("!" ++ name)) :
    readKind parent location (.scalar scalar) = .ok kind ↔
      name = kind.text ∧ IsNothing scalar := by
  rw [readKind, ownTag?_eq_some_iff.mpr tagged, ← readKindName_eq_ok_iff parent,
    ← readNothing_eq_ok_iff location]
  dsimp only [bind, Except.bind]
  cases readKindName parent name with
  | error fault => simp
  | ok named => cases readNothing location (.scalar scalar) <;> simp [pure, Except.pure]

theorem readKind_of_text (untagged : ∀ name, scalar.tag ≠ some ("!" ++ name)) :
    readKind parent location (.scalar scalar) = .ok kind ↔ scalar.text = kind.text := by
  have noName : ownTag? scalar.tag = none := by
    cases own : ownTag? scalar.tag with
    | none => rfl
    | some name => exact absurd (ownTag?_eq_some_iff.mp own) (untagged name)
  rw [readKind, noName]
  exact readKindName_eq_ok_iff location

/-- Collections name no backend, whatever their tag is. -/
theorem readKind_ne_ok (unscalar : ∀ scalar, node ≠ .scalar scalar) :
    readKind parent location node ≠ .ok kind := by
  cases node with
  | scalar scalar => exact absurd rfl (unscalar scalar)
  | mapping tag pairs =>
      cases own : ownTag? tag with
      | none =>
          rw [readKind, own]
          exact nofun
      | some name =>
          rw [readKind, own]
          dsimp only [bind, Except.bind]
          cases readKindName parent name <;> exact nofun
  | sequence tag items =>
      cases own : ownTag? tag with
      | none =>
          rw [readKind, own]
          exact nofun
      | some name =>
          rw [readKind, own]
          dsimp only [bind, Except.bind]
          cases readKindName parent name <;> exact nofun
  | _ => exact nofun

theorem readKind_eq_ok_iff : readKind parent location node = .ok kind ↔ NamesKind node kind := by
  cases node with
  | scalar scalar =>
      by_cases owned : ∃ name, scalar.tag = some ("!" ++ name)
      · obtain ⟨name, tagged⟩ := owned
        rw [readKind_of_ownTag tagged]
        constructor
        · rintro ⟨rfl, nothing⟩
          exact .tag scalar kind tagged nothing
        · intro names
          cases names with
          | text _ _ untagged _ => exact absurd tagged (untagged name)
          | tag _ _ tagged' nothing =>
              have own := ownTag?_eq_some_iff.mpr tagged'
              rw [ownTag?_eq_some_iff.mpr tagged] at own
              exact ⟨Option.some.inj own, nothing⟩
      · have untagged : ∀ name, scalar.tag ≠ some ("!" ++ name) := not_exists.mp owned
        rw [readKind_of_text untagged]
        constructor
        · exact .text scalar kind untagged
        · intro names
          cases names with
          | text _ _ _ named => exact named
          | tag _ _ tagged _ => exact absurd tagged (untagged kind.text)
  | _ =>
      -- Nothing else is read, whatever its tag is.
      constructor
      · intro read
        exact absurd read (readKind_ne_ok nofun)
      · rintro ⟨⟩

/-! ## Fields -/

theorem map_eq_ok_iff {α β : Type} {make : α → β} {answer : Except DocumentError α} {made : β} :
    answer.map make = .ok made ↔ ∃ value, answer = .ok value ∧ make value = made := by
  cases answer <;> simp [Except.map]

/-- The reader of a field answers with the value to which the node is converted. -/
theorem convert_eq_ok_iff {field : Field} {value : FieldValue} :
    field.convert document parent location node = .ok value ↔
      value.field = field ∧ Converts document node value := by
  cases field with
  | kind =>
      rw [Field.convert, map_eq_ok_iff]
      constructor
      · rintro ⟨kind, read, rfl⟩
        exact ⟨rfl, .kind node kind (readKind_eq_ok_iff.mp read)⟩
      · rintro ⟨isKind, converts⟩
        cases converts with
        | kind _ kind names => exact ⟨kind, readKind_eq_ok_iff.mpr names, rfl⟩
        | _ => cases isKind
  | path =>
      rw [Field.convert, map_eq_ok_iff]
      constructor
      · rintro ⟨text, read, rfl⟩
        exact ⟨rfl, .path node text (readText_eq_ok_iff.mp read)⟩
      · rintro ⟨isPath, converts⟩
        cases converts with
        | path _ text isText => exact ⟨text, readText_eq_ok_iff.mpr isText, rfl⟩
        | _ => cases isPath
  | mode =>
      have ofScalar : ∀ {text}, readText location "a string" node = .ok text →
          ∃ scalar, node = .scalar scalar := by
        intro text read
        obtain ⟨scalar, isScalar, -⟩ := readText_eq_ok_iff.mp read
        exact ⟨scalar, isScalar⟩
      rw [Field.convert, map_eq_ok_iff]
      simp only [readOptional_eq_ok_iff ofScalar, readText_eq_ok_iff]
      constructor
      · rintro ⟨found, ⟨absent, rfl⟩ | ⟨scalar, text, rfl, present, ⟨_, ⟨⟩, rfl⟩, rfl⟩, rfl⟩
        · exact ⟨rfl, .noMode node absent⟩
        · exact ⟨rfl, .mode scalar present⟩
      · rintro ⟨isMode, converts⟩
        cases converts with
        | noMode _ absent => exact ⟨none, .inl ⟨absent, rfl⟩, rfl⟩
        | mode scalar present =>
            exact ⟨_, .inr ⟨scalar, _, rfl, present, ⟨scalar, rfl, rfl⟩, rfl⟩, rfl⟩
        | _ => cases isMode
  | capacity =>
      have ofScalar : ∀ {size}, readSize location node = .ok size →
          ∃ scalar, node = .scalar scalar := by
        intro size read
        obtain ⟨scalar, isScalar, -⟩ := readSize_eq_ok_iff.mp read
        exact ⟨scalar, isScalar⟩
      rw [Field.convert, map_eq_ok_iff]
      simp only [readOptional_eq_ok_iff ofScalar, readSize_eq_ok_iff]
      constructor
      · rintro ⟨found, ⟨absent, rfl⟩ | ⟨scalar, size, rfl, present, ⟨_, ⟨⟩, denotes⟩, rfl⟩, rfl⟩
        · exact ⟨rfl, .noCapacity node absent⟩
        · exact ⟨rfl, .capacity scalar size present denotes⟩
      · rintro ⟨isCapacity, converts⟩
        cases converts with
        | noCapacity _ absent => exact ⟨none, .inl ⟨absent, rfl⟩, rfl⟩
        | capacity scalar size present denotes =>
            exact ⟨_, .inr ⟨scalar, size, rfl, present, ⟨scalar, rfl, denotes⟩, rfl⟩, rfl⟩
        | _ => cases isCapacity
  | flags =>
      rw [Field.convert, map_eq_ok_iff]
      constructor
      · rintro ⟨texts, read, rfl⟩
        exact ⟨rfl, readTexts_eq_ok_iff.mp read⟩
      · rintro ⟨isFlags, converts⟩
        cases value with
        | flags texts => exact ⟨texts, readTexts_eq_ok_iff.mpr converts, rfl⟩
        | _ => cases isFlags

/-- A node is converted to one value of a field. -/
theorem Converts.unique {value value' : FieldValue} (converts : Converts document node value)
    (converts' : Converts document node value') (same : value.field = value'.field) :
    value = value' := by
  have read : value'.field.convert document "" "" node = .ok value :=
    convert_eq_ok_iff.mpr ⟨same, converts⟩
  rw [convert_eq_ok_iff.mpr ⟨rfl, converts'⟩] at read
  exact (Except.ok.inj read).symm

end Config

end BoundedStream
