import Mathlib.Data.List.Forall2
import FluentAssert.Canonical

/-! Equality of values. It goes both ways, and a value equals itself unless there is a NaN inside.
-/
namespace FluentAssert

theorem exists_of_forall₂ {α β : Type} {R : α → β → Prop} {items : List α} {others : List β}
    (related : List.Forall₂ R items others) {other : β} (inside : other ∈ others) :
    ∃ item ∈ items, R item other := by
  induction related with
  | nil => cases inside
  | cons first _ ih =>
    rcases List.mem_cons.mp inside with rfl | later
    · exact ⟨_, List.mem_cons_self, first⟩
    · obtain ⟨item, member, second⟩ := ih later
      exact ⟨item, List.mem_cons_of_mem _ member, second⟩

theorem forall₂_trans {α : Type} {R : α → α → Prop} {items others thirds : List α}
    (step : ∀ third ∈ thirds, ∀ item other, R item other → R other third → R item third)
    (first : List.Forall₂ R items others) (second : List.Forall₂ R others thirds) :
    List.Forall₂ R items thirds := by
  induction second generalizing items with
  | nil => exact first
  | cons near _ ih =>
    cases first with
    | cons far rest =>
      obtain ⟨here, later⟩ := List.forall_mem_cons.mp step
      exact .cons (here _ _ far near) (ih later rest)

namespace Binary

variable {f : Format} {x y z : Binary f}

theorem equal_iff : x.equal y = true ↔ ∃ rank, x.rank = some rank ∧ y.rank = some rank := by
  unfold equal compareBy
  cases x.rank with
  | none => simp
  | some a =>
    cases y.rank with
    | none => simp
    | some b =>
      simp only [beq_iff_eq, Option.some.injEq]
      constructor
      · rintro rfl
        exact ⟨a, rfl, rfl⟩
      · rintro ⟨rank, rfl, rfl⟩
        rfl

theorem equal_comm (x y : Binary f) : x.equal y = y.equal x := by
  rw [Bool.eq_iff_iff, equal_iff, equal_iff]
  constructor
  · rintro ⟨rank, left, right⟩
    exact ⟨rank, right, left⟩
  · rintro ⟨rank, left, right⟩
    exact ⟨rank, right, left⟩

theorem equal_trans (first : x.equal y = true) (second : y.equal z = true) : x.equal z = true := by
  obtain ⟨rank, left, middle⟩ := equal_iff.mp first
  obtain ⟨rank', middle', right⟩ := equal_iff.mp second
  cases middle.symm.trans middle'
  exact equal_iff.mpr ⟨rank, left, right⟩

theorem equal_self (number : x ≠ nan) : x.equal x = true := by
  cases x with
  | nan => exact absurd rfl number
  | infinite negative => exact equal_iff.mpr ⟨_, rfl, rfl⟩
  | finite negative units fits => exact equal_iff.mpr ⟨_, rfl, rfl⟩

end Binary

namespace Canonical

/-- What holds of all scalars, and of a container if of everything in it, holds of all values. -/
@[elab_as_elim, induction_eliminator]
theorem induct {P : Canonical → Prop} (null : P null) (bool : ∀ b, P (bool b))
    (number : ∀ x, P (number x)) (text : ∀ s, P (text s))
    (array : ∀ items, (∀ item ∈ items, P item) → P (array items))
    (object : ∀ fields : Fields Canonical, (∀ field ∈ fields, P field.2) → P (object fields)) :
    ∀ value, P value
  | .null => null
  | .bool b => bool b
  | .number x => number x
  | .text s => text s
  | .array items => array items fun item _ => induct null bool number text array object item
  | .object fields => object fields fun field _ =>
      induct null bool number text array object field.2
decreasing_by
  · decreasing_tactic
  · rename_i inside
    have smaller := List.sizeOf_lt_of_mem inside
    cases field
    simp only [Prod.mk.sizeOf_spec, Canonical.object.sizeOf_spec] at smaller ⊢
    omega

/-- A part of a value: the whole, or a part of something in it. -/
inductive Part (part : Canonical) : Canonical → Prop where
  | whole : Part part part
  | item {items : List Canonical} {item : Canonical} :
    item ∈ items → Part part item → Part part (array items)
  | field {fields : Fields Canonical} {field : String × Canonical} :
    field ∈ fields → Part part field.2 → Part part (object fields)

def Throughout (P : Canonical → Prop) (value : Canonical) : Prop := ∀ part, Part part value → P part

def NaNFree : Canonical → Prop := Throughout (· ≠ number .nan)

namespace Throughout

variable {P : Canonical → Prop} {value : Canonical}

theorem here (h : Throughout P value) : P value := h value .whole

theorem item {items : List Canonical} (h : Throughout P (array items)) {item : Canonical}
    (inside : item ∈ items) : Throughout P item :=
  fun part inner => h part (.item inside inner)

theorem field {fields : Fields Canonical} (h : Throughout P (object fields))
    {field : String × Canonical} (inside : field ∈ fields) : Throughout P field.2 :=
  fun part inner => h part (.field inside inner)

theorem scalar (single : value.isContainer = false) (h : P value) : Throughout P value := by
  intro part inside
  cases inside with
  | whole => exact h
  | item | field => cases single

theorem object {fields : Fields Canonical} (h : P (object fields))
    (all : ∀ field ∈ fields, Throughout P field.2) : Throughout P (.object fields) := by
  intro part inside
  cases inside with
  | whole => exact h
  | field inside inner => exact all _ inside part inner

end Throughout

variable {value other : Canonical}

mutual

theorem equal_comm : ∀ value other : Canonical, equal value other = equal other value
  | .null, other => by cases other <;> rfl
  | .bool b, other => by
    cases other with
    | bool b' => exact BEq.comm
    | null | number | text | array | object => rfl
  | .number x, other => by
    cases other with
    | number y => exact Binary.equal_comm x y
    | null | bool | text | array | object => rfl
  | .text s, other => by
    cases other with
    | text s' => exact BEq.comm
    | null | bool | number | array | object => rfl
  | .array items, other => by
    cases other with
    | array items' => exact equalItems_comm items items'
    | null | bool | number | text | object => rfl
  | .object fields, other => by
    cases other with
    | object fields' => exact equalFields_comm fields fields'
    | null | bool | number | text | array => rfl

theorem equalItems_comm : ∀ items others : List Canonical,
    equalItems items others = equalItems others items
  | [], others => by cases others <;> rfl
  | item :: rest, [] => rfl
  | item :: rest, other :: others => by
    rw [equalItems, equalItems, equal_comm item other, equalItems_comm rest others]

theorem equalFields_comm : ∀ fields others : List (String × Canonical),
    equalFields fields others = equalFields others fields
  | [], others => by cases others <;> rfl
  | field :: rest, [] => rfl
  | (key, value) :: rest, (key', value') :: others => by
    have keys : (key == key') = (key' == key) := BEq.comm
    rw [equalFields, equalFields, keys, equal_comm value value', equalFields_comm rest others]

end

theorem beq_comm (value other : Canonical) : (value == other) = (other == value) :=
  equal_comm value other

theorem equalItems_iff {items others : List Canonical} :
    equalItems items others = true ↔
      List.Forall₂ (fun item other => (item == other) = true) items others := by
  induction items generalizing others with
  | nil => cases others <;> simp [equalItems]
  | cons item rest ih =>
    cases others with
    | nil => simp [equalItems]
    | cons other others => simp [equalItems, ih, BEq.beq]

theorem equalFields_iff {fields others : Fields Canonical} :
    equalFields fields others = true ↔
      List.Forall₂ (fun field other => field.1 = other.1 ∧ (field.2 == other.2) = true)
        fields others := by
  induction fields generalizing others with
  | nil => cases others <;> simp [equalFields]
  | cons field rest ih =>
    cases others with
    | nil => simp [equalFields]
    | cons other others =>
      obtain ⟨key, value⟩ := field
      obtain ⟨key', value'⟩ := other
      rw [equalFields, Bool.and_eq_true, Bool.and_eq_true, ih, List.forall₂_cons]
      simp [BEq.beq]

theorem equal_self (free : value.NaNFree) : equal value value = true := by
  induction value with
  | null => rfl
  | bool b => exact beq_self_eq_true b
  | text s => exact beq_self_eq_true s
  | number x => exact Binary.equal_self fun same => free.here (congrArg number same)
  | array items ih =>
    exact equalItems_iff.mpr (List.forall₂_same.mpr fun item inside => ih item inside (free.item inside))
  | object fields ih =>
    refine equalFields_iff.mpr (List.forall₂_same.mpr fun field inside => ?_)
    exact ⟨rfl, ih field inside (free.field inside)⟩

theorem number_beq {x : Double} {other : Canonical} :
    (number x == other) = true ↔ ∃ y, other = number y ∧ x.equal y = true := by
  cases other <;> simp [BEq.beq, equal]

theorem null_beq {other : Canonical} : (null == other) = true ↔ null = other := by
  cases other <;> simp [BEq.beq, equal]

theorem bool_beq {b : Bool} {other : Canonical} : (bool b == other) = true ↔ bool b = other := by
  cases other <;> simp [BEq.beq, equal]

theorem text_beq {s : String} {other : Canonical} : (text s == other) = true ↔ text s = other := by
  cases other <;> simp [BEq.beq, equal]

section Transitivity

variable {third : Canonical}

theorem beq_trans_scalar (scalar : third.isContainer = false) (first : (value == other) = true)
    (second : (other == third) = true) : (value == third) = true := by
  rw [beq_comm] at first second ⊢
  cases third with
  | array | object => cases scalar
  | null => exact null_beq.mp second ▸ first
  | bool b => exact bool_beq.mp second ▸ first
  | text s => exact text_beq.mp second ▸ first
  | number z =>
    obtain ⟨y, rfl, near⟩ := number_beq.mp second
    obtain ⟨x, rfl, far⟩ := number_beq.mp first
    exact number_beq.mpr ⟨x, rfl, Binary.equal_trans near far⟩

theorem beq_trans (first : (value == other) = true) (second : (other == third) = true) :
    (value == third) = true := by
  induction third generalizing value other with
  | null | bool | number | text => exact beq_trans_scalar rfl first second
  | array items ih =>
    cases other with
    | null | bool | number | text | object => cases second
    | array others =>
      cases value with
      | null | bool | number | text | object => cases first
      | array wholes =>
        refine equalItems_iff.mpr (forall₂_trans ?_ (equalItems_iff.mp first)
          (equalItems_iff.mp second))
        intro item inside whole other near far
        exact ih item inside near far
  | object fields ih =>
    cases other with
    | null | bool | number | text | array => cases second
    | object others =>
      cases value with
      | null | bool | number | text | array => cases first
      | object wholes =>
        refine equalFields_iff.mpr (forall₂_trans ?_ (equalFields_iff.mp first)
          (equalFields_iff.mp second))
        intro field inside whole other near far
        exact ⟨near.1.trans far.1, ih field inside near.2 far.2⟩

theorem beq_congr (same : (value == other) = true) (third : Canonical) :
    (value == third) = (other == third) := by
  have back : (other == value) = true := beq_comm value other ▸ same
  rw [Bool.eq_iff_iff]
  exact ⟨beq_trans back, beq_trans same⟩

end Transitivity

end Canonical
end FluentAssert
