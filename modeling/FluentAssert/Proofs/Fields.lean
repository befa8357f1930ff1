import Mathlib.Data.List.Induction
import Mathlib.Data.List.Nodup
import Mathlib.Data.List.Perm.Basic
import Mathlib.Data.List.Sort
import FluentAssert.Fields

/-! Maps keep their keys in order, and maps that are in order are rebuilt as they are. What entries
make has their keys, under each the value of its last entry, and entries of different keys are all
kept, in whatever order they come. -/
namespace FluentAssert.Fields

open scoped List

variable {α : Type} {key : String} {value : α} {fields : Fields α}

theorem ordered_nil : Ordered ([] : Fields α) := .nil

theorem ordered_one : Ordered [(key, value)] := List.pairwise_singleton ..

theorem key_lt {a b : String} (differ : a ≠ b) (beyond : ¬ a < b) : b < a := by
  by_cases under : b < a
  · exact under
  · exact (differ (String.le_antisymm under beyond)).elim

theorem get?_eq_find? : get? fields key = (fields.find? (·.1 == key)).map (·.2) := by
  induction fields with
  | nil => rfl
  | cons field rest ih =>
    obtain ⟨k, v⟩ := field
    by_cases same : k = key
    · simp [get?, same]
    · simp [get?, same, ih]

theorem mem_of_get? {found : α} (h : get? fields key = some found) : (key, found) ∈ fields := by
  induction fields with
  | nil => cases h
  | cons first rest ih =>
    obtain ⟨k, v⟩ := first
    unfold get? at h
    split at h
    · rename_i same
      cases same
      cases h
      exact List.mem_cons_self
    · exact List.mem_cons_of_mem _ (ih h)

theorem mem_insert {field : String × α} (member : field ∈ insert key value fields) :
    field = (key, value) ∨ field ∈ fields := by
  induction fields with
  | nil => exact .inl (List.mem_singleton.mp member)
  | cons first rest ih =>
    obtain ⟨k, v⟩ := first
    unfold insert at member
    split at member
    · rcases List.mem_cons.mp member with here | there
      · exact .inl here
      · exact .inr (List.mem_cons_of_mem _ there)
    · split at member
      · exact List.mem_cons.mp member
      · rcases List.mem_cons.mp member with here | there
        · exact .inr (here ▸ List.mem_cons_self)
        · exact (ih there).imp_right (List.mem_cons_of_mem _)

theorem mem_keys {k : String} : k ∈ keys fields ↔ (get? fields k).isSome := by
  induction fields with
  | nil => simp [keys, get?]
  | cons first rest ih =>
    rw [keys, List.map_cons, List.mem_cons, ← keys, ih, get?]
    split
    · rename_i same
      simp [same]
    · rename_i differ
      simp [Ne.symm differ]

theorem get?_insert (k : String) :
    get? (insert key value fields) k = if key = k then some value else get? fields k := by
  induction fields with
  | nil => rfl
  | cons first rest ih =>
    obtain ⟨k', v⟩ := first
    unfold insert
    split
    · rename_i same
      subst same
      grind [get?]
    · split
      · rfl
      · rename_i differ _
        grind [get?]

theorem mem_keys_insert {k : String} :
    k ∈ keys (insert key value fields) ↔ k = key ∨ k ∈ keys fields := by
  rw [mem_keys, mem_keys, get?_insert]
  split
  · rename_i same
    simp [same]
  · rename_i differ
    simp [Ne.symm differ]

theorem ordered_insert (ordered : Ordered fields) : Ordered (insert key value fields) := by
  induction fields with
  | nil => exact ordered_one
  | cons first rest ih =>
    obtain ⟨k, v⟩ := first
    obtain ⟨above, tail⟩ := List.pairwise_cons.mp ordered
    unfold insert
    split
    · rename_i same
      exact List.pairwise_cons.mpr ⟨same ▸ above, tail⟩
    · rename_i differ
      split
      · rename_i under
        apply List.pairwise_cons.mpr
        constructor
        · intro other member
          rcases List.mem_cons.mp member with rfl | later
          · exact under
          · exact String.lt_trans under (above other later)
        · exact ordered
      · rename_i beyond
        apply List.pairwise_cons.mpr
        constructor
        · intro other member
          rcases mem_keys_insert.mp member with rfl | old
          · exact key_lt differ beyond
          · exact above other old
        · exact ih tail

theorem insert_last (above : ∀ k ∈ keys fields, k < key) :
    insert key value fields = fields ++ [(key, value)] := by
  induction fields with
  | nil => rfl
  | cons first rest ih =>
    obtain ⟨k, v⟩ := first
    have under : k < key := above k List.mem_cons_self
    have differ : key ≠ k := fun same => String.lt_irrefl k (same ▸ under)
    have beyond : ¬ key < k := fun h => String.lt_irrefl k (String.lt_trans under h)
    simp only [insert, if_neg differ, if_neg beyond, List.cons_append]
    rw [ih fun other member => above other (List.mem_cons_of_mem _ member)]

theorem get?_of_mem (ordered : Ordered fields) (member : (key, value) ∈ fields) :
    get? fields key = some value := by
  induction fields with
  | nil => cases member
  | cons first rest ih =>
    obtain ⟨above, tail⟩ := List.pairwise_cons.mp ordered
    rw [get?]
    rcases List.mem_cons.mp member with rfl | later
    · exact if_pos rfl
    · have under := above key (List.mem_map_of_mem later)
      have differ : first.1 ≠ key := fun same => String.lt_irrefl _ (same ▸ under)
      rw [if_neg differ]
      exact ih tail later

theorem get?_iff_position (ordered : Ordered fields) : get? fields key = some value ↔
    ∃ i : Nat, (keys fields)[i]? = some key ∧ (values fields)[i]? = some value := by
  simp only [keys, values, List.getElem?_map, Option.map_eq_some_iff]
  constructor
  · intro found
    obtain ⟨i, here⟩ := List.mem_iff_getElem?.mp (mem_of_get? found)
    exact ⟨i, ⟨_, here, rfl⟩, _, here, rfl⟩
  · rintro ⟨i, ⟨field, here, rfl⟩, other, there, rfl⟩
    cases here.symm.trans there
    exact get?_of_mem ordered (List.mem_of_getElem? here)

theorem get?_erase (k : String) :
    get? (erase key fields) k = if key = k then none else get? fields k := by
  induction fields with
  | nil => simp [erase, get?]
  | cons first rest ih =>
    obtain ⟨k', v⟩ := first
    rw [erase] at ih
    rw [erase, List.filter_cons]
    by_cases same : k' = key
    · simp only [same, bne_self_eq_false, Bool.false_eq_true, if_false, ih, get?]
      split <;> rfl
    · have kept : (k' != key) = true := bne_iff_ne.mpr same
      rw [if_pos kept]
      grind [get?]

theorem ordered_erase (ordered : Ordered fields) : Ordered (erase key fields) :=
  List.Pairwise.sublist (List.Sublist.map _ List.filter_sublist) ordered

theorem erase_of_not_mem (absent : key ∉ keys fields) : erase key fields = fields := by
  refine List.filter_eq_self.mpr fun field inside => ?_
  have differ : field.1 ≠ key := fun same => absent (same ▸ List.mem_map_of_mem inside)
  exact bne_iff_ne.mpr differ

theorem insert_perm (ordered : Ordered fields) :
    (insert key value fields).Perm ((key, value) :: erase key fields) := by
  induction fields with
  | nil => exact .refl _
  | cons first rest ih =>
    obtain ⟨k, v⟩ := first
    obtain ⟨above, tail⟩ := List.pairwise_cons.mp ordered
    unfold insert
    split
    · rename_i same
      subst same
      have absent : key ∉ keys rest := fun again => String.lt_irrefl _ (above key again)
      rw [erase, List.filter_cons_of_neg (by simp), ← erase, erase_of_not_mem absent]
    · rename_i differ
      have kept : erase key ((k, v) :: rest) = (k, v) :: erase key rest :=
        List.filter_cons_of_pos (bne_iff_ne.mpr (Ne.symm differ))
      rw [kept]
      split
      · rename_i under
        have absent : key ∉ keys rest :=
          fun again => String.lt_irrefl _ (String.lt_trans under (above key again))
        rw [erase_of_not_mem absent]
      · exact ((ih tail).cons (k, v)).trans (.swap ..)

theorem insert_same (ordered : Ordered fields) (found : get? fields key = some value) :
    insert key value fields = fields := by
  induction fields with
  | nil => cases found
  | cons first rest ih =>
    obtain ⟨k, v⟩ := first
    obtain ⟨above, tail⟩ := List.pairwise_cons.mp ordered
    unfold get? at found
    split at found
    · rename_i same
      cases same
      cases found
      exact if_pos rfl
    · rename_i differ
      have under : k < key := above key (List.mem_map_of_mem (mem_of_get? found))
      rw [insert, if_neg (Ne.symm differ), if_neg (String.lt_asymm under), ih tail found]

theorem perm_of_get? (ordered : Ordered fields) (found : get? fields key = some value) :
    fields.Perm ((key, value) :: erase key fields) := by
  have whole : (insert key value fields).Perm ((key, value) :: erase key fields) :=
    insert_perm ordered
  rwa [insert_same ordered found] at whole

section

variable {β : Type} {R : α → β → Prop} {others : Fields β}

theorem forall₂_of_keys (ordered : Ordered fields) (ordered' : Ordered others)
    (same : ∀ key, key ∈ keys fields ↔ key ∈ keys others)
    (related : ∀ key value other, get? fields key = some value → get? others key = some other →
      R value other) :
    List.Forall₂ (fun field other => field.1 = other.1 ∧ R field.2 other.2) fields others := by
  have row : fields.map (·.1) = others.map (·.1) := List.Pairwise.eq_of_mem_iff ordered ordered' same
  rw [List.forall₂_iff_get]
  constructor
  · simpa using congrArg List.length row
  · intro i inside inside'
    have together : (fields.get ⟨i, inside⟩).1 = (others.get ⟨i, inside'⟩).1 := by
      have := congrArg (·[i]?) row
      simpa [inside, inside'] using this
    refine ⟨together, related _ _ _ (get?_of_mem ordered (List.get_mem fields ⟨i, inside⟩)) ?_⟩
    rw [together]
    exact get?_of_mem ordered' (List.get_mem others ⟨i, inside'⟩)

theorem keys_of_forall₂
    (both : List.Forall₂ (fun field other => field.1 = other.1 ∧ R field.2 other.2) fields others) :
    keys fields = keys others := by
  induction both with
  | nil => rfl
  | cons first _ ih => rw [keys, keys, List.map_cons, List.map_cons, first.1, ← keys, ← keys, ih]

theorem get?_of_forall₂ {other : β}
    (both : List.Forall₂ (fun field other => field.1 = other.1 ∧ R field.2 other.2) fields others)
    (found : get? others key = some other) : ∃ value, get? fields key = some value ∧ R value other := by
  induction both with
  | nil => cases found
  | @cons field partner _ _ first _ ih =>
    rw [get?] at found ⊢
    rw [first.1]
    split at found
    · cases found
      exact ⟨_, if_pos ‹_›, first.2⟩
    · rw [if_neg ‹_›]
      exact ih found

/-- Ordered maps go side by side just if they have the same keys and related values under each. -/
theorem forall₂_iff (ordered : Ordered fields) (ordered' : Ordered others) :
    List.Forall₂ (fun field other => field.1 = other.1 ∧ R field.2 other.2) fields others ↔
      (∀ key, key ∈ keys fields ↔ key ∈ keys others) ∧
      ∀ key other, get? others key = some other →
        ∃ value, get? fields key = some value ∧ R value other := by
  constructor
  · intro both
    exact ⟨fun key => by rw [keys_of_forall₂ both], fun key other => get?_of_forall₂ both⟩
  · rintro ⟨same, related⟩
    refine forall₂_of_keys ordered ordered' same fun key value other here there => ?_
    obtain ⟨_, here', holds⟩ := related key other there
    cases here.symm.trans here'
    exact holds

end

theorem ordered_foldl (entries : List (String × α)) (ordered : Ordered fields) :
    Ordered (entries.foldl (fun fields (key, value) => insert key value fields) fields) := by
  induction entries generalizing fields with
  | nil => exact ordered
  | cons entry rest ih => exact ih (ordered_insert ordered)

theorem ordered_ofEntries (entries : List (String × α)) : Ordered (ofEntries entries) :=
  ordered_foldl entries ordered_nil

theorem forall_foldl {P : α → Prop} (entries : List (String × α))
    (new : ∀ entry ∈ entries, P entry.2) (old : ∀ field ∈ fields, P field.2) :
    ∀ field ∈ entries.foldl (fun fields (key, value) => insert key value fields) fields,
      P field.2 := by
  induction entries generalizing fields with
  | nil => exact old
  | cons entry rest ih =>
    apply ih
    · intro other member
      exact new other (List.mem_cons_of_mem _ member)
    · intro field member
      rcases mem_insert member with rfl | known
      · exact new entry List.mem_cons_self
      · exact old field known

theorem forall_ofEntries {P : α → Prop} {entries : List (String × α)}
    (all : ∀ entry ∈ entries, P entry.2) : ∀ field ∈ ofEntries entries, P field.2 :=
  forall_foldl entries all (by simp)

theorem foldl_ordered (first rest : Fields α) (ordered : Ordered (first ++ rest)) :
    rest.foldl (fun fields (key, value) => insert key value fields) first = first ++ rest := by
  induction rest generalizing first with
  | nil => exact (List.append_nil first).symm
  | cons entry rest ih =>
    obtain ⟨key, value⟩ := entry
    have split : Ordered ((first ++ [(key, value)]) ++ rest) := by
      rw [List.append_assoc]
      exact ordered
    have above : ∀ k ∈ keys first, k < key := by
      intro k member
      have apart := ordered
      rw [Ordered, keys, List.map_append] at apart
      exact (List.pairwise_append.mp apart).2.2 k member key List.mem_cons_self
    rw [List.foldl_cons]
    show rest.foldl _ (insert key value first) = first ++ (key, value) :: rest
    rw [insert_last above, ih _ split, List.append_assoc]
    rfl

theorem insert_map {β : Type} (change : α → β) : insert key (change value)
    (fields.map fun field => (field.1, change field.2)) =
      (insert key value fields).map fun field => (field.1, change field.2) := by
  induction fields with
  | nil => rfl
  | cons field rest ih =>
    simp only [List.map_cons, insert]
    split
    · rfl
    · split
      · rfl
      · rw [ih, List.map_cons]

theorem ofEntries_map {β : Type} (change : α → β) (entries : List (String × α)) :
    ofEntries (entries.map fun entry => (entry.1, change entry.2)) =
      (ofEntries entries).map fun field => (field.1, change field.2) := by
  have general (fields : Fields α) :
      (entries.map fun entry => (entry.1, change entry.2)).foldl
        (fun fields (key, value) => insert key value fields)
        (fields.map fun field => (field.1, change field.2)) =
      (entries.foldl (fun fields (key, value) => insert key value fields) fields).map
        fun field => (field.1, change field.2) := by
    induction entries generalizing fields with
    | nil => rfl
    | cons entry rest ih =>
      obtain ⟨key, value⟩ := entry
      simp only [List.map_cons, List.foldl_cons]
      rw [insert_map]
      exact ih _
  exact general []

theorem ofEntries_self (ordered : Ordered fields) : ofEntries fields = fields :=
  foldl_ordered [] fields ordered

theorem insert_comm {first second : String} (differ : first ≠ second) (a b : α)
    (fields : Fields α) :
    insert first a (insert second b fields) = insert second b (insert first a fields) := by
  have either : first < second ∨ second < first := by
    by_cases under : first < second
    · exact .inl under
    · exact .inr (key_lt differ under)
  induction fields with
  | nil =>
    rcases either with under | under <;>
      simp only [insert, if_neg differ, if_neg differ.symm, if_pos under,
        if_neg (String.lt_asymm under)]
  | cons field rest ih =>
    obtain ⟨k, v⟩ := field
    grind [insert, String.lt_trans, String.lt_asymm]

theorem ofEntries_perm {entries others : List (String × α)} (permuted : entries.Perm others)
    (distinct : (keys entries).Nodup) : ofEntries entries = ofEntries others := by
  apply permuted.foldl_eq'
  rintro ⟨first, a⟩ inside ⟨second, b⟩ within fields
  by_cases same : first = second
  · have one := List.inj_on_of_nodup_map distinct inside within same
    cases one
    rfl
  · exact (insert_comm same a b fields).symm

/-- A map with the keys of these entries, in order, and under each the value of its last entry. -/
structure Gathers (entries : List (String × α)) (fields : Fields α) : Prop where
  ordered : Ordered fields
  keys : ∀ key, key ∈ keys fields ↔ key ∈ keys entries
  last : ∀ before key value after, entries = before ++ (key, value) :: after →
    key ∉ Fields.keys after → get? fields key = some value

theorem mem_keys_foldl {entries : List (String × α)} {k : String} :
    k ∈ keys (entries.foldl (fun fields (key, value) => insert key value fields) fields) ↔
      k ∈ keys fields ∨ k ∈ keys entries := by
  induction entries generalizing fields with
  | nil => simp [keys]
  | cons entry rest ih =>
    rw [List.foldl_cons, ih, mem_keys_insert, keys, keys, keys, List.map_cons, List.mem_cons]
    tauto

theorem get?_foldl_other {entries : List (String × α)} {k : String} (absent : k ∉ keys entries) :
    get? (entries.foldl (fun fields (key, value) => insert key value fields) fields) k =
      get? fields k := by
  induction entries generalizing fields with
  | nil => rfl
  | cons entry rest ih =>
    obtain ⟨differ, later⟩ := not_or.mp (mt List.mem_cons.mpr absent)
    rw [List.foldl_cons, ih later, get?_insert, if_neg (Ne.symm differ)]

theorem gathers_ofEntries (entries : List (String × α)) : Gathers entries (ofEntries entries) where
  ordered := ordered_ofEntries entries
  keys key := by
    rw [ofEntries, mem_keys_foldl]
    exact or_iff_right List.not_mem_nil
  last before key value after whole absent := by
    rw [whole, ofEntries, List.foldl_append, List.foldl_cons, get?_foldl_other absent, get?_insert,
      if_pos rfl]

theorem ofEntries_concat (entries : List (String × α)) (key : String) (value : α) :
    ofEntries (entries ++ [(key, value)]) = insert key value (ofEntries entries) := by
  rw [ofEntries, List.foldl_append]
  rfl

theorem perm_ofEntries {entries : List (String × α)} (distinct : (keys entries).Nodup) :
    (ofEntries entries).Perm entries := by
  induction entries using List.reverseRecOn with
  | nil => exact .refl _
  | append_singleton entries entry ih =>
    obtain ⟨key, value⟩ := entry
    rw [keys, List.map_append, List.nodup_append] at distinct
    obtain ⟨distinct, -, apart⟩ := distinct
    have absent : key ∉ keys (ofEntries entries) := by
      rw [(gathers_ofEntries entries).keys]
      exact fun known => apart key known key List.mem_cons_self rfl
    rw [ofEntries_concat]
    calc insert key value (ofEntries entries)
      _ ~ (key, value) :: erase key (ofEntries entries) := insert_perm (ordered_ofEntries entries)
      _ = (key, value) :: ofEntries entries := by rw [erase_of_not_mem absent]
      _ ~ (key, value) :: entries := (ih distinct).cons _
      _ ~ entries ++ [(key, value)] := (List.perm_append_singleton ..).symm

end FluentAssert.Fields
