import FluentAssert.Proofs.Fields
import FluentAssert.Proofs.Http.LetterCase

/-! Headers, by look-up and by group. The first value of a name is the first of its values, and
grouping by lowercase name puts every value where its name leads, once and in order. -/
namespace FluentAssert

open FluentAssert.Text
open scoped List

namespace Http

namespace Headers

variable (headers : Headers) (name value key : String)

theorem first?_eq_head? : headers.first? name = (headers.values name).head? := by
  rw [first?, values, List.head?_map, List.head?_filter]

theorem first?_append_one : Headers.first? (headers ++ [(name, value)]) key =
    (headers.first? key).or (if equalIgnoringAsciiCase name key then some value else none) := by
  rw [first?, List.find?_append, Option.map_or, ← first?]
  by_cases same : equalIgnoringAsciiCase name key = true
  · simp [same]
  · simp [same]

theorem values_append_one : Headers.values (headers ++ [(name, value)]) key =
    headers.values key ++ if equalIgnoringAsciiCase name key then [value] else [] := by
  rw [values, List.filter_append, List.map_append, ← values]
  by_cases same : equalIgnoringAsciiCase name key = true
  · simp [same]
  · simp [same]

def under : List Canonical :=
  (headers.filter fun header => lowercaseAscii header.1 == key).map fun header => .text header.2

theorem under_lowercase : headers.under (lowercaseAscii name) = (headers.values name).map .text := by
  simp only [under, values, equalIgnoringAsciiCase, List.map_map]
  rfl

theorem under_ne_nil_iff :
    headers.under key ≠ [] ↔ ∃ header ∈ headers, lowercaseAscii header.1 = key := by
  simp [under]

theorem under_append_one : under (headers ++ [(name, value)]) key =
    if lowercaseAscii name = key then headers.under key ++ [.text value] else headers.under key := by
  by_cases same : lowercaseAscii name = key
  · simp [under, List.filter_append, same]
  · simp [under, List.filter_append, same]

end Headers

def listed (field : String × Canonical) : List (String × Canonical) :=
  (field.2.items?.getD []).map fun item => (field.1, item)

/-- The fields hold these headers: under each lowercase name its values, if there are some, and in
all of them every value once. -/
structure Headers.Grouped (headers : Headers) (fields : Fields Canonical) : Prop where
  ordered : fields.Ordered
  found : ∀ key, Fields.get? fields key =
    if headers.under key = [] then none else some (.array (headers.under key))
  once : (fields.flatMap listed).Perm
    (headers.map fun header => (lowercaseAscii header.1, .text header.2))

namespace Headers.Grouped

variable {headers : Headers} {fields : Fields Canonical}

theorem beside (grouped : headers.Grouped fields) (key : String) :
    (fields.flatMap listed).Perm
      ((headers.under key).map (fun item => (key, item)) ++
        (Fields.erase key fields).flatMap listed) := by
  have found := grouped.found key
  split at found
  · rename_i nothing
    have absent : key ∉ Fields.keys fields := by
      rw [Fields.mem_keys, found]
      exact Bool.false_ne_true
    rw [nothing, Fields.erase_of_not_mem absent]
    exact .refl _
  · exact (Fields.perm_of_get? grouped.ordered found).flatMap_right listed

theorem mem_keys (grouped : headers.Grouped fields) {key : String} :
    key ∈ Fields.keys fields ↔ headers.under key ≠ [] := by
  rw [Fields.mem_keys, grouped.found]
  by_cases nothing : headers.under key = []
  · simp [nothing]
  · simp [nothing]

theorem get?_lowercase (grouped : headers.Grouped fields) (name : String) :
    Fields.get? fields (lowercaseAscii name) =
      if headers.values name = [] then none
      else some (.array ((headers.values name).map .text)) := by
  simp only [grouped.found, under_lowercase, List.map_eq_nil_iff]

theorem addHeader_eq (grouped : headers.Grouped fields) (key value : String) :
    Response.addHeader fields key value =
      Fields.insert key (.array (headers.under key ++ [.text value])) fields := by
  have found := grouped.found key
  unfold Response.addHeader
  split at found
  · rename_i nothing
    rw [found, nothing]
    rfl
  · rw [found]

theorem listed_addHeader (grouped : headers.Grouped fields) (key value : String) :
    ((Response.addHeader fields key value).flatMap listed).Perm
      (fields.flatMap listed ++ [(key, .text value)]) := by
  let mine := (headers.under key).map fun item => (key, item)
  let others := (Fields.erase key fields).flatMap listed
  rw [grouped.addHeader_eq]
  calc (Fields.insert key (.array (headers.under key ++ [.text value])) fields).flatMap listed
    _ ~ ((key, .array (headers.under key ++ [.text value])) :: Fields.erase key fields).flatMap
        listed := (Fields.insert_perm grouped.ordered).flatMap_right listed
    _ = mine ++ ([(key, .text value)] ++ others) := by simp [mine, others, listed, Canonical.items?]
    _ ~ mine ++ (others ++ [(key, .text value)]) := List.perm_append_comm.append_left mine
    _ = (mine ++ others) ++ [(key, .text value)] := (List.append_assoc ..).symm
    _ ~ fields.flatMap listed ++ [(key, .text value)] := (grouped.beside key).symm.append_right _

theorem add (grouped : headers.Grouped fields) (name value : String) :
    Grouped (headers ++ [(name, value)])
      (Response.addHeader fields (lowercaseAscii name) value) where
  ordered := by
    rw [grouped.addHeader_eq]
    exact Fields.ordered_insert grouped.ordered
  found key := by
    rw [grouped.addHeader_eq, Fields.get?_insert, under_append_one, grouped.found]
    split
    · rename_i same
      subst same
      simp
    · rfl
  once := by
    rw [List.map_append]
    exact (grouped.listed_addHeader _ value).trans (grouped.once.append_right _)

theorem foldl (rest : Headers) (grouped : headers.Grouped fields) :
    Grouped (headers ++ rest) (rest.foldl (fun fields header =>
      Response.addHeader fields (lowercaseAscii header.1) header.2) fields) := by
  induction rest generalizing headers fields with
  | nil =>
    rw [List.append_nil]
    exact grouped
  | cons header rest ih =>
    have whole : headers ++ header :: rest = (headers ++ [header]) ++ rest := by simp
    rw [whole]
    exact ih (grouped.add header.1 header.2)

end Headers.Grouped

theorem Response.grouped (reply : Response) : reply.headers.Grouped reply.headerFields := by
  have start : Headers.Grouped [] [] := ⟨Fields.ordered_nil, fun _ => rfl, .refl _⟩
  exact start.foldl reply.headers

end Http
end FluentAssert
