import Mathlib.Data.List.Basic
import FluentAssert.Regex

/-! Groups of patterns and of expressions. However a meaning is simplified, it has the groups of the
pattern and no others. -/
namespace FluentAssert.Regex

namespace Expr

theorem namesOfAll_eq (items : List Expr) : namesOfAll items = items.flatMap names := by
  induction items with
  | nil => rfl
  | cons item rest ih => rw [namesOfAll, ih, List.flatMap_cons]

theorem names_concat (items : List Expr) : (concat items).names = items.flatMap names :=
  namesOfAll_eq items

theorem names_choice (branches : List Expr) : (choice branches).names = branches.flatMap names :=
  namesOfAll_eq branches

theorem names_ofSet (chars : Text.CharSet) : (ofSet chars).names = [] := by
  unfold ofSet
  split
  · split <;> rfl
  · rfl

theorem names_items (expr : Expr) : expr.items.flatMap names = expr.names := by
  cases expr with
  | empty => rfl
  | concat items => exact (names_concat items).symm
  | literal | set | look | repetition | group | choice => exact List.flatMap_singleton ..

theorem names_branches (expr : Expr) : expr.branches.flatMap names = expr.names := by
  cases expr with
  | choice branches => exact (names_choice branches).symm
  | empty | literal | set | look | repetition | group | concat => exact List.flatMap_singleton ..

theorem names_flatMap_items (parts : List Expr) :
    (parts.flatMap items).flatMap names = parts.flatMap names := by
  rw [List.flatMap_assoc]
  exact List.flatMap_congr fun part _ => names_items part

theorem names_flatMap_branches (parts : List Expr) :
    (parts.flatMap branches).flatMap names = parts.flatMap names := by
  rw [List.flatMap_assoc]
  exact List.flatMap_congr fun part _ => names_branches part

theorem names_addItem (item : Expr) (items : List Expr) :
    (addItem item items).flatMap names = item.names ++ items.flatMap names := by
  fun_cases addItem item items with
  | case1 => rfl
  | case2 => rfl

theorem names_ofItems (parts : List Expr) : (ofItems parts).names = parts.flatMap names := by
  have joined (items : List Expr) : (items.foldr addItem []).flatMap names = items.flatMap names := by
    induction items with
    | nil => rfl
    | cons item rest ih => rw [List.foldr_cons, names_addItem, ih, List.flatMap_cons]
  rw [← names_flatMap_items parts, ← joined (parts.flatMap items), ofItems]
  cases (parts.flatMap items).foldr addItem [] with
  | nil => rfl
  | cons item rest =>
    cases rest with
    | nil => exact (List.flatMap_singleton ..).symm
    | cons => exact names_concat _

theorem names_repeated (min : Nat) (max : Option Nat) (greedy : Bool) (body : Expr) :
    (repeated min max greedy body).names ⊆ body.names := by
  unfold repeated
  split
  split
  · exact List.nil_subset _
  · split
    · exact List.Subset.refl _
    · exact List.Subset.refl _

theorem commonFront_subset (xs ys : List Expr) : commonFront xs ys ⊆ xs := by
  fun_induction commonFront xs ys with
  | case1 x xs y ys _ ih => exact List.cons_subset_cons x ih
  | case2 | case3 => exact List.nil_subset _

theorem foldl_commonFront_subset (first : List Expr) (rest : List (List Expr)) :
    rest.foldl commonFront first ⊆ first := by
  induction rest generalizing first with
  | nil => exact List.Subset.refl _
  | cons next rest ih => exact List.Subset.trans (ih _) (commonFront_subset first next)

theorem eq_of_sequences? {branches : List Expr} {sequences : List (List Expr)}
    (all : sequences? branches = some sequences) : branches = sequences.map concat := by
  induction branches generalizing sequences with
  | nil =>
    cases all
    rfl
  | cons branch rest ih =>
    cases branch with
    | concat items =>
      obtain ⟨later, found, rfl⟩ := Option.map_eq_some_iff.mp all
      rw [ih found, List.map_cons]
    | empty | literal | set | look | repetition | group | choice => cases all

theorem flatMap_names_subset {items others : List Expr} (fewer : items ⊆ others) :
    items.flatMap names ⊆ others.flatMap names := by
  intro group inside
  obtain ⟨item, used, named⟩ := List.mem_flatMap.mp inside
  exact List.mem_flatMap.mpr ⟨item, fewer used, named⟩

theorem names_sharedFront {branches front : List Expr} {rests : List (List Expr)}
    (shared : sharedFront? branches = some (front, rests)) :
    front.flatMap names ⊆ branches.flatMap names ∧
      (rests.map ofItems).flatMap names ⊆ branches.flatMap names := by
  unfold sharedFront? at shared
  split at shared
  · rename_i first rest all
    have whole : branches.flatMap names = (first :: rest).flatMap (·.flatMap names) := by
      rw [eq_of_sequences? all, List.flatMap_map]
      exact List.flatMap_congr fun items _ => names_concat items
    simp only at shared
    split at shared
    · cases shared
    · obtain ⟨rfl, rfl⟩ := Prod.mk.inj (Option.some.inj shared)
      rw [whole]
      constructor
      · have fewer := flatMap_names_subset (foldl_commonFront_subset first rest)
        exact List.Subset.trans fewer (List.subset_append_left _ _)
      · intro group inside
        obtain ⟨part, used, named⟩ := List.mem_flatMap.mp inside
        obtain ⟨dropped, left, rfl⟩ := List.mem_map.mp used
        obtain ⟨items, among, rfl⟩ := List.mem_map.mp left
        rw [names_ofItems] at named
        exact List.mem_flatMap.mpr
          ⟨items, among, flatMap_names_subset (List.drop_subset _ items) named⟩
  · cases shared

theorem names_choiceOf (fuel : Nat) (parts : List Expr) :
    (choiceOf fuel parts).names ⊆ parts.flatMap names := by
  induction fuel generalizing parts with
  | zero =>
    rw [choiceOf, names_choice]
    exact List.Subset.refl _
  | succ fuel ih =>
    rw [← names_flatMap_branches, choiceOf]
    generalize parts.flatMap branches = alternatives
    split
    · exact List.nil_subset _
    · rw [List.flatMap_singleton]
      exact List.Subset.refl _
    · split
      · rw [names_ofSet]
        exact List.nil_subset _
      · split
        · rename_i front rests shared
          obtain ⟨fronts, others⟩ := names_sharedFront shared
          rw [names_ofItems, List.flatMap_append, List.flatMap_singleton]
          exact List.append_subset.mpr ⟨fronts, List.Subset.trans (ih _) others⟩
        · rw [names_choice]
          exact List.Subset.refl _

end Expr

namespace Tree

mutual

def groups : Tree → List (Nat × Option String)
  | .repetition _ _ _ _ body => body.groups
  | .group _ (.plain _) body => body.groups
  | .group _ (.capture index name) body => (index, name) :: body.groups
  | .alternation _ branches => groupsOfAll branches
  | .concat _ items => groupsOfAll items
  | _ => []

def groupsOfAll : List Tree → List (Nat × Option String)
  | [] => []
  | item :: rest => item.groups ++ groupsOfAll rest

end

theorem groupsOfAll_eq (items : List Tree) : groupsOfAll items = items.flatMap groups := by
  induction items with
  | nil => rfl
  | cons item rest ih => rw [groupsOfAll, ih, List.flatMap_cons]

end Tree

/-- What comes of a reading or a meaning, unless that is a fault. -/
def Gives {α : Type} (P : α → Prop) (result : Except Fault α) : Prop := ∀ a, result = .ok a → P a

namespace Gives

variable {α β : Type} {P : α → Prop} {Q : β → Prop}

theorem ok {a : α} (h : P a) : Gives P (.ok a) := fun _ same => Except.ok.inj same ▸ h

theorem error (fault : Fault) : Gives P (.error fault) := fun _ same => nomatch same

theorem bind {first : Except Fault α} {next : α → Except Fault β} (h : Gives P first)
    (follows : ∀ a, P a → Gives Q (next a)) : Gives Q (first >>= next) := by
  cases first with
  | error fault => exact .error fault
  | ok a => exact follows a (h a rfl)

theorem after {first : Except Fault α} {next : α → Except Fault β} (follows : ∀ a, Gives Q (next a)) :
    Gives Q (first >>= next) :=
  bind (fun _ _ => trivial) fun a (_ : True) => follows a

end Gives

theorem gives_dotExpr (flags : Flags) (span : Span) :
    Gives (fun expr => expr.names = []) (dotExpr flags span) := by
  unfold dotExpr
  split
  · exact .error _
  · exact .ok (Expr.names_ofSet _)

theorem names_subset_nil {expr : Expr} {groups : List (Nat × Option String)} (none : expr.names = []) :
    expr.names ⊆ groups := none ▸ List.nil_subset _

mutual

theorem names_expr : ∀ (tree : Tree) (flags : Flags),
    Gives (fun meant => meant.1.names ⊆ tree.groups) (tree.expr flags)
  | .empty, _ | .flags _ _, _ | .assertion _ _, _ => .ok (List.nil_subset _)
  | .literal _, _ | .shorthand _ _ _, _ | .property _ _ _, _ =>
    .after fun _ => .ok (names_subset_nil (Expr.names_ofSet _))
  | .bracket _ _ _, _ => .after fun _ => .after fun _ => .ok (names_subset_nil (Expr.names_ofSet _))
  | .dot span, flags => (gives_dotExpr flags span).bind fun _ none => .ok (names_subset_nil none)
  | .repetition _ min max greedy body, flags =>
    (names_expr body flags).bind fun _ subset =>
      .ok (List.Subset.trans (Expr.names_repeated ..) subset)
  | .group _ (.plain settings) body, flags =>
    (names_expr body (flags.apply settings)).bind fun _ subset => .ok subset
  | .group _ (.capture index name) body, flags =>
    (names_expr body flags).bind fun _ subset => .ok (List.cons_subset_cons _ subset)
  | .alternation _ branches, flags =>
    (names_exprs branches flags).bind fun _ subset =>
      .ok (List.Subset.trans (Expr.names_choiceOf ..) subset)
  | .concat _ items, flags =>
    (names_exprs items flags).bind fun _ subset => .ok (by rwa [Expr.names_ofItems])

theorem names_exprs : ∀ (trees : List Tree) (flags : Flags),
    Gives (fun meant => meant.1.flatMap Expr.names ⊆ Tree.groupsOfAll trees) (Tree.exprs flags trees)
  | [], _ => .ok (List.nil_subset _)
  | tree :: rest, flags =>
    (names_expr tree flags).bind fun meant subset =>
      (names_exprs rest meant.2).bind fun _ subset' => .ok (by
        rw [List.flatMap_cons]
        exact List.append_subset.mpr ⟨List.Subset.trans subset (List.subset_append_left _ _),
          List.Subset.trans subset' (List.subset_append_right _ _)⟩)

end

end FluentAssert.Regex
