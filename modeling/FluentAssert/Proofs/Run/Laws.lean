import FluentAssert.Chain

/-! Runs as a monad, and what the single steps of a run do to a world. -/
namespace FluentAssert.Run

variable {ω α β γ : Type}

theorem bind_apply (run : Run ω α) (next : α → Run ω β) (world : World ω) :
    (run >>= next) world = match run world with
      | (.ok a, world) => next a world
      | (.error reason, world) => (.error reason, world) := rfl

theorem bind_returned {run : Run ω α} {world : World ω} {a : α} (returned : (run world).1 = .ok a)
    (next : α → Run ω β) : (run >>= next) world = next a (run world).2 := by
  rw [bind_apply]
  generalize run world = result at returned
  obtain ⟨ending, last⟩ := result
  cases returned
  rfl

theorem observe_apply (run : Run ω α) (world : World ω) :
    observe run world = (.ok (run world).1, (run world).2) := rfl

theorem bind_pure_apply (run : Run ω α) (world : World ω) :
    (run >>= fun a => pure a) world = run world := by
  rw [bind_apply]
  rcases run world with ⟨ending, _⟩
  cases ending <;> rfl

theorem bind_assoc_apply (run : Run ω α) (next : α → Run ω β) (last : β → Run ω γ)
    (world : World ω) :
    ((run >>= next) >>= last) world = (run >>= fun a => next a >>= last) world := by
  simp only [bind_apply]
  rcases run world with ⟨ending, _⟩
  cases ending <;> rfl

instance : LawfulMonad (Run ω) :=
  LawfulMonad.mk' (Run ω) (fun run => funext (bind_pure_apply run)) (fun _ _ => rfl)
    (fun run next last => funext (bind_assoc_apply run next last))

theorem forM_congr {items : List α} {visit visit' : α → Run ω Unit}
    (same : ∀ item ∈ items, visit item = visit' item) : items.forM visit = items.forM visit' := by
  induction items with
  | nil => rfl
  | cons item rest ih =>
    have later := ih fun other member => same other (List.mem_cons_of_mem _ member)
    simp only [List.forM_eq_forM, List.forM_cons] at later ⊢
    rw [same item List.mem_cons_self, later]

end FluentAssert.Run
