import FluentAssert.Proofs.Environment.TypeSafety
import FluentAssert.Proofs.Node.Trail
import FluentAssert.Proofs.Number.Worth

/-! Numbers in an environment. As floating-point numbers they are read whatever type they have. Only
integers that a signed 64-bit integer does not hold are refused, like what is no number at all. -/
namespace FluentAssert

variable {ω : Type}

namespace StoredType

/-- The width of an integer type. A machine word has 64 bits. -/
def width? : StoredType → Option Width
  | i8 => some .i8
  | i16 => some .i16
  | i32 => some .i32
  | i64 | isize => some .i64
  | i128 => some .i128
  | u8 => some .u8
  | u16 => some .u16
  | u32 => some .u32
  | u64 | usize => some .u64
  | u128 => some .u128
  | _ => none

/-- The integer is one of this type. -/
def Holds (type : StoredType) (n : Int) : Prop := ∃ width, type.width? = some width ∧ width.Holds n

def numeric : List StoredType := f64 :: f32 :: narrow

theorem bits_narrow : ∀ type ∈ narrow, ∀ width ∈ type.width?, width.bits ≤ 64 := by decide

theorem Holds.range {type : StoredType} {n : Int} (narrow : type ∈ StoredType.narrow)
    (holds : type.Holds n) : -(Nat.pow 2 63 : Int) ≤ n ∧ n < (Nat.pow 2 64 : Int) := by
  obtain ⟨width, same, range⟩ := holds
  have few := bits_narrow type narrow width same
  cases width with
  | i128 | u128 => exact absurd few (by decide)
  | i8 | i16 | i32 | i64 | u8 | u16 | u32 | u64 =>
    simp [Width.Holds, Width.signed, Width.bits] at range ⊢
    omega

end StoredType

namespace Handle

/-- How a handle reads numbers in this world. -/
structure ReadsNumbers (handle : Handle) (world : World ω) : Prop where
  double : ∀ key x, Fields.get? (handle.held world) key = some (.double x) →
    handle.Answers world (.number key) x
  single : ∀ key x, Fields.get? (handle.held world) key = some (.single x) →
    (x.convert .double).worth = x.worth ∧ handle.Answers world (.number key) (x.convert .double)
  integer : ∀ key type n, type ∈ StoredType.narrow → type.Holds n → n < (Nat.pow 2 63 : Int) →
    Fields.get? (handle.held world) key = some (.integer type n) →
    (Double.ofInt n).Nearest n ∧ handle.Answers world (.number key) (Double.ofInt n)
  long : ∀ key type n, type ∈ StoredType.narrow → type.Holds n → (Nat.pow 2 63 : Int) ≤ n →
    Fields.get? (handle.held world) key = some (.integer type n) →
    handle.Refuses world (.number key) .typeMismatch
  other : ∀ key stored, stored.type ∉ StoredType.numeric →
    Fields.get? (handle.held world) key = some stored →
    handle.Refuses world (.number key) .typeMismatch
  whole : ∀ key n, handle.Answers world (.integer key) n →
    handle.Answers world (.number key) (Double.ofInt n)

variable {handle : Handle} {world : World ω} {key : String}

theorem good_of_answers {α : Type} {read : Read α} {a : α}
    (live : (world.chain handle.chain).failed = false)
    (handlerReturns : world.HandlerReturns handle.chain)
    (answers : handle.Answers world read a) : read.Good (handle.held world) a := by
  rcases decided_read (handle.held world) read with ⟨b, good⟩ | ⟨kind, bad⟩
  · obtain ⟨returned, -⟩ := answers_good live good
    cases answers.1.symm.trans returned
    exact good
  · -- A bad one would have been heard of.
    obtain ⟨-, finding, -, -, heard⟩ := refuses_bad live handlerReturns bad
    cases (Delivers.of_heard answers.2).unique (.of_heard heard)

theorem number_unfit {stored : Stored} (there : Fields.get? (handle.held world) key = some stored)
    (unfit : ∀ x, ¬ stored.Measures x) :
    (Read.number key).Bad (handle.held world) .typeMismatch := by
  refine .unfit rfl there ?_
  rintro x ⟨stored', there', measures⟩
  cases there.symm.trans there'
  exact unfit x measures

theorem number_reads (handle : Handle) (world : World ω)
    (live : (world.chain handle.chain).failed = false)
    (handlerReturns : world.HandlerReturns handle.chain) :
    handle.ReadsNumbers world where
  double key x there := answers_good live ⟨_, there, .inl rfl⟩
  single key x there := ⟨x.convert_worth, answers_good live ⟨_, there, .inr (.inl ⟨x, rfl, rfl⟩)⟩⟩
  integer key type n narrow holds short there := by
    obtain ⟨low, high⟩ := holds.range narrow
    have counts : (Stored.integer type n).Counts n := ⟨⟨type, narrow, rfl⟩, low, short⟩
    refine ⟨Double.ofInt_nearest ?_, answers_good live ⟨_, there, .inr (.inr ⟨n, counts, rfl⟩)⟩⟩
    simp only [Nat.pow_eq] at low high
    omega
  long key type n narrow holds long there := by
    refine refuses_bad live handlerReturns (number_unfit there ?_)
    rintro x (same | ⟨y, same, -⟩ | ⟨m, ⟨⟨type', -, same⟩, -, short⟩, -⟩)
    · cases same
    · cases same
    · cases same
      exact absurd short (not_lt.mpr long)
  other key stored other there := by
    refine refuses_bad live handlerReturns (number_unfit there ?_)
    rintro x (same | ⟨y, same, -⟩ | ⟨m, ⟨⟨type, narrow, same⟩, -⟩, -⟩)
    · exact other (same ▸ List.mem_cons_self)
    · exact other (same ▸ List.mem_cons_of_mem _ List.mem_cons_self)
    · exact other (same ▸ List.mem_cons_of_mem _ (List.mem_cons_of_mem _ narrow))
  whole key n answers := by
    obtain ⟨stored, there, counts⟩ := good_of_answers live handlerReturns answers
    exact answers_good live ⟨stored, there, .inr (.inr ⟨n, counts, rfl⟩)⟩

/-- An integer beyond 64 signed bits beside one that is not. -/
theorem number_reads_seeded :
    let world : World Unit := { World.start () with
      chains := #[⟨none, [], false, ⟨0⟩, ⟨0⟩⟩],
      stores := #[[("count", .integer .usize 3), ("seed", .integer .u64 18446744073709551615)]] }
    let handle : Handle := ⟨⟨0⟩⟩
    handle.Answers world (.number "count") (Double.ofInt 3) ∧
      handle.Refuses world (.number "seed") .typeMismatch := by
  intro world handle
  have reads : handle.ReadsNumbers world := number_reads handle world rfl Handler.audit_returns
  constructor
  · exact (reads.integer "count" .usize 3 (by decide) ⟨.u64, rfl, by decide⟩ (by decide) rfl).2
  · exact reads.long "seed" .u64 _ (by decide) ⟨.u64, rfl, by decide⟩ (by decide) rfl

/-- Of one word, integers are not all read as numbers. -/
theorem number_unread :
    let seed : Int := 18446744073709551615
    let world : World Unit := { World.start () with
      chains := #[⟨none, [], false, ⟨0⟩, ⟨0⟩⟩], stores := #[[("seed", .integer .u64 seed)]] }
    let handle : Handle := ⟨⟨0⟩⟩
    StoredType.u64.Holds seed ∧ (world.chain handle.chain).failed = false ∧
      handle.Refuses world (.number "seed") .typeMismatch ∧
      ¬ handle.Answers world (.number "seed") (Double.ofInt seed) := by
  intro seed world handle
  have handlerReturns : world.HandlerReturns handle.chain := Handler.audit_returns
  have unfit (x : Double) : ¬ (Stored.integer .u64 seed).Measures x := by
    rw [← Stored.number?_iff]
    simp [seed, Stored.number?, Stored.integer?]
  have there : Fields.get? (handle.held world) "seed" = some (.integer .u64 seed) := rfl
  have refuses := refuses_bad rfl handlerReturns (number_unfit there unfit)
  refine ⟨⟨.u64, rfl, by decide⟩, rfl, refuses, fun answers => ?_⟩
  obtain ⟨stored, there, measures⟩ := good_of_answers rfl handlerReturns answers
  cases there
  exact unfit _ measures

end Handle
end FluentAssert
