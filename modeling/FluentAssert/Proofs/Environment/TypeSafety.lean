import FluentAssert.Proofs.Environment.Refinement
import FluentAssert.Proofs.Node.Calls

/-! Reads in a row. Through one handle they have the answers that the store gives, in silence, up to
the first bad one. That one is reported, and from then on there are defaults only, of which nothing
is heard. No read changes a store. -/
namespace FluentAssert

variable {ω α : Type}

/-- Integer types of at most 64 bits. -/
def StoredType.narrow : List StoredType := [i8, i16, i32, i64, isize, u8, u16, u32, u64, usize]

theorem StoredType.mem_narrow (type : StoredType) :
    type ∈ narrow ↔ type.isInteger = true ∧ ¬ type.isWide = true := by
  cases type <;> decide

namespace Stored

variable {stored : Stored}

def Spells (stored : Stored) (s : String) : Prop := stored = .text s ∨ stored = .literal s

def Counts (stored : Stored) (n : Int) : Prop :=
  (∃ type ∈ StoredType.narrow, stored = .integer type n) ∧
    -(Nat.pow 2 63 : Int) ≤ n ∧ n < (Nat.pow 2 63 : Int)

def Measures (stored : Stored) (x : Double) : Prop :=
  stored = .double x ∨ (∃ y, stored = .single y ∧ x = y.convert .double) ∨
    ∃ n, stored.Counts n ∧ x = Double.ofInt n

def Encodes (stored : Stored) (content : Text.Bytes) : Prop :=
  stored = .bytes content ∨ ∃ s, stored.Spells s ∧ content = Text.encodeUtf8 s

theorem ofType?_iff {type : StoredType} {answer : Stored} :
    stored.ofType? type = some answer ↔ stored.type = type ∧ answer = stored := by
  unfold ofType?
  split
  · rename_i same
    simp [same, eq_comm]
  · rename_i differ
    simp [differ]

theorem text?_iff {s : String} : stored.text? = some s ↔ stored.Spells s := by
  cases stored <;> simp [text?, Spells]

theorem integer?_iff {n : Int} : stored.integer? = some n ↔ stored.Counts n := by
  cases stored with
  | integer type m =>
    have types : type ∈ StoredType.narrow ↔ type.isInteger = true ∧ ¬ type.isWide = true :=
      type.mem_narrow
    simp only [integer?, Counts, Option.ite_none_right_eq_some, Option.some.injEq]
    constructor
    · rintro ⟨⟨isInteger, narrow, low, high⟩, rfl⟩
      exact ⟨⟨type, types.mpr ⟨isInteger, narrow⟩, rfl⟩, low, high⟩
    · rintro ⟨⟨type', member, same⟩, low, high⟩
      cases same
      obtain ⟨isInteger, narrow⟩ := types.mp member
      exact ⟨⟨isInteger, narrow, low, high⟩, rfl⟩
  | single | double | bool | char | unit | text | literal | bytes | duration | alarmed =>
    simp [integer?, Counts]

theorem number?_iff {x : Double} : stored.number? = some x ↔ stored.Measures x := by
  have whole : stored.integer?.map Double.ofInt = some x ↔
      ∃ n, stored.Counts n ∧ x = Double.ofInt n := by
    simp only [Option.map_eq_some_iff, integer?_iff, eq_comm (a := x)]
  cases stored with
  | double | single => simp [number?, Measures, Counts, eq_comm]
  | integer | bool | char | unit | text | literal | bytes | duration | alarmed =>
    simp only [number?, Measures, whole, reduceCtorEq, false_and, exists_false, false_or]

theorem bool?_iff {b : Bool} : stored.bool? = some b ↔ stored = .bool b := by
  cases stored <;> simp [bool?]

theorem bytes?_iff {content : Text.Bytes} : stored.bytes? = some content ↔ stored.Encodes content := by
  have spelled : stored.text?.map Text.encodeUtf8 = some content ↔
      ∃ s, stored.Spells s ∧ content = Text.encodeUtf8 s := by
    simp only [Option.map_eq_some_iff, text?_iff, eq_comm (a := content)]
  cases stored with
  | bytes => simp [bytes?, Encodes, Spells]
  | integer | single | double | bool | char | unit | text | literal | duration | alarmed =>
    simp only [bytes?, Encodes, spelled, reduceCtorEq, false_or]

theorem duration?_iff {d : Duration} : stored.duration? = some d ↔ stored = .duration d := by
  cases stored <;> simp [duration?]

end Stored

namespace Handle

variable {β : Type} {key type : String} {convert : Stored → Option α} {held : Option Stored}

theorem lookUp_map (f : α → β) :
    lookUp key type (fun stored => (convert stored).map f) held =
      (lookUp key type convert held).map f := by
  cases held with
  | none => rfl
  | some stored =>
    simp only [lookUp]
    cases convert stored <;> rfl

theorem lookUp_ok {a : α} : lookUp key type convert held = .ok a ↔
    ∃ stored, held = some stored ∧ convert stored = some a := by
  cases held with
  | none => simp [lookUp]
  | some stored =>
    cases converted : convert stored with
    | none => simp [lookUp, converted]
    | some answer => simp [lookUp, converted]

theorem lookUp_unfit {stored : Stored}
    (unfit : ∀ a, lookUp key type convert (some stored) ≠ .ok a) :
    lookUp key type convert (some stored) = .error (wrongType key type) := by
  cases converted : convert stored with
  | none => simp only [lookUp, converted]
  | some a => exact absurd (lookUp_ok.mpr ⟨stored, rfl, converted⟩) (unfit a)

end Handle

namespace Read

def pattern? : {α : Type} → Read α → Option String
  | _, .glob pattern => some pattern
  | _, .get _ _ | _, .text _ | _, .integer _ | _, .number _ | _, .bool _ | _, .bytes _
  | _, .duration _ => none

def key? : {α : Type} → Read α → Option String
  | _, .glob _ => none
  | _, .get _ key | _, .text key | _, .integer key | _, .number key | _, .bool key | _, .bytes key
  | _, .duration key => some key

/-- The store has this answer. Of a type that is asked for exactly, it is the value itself. -/
def Good (contents : Store) : {α : Type} → Read α → α → Prop
  | _, .glob pattern, keys => ∃ parsed, Glob.parse pattern = .ok parsed ∧
      keys = (Fields.keys contents).filter (Glob.isMatch parsed)
  | _, .get type key, answer => ∃ stored, Fields.get? contents key = some stored ∧
      stored.type = type ∧ answer = some stored
  | _, .text key, s => ∃ stored, Fields.get? contents key = some stored ∧ stored.Spells s
  | _, .integer key, n => ∃ stored, Fields.get? contents key = some stored ∧ stored.Counts n
  | _, .number key, x => ∃ stored, Fields.get? contents key = some stored ∧ stored.Measures x
  | _, .bool key, b => Fields.get? contents key = some (.bool b)
  | _, .bytes key, content => ∃ stored, Fields.get? contents key = some stored ∧
      stored.Encodes content
  | _, .duration key, d => Fields.get? contents key = some (.duration d)

/-- The store has no answer, and what kind of failure that is. -/
inductive Bad (contents : Store) {α : Type} (read : Read α) : Kind → Prop where
  | absent {key : String} : read.key? = some key → Fields.get? contents key = none →
    Bad contents read .containsKey
  | unfit {key : String} {stored : Stored} : read.key? = some key →
    Fields.get? contents key = some stored → (∀ a, ¬ read.Good contents a) →
    Bad contents read .typeMismatch
  | invalid {pattern : String} {e : Glob.PatternError} : read.pattern? = some pattern →
    Glob.parse pattern = .error e → Bad contents read .valid

/-- What the store has: an answer, or the finding that is reported instead. -/
def result (contents : Store) : {α : Type} → Read α → Except Finding α
  | _, .glob pattern => (contents.glob pattern).mapError (Handle.badPattern pattern)
  | _, .get type key =>
    Handle.lookUp key type.label (fun stored => (stored.ofType? type).map some)
      (Fields.get? contents key)
  | _, .text key => Handle.lookUp key "string" Stored.text? (Fields.get? contents key)
  | _, .integer key => Handle.lookUp key "integer" Stored.integer? (Fields.get? contents key)
  | _, .number key => Handle.lookUp key "number" Stored.number? (Fields.get? contents key)
  | _, .bool key => Handle.lookUp key "boolean" Stored.bool? (Fields.get? contents key)
  | _, .bytes key => Handle.lookUp key "bytes" Stored.bytes? (Fields.get? contents key)
  | _, .duration key => Handle.lookUp key "duration" Stored.duration? (Fields.get? contents key)

theorem gives_result (read : Read α) (contents : Store) :
    read.inquiry.Gives contents (read.result contents) := by
  cases read with
  | glob pattern => exact Inquiry.gives_globbing pattern contents
  | get type key =>
    rw [result, Handle.lookUp_map]
    exact Inquiry.gives_lookUp ..
  | text | integer | number | bool | bytes | duration => exact Inquiry.gives_reading ..

end Read

namespace Read

variable {contents : Store} {read : Read α}

theorem good_iff {a : α} : read.Good contents a ↔ read.result contents = .ok a := by
  cases read with
  | glob pattern =>
    simp only [Good, result, Store.glob]
    cases Glob.parse pattern with
    | ok parsed => simp [Except.map, Except.mapError, eq_comm]
    | error e => simp [Except.map, Except.mapError]
  | get type key =>
    simp only [Good, result, Handle.lookUp_ok, Option.map_eq_some_iff, Stored.ofType?_iff]
    constructor
    · rintro ⟨stored, found, typed, rfl⟩
      exact ⟨stored, found, stored, ⟨typed, rfl⟩, rfl⟩
    · rintro ⟨stored, found, _, ⟨typed, rfl⟩, rfl⟩
      exact ⟨_, found, typed, rfl⟩
  | text | integer | number | bytes =>
    simp only [Good, result, Handle.lookUp_ok, Stored.text?_iff, Stored.integer?_iff,
      Stored.number?_iff, Stored.bytes?_iff]
  | bool | duration =>
    simp [Good, result, Handle.lookUp_ok, Stored.bool?_iff, Stored.duration?_iff]

theorem result_absent {key : String} (named : read.key? = some key)
    (absent : Fields.get? contents key = none) :
    read.result contents = .error (Handle.missing key) := by
  cases read with
  | glob => cases named
  | get | text | integer | number | bool | bytes | duration =>
    cases named
    simp only [result, absent, Handle.lookUp]

theorem result_unfit {key : String} {stored : Stored} (named : read.key? = some key)
    (found : Fields.get? contents key = some stored) (unfit : ∀ a, ¬ read.Good contents a) :
    ∃ type, read.result contents = .error (Handle.wrongType key type) := by
  have refused (a : α) : read.result contents ≠ .ok a := fun ok => unfit a (good_iff.mpr ok)
  cases read with
  | glob => cases named
  | get | text | integer | number | bool | bytes | duration =>
    cases named
    simp only [result, found] at refused ⊢
    exact ⟨_, Handle.lookUp_unfit refused⟩

theorem result_invalid {pattern : String} {e : Glob.PatternError}
    (named : read.pattern? = some pattern) (invalid : Glob.parse pattern = .error e) :
    read.result contents = .error (Handle.badPattern pattern e) := by
  cases read with
  | glob =>
    cases named
    simp only [result, Store.glob, invalid, Except.map, Except.mapError]
  | get | text | integer | number | bool | bytes | duration => cases named

theorem Bad.error {kind : Kind} (bad : read.Bad contents kind) :
    ∃ finding, read.result contents = .error finding ∧ finding.kind = kind := by
  cases bad with
  | absent named absent => exact ⟨_, result_absent named absent, rfl⟩
  | unfit named found unfit =>
    obtain ⟨type, refused⟩ := result_unfit named found unfit
    exact ⟨_, refused, rfl⟩
  | invalid named invalid => exact ⟨_, result_invalid named invalid, rfl⟩

theorem bad_of_refused (unfit : ∀ a, ¬ read.Good contents a) : ∃ kind, read.Bad contents kind := by
  cases named : read.key? with
  | some key =>
    cases found : Fields.get? contents key with
    | none => exact ⟨_, .absent named found⟩
    | some stored => exact ⟨_, .unfit named found unfit⟩
  | none =>
    cases read with
    | glob pattern =>
      cases parsed : Glob.parse pattern with
      | ok parse => exact absurd ⟨parse, parsed, rfl⟩ (unfit _)
      | error e => exact ⟨_, .invalid rfl parsed⟩
    | get | text | integer | number | bool | bytes | duration => cases named

end Read

/-- The chain has the same handler and the same store, and all stores have the same contents. -/
structure Serves (own : ChainId) (first last : World ω) : Prop where
  has : last.Has own
  handlerReturns : first.HandlerReturns own → last.HandlerReturns own
  store : (last.chain own).store = (first.chain own).store
  contents : ∀ id, last.store id = first.store id

namespace Serves

variable {own : ChainId} {first middle last : World ω}

theorem refl (has : first.Has own) : Serves own first first := ⟨has, id, rfl, fun _ => rfl⟩

theorem trans (h : Serves own first middle) (h' : Serves own middle last) :
    Serves own first last where
  has := h'.has
  handlerReturns handlerReturns := h'.handlerReturns (h.handlerReturns handlerReturns)
  store := h'.store.trans h.store
  contents id := (h'.contents id).trans (h.contents id)

theorem held (h : Serves own first last) :
    last.store (last.chain own).store = first.store (first.chain own).store := by
  rw [h.contents, h.store]

theorem of_local {run : Run ω α} (h : Local own run) (has : first.Has own) :
    Serves own first (run first).2 := by
  obtain ⟨events, follows, -⟩ := h.orderly first
  have origin : ((run first).2.chain own).origin = (first.chain own).origin := by
    rw [follows.stage]
    exact Stage.origin_replay has
  exact ⟨follows.has has, fun handlerReturns => handlerReturns.of_local has h, congrArg (·.2.2) origin,
    fun id => Run.Spares.composed.of_local trivial h first⟩

end Serves

namespace Handle

variable {handle : Handle} {world : World ω} {read : Read α}

/-- The contents of the store that is read. -/
def held (handle : Handle) (world : World ω) : Store := world.store (world.chain handle.chain).store

/-- The read has this answer, and no handler is called. -/
def Answers (handle : Handle) (world : World ω) (read : Read α) (a : α) : Prop :=
  (read.perform handle world).1 = .ok a ∧ Heard handle.chain world (read.perform handle world).2 []

/-- The read has the default, and the handler is called once, with a failure of this kind. -/
def Refuses (handle : Handle) (world : World ω) (read : Read α) (kind : Kind) : Prop :=
  (read.perform handle world).1 = .ok read.neutral ∧ ∃ finding : Finding, finding.kind = kind ∧
    finding.passed = false ∧ Heard handle.chain world (read.perform handle world).2 [finding]

/-- The chain has failed, so defaults are all there is, and whatever the node does that owns it, no
handler is called. -/
structure OnlyDefaults (handle : Handle) (world : World ω) : Prop where
  failed : (world.chain handle.chain).failed = true
  read : ∀ (α : Type) (read : Read α), handle.Answers world read read.neutral
  owner : ∀ (kind : NodeKind) (node : Node (Held kind)), node.chain = handle.chain →
    (∀ (α : Type) (read : Read α), node.env.Answers world read read.neutral) ∧
    (∀ what : Check kind, Tells handle.chain world (what.perform node) []) ∧
    ∀ (target : NodeKind) (what : Step kind target), Tells handle.chain world (what.perform node) []

theorem answers_good {a : α} (live : (world.chain handle.chain).failed = false)
    (good : read.Good (handle.held world) a) : handle.Answers world read a := by
  have gives := read.gives_result (handle.held world)
  rw [Read.good_iff.mp good] at gives
  have concludes := read.inquiry.perform_live live gives
  rw [Answers, read.perform_inquiry]
  exact concludes

theorem refuses_bad {kind : Kind} (live : (world.chain handle.chain).failed = false)
    (handlerReturns : world.HandlerReturns handle.chain) (bad : read.Bad (handle.held world) kind) :
    handle.Refuses world read kind := by
  obtain ⟨finding, refused, same⟩ := bad.error
  have gives := read.gives_result (handle.held world)
  rw [refused] at gives
  have failing : finding.passed = false := by
    have all := read.inquiry.failing (handle.held world)
    rw [gives.1] at all
    exact all finding List.mem_cons_self
  obtain ⟨heard, returns, -⟩ := read.inquiry.perform_live live gives
  rw [Refuses, read.perform_inquiry, ← read.neutral_eq]
  exact ⟨returns handlerReturns, finding, same, failing, heard⟩

theorem answers_failed (failed : (world.chain handle.chain).failed = true) (read : Read α) :
    handle.Answers world read read.neutral := by
  rw [Answers, read.perform_inquiry, ← read.neutral_eq]
  exact read.inquiry.perform_failed failed

theorem onlyDefaults_of_failed (failed : (world.chain handle.chain).failed = true) :
    handle.OnlyDefaults world where
  failed := failed
  read _ read := answers_failed failed read
  owner kind node same := by
    rw [← same] at failed ⊢
    obtain ⟨checks, steps, -⟩ := (Node.handlerCalls node).failed ω world failed
    exact ⟨fun _ read => answers_failed failed read, checks, steps⟩

/-- Reads one after the other, for what is left of it. -/
def readAll (handle : Handle) : List (Σ α : Type, Read α) → Run ω Unit
  | [] => return ()
  | read :: rest => do
    let _ ← read.2.perform handle
    handle.readAll rest

variable {reads : List (Σ α : Type, Read α)}

theorem readAll_cons {read : Σ α : Type, Read α} {rest : List (Σ α : Type, Read α)} {a : read.1}
    (returned : (read.2.perform handle world).1 = .ok a) :
    handle.readAll (read :: rest) world = handle.readAll rest (read.2.perform handle world).2 :=
  Run.bind_returned returned _

theorem readAll_append {first rest : List (Σ α : Type, Read α)} {middle : World ω}
    (returned : handle.readAll first world = (.ok (), middle)) :
    handle.readAll (first ++ rest) world = handle.readAll rest middle := by
  induction first generalizing world with
  | nil =>
    cases returned
    rfl
  | cons read first ih =>
    simp only [readAll, List.cons_append, Run.bind_apply] at returned ⊢
    generalize read.2.perform handle world = result at returned ⊢
    obtain ⟨ending, next⟩ := result
    cases ending with
    | error reason => cases returned
    | ok a => exact ih returned

theorem readAll_good (has : world.Has handle.chain)
    (live : (world.chain handle.chain).failed = false)
    (good : ∀ read ∈ reads, ∃ a, read.2.Good (handle.held world) a) :
    ∃ last, handle.readAll reads world = (.ok (), last) ∧ Heard handle.chain world last [] ∧
      Serves handle.chain world last := by
  induction reads generalizing world with
  | nil => exact ⟨world, rfl, .refl world, .refl has⟩
  | cons read rest ih =>
    obtain ⟨⟨a, first⟩, others⟩ := List.forall_mem_cons.mp good
    obtain ⟨returned, heard⟩ := answers_good live first
    have serves := Serves.of_local (.read handle read.2) has
    let next : World ω := (read.2.perform handle world).2
    have live' : (next.chain handle.chain).failed = false := heard.failed.trans (by simp [live])
    have others' : ∀ read ∈ rest, ∃ a, read.2.Good (handle.held next) a := by
      have same : handle.held next = handle.held world := serves.held
      rw [same]
      exact others
    obtain ⟨last, returns, heard', serves'⟩ := ih serves.has live' others'
    exact ⟨last, (readAll_cons returned).trans returns, heard.trans heard', serves.trans serves'⟩

theorem readAll_failed (reads : List (Σ α : Type, Read α)) (has : world.Has handle.chain)
    (failed : (world.chain handle.chain).failed = true) :
    ∃ last, handle.readAll reads world = (.ok (), last) ∧ Heard handle.chain world last [] ∧
      Serves handle.chain world last := by
  induction reads generalizing world with
  | nil => exact ⟨world, rfl, .refl world, .refl has⟩
  | cons read rest ih =>
    obtain ⟨returned, heard⟩ := answers_failed failed read.2
    have serves := Serves.of_local (.read handle read.2) has
    obtain ⟨last, returns, heard', serves'⟩ := ih serves.has (heard.failed_after failed)
    exact ⟨last, (readAll_cons returned).trans returns, heard.trans heard', serves.trans serves'⟩

/-- How a handle answers from this world on. -/
structure TypeSafe (handle : Handle) (world : World ω) : Prop where
  /-- Each read is good or bad. -/
  decided : ∀ (α : Type) (read : Read α),
    (∃ a, read.Good (handle.held world) a) ∨ ∃ kind, read.Bad (handle.held world) kind
  /-- An integer is read as it is, or not at all. -/
  integer : ∀ key type n, type ∈ StoredType.narrow →
    Fields.get? (handle.held world) key = some (.integer type n) →
    if -(Nat.pow 2 63 : Int) ≤ n ∧ n < (Nat.pow 2 63 : Int) then
      (Read.integer key).Good (handle.held world) n
    else (Read.integer key).Bad (handle.held world) .typeMismatch
  /-- After good reads the next one is answered, if it is good. -/
  good : ∀ before, (∀ read ∈ before, ∃ a, read.2.Good (handle.held world) a) →
    ∃ middle, handle.readAll before world = (.ok (), middle) ∧
      Heard handle.chain world middle [] ∧ (middle.chain handle.chain).failed = false ∧
      ∀ (α : Type) (read : Read α) (a : α), read.Good (handle.held world) a →
        handle.Answers middle read a
  /-- The first bad read is refused. Of all later ones, and at all later moments, nothing is heard. -/
  bad : ∀ before read kind after, (∀ read ∈ before, ∃ a, read.2.Good (handle.held world) a) →
    read.2.Bad (handle.held world) kind →
    ∃ middle last, handle.readAll before world = (.ok (), middle) ∧
      handle.Refuses middle read.2 kind ∧
      handle.readAll (before ++ read :: after) world = (.ok (), last) ∧
      (∃ finding : Finding, finding.kind = kind ∧ finding.passed = false ∧
        Heard handle.chain world last [finding]) ∧
      ∀ events later, Follows (read.2.perform handle middle).2 events later → handle.OnlyDefaults later
  /-- Whoever reads, and whatever comes of it, changes no store. -/
  stores : ∀ (account : Handle) (α : Type) (read : Read α) (moment : World ω) id,
    (read.perform account moment).2.store id = moment.store id

theorem decided_read (contents : Store) (read : Read α) :
    (∃ a, read.Good contents a) ∨ ∃ kind, read.Bad contents kind := by
  by_cases good : ∃ a, read.Good contents a
  · exact .inl good
  · exact .inr (Read.bad_of_refused fun a holds => good ⟨a, holds⟩)

theorem integer_read {contents : Store} {key : String} {type : StoredType} {n : Int}
    (narrow : type ∈ StoredType.narrow)
    (found : Fields.get? contents key = some (.integer type n)) :
    if -(Nat.pow 2 63 : Int) ≤ n ∧ n < (Nat.pow 2 63 : Int) then
      (Read.integer key).Good contents n
    else (Read.integer key).Bad contents .typeMismatch := by
  split
  · rename_i range
    exact ⟨_, found, ⟨type, narrow, rfl⟩, range⟩
  · rename_i beyond
    refine .unfit rfl found ?_
    rintro m ⟨stored, found', ⟨type', _, same⟩, range⟩
    cases found.symm.trans found'
    cases same
    exact beyond range

theorem type_safe (handle : Handle) (world : World ω)
    (live : (world.chain handle.chain).failed = false)
    (handlerReturns : world.HandlerReturns handle.chain) :
    handle.TypeSafe world where
  decided _ read := decided_read _ read
  integer _ _ _ narrow found := integer_read narrow found
  good before all := by
    have has : world.Has handle.chain := Stage.has_of_live live
    obtain ⟨middle, returns, heard, serves⟩ := readAll_good has live all
    have live' : (middle.chain handle.chain).failed = false := heard.failed.trans (by simp [live])
    refine ⟨middle, returns, heard, live', fun α read a good => answers_good live' ?_⟩
    have same : handle.held middle = handle.held world := serves.held
    rw [same]
    exact good
  bad before read kind after all bad := by
    have has : world.Has handle.chain := Stage.has_of_live live
    obtain ⟨middle, returns, heard, serves⟩ := readAll_good has live all
    have live' : (middle.chain handle.chain).failed = false := heard.failed.trans (by simp [live])
    have same : handle.held middle = handle.held world := serves.held
    have refuses := refuses_bad live' (serves.handlerReturns handlerReturns) (same ▸ bad)
    obtain ⟨returned, finding, kinds, fails, once⟩ := refuses
    let next : World ω := (read.2.perform handle middle).2
    have here : next.Has handle.chain := (Serves.of_local (.read handle read.2) serves.has).has
    have failed : (next.chain handle.chain).failed = true := once.failed.trans (by simp [fails])
    obtain ⟨last, returns', rest, -⟩ := readAll_failed after here failed
    refine ⟨middle, last, returns, ⟨returned, finding, kinds, fails, once⟩, ?_, ?_, ?_⟩
    · exact (readAll_append returns).trans ((readAll_cons returned).trans returns')
    · exact ⟨finding, kinds, fails, (heard.trans once).trans rest⟩
    · intro events later follows
      have stage : later.toStage = next.toStage.replay events := follows.stage
      refine onlyDefaults_of_failed ?_
      rw [stage]
      exact Stage.failed_replay here failed
  stores account _ read moment id :=
    Run.Spares.composed.of_local trivial (.read account read) moment

theorem type_safe_overflowing :
    let world : World Unit := { World.start () with
      chains := #[⟨none, [], false, ⟨0⟩, ⟨0⟩⟩],
      stores := #[[("name", .literal "x"), ("seed", .integer .u64 18446744073709551615)]] }
    let handle : Handle := ⟨⟨0⟩⟩
    ∃ middle last, handle.readAll [⟨_, .text "name"⟩] world = (.ok (), middle) ∧
      handle.Refuses middle (.integer "seed") .typeMismatch ∧
      handle.readAll [⟨_, .text "name"⟩, ⟨_, .integer "seed"⟩, ⟨_, .text "name"⟩] world =
        (.ok (), last) ∧
      ∃ finding : Finding, finding.kind = .typeMismatch ∧ finding.passed = false ∧
        Heard handle.chain world last [finding] := by
  intro world handle
  have safe : handle.TypeSafe world := type_safe handle world rfl Handler.audit_returns
  have named : (Read.text "name").Good (handle.held world) "x" := ⟨.literal "x", rfl, .inr rfl⟩
  have beyond : (Read.integer "seed").Bad (handle.held world) .typeMismatch := by
    have decided := safe.integer "seed" .u64 18446744073709551615 (by decide) rfl
    rwa [if_neg (by decide)] at decided
  have good : ∀ read ∈ [(⟨_, .text "name"⟩ : Σ α : Type, Read α)],
      ∃ a, read.2.Good (handle.held world) a := by
    intro read member
    cases List.mem_singleton.mp member
    exact ⟨"x", named⟩
  obtain ⟨middle, last, returns, refuses, all, once, -⟩ :=
    safe.bad [⟨_, .text "name"⟩] ⟨_, .integer "seed"⟩ .typeMismatch [⟨_, .text "name"⟩] good beyond
  exact ⟨middle, last, returns, refuses, all, once⟩

end Handle
end FluentAssert
