import Mathlib.Data.List.Dedup
import Mathlib.Data.List.Perm.Basic
import VectorSearch.Proofs.Activity
import VectorSearch.Proofs.Json.Members
import VectorSearch.Store.Memory

namespace VectorSearch

/-- What can be asked of a backend. -/
inductive Backend.Operation where
  | push (document : Document)
  | pushBatch (documents : List Document)
  | fetch (filter : Option Filter)

namespace Backend

def Operation.documents : Operation → List Document
  | .push document => [document]
  | .pushBatch documents => documents
  | .fetch _ => []

def perform (backend : Backend σ) : Operation → Act σ StoreError Unit
  | .push document => backend.push document
  | .pushBatch documents => backend.pushBatch documents
  | .fetch filter => do let _ ← backend.fetch filter

/-- Performs operations one after the other, also after one that fails. What comes of it are the
documents of those that succeeded, and the world that is left. -/
def run (backend : Backend σ) : List Operation → World σ → List Document × World σ
  | [], world => ([], world)
  | operation :: rest, world =>
      let outcome := (backend.perform operation).outcome world
      let later := backend.run rest outcome.2
      (if outcome.1.isOk then operation.documents ++ later.1 else later.1, later.2)

end Backend

section

variable {check : α → Except ε Unit} {items : List α}

theorem forM_cons_eq (check : α → Except ε Unit) (item : α) (rest : List α) :
    (item :: rest).forM check =
      match check item with
      | .ok _ => rest.forM check
      | .error reason => .error reason := by
  change (check item >>= fun _ => rest.forM check) = _
  cases check item <;> rfl

theorem forM_eq_ok_iff : items.forM check = .ok () ↔ ∀ item ∈ items, check item = .ok () := by
  induction items with
  | nil => simp [pure, Except.pure]
  | cons item rest ih =>
      rw [List.forall_mem_cons, ← ih, forM_cons_eq]
      cases check item <;> simp

theorem forM_eq_error_iff {reason : ε} :
    items.forM check = .error reason ↔ ∃ before item after, items = before ++ item :: after ∧
      (∀ other ∈ before, check other = .ok ()) ∧ check item = .error reason := by
  constructor
  · intro failed
    induction items with
    | nil => cases failed
    | cons item rest ih =>
        rw [forM_cons_eq] at failed
        cases checked : check item with
        | error cause =>
            rw [checked] at failed
            exact ⟨[], item, rest, rfl, List.forall_mem_nil _, checked.trans failed⟩
        | ok _ =>
            rw [checked] at failed
            obtain ⟨before, faulty, after, rfl, fine, refused⟩ := ih failed
            exact ⟨item :: before, faulty, after, rfl, List.forall_mem_cons.mpr ⟨checked, fine⟩,
              refused⟩
  · rintro ⟨before, item, after, rfl, fine, refused⟩
    induction before with
    | nil => rw [List.nil_append, forM_cons_eq, refused]
    | cons first before ih =>
        obtain ⟨here, others⟩ := List.forall_mem_cons.mp fine
        rw [List.cons_append, forM_cons_eq, here]
        exact ih others

end

namespace MemoryStore

def get? (store : MemoryStore) (id : String) : Option Document :=
  (store.entries.find? (·.1 = id)).map Prod.snd

theorem get?_insert (store : MemoryStore) (document : Document) (id : String) :
    (store.insert document).get? id = if document.id = id then some document else store.get? id := by
  rw [get?, insert, Json.find?_insertMember]
  by_cases same : document.id = id <;> simp [same, get?]

/-- What a document needs to be stored: an embedding, of the store's length where it has one. -/
def Fits (dimensions : Option Nat) (document : Document) : Prop :=
  ∃ embedding, document.embedding = some embedding ∧
    ∀ expected ∈ dimensions, embedding.length = expected

variable {dimensions : Option Nat} {document : Document} {documents written : List Document}
  {store : MemoryStore}

theorem check_eq_ok_iff : check dimensions document = .ok () ↔ Fits dimensions document := by
  cases found : document.embedding with
  | none => simp [check, Fits, found]
  | some embedding =>
      cases dimensions with
      | none => simp [check, Fits, found]
      | some expected =>
          by_cases same : embedding.length = expected <;> simp [check, Fits, found, same]

theorem forM_check_eq_ok_iff :
    documents.forM (check dimensions) = .ok () ↔ ∀ document ∈ documents, Fits dimensions document := by
  rw [forM_eq_ok_iff]
  simp only [check_eq_ok_iff]

/-- Of documents under their own identifiers, no two of them the same, at most one has a given
identifier. -/
theorem filter_entries {entries : List (String × Document)}
    (keyed : ∀ entry ∈ entries, entry.1 = entry.2.id) (distinct : (entries.map Prod.fst).Nodup)
    (id : String) :
    (entries.map Prod.snd).filter (·.id = id) =
      ((entries.find? (·.1 = id)).map Prod.snd).toList := by
  induction entries with
  | nil => rfl
  | cons entry rest ih =>
      obtain ⟨here, others⟩ := List.forall_mem_cons.mp keyed
      obtain ⟨fresh, restDistinct⟩ := List.nodup_cons.mp distinct
      rw [List.map_cons, List.filter_cons, List.find?_cons, ih others restDistinct, ← here]
      by_cases same : entry.1 = id
      · have absent : rest.find? (·.1 = id) = none := by
          rw [List.find?_eq_none]
          intro other present found
          have repeated : other.1 = entry.1 := (of_decide_eq_true found).trans same.symm
          exact fresh (repeated ▸ List.mem_map_of_mem present)
        simp [same, absent]
      · simp [same]

/-- A store holds the documents that were written last, and nothing else. -/
structure Holds (dimensions : Option Nat) (written : List Document) (store : MemoryStore) :
    Prop where
  keyed : ∀ entry ∈ store.entries, entry.1 = entry.2.id
  distinct : (store.entries.map Prod.fst).Nodup
  fits : ∀ entry ∈ store.entries, Fits dimensions entry.2
  latest : ∀ id, store.get? id = written.reverse.find? (·.id = id)

namespace Holds

theorem empty : Holds dimensions [] .empty :=
  ⟨nofun, .nil, nofun, fun _ => rfl⟩

theorem insert (holds : Holds dimensions written store) (fitting : Fits dimensions document) :
    Holds dimensions (written ++ [document]) (store.insert document) where
  keyed := by
    intro entry present
    rcases Json.mem_insertMember present with rfl | before
    · rfl
    · exact holds.keyed entry before
  distinct := Json.nodup_insertMember holds.distinct
  fits := by
    intro entry present
    rcases Json.mem_insertMember present with rfl | before
    · exact fitting
    · exact holds.fits entry before
  latest := by
    intro id
    rw [get?_insert, holds.latest, List.reverse_append, List.reverse_singleton,
      List.singleton_append, List.find?_cons]
    by_cases same : document.id = id <;> simp [same]

theorem insertAll (holds : Holds dimensions written store)
    (fitting : ∀ document ∈ documents, Fits dimensions document) :
    Holds dimensions (written ++ documents) (store.insertAll documents) := by
  induction documents generalizing written store with
  | nil => simpa [MemoryStore.insertAll] using holds
  | cons document rest ih =>
      obtain ⟨first, others⟩ := List.forall_mem_cons.mp fitting
      have all := ih (holds.insert first) others
      rw [List.append_assoc, List.singleton_append] at all
      exact all

theorem filter_documents (holds : Holds dimensions written store) (id : String) :
    store.documents.filter (·.id = id) = (store.get? id).toList :=
  filter_entries holds.keyed holds.distinct id

theorem size_eq (holds : Holds dimensions written store) :
    store.size = (written.map (·.id)).dedup.length := by
  have keys : ∀ id, id ∈ store.entries.map Prod.fst ↔ id ∈ (written.map (·.id)).dedup := by
    intro id
    have same := congrArg Option.isSome (holds.latest id)
    rw [get?, Option.isSome_map] at same
    rw [List.mem_dedup]
    have stored : id ∈ store.entries.map Prod.fst ↔
        (store.entries.find? (·.1 = id)).isSome = true := by simp
    have named : id ∈ written.map (·.id) ↔
        (written.reverse.find? (·.id = id)).isSome = true := by simp
    rw [stored, named, same]
  have permuted := (List.perm_ext_iff_of_nodup holds.distinct (List.nodup_dedup _)).mpr keys
  simpa [size] using permuted.length_eq

end Holds

/-- What an operation needs to succeed: every document that it carries fits, and a fetch has no
filter. -/
def Admits (dimensions : Option Nat) : Backend.Operation → Prop
  | .push document => Fits dimensions document
  | .pushBatch documents => ∀ document ∈ documents, Fits dimensions document
  | .fetch filter => filter = none

/-- A store in memory that is all there is. -/
abbrev standalone (dimensions : Option Nat) : Backend MemoryStore :=
  backend id (fun store _ => store) dimensions

theorem push_outcome (get : σ → MemoryStore) (put : MemoryStore → σ → σ) (document : Document)
    (world : World σ) :
    ((backend get put dimensions).push document).outcome world =
      match check dimensions document with
      | .error reason => (.error reason, world)
      | .ok _ =>
          (.ok (), { world with
            state := put ((get world.state).insert document) world.state
            measured := .operation "memory" "push" Status.success 1 :: world.measured }) := by
  simp only [backend, push, Act.outcome_bind, Act.outcome_state, Act.outcome_ofExcept]
  cases check dimensions document <;> rfl

theorem pushBatch_outcome (get : σ → MemoryStore) (put : MemoryStore → σ → σ)
    (documents : List Document) (world : World σ) :
    ((backend get put dimensions).pushBatch documents).outcome world =
      match documents.forM (check dimensions) with
      | .error reason => (.error reason, world)
      | .ok _ =>
          (.ok (), { world with
            state := put ((get world.state).insertAll documents) world.state
            measured :=
              .operation "memory" "push_batch" Status.success documents.length ::
                world.measured }) := by
  simp only [backend, pushBatch, Act.outcome_bind, Act.outcome_state, Act.outcome_ofExcept]
  cases documents.forM (check dimensions) <;> rfl

theorem fetch_outcome (get : σ → MemoryStore) (put : MemoryStore → σ → σ)
    (filter : Option Filter) (world : World σ) :
    ((backend get put dimensions).fetch filter).outcome world =
      match filter with
      | some _ => (.error (.filteringUnsupported "memory"), world)
      | none =>
          (.ok (get world.state).documents, { world with
            measured :=
              .operation "memory" "fetch_candidates" Status.success
                (get world.state).documents.length :: world.measured }) := by
  cases filter <;> rfl

/-- An operation that is admitted succeeds and writes the documents that it carries. Any other one
fails and leaves the store as it was. -/
theorem perform_step (operation : Backend.Operation) (world : World MemoryStore) :
    let outcome := ((standalone dimensions).perform operation).outcome world
    (Admits dimensions operation ∧ outcome.1.isOk = true ∧
        outcome.2.state = world.state.insertAll operation.documents) ∨
      (¬ Admits dimensions operation ∧ outcome.1.isOk = false ∧ outcome.2.state = world.state) := by
  cases operation with
  | push document =>
      simp only [Backend.perform, push_outcome, Admits, ← check_eq_ok_iff]
      cases check dimensions document with
      | ok _ => exact .inl ⟨rfl, rfl, rfl⟩
      | error reason => exact .inr ⟨nofun, rfl, rfl⟩
  | pushBatch documents =>
      simp only [Backend.perform, pushBatch_outcome, Admits, ← forM_check_eq_ok_iff]
      cases documents.forM (check dimensions) with
      | ok _ => exact .inl ⟨rfl, rfl, rfl⟩
      | error reason => exact .inr ⟨nofun, rfl, rfl⟩
  | fetch filter =>
      simp only [Backend.perform, Act.outcome_bind, fetch_outcome, Admits]
      cases filter with
      | none => exact .inl ⟨rfl, rfl, rfl⟩
      | some filter => exact .inr ⟨nofun, rfl, rfl⟩

theorem Holds.perform (operation : Backend.Operation) {world : World MemoryStore}
    (holds : Holds dimensions written world.state) :
    let outcome := ((standalone dimensions).perform operation).outcome world
    Holds dimensions (if outcome.1.isOk then written ++ operation.documents else written)
      outcome.2.state := by
  intro outcome
  rcases perform_step operation world with ⟨admitted, succeeded, state⟩ | ⟨_, failed, state⟩
  · have fitting : ∀ document ∈ operation.documents, Fits dimensions document := by
      cases operation with
      | push document => exact List.forall_mem_singleton.mpr admitted
      | pushBatch documents => exact admitted
      | fetch filter => nofun
    rw [if_pos succeeded, state]
    exact holds.insertAll fitting
  · rw [if_neg (ne_true_of_eq_false failed), state]
    exact holds

theorem Holds.run (operations : List Backend.Operation) {world : World MemoryStore}
    (holds : Holds dimensions written world.state) :
    Holds dimensions (written ++ ((standalone dimensions).run operations world).1)
      ((standalone dimensions).run operations world).2.state := by
  induction operations generalizing written world with
  | nil => simpa [Backend.run] using holds
  | cons operation rest ih =>
      have later := ih (holds.perform operation)
      rw [Backend.run]
      by_cases succeeded : (((standalone dimensions).perform operation).outcome world).1.isOk = true
      · rw [if_pos succeeded, List.append_assoc] at later
        simpa only [if_pos succeeded] using later
      · rw [if_neg succeeded] at later
        simpa only [if_neg succeeded] using later

/-- After any run of operations a store holds exactly the documents of those that succeeded, under
each identifier the last one of it, each under its own identifier and with an embedding that fits.
A fetch returns them, one for each identifier. -/
theorem run_holds_latest (dimensions : Option Nat) (operations : List Backend.Operation)
    (world : World MemoryStore) :
    let store := standalone dimensions
    let outcome := store.run operations { world with state := .empty }
    Holds dimensions outcome.1 outcome.2.state ∧
      (∃ fetched, ((store.fetch none).outcome outcome.2).1 = .ok fetched ∧
        (∀ id, fetched.filter (·.id = id) = (outcome.1.reverse.find? (·.id = id)).toList) ∧
        fetched.length = outcome.2.state.size) ∧
      outcome.2.state.size = (outcome.1.map (·.id)).dedup.length ∧
      ∀ operation next, ((store.perform operation).outcome next).1.isOk = true ↔
        Admits dimensions operation := by
  intro store outcome
  have holds : Holds dimensions outcome.1 outcome.2.state :=
    @Holds.run dimensions [] operations { world with state := .empty } .empty
  refine ⟨holds, ⟨outcome.2.state.documents, ?_, ?_, ?_⟩, holds.size_eq, ?_⟩
  · rw [fetch_outcome]
    rfl
  · intro id
    rw [holds.filter_documents, holds.latest]
  · simp [documents, size]
  · intro operation next
    rcases perform_step operation next with ⟨admitted, succeeded, _⟩ | ⟨refused, failed, _⟩
    · exact iff_of_true succeeded admitted
    · exact iff_of_false (ne_true_of_eq_false failed) refused

end MemoryStore

end VectorSearch
