import VectorSearch.Proofs.Collection.InMemory

namespace VectorSearch

/-! The ways to write documents to memory agree.

An addition stores documents one by one and a load stores them in slices, which comes to the same
insertions in the same order. Where the tasks of an addition overlap, their calls take turns.
Embedding leaves alone what is stored, so only the order of the insertions can make a difference,
and it makes none to documents under different identifiers.
-/

/-- Tasks take turns: every step is the next one of some task. -/
inductive Interleaved : List (List α) → List α → Prop where
  | done {tasks : List (List α)} (finished : ∀ task ∈ tasks, task = []) : Interleaved tasks []
  | step {before after : List (List α)} {step : α} {rest steps : List α}
      (others : Interleaved (before ++ rest :: after) steps) :
      Interleaved (before ++ (step :: rest) :: after) (step :: steps)

theorem Interleaved.perm {tasks : List (List α)} {steps : List α}
    (interleaved : Interleaved tasks steps) : steps.Perm tasks.flatten := by
  induction interleaved with
  | done finished => rw [List.flatten_eq_nil_iff.mpr finished]
  | @step before after step rest steps _ ih =>
      rw [List.flatten_append, List.flatten_cons] at ih ⊢
      exact (ih.cons step).trans List.perm_middle.symm

theorem find?_key_eq_some_iff {items : List α} {key : α → String}
    (distinct : (items.map key).Nodup) {name : String} {item : α} :
    items.find? (key · = name) = some item ↔ item ∈ items ∧ key item = name := by
  constructor
  · intro found
    exact ⟨List.mem_of_find?_eq_some found, by simpa using List.find?_some found⟩
  · rintro ⟨present, rfl⟩
    obtain ⟨first, found⟩ : ∃ first, items.find? (key · = key item) = some first :=
      Option.isSome_iff_exists.mp (List.find?_isSome.mpr ⟨item, present, by simp⟩)
    have named : key first = key item := by simpa using List.find?_some found
    rw [found,
      List.inj_on_of_nodup_map distinct (List.mem_of_find?_eq_some found) present named]

theorem find?_eq_of_perm {left right : List Document} (distinct : (left.map (·.id)).Nodup)
    (reordered : left.Perm right) (id : String) :
    left.find? (·.id = id) = right.find? (·.id = id) := by
  have apart : (right.map (·.id)).Nodup := (reordered.map _).nodup_iff.mp distinct
  ext document
  rw [find?_key_eq_some_iff distinct, find?_key_eq_some_iff apart, reordered.mem_iff]

namespace MemoryStore

variable {dimensions : Option Nat} {written others : List Document} {store other : MemoryStore}

/-- The order of entries tells nothing: stores are the same that hold the same ones, and so the same
document under each identifier. -/
structure Same (store other : MemoryStore) : Prop where
  entries : store.entries.Perm other.entries
  get? : ∀ id, store.get? id = other.get? id

theorem insertAll_append (store : MemoryStore) (documents others : List Document) :
    store.insertAll (documents ++ others) = (store.insertAll documents).insertAll others :=
  List.foldl_append

namespace Holds

theorem mem_entries_iff (holds : Holds dimensions written store) {entry : String × Document} :
    entry ∈ store.entries ↔ store.get? entry.1 = some entry.2 := by
  rw [MemoryStore.get?, Option.map_eq_some_iff]
  constructor
  · intro present
    exact ⟨entry, (find?_key_eq_some_iff holds.distinct).mpr ⟨present, rfl⟩, rfl⟩
  · rintro ⟨found, first, document⟩
    obtain ⟨present, named⟩ := (find?_key_eq_some_iff holds.distinct).mp first
    exact (Prod.ext named document : found = entry) ▸ present

/-- Stores to which the same was written last are the same. -/
theorem same (holds : Holds dimensions written store) (alike : Holds dimensions others other)
    (latest : ∀ id, written.reverse.find? (·.id = id) = others.reverse.find? (·.id = id)) :
    store.Same other := by
  have get? : ∀ id, store.get? id = other.get? id := by
    intro id
    rw [holds.latest, alike.latest, latest]
  refine ⟨(List.perm_ext_iff_of_nodup holds.distinct.of_map alike.distinct.of_map).mpr ?_, get?⟩
  intro entry
  rw [holds.mem_entries_iff, alike.mem_entries_iff, get?]

/-- Documents under different identifiers may be written in any order. -/
theorem insertAll_same (holds : Holds dimensions written store) {documents order : List Document}
    (fits : ∀ document ∈ documents, Fits dimensions document)
    (distinct : (documents.map (·.id)).Nodup) (reordered : order.Perm documents) :
    (store.insertAll order).Same (store.insertAll documents) := by
  have fitsToo : ∀ document ∈ order, Fits dimensions document :=
    fun document member => fits document (reordered.subset member)
  refine (holds.insertAll fitsToo).same (holds.insertAll fits) fun id => ?_
  have turned : order.reverse.Perm documents.reverse :=
    (order.reverse_perm.trans reordered).trans documents.reverse_perm.symm
  have apart : (order.reverse.map (·.id)).Nodup :=
    ((turned.trans documents.reverse_perm).map _).nodup_iff.mpr distinct
  rw [List.reverse_append, List.reverse_append, List.find?_append, List.find?_append,
    find?_eq_of_perm apart turned]

end Holds

end MemoryStore

def Document.embeddedBy (vector : String → Embedding) (document : Document) : Document :=
  { document with embedding := some (vector document.content) }

/-- What adding one document asks for: it is embedded, then it is stored. -/
def addTask (vector : String → Embedding) (document : Document) : List Call.Answered :=
  addCalls [document] [vector document.content]

def Call.Answered.stored : Call.Answered → List Document
  | ⟨.push document, _⟩ => [document]
  | _ => []

theorem stored_addTasks (vector : String → Embedding) (documents : List Document) :
    (documents.map (addTask vector)).flatten.flatMap Call.Answered.stored =
      documents.map (Document.embeddedBy vector) := by
  induction documents with
  | nil => rfl
  | cons document rest ih =>
      rw [List.map_cons, List.flatten_cons, List.flatMap_append, ih]
      rfl

namespace Collection

/-- The texts of documents always get the same vectors, and with these the documents fit. -/
structure Takes (collection : Collection σ) (dimensions : Option Nat)
    (vector : String → Embedding) (documents : List Document) : Prop where
  embeds : ∀ document ∈ documents, ∀ world,
    ((collection.embedder.embed document.content).outcome world).1 = .ok (vector document.content)
  fits : ∀ document ∈ documents, MemoryStore.Fits dimensions (document.embeddedBy vector)

variable {collection : Collection σ} {get : σ → MemoryStore} {put : MemoryStore → σ → σ}
  {dimensions : Option Nat} {vector : String → Embedding} {document : Document}
  {documents : List Document}

theorem Takes.of_subset {order : List Document} (takes : collection.Takes dimensions vector documents)
    (subset : ∀ document ∈ order, document ∈ documents) :
    collection.Takes dimensions vector order :=
  ⟨fun document member => takes.embeds document (subset document member),
    fun document member => takes.fits document (subset document member)⟩

theorem Takes.fits_embedded (takes : collection.Takes dimensions vector documents) :
    ∀ document ∈ documents.map (Document.embeddedBy vector), MemoryStore.Fits dimensions document :=
  List.forall_mem_map.mpr takes.fits

theorem InMemory.embed (inMemory : collection.InMemory get put dimensions)
    (takes : collection.Takes dimensions vector documents) (member : document ∈ documents)
    (world : World σ) :
    ∃ after, (collection.embedder.embed document.content).outcome world =
        (.ok (vector document.content), after) ∧
      get after.state = get world.state :=
  ⟨_, Prod.ext (takes.embeds document member world) rfl, inMemory.apart document.content world⟩

theorem InMemory.push (inMemory : collection.InMemory get put dimensions)
    (fits : MemoryStore.Fits dimensions document) (world : World σ) :
    ∃ after, (collection.backend.push document).outcome world = (.ok (), after) ∧
      get after.state = (get world.state).insert document := by
  rw [inMemory.backend, MemoryStore.push_outcome, MemoryStore.check_eq_ok_iff.mpr fits]
  exact ⟨_, rfl, inMemory.kept _ _⟩

theorem InMemory.pushBatch (inMemory : collection.InMemory get put dimensions)
    (fits : ∀ document ∈ documents, MemoryStore.Fits dimensions document) (world : World σ) :
    ∃ after, (collection.backend.pushBatch documents).outcome world = (.ok (), after) ∧
      get after.state = (get world.state).insertAll documents := by
  rw [inMemory.backend, MemoryStore.pushBatch_outcome, MemoryStore.forM_check_eq_ok_iff.mpr fits]
  exact ⟨_, rfl, inMemory.kept _ _⟩

theorem addOne_inserts (inMemory : collection.InMemory get put dimensions)
    (takes : collection.Takes dimensions vector documents) (member : document ∈ documents)
    (world : World σ) :
    ∃ after, (collection.addOne document).outcome world = (.ok (), after) ∧
      get after.state = (get world.state).insert (document.embeddedBy vector) := by
  obtain ⟨between, embedded, kept⟩ := inMemory.embed takes member world
  obtain ⟨after, pushed, inserted⟩ := inMemory.push (takes.fits document member) between
  refine ⟨after, ?_, by rw [inserted, kept]⟩
  simp only [addOne, Collection.embed, Act.outcome_bind, Act.outcome_mapError, embedded]
  exact pushed

theorem add_inserts (inMemory : collection.InMemory get put dimensions)
    (takes : collection.Takes dimensions vector documents) (concurrency : Nat) (world : World σ) :
    ∃ after, (collection.add concurrency documents).outcome world =
        (.ok documents.length, after) ∧
      get after.state =
        (get world.state).insertAll (documents.map (Document.embeddedBy vector)) := by
  have each : ∃ results after, (documents.mapM collection.addOne).outcome world =
      (.ok results, after) ∧ get after.state =
        (get world.state).insertAll (documents.map (Document.embeddedBy vector)) := by
    induction documents generalizing world with
    | nil => exact ⟨[], world, rfl, rfl⟩
    | cons document rest ih =>
        obtain ⟨between, first, inserted⟩ := addOne_inserts inMemory takes (.head _) world
        obtain ⟨results, after, added, others⟩ :=
          ih (takes.of_subset fun _ member => .tail _ member) between
        refine ⟨() :: results, after, ?_, by rw [others, inserted]; rfl⟩
        rw [Act.outcome_mapM_cons, first]
        dsimp only
        rw [added]
        rfl
  obtain ⟨results, after, added, stored⟩ := each
  refine ⟨after, ?_, stored⟩
  rw [add_eq, Act.outcome_bind, added]
  rfl

/-- Calls of tasks are answered as the tasks expect, in whatever order they are made. -/
theorem makes_inserts (inMemory : collection.InMemory get put dimensions)
    (takes : collection.Takes dimensions vector documents) {calls : List Call.Answered}
    (asked : ∀ answered ∈ calls, ∃ document ∈ documents, answered ∈ addTask vector document)
    (world : World σ) :
    ∃ after, collection.Makes world calls after ∧
      get after.state =
        (get world.state).insertAll (calls.flatMap Call.Answered.stored) := by
  induction calls generalizing world with
  | nil => exact ⟨world, .nil, rfl⟩
  | cons answered rest ih =>
      obtain ⟨⟨document, member, ofTask⟩, others⟩ := List.forall_mem_cons.mp asked
      have first : ∃ between, collection.make answered.call world = (answered.answer, between) ∧
          get between.state = (get world.state).insertAll answered.stored := by
        rcases List.mem_cons.mp ofTask with rfl | second
        · exact inMemory.embed takes member world
        · obtain rfl := List.mem_singleton.mp second
          exact inMemory.push (takes.fits document member) world
      obtain ⟨between, made, inserted⟩ := first
      obtain ⟨after, later, stored⟩ := ih others between
      refine ⟨after, .cons made later, ?_⟩
      rw [stored, inserted, List.flatMap_cons, MemoryStore.insertAll_append]

theorem mapM_embedMissing_all (inMemory : collection.InMemory get put dimensions)
    (takes : collection.Takes dimensions vector documents)
    (lacking : ∀ document ∈ documents, document.embedding = none) (world : World σ) :
    ∃ after, (documents.mapM collection.embedMissing).outcome world =
        (.ok (documents.map (Document.embeddedBy vector)), after) ∧
      get after.state = get world.state := by
  induction documents generalizing world with
  | nil => exact ⟨world, rfl, rfl⟩
  | cons document rest ih =>
      obtain ⟨here, others⟩ := List.forall_mem_cons.mp lacking
      obtain ⟨between, embedded, kept⟩ := inMemory.embed takes (.head _) world
      obtain ⟨after, all, alone⟩ := ih (takes.of_subset fun _ member => .tail _ member) others between
      refine ⟨after, ?_, alone.trans kept⟩
      rw [Act.outcome_mapM_cons, embedMissing_missing here, embedded]
      dsimp only [Except.mapError, Except.map]
      rw [all]
      rfl

theorem forM_pushBatch_inserts (inMemory : collection.InMemory get put dimensions)
    {slices : List (List Document)}
    (fits : ∀ document ∈ slices.flatten, MemoryStore.Fits dimensions document) (world : World σ) :
    ∃ after, (slices.forM collection.backend.pushBatch).outcome world = (.ok (), after) ∧
      get after.state = (get world.state).insertAll slices.flatten := by
  induction slices generalizing world with
  | nil => exact ⟨world, rfl, rfl⟩
  | cons slice rest ih =>
      rw [List.flatten_cons, List.forall_mem_append] at fits
      obtain ⟨between, pushed, inserted⟩ := inMemory.pushBatch fits.1 world
      obtain ⟨after, others, stored⟩ := ih fits.2 between
      refine ⟨after, ?_, ?_⟩
      · rw [Act.outcome_forM_cons, pushed]
        exact others
      · rw [stored, inserted, List.flatten_cons, MemoryStore.insertAll_append]

theorem load_inserts (inMemory : collection.InMemory get put dimensions)
    (takes : collection.Takes dimensions vector documents)
    (lacking : ∀ document ∈ documents, document.embedding = none) (concurrency : Nat)
    (world : World σ) :
    ∃ after, (collection.load concurrency documents).outcome world =
        (.ok documents.length, after) ∧
      get after.state =
        (get world.state).insertAll (documents.map (Document.embeddedBy vector)) := by
  obtain ⟨between, embedded, kept⟩ := mapM_embedMissing_all inMemory takes lacking world
  have sliced := batches_sliced (documents.map (Document.embeddedBy vector))
  obtain ⟨after, pushed, stored⟩ :=
    forM_pushBatch_inserts inMemory (sliced.flatten.symm ▸ takes.fits_embedded) between
  rw [sliced.flatten, kept] at stored
  refine ⟨after, ?_, stored⟩
  rw [load_eq, Act.outcome_bind, embedded]
  dsimp only
  rw [Act.outcome_bind, pushed, List.length_map]
  rfl

/-- Documents without a vector that all get one that fits are added and loaded alike: both succeed
and leave the same in memory, whatever was there and however often an identifier occurs. Where none
occurs twice, they can also be added in any other order, one after the other or with the calls for
them in turns. -/
theorem add_and_load_agree (inMemory : collection.InMemory get put dimensions)
    (operations : List Operation) {start : World σ} (empty : get start.state = .empty)
    (lacking : ∀ document ∈ documents, document.embedding = none)
    (takes : collection.Takes dimensions vector documents) (concurrency loadConcurrency : Nat) :
    let world := collection.run operations start
    let added := (collection.add concurrency documents).outcome world
    let loaded := (collection.load loadConcurrency documents).outcome world
    added.1 = .ok documents.length ∧ loaded.1 = .ok documents.length ∧
      get loaded.2.state = get added.2.state ∧
      ((documents.map (·.id)).Nodup →
        (∀ order, order.Perm documents → ∀ width,
          let other := (collection.add width order).outcome world
          other.1 = .ok documents.length ∧ (get other.2.state).Same (get added.2.state)) ∧
        ∀ calls, Interleaved (documents.map (addTask vector)) calls →
          ∃ after, collection.Makes world calls after ∧
            (get after.state).Same (get added.2.state)) := by
  intro world added loaded
  obtain ⟨afterAdd, addEnds, addStored⟩ := add_inserts inMemory takes concurrency world
  obtain ⟨afterLoad, loadEnds, loadStored⟩ :=
    load_inserts inMemory takes lacking loadConcurrency world
  have addedState : get added.2.state = _ := (congrArg (get ·.2.state) addEnds).trans addStored
  have loadedState : get loaded.2.state = _ := (congrArg (get ·.2.state) loadEnds).trans loadStored
  refine ⟨congrArg Prod.fst addEnds, congrArg Prod.fst loadEnds,
    loadedState.trans addedState.symm, fun distinct => ?_⟩
  obtain ⟨written, holds⟩ : Holds get dimensions world :=
    Holds.run inMemory operations ⟨[], empty ▸ MemoryStore.Holds.empty⟩
  have apart : ((documents.map (Document.embeddedBy vector)).map (·.id)).Nodup := by
    rw [List.map_map]
    exact distinct
  rw [addedState]
  constructor
  · intro order reordered width
    obtain ⟨after, ends, stored⟩ :=
      add_inserts inMemory (takes.of_subset fun _ member => reordered.subset member) width world
    refine ⟨(congrArg Prod.fst ends).trans (by rw [reordered.length_eq]), ?_⟩
    rw [congrArg (get ·.2.state) ends, stored]
    exact holds.insertAll_same takes.fits_embedded apart (reordered.map _)
  · intro calls interleaved
    have asked : ∀ answered ∈ calls, ∃ document ∈ documents, answered ∈ addTask vector document := by
      intro answered member
      obtain ⟨task, ofDocuments, ofTask⟩ :=
        List.mem_flatten.mp (interleaved.perm.subset member)
      obtain ⟨document, present, rfl⟩ := List.mem_map.mp ofDocuments
      exact ⟨document, present, ofTask⟩
    obtain ⟨after, made, stored⟩ := makes_inserts inMemory takes asked world
    refine ⟨after, made, ?_⟩
    have reordered := interleaved.perm.flatMap_right Call.Answered.stored
    rw [stored_addTasks] at reordered
    rw [stored]
    exact holds.insertAll_same takes.fits_embedded apart reordered

/-- The second task gets ahead of the first one, whose document replaces one that is there. -/
theorem add_and_load_agree_in_turns :
    let vector : String → Embedding := fun text => if text = "x" then [1] else [2]
    let collection : Collection MemoryStore :=
      ⟨MemoryStore.standalone (some 1), ⟨fun text => pure (vector text)⟩, .abort⟩
    let operations : List Operation := [.call (.push ⟨"a", "old", [], some [7]⟩)]
    let documents : List Document := [⟨"a", "x", [], none⟩, ⟨"b", "y", [], none⟩]
    let calls : List Call.Answered := [⟨.embed "x", .ok [1]⟩, ⟨.embed "y", .ok [2]⟩,
      ⟨.push ⟨"b", "y", [], some [2]⟩, .ok ()⟩, ⟨.push ⟨"a", "x", [], some [1]⟩, .ok ()⟩]
    let world := collection.run operations (.start .empty ⟨0⟩)
    let added := (collection.add 2 documents).outcome world
    let loaded := (collection.load 1 documents).outcome world
    (documents.map (·.id)).Nodup ∧ Interleaved (documents.map (addTask vector)) calls ∧
      added.1 = .ok 2 ∧ loaded.1 = .ok 2 ∧ loaded.2.state = added.2.state ∧
      ∃ after, collection.Makes world calls after ∧ after.state.Same added.2.state := by
  intro vector collection operations documents calls world added loaded
  have inMemory : collection.InMemory id (fun store _ => store) (some 1) :=
    ⟨rfl, fun _ _ => rfl, fun _ _ => rfl⟩
  have lacking : ∀ document ∈ documents, document.embedding = none := by simp [documents]
  have takes : collection.Takes (some 1) vector documents := by
    refine ⟨fun _ _ _ => rfl, ?_⟩
    rintro document -
    refine ⟨_, rfl, ?_⟩
    rintro expected ⟨⟩
    simp only [vector]
    split <;> rfl
  have distinct : (documents.map (·.id)).Nodup := by decide
  have first : Interleaved [[], []] ([] : List Call.Answered) := .done (by simp)
  have turns : Interleaved (documents.map (addTask vector)) calls :=
    @Interleaved.step _ [] _ _ _ _ (@Interleaved.step _ [_] [] _ _ _
      (@Interleaved.step _ [_] [] _ _ _ (@Interleaved.step _ [] _ _ _ _ first)))
  obtain ⟨addEnds, loadEnds, same, others⟩ :=
    @add_and_load_agree _ collection id (fun store _ => store) (some 1) vector documents inMemory
      operations (.start .empty ⟨0⟩) rfl lacking takes 2 1
  exact ⟨distinct, turns, addEnds, loadEnds, same, (others distinct).2 calls turns⟩

end Collection

end VectorSearch
