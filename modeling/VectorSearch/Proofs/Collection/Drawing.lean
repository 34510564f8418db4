import VectorSearch.Deployment
import VectorSearch.Proofs.Activity

namespace VectorSearch

/-! What activities draw.

Nothing is known of a source of identifiers but what has been drawn from it. Two runs of one activity
come to the same from different sources if they draw the same identifiers, as they do where none are
drawn at all.
-/

namespace IdSource

/-- The source after a number of draws. -/
def skip (ids : IdSource) (count : Nat) : IdSource :=
  { ids with drawn := ids.drawn + count }

/-- The identifier that comes after a number of draws. -/
def ahead (ids : IdSource) (count : Nat) : String :=
  ids.generator.identifier (ids.drawn + count)

/-- Both give the same identifiers, a number of times. -/
def Alike (ids others : IdSource) (count : Nat) : Prop :=
  ∀ place < count, ids.ahead place = others.ahead place

variable {ids others : IdSource} {count more : Nat}

theorem skip_skip : (ids.skip count).skip more = ids.skip (count + more) :=
  congrArg (fun drawn => ({ ids with drawn } : IdSource)) (Nat.add_assoc ids.drawn count more)

theorem Alike.left (alike : ids.Alike others (count + more)) : ids.Alike others count :=
  fun place before => alike place (Nat.lt_add_right more before)

theorem Alike.right (alike : ids.Alike others (count + more)) :
    (ids.skip count).Alike (others.skip count) more := by
  intro place before
  simp only [ahead, skip, Nat.add_assoc]
  exact alike (count + place) (Nat.add_lt_add_left before count)

end IdSource

/-- A world in which identifiers are drawn from another source. -/
def World.drawing (world : World σ) (ids : IdSource) : World σ :=
  { world with ids }

theorem Document.Draft.completeAll_draws (drafts : List Document.Draft) (ids : IdSource) :
    ∃ count, (completeAll ids drafts).2 = ids.skip count ∧
      ∀ others, ids.Alike others count →
        completeAll others drafts = ((completeAll ids drafts).1, others.skip count) := by
  induction drafts generalizing ids with
  | nil => exact ⟨0, rfl, fun _ _ => rfl⟩
  | cons draft rest ih =>
      cases named : draft.id with
      | some id =>
          obtain ⟨count, kept, moved⟩ := ih ids
          refine ⟨count, ?_, fun others alike => ?_⟩
          · simp only [completeAll, named, kept]
          · simp only [completeAll, named, moved others alike]
      | none =>
          obtain ⟨count, kept, moved⟩ := ih (ids.skip 1)
          refine ⟨1 + count, ?_, fun others alike => ?_⟩
          · rw [← IdSource.skip_skip, ← kept]
            simp only [completeAll, named]
            rfl
          · have first : ids.next.1 = others.next.1 := alike 0 (by omega)
            have behind : completeAll others.next.2 rest = _ := moved (others.skip 1) alike.right
            simp only [completeAll, named, behind, first, IdSource.skip_skip]
            rfl

namespace Act

/-- What an activity comes to depends on the identifiers that it draws, and on no others. -/
def Draws (act : Act σ ε α) : Prop :=
  ∀ world, ∃ count, (act.outcome world).2.ids = world.ids.skip count ∧
    ∀ others, world.ids.Alike others count →
      act.outcome (world.drawing others) =
        ((act.outcome world).1, (act.outcome world).2.drawing (others.skip count))

/-- A run from another source draws what a run in the world draws, if that draws anything. -/
def DrawsAlike (act : Act σ ε α) (world : World σ) (others : IdSource) : Prop :=
  ∀ place, world.ids.drawn + place < (act.outcome world).2.ids.drawn →
    world.ids.ahead place = others.ahead place

theorem DrawsAlike.of_undrawn {act : Act σ ε α} {world : World σ} {others : IdSource}
    (undrawn : (act.outcome world).2.ids.drawn ≤ world.ids.drawn) : act.DrawsAlike world others :=
  fun place before => absurd (Nat.lt_of_lt_of_le before undrawn)
    (Nat.not_lt.mpr (Nat.le_add_right _ place))

theorem Draws.outcome_drawing {act : Act σ ε α} (draws : act.Draws) {world : World σ}
    {others : IdSource} (alike : act.DrawsAlike world others) :
    ∃ left, act.outcome (world.drawing others) =
      ((act.outcome world).1, (act.outcome world).2.drawing left) := by
  obtain ⟨count, kept, moved⟩ := draws world
  refine ⟨others.skip count, moved others fun place before => alike place ?_⟩
  rw [kept]
  exact Nat.add_lt_add_left before _

/-- An activity that leaves the source alone draws nothing. -/
theorem Draws.of_blind {act : Act σ ε α} (blind : ∀ world others,
      act.outcome (world.drawing others) =
        ((act.outcome world).1, (act.outcome world).2.drawing others)) : act.Draws := by
  intro world
  refine ⟨0, ?_, fun others _ => blind world others⟩
  have same : act.outcome world = ((act.outcome world).1, (act.outcome world).2.drawing world.ids) :=
    blind world world.ids
  exact congrArg (fun outcome => outcome.2.ids) same

theorem Draws.bind {act : Act σ ε α} {next : α → Act σ ε β} (first : act.Draws)
    (others : ∀ value, (next value).Draws) : (act >>= next).Draws := by
  intro world
  obtain ⟨count, kept, moved⟩ := first world
  simp only [outcome_bind]
  rcases ends : act.outcome world with ⟨reason | value, after⟩
  · simp only [ends] at kept moved ⊢
    refine ⟨count, kept, fun ids alike => ?_⟩
    rw [moved ids alike]
  · simp only [ends] at kept moved ⊢
    obtain ⟨more, kept', moved'⟩ := others value after
    rw [kept] at kept' moved'
    refine ⟨count + more, ?_, fun ids alike => ?_⟩
    · rw [kept', IdSource.skip_skip]
    · rw [moved ids alike.left]
      exact (moved' (ids.skip count) alike.right).trans (by rw [IdSource.skip_skip])

theorem draws_pure (value : α) : (pure value : Act σ ε α).Draws :=
  .of_blind fun _ _ => rfl

theorem draws_fail (reason : ε) : (fail reason : Act σ ε α).Draws :=
  .of_blind fun _ _ => rfl

theorem draws_ofExcept (result : Except ε α) : (ofExcept result : Act σ ε α).Draws :=
  .of_blind fun _ _ => rfl

theorem draws_state : (state : Act σ ε σ).Draws :=
  .of_blind fun _ _ => rfl

theorem draws_measure (measured : Measure) : (measure measured : Act σ ε Unit).Draws :=
  .of_blind fun _ _ => rfl

theorem draws_exchange (network : Http.Network σ) (request : Http.Request) :
    (exchange network request : Act σ ε (Option Http.Response)).Draws :=
  .of_blind fun world others => by
    rw [outcome_exchange_answer, outcome_exchange_answer]
    rfl

theorem draws_complete (drafts : List Document.Draft) :
    (complete drafts : Act σ ε (List Document)).Draws := by
  intro world
  obtain ⟨count, kept, moved⟩ := Document.Draft.completeAll_draws drafts world.ids
  refine ⟨count, kept, fun others alike => ?_⟩
  have there : Document.Draft.completeAll (world.drawing others).ids drafts = _ := moved others alike
  rw [outcome_complete, there]
  rfl

theorem Draws.mapError {act : Act σ ε α} (draws : act.Draws) (wrap : ε → φ) :
    (Act.mapError wrap act).Draws := by
  intro world
  obtain ⟨count, kept, moved⟩ := draws world
  refine ⟨count, kept, fun others alike => ?_⟩
  rw [outcome_mapError, outcome_mapError, moved others alike]

end Act

open Act

theorem EmbeddingEndpoint.draws_embed (endpoint : EmbeddingEndpoint) (network : Http.Network σ)
    (text : String) : ((endpoint.embedder network).embed text).Draws := by
  refine .bind ?_ fun result => .bind (draws_measure _) fun _ => draws_ofExcept result
  rw [ask]
  cases endpoint.request text with
  | error reason => exact draws_pure _
  | ok request =>
      refine .bind (draws_exchange network request) fun response => ?_
      cases response <;> exact draws_pure _

theorem MemoryStore.draws_fetch (get : σ → MemoryStore) (put : MemoryStore → σ → σ)
    (dimensions : Option Nat) (filter : Option Filter) :
    ((MemoryStore.backend get put dimensions).fetch filter).Draws :=
  .bind draws_state fun _ => .bind (draws_ofExcept _) fun documents =>
    .bind (draws_measure _) fun _ => draws_pure documents

namespace PayloadStore

theorem draws_failed (store : PayloadStore) (operation : String) (reason : StoreError) :
    (store.failed operation reason : Act σ StoreError α).Draws :=
  .bind (draws_measure _) fun _ => draws_fail reason

/-- A fetch draws an identifier for each document that is listed without one. -/
theorem draws_fetch (store : PayloadStore) (network : Http.Network σ) (filter : Option Filter) :
    ((store.backend network).fetch filter).Draws := by
  refine .bind (draws_ofExcept _) fun request => .bind ?_ fun body => ?_
  · refine .bind (draws_exchange network request) fun response => ?_
    cases response with
    | none => exact store.draws_failed _ _
    | some response =>
        dsimp only
        split
        next => exact draws_pure _
        next => exact store.draws_failed _ _
  · cases Json.readWith (Json.Shape.list Document.Draft.shape) body with
    | error refusal => exact store.draws_failed _ _
    | ok drafts =>
        exact .bind (draws_complete drafts) fun documents =>
          .bind (draws_measure _) fun _ => draws_pure documents

end PayloadStore

namespace Collection

variable {collection : Collection σ}

theorem draws_searchByEmbedding (fetches : ∀ filter, (collection.backend.fetch filter).Draws)
    (query : Embedding) (limits : Limits) : (collection.searchByEmbedding query limits).Draws := by
  refine .bind (draws_ofExcept _) fun _ => .bind (fetches _) fun documents => ?_
  dsimp only
  split
  next => exact draws_fail _
  next => exact .bind (draws_measure _) fun _ => draws_pure _

theorem draws_search (embeds : ∀ text, (collection.embedder.embed text).Draws)
    (fetches : ∀ filter, (collection.backend.fetch filter).Draws) (request : SearchRequest) :
    (collection.search request).Draws :=
  .bind (draws_ofExcept _) fun _ => .bind ((embeds _).mapError _) fun query =>
    draws_searchByEmbedding fetches query request.limits

end Collection

theorem StoreSettings.draws_fetch {settings : StoreSettings} {negation : NegationStyle}
    {network : Http.Network σ} {backend : Backend (Deployment σ)}
    (stored : settings.backend negation network = .ok backend) (filter : Option Filter) :
    (backend.fetch filter).Draws := by
  cases settings with
  | memory memory =>
      cases stored
      exact MemoryStore.draws_fetch _ _ _ filter
  | payload layout payload =>
      rw [StoreSettings.backend] at stored
      split at stored
      next store _ =>
        cases stored
        exact store.draws_fetch _ filter
      next => cases stored

/-- A search for what settings describe depends on the identifiers that it draws, and on no others. -/
theorem Settings.draws_search {settings : Settings} {network : Http.Network σ}
    {collection : Collection (Deployment σ)} (built : settings.collection network = .ok collection)
    (request : SearchRequest) : (collection.search request).Draws := by
  rw [Settings.collection] at built
  split at built
  next backend stored =>
    obtain rfl := Except.ok.inj built
    refine Collection.draws_search (fun text => ?_) (fun filter => ?_) request
    · exact settings.embedding.endpoint.draws_embed (Deployment.reach network) text
    · exact StoreSettings.draws_fetch stored filter
  next => cases built

end VectorSearch
