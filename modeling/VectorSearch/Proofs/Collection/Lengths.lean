import VectorSearch.Deployment
import VectorSearch.Http.Script
import VectorSearch.Proofs.Collection.Adding
import VectorSearch.Proofs.Settings.Accepted

namespace VectorSearch

/-- A backend refuses a document for the embedding that it has, or has not. -/
def StoreError.BlamesEmbedding : StoreError → Prop
  | .dimensionMismatch _ _ => True
  | .missingEmbedding _ => True
  | _ => False

namespace Settings

variable {settings : Settings}

theorem dimensions_eq_of_validate (valid : settings.validate = .ok ()) {stored embedded : Nat}
    (storeLength : settings.store.dimensions = some stored)
    (embeddingLength : settings.embedding.dimensions = some embedded) : stored = embedded := by
  simp only [validate, Json.bind_eq_ok_iff] at valid
  obtain ⟨-, -, -, -, -, -, agree⟩ := valid
  rw [storeLength, embeddingLength, checkDimensions, require] at agree
  split at agree
  next same => exact of_decide_eq_true same
  next => cases agree

end Settings

namespace EmbeddingEndpoint

def withAnyLength (endpoint : EmbeddingEndpoint) : EmbeddingEndpoint :=
  { endpoint with dimensions := none }

/-- The endpoint answers a text with a vector, of whatever length. -/
def Offers (endpoint : EmbeddingEndpoint) (network : Http.Network σ) (text : String) (state : σ)
    (vector : Embedding) : Prop :=
  ∃ request response, endpoint.request text = .ok request ∧ request.isSendable = true ∧
    (network.send request state).1 = some response ∧
    endpoint.withAnyLength.read response = .ok vector

variable {endpoint : EmbeddingEndpoint} {length : Nat}

/-- The length is checked last. -/
theorem read_eq_bind (fixed : endpoint.dimensions = some length) (response : Http.Response) :
    endpoint.read response = endpoint.withAnyLength.read response >>= fun vector =>
      if vector.length = length then .ok vector
      else .error (.dimensionMismatch length vector.length) := by
  simp only [read, withAnyLength, fixed]
  split
  next => rfl
  next => split <;> rfl

theorem length_of_read (fixed : endpoint.dimensions = some length) {response : Http.Response}
    {vector : Embedding} (read : endpoint.read response = .ok vector) :
    vector.length = length := by
  rw [read_eq_bind fixed, Json.bind_eq_ok_iff] at read
  obtain ⟨offered, -, checked⟩ := read
  split at checked
  next same =>
    cases checked
    exact same
  next => cases checked

variable {network : Http.Network σ} {text : String} {world : World σ} {vector : Embedding}

theorem embed_offered (fixed : endpoint.dimensions = some length)
    (offers : endpoint.Offers network text world.state vector) :
    (((endpoint.embedder network).embed text).outcome world).1 =
      if vector.length = length then .ok vector
      else .error (.dimensionMismatch length vector.length) := by
  obtain ⟨request, response, requested, sendable, answered, offered⟩ := offers
  have read := read_eq_bind fixed response
  rw [offered] at read
  simp only [embedder, ask, requested, Act.outcome_bind, Act.outcome_exchange, if_pos sendable,
    answered, Act.outcome_pure, Act.outcome_measure, Act.outcome_ofExcept]
  exact read

end EmbeddingEndpoint

theorem MemoryStore.push_fitting (get : σ → MemoryStore) (put : MemoryStore → σ → σ)
    {dimensions : Option Nat} {document : Document} (fits : Fits dimensions document)
    (world : World σ) :
    (((backend get put dimensions).push document).outcome world).1 = .ok () := by
  rw [push_outcome, check_eq_ok_iff.mpr fits]

theorem PayloadStore.check_fitting {store : PayloadStore} {document : Document}
    (fits : MemoryStore.Fits store.dimensions document) : store.check document = .ok () := by
  obtain ⟨embedding, found, expected⟩ := fits
  rw [check]
  split
  next => rfl
  next none => cases none.symm.trans found
  next fixed some =>
    cases some.symm.trans found
    rw [if_pos (expected _ fixed)]

theorem PayloadStore.endpoint_error {store : PayloadStore} {suffix : String}
    {query : Option String} {reason : StoreError}
    (failed : store.endpoint suffix query = .error reason) : ¬ reason.BlamesEmbedding := by
  unfold endpoint at failed
  dsimp only at failed
  split at failed <;> cases failed
  exact id

theorem PayloadStore.perform_error {store : PayloadStore} {network : Http.Network σ}
    {operation : String} {request : Http.Request} {world : World σ} {reason : StoreError}
    (failed : ((store.perform network operation request).outcome world).1 = .error reason) :
    ¬ reason.BlamesEmbedding := by
  have noResponse : ∀ {cause : StoreError} {between : World σ}, ¬ cause.BlamesEmbedding →
      ((store.failed operation cause : Act σ StoreError String).outcome between).1 =
        .error reason → ¬ reason.BlamesEmbedding := by
    rintro cause between harmless ⟨⟩
    exact harmless
  simp only [perform, Act.outcome_bind, Act.outcome_exchange] at failed
  by_cases sendable : request.isSendable = true
  · rw [if_pos sendable] at failed
    dsimp only at failed
    split at failed
    · exact noResponse id failed
    · split at failed
      · cases failed
      · exact noResponse id failed
  · rw [if_neg sendable] at failed
    exact noResponse id failed

/-- A store that finds no fault with a document can only fail to reach its server, or be refused by
it. -/
theorem PayloadStore.push_fitting {store : PayloadStore} {network : Http.Network σ}
    {document : Document} (fits : MemoryStore.Fits store.dimensions document) {world : World σ}
    {reason : StoreError}
    (failed : (((store.backend network).push document).outcome world).1 = .error reason) :
    ¬ reason.BlamesEmbedding := by
  simp only [backend, pushRequest, check_fitting fits, Act.outcome_bind, Act.outcome_ofExcept]
    at failed
  cases address : store.endpoint "payload" none with
  | error cause =>
      rw [address] at failed
      cases failed
      exact endpoint_error address
  | ok url =>
      rw [address] at failed
      dsimp only [bind, Except.bind, pure, Except.pure] at failed
      split at failed
      next => cases failed
      next performed =>
        cases failed
        exact perform_error (congrArg Prod.fst performed)

namespace Collection

/-- All vectors are made with the length, and no document is refused for a vector of it. -/
structure KeepsLength (collection : Collection σ) (length : Nat) : Prop where
  embeds : ∀ {text world vector},
    ((collection.embedder.embed text).outcome world).1 = .ok vector → vector.length = length
  stores : ∀ {document world reason}, MemoryStore.Fits (some length) document →
    ((collection.backend.push document).outcome world).1 = .error reason → ¬ reason.BlamesEmbedding

theorem stores_of_settings {settings : StoreSettings} {negation : NegationStyle}
    {network : Http.Network σ} {backend : Backend (Deployment σ)}
    (built : settings.backend negation network = .ok backend) {document : Document}
    {world : World (Deployment σ)} {reason : StoreError}
    (fits : MemoryStore.Fits settings.dimensions document)
    (failed : ((backend.push document).outcome world).1 = .error reason) :
    ¬ reason.BlamesEmbedding := by
  cases settings with
  | memory memory =>
      cases built
      have done := MemoryStore.push_fitting Deployment.documents Deployment.setDocuments fits world
      cases done.symm.trans failed
  | payload layout payload =>
      simp only [StoreSettings.backend, PayloadSettings.store, PayloadStore.ofBase] at built
      cases parsed : Url.parse payload.base with
      | error fault => simp [parsed] at built
      | ok url =>
          simp only [parsed] at built
          cases built
          exact PayloadStore.push_fitting fits failed

theorem embeds_of_dimensions {endpoint : EmbeddingEndpoint} {length : Nat}
    (fixed : endpoint.dimensions = some length) {network : Http.Network σ} {text : String}
    {world : World σ} {vector : Embedding}
    (embedded : (((endpoint.embedder network).embed text).outcome world).1 = .ok vector) :
    vector.length = length := by
  obtain ⟨asks, asked, -⟩ := embed_asks endpoint network text world
  rw [embedded] at asked
  obtain ⟨response, read⟩ := asked.read
  exact endpoint.length_of_read fixed read

theorem keepsLength_of_settings {settings : Settings} {network : Http.Network σ}
    {collection : Collection (Deployment σ)} (built : settings.collection network = .ok collection)
    {length : Nat} (storeLength : settings.store.dimensions = some length)
    (embeddingLength : settings.embedding.dimensions = some length) :
    collection.KeepsLength length ∧
      collection.embedder = settings.embedding.endpoint.embedder (Deployment.reach network) := by
  rw [Settings.collection] at built
  split at built
  next backend stored =>
    cases built
    refine ⟨⟨embeds_of_dimensions embeddingLength, fun fits failed => ?_⟩, rfl⟩
    rw [← storeLength] at fits
    exact stores_of_settings stored fits failed
  next => cases built

variable {collection : Collection σ} {world between after : World σ} {documents : List Document}
  {length : Nat}

theorem push_mem_addCalls {vectors : List Embedding} {pushed : Document}
    {answer : (Call.push pushed).Answer}
    (present : ⟨.push pushed, answer⟩ ∈ addCalls documents vectors) :
    ∃ (document : Document) (vector : Embedding),
      pushed = { document with embedding := some vector } ∧
      ⟨.embed document.content, .ok vector⟩ ∈ addCalls documents vectors := by
  induction documents generalizing vectors with
  | nil => cases present
  | cons document rest ih =>
      cases vectors with
      | nil => cases present
      | cons vector others =>
          rcases List.mem_cons.mp present with same | behind
          · cases same
          rcases List.mem_cons.mp behind with same | later
          · cases same
            exact ⟨document, vector, rfl, .head _⟩
          · obtain ⟨other, found, same, embedded⟩ := ih later
            exact ⟨other, found, same, .tail _ (.tail _ embedded)⟩

theorem push_mem_of_adds {calls : List Call.Answered} {result : Except StoreError Nat}
    (adds : Adds documents calls result) {pushed : Document} {answer : (Call.push pushed).Answer}
    (present : ⟨.push pushed, answer⟩ ∈ calls) :
    ∃ (document : Document) (vector : Embedding),
      pushed = { document with embedding := some vector } ∧
      ⟨.embed document.content, .ok vector⟩ ∈ calls := by
  cases adds with
  | added answered => exact push_mem_addCalls present
  | unembedded order answered =>
      rcases List.mem_append.mp present with before | last
      · obtain ⟨document, vector, same, embedded⟩ := push_mem_addCalls before
        exact ⟨document, vector, same, List.mem_append_left _ embedded⟩
      · cases List.mem_singleton.mp last
  | @unstored done rest document vectors vector reason order answered =>
      rcases List.mem_append.mp present with before | last
      · obtain ⟨document, vector, same, embedded⟩ := push_mem_addCalls before
        exact ⟨document, vector, same, List.mem_append_left _ embedded⟩
      · rcases List.mem_cons.mp last with same | last
        · cases same
        cases List.mem_singleton.mp last
        exact ⟨document, vector, rfl, List.mem_append_right _ (.head _)⟩

/-- Every document that an addition hands over has a vector of the length. -/
theorem Makes.push_fits (keeps : collection.KeepsLength length) {calls : List Call.Answered}
    {result : Except StoreError Nat} (adds : Adds documents calls result)
    (made : collection.Makes world calls after) {pushed : Document}
    {answer : (Call.push pushed).Answer} (present : ⟨.push pushed, answer⟩ ∈ calls) :
    MemoryStore.Fits (some length) pushed := by
  obtain ⟨document, vector, rfl, embedded⟩ := push_mem_of_adds adds present
  obtain ⟨before, answered⟩ := made.exists_make embedded
  exact ⟨vector, rfl, fun expected same => Option.some.inj same ▸ keeps.embeds answered⟩

theorem add_error (keeps : collection.KeepsLength length) {calls : List Call.Answered}
    {reason : StoreError} (adds : Adds documents calls (.error reason))
    (made : collection.Makes world calls after) : ¬ reason.BlamesEmbedding := by
  cases adds with
  | unembedded order answered => exact id
  | @unstored done rest document vectors vector reason order answered =>
      have last : ⟨.push { document with embedding := some vector }, .error reason⟩ ∈
          addCalls done vectors ++ [⟨.embed document.content, .ok vector⟩,
            ⟨.push { document with embedding := some vector }, .error reason⟩] :=
        List.mem_append_right _ (.tail _ (.head _))
      have fits := made.push_fits keeps (Adds.unstored order answered) last
      obtain ⟨before, refused⟩ := made.exists_make last
      exact keeps.stores fits refused

/-- A document that ends an addition ends it in the world that it leaves. -/
theorem add_refused {concurrency : Nat} {done rest : List Document} {document : Document}
    {reason : StoreError}
    (added : (collection.add concurrency done).outcome world = (.ok done.length, between))
    (refused : (collection.addOne document).outcome between = (.error reason, after)) :
    (collection.add concurrency (done ++ document :: rest)).outcome world =
      (.error reason, after) := by
  rw [add_eq, bind_pure_comp, Act.outcome_map] at added ⊢
  cases stored : (done.mapM collection.addOne).outcome world with
  | mk result between' =>
      rw [stored] at added
      cases result with
      | error reason => cases congrArg Prod.fst added
      | ok results =>
          obtain rfl : between' = between := congrArg Prod.snd added
          rw [List.mapM_append, Act.outcome_bind, stored]
          dsimp only
          rw [Act.outcome_bind, Act.outcome_mapM_cons, refused]
          rfl

/-- Where settings fix the length of vectors on both sides, an addition never fails for a length in
the store, nor for a missing vector. All documents that are handed to the backend have a vector of
that length, and the first vector of another one that the endpoint answers with ends the addition,
before the document that it is for is handed over. -/
theorem add_of_settings_with_lengths {lookup : String → Option String} {text : String}
    {settings : Settings} {network : Http.Network σ} {collection : Collection (Deployment σ)}
    {length embeddingLength : Nat} (accepted : Settings.ofText lookup text = .ok settings)
    (built : settings.collection network = .ok collection)
    (stored : settings.store.dimensions = some length)
    (embedded : settings.embedding.dimensions = some embeddingLength) (concurrency : Nat)
    (documents : List Document) (world : World (Deployment σ)) :
    let outcome := (collection.add concurrency documents).outcome world
    (∀ expected actual, outcome.1 ≠ .error (.dimensionMismatch expected actual)) ∧
    (∀ id, outcome.1 ≠ .error (.missingEmbedding id)) ∧
    (∃ calls, Adds documents calls outcome.1 ∧ collection.Makes world calls outcome.2 ∧
      ∀ document answer, ⟨.push document, answer⟩ ∈ calls →
        MemoryStore.Fits (some length) document) ∧
    ∀ done document rest between vector, documents = done ++ document :: rest →
      (collection.add concurrency done).outcome world = (.ok done.length, between) →
      settings.embedding.endpoint.Offers (Deployment.reach network) document.content between.state
        vector →
      vector.length ≠ length →
      outcome = (.error (.embedding (.dimensionMismatch length vector.length)),
        ((collection.embedder.embed document.content).outcome between).2) := by
  intro outcome
  obtain rfl : length = embeddingLength :=
    Settings.dimensions_eq_of_validate (Settings.validate_of_ofText accepted) stored embedded
  obtain ⟨keeps, embedder⟩ := keepsLength_of_settings built stored embedded
  obtain ⟨calls, adds, made⟩ := add_makes collection concurrency documents world
  have harmless : ∀ reason, outcome.1 = .error reason → ¬ reason.BlamesEmbedding := by
    intro reason failed
    exact add_error keeps (failed ▸ adds) made
  refine ⟨fun expected actual failed => harmless _ failed trivial,
    fun id failed => harmless _ failed trivial,
    ⟨calls, adds, made, fun document answer present => made.push_fits keeps adds present⟩, ?_⟩
  rintro done document rest between vector rfl added offers other
  have refused := EmbeddingEndpoint.embed_offered embedded offers
  rw [if_neg other, ← embedder] at refused
  refine add_refused added ?_
  simp only [addOne, embed, Act.outcome_bind, Act.outcome_mapError]
  generalize (collection.embedder.embed document.content).outcome between = answered at refused ⊢
  obtain ⟨_, after⟩ := answered
  cases refused
  rfl

/-- The second document is answered with a vector of three entries where two are asked for. -/
theorem add_of_settings_with_another_length :
    let settings : Settings :=
      { Settings.default with
        store := .memory ⟨4, some 2⟩
        embedding := ⟨"http://127.0.0.1:9000", "m", none, some 2, 30⟩ }
    let text := "[store]\ntype = \"memory\"\ndimensions = 2\n" ++
      "[embedding]\nbase_url = \"http://127.0.0.1:9000\"\nmodel = \"m\"\ndimensions = 2\n"
    let answers : List (Option Http.Response) :=
      [some ⟨200, "\x7b\"data\":[\x7b\"embedding\":[1,0]\x7d]\x7d"⟩,
        some ⟨200, "\x7b\"data\":[\x7b\"embedding\":[1,2,3]\x7d]\x7d"⟩]
    let documents : List Document :=
      [⟨"a", "x", [], none⟩, ⟨"b", "y", [], some [7, 7]⟩, ⟨"c", "z", [], none⟩]
    let world : World (Deployment Http.Script) := .start (.start (.ofAnswers answers)) ⟨0⟩
    Settings.ofText (fun _ => none) text = .ok settings ∧
    ∃ collection, settings.collection Http.Script.network = .ok collection ∧
      let outcome := (collection.add 4 documents).outcome world
      outcome.1 = .error (.embedding (.dimensionMismatch 2 3)) ∧
        outcome.2.state.documents.documents.map Document.id = ["a"] := by
  intro settings text answers documents world
  have accepted : Settings.ofText (fun _ => none) text = .ok settings := by decide +kernel
  let endpoint := settings.embedding.endpoint
  let collection : Collection (Deployment Http.Script) :=
    ⟨MemoryStore.backend Deployment.documents Deployment.setDocuments (some 2),
      endpoint.embedder (Deployment.reach Http.Script.network), .abort⟩
  have built : settings.collection Http.Script.network = .ok collection := rfl
  let between := ((collection.add 4 [⟨"a", "x", [], none⟩]).outcome world).2
  have succeeded : ((collection.add 4 [⟨"a", "x", [], none⟩]).outcome world).1 = .ok 1 := by
    decide +kernel
  have added : (collection.add 4 [⟨"a", "x", [], none⟩]).outcome world = (.ok 1, between) :=
    succeeded ▸ Prod.mk.eta.symm
  have offers : endpoint.Offers (Deployment.reach Http.Script.network) "y" between.state
      [1, 2, 3] := by
    have sendable : (endpoint.request "y").toOption.map Http.Request.isSendable = some true := by
      decide +kernel
    have left : between.state.network.answers = answers.drop 1 := by decide +kernel
    cases requested : endpoint.request "y" with
    | error reason => simp [requested, Except.toOption] at sendable
    | ok request =>
        have sends : request.isSendable = true := by
          simpa [requested, Except.toOption] using sendable
        have read : endpoint.withAnyLength.read
            ⟨200, "\x7b\"data\":[\x7b\"embedding\":[1,2,3]\x7d]\x7d"⟩ = .ok [1, 2, 3] := by
          decide +kernel
        have answered : ((Deployment.reach Http.Script.network).send request between.state).1 =
            some ⟨200, "\x7b\"data\":[\x7b\"embedding\":[1,2,3]\x7d]\x7d"⟩ := by
          simp only [Deployment.reach, Http.Script.network, left]
          rfl
        exact ⟨request, _, requested, sends, answered, read⟩
  obtain ⟨-, -, -, ended⟩ := @add_of_settings_with_lengths _ _ _ settings Http.Script.network
    collection 2 2 accepted built rfl rfl 4 documents world
  have refused := ended [⟨"a", "x", [], none⟩] ⟨"b", "y", [], some [7, 7]⟩ [⟨"c", "z", [], none⟩]
    between [1, 2, 3] rfl added offers (by decide +kernel)
  have stored : ((collection.add 4 documents).outcome world).2.state.documents.documents.map
      Document.id = ["a"] := by decide +kernel
  exact ⟨accepted, collection, built, congrArg Prod.fst refused, stored⟩

end Collection

end VectorSearch
