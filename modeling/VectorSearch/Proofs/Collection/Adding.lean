import VectorSearch.Collection
import VectorSearch.Embedding.Endpoint
import VectorSearch.Proofs.Collection.Interleaving
import VectorSearch.Proofs.Store.RoundTrip

namespace VectorSearch

/-! What adding documents over networks leaves behind to be fetched.

A document is stored with the vector of the reply to its own text. Whatever number such a reply
holds becomes a single, and one that is too large for that becomes infinite. An infinite number has
no text: a document that is stored with it is never read back, nor is any other that is fetched
along with it.
-/

/-- A text that is read as a document among others. -/
def Document.Readable (text : String) : Prop :=
  (Json.readWith (Json.Shape.list Document.Draft.shape) ("[" ++ text ++ "]")).isOk = true

/-- The endpoint is asked for the vector of a text: the request that is handed over, the vector if
the reply is read as one, and the state that is left. -/
inductive EmbeddingEndpoint.Asks (endpoint : EmbeddingEndpoint) (provider : Http.Network σ)
    (text : String) (state : σ) : List Http.Request → Option Embedding → σ → Prop where
  | unaddressed {reason : EmbeddingError} (refused : endpoint.request text = .error reason) :
      Asks endpoint provider text state [] none state
  | asked {request : Http.Request} {response : Option Http.Response} {after : σ}
      (requested : endpoint.request text = .ok request)
      (answered : provider.answer request state = (response, after)) :
      Asks endpoint provider text state [request]
        (response.bind fun reply => (endpoint.read reply).toOption) after

/-- A document is stored: the request that is handed over, whether it succeeds, and the state that is
left. -/
inductive PayloadStore.Pushes (store : PayloadStore) (network : Http.Network σ)
    (document : Document) (state : σ) : List Http.Request → Bool → σ → Prop where
  | unsent {reason : StoreError} (refused : store.pushRequest document = .error reason) :
      Pushes store network document state [] false state
  | sent {request : Http.Request} {response : Option Http.Response} {after : σ}
      (requested : store.pushRequest document = .ok request)
      (answered : network.answer request state = (response, after)) :
      Pushes store network document state [request] (response.any Http.Response.isSuccess) after

/-- A collection that stores and embeds over networks. -/
def Collection.remote (store : PayloadStore) (network : Http.Network σ)
    (endpoint : EmbeddingEndpoint) (provider : Http.Network σ) (policy : ScoreErrorPolicy) :
    Collection σ where
  backend := store.backend network
  embedder := endpoint.embedder provider
  policy := policy

section

variable (endpoint : EmbeddingEndpoint) (provider : Http.Network σ) (store : PayloadStore)
  (network : Http.Network σ)

/-- Documents are added in order: the requests that are handed over, and the documents as they are
stored, each with the vector of the reply to its own text. The first that is not embedded or not
stored is the last that is touched. -/
inductive Collection.Adding :
    σ → List Document → List Http.Request → List Document → σ → Prop where
  | done {state : σ} : Adding state [] [] [] state
  | unembedded {document : Document} {rest : List Document} {asks : List Http.Request}
      {state after : σ} (asked : endpoint.Asks provider document.content state asks none after) :
      Adding state (document :: rest) asks [] after
  | unstored {document : Document} {rest : List Document} {vector : Embedding}
      {asks pushes : List Http.Request} {state between after : σ}
      (asked : endpoint.Asks provider document.content state asks (some vector) between)
      (pushed : store.Pushes network { document with embedding := some vector } between pushes
        false after) :
      Adding state (document :: rest) (asks ++ pushes) [] after
  | stored {document : Document} {rest stored : List Document} {vector : Embedding}
      {asks pushes requests : List Http.Request} {state between next after : σ}
      (asked : endpoint.Asks provider document.content state asks (some vector) between)
      (pushed : store.Pushes network { document with embedding := some vector } between pushes
        true next)
      (others : Adding next rest requests stored after) :
      Adding state (document :: rest) (asks ++ pushes ++ requests)
        ({ document with embedding := some vector } :: stored) after

end

namespace EmbeddingEndpoint

/-- What a state holds is left alone by requests for vectors. -/
def LeavesAlone (endpoint : EmbeddingEndpoint) (network : Http.Network σ)
    (holds : σ → List Document → Prop) : Prop :=
  ∀ {text request state held}, endpoint.request text = .ok request → holds state held →
    holds (network.send request state).2 held

end EmbeddingEndpoint

section

variable {endpoint : EmbeddingEndpoint} {provider : Http.Network σ} {store : PayloadStore}
  {network : Http.Network σ} {takes : Document → Prop} {holds : σ → List Document → Prop}
  {world : World σ} {held documents stored : List Document} {requests : List Http.Request}
  {state after : σ}

theorem embed_asks (endpoint : EmbeddingEndpoint) (provider : Http.Network σ) (text : String)
    (world : World σ) :
    let outcome := ((endpoint.embedder provider).embed text).outcome world
    ∃ asks, endpoint.Asks provider text world.state asks outcome.1.toOption outcome.2.state ∧
      outcome.2.handed = asks.reverse ++ world.handed := by
  simp only [EmbeddingEndpoint.embedder, EmbeddingEndpoint.ask]
  cases requested : endpoint.request text with
  | error reason => exact ⟨[], .unaddressed requested, rfl⟩
  | ok request =>
      rcases answered : provider.answer request world.state with ⟨_ | response, after⟩
      · refine ⟨[request], ?_⟩
        simp only [Act.outcome_bind, Act.outcome_exchange_answer, answered]
        exact ⟨.asked requested answered, rfl⟩
      · refine ⟨[request], ?_⟩
        simp only [Act.outcome_bind, Act.outcome_exchange_answer, answered]
        exact ⟨.asked requested answered, rfl⟩

theorem push_pushes (store : PayloadStore) (network : Http.Network σ) (document : Document)
    (world : World σ) :
    let outcome := ((store.backend network).push document).outcome world
    ∃ pushes, store.Pushes network document world.state pushes outcome.1.isOk outcome.2.state ∧
      outcome.2.handed = pushes.reverse ++ world.handed := by
  simp only [PayloadStore.backend, Act.outcome_bind, Act.outcome_ofExcept]
  cases requested : store.pushRequest document with
  | error reason => exact ⟨[], .unsent requested, rfl⟩
  | ok request =>
      refine ⟨[request], ?_⟩
      rcases answered : network.answer request world.state with ⟨_ | response, after⟩
      · simp only [PayloadStore.perform, Act.outcome_bind, Act.outcome_exchange_answer, answered]
        exact ⟨.sent requested answered, rfl⟩
      · have pushed := PayloadStore.Pushes.sent requested answered
        simp only [PayloadStore.perform, Act.outcome_bind, Act.outcome_exchange_answer, answered]
        rw [Option.any_some] at pushed
        cases success : response.isSuccess with
        | false =>
            rw [success] at pushed
            exact ⟨pushed, rfl⟩
        | true =>
            rw [success] at pushed
            exact ⟨pushed, rfl⟩

theorem mapM_addOne_adding (endpoint : EmbeddingEndpoint) (provider : Http.Network σ)
    (store : PayloadStore) (network : Http.Network σ) (policy : ScoreErrorPolicy)
    (documents : List Document) (world : World σ) :
    let collection := Collection.remote store network endpoint provider policy
    let outcome := (documents.mapM collection.addOne).outcome world
    ∃ requests stored,
      Collection.Adding endpoint provider store network world.state documents requests stored
        outcome.2.state ∧
      outcome.2.handed = requests.reverse ++ world.handed ∧
      (outcome.1.isOk = true ↔ stored.length = documents.length) := by
  intro collection
  induction documents generalizing world with
  | nil => exact ⟨[], [], .done, rfl, fun _ => rfl, fun _ => rfl⟩
  | cons document rest ih =>
      obtain ⟨asks, asked, handed⟩ := embed_asks endpoint provider document.content world
      rw [Act.outcome_mapM_cons]
      simp only [collection, Collection.remote, Collection.addOne, Collection.embed,
        Act.outcome_bind, Act.outcome_mapError]
      rcases embedded : ((endpoint.embedder provider).embed document.content).outcome world with
        ⟨reason | vector, between⟩
      · rw [embedded] at asked handed
        exact ⟨asks, [], .unembedded asked, handed,
          iff_of_false Bool.false_ne_true (Nat.succ_ne_zero _).symm⟩
      · rw [embedded] at asked handed
        obtain ⟨pushes, pushed, handedBoth⟩ :=
          push_pushes store network { document with embedding := some vector } between
        dsimp only [Except.mapError, Document.withEmbedding]
        rcases stored : ((store.backend network).push
          { document with embedding := some vector }).outcome between with ⟨reason | _, next⟩
        · rw [stored] at pushed handedBoth
          refine ⟨asks ++ pushes, [], .unstored asked pushed, ?_,
            iff_of_false Bool.false_ne_true (Nat.succ_ne_zero _).symm⟩
          rw [handedBoth, handed, List.reverse_append, List.append_assoc]
        · rw [stored] at pushed handedBoth
          obtain ⟨requests, others, adding, handedAll, all⟩ := ih next
          refine ⟨asks ++ pushes ++ requests, _ :: others, .stored asked pushed adding, ?_, ?_⟩
          · refine handedAll.trans ?_
            rw [handedBoth, handed]
            simp
          · rw [List.length_cons, List.length_cons, Nat.succ_inj, ← all]
            change (((rest.mapM collection.addOne).outcome next).1.map _).isOk = true ↔ _
            cases ((rest.mapM collection.addOne).outcome next).1 <;> rfl

theorem add_adding (endpoint : EmbeddingEndpoint) (provider : Http.Network σ)
    (store : PayloadStore) (network : Http.Network σ) (policy : ScoreErrorPolicy)
    (concurrency : Nat) (documents : List Document) (world : World σ) :
    let collection := Collection.remote store network endpoint provider policy
    let outcome := (collection.add concurrency documents).outcome world
    ∃ requests stored,
      Collection.Adding endpoint provider store network world.state documents requests stored
        outcome.2.state ∧
      outcome.2.handed = requests.reverse ++ world.handed ∧
      (outcome.1.isOk = true ↔ stored.length = documents.length) := by
  intro collection
  rw [add_eq, bind_pure_comp, Act.outcome_map]
  obtain ⟨requests, stored, adding, handed, all⟩ :=
    mapM_addOne_adding endpoint provider store network policy documents world
  refine ⟨requests, stored, adding, handed, ?_⟩
  rw [← all]
  cases ((documents.mapM collection.addOne).outcome world).1 <;> rfl

theorem Collection.Adding.mem_stored
    (adding : Collection.Adding endpoint provider store network state documents requests stored
      after) :
    ∀ document ∈ stored, ∃ given ∈ documents, ∃ vector,
      document = { given with embedding := some vector } := by
  induction adding with
  | done | unembedded | unstored => exact List.forall_mem_nil _
  | @stored document rest stored vector asks pushes requests state between next after asked pushed
      others ih =>
      refine List.forall_mem_cons.mpr ⟨⟨document, List.mem_cons_self, vector, rfl⟩, ?_⟩
      intro other member
      obtain ⟨given, present, found⟩ := ih other member
      exact ⟨given, List.mem_cons_of_mem document present, found⟩

theorem answer_keeps {P : σ → Prop} {request : Http.Request}
    (kept : P state → P (network.send request state).2) (holding : P state) :
    P (network.answer request state).2 := by
  rw [Http.Network.answer]
  split
  next => exact kept holding
  next => exact holding

theorem EmbeddingEndpoint.Asks.read {text : String} {vector : Embedding}
    (asked : endpoint.Asks provider text state requests (some vector) after) :
    ∃ response, endpoint.read response = .ok vector := by
  generalize found : some vector = answer at asked
  cases asked with
  | unaddressed => cases found
  | asked =>
      obtain ⟨response, -, read⟩ := Option.bind_eq_some_iff.mp found.symm
      refine ⟨response, ?_⟩
      cases result : endpoint.read response with
      | error reason => simp [result, Except.toOption] at read
      | ok vector => simpa [result, Except.toOption] using read

theorem EmbeddingEndpoint.Asks.kept {P : σ → Prop} {text : String} {vector : Option Embedding}
    (asked : endpoint.Asks provider text state requests vector after)
    (leaves : ∀ {request state}, endpoint.request text = .ok request → P state →
      P (provider.send request state).2)
    (holding : P state) : P after := by
  cases asked with
  | unaddressed => exact holding
  | asked requested answered =>
      have kept := answer_keeps (leaves requested) holding
      rwa [answered] at kept

theorem PayloadStore.pushRequest_eq_ok_iff {document : Document} {request : Http.Request} :
    store.pushRequest document = .ok request ↔
      ∃ url, store.check document = .ok () ∧ store.endpoint "payload" none = .ok url ∧
        request = ⟨.post, url, store.headers, some document.toJson.print⟩ := by
  simp only [PayloadStore.pushRequest, Json.bind_eq_ok_iff]
  constructor
  · rintro ⟨_, checked, url, found, ⟨⟩⟩
    exact ⟨url, checked, found, rfl⟩
  · rintro ⟨url, checked, found, rfl⟩
    exact ⟨(), checked, url, found, rfl⟩

theorem PayloadStore.Pushes.kept {document : Document} {succeeded : Bool}
    (keeps : store.Keeps network takes holds)
    (pushed : store.Pushes network document state requests succeeded after)
    (holding : holds state held) (taken : succeeded = true → takes document) :
    holds after (held ++ if succeeded then [document] else []) := by
  cases pushed with
  | unsent => exact (List.append_nil held).symm ▸ holding
  | @sent request response after requested answered =>
      obtain ⟨url, -, found, rfl⟩ := PayloadStore.pushRequest_eq_ok_iff.mp requested
      let request : Http.Request := ⟨.post, url, store.headers, some document.toJson.print⟩
      have addressed : store.endpoint "payload" none = .ok request.url := found
      obtain ⟨reply, next, sent, refused, kept⟩ := keeps.one rfl addressed rfl holding
      rw [Http.Network.answer, sent] at answered
      split at answered
      next =>
        cases answered
        cases success : reply.isSuccess with
        | false =>
            simp only [Option.any_some, success]
            exact (List.append_nil held).symm ▸ refused success
        | true =>
            simp only [Option.any_some, success] at taken ⊢
            exact (kept (List.forall_mem_singleton.mpr (taken trivial))).2
      next =>
        cases answered
        exact (List.append_nil held).symm ▸ holding

theorem Collection.Adding.kept (leaves : endpoint.LeavesAlone provider holds)
    (keeps : store.Keeps network takes holds)
    (adding : Collection.Adding endpoint provider store network state documents requests stored
      after) (holding : holds state held) (taken : ∀ document ∈ stored, takes document) :
    holds after (held ++ stored) := by
  have asks_kept {text vector requests state after held}
      (asked : endpoint.Asks provider text state requests vector after) (before : holds state held) :
      holds after held :=
    asked.kept (P := fun state => holds state held) leaves before
  induction adding generalizing held with
  | done => exact (List.append_nil held).symm ▸ holding
  | unembedded asked => exact (List.append_nil held).symm ▸ asks_kept asked holding
  | unstored asked pushed => exact pushed.kept keeps (asks_kept asked holding) nofun
  | stored asked pushed others ih =>
      obtain ⟨here, later⟩ := List.forall_mem_cons.mp taken
      have kept := pushed.kept keeps (asks_kept asked holding) fun _ => here
      rw [← List.singleton_append, ← List.append_assoc]
      exact ih kept later

theorem Document.readable_iff {document : Document} :
    Document.Readable document.toJson.print ↔
      (Document.Draft.shape (Json.depthLimit - 1) document.toJson.outlined).isOk = true := by
  have listed : "[" ++ document.toJson.print ++ "]" = (Json.arr [document.toJson]).print := by
    rw [← String.toList_inj]
    simp [Json.print, Json.chars, Json.itemChars]
  rw [Document.Readable, listed, Json.readWith_print]
  refine Json.list_items_isOk_iff.trans ?_
  rw [Json.outlinedItems, Json.outlinedItems, List.forall_mem_singleton]
  exact and_iff_left rfl

/-- What is stored has vectors, and but for these it is read back. -/
def Refilled (stored : List Document) : Prop :=
  ∀ document ∈ stored, ∃ (given : Document) (vector : Embedding),
    document = { given with embedding := some vector } ∧
      Document.Readable { given with embedding := none }.toJson.print

theorem outlines_isOk_iff (refilled : Refilled stored) {outlines : List Json.Outline}
    (alike : List.Forall₂ Json.Outline.Alike
      (Json.outlinedItems (stored.map Document.toJson)) outlines) :
    (∀ outline ∈ outlines,
        (Document.Draft.shape (Json.depthLimit - 1) outline).isOk = true) ↔
      ∀ document ∈ stored, ∀ vector ∈ document.embedding, ∀ x ∈ vector, x.isFinite = true := by
  induction stored generalizing outlines with
  | nil =>
      cases alike
      simp
  | cons document rest ih =>
      cases alike with
      | cons here later =>
          obtain ⟨⟨given, vector, rfl, readable⟩, others⟩ := List.forall_mem_cons.mp refilled
          rw [List.forall_mem_cons, List.forall_mem_cons, ih others later,
            Document.shape_isOk_iff (Document.readable_iff.mp readable) here]
          simp

theorem fetch_stored (reaches : store.Reaches) (keeps : store.Keeps network takes holds)
    (refilled : Refilled stored) (holding : holds world.state stored) :
    let fetched := (((store.backend network).fetch none).outcome world).1
    (fetched.isOk = true ↔
        ∀ document ∈ stored, ∀ vector ∈ document.embedding, ∀ x ∈ vector, x.isFinite = true) ∧
      (fetched.isOk = true ∨
        fetched = .error (.unreadable "the answer is no list of documents")) := by
  obtain ⟨outlines, each, fetched⟩ := PayloadStore.fetch_said reaches keeps holding
  have list : (Json.Shape.list Document.Draft.shape Json.depthLimit (.items outlines true)).isOk =
      true ↔ ∀ document ∈ stored, ∀ vector ∈ document.embedding, ∀ x ∈ vector,
        x.isFinite = true :=
    Json.list_items_isOk_iff.trans ((and_iff_left rfl).trans (outlines_isOk_iff refilled each))
  rw [fetched, ← list]
  cases Json.Shape.list Document.Draft.shape Json.depthLimit (.items outlines true) with
  | error reason => exact ⟨Iff.rfl, .inr rfl⟩
  | ok drafts => exact ⟨Iff.rfl, .inl rfl⟩

/-- Whatever the endpoint replies: of documents that are read back without a vector, what is posted
of one is read back exactly if the vector of the reply to its text is finite. A fetch succeeds only
if all documents that were stored are such, even though the others were stored successfully, and it
returns them if their numbers are read back. -/
theorem fetch_after_add (leaves : endpoint.LeavesAlone provider holds) (reaches : store.Reaches)
    (keeps : store.Keeps network takes holds) (policy : ScoreErrorPolicy) (concurrency : Nat)
    (readable : ∀ document ∈ documents,
      Document.Readable { document with embedding := none }.toJson.print)
    (empty : holds world.state []) :
    let collection := Collection.remote store network endpoint provider policy
    let outcome := (collection.add concurrency documents).outcome world
    let fetched := (((store.backend network).fetch none).outcome outcome.2).1
    (∀ document ∈ documents, ∀ vector request,
      store.pushRequest { document with embedding := some vector } = .ok request →
      ∃ body, request.body = some body ∧
        (Document.Readable body ↔ ∀ x ∈ vector, x.isFinite = true)) ∧
    ∃ requests stored,
      Collection.Adding endpoint provider store network world.state documents requests stored
        outcome.2.state ∧
      outcome.2.handed = requests.reverse ++ world.handed ∧
      (outcome.1.isOk = true ↔ stored.length = documents.length) ∧
      ((∀ document ∈ stored, takes document) →
        (fetched.isOk = true ↔
          ∀ document ∈ stored, ∀ vector ∈ document.embedding, ∀ x ∈ vector, x.isFinite = true) ∧
        (fetched.isOk = true ∨
          fetched = .error (.unreadable "the answer is no list of documents")) ∧
        ((∀ document ∈ stored, document.Faithful) →
          ∃ others, fetched = .ok others ∧ List.Forall₂ Document.Same stored others)) := by
  intro collection outcome fetched
  constructor
  · intro document present vector request requested
    obtain ⟨url, -, -, rfl⟩ := PayloadStore.pushRequest_eq_ok_iff.mp requested
    exact ⟨_, rfl, Document.readable_iff.trans (Document.shape_isOk_iff
      (Document.readable_iff.mp (readable document present)) (.refl _))⟩
  · obtain ⟨requests, stored, adding, handed, all⟩ :=
      add_adding endpoint provider store network policy concurrency documents world
    refine ⟨requests, stored, adding, handed, all, fun taken => ?_⟩
    have holding := adding.kept leaves keeps empty taken
    have refilled : Refilled stored := by
      intro document member
      obtain ⟨given, present, vector, same⟩ := adding.mem_stored document member
      exact ⟨given, vector, same, readable given present⟩
    obtain ⟨finite, fails⟩ := fetch_stored reaches keeps refilled holding
    exact ⟨finite, fails, fun faithful => PayloadStore.fetch_alike reaches keeps faithful holding⟩

end

/-- A network that always gives the same answer. -/
def Http.Network.answering (body : String) : Http.Network σ where
  send _ state := (some ⟨200, body⟩, state)

/-- A network that answers each body with another. -/
def Http.Network.replying (reply : String → String) : Http.Network σ where
  send request state := (some ⟨200, reply (request.body.getD "")⟩, state)

theorem fetch_after_add_finite :
    let store : PayloadStore := ⟨.root, "http://127.0.0.1:7700", none, "notes", some 2, .wrapped⟩
    let endpoint : EmbeddingEndpoint := ⟨"http://127.0.0.1:9000/v1", none, "m", some 2⟩
    let ask (text : String) :=
      "\x7b\"model\":\"m\",\"input\":\"" ++ text ++ "\",\"dimensions\":2\x7d"
    let provider := Http.Network.replying fun body =>
      if body = ask "x" then "\x7b\"data\":[\x7b\"embedding\":[0.5,-2]\x7d]\x7d"
      else "\x7b\"data\":[\x7b\"embedding\":[1e-50,3]\x7d]\x7d"
    let collection := Collection.remote store PayloadStore.textKeeper endpoint provider .skip
    let documents : List Document :=
      [⟨"a", "x", [("rank", .int 3)], some [7]⟩, ⟨"b", "", [], none⟩]
    let world : World (List Char) := .start [] ⟨0⟩
    let outcome := (collection.add 8 documents).outcome world
    let fetched := (((store.backend PayloadStore.textKeeper).fetch none).outcome outcome.2).1
    outcome.1 = .ok 2 ∧
      outcome.2.handed.reverse.filterMap Http.Request.body =
        [ask "x", "\x7b\"id\":\"a\",\"content\":\"x\",\"metadata\":\x7b\"rank\":3\x7d," ++
            "\"embedding\":[0.5,-2.0]\x7d",
          ask "", "\x7b\"id\":\"b\",\"content\":\"\",\"metadata\":\x7b\x7d," ++
            "\"embedding\":[0.0,3.0]\x7d"] ∧
      fetched.map (List.map fun other => (other.id, other.content, other.metadata.map (·.1))) =
        .ok [("a", "x", ["rank"]), ("b", "", [])] ∧
      fetched.map (List.map fun other => other.embedding.map (List.map Float32.toBits)) =
        .ok [some [0x3f000000, 0xc0000000], some [0, 0x40400000]] ∧
      ∃ requests stored,
        Collection.Adding endpoint provider store PayloadStore.textKeeper world.state documents
          requests stored outcome.2.state ∧
        outcome.2.handed = requests.reverse ∧ stored.length = 2 ∧
        ∀ document ∈ stored, ∀ vector ∈ document.embedding, ∀ x ∈ vector, x.isFinite = true := by
  intro store endpoint ask provider collection documents world outcome fetched
  have reaches : store.Reaches :=
    .of_isHttp (by decide +kernel) (by decide +kernel) (by decide +kernel)
  have leaves : endpoint.LeavesAlone provider
      fun text held => text = PayloadStore.listed (held.map Document.toJson) := fun _ held => held
  have readable : ∀ document ∈ documents,
      Document.Readable { document with embedding := none }.toJson.print := by
    unfold Document.Readable
    decide +kernel
  have empty : world.state = PayloadStore.listed (([] : List Document).map Document.toJson) := rfl
  obtain ⟨-, requests, stored, adding, handed, all, read⟩ :=
    fetch_after_add leaves reaches (PayloadStore.keeps_textKeeper store) .skip 8 readable empty
  have added : outcome.1 = .ok 2 := by
    simp only [outcome, add_eq]
    decide +kernel
  have bodies : outcome.2.handed.reverse.filterMap Http.Request.body =
      [ask "x", "\x7b\"id\":\"a\",\"content\":\"x\",\"metadata\":\x7b\"rank\":3\x7d," ++
          "\"embedding\":[0.5,-2.0]\x7d",
        ask "", "\x7b\"id\":\"b\",\"content\":\"\",\"metadata\":\x7b\x7d," ++
          "\"embedding\":[0.0,3.0]\x7d"] := by
    simp only [outcome, add_eq]
    decide +kernel
  have returned : fetched.map (List.map fun other =>
        (other.id, other.content, other.metadata.map (·.1))) =
      .ok [("a", "x", ["rank"]), ("b", "", [])] := by
    simp only [fetched, outcome, add_eq]
    decide +kernel
  have vectors : fetched.map (List.map fun other => other.embedding.map (List.map Float32.toBits)) =
      .ok [some [0x3f000000, 0xc0000000], some [0, 0x40400000]] := by
    simp only [fetched, outcome, add_eq]
    decide +kernel
  have success : fetched.isOk = true := by
    cases result : fetched with
    | ok others => rfl
    | error reason => simp [result, Except.map] at returned
  refine ⟨added, bodies, returned, vectors, requests, stored, adding, ?_, all.mp (by rw [added]; rfl),
    (read fun _ _ => trivial).1.mp success⟩
  exact handed.trans (List.append_nil _)

/-- An answer that holds a number beyond the largest single is accepted and stored, and then nothing
can be fetched any more. -/
theorem fetch_after_add_overflow :
    let store : PayloadStore := ⟨.root, "http://127.0.0.1:7700", none, "notes", none, .wrapped⟩
    let endpoint : EmbeddingEndpoint := ⟨"http://127.0.0.1:9000/v1", none, "m", none⟩
    let provider := Http.Network.answering "\x7b\"data\":[\x7b\"embedding\":[1e39]\x7d]\x7d"
    let collection := Collection.remote store PayloadStore.textKeeper endpoint provider .skip
    let outcome := (collection.add 1 [⟨"a", "x", [], none⟩]).outcome (.start [] ⟨0⟩)
    let fetched := (((store.backend PayloadStore.textKeeper).fetch none).outcome outcome.2).1
    outcome.1 = .ok 1 ∧
      outcome.2.handed.head?.bind Http.Request.body = some
        "\x7b\"id\":\"a\",\"content\":\"x\",\"metadata\":\x7b\x7d,\"embedding\":[null]\x7d" ∧
      fetched.map List.length =
        .error (.unreadable "the answer is no list of documents") := by
  intro store endpoint provider collection outcome fetched
  simp only [fetched, outcome, add_eq]
  decide +kernel

end VectorSearch
