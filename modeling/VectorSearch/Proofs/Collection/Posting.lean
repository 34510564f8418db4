import VectorSearch.Proofs.Collection.Loading
import VectorSearch.Proofs.Store.RoundTrip

namespace VectorSearch

namespace Http

/-- A request that was handed over, with its answer, if there was one. -/
structure Exchange where
  request : Request
  response : Option Response

def Exchange.succeeded (exchange : Exchange) : Bool :=
  exchange.response.any Response.isSuccess

/-- Requests are handed over in order, each in the state that the one before it left. -/
inductive Network.Exchanges (network : Network σ) : σ → List Exchange → σ → Prop where
  | nil {state : σ} : Exchanges network state [] state
  | cons {request : Request} {response : Option Response} {rest : List Exchange}
      {state next after : σ} (first : network.answer request state = (response, next))
      (others : Exchanges network next rest after) :
      Exchanges network state (⟨request, response⟩ :: rest) after

theorem Network.Exchanges.exists_answer {network : Network σ} {state after : σ}
    {exchanges : List Exchange} (sent : network.Exchanges state exchanges after)
    {exchange : Exchange} (present : exchange ∈ exchanges) :
    ∃ before, (network.answer exchange.request before).1 = exchange.response := by
  induction sent with
  | nil => cases present
  | @cons request response rest state next after first _ ih =>
      rcases List.mem_cons.mp present with rfl | later
      · exact ⟨state, congrArg Prod.fst first⟩
      · exact ih later

end Http

namespace PayloadStore

/-- The request that stores a whole slice. -/
def sliceRequest (store : PayloadStore) (url : Url) (slice : List Document) : Http.Request :=
  ⟨.post, url, store.headers, some (Json.arr (slice.map Document.toJson)).print⟩

/-- What is posted for a slice is the text of each document in order, in one array. -/
theorem sliceRequest_body (store : PayloadStore) (url : Url) (slice : List Document) :
    (store.sliceRequest url slice).body =
      some ("[" ++ ",".intercalate (slice.map fun document => document.toJson.print) ++ "]") := by
  have listed_drop (items : List Json) :
      (listed items).drop 1 = [','].intercalate (items.map Json.chars) := by
    induction items with
    | nil => rfl
    | cons item rest ih =>
        cases rest with
        | nil => simp [listed]
        | cons next others =>
            rw [List.map_cons, List.map_cons, List.intercalate_cons_cons, ← List.map_cons, ← ih]
            simp [listed]
  simp only [sliceRequest, Json.print, chars_arr, listed_drop, Option.some.injEq]
  rw [← String.toList_inj]
  simp [Function.comp_def]

/-- What is posted for a slice of faithful documents is read back as these documents, in order. -/
theorem sliceRequest_reads (store : PayloadStore) (url : Url) {slice : List Document}
    (faithful : ∀ document ∈ slice, document.Faithful) :
    ∃ body drafts, (store.sliceRequest url slice).body = some body ∧
      Json.readWith (Json.Shape.list Document.Draft.shape) body = .ok drafts ∧
      ∀ ids, List.Forall₂ Document.Same slice (Document.Draft.completeAll ids drafts).1 := by
  obtain ⟨drafts, read, same⟩ := documents_readBack faithful
  exact ⟨_, drafts, rfl, read, same⟩

/-- How an exchange fails that is no success. -/
def failure (exchange : Http.Exchange) : StoreError :=
  match exchange.response with
  | none => .transport "no response"
  | some response => .remote response.status response.body

/-- What posting slices comes to. All of them are posted; or those before the slice with the first
document that the store refuses; or those up to the first one that is not answered with success. -/
inductive Posts (store : PayloadStore) (url : Url) (slices : List (List Document)) :
    List Http.Exchange → Except StoreError Unit → Prop where
  | posted {exchanges : List Http.Exchange}
      (admitted : ∀ document ∈ slices.flatten, store.check document = .ok ())
      (requests : exchanges.map (·.request) = slices.map (store.sliceRequest url))
      (answered : ∀ exchange ∈ exchanges, exchange.succeeded = true) :
      Posts store url slices exchanges (.ok ())
  | refused {done rest : List (List Document)} {before after : List Document}
      {document : Document} {reason : StoreError} {exchanges : List Http.Exchange}
      (order : slices = done ++ (before ++ document :: after) :: rest)
      (admitted : ∀ other ∈ done.flatten ++ before, store.check other = .ok ())
      (faulty : store.check document = .error reason)
      (requests : exchanges.map (·.request) = done.map (store.sliceRequest url))
      (answered : ∀ exchange ∈ exchanges, exchange.succeeded = true) :
      Posts store url slices exchanges (.error reason)
  | failed {done rest : List (List Document)} {slice : List Document}
      {exchanges : List Http.Exchange} {response : Option Http.Response}
      (order : slices = done ++ slice :: rest)
      (admitted : ∀ document ∈ done.flatten ++ slice, store.check document = .ok ())
      (requests : exchanges.map (·.request) = done.map (store.sliceRequest url))
      (answered : ∀ exchange ∈ exchanges, exchange.succeeded = true)
      (unanswered : (Http.Exchange.mk (store.sliceRequest url slice) response).succeeded = false) :
      Posts store url slices (exchanges ++ [⟨store.sliceRequest url slice, response⟩])
        (.error (failure ⟨store.sliceRequest url slice, response⟩))

variable {store : PayloadStore} {network : Http.Network σ} {url : Url}

theorem Posts.cons {slice : List Document} {slices : List (List Document)}
    {exchanges : List Http.Exchange} {result : Except StoreError Unit}
    {response : Option Http.Response} (here : ∀ document ∈ slice, store.check document = .ok ())
    (success : (Http.Exchange.mk (store.sliceRequest url slice) response).succeeded = true)
    (posts : Posts store url slices exchanges result) :
    Posts store url (slice :: slices) (⟨store.sliceRequest url slice, response⟩ :: exchanges)
      result := by
  cases posts with
  | posted admitted requests answered =>
      refine .posted ?_ (congrArg (_ :: ·) requests) (List.forall_mem_cons.mpr ⟨success, answered⟩)
      exact List.forall_mem_append.mpr ⟨here, admitted⟩
  | @refused done rest before after document reason exchanges order admitted faulty requests
      answered =>
      subst order
      refine @Posts.refused _ _ _ (slice :: done) rest before after document reason _ rfl ?_ faulty
        (congrArg (_ :: ·) requests) (List.forall_mem_cons.mpr ⟨success, answered⟩)
      rw [List.flatten_cons, List.append_assoc]
      exact List.forall_mem_append.mpr ⟨here, admitted⟩
  | @failed done rest last exchanges answer order admitted requests answered unanswered =>
      subst order
      refine @Posts.failed _ _ _ (slice :: done) rest last (_ :: exchanges) answer rfl ?_
        (congrArg (_ :: ·) requests) (List.forall_mem_cons.mpr ⟨success, answered⟩) unanswered
      rw [List.flatten_cons, List.append_assoc]
      exact List.forall_mem_append.mpr ⟨here, admitted⟩

theorem append_cons_eq_append_cons {left right left' right' : List α} {x x' : α}
    (same : left ++ x :: right = left' ++ x' :: right') :
    (left = left' ∧ x = x') ∨ x ∈ left' ∨ x' ∈ left := by
  rcases List.append_eq_append_iff.mp same with ⟨others, rfl, tail⟩ | ⟨others, rfl, tail⟩
  · cases others with
    | nil => exact .inl ⟨(List.append_nil _).symm, (List.cons.inj tail).1⟩
    | cons y others =>
        obtain ⟨rfl, -⟩ := List.cons.inj tail
        exact .inr (.inl (by simp))
  · cases others with
    | nil => exact .inl ⟨List.append_nil _, (List.cons.inj tail).1.symm⟩
    | cons y others =>
        obtain ⟨rfl, -⟩ := List.cons.inj tail
        exact .inr (.inr (by simp))

/-- Where all is answered with success, it is the first document that is refused that ends a load:
the slices before its own are posted. -/
theorem Posts.refused_of_succeeded {done rest : List (List Document)} {before after : List Document}
    {document : Document} {reason : StoreError} {exchanges : List Http.Exchange}
    {result : Except StoreError Unit}
    (posts : store.Posts url (done ++ (before ++ document :: after) :: rest) exchanges result)
    (admitted : ∀ other ∈ done.flatten ++ before, store.check other = .ok ())
    (faulty : store.check document = .error reason)
    (success : ∀ slice response, ⟨store.sliceRequest url slice, response⟩ ∈ exchanges →
      (Http.Exchange.mk (store.sliceRequest url slice) response).succeeded = true) :
    result = .error reason ∧ exchanges.map (·.request) = done.map (store.sliceRequest url) := by
  have refused : store.check document ≠ .ok () := by simp [faulty]
  generalize order : done ++ (before ++ document :: after) :: rest = slices at posts
  cases posts with
  | posted fine =>
      subst order
      exact absurd (fine document (by simp)) refused
  | @refused done' rest' before' after' other reason' _ order' fine faulty' requests =>
      have refused' : store.check other ≠ .ok () := by simp [faulty']
      rcases append_cons_eq_append_cons (order.trans order') with
        ⟨rfl, same⟩ | earlier | later
      · rcases append_cons_eq_append_cons same with ⟨rfl, rfl⟩ | earlier | later
        · exact ⟨congrArg _ (Except.error.inj (faulty'.symm.trans faulty)), requests⟩
        · exact absurd (fine document (List.mem_append_right _ earlier)) refused
        · exact absurd (admitted other (List.mem_append_right _ later)) refused'
      · have member : document ∈ done'.flatten := List.mem_flatten.mpr ⟨_, earlier, by simp⟩
        exact absurd (fine document (List.mem_append_left _ member)) refused
      · have member : other ∈ done.flatten := List.mem_flatten.mpr ⟨_, later, by simp⟩
        exact absurd (admitted other (List.mem_append_left _ member)) refused'
  | @failed _ _ slice exchanges response _ _ _ _ unanswered =>
      rw [success slice response (by simp)] at unanswered
      cases unanswered

theorem perform_exchange (store : PayloadStore) (network : Http.Network σ) (operation : String)
    (request : Http.Request) (world : World σ) :
    let answered := network.answer request world.state
    let exchange : Http.Exchange := ⟨request, answered.1⟩
    ∃ result after, (store.perform network operation request).outcome world = (result, after) ∧
      (result.map fun _ => ()) =
        (if exchange.succeeded then .ok () else .error (failure exchange)) ∧
      after.state = answered.2 ∧ after.handed = request :: world.handed := by
  simp only [perform, Act.outcome_bind, Act.outcome_exchange, Http.Network.answer]
  by_cases sendable : request.isSendable = true
  · simp only [if_pos sendable]
    rcases (network.send request world.state).1 with _ | response
    · exact ⟨_, _, rfl, rfl, rfl, rfl⟩
    · by_cases success : response.isSuccess = true
      · simp only [success]
        exact ⟨_, _, rfl, by simp [Http.Exchange.succeeded, success, Except.map], rfl, rfl⟩
      · simp only [success]
        exact ⟨_, _, rfl, by simp [Http.Exchange.succeeded, success, Except.map, failure], rfl, rfl⟩
  · simp only [if_neg sendable]
    exact ⟨_, _, rfl, rfl, rfl, rfl⟩

theorem pushBatch_refused {slice : List Document} {reason : StoreError}
    (refused : slice.forM store.check = .error reason) (world : World σ) :
    ((store.backend network).pushBatch slice).outcome world = (.error reason, world) := by
  cases slice with
  | nil => cases refused
  | cons first rest =>
      simp only [backend, List.isEmpty_cons, Bool.false_eq_true, if_false, Act.outcome_bind,
        Act.outcome_ofExcept, pushBatchRequest, refused]
      rfl

theorem pushBatch_exchange (found : store.endpoint "payloads" none = .ok url)
    {slice : List Document} (present : slice ≠ []) (admitted : slice.forM store.check = .ok ())
    (world : World σ) :
    let answered := network.answer (store.sliceRequest url slice) world.state
    let exchange : Http.Exchange := ⟨store.sliceRequest url slice, answered.1⟩
    ∃ after, ((store.backend network).pushBatch slice).outcome world =
        (if exchange.succeeded then .ok () else .error (failure exchange), after) ∧
      after.state = answered.2 ∧ after.handed = store.sliceRequest url slice :: world.handed := by
  have requested : store.pushBatchRequest slice = .ok (store.sliceRequest url slice) := by
    simp only [pushBatchRequest, admitted, found]
    rfl
  have some : slice.isEmpty = false := by simpa using present
  obtain ⟨result, after, performed, ends, state, handed⟩ :=
    store.perform_exchange network "push_batch" (store.sliceRequest url slice) world
  simp only [backend, some, Bool.false_eq_true, if_false, Act.outcome_bind, Act.outcome_ofExcept,
    requested, performed]
  rw [← ends]
  cases result with
  | error reason => exact ⟨after, rfl, state, handed⟩
  | ok body => exact ⟨_, rfl, state, handed⟩

theorem forM_pushBatch_posts (found : store.endpoint "payloads" none = .ok url)
    {slices : List (List Document)} (present : ∀ slice ∈ slices, slice ≠ []) (world : World σ) :
    let outcome := (slices.forM (store.backend network).pushBatch).outcome world
    ∃ exchanges, Posts store url slices exchanges outcome.1 ∧
      network.Exchanges world.state exchanges outcome.2.state ∧
      outcome.2.handed = (exchanges.map (·.request)).reverse ++ world.handed := by
  induction slices generalizing world with
  | nil =>
      exact ⟨[], .posted (List.forall_mem_nil _) rfl (List.forall_mem_nil _), .nil, rfl⟩
  | cons slice rest ih =>
      obtain ⟨some, others⟩ := List.forall_mem_cons.mp present
      rw [Act.outcome_forM_cons]
      cases checked : slice.forM store.check with
      | error reason =>
          obtain ⟨before, document, after, rfl, fine, faulty⟩ := forM_eq_error_iff.mp checked
          rw [pushBatch_refused checked]
          exact ⟨[], @PayloadStore.Posts.refused _ _ _ [] rest before after document reason [] rfl
            fine faulty rfl (List.forall_mem_nil _), .nil, rfl⟩
      | ok _ =>
          have admitted := forM_eq_ok_iff.mp checked
          obtain ⟨next, pushed, state, handed⟩ :=
            @pushBatch_exchange _ store network url found slice some checked world
          rw [pushed]
          generalize answered : network.answer (store.sliceRequest url slice) world.state = answer
            at state pushed ⊢
          obtain ⟨response, left⟩ := answer
          dsimp only at state
          subst state
          by_cases success :
              (Http.Exchange.mk (store.sliceRequest url slice) response).succeeded = true
          · obtain ⟨exchanges, posts, made, log⟩ := ih others next
            simp only [if_pos success]
            refine ⟨_, posts.cons admitted success, .cons answered made, ?_⟩
            rw [log, handed]
            simp
          · have unanswered := Bool.eq_false_iff.mpr success
            simp only [if_neg success]
            exact ⟨_, @PayloadStore.Posts.failed _ _ _ [] rest slice [] response rfl admitted rfl
              (List.forall_mem_nil _) unanswered, .cons answered .nil, handed⟩

end PayloadStore

section

variable {collection : Collection σ} {documents embedded : List Document}

theorem batches_append {slice rest : List α} (whole : slice.length = batchSize) :
    batches (slice ++ rest) = slice :: batches rest := by
  cases slice with
  | nil => cases whole
  | cons item others =>
      rw [List.cons_append, batches_cons, ← List.cons_append, ← whole, List.take_left,
        List.drop_left]

theorem Filled.of_embedded (given : ∀ document ∈ documents, document.embedding.isSome = true) :
    Filled documents [] documents := by
  induction documents with
  | nil => exact .nil
  | cons document rest ih =>
      obtain ⟨here, others⟩ := List.forall_mem_cons.mp given
      exact .given here (ih others)

/-- Calls that give every document a vector are the ones that embedding makes. -/
theorem mapM_embedMissing_filled {vectors : List Embedding}
    (filled : Filled documents vectors embedded) {world next : World σ}
    (made : collection.Makes world (embedCalls (unembedded documents) vectors) next) :
    (documents.mapM collection.embedMissing).outcome world = (.ok embedded, next) := by
  induction filled generalizing world with
  | nil =>
      cases made
      rfl
  | given here _ ih =>
      rw [unembedded_cons_given here] at made
      rw [Act.outcome_mapM_cons, embedMissing_given here, Act.outcome_pure]
      dsimp only
      rw [ih made]
      rfl
  | missing lacking _ ih =>
      rw [unembedded_cons_missing lacking] at made
      cases made with
      | cons first others =>
          change (collection.embedder.embed _).outcome world = _ at first
          rw [Act.outcome_mapM_cons, embedMissing_missing lacking, first]
          dsimp only [Except.mapError, Except.map]
          rw [ih others]

theorem mapM_embedMissing_embeds {calls : List Call.Answered}
    (embeds : Embeds documents calls (.ok embedded)) {world next : World σ}
    (made : collection.Makes world calls next) :
    (documents.mapM collection.embedMissing).outcome world = (.ok embedded, next) := by
  cases embeds with
  | filled filled => exact mapM_embedMissing_filled filled made

/-- A load into a payload store that has an address, all of whose documents are embedded, hands over
one request for each slice of a thousand, and never part of a slice: up to the slice with the first
document that the store refuses, or up to the first request that is not answered with success. -/
theorem load_posts_slices {store : PayloadStore} {network : Http.Network σ} {url : Url}
    (stored : collection.backend = store.backend network)
    (found : store.endpoint "payloads" none = .ok url) (concurrency : Nat)
    {calls : List Call.Answered} (embeds : Embeds documents calls (.ok embedded))
    {world next : World σ} (made : collection.Makes world calls next) :
    let slices := batches embedded
    let outcome := (collection.load concurrency documents).outcome world
    Sliced embedded slices ∧
      ∃ exchanges result, store.Posts url slices exchanges result ∧
        outcome.1 = (result.map fun _ => documents.length) ∧
        network.Exchanges next.state exchanges outcome.2.state ∧
        outcome.2.handed = (exchanges.map (·.request)).reverse ++ next.handed := by
  intro slices outcome
  have sliced := batches_sliced embedded
  have present : ∀ slice ∈ slices, slice ≠ [] := fun slice member =>
    List.ne_nil_of_length_pos (sliced.sizes slice member).1
  obtain ⟨exchanges, posts, sent, handed⟩ :=
    @PayloadStore.forM_pushBatch_posts _ store network url found slices present next
  have ends : outcome = ((slices.forM (store.backend network).pushBatch).outcome next).map
      (·.map fun _ => documents.length) id := by
    simp only [outcome, load_eq, Act.outcome_bind, mapM_embedMissing_embeds embeds made, stored,
      bind_pure_comp, Act.outcome_map, embeds.length_eq]
    rfl
  rw [ends]
  exact ⟨sliced, exchanges, _, posts, rfl, sent, handed⟩

end

/-- The first document is embedded on the way, and the last of a thousand and one is too short: the
thousand before it are posted, and its error is returned. -/
theorem load_posts_slices_but_the_last :
    let store : PayloadStore := ⟨.root, "http://127.0.0.1:7700", none, "notes", some 1, .wrapped⟩
    let collection : Collection (List Char) :=
      ⟨store.backend PayloadStore.textKeeper, ⟨fun _ => pure [7]⟩, .abort⟩
    let fitting : Document := ⟨"a", "x", [], some [7]⟩
    let short : Document := ⟨"b", "y", [], some []⟩
    let documents := ⟨"a", "x", [], none⟩ :: (List.replicate 999 fitting ++ [short])
    let embedded := List.replicate 1000 fitting ++ [short]
    let calls : List Call.Answered := [⟨.embed "x", .ok [7]⟩]
    let world : World (List Char) := .start [] ⟨0⟩
    let outcome := (collection.load 4 documents).outcome world
    let text :=
      "\x7b\"id\":\"a\",\"content\":\"x\",\"metadata\":\x7b\x7d,\"embedding\":[7.0]\x7d"
    Embeds documents calls (.ok embedded) ∧ collection.Makes world calls world ∧
      outcome.1 = .error (.dimensionMismatch 1 0) ∧
      outcome.2.handed.map (fun request =>
          (request.method, String.ofList request.url.text, request.body)) =
        [(.post, "http://127.0.0.1:7700/collections/notes/payloads",
          some ("[" ++ ",".intercalate (List.replicate 1000 text) ++ "]"))] := by
  intro store collection fitting short documents embedded calls world outcome text
  obtain ⟨url, found, isHttp⟩ :
      ∃ url, store.endpoint "payloads" none = .ok url ∧ url.isHttp = true :=
    PayloadStore.exists_isHttp (by decide +kernel)
  have address : String.ofList url.text = "http://127.0.0.1:7700/collections/notes/payloads" := by
    have located : (store.endpoint "payloads" none).map (fun url => String.ofList url.text) =
        .ok "http://127.0.0.1:7700/collections/notes/payloads" := by
      decide +kernel
    rw [found] at located
    exact Except.ok.inj located
  have given : ∀ document ∈ List.replicate 999 fitting ++ [short],
      document.embedding.isSome = true := by
    intro document member
    rcases List.mem_append.mp member with among | last
    · obtain rfl := List.eq_of_mem_replicate among
      rfl
    · obtain rfl := List.mem_singleton.mp last
      rfl
  have rest : unembedded (List.replicate 999 fitting ++ [short]) = [] :=
    List.filter_eq_nil_iff.mpr fun document member => by
      simp [Option.isSome_iff_ne_none.mp (given document member)]
  have filled : Filled documents [[7]] embedded := .missing rfl (.of_embedded given)
  have embeds : Embeds documents calls (.ok embedded) := by
    have asked : embedCalls (unembedded documents) [[7]] = calls := by
      rw [unembedded_cons_missing rfl, rest]
      rfl
    rw [← asked]
    exact .filled filled
  have made : collection.Makes world calls world := .cons rfl .nil
  have sliced : batches embedded = [List.replicate 1000 fitting, [short]] := by
    have whole : (List.replicate 1000 fitting).length = batchSize := List.length_replicate
    have last : batches [short] = [[short]] := by simp [batches, batchSize]
    exact (batches_append whole).trans (congrArg _ last)
  obtain ⟨-, exchanges, result, posts, ends, sent, handed⟩ :=
    @load_posts_slices _ collection documents embedded store _ url rfl found 4 calls embeds world
      world made
  rw [sliced] at posts
  have fits : ∀ document ∈ [List.replicate 1000 fitting].flatten ++ [],
      store.check document = .ok () := by
    intro document member
    rw [List.append_nil, List.flatten_singleton] at member
    obtain rfl := List.eq_of_mem_replicate member
    rfl
  have success : ∀ slice response, ⟨store.sliceRequest url slice, response⟩ ∈ exchanges →
      (Http.Exchange.mk (store.sliceRequest url slice) response).succeeded = true := by
    intro slice response member
    obtain ⟨state, answered⟩ := sent.exists_answer member
    have headers : store.headers.all (Http.isHeaderValue ·.2) = true := by decide +kernel
    have sendable : (store.sliceRequest url slice).isSendable = true := by
      rw [Http.Request.isSendable, PayloadStore.sliceRequest, isHttp, Bool.true_and]
      exact headers
    rw [Http.Network.answer, if_pos sendable] at answered
    obtain rfl : some ⟨200, ""⟩ = response := answered
    rfl
  obtain ⟨rfl, requests⟩ := @PayloadStore.Posts.refused_of_succeeded store url
    [List.replicate 1000 fitting] [] [] [] short (.dimensionMismatch 1 0) exchanges result
    posts fits rfl success
  refine ⟨embeds, made, ends, ?_⟩
  rw [handed, requests]
  have body := store.sliceRequest_body url (List.replicate 1000 fitting)
  have printed : fitting.toJson.print = text := by decide +kernel
  rw [List.map_replicate, printed] at body
  change [(Http.Method.post, String.ofList url.text,
    (store.sliceRequest url (List.replicate 1000 fitting)).body)] = _
  rw [address, body]

end VectorSearch
