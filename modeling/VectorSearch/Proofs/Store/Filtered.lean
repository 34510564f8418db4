import VectorSearch.Command.Run
import VectorSearch.Proofs.Filter.Items
import VectorSearch.Proofs.Store.RoundTrip
import VectorSearch.Proofs.Url.Target

namespace VectorSearch

namespace Filter

/-- A query string begins as a condition or a negation does. -/
def Opens (query : String) : Prop :=
  "metadata.".toList <+: query.toList ∨ "not(".toList <+: query.toList

variable {style : NegationStyle}

theorem opens_text (item : Item WireCondition) : Opens (item.text style true) := by
  cases item with
  | condition leaf =>
      apply Or.inl
      simp only [Item.text, WireCondition.text, String.toList_append, List.append_assoc]
      exact List.prefix_append _ _
  | negation items =>
      cases style with
      | legacy =>
          apply Or.inl
          simp only [Item.text, negationText, String.toList_append, List.append_assoc]
          exact List.prefix_append _ _
      | wrapped =>
          apply Or.inr
          simp only [Item.text, negationText, String.toList_append, List.append_assoc]
          exact List.prefix_append _ _

theorem prefix_intercalate (first : String) (rest : List String) :
    first.toList <+: (String.intercalate "&" (first :: rest)).toList := by
  cases rest with
  | nil => simp
  | cons next others =>
      rw [String.intercalate_cons_cons, String.toList_append, String.toList_append,
        List.append_assoc]
      exact List.prefix_append _ _

theorem compile_opens {filter : Filter} {query : String}
    (compiled : filter.compile style = .ok query) : Opens query := by
  obtain ⟨_, rfl⟩ := compile_eq_ok_iff.mp compiled
  obtain ⟨item, rest, items⟩ := List.exists_cons_of_ne_nil filter.wireItems_ne_nil
  rw [items, Item.texts]
  have begins := prefix_intercalate (item.text style true) (Item.texts style false rest)
  exact (opens_text item).imp (·.trans begins) (·.trans begins)

theorem Opens.exists_cons {query : String} (opens : Opens query) :
    ∃ c rest, query.toList = c :: rest ∧ Url.isLineBreakOrTab c = false := by
  rcases opens with ⟨rest, spelled⟩ | ⟨rest, spelled⟩
  · exact ⟨_, _, spelled.symm, by decide⟩
  · exact ⟨_, _, spelled.symm, by decide⟩

theorem Opens.ne_empty {query : String} (opens : Opens query) : query ≠ "" := by
  rintro rfl
  obtain ⟨c, rest, spelled, _⟩ := opens.exists_cons
  contradiction

end Filter

theorem Url.exists_query {query : String} (opens : Filter.Opens query) (url : Url) :
    ∃ c rest, (url.withQuery query).query = some (c :: rest) := by
  obtain ⟨first, letters, spelled, kept⟩ := opens.exists_cons
  simp only [Url.withQuery, spelled, List.filter_cons, kept, Bool.not_false, if_true,
    Url.percentEncode_cons]
  split
  · obtain ⟨others, escape⟩ := Url.percentEncodeChar_head first
    exact ⟨_, _, by rw [escape]; rfl⟩
  · exact ⟨_, _, rfl⟩

/-- The network with a record of what it was sent, the latest request first. -/
def Http.Network.logged (network : Http.Network σ) : Http.Network (σ × List Http.Request) where
  send request state :=
    let (response, after) := network.send request state.1
    (response, after, request :: state.2)

namespace PayloadStore

/-- The list of documents has an address with a query, and a request for it can be put on the
wire. -/
def CanFetch (store : PayloadStore) (query : String) : Prop :=
  ∃ url, store.endpoint "payloads" (some query) = .ok url ∧ url.isHttp = true ∧
    store.headers.all (Http.isHeaderValue ·.2) = true

variable {store : PayloadStore} {filter : Filter} {query : String}

theorem query_eq_ok_iff :
    store.query (some filter) = .ok (some query) ↔ filter.compile store.negation = .ok query := by
  rw [PayloadStore.query]
  cases filter.compile store.negation <;> simp

theorem endpoint_query (present : query ≠ "") (suffix : String) :
    store.endpoint suffix (some query) = (store.endpoint suffix none).map (·.withQuery query) := by
  have written : query.isEmpty = false := by simpa using present
  unfold endpoint
  dsimp only
  cases Url.parse _ with
  | error fault => rfl
  | ok url =>
      simp only [written]
      rfl

theorem exists_parse {suffix : String} {url : Url} (found : store.endpoint suffix none = .ok url) :
    ∃ text, Url.parse text = .ok url := by
  unfold endpoint at found
  dsimp only at found
  split at found
  next => cases found
  next impossible => cases impossible
  next parsed _ =>
    cases found
    exact ⟨_, parsed⟩

theorem fetchRequest_compiled (compiled : filter.compile store.negation = .ok query) :
    store.fetchRequest (some filter) =
      (store.endpoint "payloads" none).map fun url =>
        ⟨.get, url.withQuery query, store.headers, none⟩ := by
  have address := @endpoint_query store query (Filter.compile_opens compiled).ne_empty "payloads"
  simp only [fetchRequest, query_eq_ok_iff.mpr compiled, bind, Except.bind, address]
  cases store.endpoint "payloads" none <;> rfl

theorem fetch_eq_error_of_request {network : Http.Network σ} {reason : StoreError}
    (refused : store.fetchRequest (some filter) = .error reason) (world : World σ) :
    (((store.backend network).fetch (some filter)).outcome world).1 = .error reason := by
  simp only [backend, Act.outcome_bind, Act.outcome_ofExcept, refused]

theorem fetch_eq_error_of_unsendable {network : Http.Network σ} {request : Http.Request}
    (requested : store.fetchRequest (some filter) = .ok request)
    (unsendable : request.isSendable = false) (world : World σ) :
    (((store.backend network).fetch (some filter)).outcome world).1 =
      .error (.transport "no response") := by
  simp only [backend, Act.outcome_bind, Act.outcome_ofExcept, requested, perform,
    Act.outcome_exchange, unsendable, Bool.false_eq_true, if_false]
  rfl

theorem canFetch_iff_isSendable {url : Url}
    (found : store.endpoint "payloads" (some query) = .ok url) :
    store.CanFetch query ↔ (Http.Request.mk .get url store.headers none).isSendable = true := by
  rw [Http.Request.isSendable, Bool.and_eq_true_iff]
  constructor
  · rintro ⟨other, same, able⟩
    cases found.symm.trans same
    exact able
  · intro able
    exact ⟨url, found, able⟩

theorem fetch_compiled (network : Http.Network σ)
    (compiled : filter.compile store.negation = .ok query)
    (world : World (σ × List Http.Request)) :
    let outcome := ((store.backend network.logged).fetch (some filter)).outcome world
    (¬ store.CanFetch query ∧ (∃ reason, outcome.1 = .error reason) ∧
        outcome.2.state = world.state) ∨
      ∃ url, store.endpoint "payloads" none = .ok url ∧
        outcome.2.state.2 =
          ⟨.get, url.withQuery query, store.headers, none⟩ :: world.state.2 := by
  have requested := fetchRequest_compiled compiled
  have state := @fetch_state_eq _ store network.logged world (some filter)
  have asked := @endpoint_query store query (Filter.compile_opens compiled).ne_empty "payloads"
  intro outcome
  cases address : store.endpoint "payloads" none with
  | error reason =>
      rw [address] at requested asked
      rw [requested] at state
      have unable : ¬ store.CanFetch query := by
        rintro ⟨url, found, _⟩
        cases asked.symm.trans found
      exact .inl ⟨unable, ⟨reason, fetch_eq_error_of_request requested world⟩, state⟩
  | ok url =>
      rw [address] at requested asked
      rw [requested] at state
      have able := canFetch_iff_isSendable asked
      by_cases sendable : store.CanFetch query
      · have sent := state.trans (if_pos (able.mp sendable))
        exact .inr ⟨url, rfl, congrArg Prod.snd sent⟩
      · have unsendable := mt able.mpr sendable
        have failed : outcome.1 = .error (.transport "no response") :=
          fetch_eq_error_of_unsendable requested (Bool.eq_false_iff.mpr unsendable) world
        exact .inl ⟨sendable, ⟨_, failed⟩, state.trans (if_neg unsendable)⟩

theorem run_filter {settings : Settings} {expression : String} (computer : Computer)
    (network : Http.Network τ) (start : World (Deployment τ))
    (style : settings.search.negation = store.negation)
    (parsed : Filter.parse expression = .ok filter)
    (compiled : filter.compile store.negation = .ok query) :
    (Command.run computer network settings (.filter expression)).run start =
      (.done [query], start) := by
  have printed : Command.compileFilter settings expression = .ok query := by
    rw [Command.compileFilter, Command.parseFilter, parsed, style]
    change (filter.compile store.negation).mapError _ = _
    rw [compiled]
    rfl
  rw [Command.run, printed]
  rfl

theorem store_negation {settings : PayloadSettings} {layout : PayloadLayout}
    {negation : NegationStyle} (made : settings.store layout negation = .ok store) :
    store.negation = negation := by
  rw [PayloadSettings.store, ofBase] at made
  split at made
  · cases made
    rfl
  · cases made

/-- A fetch with a filter fails before anything is sent, or sends one request, which has a query.
The query string is the one that the command for filters prints, given settings that mark
negations as the store does. -/
theorem fetch_filtered_sends (store : PayloadStore) (network : Http.Network σ) (filter : Filter)
    (world : World (σ × List Http.Request)) :
    let outcome := ((store.backend network.logged).fetch (some filter)).outcome world
    ((∃ reason, outcome.1 = .error reason) ∧ outcome.2.state = world.state ∨
      ∃ query request letter letters, store.query (some filter) = .ok (some query) ∧
        store.endpoint "payloads" (some query) = .ok request.url ∧ request.method = .get ∧
        request.url.query = some (letter :: letters) ∧
        outcome.2.state.2 = request :: world.state.2) ∧
    ∀ query, store.query (some filter) = .ok (some query) →
      query ≠ "" ∧ Filter.Opens query ∧
        ∀ (settings : Settings) (expression : String) (computer : Computer)
          (other : Http.Network τ) (start : World (Deployment τ)),
          settings.search.negation = store.negation → Filter.parse expression = .ok filter →
            (Command.run computer other settings (.filter expression)).run start =
              (.done [query], start) := by
  constructor
  · cases compiled : filter.compile store.negation with
    | error cause =>
        have refused : store.fetchRequest (some filter) = .error (.filter cause) := by
          rw [fetchRequest, PayloadStore.query, compiled]
          rfl
        refine .inl ⟨⟨_, fetch_eq_error_of_request refused world⟩, ?_⟩
        exact (fetch_state_eq (some filter)).trans (by rw [refused])
    | ok query =>
        have opens := Filter.compile_opens compiled
        rcases fetch_compiled network compiled world with ⟨_, failed, unsent⟩ | ⟨url, found, sent⟩
        · exact .inl ⟨failed, unsent⟩
        · obtain ⟨letter, letters, written⟩ := Url.exists_query opens url
          refine .inr ⟨query, _, letter, letters, query_eq_ok_iff.mpr compiled, ?_, rfl, written, sent⟩
          rw [endpoint_query opens.ne_empty, found]
          rfl
  · intro query asked
    have compiled := query_eq_ok_iff.mp asked
    have opens := Filter.compile_opens compiled
    refine ⟨opens.ne_empty, opens, ?_⟩
    intro settings expression computer other start style parsed
    exact run_filter computer other start style parsed compiled

theorem fetch_filtered_sends_blank :
    let settings : Settings :=
      { Settings.default with search := { Settings.defaultSearch with negation := .wrapped } }
    let text := "[\"negation\",[\"set_membership\",\"\",false,[\"\\t\"]]]"
    let filter : Filter := .not (.member "" false (.many [.string "\t"]))
    let query := "not(metadata..in=\t)"
    let computer : Computer := ⟨fun _ => none, fun _ => .error "no such file"⟩
    let start : World (Deployment Unit) := .start (.start ()) ⟨0⟩
    ∃ store, Settings.defaultPayload.store .root settings.search.negation = .ok store ∧
      Filter.parse text = .ok filter ∧ store.query (some filter) = .ok (some query) ∧
      query ≠ "" ∧ Filter.Opens query ∧
      (Command.run computer .unreachable settings (.filter text)).run start =
        (.done [query], start) := by
  intro settings text filter query computer start
  have made : Settings.defaultPayload.store .root .wrapped =
      .ok ⟨.root, "http://localhost:6767", none, "vector_store", none, .wrapped⟩ := by
    decide +kernel
  have parsed : Filter.parse text = .ok filter := by cbv
  refine ⟨_, made, parsed, rfl, ?_⟩
  have asked := (@fetch_filtered_sends _ Unit
    ⟨.root, "http://localhost:6767", none, "vector_store", none, .wrapped⟩ textKeeper filter
    (.start ([], []) ⟨0⟩)).2 query rfl
  obtain ⟨present, opens, printed⟩ := asked
  refine ⟨present, opens, ?_⟩
  exact printed settings text computer .unreachable start (store_negation made).symm parsed

/-- What is decoded from the one request is the query string without tabs and line breaks and with
each escape undone, and so the whole of it exactly if it has none of these. -/
theorem fetch_query_decodes (store : PayloadStore) (network : Http.Network σ)
    (compiled : filter.compile store.negation = .ok query)
    (world : World (σ × List Http.Request)) :
    let outcome := ((store.backend network.logged).fetch (some filter)).outcome world
    (¬ store.CanFetch query ∧ (∃ reason, outcome.1 = .error reason) ∧
        outcome.2.state = world.state) ∨
      ∃ request encoded, outcome.2.state.2 = request :: world.state.2 ∧ request.method = .get ∧
        Url.queryOf? request.url.target.toList = some encoded ∧
        Url.percentDecode encoded =
          Url.percentDecode (query.toList.filter (!Url.isLineBreakOrTab ·)) ∧
        (Url.percentDecode encoded = Text.encode query.toList ↔ Url.Unaltered query.toList) := by
  refine (fetch_compiled network compiled world).imp_right ?_
  rintro ⟨url, found, sent⟩
  obtain ⟨text, parsed⟩ := exists_parse found
  have questionless := Url.question_notMem_path parsed
  have decoded := Url.percentDecode_percentEncode
    (Url.inQuerySet_keepsEscapes (Url.isSpecial (String.ofList url.scheme)))
    (query.toList.filter (!Url.isLineBreakOrTab ·))
  refine ⟨_, _, sent, rfl, Url.queryOf?_target questionless query, decoded, ?_⟩
  rw [decoded]
  exact Url.percentDecode_filter_eq_encode_iff

theorem fetch_query_decodes_sign :
    let store : PayloadStore :=
      ⟨.versioned, "http://127.0.0.1:7700", some "key", "notes", none, .wrapped⟩
    let filter : Filter := .not (.compare "größe" .eq (.one (.string "50% off?")))
    let query := "not(metadata.größe.eq=50% off?)"
    let world : World (List Char × List Http.Request) := .start ([], []) ⟨0⟩
    let outcome := ((store.backend textKeeper.logged).fetch (some filter)).outcome world
    filter.compile store.negation = .ok query ∧ store.CanFetch query ∧ Url.Unaltered query.toList ∧
      ∃ request encoded, outcome.2.state.2 = request :: world.state.2 ∧ request.method = .get ∧
        Url.queryOf? request.url.target.toList = some encoded ∧
        Url.percentDecode encoded = Text.encode query.toList := by
  intro store filter query world outcome
  obtain ⟨url, found, isHttp⟩ : ∃ url, store.endpoint "payloads" (some query) = .ok url ∧
      url.isHttp = true := exists_isHttp (by decide +kernel)
  have reaches : store.CanFetch query := ⟨url, found, isHttp, by decide +kernel⟩
  have compiled : filter.compile store.negation = .ok query := rfl
  have unaltered : Url.Unaltered query.toList :=
    Url.percentDecode_filter_eq_encode_iff.mp (by decide +kernel)
  refine ⟨compiled, reaches, unaltered, ?_⟩
  obtain ⟨absent, _⟩ | ⟨request, encoded, sent, get, asked, _, decodes⟩ :=
    fetch_query_decodes store textKeeper compiled world
  · exact absurd reaches absent
  · simp only [outcome]
    exact ⟨request, encoded, sent, get, asked, decodes.mpr unaltered⟩

/-- A tab in a value is left out on the way, and nothing fails. -/
theorem fetch_query_without_tab :
    let store : PayloadStore :=
      ⟨.root, "http://127.0.0.1:7700", none, "vector_store", none, .legacy⟩
    let filter : Filter := .compare "a" .eq (.one (.string "x\ty"))
    let query := "metadata.a.eq=x\ty"
    let world : World (List Char × List Http.Request) := .start ([], []) ⟨0⟩
    let outcome := ((store.backend textKeeper.logged).fetch (some filter)).outcome world
    let decoded := outcome.2.state.2.map fun request =>
      (Url.queryOf? request.url.target.toList).map Url.percentDecode
    filter.compile store.negation = .ok query ∧ outcome.1.map List.length = .ok 0 ∧
      outcome.2.state.2.map (·.url.target) =
        ["/collections/vector_store/payloads?metadata.a.eq=xy"] ∧
      decoded = [some (Text.encode "metadata.a.eq=xy".toList)] ∧
      decoded ≠ [some (Text.encode query.toList)] := by
  decide +kernel

end PayloadStore

end VectorSearch
