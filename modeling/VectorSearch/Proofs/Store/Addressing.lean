import VectorSearch.Proofs.Settings.Address
import VectorSearch.Proofs.Store.Filtered

namespace VectorSearch

/-! Where a payload store sends its requests.

The name of a collection is pasted into the address of every request. A name that means nothing in a
path reaches the server as it is, so every request is for the store's own collection, and no other
store's. Any other name leads every request astray.
-/

open Text Url

namespace PayloadLayout

/-- What stands between a server and its collections, as names. -/
def names : PayloadLayout → List String
  | .root => []
  | .versioned => ["api", "v1"]

/-- What stands in front of the name of a collection in a path. -/
def front (layout : PayloadLayout) : List (List Char) :=
  (layout.names ++ ["collections"]).map String.toList

theorem plain_front (layout : PayloadLayout) : ∀ segment ∈ layout.front, PlainSegment segment := by
  have collections : PlainSegment "collections".toList := .of_isAlphanum (by decide)
  cases layout with
  | root => exact List.forall_mem_singleton.mpr collections
  | versioned =>
      have api : PlainSegment "api".toList := .of_isAlphanum (by decide)
      have version : PlainSegment "v1".toList := .of_isAlphanum (by decide)
      exact List.forall_mem_cons.mpr ⟨api, List.forall_mem_cons.mpr
        ⟨version, List.forall_mem_singleton.mpr collections⟩⟩

theorem toList_path (layout : PayloadLayout) (name ending : List Char) :
    layout.path.toList ++ ("/collections/".toList ++ (name ++ '/' :: ending)) =
      pasted layout.front name ending := by
  cases layout <;> rfl

end PayloadLayout

namespace PayloadStore

def IsEnding (suffix : String) : Prop :=
  suffix = "payload" ∨ suffix = "payloads"

variable {settings : PayloadSettings} {layout : PayloadLayout} {negation : NegationStyle}
  {store : PayloadStore} {suffix : String}

theorem IsEnding.plain (ending : IsEnding suffix) : PlainSegment suffix.toList := by
  rcases ending with rfl | rfl
  · exact .of_isAlphanum (by decide)
  · exact .of_isAlphanum (by decide)

theorem visible_pasted (layout : PayloadLayout) (name : List Char) (ending : IsEnding suffix) :
    visible (pasted layout.front name suffix.toList) =
      pasted layout.front (visible name) suffix.toList := by
  have kept := filter_of_kept ending.plain.unaltered.kept
  cases layout <;>
    simp only [PayloadLayout.front, PayloadLayout.names, pasted, List.map_cons, List.map_nil,
      List.nil_append, List.cons_append, visible, List.flatMap_cons, List.flatMap_nil,
      List.filter_cons, List.filter_append, kept] <;>
    rfl

theorem lt_last_pasted (before : List (List Char)) (name : List Char) (ending : IsEnding suffix) :
    ∀ last ∈ (pasted before name suffix.toList).getLast?, ' ' < last := by
  have split : pasted before name suffix.toList =
      '/' :: (before.flatMap (· ++ ['/']) ++ (name ++ ['/'])) ++ suffix.toList := by
    simp [pasted]
  rw [split]
  rcases ending with rfl | rfl
  · rw [List.getLast?_append_of_ne_nil _ (by decide)]
    rintro _ ⟨⟩
    decide
  · rw [List.getLast?_append_of_ne_nil _ (by decide)]
    rintro _ ⟨⟩
    decide

/-- Only what an address names is read from settings, and it must be an address. -/
theorem made_store (named : settings.NamesHost) (made : settings.store layout negation = .ok store) :
    store = ⟨layout, settings.base, settings.apiKey, settings.collection, settings.dimensions,
      negation⟩ ∧ ∃ url, readAuthority "http".toList settings.authority = .ok url := by
  have whole : dropEndSlashes settings.base = settings.base := by
    rw [dropEndSlashes, dropEndWhile_of_last, String.ofList_toList]
    intro last final
    rw [settings.toList_base, ← List.append_assoc] at final
    by_contra slash
    obtain rfl : last = '/' := by simpa using slash
    cases settings.isDigit_last final
  have parsed := @PayloadSettings.parse_behind settings named [] nofun nofun
  have nothing : settings.base ++ String.ofList [] = settings.base := String.append_empty
  rw [nothing] at parsed
  rw [PayloadSettings.store, ofBase, whole] at made
  split at made
  next url accepted =>
    cases made
    rw [accepted] at parsed
    cases read : readAuthority "http".toList settings.authority with
    | error fault =>
        rw [read] at parsed
        cases parsed
    | ok url => exact ⟨rfl, url, rfl⟩
  next => cases made

theorem endpoint_path (named : settings.NamesHost)
    (made : settings.store layout negation = .ok store) (ending : IsEnding suffix) :
    ∃ url, store.endpoint suffix none = .ok url ∧
      url.path = pathOf (pasted layout.front (visible settings.collection.toList) suffix.toList) := by
  obtain ⟨rfl, url, read⟩ := made_store named made
  have text : settings.base ++ layout.path ++ "/collections/" ++ settings.collection ++ "/" ++ suffix =
      settings.base ++
        String.ofList (pasted layout.front settings.collection.toList suffix.toList) := by
    rw [← String.toList_inj, ← layout.toList_path]
    simp
  have shown := visible_pasted layout settings.collection.toList ending
  have begins : ∀ c ∈ (visible (pasted layout.front settings.collection.toList
      suffix.toList)).head?, endsAuthority c = true := by
    rw [shown]
    rintro _ ⟨⟩
    rfl
  have parsed := settings.parse_behind named begins (lt_last_pasted _ _ ending)
  rw [shown, read, ← text] at parsed
  refine ⟨_, ?_, withRest_path url _⟩
  unfold endpoint
  dsimp only
  rw [parsed]
  rfl

/-- The request that an operation makes, if it comes to one. -/
def requestFor? (store : PayloadStore) : Backend.Operation → Option Http.Request
  | .push document => (store.pushRequest document).toOption
  | .pushBatch [] => none
  | .pushBatch documents => (store.pushBatchRequest documents).toOption
  | .fetch filter => (store.fetchRequest filter).toOption

variable {operation : Backend.Operation} {request : Http.Request}

theorem eq_ok_of_toOption {result : Except ε α} {value : α} (some : result.toOption = some value) :
    result = .ok value := by
  cases result with
  | error reason => cases some
  | ok other => exact congrArg Except.ok (Option.some.inj some)

/-- A query does not change what an address names. -/
theorem endpoint_path_eq {query : Option String} {url : Url}
    (found : store.endpoint suffix query = .ok url) :
    ∃ plain, store.endpoint suffix none = .ok plain ∧ url.path = plain.path := by
  revert found
  unfold endpoint
  dsimp only
  generalize Url.parse _ = parsed
  intro found
  cases parsed with
  | error fault => cases found
  | ok plain =>
      refine ⟨plain, rfl, ?_⟩
      cases query with
      | none =>
          cases found
          rfl
      | some text =>
          cases found
          split <;> rfl

theorem requestFor?_endpoint (made : store.requestFor? operation = some request) :
    ∃ suffix query, IsEnding suffix ∧ store.endpoint suffix query = .ok request.url := by
  cases operation with
  | push document =>
      have formed := eq_ok_of_toOption made
      simp only [pushRequest, Json.bind_eq_ok_iff] at formed
      obtain ⟨_, _, url, found, ⟨⟩⟩ := formed
      exact ⟨"payload", none, .inl rfl, found⟩
  | pushBatch documents =>
      cases documents with
      | nil => cases made
      | cons first rest =>
          have formed := eq_ok_of_toOption made
          simp only [pushBatchRequest, Json.bind_eq_ok_iff] at formed
          obtain ⟨_, _, url, found, ⟨⟩⟩ := formed
          exact ⟨"payloads", none, .inr rfl, found⟩
  | fetch filter =>
      have formed := eq_ok_of_toOption made
      simp only [fetchRequest, Json.bind_eq_ok_iff] at formed
      obtain ⟨query, _, url, found, ⟨⟩⟩ := formed
      exact ⟨"payloads", query, .inr rfl, found⟩

theorem requestFor?_path (named : settings.NamesHost)
    (built : settings.store layout negation = .ok store)
    (made : store.requestFor? operation = some request) :
    ∃ suffix, IsEnding suffix ∧ request.url.path =
      pathOf (pasted layout.front (visible settings.collection.toList) suffix.toList) := by
  obtain ⟨suffix, query, ending, found⟩ := requestFor?_endpoint made
  obtain ⟨plain, foundPlain, samePath⟩ := endpoint_path_eq found
  obtain ⟨url, address, path⟩ := endpoint_path named built ending
  cases foundPlain.symm.trans address
  exact ⟨suffix, ending, samePath.trans path⟩

theorem post_state_eq (network : Http.Network σ) (formed : Except StoreError Http.Request)
    (name : String) (measured : Measure) (world : World σ) :
    Act.outcome (do
        let request ← Act.ofExcept formed
        let _ ← store.perform network name request
        Act.measure measured) world |>.2.state =
      match formed.toOption with
      | none => world.state
      | some request =>
          if request.isSendable then (network.send request world.state).2 else world.state := by
  simp only [Act.outcome_bind, Act.outcome_ofExcept]
  cases formed with
  | error reason => rfl
  | ok request =>
      have performed := @perform_state _ store network world request name
      dsimp only [Except.toOption]
      rw [← performed]
      rcases (store.perform network name request).outcome world with ⟨_ | body, after⟩ <;> rfl

theorem perform_state_eq (network : Http.Network σ) (operation : Backend.Operation)
    (world : World σ) :
    (((store.backend network).perform operation).outcome world).2.state =
      match store.requestFor? operation with
      | none => world.state
      | some request =>
          if request.isSendable then (network.send request world.state).2 else world.state := by
  cases operation with
  | push document => exact post_state_eq ..
  | pushBatch documents =>
      cases documents with
      | nil => rfl
      | cons first rest => exact post_state_eq ..
  | fetch filter =>
      have quiet : (((store.backend network).perform (.fetch filter)).outcome world).2.state =
          (((store.backend network).fetch filter).outcome world).2.state := by
        simp only [Backend.perform, Act.outcome_bind]
        rcases ((store.backend network).fetch filter).outcome world with ⟨_ | _, after⟩ <;> rfl
      rw [quiet, fetch_state_eq, requestFor?]
      cases store.fetchRequest filter <;> rfl

theorem perform_sends (network : Http.Network σ) (operation : Backend.Operation)
    (world : World (σ × List Http.Request)) :
    ∃ sent, (((store.backend network.logged).perform operation).outcome world).2.state.2 =
        sent ++ world.state.2 ∧
      ∀ request ∈ sent, store.requestFor? operation = some request := by
  have state := @perform_state_eq store _ network.logged operation world
  cases formed : store.requestFor? operation with
  | none =>
      rw [formed] at state
      exact ⟨[], congrArg Prod.snd state, List.forall_mem_nil _⟩
  | some request =>
      rw [formed] at state
      dsimp only at state
      split at state
      next =>
        refine ⟨[request], congrArg Prod.snd state, fun other member => ?_⟩
        rw [List.mem_singleton.mp member]
      next => exact ⟨[], congrArg Prod.snd state, List.forall_mem_nil _⟩

/-- Whatever is sent in a run is the request of one of its operations. -/
theorem run_sends (network : Http.Network σ) (operations : List Backend.Operation)
    (world : World (σ × List Http.Request)) :
    ∃ sent, ((store.backend network.logged).run operations world).2.state.2 =
        sent ++ world.state.2 ∧
      ∀ request ∈ sent, ∃ operation ∈ operations, store.requestFor? operation = some request := by
  induction operations generalizing world with
  | nil => exact ⟨[], rfl, List.forall_mem_nil _⟩
  | cons operation rest ih =>
      obtain ⟨first, logged, formed⟩ := @perform_sends store _ network operation world
      obtain ⟨later, log, made⟩ :=
        ih (((store.backend network.logged).perform operation).outcome world).2
      -- The log grows in front, so the later requests stand before the first one.
      refine ⟨later ++ first, ?_, fun request member => ?_⟩
      · rw [List.append_assoc, ← logged]
        exact log
      · rcases List.mem_append.mp member with inRest | here
        · obtain ⟨other, among, request⟩ := made request inRest
          exact ⟨other, List.mem_cons_of_mem _ among, request⟩
        · exact ⟨operation, List.mem_cons_self, formed request here⟩

/-- A path names a collection, and what is asked of it. -/
def Addresses (layout : PayloadLayout) (collection : String) (path : Path) : Prop :=
  ∃ suffix, IsEnding suffix ∧ path.names =
    (layout.names ++ ["collections", collection, suffix]).map fun name => encode name.toList

theorem map_encode_names (layout : PayloadLayout) (collection suffix : String) :
    (layout.names ++ ["collections", collection, suffix]).map (fun name => encode name.toList) =
      (layout.front ++ [collection.toList, suffix.toList]).map encode := by
  simp [PayloadLayout.front]

theorem addresses_iff_plain {collection : String} (ending : IsEnding suffix) :
    Addresses layout collection
        (pathOf (pasted layout.front (visible collection.toList) suffix.toList)) ↔
      PlainSegment collection.toList := by
  constructor
  · rintro ⟨other, _, named⟩
    rw [map_encode_names] at named
    apply plain_of_names layout.plain_front ending.plain
    · rw [named]
      simp
    · rw [named]
      simp
  · intro plain
    have shown : visible collection.toList = collection.toList :=
      filter_of_kept plain.unaltered.kept
    refine ⟨suffix, ending, ?_⟩
    rw [shown, map_encode_names, names_of_plain layout.plain_front plain ending.plain]

theorem requestFor?_addresses (named : settings.NamesHost)
    (built : settings.store layout negation = .ok store)
    (made : store.requestFor? operation = some request) :
    Addresses layout settings.collection request.url.path ↔
      PlainSegment settings.collection.toList := by
  obtain ⟨suffix, ending, path⟩ := requestFor?_path named built made
  rw [path]
  exact addresses_iff_plain ending

theorem collection_eq_of_addresses {layout' : PayloadLayout} {collection collection' : String}
    {path : Path} (addresses : Addresses layout collection path)
    (addresses' : Addresses layout' collection' path) : collection = collection' := by
  obtain ⟨suffix, _, names⟩ := addresses
  obtain ⟨suffix', _, names'⟩ := addresses'
  have same := names.symm.trans names'
  rw [map_encode_names, map_encode_names] at same
  have endings := (List.append_inj' (List.map_injective_iff.mpr encode_injective same) rfl).2
  exact String.toList_inj.mp (List.cons.inj endings).1

/-- Where the settings name a host, every request that is sent in a run addresses the store's own
collection exactly if the name of that is plain. Stores for collections with different plain names
never ask for one address. -/
theorem requests_address_collection_iff (named : settings.NamesHost)
    (built : settings.store layout negation = .ok store) (network : Http.Network σ)
    (operations : List Backend.Operation) (world : World (σ × List Http.Request)) :
    (∃ sent, ((store.backend network.logged).run operations world).2.state.2 =
        sent ++ world.state.2 ∧
      ∀ request ∈ sent, (Addresses layout settings.collection request.url.path ↔
        PlainSegment settings.collection.toList)) ∧
    ∀ (settings' : PayloadSettings) (layout' : PayloadLayout) (negation' : NegationStyle)
      (store' : PayloadStore), settings'.NamesHost →
      settings'.store layout' negation' = .ok store' →
      PlainSegment settings.collection.toList → PlainSegment settings'.collection.toList →
      settings.collection ≠ settings'.collection →
      ∀ operation operation' request request', store.requestFor? operation = some request →
        store'.requestFor? operation' = some request' → request.url ≠ request'.url := by
  constructor
  · obtain ⟨sent, log, made⟩ := @run_sends store _ network operations world
    refine ⟨sent, log, fun request member => ?_⟩
    obtain ⟨operation, _, formed⟩ := made request member
    exact requestFor?_addresses named built formed
  · intro settings' layout' negation' store' named' built' plain plain' different operation
      operation' request request' formed formed' same
    have addresses := (requestFor?_addresses named built formed).mpr plain
    have addresses' := (requestFor?_addresses named' built' formed').mpr plain'
    rw [← same] at addresses'
    exact different (collection_eq_of_addresses addresses addresses')

theorem requests_address_collection_iff_spaced :
    let settings : PayloadSettings := { Settings.defaultPayload with collection := "größe 50%" }
    let store : PayloadStore :=
      ⟨.versioned, "http://localhost:6767", none, "größe 50%", none, .legacy⟩
    let world : World (List Char × List Http.Request) := .start ([], []) ⟨0⟩
    settings.NamesHost ∧ settings.store .versioned .legacy = .ok store ∧
      PlainSegment settings.collection.toList ∧
      let log := ((store.backend textKeeper.logged).run [.push ⟨"a", "x", [], some []⟩, .fetch none]
        world).2.state.2
      log.map (·.url.target) = ["/api/v1/collections/gr%C3%B6%C3%9Fe%2050%/payloads",
        "/api/v1/collections/gr%C3%B6%C3%9Fe%2050%/payload"] ∧
      ∀ request ∈ log, Addresses .versioned settings.collection request.url.path := by
  intro settings store world
  have named : settings.NamesHost := (PlainSegment.of_isAlphanum (by decide)).whole
  have built : settings.store .versioned .legacy = .ok store := by decide +kernel
  have unaltered : Unaltered settings.collection.toList :=
    percentDecode_filter_eq_encode_iff.mp (by decide +kernel)
  have clear : settings.collection.toList.all (!endsAuthority ·) = true := by decide +kernel
  have plain : PlainSegment settings.collection.toList :=
    ⟨unaltered, fun c member => by simpa using List.all_eq_true.mp clear c member, by decide⟩
  obtain ⟨⟨sent, log, addressed⟩, -⟩ := requests_address_collection_iff named built textKeeper
    [.push ⟨"a", "x", [], some []⟩, .fetch none] world
  rw [show world.state.2 = [] from rfl, List.append_nil] at log
  refine ⟨named, built, plain, by decide +kernel, ?_⟩
  rw [log]
  exact fun request member => (addressed request member).mpr plain

/-- A name with a question mark or with dots is accepted, and takes requests elsewhere. -/
theorem requests_astray :
    let text (name : String) :=
      "[store]\ntype = \"similake\"\ncollection_name = \"" ++ name ++ "\"\n"
    let settings (name : String) : PayloadSettings :=
      { Settings.defaultPayload with collection := name }
    let url? (name : String) := (settings name).store .root .legacy |>.toOption.bind fun store =>
      (store.requestFor? (.push ⟨"a", "x", [], some []⟩)).map Http.Request.url
    (∀ name ∈ ["a?b", "x/../notes", "notes"], Settings.ofText (fun _ => none) (text name) =
      .ok { Settings.default with store := .payload .root (settings name) }) ∧
    (url? "a?b").map Url.target = some "/collections/a?b/payload" ∧
    (∃ url, url? "a?b" = some url ∧ ¬Addresses .root "a?b" url.path) ∧
    (url? "x/../notes").isSome = true ∧ url? "x/../notes" = url? "notes" := by
  intro text settings url?
  have accepted : ∀ name ∈ ["a?b", "x/../notes", "notes"],
      Settings.ofText (fun _ => none) (text name) =
        .ok { Settings.default with store := .payload .root (settings name) } := by
    decide +kernel
  have target : (url? "a?b").map Url.target = some "/collections/a?b/payload" := by
    decide +kernel
  have short : (url? "a?b").map (·.path.names.length) = some 2 := by decide +kernel
  refine ⟨accepted, target, ?_, by decide +kernel⟩
  obtain ⟨url, sent, names⟩ := Option.map_eq_some_iff.mp short
  refine ⟨url, sent, ?_⟩
  rintro ⟨suffix, _, named⟩
  rw [named] at names
  cases names

end PayloadStore

end VectorSearch
