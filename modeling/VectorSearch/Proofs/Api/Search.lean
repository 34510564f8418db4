import VectorSearch.Command.Run
import VectorSearch.Http.Script
import VectorSearch.Proofs.Activity
import VectorSearch.Proofs.Api.Form
import VectorSearch.Proofs.Collection.Drawing
import VectorSearch.Proofs.Collection.InMemory
import VectorSearch.Proofs.Filter.ReadBack

namespace VectorSearch

/-! The ways to search come to one.

A query in an address, a body and the words of a command are three ways to ask for a search. Each
fills in by itself what is left open, and writes the hits in its own form. What they ask for is the
same request, so they fail together, and for one reason, or return the same hits in one order.
-/

namespace Api

open Json

def Payload.empty : Payload := ⟨none, none, none, none⟩

/-- A search as it is given, nothing filled in. -/
def Payload.shape : Shape Payload :=
  Shape.record Payload.slots Payload.empty some

/-- A member that may be left out or have no value. -/
def member (name : String) (write : α → Json) : Option (Option α) → List (String × Json)
  | none => []
  | some none => [(name, .null)]
  | some (some value) => [(name, write value)]

namespace Payload

def toJson (payload : Payload) : Json :=
  .obj ((payload.query.map fun query => ("query", .str query)).toList ++
    member "filter" Filter.toJson payload.filter ++
    member "top_k" (fun topK => .int (topK : Nat)) payload.topK ++
    member "similarity_threshold" .float payload.threshold)

/-- All that a payload gives is read back from its text. -/
structure ReadsBack (payload : Payload) : Prop where
  filter : ∀ filter, payload.filter = some (some filter) → filter.ReadsBack
  topK : ∀ topK, payload.topK = some (some topK) → topK < UInt64.size
  threshold : ∀ threshold, payload.threshold = some (some threshold) →
    (Json.float threshold).ReadsBack

/-- The search for a query, what a payload leaves open taken from settings. -/
def request (settings : SearchSettings) (query : String) (payload : Payload) : SearchRequest :=
  ⟨query, ⟨payload.filter.join, payload.topK.join.getD settings.topK,
    payload.threshold.join.getD settings.threshold⟩⟩

end Payload

variable {depth : Nat} {payload : Payload}

theorem foldlM_filter {filter : Option (Option Filter)} (isOpen : payload.filter = none)
    (readsBack : ∀ value, filter = some (some value) → value.ReadsBack)
    (fits : nestingMembers (member "filter" Filter.toJson filter) ≤ depth) :
    (outlinedMembers (member "filter" Filter.toJson filter)).foldlM
      (Shape.readMember Payload.slots depth) payload = .ok { payload with filter } := by
  obtain ⟨query, _, topK, threshold⟩ := payload
  cases isOpen
  rcases filter with _ | _ | filter
  · rfl
  · rfl
  · have inside : filter.toJson.nesting ≤ depth := (Nat.max_le.mp fits).1
    have present : filter.toJson.outlined ≠ .null := by
      rw [Filter.toJson_eq]
      exact nofun
    have read := optional_of_ok (Filter.shape_outlined (readsBack filter rfl) inside) present
    refine bind_eq_ok_iff.mpr ⟨_, ?_, rfl⟩
    change _ <$> Shape.optional Filter.shape depth filter.toJson.outlined = _
    rw [read]
    rfl

theorem foldlM_topK {topK : Option (Option Nat)} (isOpen : payload.topK = none)
    (readsBack : ∀ value, topK = some (some value) → value < UInt64.size) :
    (outlinedMembers (member "top_k" (fun value => .int (value : Nat)) topK)).foldlM
      (Shape.readMember Payload.slots depth) payload = .ok { payload with topK } := by
  obtain ⟨query, filter, _, threshold⟩ := payload
  cases isOpen
  rcases topK with _ | _ | topK
  · rfl
  · rfl
  · have number := @natural_outlined depth topK (readsBack topK rfl)
    have read := optional_of_ok number nofun
    refine bind_eq_ok_iff.mpr ⟨_, ?_, rfl⟩
    change _ <$> Shape.optional Shape.natural depth (Json.int topK).outlined = _
    rw [read]
    rfl

theorem foldlM_threshold {threshold : Option (Option Float)} (isOpen : payload.threshold = none)
    (readsBack : ∀ value, threshold = some (some value) → (Json.float value).ReadsBack) :
    (outlinedMembers (member "similarity_threshold" .float threshold)).foldlM
      (Shape.readMember Payload.slots depth) payload = .ok { payload with threshold } := by
  obtain ⟨query, filter, topK, _⟩ := payload
  cases isOpen
  rcases threshold with _ | _ | threshold
  · rfl
  · rfl
  · have number := @double_outlined depth threshold (readsBack threshold rfl)
    have present : (Json.float threshold).outlined ≠ .null := by
      intro null
      rw [null] at number
      cases number
    refine bind_eq_ok_iff.mpr ⟨_, ?_, rfl⟩
    change _ <$> Shape.optional Shape.double depth (Json.float threshold).outlined = _
    rw [optional_of_ok number present]
    rfl

theorem Payload.shape_outlined (readsBack : payload.ReadsBack)
    (fits : payload.toJson.nesting ≤ depth) :
    Payload.shape depth payload.toJson.outlined = .ok payload := by
  obtain ⟨room, rfl⟩ : ∃ room, depth = room + 1 :=
    Nat.exists_eq_add_one.mpr (Nat.lt_of_lt_of_le (Nat.succ_pos _) fits)
  have inside := Nat.le_of_succ_le_succ fits
  rw [nestingMembers_append, nestingMembers_append, nestingMembers_append] at inside
  obtain ⟨⟨⟨-, filterFits⟩, -⟩, -⟩ : ((_ ∧ _) ∧ _) ∧ _ := by
    simpa only [Nat.max_le] using inside
  refine record_of_members ?_ rfl
  have query : (outlinedMembers
      (payload.query.map fun query => ("query", Json.str query)).toList).foldlM
      (Shape.readMember Payload.slots room) empty = .ok { empty with query := payload.query } := by
    cases payload.query <;> rfl
  have filter := @foldlM_filter room { empty with query := payload.query } _ rfl
    readsBack.filter filterFits
  have topK := @foldlM_topK room { empty with query := payload.query, filter := payload.filter } _
    rfl readsBack.topK
  have threshold := @foldlM_threshold room { payload with threshold := none } _ rfl
    readsBack.threshold
  rw [outlinedMembers_append, outlinedMembers_append, outlinedMembers_append, List.foldlM_append,
    List.foldlM_append, List.foldlM_append]
  exact bind_eq_ok_iff.mpr ⟨_, bind_eq_ok_iff.mpr ⟨_, bind_eq_ok_iff.mpr ⟨_, query, filter⟩, topK⟩,
    threshold⟩

theorem length_le_stringText (text : String) : text.toList.length ≤ (stringText text).length := by
  have escaped (chars : List Char) : chars.length ≤ (chars.flatMap escape).length := by
    induction chars with
    | nil => exact Nat.le_refl 0
    | cons c rest ih =>
        have one : 1 ≤ (escape c).length := by
          unfold escape
          split <;> first | decide | skip
          split <;> simp
        rw [List.flatMap_cons, List.length_append, List.length_cons]
        omega
  have inside := escaped text.toList
  simp only [stringText, List.length_append, List.length_cons]
  omega

namespace Request

/-- Its address asks for a search, with one query. -/
structure Gets (request : Request) (query : String) : Prop where
  method : request.method = "GET"
  short : request.target.utf8ByteSize ≤ targetLimit
  path : String.ofList (targetPath request.target.toList) = "/search"
  query : Service.queryValues request = [query]

/-- Its body asks for a search. -/
structure Posts (request : Request) (payload : Payload) : Prop where
  method : request.method = "POST"
  short : request.target.utf8ByteSize ≤ targetLimit
  path : String.ofList (targetPath request.target.toList) = "/search"
  body : readBody request Payload.shape = .ok payload

/-- The request for a query in the form of an address. -/
def ofQuery (query : String) : Request :=
  ⟨"GET", String.ofList (searchTarget (formEncode query.toList)), none, ""⟩

def ofPayload (payload : Payload) : Request :=
  ⟨"POST", "/search", some "application/json", payload.toJson.print⟩

theorem gets_ofQuery {query : String} (short : (ofQuery query).target.utf8ByteSize ≤ targetLimit) :
    (ofQuery query).Gets query := by
  have unbroken : '#' ∉ formEncode query.toList :=
    notMem_formEncode (by decide) (by decide) (by decide) (by decide) _
  have whole : '&' ∉ formEncode query.toList :=
    notMem_formEncode (by decide) (by decide) (by decide) (by decide) _
  refine ⟨rfl, short, ?_, ?_⟩
  · rw [ofQuery, String.toList_ofList, targetPath_searchTarget unbroken]
  · rw [Service.queryValues, ofQuery, String.toList_ofList, targetQuery_searchTarget unbroken,
      formFields_field whole, formDecode_formEncode, String.ofList_toList]
    rfl

theorem posts_ofPayload {payload : Payload} (readsBack : payload.ReadsBack)
    (fits : payload.toJson.nesting ≤ depthLimit)
    (short : (ofPayload payload).body.utf8ByteSize ≤ bodyLimit) :
    (ofPayload payload).Posts payload := by
  have declared : ((some "application/json").map isJsonType).getD false = true := by decide
  have path : String.ofList (targetPath "/search".toList) = "/search" := by decide
  have read : readWith Payload.shape payload.toJson.print = .ok payload := by
    rw [readWith_print, payload.shape_outlined readsBack fits]
  have target : "/search".utf8ByteSize ≤ targetLimit := by decide
  refine ⟨rfl, target, path, ?_⟩
  rw [ofPayload] at short ⊢
  simp only [readBody, declared, if_true, if_neg (Nat.not_lt.mpr short), read]

/-- A query that is too long has no address. -/
theorem targetLimit_lt_ofQuery {query : String} (long : targetLimit < query.toList.length) :
    targetLimit < (ofQuery query).target.utf8ByteSize := by
  calc
    targetLimit < query.toList.length := long
    _ ≤ (formEncode query.toList).length := length_le_formEncode query.toList
    _ ≤ (searchTarget (formEncode query.toList)).length := length_le_searchTarget _
    _ ≤ (ofQuery query).target.utf8ByteSize := by
      rw [ofQuery]
      exact length_le_utf8ByteSize _

/-- A query that is too long has no body. -/
theorem bodyLimit_lt_ofPayload {query : String} (given : payload.query = some query)
    (long : bodyLimit < query.toList.length) :
    bodyLimit < (ofPayload payload).body.utf8ByteSize := by
  calc
    bodyLimit < query.toList.length := long
    _ ≤ (stringText query).length := length_le_stringText query
    _ ≤ payload.toJson.chars.length := by
      simp only [Payload.toJson, given, Option.map_some, Option.toList_some, List.append_assoc,
        List.cons_append, Json.chars, List.length_append, List.length_cons]
      omega
    _ ≤ (ofPayload payload).body.utf8ByteSize := by
      rw [ofPayload]
      exact length_le_utf8ByteSize _

end Request

/-- What is told of a hit: all of its document but the vector, and the score. -/
def told (hit : Hit) : Json :=
  .obj [("id", .str hit.document.id), ("content", .str hit.document.content),
    ("metadata", .obj hit.document.metadata), ("score", .float hit.score)]

/-- What a search comes to as a response. -/
def searchResponse : Except StoreError (List Hit) → Response
  | .ok hits => .json 200 (.obj [("results", .arr (hits.map told))])
  | .error reason => .ofProblem (.ofStoreError reason)

variable {service : Service σ} {request : Request} {query : String}

theorem runSearch_run (service : Service σ) (search : SearchRequest) (world : World σ) :
    (service.runSearch search).run world =
      (searchResponse ((service.collection.search search).outcome world).1,
        ((service.collection.search search).outcome world).2) := by
  have outcome : (service.collection.search search).run.run world =
      (service.collection.search search).outcome world := rfl
  rw [Service.runSearch, Service.answer, StateT.run_bind, outcome]
  obtain ⟨_ | hits, after⟩ := (service.collection.search search).outcome world <;> rfl

/-- What is told of a hit is read back, beside others in a response. -/
structure Tellable (hit : Hit) : Prop where
  readsBack : (told hit).ReadsBack
  nesting : (told hit).nesting + 2 ≤ depthLimit

theorem parse_searchResponse {hits : List Hit} (tellable : ∀ hit ∈ hits, Tellable hit) :
    parse (searchResponse (.ok hits)).body = .ok (.obj [("results", .arr (hits.map told))]) := by
  have readsBack : ReadsBackItems (hits.map told) := by
    induction hits with
    | nil => trivial
    | cons hit rest ih =>
        obtain ⟨here, others⟩ := List.forall_mem_cons.mp tellable
        exact ⟨here.readsBack, ih others⟩
  have nesting : nestingItems (hits.map told) + 2 ≤ depthLimit := by
    induction hits with
    | nil => decide
    | cons hit rest ih =>
        obtain ⟨here, others⟩ := List.forall_mem_cons.mp tellable
        have inside := ih others readsBack.2
        have first := here.nesting
        rw [List.map_cons, nestingItems]
        omega
  have fits : (Json.obj [("results", .arr (hits.map told))]).nesting ≤ depthLimit := by
    simp only [Json.nesting, nestingMembers]
    omega
  exact parse_print ⟨readsBack, trivial⟩ fits

/-- One text tells of one list of hits: in one order, with the same identifiers, contents, metadata
and scores. -/
theorem hits_of_searchResponse {hits others : List Hit} (tellable : ∀ hit ∈ hits, Tellable hit)
    (tellable' : ∀ hit ∈ others, Tellable hit)
    (same : (searchResponse (.ok hits)).body = (searchResponse (.ok others)).body) :
    List.Forall₂ (fun hit other => hit.document.id = other.document.id ∧
      hit.document.content = other.document.content ∧
      hit.document.metadata = other.document.metadata ∧ hit.score = other.score) hits others := by
  have read := parse_searchResponse tellable
  rw [same, parse_searchResponse tellable'] at read
  have told_eq : others.map told = hits.map told := by simpa using read
  clear tellable tellable' same read
  induction hits generalizing others with
  | nil =>
      cases List.map_eq_nil_iff.mp told_eq
      exact .nil
  | cons hit rest ih =>
      cases others with
      | nil => cases told_eq
      | cons other others =>
          obtain ⟨first, behind⟩ := List.cons.inj told_eq
          refine .cons ?_ (ih behind)
          simp only [told, Json.obj.injEq, List.cons.injEq, Prod.mk.injEq, Json.str.injEq,
            Json.float.injEq, true_and, and_true] at first
          exact ⟨first.1.symm, first.2.1.symm, first.2.2.1.symm, first.2.2.2.symm⟩

theorem readBody_searchShape {settings : SearchSettings}
    (read : readBody request Payload.shape = .ok payload) (given : payload.query = some query) :
    readBody request (searchShape settings) = .ok (payload.request settings query) := by
  rw [readBody] at read ⊢
  split at read
  next declared =>
    rw [if_pos declared]
    split at read
    next => cases read
    next short =>
      rw [if_neg short]
      split at read
      next body =>
        cases read
        obtain ⟨said, whole, taken⟩ := readWith_eq_ok_iff.mp body
        have filled : searchShape settings depthLimit said = .ok (payload.request settings query) :=
          record_of_filled taken (by rw [given]; rfl)
        rw [readWith_of_outline whole, filled]
      next => cases read
      next => cases read
  next => cases read

theorem respond_gets (gets : request.Gets query) :
    service.respond request = service.runSearch (service.plainSearch query) := by
  have search : service.getSearch request = service.runSearch (service.plainSearch query) := by
    rw [Service.getSearch, gets.query]
  rw [Service.respond, if_neg (Nat.not_lt.mpr gets.short), Service.route, gets.path]
  simp only [gets.method, Service.isRead, search]
  rfl

theorem respond_posts (posts : request.Posts payload) (given : payload.query = some query) :
    service.respond request = service.runSearch (payload.request service.search query) := by
  have search : service.postSearch request =
      service.runSearch (payload.request service.search query) := by
    rw [Service.postSearch, readBody_searchShape posts.body given]
  rw [Service.respond, if_neg (Nat.not_lt.mpr posts.short), Service.route, posts.path]
  simp only [posts.method, Service.isRead, search]
  rfl

theorem respond_of_targetLimit_lt (long : targetLimit < request.target.utf8ByteSize) :
    service.respond request = pure .targetTooLong := by
  rw [Service.respond, if_pos long]

theorem respond_ofPayload_of_bodyLimit_lt {payload : Payload}
    (long : bodyLimit < (Request.ofPayload payload).body.utf8ByteSize) :
    service.respond (.ofPayload payload) = pure (.ofProblem
      (.invalidRequest "Failed to buffer the request body: length limit exceeded")) := by
  have declared : ((some "application/json").map isJsonType).getD false = true := by decide
  have path : String.ofList (targetPath "/search".toList) = "/search" := by decide
  have target : ¬targetLimit < "/search".utf8ByteSize := by decide
  have refused (shape : Shape SearchRequest) : readBody (.ofPayload payload) shape = .error
      (.invalidRequest "Failed to buffer the request body: length limit exceeded") := by
    rw [Request.ofPayload] at long ⊢
    simp only [readBody, declared, if_true, if_pos long]
  have search : service.postSearch (.ofPayload payload) = pure (.ofProblem
      (.invalidRequest "Failed to buffer the request body: length limit exceeded")) := by
    rw [Service.postSearch, refused]
  rw [Service.respond, Request.ofPayload, if_neg target, Service.route, path, ← Request.ofPayload]
  simp only [Service.isRead, ← search]
  rfl

end Api

namespace Command

open Api

/-- What a search comes to on the command line. Why it failed is told in the log only. -/
def searchOutcome : Except StoreError (List Hit) → Outcome τ
  | .ok hits => .done (hits.map fun hit => (told hit).print)
  | .error _ => .failed []

variable {settings : Settings} {network : Http.Network σ} {collection : Collection (Deployment σ)}
  {query : String} {condition : Option String}

theorem search_run {topK : Option Nat} {threshold : Option Float} {request : SearchRequest}
    (built : settings.collection network = .ok collection)
    (requested : searchRequest settings query condition topK threshold = .ok request)
    (computer : Computer) (world : World (Deployment σ)) :
    ((Command.search query condition topK threshold).run computer network settings).run world =
      (searchOutcome ((collection.search request).outcome world).1,
        ((collection.search request).outcome world).2) := by
  have lines : (searchIn collection request).run.run world =
      (searchIn collection request).outcome world := rfl
  simp only [run, requested, withCollection, built]
  rw [report, StateT.run_bind, lines, searchIn, bind_pure_comp, Act.outcome_map]
  obtain ⟨_ | hits, after⟩ := (collection.search request).outcome world <;> rfl

/-- Options that say what a body says ask for what the body asks for. -/
theorem searchRequest_eq_ok {payload : Payload}
    (same : condition.map Filter.parse = payload.filter.join.map .ok) :
    searchRequest settings query condition payload.topK.join payload.threshold.join =
      .ok (payload.request settings.search query) := by
  rw [Payload.request]
  cases filter : payload.filter.join with
  | none =>
      rw [filter, Option.map_none, Option.map_eq_none_iff] at same
      subst same
      rfl
  | some value =>
      rw [filter] at same
      obtain ⟨text, rfl, parsed⟩ := Option.map_eq_some_iff.mp same
      simp only [searchRequest, parseFilter, parsed]
      rfl

end Command

open Api

/-- However a search is asked for, it comes to the same: an address, a body that leaves all but the
query open, and words without options are answered by one search with what the settings say, and a
body and words with the same options by one with these. Each run has a source of identifiers of its
own, which matters only where documents are listed without one. Every query has such an address, and
every payload that is read back has such a body, unless they are too long. -/
theorem searches_agree {settings : Settings} {network : Http.Network σ}
    {service : Service (Deployment σ)}
    (built : settings.collection network = .ok service.collection)
    (configured : service.search = settings.search) (computer : Computer)
    (world : World (Deployment σ)) :
    (∀ query get post payload getIds postIds, get.Gets query → post.Posts payload →
      payload.query = some query →
      payload.filter.join = none → payload.topK.join = none → payload.threshold.join = none →
      let search := service.collection.search (service.plainSearch query)
      let result := search.outcome world
      search.DrawsAlike world getIds → search.DrawsAlike world postIds →
      (∃ left, (service.respond get).run (world.drawing getIds) =
        (searchResponse result.1, result.2.drawing left)) ∧
      (∃ left, (service.respond post).run (world.drawing postIds) =
        (searchResponse result.1, result.2.drawing left)) ∧
      ((Command.search query none none none).run computer network settings).run world =
        (Command.searchOutcome result.1, result.2)) ∧
    (∀ query condition post payload postIds, post.Posts payload → payload.query = some query →
      condition.map Filter.parse = payload.filter.join.map .ok →
      let search := service.collection.search (payload.request settings.search query)
      let result := search.outcome world
      search.DrawsAlike world postIds →
      (∃ left, (service.respond post).run (world.drawing postIds) =
        (searchResponse result.1, result.2.drawing left)) ∧
      ((Command.search query condition payload.topK.join payload.threshold.join).run computer
        network settings).run world = (Command.searchOutcome result.1, result.2)) ∧
    (∀ query, (Request.ofQuery query).target.utf8ByteSize ≤ targetLimit →
      (Request.ofQuery query).Gets query) ∧
    ∀ payload, payload.ReadsBack → payload.toJson.nesting ≤ Json.depthLimit →
      (Request.ofPayload payload).body.utf8ByteSize ≤ bodyLimit →
      (Request.ofPayload payload).Posts payload := by
  have drawn (request : SearchRequest) (ids : IdSource)
      (alike : (service.collection.search request).DrawsAlike world ids) :
      let result := (service.collection.search request).outcome world
      ∃ left, (service.runSearch request).run (world.drawing ids) =
        (searchResponse result.1, result.2.drawing left) := by
    obtain ⟨left, moved⟩ := (Settings.draws_search built request).outcome_drawing alike
    refine ⟨left, ?_⟩
    rw [runSearch_run, moved]
  have posted : ∀ query post payload ids, post.Posts payload → payload.query = some query →
      let search := service.collection.search (payload.request settings.search query)
      let result := search.outcome world
      search.DrawsAlike world ids →
      ∃ left, (service.respond post).run (world.drawing ids) =
        (searchResponse result.1, result.2.drawing left) := by
    intro query post payload ids posts given search result alike
    rw [respond_posts posts given, configured]
    exact drawn _ ids alike
  refine ⟨?_, ?_, fun _ => Request.gets_ofQuery, fun _ => Request.posts_ofPayload⟩
  · intro query get post payload getIds postIds gets posts given noFilter noTopK noThreshold
      search result getAlike postAlike
    have plain : payload.request settings.search query = service.plainSearch query := by
      rw [Payload.request, noFilter, noTopK, noThreshold, ← configured]
      rfl
    have words : Command.searchRequest settings query none none none =
        .ok (service.plainSearch query) := by
      rw [Service.plainSearch, configured]
      rfl
    have byBody := posted query post payload postIds posts given
    rw [plain] at byBody
    refine ⟨?_, byBody postAlike, Command.search_run built words computer world⟩
    rw [respond_gets gets]
    exact drawn _ getIds getAlike
  · intro query condition post payload postIds posts given same search result alike
    exact ⟨posted query post payload postIds posts given alike,
      Command.search_run built (Command.searchRequest_eq_ok same) computer world⟩

theorem searches_agree_on_signs :
    let settings : Settings := { Settings.default with store := .memory ⟨4, none⟩ }
    let query := "caf\u00e9 & 1+1=2 #?"
    let filter : Filter := .compare "year" .gte (.one (.integer 2020))
    let open? : Api.Payload := ⟨some query, some none, none, some none⟩
    let given : Api.Payload := ⟨some query, some (some filter), some (some 3), none⟩
    let computer : Computer := ⟨fun _ => none, .error⟩
    let document : Document := ⟨"a", "coffee", [("year", .int 2021)], some [3, 4]⟩
    let script : Http.Script :=
      .ofAnswers [some ⟨200, "\x7b\"data\":[\x7b\"embedding\":[6,8]\x7d]\x7d"⟩]
    let world : World (Deployment Http.Script) := .start ⟨⟨[("a", document)]⟩, script⟩ ⟨0⟩
    (Request.ofQuery query).target = "/search?query=caf%C3%A9+%26+1%2B1%3D2+%23%3F" ∧
    (Request.ofPayload open?).body =
      "\x7b\"query\":\"caf\u00e9 & 1+1=2 #?\",\"filter\":null,\"similarity_threshold\":null\x7d" ∧
    ∃ collection, settings.collection Http.Script.network = .ok collection ∧
      let service := settings.service collection
      let result := (collection.search (service.plainSearch query)).outcome world
      let result' := (collection.search (given.request settings.search query)).outcome world
      result.1 = .ok [⟨document, 1⟩] ∧
      (∃ left, (service.respond (.ofQuery query)).run (world.drawing ⟨1⟩) =
        (searchResponse result.1, result.2.drawing left)) ∧
      (∃ left, (service.respond (.ofPayload open?)).run (world.drawing ⟨2⟩) =
        (searchResponse result.1, result.2.drawing left)) ∧
      ((Command.search query none none none).run computer Http.Script.network settings).run world =
        (Command.searchOutcome result.1, result.2) ∧
      result'.1.map List.length = .error (.filteringUnsupported "memory") ∧
      (∃ left, (service.respond (.ofPayload given)).run (world.drawing ⟨2⟩) =
        (searchResponse result'.1, result'.2.drawing left)) ∧
      ((Command.search query (some filter.toJson.print) (some 3) none).run computer
        Http.Script.network settings).run world = (Command.searchOutcome result'.1, result'.2) := by
  intro settings query filter open? given computer document script world
  let endpoint := settings.embedding.endpoint
  let collection : Collection (Deployment Http.Script) :=
    ⟨MemoryStore.backend Deployment.documents Deployment.setDocuments none,
      endpoint.embedder (Deployment.reach Http.Script.network), .abort⟩
  have built : settings.collection Http.Script.network = .ok collection := rfl
  obtain ⟨plain, options, gets, posts⟩ := @searches_agree _ settings Http.Script.network
    (settings.service collection) built rfl computer world
  have filterReadsBack : filter.ReadsBack := ⟨by decide, by decide⟩
  have openPosts := posts open? ⟨nofun, nofun, nofun⟩ (by decide) (by decide +kernel)
  have givenPosts := posts given
    ⟨by rintro _ ⟨⟩; exact filterReadsBack, by rintro _ ⟨⟩; decide, nofun⟩ (by decide)
    (by decide +kernel)
  have parsed : Filter.parse filter.toJson.print = .ok filter :=
    Filter.parse_print filterReadsBack (by decide)
  have filtered : ((collection.search (given.request settings.search query)).outcome world).1.map
      List.length = .error (.filteringUnsupported "memory") := by decide +kernel
  have filteredDrawn : ((collection.search (given.request settings.search query)).outcome
      world).2.ids.drawn = 0 := by decide +kernel
  have kept := Collection.documents_embed endpoint Http.Script.network query world
  have answer : (((endpoint.embedder (Deployment.reach Http.Script.network)).embed query).outcome
      world).1 = .ok [6, 8] := by decide +kernel
  have undrawn : (((endpoint.embedder (Deployment.reach Http.Script.network)).embed query).outcome
      world).2.ids.drawn = 0 := by decide +kernel
  generalize embedded : ((endpoint.embedder (Deployment.reach Http.Script.network)).embed
    query).outcome world = asked at answer undrawn kept
  obtain ⟨_, between⟩ := asked
  obtain rfl : _ = Except.ok [6, 8] := answer
  obtain ⟨after, fetched, same⟩ : ∃ after, (collection.backend.fetch none).outcome between =
      (.ok [document], after) ∧ after.ids = between.ids := by
    have listed : between.state.documents.documents = [document] := congrArg _ kept
    exact ⟨_, congrArg (fun documents => (Except.ok documents, _)) listed, rfl⟩
  have ranked : rank .abort [6, 8] [document.candidate] 0 4 = .ok [⟨"a", 1⟩] := by
    have pool : scored .abort [6, 8] 0 [document.candidate] = .ok [⟨"a", 1⟩] := by decide +kernel
    simp [rank, pool]
  have found : (collection.search ((settings.service collection).plainSearch query)).outcome world =
      (.ok [⟨document, 1⟩], { after with measured := .ranking 1 1 :: after.measured }) :=
    search_of_single (by decide) embedded fetched ranked
  have alike (ids : IdSource) :
      (collection.search ((settings.service collection).plainSearch query)).DrawsAlike world ids := by
    refine .of_undrawn ?_
    rw [found]
    exact Nat.le_of_eq ((congrArg IdSource.drawn same).trans undrawn)
  have alike' (ids : IdSource) :
      (collection.search (given.request settings.search query)).DrawsAlike world ids :=
    .of_undrawn (Nat.le_of_eq filteredDrawn)
  obtain ⟨byAddress, byBody, byWords⟩ := plain query (.ofQuery query) (.ofPayload open?) open? ⟨1⟩ ⟨2⟩
    (gets query (by decide +kernel)) openPosts rfl rfl rfl rfl (alike ⟨1⟩) (alike ⟨2⟩)
  obtain ⟨byBody', byWords'⟩ := options query (some filter.toJson.print) (.ofPayload given) given ⟨2⟩
    givenPosts rfl (congrArg some parsed) (alike' ⟨2⟩)
  exact ⟨by decide +kernel, by decide +kernel, collection, built, congrArg Prod.fst found, byAddress,
    byBody, byWords, filtered, byBody', byWords'⟩

/-- Beyond the limits an address and a body are refused, and words are not. -/
theorem searches_beyond_limits {settings : Settings} {network : Http.Network σ}
    {service : Service (Deployment σ)}
    (built : settings.collection network = .ok service.collection)
    (configured : service.search = settings.search) (computer : Computer)
    (world : World (Deployment σ)) {query : String} (long : bodyLimit < query.toList.length) :
    let result := (service.collection.search (service.plainSearch query)).outcome world
    (service.respond (.ofQuery query)).run world = (.targetTooLong, world) ∧
    (service.respond (.ofPayload ⟨some query, none, none, none⟩)).run world =
      (.ofProblem (.invalidRequest "Failed to buffer the request body: length limit exceeded"),
        world) ∧
    ((Command.search query none none none).run computer network settings).run world =
      (Command.searchOutcome result.1, result.2) := by
  have words : Command.searchRequest settings query none none none =
      .ok (service.plainSearch query) := by
    rw [Service.plainSearch, configured]
    rfl
  have longer : targetLimit < query.toList.length := Nat.lt_trans (by decide) long
  rw [respond_of_targetLimit_lt (Request.targetLimit_lt_ofQuery longer),
    respond_ofPayload_of_bodyLimit_lt (Request.bodyLimit_lt_ofPayload rfl long)]
  exact ⟨rfl, rfl, Command.search_run built words computer world⟩

theorem embed_unreachable (endpoint : EmbeddingEndpoint) (text : String)
    (world : World (Deployment σ)) :
    ∃ cause after, ((endpoint.embedder (Deployment.reach .unreachable)).embed text).outcome world =
      (.error cause, after) := by
  simp only [EmbeddingEndpoint.embedder, EmbeddingEndpoint.ask]
  cases endpoint.request text with
  | error reason => exact ⟨reason, _, rfl⟩
  | ok request =>
      have nothing : ((Deployment.reach (.unreachable : Http.Network σ)).answer request
          world.state).1 = none := by
        rw [Http.Network.answer]
        split <;> rfl
      simp only [Act.outcome_bind, Act.outcome_exchange_answer, nothing]
      exact ⟨_, _, rfl⟩

/-- A query of two million letters is searched for only if it is given in words. And a document that is
listed without an identifier is returned under whatever was drawn for it. -/
theorem searches_differ :
    let settings : Settings := { Settings.default with store := .memory ⟨4, none⟩ }
    let query := String.ofList (List.replicate 2097153 'a')
    let computer : Computer := ⟨fun _ => none, .error⟩
    let world : World (Deployment Unit) := .start (.start ()) ⟨0⟩
    let script : Http.Script := .ofAnswers
      [some ⟨200, "\x7b\"data\":[\x7b\"embedding\":[1]\x7d]\x7d"⟩,
        some ⟨200, "[\x7b\"content\":\"x\",\"embedding\":[2]\x7d]"⟩]
    let drawing (name : String) : World (Deployment Http.Script) :=
      .start (.start script) (@IdSource.mk 0 ⟨fun _ => name⟩)
    (∃ collection, settings.collection .unreachable = .ok collection ∧
      let service := settings.service collection
      let result := (collection.search (service.plainSearch query)).outcome world
      (∃ cause, result.1 = .error (.embedding cause)) ∧ (searchResponse result.1).status = 502 ∧
      (service.respond (.ofQuery query)).run world = (.targetTooLong, world) ∧
      (service.respond (.ofPayload ⟨some query, none, none, none⟩)).run world =
        (.ofProblem (.invalidRequest "Failed to buffer the request body: length limit exceeded"),
          world) ∧
      ((Command.search query none none none).run computer .unreachable settings).run world =
        (Command.searchOutcome result.1, result.2)) ∧
    ∃ collection, Settings.default.collection Http.Script.network = .ok collection ∧
      let service := Settings.default.service collection
      ∀ name ∈ ["first", "second"], ∃ hit left,
        (service.respond (.ofQuery "q")).run (drawing name) = (searchResponse (.ok [hit]), left) ∧
          hit.document.id = name := by
  intro settings query computer world script drawing
  constructor
  · let endpoint := settings.embedding.endpoint
    let collection : Collection (Deployment Unit) :=
      ⟨MemoryStore.backend Deployment.documents Deployment.setDocuments none,
        endpoint.embedder (Deployment.reach .unreachable), .abort⟩
    have built : settings.collection .unreachable = .ok collection := rfl
    have long : bodyLimit < query.toList.length := by
      rw [String.toList_ofList, List.length_replicate]
      decide
    obtain ⟨cause, after, embedded⟩ := embed_unreachable endpoint query world
    have failed : (collection.search ((settings.service collection).plainSearch query)).outcome
        world = (.error (.embedding cause), after) := by
      have asked : checkTopK ((settings.service collection).plainSearch query).limits.topK =
          .ok () := rfl
      have embedded' : (collection.embedder.embed query).outcome world = (.error cause, after) :=
        embedded
      simp only [Collection.search, Collection.embed, asked, Act.outcome_bind,
        Act.outcome_ofExcept, Act.outcome_mapError]
      rw [Service.plainSearch, embedded']
      rfl
    refine ⟨collection, built, ⟨cause, congrArg Prod.fst failed⟩, ?_, ?_⟩
    · rw [failed]
      rfl
    · exact @searches_beyond_limits _ settings _ (settings.service collection) built rfl computer
        world query long
  · let endpoint := Settings.default.embedding.endpoint
    let store : PayloadStore := ⟨.root, "http://localhost:6767", none, "vector_store", none, .legacy⟩
    let collection : Collection (Deployment Http.Script) :=
      ⟨store.backend (Deployment.reach Http.Script.network),
        endpoint.embedder (Deployment.reach Http.Script.network), .abort⟩
    have built : Settings.default.collection Http.Script.network = .ok collection := by
      have made : Settings.defaultPayload.store .root .legacy = .ok store := by decide +kernel
      have stored : StoreSettings.backend (.payload .root Settings.defaultPayload) .legacy
          Http.Script.network = .ok (store.backend (Deployment.reach Http.Script.network)) := by
        rw [StoreSettings.backend, made]
      have backend : Settings.default.store.backend Settings.default.search.negation
          Http.Script.network = .ok (store.backend (Deployment.reach Http.Script.network)) := stored
      rw [Settings.collection, backend]
      rfl
    refine ⟨collection, built, fun name listed => ?_⟩
    have gets : (Request.ofQuery "q").Gets "q" := Request.gets_ofQuery (by decide +kernel)
    have scoring : ∀ name ∈ ["first", "second"],
        scored .abort [1] 0 [⟨name, some [2]⟩] = .ok [⟨name, 1⟩] := by decide +kernel
    have answer : (((endpoint.embedder (Deployment.reach Http.Script.network)).embed "q").outcome
        (drawing name)).1 = .ok [1] := by
      revert name; decide +kernel
    have listing : ((((store.backend (Deployment.reach Http.Script.network)).fetch none).outcome
        (((endpoint.embedder (Deployment.reach Http.Script.network)).embed "q").outcome
          (drawing name)).2).1.map (List.map fun document => (document.id, document.embedding))) =
        .ok [(name, some [2])] := by
      revert name; decide +kernel
    generalize embedded : ((endpoint.embedder (Deployment.reach Http.Script.network)).embed
      "q").outcome (drawing name) = asked at answer listing
    obtain ⟨_, between⟩ := asked
    obtain rfl : _ = Except.ok [1] := answer
    generalize fetched : ((store.backend (Deployment.reach Http.Script.network)).fetch none).outcome
      between = got at listing
    obtain ⟨reason | documents, after⟩ := got
    · cases listing
    have single : documents.map (fun document => (document.id, document.embedding)) =
        [(name, some [2])] := Except.ok.inj listing
    obtain ⟨⟨id, content, metadata, embedding⟩, rfl, same⟩ := List.map_eq_singleton_iff.mp single
    obtain ⟨rfl, rfl⟩ := Prod.mk.inj same
    have ranked : rank .abort [1] [⟨id, some [2]⟩] 0 4 = .ok [⟨id, 1⟩] := by
      have pool : scored .abort [1] 0 [⟨id, some [2]⟩] = .ok [⟨id, 1⟩] := scoring id listed
      simp [rank, pool]
    have found : ((Settings.default.service collection).collection.search
        ((Settings.default.service collection).plainSearch "q")).outcome (drawing id) = _ :=
      search_of_single (by decide) embedded fetched ranked
    have response := runSearch_run (Settings.default.service collection)
      ((Settings.default.service collection).plainSearch "q") (drawing id)
    rw [← respond_gets gets, found] at response
    exact ⟨_, _, response, rfl⟩

end VectorSearch
