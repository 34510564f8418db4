import VectorSearch.Proofs.Store.Addressing
import VectorSearch.Proofs.Url.Fronting

namespace VectorSearch

/-! What a payload store can address.

A store keeps its base as it was given, less the slashes at its end, and every address is that base
with a path behind it. So whether it finds its addresses depends on the base alone. A base is checked
without the blanks at its end but kept with them, which is where a store can be made that finds none.
-/

open Text Url

namespace PayloadStore

variable {layout : PayloadLayout} {base collection suffix : String} {apiKey : Option String}
  {dimensions : Option Nat} {negation : NegationStyle} {store : PayloadStore}

theorem made_ofBase (made : ofBase layout base apiKey collection dimensions negation = .ok store) :
    store.base = dropEndSlashes base ∧ (Url.parse base).isOk = true := by
  rw [ofBase] at made
  split at made
  next url accepted =>
    cases made
    exact ⟨rfl, by rw [accepted]; rfl⟩
  next => cases made

theorem exists_slashes (base : String) :
    ∃ slashes, base.toList = (dropEndSlashes base).toList ++ slashes ∧ ∀ c ∈ slashes, c = '/' := by
  obtain ⟨slashes, parts, ended⟩ := dropEndWhile_append (· == '/') base.toList
  refine ⟨slashes, ?_, fun c member => beq_iff_eq.mp (ended c member)⟩
  rw [dropEndSlashes, String.toList_ofList]
  exact parts

theorem hasScheme_ofBase
    (made : ofBase layout base apiKey collection dimensions negation = .ok store) :
    HasScheme (fronting store.base.toList) := by
  obtain ⟨kept, accepted⟩ := made_ofBase made
  obtain ⟨slashes, parts, all⟩ := exists_slashes base
  rw [kept]
  rw [← base.ofList_toList, parts] at accepted
  exact hasScheme_without_slashes all accepted

theorem exists_plain_path (layout : PayloadLayout) (name : List Char) (ending : IsEnding suffix) :
    ∃ path, pasted layout.front name suffix.toList = '/' :: path ∧ BeginsPlainly (visible path) := by
  refine ⟨(pasted layout.front name suffix.toList).tail, rfl, ?_⟩
  have shown : '/' :: visible (pasted layout.front name suffix.toList).tail =
      pasted layout.front (visible name) suffix.toList :=
    visible_pasted layout name ending
  rw [(List.cons.inj shown).2]
  cases layout with
  | root => exact .inr ⟨"collections".toList, visible name ++ '/' :: suffix.toList, rfl, .inr rfl⟩
  | versioned =>
      exact .inr ⟨"api".toList, "v1/collections/".toList ++ (visible name ++ '/' :: suffix.toList), rfl,
        .inl rfl⟩

theorem endpoint_isOk (store : PayloadStore) (suffix : String) (query : Option String) :
    (store.endpoint suffix query).isOk =
      (Url.parse (String.ofList (store.base.toList ++
        pasted store.layout.front store.collection.toList suffix.toList))).isOk := by
  have text : store.base ++ store.layout.path ++ "/collections/" ++ store.collection ++ "/" ++ suffix =
      String.ofList (store.base.toList ++
        pasted store.layout.front store.collection.toList suffix.toList) := by
    rw [← String.toList_inj, ← store.layout.toList_path]
    simp
  unfold endpoint
  dsimp only
  rw [text]
  cases query <;> cases Url.parse _ <;> rfl

/-- Whether a store finds an address is a matter of its base alone. -/
theorem endpoint_isOk_iff (rooted : HasScheme (fronting store.base.toList))
    (ending : IsEnding suffix) (query : Option String) :
    (store.endpoint suffix query).isOk = true ↔ Continues (fronting store.base.toList) := by
  obtain ⟨path, shape, plain⟩ := exists_plain_path store.layout store.collection.toList ending
  have ends := lt_last_pasted store.layout.front store.collection.toList ending
  rw [shape] at ends
  rw [endpoint_isOk, shape]
  exact parse_slash_isOk_iff rooted ends plain

theorem parse_base_isOk_iff (rooted : HasScheme (fronting store.base.toList)) :
    (Url.parse (store.base ++ "/")).isOk = true ↔ Continues (fronting store.base.toList) := by
  have text : store.base ++ "/" = String.ofList (store.base.toList ++ ['/']) := by
    rw [← String.toList_inj]
    simp
  rw [text]
  exact parse_slash_isOk_iff rooted (by rintro _ ⟨⟩; decide) (.inl rfl)

theorem continues_ofBase
    (made : ofBase layout base apiKey collection dimensions negation = .ok store)
    (ends : ∀ last ∈ (visible base.toList).getLast?, ' ' < last)
    (named : ¬"//@".toList <:+ visible base.toList) : Continues (fronting store.base.toList) := by
  obtain ⟨kept, accepted⟩ := made_ofBase made
  obtain ⟨slashes, parts, all⟩ := exists_slashes base
  rw [kept]
  rw [← base.ofList_toList, parts] at accepted
  rw [parts] at ends named
  exact continues_without_slashes all accepted ends named

/-- The address of settings ends in the digits of a port. -/
theorem continues_of_settings (settings : PayloadSettings)
    (made : ofBase layout settings.base apiKey collection dimensions negation = .ok store) :
    Continues (fronting store.base.toList) := by
  have shown : visible settings.base.toList =
      ("http://".toList ++ visible settings.host.toList) ++ ':' :: Nat.toDigits 10 settings.port := by
    rw [settings.toList_base, visible, List.filter_append, List.append_assoc]
    exact congrArg ("http://".toList ++ ·) settings.visible_authority
  apply continues_ofBase made
  · rw [shown]
    exact fun last final => PayloadSettings.lt_last final
  · rintro ⟨front, parts⟩
    have final : '@' ∈ (visible settings.base.toList).getLast? := by
      rw [← parts, List.getLast?_append_of_ne_nil _ (by decide)]
      rfl
    rw [shown] at final
    cases PayloadSettings.isDigit_last final

/-- If a result is an invalid request, then because an address was not found. -/
def Blames (store : PayloadStore) (result : Except StoreError α) : Prop :=
  ∀ reason, result = .error (.invalidRequest reason) →
    ∃ suffix query, IsEnding suffix ∧ store.endpoint suffix query = .error (.invalidRequest reason)

namespace Blames

theorem ok (value : α) : store.Blames (.ok value) :=
  nofun

theorem bind {result : Except StoreError α} {next : α → Except StoreError β}
    (first : store.Blames result) (later : ∀ value, store.Blames (next value)) :
    store.Blames (result >>= next) := by
  cases result with
  | error reason =>
      rintro _ ⟨⟩
      exact first _ rfl
  | ok value => exact later value

theorem endpoint (ending : IsEnding suffix) (query : Option String) :
    store.Blames (store.endpoint suffix query) :=
  fun _ failed => ⟨suffix, query, ending, failed⟩

theorem check (document : Document) : store.Blames (store.check document) := by
  unfold PayloadStore.check
  split
  · nofun
  · nofun
  · split <;> nofun

theorem checks (documents : List Document) : store.Blames (documents.forM store.check) := by
  induction documents with
  | nil => exact ok ()
  | cons first rest ih => exact (check first).bind fun _ => ih

theorem query (filter : Option Filter) : store.Blames (store.query filter) := by
  unfold PayloadStore.query
  split
  · nofun
  · split <;> nofun

end Blames

/-- Whatever comes of an activity, an invalid request is a matter of an address. -/
def BlamesIn (store : PayloadStore) (act : Act σ StoreError α) : Prop :=
  ∀ world, store.Blames (act.outcome world).1

namespace BlamesIn

theorem bind {act : Act σ StoreError α} {next : α → Act σ StoreError β}
    (first : store.BlamesIn act) (later : ∀ value, store.BlamesIn (next value)) :
    store.BlamesIn (act >>= next) := by
  intro world
  have here := first world
  rw [Act.outcome_bind]
  generalize act.outcome world = outcome at here ⊢
  rcases outcome with ⟨reason | value, after⟩
  · rintro _ ⟨⟩
    exact here _ rfl
  · exact later value after

theorem ofExcept {result : Except StoreError α} (blames : store.Blames result) :
    store.BlamesIn (Act.ofExcept result : Act σ StoreError α) :=
  fun _ => blames

theorem measure (measured : Measure) :
    store.BlamesIn (Act.measure measured : Act σ StoreError Unit) :=
  fun _ => .ok ()

theorem failed {reason : StoreError} (other : ∀ text, reason ≠ .invalidRequest text)
    (operation : String) : store.BlamesIn (store.failed operation reason : Act σ StoreError α) := by
  rintro world text ⟨⟩
  exact absurd rfl (other text)

theorem perform (network : Http.Network σ) (operation : String) (request : Http.Request) :
    store.BlamesIn (store.perform network operation request) := by
  have exchanged : store.BlamesIn (Act.exchange network request) := by
    intro world
    rw [Act.outcome_exchange]
    split <;> exact .ok _
  refine exchanged.bind fun response? => ?_
  cases response? with
  | none => exact failed (by simp) operation
  | some response =>
      by_cases success : response.isSuccess = true
      · simp only [if_pos success]
        exact fun _ => .ok _
      · simp only [if_neg success]
        exact failed (by simp) operation

theorem post {formed : Except StoreError Http.Request} (blames : store.Blames formed)
    (network : Http.Network σ) (name : String) (measured : Measure) :
    store.BlamesIn (do
      let request ← Act.ofExcept formed
      let _ ← store.perform network name request
      Act.measure measured) :=
  (ofExcept blames).bind fun request => (perform network name request).bind fun _ => measure measured

end BlamesIn

/-- An operation is an invalid request only where it finds no address. -/
theorem operation_blames (store : PayloadStore) (network : Http.Network σ)
    (operation : Backend.Operation) :
    store.BlamesIn ((store.backend network).perform operation) := by
  cases operation with
  | push document =>
      have formed : store.Blames (store.pushRequest document) :=
        (Blames.check document).bind fun _ => (Blames.endpoint (.inl rfl) none).bind fun _ => .ok _
      exact .post formed network "push" _
  | pushBatch documents =>
      have formed : store.Blames (store.pushBatchRequest documents) :=
        (Blames.checks documents).bind fun _ =>
          (Blames.endpoint (.inr rfl) none).bind fun _ => .ok _
      cases documents with
      | nil => exact fun _ => .ok ()
      | cons first rest => exact .post formed network "push_batch" _
  | fetch filter =>
      have formed : store.Blames (store.fetchRequest filter) :=
        (Blames.query filter).bind fun query =>
          (Blames.endpoint (.inr rfl) query).bind fun _ => .ok _
      refine .bind (.bind (.ofExcept formed) fun request =>
        (BlamesIn.perform network "fetch_candidates" request).bind fun body => ?_) fun _ _ => .ok ()
      cases Json.readWith (Json.Shape.list Document.Draft.shape) body with
      | error reason => exact .failed (by simp) "fetch_candidates"
      | ok drafts => exact fun _ => .ok _

/-- Whether a store that was made finds its addresses does not depend on the layout, the collection,
what is asked of it or a query, but only on whether its base is a URL with a slash behind it. If it
is, no operation is an invalid request. It is whenever the base that was given ends in neither a blank
nor a user without a host; so it is for every base that settings spell. -/
theorem addresses_ofBase
    (made : ofBase layout base apiKey collection dimensions negation = .ok store)
    (network : Http.Network σ) :
    let continues := (Url.parse (store.base ++ "/")).isOk = true
    (∀ suffix query, IsEnding suffix → ((store.endpoint suffix query).isOk = true ↔ continues)) ∧
    (∀ operation world reason, (((store.backend network).perform operation).outcome world).1 =
      .error (.invalidRequest reason) → ¬continues) ∧
    ((∀ last ∈ (visible base.toList).getLast?, ' ' < last) → ¬"//@".toList <:+ visible base.toList →
      continues) ∧
    ∀ settings : PayloadSettings, base = settings.base → continues := by
  intro continues
  have rooted := hasScheme_ofBase made
  have found : continues ↔ Continues (fronting store.base.toList) := parse_base_isOk_iff rooted
  refine ⟨fun suffix query ending => ?_, fun operation world reason failed => ?_,
    fun ends named => ?_, ?_⟩
  · rw [found]
    exact endpoint_isOk_iff rooted ending query
  · obtain ⟨suffix, query, ending, lost⟩ :=
      store.operation_blames network operation world reason failed
    rw [found, ← endpoint_isOk_iff rooted ending query, lost]
    exact Bool.false_ne_true
  · exact found.mpr (continues_ofBase made ends named)
  · rintro settings rfl
    exact found.mpr (continues_of_settings settings made)

theorem addresses_ofBase_slashes :
    let base := "https:Example.org:/api//"
    let store : PayloadStore :=
      ⟨.versioned, "https:Example.org:/api", none, "größe 50%", none, .legacy⟩
    ofBase .versioned base none "größe 50%" none .legacy = .ok store ∧
      (∀ suffix query, IsEnding suffix → (store.endpoint suffix query).isOk = true) ∧
      ∀ operation world reason, (((store.backend textKeeper).perform operation).outcome world).1 ≠
        .error (.invalidRequest reason) := by
  intro base store
  have made : ofBase .versioned base none "größe 50%" none .legacy = .ok store := by decide +kernel
  have shown : (visible base.toList).getLast? = some '/' := by decide +kernel
  obtain ⟨found, refused, continues, -⟩ := addresses_ofBase made textKeeper
  have whole : (Url.parse (store.base ++ "/")).isOk = true := by
    apply continues
    · rw [shown]
      rintro _ ⟨⟩
      decide
    · rintro ⟨front, parts⟩
      rw [← parts, List.getLast?_append_of_ne_nil _ (by decide)] at shown
      cases shown
  exact ⟨made, fun suffix query ending => (found suffix query ending).mpr whole,
    fun operation world reason failed => refused operation world reason failed whole⟩

/-- A base with a blank behind its port, or with a user and no host, is accepted, and then every
operation is an invalid request. -/
theorem addresses_lost_behind_blank :
    let store (base : String) : PayloadStore := ⟨.root, base, none, "vector_store", none, .legacy⟩
    let world : World (List Char) := .start [] ⟨0⟩
    let failure (base : String) (operation : Backend.Operation) :=
      ((((store base).backend textKeeper).perform operation).outcome world).1
    let document : Document := ⟨"a", "x", [], some []⟩
    (∀ base ∈ ["http://localhost:6767 ", "a://@"],
      ofBase .root base none "vector_store" none .legacy = .ok (store base) ∧
        ∀ suffix ∈ ["payload", "payloads"], ((store base).endpoint suffix none).isOk = false) ∧
    failure "http://localhost:6767 " (.push document) = .error (.invalidRequest
      "http://localhost:6767 /collections/vector_store/payload: invalid port number") ∧
    failure "http://localhost:6767 " (.pushBatch [document]) = .error (.invalidRequest
      "http://localhost:6767 /collections/vector_store/payloads: invalid port number") ∧
    failure "a://@" (.fetch none) = .error (.invalidRequest
      "a://@/collections/vector_store/payloads: empty host") := by
  decide +kernel

end PayloadStore

end VectorSearch
