import VectorSearch.Proofs.Store.Keeping

namespace VectorSearch.PayloadStore

/-- The texts of values, each behind a comma. -/
def listed (items : List Json) : List Char :=
  items.flatMap fun item => ',' :: item.chars

/-- What a text adds to others that are listed: itself, or its items if it is an array. -/
def listedText : List Char → List Char
  | ['[', ']'] => []
  | '[' :: items => ',' :: items.dropLast
  | text => ',' :: text

/-- A server that keeps the texts it is sent. -/
def textKeeper : Http.Network (List Char) where
  send request held :=
    match request.method, request.body with
    | .get, _ => (some ⟨200, String.ofList ('[' :: held.drop 1 ++ [']'])⟩, held)
    | .post, none => (some ⟨400, ""⟩, held)
    | .post, some body => (some ⟨200, ""⟩, held ++ listedText body.toList)

theorem itemChars_eq (items : List Json) : Json.itemChars items = listed items ++ [']'] := by
  induction items with
  | nil => rfl
  | cons item rest ih => simp [Json.itemChars, listed, ih]

theorem chars_arr (items : List Json) :
    (Json.arr items).chars = '[' :: (listed items).drop 1 ++ [']'] := by
  cases items with
  | nil => rfl
  | cons item rest => simp [Json.chars, itemChars_eq, listed]

theorem listedText_arr (items : List Json) : listedText (Json.arr items).chars = listed items := by
  cases items with
  | nil => rfl
  | cons item rest =>
      obtain ⟨c, others, spelled⟩ := List.exists_cons_of_ne_nil item.chars_ne_nil
      have dropped : (listed (item :: rest)).drop 1 = c :: (others ++ listed rest) := by
        simp [listed, spelled]
      have whole : listed (item :: rest) = ',' :: (listed (item :: rest)).drop 1 := rfl
      rw [chars_arr, whole, dropped]
      unfold listedText
      split
      next empty => simp at empty
      next items same =>
          obtain rfl := (List.cons.inj same).2
          exact congrArg (',' :: ·) List.dropLast_concat
      next noBracket => exact absurd rfl (noBracket _)

theorem listedText_obj (members : List (String × Json)) :
    listedText (Json.obj members).chars = listed [.obj members] := by
  cases members <;> simp [listed, Json.chars, listedText]

theorem keeps_textKeeper (store : PayloadStore) :
    store.Keeps textKeeper (fun _ => True)
      fun text documents => text = listed (documents.map Document.toJson) where
  one := by
    rintro ⟨_, url, headers, _⟩ document rfl - rfl state held rfl
    refine ⟨⟨200, ""⟩, _, rfl, nofun, fun _ => ⟨rfl, ?_⟩⟩
    beta_reduce
    rw [List.map_append, Json.print, String.toList_ofList, Document.toJson, listedText_obj]
    exact List.flatMap_append.symm
  all := by
    rintro ⟨_, url, headers, _⟩ documents rfl - rfl state held rfl
    refine ⟨⟨200, ""⟩, _, rfl, nofun, fun _ => ⟨rfl, ?_⟩⟩
    beta_reduce
    rw [List.map_append, Json.print, String.toList_ofList, listedText_arr]
    exact List.flatMap_append.symm
  list := by
    rintro ⟨_, url, headers, body⟩ state held rfl rfl -
    refine ⟨_, _, rfl, rfl, rfl, (Json.arr (held.map Document.toJson)).outlined, ?_, .refl _⟩
    rw [← chars_arr]
    exact Json.outline_print (.arr (held.map Document.toJson))
  unchanged := by
    rintro ⟨_, url, headers, body⟩ state held rfl rfl
    rfl

/-- What a value adds to others that are listed: itself, or its items if it is an array. -/
def listedValue : Json → List Json
  | .arr items => items
  | value => [value]

/-- A server that reads each body as a value and keeps it. Objects are kept as sorted maps, and what
is listed is written anew. -/
def valueKeeper : Http.Network (List Json) where
  send request held :=
    match request.method with
    | .get => (some ⟨200, (Json.arr held).print⟩, held)
    | .post =>
        match Json.parse (request.body.getD "") with
        | .error _ => (some ⟨400, ""⟩, held)
        | .ok value => (some ⟨200, ""⟩, held ++ listedValue value.ordered)

/-- Among other documents it is read as a value in which no object gives a key twice, and whose
numbers are read back. -/
def Rereadable (document : Document) : Prop :=
  ∃ value, Json.parse (Json.arr [document.toJson]).print = .ok (.arr [value]) ∧
    value.Distinct ∧ value.ReadsBack

theorem exists_doubles {vector : Embedding} (reread : ∀ x ∈ vector, ∃ y,
      Json.parse (Json.single x).print = .ok (.float y) ∧ (Json.float y).ReadsBack) (depth : Nat) :
    ∃ doubles, Json.Outline.itemValues depth (Json.outlinedItems (vector.map .single)) =
        .ok doubles ∧ Json.DistinctItems doubles ∧ Json.ReadsBackItems doubles := by
  induction vector with
  | nil => exact ⟨[], rfl, trivial, trivial⟩
  | cons x rest ih =>
      obtain ⟨⟨y, read, readsBack⟩, others⟩ := List.forall_mem_cons.mp reread
      obtain ⟨doubles, readRest, distinct, readsBackRest⟩ := ih others
      rw [Json.parse, Json.readWith_print] at read
      have here : (Json.single x).outlined.value depth = .ok (.float y) :=
        (Json.value_floatOutline ..).trans read
      exact ⟨.float y :: doubles,
        Json.Outline.itemValues_cons_eq_ok_iff.mpr ⟨_, _, here, readRest, rfl⟩,
        ⟨trivial, distinct⟩, readsBack, readsBackRest⟩

/-- A document that is read back is so as a value too, if the doubles that its entries are read as
are read back. -/
theorem Rereadable.of_faithful {document : Document} (faithful : document.Faithful)
    (reread : ∀ vector ∈ document.embedding, ∀ x ∈ vector, ∃ y,
      Json.parse (Json.single x).print = .ok (.float y) ∧ (Json.float y).ReadsBack) :
    Rereadable document := by
  obtain ⟨id, content, metadata, embedding⟩ := document
  have inside : (Json.obj metadata).nesting ≤ Json.depthLimit - 2 := by
    have fits := faithful.nesting
    simp only [Document.toJson, Json.nesting, List.cons_append, List.nil_append,
      Json.nestingMembers] at fits
    simp only [Json.nesting]
    omega
  have table : (Json.obj metadata).outlined.value (Json.depthLimit - 2) = .ok (.obj metadata) :=
    Json.value_outlined _ faithful.metadata inside
  have distinct : (Json.obj metadata).Distinct := by
    refine ⟨faithful.keys, Json.distinctMembers_iff.mpr fun member present => ?_⟩
    rw [← faithful.sorted member present]
    exact Json.distinct_ordered member.2
  -- What is left of the document is its embedding, or nothing.
  have whole : ∀ {rest others : List (String × Json)},
      Json.Outline.memberValues (Json.depthLimit - 2) (Json.outlinedMembers rest) = .ok others →
      (["id", "content", "metadata"] ++ others.map Prod.fst).Nodup →
      Json.DistinctMembers others → Json.ReadsBackMembers others →
      ∃ value, Json.parse (Json.arr [.obj ([("id", .str id), ("content", .str content),
          ("metadata", .obj metadata)] ++ rest)]).print = .ok (.arr [value]) ∧
        value.Distinct ∧ value.ReadsBack := by
    intro rest others read keys distinctRest readsBackRest
    refine ⟨.obj (("id", .str id) :: ("content", .str content) ::
      ("metadata", .obj metadata) :: others), ?_, ⟨keys, trivial, trivial, distinct, distinctRest⟩,
      trivial, trivial, faithful.metadata, readsBackRest⟩
    rw [Json.parse, Json.readWith_print]
    refine Json.Outline.value_items_eq_ok_iff.mpr ⟨_, ?_, rfl, rfl⟩
    refine Json.Outline.itemValues_cons_eq_ok_iff.mpr ⟨_, [], ?_, rfl, rfl⟩
    refine Json.Outline.value_members_eq_ok_iff.mpr ⟨_, ?_, rfl, rfl⟩
    refine Json.Outline.memberValues_cons_eq_ok_iff.mpr ⟨_, _, _, rfl, rfl, ?_, rfl⟩
    refine Json.Outline.memberValues_cons_eq_ok_iff.mpr ⟨_, _, _, rfl, rfl, ?_, rfl⟩
    exact Json.Outline.memberValues_cons_eq_ok_iff.mpr ⟨_, _, _, rfl, table, read, rfl⟩
  cases embedding with
  | none => exact @whole [] [] rfl (by decide) trivial trivial
  | some vector =>
      obtain ⟨doubles, read, distinctItems, readsBackItems⟩ :=
        exists_doubles (reread vector rfl) (Json.depthLimit - 3)
      have entries : (Json.arr (vector.map .single)).outlined.value (Json.depthLimit - 2) =
          .ok (.arr doubles) :=
        Json.Outline.value_items_eq_ok_iff.mpr ⟨doubles, read, rfl, rfl⟩
      refine @whole [("embedding", .arr (vector.map .single))] [("embedding", .arr doubles)] ?_
        (by simp) ⟨distinctItems, trivial⟩ ⟨readsBackItems, trivial⟩
      exact Json.Outline.memberValues_cons_eq_ok_iff.mpr ⟨_, _, _, rfl, entries, rfl, rfl⟩

theorem Rereadable.exists_value {document : Document} (rereadable : Rereadable document) :
    ∃ members, document.toJson.outlined.value (Json.depthLimit - 1) = .ok (.obj members) ∧
      document.toJson.outlined.Alike (Json.obj members).ordered.outlined := by
  obtain ⟨value, read, distinct, readsBack⟩ := rereadable
  rw [Json.parse, Json.readWith_print] at read
  obtain ⟨values, found, -, same⟩ := Json.Outline.value_items_eq_ok_iff.mp read
  cases same
  obtain ⟨_, _, here, -, same⟩ := Json.Outline.itemValues_cons_eq_ok_iff.mp found
  obtain ⟨rfl, -⟩ := List.cons.inj same
  obtain ⟨members, -, -, rfl⟩ := Json.Outline.value_members_eq_ok_iff.mp here
  exact ⟨members, here, Json.alike_ordered _ here readsBack distinct⟩

/-- Values that say the same as the documents. -/
def Lists (values : List Json) (documents : List Document) : Prop :=
  List.Forall₂ (fun document value => document.toJson.outlined.Alike value.outlined)
    documents values

theorem exists_values {documents : List Document}
    (rereadable : ∀ document ∈ documents, Rereadable document) :
    ∃ values, Json.Outline.itemValues (Json.depthLimit - 1)
        (Json.outlinedItems (documents.map Document.toJson)) = .ok values ∧
      Lists (Json.orderedItems values) documents := by
  induction documents with
  | nil => exact ⟨[], rfl, .nil⟩
  | cons document rest ih =>
      obtain ⟨first, others⟩ := List.forall_mem_cons.mp rereadable
      obtain ⟨members, read, alike⟩ := first.exists_value
      obtain ⟨values, readRest, each⟩ := ih others
      exact ⟨.obj members :: values,
        Json.Outline.itemValues_cons_eq_ok_iff.mpr ⟨_, _, read, readRest, rfl⟩, .cons alike each⟩

theorem Lists.alike {values : List Json} {documents : List Document}
    (lists : Lists values documents) :
    (Json.arr (documents.map Document.toJson)).outlined.Alike (Json.arr values).outlined := by
  refine .items true ?_
  induction lists with
  | nil => exact .nil
  | cons here _ ih => exact .cons here ih

/-- A server of values appends what it reads. -/
theorem appends_of_parse {request : Http.Request} {posted : List Document} {body : String}
    (post : request.method = .post) (sent : request.body = some body)
    (read : (∀ document ∈ posted, Rereadable document) → ∃ value, Json.parse body = .ok value ∧
      Lists (listedValue value.ordered) posted) :
    Appends valueKeeper Rereadable Lists request posted := by
  intro state held holding
  have answered : valueKeeper.send request state =
      match Json.parse body with
      | .error _ => (some ⟨400, ""⟩, state)
      | .ok value => (some ⟨200, ""⟩, state ++ listedValue value.ordered) := by
    simp only [valueKeeper, post, sent, Option.getD_some]
  cases parsed : Json.parse body with
  | error reason =>
      rw [parsed] at answered
      refine ⟨_, _, answered, fun _ => holding, fun all => ?_⟩
      obtain ⟨value, found, -⟩ := read all
      cases parsed.symm.trans found
  | ok value =>
      rw [parsed] at answered
      refine ⟨_, _, answered, nofun, fun all => ⟨rfl, ?_⟩⟩
      obtain ⟨_, found, each⟩ := read all
      cases parsed.symm.trans found
      exact List.rel_append holding each

theorem keeps_valueKeeper (store : PayloadStore) : store.Keeps valueKeeper Rereadable Lists where
  one := by
    intro request document post _ sent
    refine appends_of_parse post sent fun all => ?_
    obtain ⟨members, read, alike⟩ := (all document (List.mem_singleton_self _)).exists_value
    have parsed : Json.parse document.toJson.print = .ok (.obj members) := by
      rw [Json.parse, Json.readWith_print]
      exact Json.value_deeper _ (Nat.sub_le _ _) read
    exact ⟨_, parsed, .cons alike .nil⟩
  all := by
    intro request documents post _ sent
    refine appends_of_parse post sent fun all => ?_
    obtain ⟨values, read, each⟩ := exists_values all
    have parsed : Json.parse (Json.arr (documents.map Document.toJson)).print =
        .ok (.arr values) := by
      rw [Json.parse, Json.readWith_print]
      exact Json.Outline.value_items_eq_ok_iff.mpr ⟨values, read, rfl, rfl⟩
    exact ⟨_, parsed, each⟩
  list := by
    rintro ⟨_, url, headers, body⟩ state held holding rfl -
    exact ⟨_, _, rfl, rfl, holding, _, Json.outline_print (.arr state), holding.alike⟩
  unchanged := by
    rintro ⟨_, url, headers, body⟩ state held holding rfl
    exact holding

end VectorSearch.PayloadStore
