import VectorSearch.Activity

namespace VectorSearch

/-- What comes of handing a request over. One that cannot be put on the wire is not sent. -/
def Http.Network.answer (network : Http.Network σ) (request : Http.Request) (state : σ) :
    Option Http.Response × σ :=
  if request.isSendable then network.send request state else (none, state)

namespace Act

/-- What an activity comes to in a world: its result, and the world that it leaves. -/
def outcome (act : Act σ ε α) (world : World σ) : Except ε α × World σ :=
  act.run.run world

@[simp] theorem outcome_pure (value : α) (world : World σ) :
    (pure value : Act σ ε α).outcome world = (.ok value, world) :=
  rfl

@[simp] theorem outcome_bind (act : Act σ ε α) (next : α → Act σ ε β) (world : World σ) :
    (act >>= next).outcome world =
      match act.outcome world with
      | (.ok value, after) => (next value).outcome after
      | (.error reason, after) => (.error reason, after) := by
  have unfolded : (act >>= next).outcome world =
      ExceptT.bindCont next (act.outcome world).1 (act.outcome world).2 := rfl
  rw [unfolded]
  obtain ⟨_ | value, after⟩ := act.outcome world <;> rfl

@[simp] theorem outcome_map (f : α → β) (act : Act σ ε α) (world : World σ) :
    (f <$> act).outcome world = ((act.outcome world).1.map f, (act.outcome world).2) := by
  rw [map_eq_pure_bind, outcome_bind]
  obtain ⟨_ | value, after⟩ := act.outcome world <;> rfl

@[simp] theorem outcome_fail (reason : ε) (world : World σ) :
    (fail reason : Act σ ε α).outcome world = (.error reason, world) :=
  rfl

@[simp] theorem outcome_ofExcept (result : Except ε α) (world : World σ) :
    (ofExcept result : Act σ ε α).outcome world = (result, world) :=
  rfl

@[simp] theorem outcome_state (world : World σ) :
    (state : Act σ ε σ).outcome world = (.ok world.state, world) :=
  rfl

@[simp] theorem outcome_setState (state : σ) (world : World σ) :
    (setState state : Act σ ε Unit).outcome world = (.ok (), { world with state }) :=
  rfl

@[simp] theorem outcome_measure (measured : Measure) (world : World σ) :
    (measure measured : Act σ ε Unit).outcome world =
      (.ok (), { world with measured := measured :: world.measured }) :=
  rfl

@[simp] theorem outcome_asCall (call : Call) (act : Act σ ε α) (world : World σ) :
    (asCall call act).outcome world =
      ((act.outcome world).1,
        { (act.outcome world).2 with calls := call :: world.calls }) :=
  rfl

@[simp] theorem outcome_mapError (wrap : ε → φ) (act : Act σ ε α) (world : World σ) :
    (mapError wrap act).outcome world =
      ((act.outcome world).1.mapError wrap, (act.outcome world).2) :=
  rfl

theorem outcome_exchange (network : Http.Network σ) (request : Http.Request) (world : World σ) :
    (exchange network request : Act σ ε (Option Http.Response)).outcome world =
      if request.isSendable then
        (.ok (network.send request world.state).1,
          { world with
            state := (network.send request world.state).2
            handed := request :: world.handed })
      else (.ok none, { world with handed := request :: world.handed }) := by
  change (if request.isSendable then _ else _ : Act σ ε (Option Http.Response)).outcome world = _
  split <;> rfl

theorem outcome_exchange_answer (network : Http.Network σ) (request : Http.Request)
    (world : World σ) :
    (exchange network request : Act σ ε (Option Http.Response)).outcome world =
      (.ok (network.answer request world.state).1,
        { world with
          state := (network.answer request world.state).2
          handed := request :: world.handed }) := by
  rw [outcome_exchange, Http.Network.answer]
  split <;> rfl

@[simp] theorem outcome_complete (drafts : List Document.Draft) (world : World σ) :
    (complete drafts : Act σ ε (List Document)).outcome world =
      (.ok (Document.Draft.completeAll world.ids drafts).1,
        { world with ids := (Document.Draft.completeAll world.ids drafts).2 }) :=
  rfl

theorem outcome_mapM_cons (work : α → Act σ ε β) (item : α) (rest : List α) (world : World σ) :
    ((item :: rest).mapM work).outcome world =
      match (work item).outcome world with
      | (.ok result, after) =>
          (((rest.mapM work).outcome after).1.map (result :: ·), ((rest.mapM work).outcome after).2)
      | (.error reason, after) => (.error reason, after) := by
  rw [List.mapM_cons, outcome_bind]
  obtain ⟨_ | result, after⟩ := (work item).outcome world
  · rfl
  · simp only [bind_pure_comp, outcome_map]

theorem outcome_forM_cons (work : α → Act σ ε Unit) (item : α) (rest : List α) (world : World σ) :
    ((item :: rest).forM work).outcome world =
      match (work item).outcome world with
      | (.ok _, after) => (rest.forM work).outcome after
      | (.error reason, after) => (.error reason, after) := by
  change (work item >>= fun _ => rest.forM work).outcome world = _
  rw [outcome_bind]
  obtain ⟨_ | done, after⟩ := (work item).outcome world <;> rfl

/-- However many are under way at a time, items are worked on one after the other. -/
theorem buffered_eq_mapM {width : Nat} (positive : 0 < width) (work : α → Act σ ε β)
    (underWay waiting : List α) :
    buffered width work underWay waiting = (underWay ++ waiting).mapM work := by
  induction underWay, waiting using buffered.induct width with
  | case1 underWay waiting room none =>
      have size := congrArg List.length none
      simp only [List.length_append, List.length_take, List.length_nil] at size
      have idle : underWay = [] := List.eq_nil_of_length_eq_zero (by omega)
      have finished : waiting = [] := List.eq_nil_of_length_eq_zero (by omega)
      subst idle finished
      rw [buffered]
      split
      next => rfl
      next first rest same => exact absurd (same.symm.trans none) (List.cons_ne_nil _ _)
  | case2 underWay waiting room item others taken ih =>
      have order : underWay ++ waiting = item :: (others ++ waiting.drop room) := by
        rw [← List.cons_append, ← taken, List.append_assoc, List.take_append_drop]
      rw [order, List.mapM_cons, ← ih, buffered]
      split
      next empty => exact absurd (empty.symm.trans taken) (List.cons_ne_nil _ _).symm
      next first rest same =>
          obtain ⟨rfl, rfl⟩ := List.cons.inj (same.symm.trans taken)
          rfl

end Act

end VectorSearch
