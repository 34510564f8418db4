import VectorSearch.Collection
import VectorSearch.Proofs.Activity

namespace VectorSearch

/-! What a collection asks of its embedder and its backend.

An operation on a collection comes down to calls, made one after the other, and their answers. What
an embedder or a backend does inside a call is its own affair, so the world moves from call to call
as it pleases.
-/

/-- What comes back from a call. -/
def Call.Answer : Call → Type
  | .embed _ => Except EmbeddingError Embedding
  | .push _ => Except StoreError Unit
  | .pushBatch _ => Except StoreError Unit
  | .fetch _ => Except StoreError (List Document)

/-- A call with what came back from it. -/
structure Call.Answered where
  call : Call
  answer : call.Answer

namespace Collection

/-- Makes a call: its answer, and the world that it leaves. -/
def make (collection : Collection σ) : (call : Call) → World σ → call.Answer × World σ
  | .embed text => (collection.embedder.embed text).outcome
  | .push document => (collection.backend.push document).outcome
  | .pushBatch documents => (collection.backend.pushBatch documents).outcome
  | .fetch filter => (collection.backend.fetch filter).outcome

/-- Calls are made in order, each in the world that the one before it left. -/
inductive Makes (collection : Collection σ) :
    World σ → List Call.Answered → World σ → Prop where
  | nil {world : World σ} : Makes collection world [] world
  | cons {call : Call} {answer : call.Answer} {rest : List Call.Answered}
      {world next after : World σ} (first : collection.make call world = (answer, next))
      (others : Makes collection next rest after) :
      Makes collection world (⟨call, answer⟩ :: rest) after

variable {collection : Collection σ} {world between after : World σ}

theorem Makes.append {left right : List Call.Answered}
    (first : collection.Makes world left between) (second : collection.Makes between right after) :
    collection.Makes world (left ++ right) after := by
  induction first with
  | nil => exact second
  | cons call _ ih => exact .cons call (ih second)

/-- What no call undoes is not undone by calls. -/
theorem Makes.preserves {keeps : World σ → Prop}
    (step : ∀ call world, keeps world → keeps (collection.make call world).2)
    {answered : List Call.Answered} (made : collection.Makes world answered after)
    (kept : keeps world) : keeps after := by
  induction made with
  | nil => exact kept
  | @cons call answer rest world next after first _ ih =>
      have kept' := step call world kept
      rw [first] at kept'
      exact ih kept'

theorem Makes.exists_make {calls : List Call.Answered}
    (made : collection.Makes world calls after) {answered : Call.Answered} (present : answered ∈ calls) :
    ∃ before, (collection.make answered.call before).1 = answered.answer := by
  induction made with
  | nil => cases present
  | @cons call answer rest world next after first _ ih =>
      rcases List.mem_cons.mp present with rfl | later
      · exact ⟨world, congrArg Prod.fst first⟩
      · exact ih later

theorem make_recorded_calls (collection : Collection σ) (call : Call) (world : World σ) :
    (collection.recorded.make call world).2.calls = call :: world.calls := by
  cases call <;> rfl

/-- A recorded collection has every call on record, the latest one first. -/
theorem Makes.recorded_calls {answered : List Call.Answered}
    (made : collection.recorded.Makes world answered after) :
    after.calls = (answered.map (·.call)).reverse ++ world.calls := by
  induction made with
  | nil => rfl
  | @cons call answer rest world next after first _ ih =>
      have recorded := collection.make_recorded_calls call world
      rw [first] at recorded
      rw [ih, recorded]
      simp

end Collection

end VectorSearch
