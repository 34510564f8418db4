import VectorSearch.Api.Service
import VectorSearch.Embedding.Endpoint
import VectorSearch.Store.Memory

namespace VectorSearch

structure Deployment (σ : Type) where
  documents : MemoryStore
  network : σ

namespace Deployment

def start (network : σ) : Deployment σ :=
  ⟨.empty, network⟩

def setDocuments (documents : MemoryStore) (deployment : Deployment σ) : Deployment σ :=
  { deployment with documents }

/-- A network as the deployment's own. -/
def reach (network : Http.Network σ) : Http.Network (Deployment σ) where
  send request deployment :=
    let (response, network) := network.send request deployment.network
    (response, { deployment with network })

end Deployment

def PayloadSettings.store (settings : PayloadSettings) (layout : PayloadLayout)
    (negation : NegationStyle) : Except StoreError PayloadStore :=
  PayloadStore.ofBase layout settings.base settings.apiKey settings.collection settings.dimensions negation

def StoreSettings.backend (settings : StoreSettings) (negation : NegationStyle)
    (network : Http.Network σ) : Except StoreError (Backend (Deployment σ)) :=
  match settings with
  | .payload layout settings =>
      match settings.store layout negation with
      | .ok store => .ok (store.backend (Deployment.reach network))
      | .error reason => .error reason
  | .memory settings =>
      .ok (MemoryStore.backend Deployment.documents Deployment.setDocuments settings.dimensions)

def EmbeddingSettings.endpoint (settings : EmbeddingSettings) : EmbeddingEndpoint :=
  ⟨settings.base, settings.apiKey, settings.model, settings.dimensions⟩

namespace Settings

/-- The collection that settings describe; only the address of its store can be at fault. -/
def collection (settings : Settings) (network : Http.Network σ) :
    Except StoreError (Collection (Deployment σ)) :=
  match settings.store.backend settings.search.negation network with
  | .ok backend =>
      .ok ⟨backend, settings.embedding.endpoint.embedder (Deployment.reach network),
        settings.search.policy⟩
  | .error reason => .error reason

/-- The measures that are shown, if any. -/
def shownMetrics (settings : Settings) : Option MetricsSettings :=
  match Metrics.install settings.metrics none with
  | .ok installed => installed
  | .error _ => none

def service (settings : Settings) (collection : Collection σ) : Api.Service σ :=
  ⟨collection, settings.store.concurrency, settings.search, settings.shownMetrics⟩

end Settings

end VectorSearch
