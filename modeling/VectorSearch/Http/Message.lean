import VectorSearch.Http.Credentials

namespace VectorSearch.Http

inductive Method where
  | get
  | post
deriving DecidableEq, Repr

namespace Method

def name : Method → String
  | .get => "GET"
  | .post => "POST"

end Method

structure Request where
  method : Method
  url : Url
  headers : List (String × String)
  body : Option String
deriving DecidableEq, Repr

structure Response where
  status : Nat
  body : String
deriving DecidableEq, Repr

namespace Response

def isSuccess (response : Response) : Bool :=
  200 ≤ response.status && response.status < 300

end Response

/-- No header value holds a control character other than a tab. -/
def isHeaderValue (text : String) : Bool :=
  text.toList.all fun c => c == '\t' || (' ' ≤ c && c.toNat ≠ 0x7f)

namespace Request

def isSendable (request : Request) : Bool :=
  request.url.isHttp && request.headers.all (isHeaderValue ·.2)

end Request

/-- What answers requests: a server, or the lack of one, with a state of its own. No
response means that the exchange broke down. -/
structure Network (σ : Type) where
  send : Request → σ → Option Response × σ

namespace Network

def unreachable : Network σ where
  send _ state := (none, state)

end Network

end VectorSearch.Http
