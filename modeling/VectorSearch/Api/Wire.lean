import VectorSearch.Api.Service
import VectorSearch.Http.Frame

namespace VectorSearch.Api

open Http Text

/-- A request that has arrived. A body that is not UTF-8 is no text, so it is left out. -/
def Request.ofFrame? (frame : Frame) : Option Request :=
  match frame.start.toList.splitOn ' ' with
  | [method, target, _] =>
      some ⟨String.ofList method, String.ofList target, frame.header? "content-type",
        String.ofList ((decode? frame.content).getD [])⟩
  | _ => none

def reason (status : Nat) : String :=
  match status with
  | 200 => "OK"
  | 400 => "Bad Request"
  | 404 => "Not Found"
  | 405 => "Method Not Allowed"
  | 414 => "URI Too Long"
  | 502 => "Bad Gateway"
  | _ => "Service Unavailable"

def Response.frame (response : Response) : Frame :=
  .closing ("HTTP/1.1 " ++ toString response.status ++ " " ++ reason response.status)
    ((response.contentType.map fun kind => ("content-type", kind)).toList ++
      (response.allow.map fun methods => ("allow", methods)).toList)
    response.body

end VectorSearch.Api
