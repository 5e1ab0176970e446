import OpenDocs.Web.CrossOrigin
import OpenDocs.Web.EditRequest
import OpenDocs.Web.Route

/-!
# What is around the routes

A framework finds the route of a request, reads its query and its body, and deals with requests from
other origins. What the service relies on is said here and nothing more; `Framework.usual` is the
framework that runs.
-/

namespace OpenDocs.Web

structure Framework where
  destination : (method path : String) → Destination
  /-- Whether JSON is asked for, or the answer if neither that nor a text is. -/
  format : Request → Except Response Bool
  /-- The edit that a body asks for, or what is said of one that asks for none. -/
  edit : Request → Except (Except Failure Response) EditRequest
  /-- The answer to a question in advance, if the request is one. -/
  preflight? : Request → Option Response
  /-- The response with what confirms the origin of the request. -/
  confirm : Request → Response → Response
  destination_document {name : String} : name ≠ "" → '/' ∉ name.toList →
    destination "GET" ("/tabs/" ++ name) = .route (.document name)
  destination_symbols {name : String} : name ≠ "" → '/' ∉ name.toList →
    destination "GET" ("/tabs/" ++ name ++ "/symbols") = .route (.symbols name)
  destination_edit : destination "POST" "/tabs/modify" = .route .edit
  format_of_query {r : Request} {json : Bool} : parameter? r.query "format" ∈ formats json →
    format r = .ok json
  edit_of_body {r : Request} {j : Json} {e : EditRequest} : r.json = .ok j →
    EditRequest.ofJson j = .ok e → edit r = .ok e
  preflight?_of_method {r : Request} : r.method ≠ "OPTIONS" → preflight? r = none
  confirm_status {r : Request} {response : Response} :
    (confirm r response).status = response.status
  confirm_body {r : Request} {response : Response} : (confirm r response).body = response.body

namespace Framework

def usual (a : Allowances) : Framework where
  destination := Web.destination
  format := Request.format
  edit := Request.edit
  preflight? := a.preflight?
  confirm := a.confirm
  destination_document := Web.destination_document
  destination_symbols := Web.destination_symbols
  destination_edit := Web.destination_edit
  format_of_query := Request.format_of_query
  edit_of_body := Request.edit_of_body
  preflight?_of_method := a.preflight?_of_method
  confirm_status := a.confirm_keeps.1
  confirm_body := a.confirm_keeps.2

end Framework

end OpenDocs.Web
