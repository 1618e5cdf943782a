import AccessPortal.Http.Message
import AccessPortal.Http.Url

/-!
# A server with prepared responses

A server at a fixed host and socket that reads one request for each connection, answers it with the
next of the responses prepared for it, and closes the connection without an answer when there are
none left. It keeps what it has seen. It is one transport among others, to run the portal against;
what is shown of requests holds for every transport.
-/

namespace AccessPortal
namespace Http

structure SeenRequest where
  method : Method
  target : String
  authorization : Option String
  contentType : Option String
  body : String
  deriving DecidableEq, Repr, Inhabited

structure PreparedServer where
  host : String
  socket : Nat
  responses : List Response
  /-- What the server has seen, in order. -/
  seen : List SeenRequest := []
  deriving Repr, Inhabited

/--
What arrives of a response. One whose status has not three digits cannot be read; an informational
one is not the final one; and after some statuses no body is read.
-/
def Response.received? (response : Response) : Option Response :=
  if response.status < 100 || 999 < response.status then none
  else if response.status == 101 || response.status == 204 || response.status == 304 then
    some { response with body := "" }
  else if response.status < 200 then none
  else some response

/-- The value of a header as it is read: blanks at its end are not part of it. -/
def readHeader (value : String) : String :=
  String.ofList (value.toList.reverse.dropWhile fun c => c == ' ' || c == '\t').reverse

namespace PreparedServer

def url (server : PreparedServer) : String :=
  "http://" ++ server.host ++ ":" ++ toString server.socket

/-- Answers a request. One that is not addressed to the server has no response. -/
def send : Transport PreparedServer := fun request server =>
  match Url.parse? request.url with
  | none => (none, server)
  | some url =>
    if url.secure || url.host != server.host || url.socket != server.socket then (none, server)
    else
      let seen : SeenRequest :=
        { method := request.method
          target := url.target
          authorization := request.authorization.map readHeader
          contentType := request.contentType.map readHeader
          body := request.body }
      (server.responses.head?.bind Response.received?,
        { server with responses := server.responses.tail, seen := server.seen ++ [seen] })

end PreparedServer
end Http
end AccessPortal
