import Fuerte.Message

/-! # The result of an HTTP request -/

namespace Fuerte.Http

set_option autoImplicit false

/-- `responseHeaders[key]` puts in an empty string where there is none. -/
def transformResult (responseHeaders : StringMap) (responseBody : ByteString)
    (response : Response) : Response :=
  let responseHeaders := StringMap.insert responseHeaders fuContentTypeKey []
  let ctype := (responseHeaders.lookup fuContentTypeKey).getD []
  let response := { response with header := response.header.addMeta fuContentTypeKey ctype }
  let response := if responseBody.length ≠ 0 then response.setPayload responseBody 0 else response
  { response with header := { response.header with metadata := some responseHeaders } }

/-- The response that `handleResult` passes on when curl has succeeded. -/
def handleResult (messageID : MessageID) (httpStatusCode : Nat) (responseHeaders : StringMap)
    (responseBody : ByteString) (uninitialised : Nat) : Response :=
  let response := Response.ofHeader {} uninitialised
  transformResult responseHeaders responseBody
    { response with
      header := { response.header with responseCode := some (httpStatusCode % 2 ^ 32) }
      messageID }

end Fuerte.Http
