import FeedOperator.Text.Numeral

/-!
# Reason phrases

The registered phrase of each status that tells of a failure, of the client (400 to 499) or of the
server (500 to 599).
-/

namespace FeedOperator

/-- The phrases of the failures. -/
def reasonPhrases : List (Nat × String) := [
  (400, "Bad Request"), (401, "Unauthorized"), (402, "Payment Required"), (403, "Forbidden"),
  (404, "Not Found"), (405, "Method Not Allowed"), (406, "Not Acceptable"),
  (407, "Proxy Authentication Required"), (408, "Request Timeout"), (409, "Conflict"),
  (410, "Gone"), (411, "Length Required"), (412, "Precondition Failed"),
  (413, "Payload Too Large"), (414, "URI Too Long"), (415, "Unsupported Media Type"),
  (416, "Range Not Satisfiable"), (417, "Expectation Failed"), (418, "I'm a teapot"),
  (421, "Misdirected Request"), (422, "Unprocessable Entity"), (423, "Locked"),
  (424, "Failed Dependency"), (425, "Too Early"), (426, "Upgrade Required"),
  (428, "Precondition Required"), (429, "Too Many Requests"),
  (431, "Request Header Fields Too Large"), (451, "Unavailable For Legal Reasons"),
  (500, "Internal Server Error"), (501, "Not Implemented"), (502, "Bad Gateway"),
  (503, "Service Unavailable"), (504, "Gateway Timeout"), (505, "HTTP Version Not Supported"),
  (506, "Variant Also Negotiates"), (507, "Insufficient Storage"), (508, "Loop Detected"),
  (510, "Not Extended"), (511, "Network Authentication Required")]

/-- Whether a status tells of a failure. -/
def isFailureStatus (status : Nat) : Bool :=
  400 ≤ status && status ≤ 599

/-- A status with its phrase. -/
def statusLine (status : Nat) : String :=
  String.ofList (Text.decimal status) ++ " " ++
    (reasonPhrases.lookup status).getD "<unknown status code>"

end FeedOperator
