import RecordMap.Wire.Pure
import RecordMap.Wire.Session
import RecordMap.Json.Read

/-!
# Answering a request

`answer` reads one request line, runs the operation it names (a session or an operation that
needs no database), and writes the answer line. A line that is not a JSON object, or names no
known operation, is answered as malformed.
-/

namespace RecordMap.Wire

/-- The answer to a decoded request. -/
def answerJson (req : Json) : Json :=
  let run : Decoded Json := do
    match ← fieldStr req "op" with
    | "mapping" => mappingOp req
    | "compile" => compileOp req
    | "coerce" => coerceOp req
    | "decimal" => decimalOp req
    | "field" => fieldOp req
    | "sql_type" => sqlTypeOp req
    | "display" => displayOp req
    | "quote" => quoteOp req
    | "host" => hostOp req
    | "describe" => describeOp req
    | "catalog" => catalogOp req
    | "row" => rowOp req
    | op => malformed ("unknown op " ++ op)
  match run with
  | .ok j => j
  | .error f => encodeFailure f

/-- The answer line to a request line; a session's answer has its randomness written down,
which needs the request text. -/
def answer (line : String) : String :=
  match Json.parse line with
  | some req =>
    if (req.get? "op" >>= Json.str?) == some "session" then sessionAnswer line req
    else (answerJson req).render
  | none => (encodeFailure (.malformed "invalid JSON")).render

end RecordMap.Wire
