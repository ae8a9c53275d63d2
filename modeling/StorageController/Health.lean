namespace StorageController.Health

structure Answer where
  status : String
  headers : List (String × String)
  body : String
deriving DecidableEq

def okStatus : String := "200 OK"

def unavailableStatus : String := "503 SERVICE UNAVAILABLE"

/-- An answer in JSON. The headers give the length of the body also if the body is left out, as it is
for the method `HEAD`. -/
def json (method status body : String) : Answer where
  status
  headers :=
    [("Content-Length", String.ofList (Nat.toDigits 10 body.utf8ByteSize)),
     ("Content-Type", "application/json")]
  body := if method = "HEAD" then "" else body

def report (state : String) : String :=
  "\x7b\"status\":\"" ++ state ++ "\"\x7d"

/-- The answer to a request. Without a check the operator is always ready; what is no probe is left
to the metrics. -/
def answer (ready : Option Bool) (path : Option String) (method : String) (metrics : Answer) :
    Answer :=
  match path.getD "" with
  | "/healthz" => json method okStatus (report "ok")
  | "/readyz" =>
    if ready.getD true then json method okStatus (report "ready")
    else json method unavailableStatus (report "not ready")
  | _ => metrics

end StorageController.Health
