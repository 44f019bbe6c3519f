import RouterTelemetry.Json.Token
/-!
# Reading JSON

A JSON value from its tokens. The reader keeps the arrays and objects that are still open on a stack and
takes one token at a time, so it needs no bound on the nesting.
-/

namespace RouterTelemetry.Json

/-- An array or object that is still open. Its parts are kept latest first. An object also holds the key
that was read last, and whether all keys so far had a text. -/
inductive Frame where
  | items (done : List Json)
  | members (done : List (String × Json)) (key : Option String) (readable : Bool)

/-- What may come next. -/
inductive Expect where
  /-- A value. -/
  | value
  /-- A value or the end of the array just opened. -/
  | valueOrClose
  /-- A key. -/
  | key
  /-- A key or the end of the object just opened. -/
  | keyOrClose
  /-- A colon. -/
  | colon
  /-- A comma or the end of the innermost open part. -/
  | commaOrClose
  /-- Nothing: this is the value of the text. -/
  | done (v : Json)

/-- The open parts, innermost first, and what may come next. -/
structure Reader where
  frames : List Frame
  expect : Expect

/-- Before the first token. -/
def Reader.initial : Reader :=
  ⟨[], .value⟩

/-- Puts a complete value where it belongs. -/
def Reader.complete (frames : List Frame) (v : Json) : Reader :=
  match frames with
  | [] => ⟨[], .done v⟩
  | .items done :: rest => ⟨.items (v :: done) :: rest, .commaOrClose⟩
  | .members done (some k) readable :: rest =>
    ⟨.members ((k, v) :: done) none readable :: rest, .commaOrClose⟩
  | .members done none _ :: rest => ⟨.members done none false :: rest, .commaOrClose⟩

/-- Takes a token that starts a value. -/
def Reader.value (frames : List Frame) : Token → Option Reader
  | .arrayOpen => some ⟨.items [] :: frames, .valueOrClose⟩
  | .objectOpen => some ⟨.members [] none true :: frames, .keyOrClose⟩
  | .scalar v => some (Reader.complete frames v)
  | .string (some s) => some (Reader.complete frames (.string s))
  | .string none => some (Reader.complete frames .unreadable)
  | _ => none

/-- Takes a token that is a key. -/
def Reader.key (frames : List Frame) : Token → Option Reader
  | .string key =>
    match frames with
    | .members done _ readable :: rest => some ⟨.members done key readable :: rest, .colon⟩
    | _ => none
  | _ => none

/-- Takes a token that ends the innermost open part. An object with a key that has no text is
unreadable. -/
def Reader.close (frames : List Frame) (t : Token) : Option Reader :=
  match t, frames with
  | .arrayClose, .items done :: rest => some (Reader.complete rest (.array done.reverse))
  | .objectClose, .members done _ readable :: rest =>
    some (Reader.complete rest (if readable then .object done.reverse else .unreadable))
  | _, _ => none

/-- Takes a comma inside the innermost open part. -/
def Reader.comma : List Frame → Option Reader
  | .items done :: rest => some ⟨.items done :: rest, .value⟩
  | .members done key readable :: rest => some ⟨.members done key readable :: rest, .key⟩
  | [] => none

/-- Takes one token. -/
def Reader.step (r : Reader) (t : Token) : Option Reader :=
  match r.expect with
  | .value => Reader.value r.frames t
  | .valueOrClose =>
    match t with
    | .arrayClose => Reader.close r.frames t
    | _ => Reader.value r.frames t
  | .key => Reader.key r.frames t
  | .keyOrClose =>
    match t with
    | .objectClose => Reader.close r.frames t
    | _ => Reader.key r.frames t
  | .colon =>
    match t with
    | .colon => some ⟨r.frames, .value⟩
    | _ => none
  | .commaOrClose =>
    match t with
    | .comma => Reader.comma r.frames
    | _ => Reader.close r.frames t
  | .done _ => none

/-- The value of a text that ends here. -/
def Reader.finish (r : Reader) : Option Json :=
  match r.frames, r.expect with
  | [], .done v => some v
  | _, _ => none

/-- The value that a list of tokens denotes. -/
def ofTokens? (ts : List Token) : Option Json :=
  (ts.foldlM Reader.step Reader.initial).bind Reader.finish

/-- The value of a JSON text, or `none` for a text that is not JSON. -/
def parse? (s : List Char) : Option Json :=
  (tokens? s).bind ofTokens?

end RouterTelemetry.Json
