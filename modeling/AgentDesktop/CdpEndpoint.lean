import AgentDesktop.TraceRead
import AgentDesktop.Util.Position
import AgentDesktop.Util.Utf8Lossy

/-!
# Asking a launched process for its DevTools endpoint

One attempt connects to the port, asks for the version and reads what comes. The server does not
close the connection, so the attempt has to see by itself that the response is there: each time
something came, it looks for the end of the header lines, and for the length they announce.

The connection is a parameter: what each read gives, and when. A text is a list of characters
here, as it is cut into lines and at separators.
-/

namespace AgentDesktop

open Utf8

namespace CdpEndpoint

/-- What is sent. -/
abbrev Bytes : Type := List UInt8

/-- `MAX_RESPONSE_BYTES`. -/
def maxResponseBytes : ℕ := 64 * 1024

/-- The empty line that ends the header lines. -/
def blankLine : Bytes := [13, 10, 13, 10]

/-! ## Texts -/

/-- `split_once`: before and after the first time the separator occurs. -/
def splitOnce (separator text : List Char) : Option (List Char × List Char) :=
  (List.position separator text).map (fun place =>
    (text.take place, text.drop (place + separator.length)))

/-- `split_inclusive('\n')`: the lines, each with the line feed that ends it. -/
def splitInclusive : List Char → List (List Char)
  | [] => []
  | character :: rest =>
    if character = '\n' then [character] :: splitInclusive rest
    else
      match splitInclusive rest with
      | [] => [[character]]
      | line :: more => (character :: line) :: more

/-- A line without what ends it. -/
def stripLineEnd (line : List Char) : List Char :=
  match stripSuffix ['\n'] line with
  | none => line
  | some line => (stripSuffix ['\r'] line).getD line

/-- `lines`. -/
def lines (text : List Char) : List (List Char) := (splitInclusive text).map stripLineEnd

/-- A text without the plus sign it may begin with. -/
def withoutPlus : List Char → List Char
  | '+' :: rest => rest
  | text => text

/-- `str::parse::<usize>`. -/
def parseUsize (value : List Char) : Option ℕ :=
  let digits := withoutPlus value
  if digits.isEmpty || !digits.all isAsciiDigit then none
  else
    let number := digits.foldl (fun number digit => number * 10 + (digit.toNat - 48)) 0
    if number ≤ usizeMax then some number else none

/-! ## The response -/

/-- The length a header line announces. -/
def lengthOfLine (line : List Char) : Option ℕ :=
  match splitOnce [':'] line with
  | none => none
  | some (name, value) =>
    if asciiLowercase (trim (String.ofList name)) = "content-length" then
      parseUsize (trim (String.ofList value)).toList
    else none

/-- `content_length`. -/
def contentLength (headers : Bytes) : Option ℕ := (lines (decode headers)).findSome? lengthOfLine

/-- `response_complete`. -/
def responseComplete (raw : Bytes) : Bool :=
  match List.position blankLine raw with
  | none => false
  | some headerEnd =>
    let bodyReceived := raw.length - (headerEnd + 4)
    (contentLength (raw.take headerEnd)).any (fun expected => decide (expected ≤ bodyReceived))

/-- `CdpEndpoint`. -/
structure Endpoint where
  port : ℕ
  httpEndpoint : String
  /-- Where the protocol is spoken. -/
  websocketUrl : String
  product : Option String
  deriving DecidableEq

/-- The body of a response, as a text. -/
def bodyText (raw : Bytes) : String :=
  trim (String.ofList (((splitOnce ['\r', '\n', '\r', '\n'] (decode raw)).map Prod.snd).getD []))

/-- `parse_response`. -/
def parseResponse [JsonText] (port : ℕ) (raw : Bytes) : Option Endpoint :=
  match JsonText.fromStr (bodyText raw) with
  | none => none
  | some parsed =>
    match (parsed.get "webSocketDebuggerUrl").bind Json.asStr with
    | none => none
    | some websocketUrl =>
      some ⟨port, "http://127.0.0.1:" ++ toString port, websocketUrl,
        (parsed.get "Browser").bind Json.asStr⟩

/-! ## Reading -/

/-- What a read gives. -/
inductive ReadResult
  /-- Some bytes, or none: the connection is closed. -/
  | received (chunk : Bytes)
  /-- An error. -/
  | failed

/-- **A turn of the loop that reads**, as the system has it. -/
structure ReadTurn where
  /-- The time since the reading began. -/
  elapsed : ℕ
  /-- Whether the time limit of the read can be set. -/
  limitSet : Bool
  result : ReadResult

/-- What became of the reading. -/
inductive ReadProgress
  /-- It ended. -/
  | finished (raw : Option Bytes)
  /-- It still waits, with what it has. -/
  | waiting (raw : Bytes)
  deriving DecidableEq

/-- The reading ends with what it has. -/
def finish (raw : Bytes) : ReadProgress := .finished (if raw.isEmpty then none else some raw)

/-- The loop of `read_http_response`. -/
def readFrom (timeout : ℕ) (raw : Bytes) : List ReadTurn → ReadProgress
  | [] => .waiting raw
  | turn :: turns =>
    if timeout ≤ turn.elapsed ∨ turn.limitSet = false then finish raw
    else
      match turn.result with
      | .failed | .received [] => finish raw
      | .received (byte :: chunk) =>
        let raw := raw ++ byte :: chunk
        if responseComplete raw || maxResponseBytes < raw.length then finish raw
        else readFrom timeout raw turns

/-- `read_http_response`. -/
def readHttpResponse (timeout : ℕ) (turns : List ReadTurn) : ReadProgress :=
  readFrom timeout [] turns

/-- `Attempt`. -/
inductive Attempt
  | verified (endpoint : Endpoint)
  | respondedWithoutDevtoolsBody
  | notYetListening
  deriving DecidableEq

/-- **A connection**, as one attempt finds it. -/
structure Connection where
  /-- Whether the port takes the connection in time. -/
  connects : Bool
  /-- Whether the time limits can be set. -/
  limitsSet : Bool
  /-- Whether the request is written. -/
  writes : Bool
  turns : List ReadTurn

/-- What an attempt makes of what it read. -/
def judge [JsonText] (port : ℕ) : Option Bytes → Attempt
  | none => .notYetListening
  | some raw =>
    match parseResponse port raw with
    | some endpoint => .verified endpoint
    | none => .respondedWithoutDevtoolsBody

/-- **`attempt`**; nothing, as long as it waits. -/
def attempt [JsonText] (port timeout : ℕ) (connection : Connection) : Option Attempt :=
  if connection.connects = false then some .notYetListening
  else if connection.limitsSet = false then some .notYetListening
  else if connection.writes = false then some .notYetListening
  else
    match readHttpResponse timeout connection.turns with
    | .waiting _ => none
    | .finished raw => some (judge port raw)

end CdpEndpoint

end AgentDesktop
