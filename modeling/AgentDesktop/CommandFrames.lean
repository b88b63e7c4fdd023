import AgentDesktop.Error
import AgentDesktop.Util.Framing

/-!
# The frames of a command host

A command host is asked in lines: each is a request, and it is answered before the next one is
read. The host reads what has arrived, in pieces of any size, up to the end of a line or up to one
byte more than a request may have; it waits no longer than its deadlines allow. A line that is too
long or lacks its end is refused, and nothing more is read after it.

What the system gives is a parameter: what arrives, when the deadlines pass, what a request comes
to, and whether a reply can be written.
-/

namespace AgentDesktop

namespace CommandHost

/-- What is sent. -/
abbrev Bytes : Type := List UInt8

/-- `b'\n'`. -/
def lineFeed : UInt8 := 10

/-- `MAX_REQUEST_BYTES`. -/
def maxRequestBytes : ℕ := 1048576

/-! ## Reading a frame -/

/-- The kinds of errors of an input. -/
inductive InputError
  /-- The deadline is over. -/
  | timedOut
  /-- The wait or the read fails. -/
  | failed
  deriving DecidableEq

/-- What a wait for input, and the read after it, come to. -/
inductive Arrival
  /-- Some bytes, or none: the other side has closed. -/
  | received (chunk : Bytes)
  /-- An error. -/
  | failed
  /-- Nothing, before the deadline. -/
  | silent
  deriving DecidableEq

/-- **An input**: a `BufReader`, and what the system has for it. -/
structure Input where
  /-- What was read and not yet consumed. -/
  buffer : Bytes
  /-- What the next reads give. -/
  arrivals : List Arrival
  /-- For each frame, whether its deadline is over when its reading begins. -/
  late : List Bool

/-- What arrives, up to the end of it. -/
def arrivedBytes : List Arrival → Bytes
  | .received (byte :: chunk) :: rest => byte :: chunk ++ arrivedBytes rest
  | [] | .received [] :: _ | .failed :: _ | .silent :: _ => []

/-- Whether the other side closes, and all before arrives. -/
def closes : List Arrival → Bool
  | .received [] :: _ => true
  | .received (_ :: _) :: rest => closes rest
  | [] | .failed :: _ | .silent :: _ => false

/-- **The bytes of an input**, those that were read and those that will be. -/
def Input.data (input : Input) : Bytes := input.buffer ++ arrivedBytes input.arrivals

/-- `fill_buf`, after a wait if nothing is buffered; a side that has closed stays closed. -/
def Input.fill (input : Input) : Except InputError Bytes × Input :=
  if input.buffer ≠ [] then (.ok input.buffer, input)
  else
    match input.arrivals with
    | [] => (.error .timedOut, input)
    | .silent :: rest => (.error .timedOut, { input with arrivals := rest })
    | .failed :: rest => (.error .failed, { input with arrivals := rest })
    | .received [] :: _ => (.ok [], input)
    | .received (byte :: chunk) :: rest =>
      (.ok (byte :: chunk), { input with buffer := byte :: chunk, arrivals := rest })

/-- How much is taken of what is there. -/
def takeCount (limit : ℕ) (bytes available : Bytes) : ℕ :=
  min (((available.findIdx? (· = lineFeed)).map (· + 1)).getD available.length)
    (limit + 1 - bytes.length)

/-- Whether a frame is over. -/
def frameDone (limit : ℕ) (bytes : Bytes) : Bool :=
  bytes.getLast? == some lineFeed || decide (limit < bytes.length)

/-- The loop of `read_frame`. -/
def frameLoop (limit : ℕ) : ℕ → Bytes → Input → Except InputError Bytes × Input
  | 0, _, input => (.error .timedOut, input)
  | fuel + 1, bytes, input =>
    match input.fill with
    | (.error error, input) => (.error error, input)
    | (.ok available, input) =>
      if available = [] then (.ok bytes, input)
      else
        let count := takeCount limit bytes available
        let bytes := bytes ++ available.take count
        let input := { input with buffer := available.drop count }
        if frameDone limit bytes then (.ok bytes, input) else frameLoop limit fuel bytes input

/-- **`read_frame`**. A turn of its loop takes a byte at least, so there are no more turns than a
frame has bytes, and one. -/
def readFrame (limit : ℕ) (input : Input) : Except InputError Bytes × Input :=
  if input.late.headD false then (.error .timedOut, { input with late := input.late.tail })
  else frameLoop limit (limit + 2) [] { input with late := input.late.tail }

/-! ## Serving -/

/-- What is replied. -/
inductive HostReply (R : Type)
  /-- The request was not understood. -/
  | refused (error : AppError)
  /-- It was, and this is what it came to. -/
  | answered (response : R)

/-- **What a host does.** -/
inductive HostEvent (R : Type)
  /-- A request is carried out. -/
  | dispatched (request : Bytes)
  /-- A reply is written, or cannot be. -/
  | replied (reply : HostReply R) (written : Bool)

/-- How serving ends. -/
inductive ServeEnd
  /-- There is nothing more to serve. -/
  | returned
  /-- An error. -/
  | failed (error : AppError)
  /-- It goes on. -/
  | serving

/-- The error of a frame that cannot be read. -/
def frameError : InputError → AppError
  | .timedOut =>
    .adapter ((AdapterError.timeout
      "Command host request did not arrive before its input deadline").withDisposition
      .notDelivered)
  | .failed => .io "input failed"

/-- The error of a frame that is no request. -/
def frameRefusal : AppError :=
  .invalidInput "Host request is oversized or lacks its newline terminator"

/-- Whether a frame is too long. -/
def oversized (bytes : Bytes) : Bool := decide (maxRequestBytes < bytes.length)

/-- Whether a frame lacks its end. -/
def incomplete (bytes : Bytes) : Bool := bytes.getLast? != some lineFeed

section Serve

variable {ρ σ R : Type} (read : ρ → Except InputError Bytes × ρ) (execute : σ → Bytes → R × σ)
  (write : σ → HostReply R → Bool × σ)

/-- **`serve_frames`**: the frames that are read, one after another. -/
def serveFrames : ℕ → ρ → σ → List (HostEvent R) × ServeEnd
  | 0, _, _ => ([], .serving)
  | fuel + 1, input, s =>
    match read input with
    | (.error error, _) => ([], .failed (frameError error))
    | (.ok bytes, input) =>
      if bytes = [] then ([], .returned)
      else if oversized bytes || incomplete bytes then
        let written := (write s (.refused frameRefusal)).1
        ([.replied (.refused frameRefusal) written],
          if written then .returned else .failed (.io "reply failed"))
      else
        let answer := execute s bytes
        let reply := write answer.2 (.answered answer.1)
        if reply.1 then
          let more := serveFrames fuel input reply.2
          (.dispatched bytes :: .replied (.answered answer.1) true :: more.1, more.2)
        else
          ([.dispatched bytes, .replied (.answered answer.1) false],
            .failed (.io "reply failed"))

/-- **`run`** on the standard input. -/
def serveInput (fuel : ℕ) (input : Input) (s : σ) : List (HostEvent R) × ServeEnd :=
  serveFrames (readFrame maxRequestBytes) execute write fuel input s

/-- The frame of `serve_connection`: there is one, and then the connection is over. -/
def readOnce (input : Bool × Input) : Except InputError Bytes × (Bool × Input) :=
  if input.1 then (.ok [], input)
  else
    let frame := readFrame maxRequestBytes input.2
    (frame.1, true, frame.2)

/-- **`serve_connection`**, for a peer of the same owner. -/
def serveConnection (fuel : ℕ) (input : Input) (s : σ) : List (HostEvent R) × ServeEnd :=
  serveFrames readOnce execute write fuel (false, input) s

end Serve

end CommandHost

end AgentDesktop
