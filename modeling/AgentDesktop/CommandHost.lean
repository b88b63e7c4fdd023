import AgentDesktop.CommandFrames
import AgentDesktop.Util.Runs

/-!
# Clients of a command host

A command may be forwarded to a host process, so that element handles outlive it. The client
connects to the socket of the host, sends one request and waits for one reply; the host accepts
one connection after another and serves one request on each. Either side may stop at any time, a
write may be cut, and nobody waits for ever.

What went wrong before the request was sent is reported as it is, mostly as not delivered. From
the first byte on, whatever fails is reported as uncertain: the command may have been carried out.

What a client asks, what a request comes to and how replies are written and read are parameters. A
text that `serde_json` writes has no line feed in it, as it escapes control characters.
-/

namespace AgentDesktop

namespace CommandHost

/-- **The parameters**: what the clients ask, and what becomes of it. -/
structure HostWorld (ι σ R V : Type) where
  /-- The envelope of the request of a client, as a text. -/
  request : ι → Bytes
  /-- It has no line feed. -/
  request_feed : ∀ i, lineFeed ∉ request i
  execute : σ → Bytes → R × σ
  /-- A reply, as a text. -/
  render : HostReply R → Bytes
  /-- It has no line feed. -/
  render_feed : ∀ reply, lineFeed ∉ render reply
  /-- What a client makes of the text of a reply: nothing, if it has no valid envelope. -/
  parse : Bytes → Option V

variable {ι σ R V : Type}

/-- What a client sends. -/
def HostWorld.payload (world : HostWorld ι σ R V) (i : ι) : Bytes := world.request i ++ [lineFeed]

/-- What a host writes. -/
def HostWorld.line (world : HostWorld ι σ R V) (reply : HostReply R) : Bytes :=
  world.render reply ++ [lineFeed]

/-- How long a reply may be. -/
def maxReplyBytes : ℕ := 64 * 1024 * 1024

/-- The error of a reply that does not come. -/
def replyLost (detail : String) : AppError :=
  .adapter (((AdapterError.internal
    "Command host reply was lost; the command may have executed").withPlatformDetail
    detail).withDisposition .deliveryUncertain)

/-- **How far a client is** in `forward`. -/
inductive ClientPhase (V : Type)
  /-- The request is made, and a host is looked for. -/
  | preparing
  /-- `exchange` writes the request, of which so much was sent. -/
  | sending (sent : ℕ)
  /-- It waits for the reply. -/
  | awaiting
  /-- It is over. -/
  | returned (result : Except AppError V)

/-- **A connection**, from both sides. -/
structure Channel where
  /-- What the client has sent. -/
  request : Bytes
  /-- Whether the client has closed it. -/
  closed : Bool
  /-- What the host has sent. -/
  reply : Bytes
  /-- Whether the host has closed it. -/
  ended : Bool
  /-- Whether the host has accepted it. -/
  accepted : Bool

/-- **How far the host is.** -/
inductive HostPhase (ι : Type)
  /-- There is none. -/
  | down
  /-- It waits for a connection. -/
  | idle
  /-- It reads a request. -/
  | reading (client : ι)
  /-- It writes a reply, of which so much is left. -/
  | replying (client : ι) (rest : Bytes)

/-- **The clients and their host.** -/
structure HostState (ι σ V : Type) where
  /-- How far each client is. -/
  phase : ι → ClientPhase V
  /-- The connection of each client, if it has one. -/
  channel : ι → Option Channel
  host : HostPhase ι
  /-- What commands work on. -/
  desktop : σ

/-- A request was carried out. -/
structure Dispatched (ι R : Type) where
  client : ι
  request : Bytes
  response : R

/-- **What a side may find in a connection**: a part of what the other side has sent, in pieces,
and its end only if the other side has closed it. -/
structure Delivers (sent : Bytes) (closed : Bool) (arrivals : List Arrival) : Prop where
  /-- A part of what was sent. -/
  bytes : arrivedBytes arrivals <+: sent
  /-- The end is behind all of it. -/
  closes : closes arrivals = true → closed = true ∧ arrivedBytes arrivals = sent

section Step

variable [DecidableEq ι] (s : HostState ι σ V) (i : ι)

namespace HostState

/-- A client goes on. -/
def goTo (phase : ClientPhase V) : HostState ι σ V :=
  { s with phase := Function.update s.phase i phase }

/-- A connection changes. -/
def setChannel (channel : Channel) : HostState ι σ V :=
  { s with channel := Function.update s.channel i (some channel) }

/-- The client closes its connection, if it has one. -/
def close : HostState ι σ V :=
  { s with
    channel := Function.update s.channel i
      ((s.channel i).map (fun channel => { channel with closed := true })) }

/-- The host closes a connection, and waits for the next one. -/
def endConnection : HostState ι σ V :=
  { s with
    channel := Function.update s.channel i
      ((s.channel i).map (fun channel => { channel with ended := true }))
    host := .idle }

/-- The host is gone, and all connections with it. -/
def stopHost : HostState ι σ V :=
  { s with
    channel := fun i => (s.channel i).map (fun channel => { channel with ended := true })
    host := .down }

end HostState

variable (world : HostWorld ι σ R V)

/-- What a client makes of the frame it reads. -/
def judgeReply : Except InputError Bytes → Except AppError V
  | .error _ => .error (replyLost "input failed")
  | .ok frame =>
    if frame.getLast? ≠ some lineFeed ∨ maxReplyBytes < frame.length then
      .error (replyLost "Command host reply is incomplete or oversized")
    else
      match world.parse frame with
      | none => .error (replyLost "Command host reply has an invalid envelope")
      | some value => .ok value

/-- **What the host makes of the frame it reads**, as `serve_connection` does with the first. -/
def hostRead (result : Except InputError Bytes) : HostState ι σ V × Option (Dispatched ι R) :=
  match result with
  | .error _ => (s.endConnection i, none)
  | .ok frame =>
    if frame = [] then (s.endConnection i, none)
    else if oversized frame || incomplete frame then
      ({ s with host := .replying i (world.line (.refused frameRefusal)) }, none)
    else
      let answer := world.execute s.desktop frame
      ({ s with
          host := .replying i (world.line (.answered answer.1))
          desktop := answer.2 },
        some ⟨i, frame, answer.1⟩)

/-- The host writes some of its reply; once all is written, the connection is over. -/
def hostWrite (channel : Channel) (rest : Bytes) (count : ℕ) : HostState ι σ V :=
  let s := s.setChannel i { channel with reply := channel.reply ++ rest.take count }
  if rest.drop count = [] then s.endConnection i
  else { s with host := .replying i (rest.drop count) }

end Step

/-- **What may happen.** -/
inductive HostStep [DecidableEq ι] (world : HostWorld ι σ R V) (s : HostState ι σ V) :
    Option (Dispatched ι R) → HostState ι σ V → Prop
  /-- The request cannot be made, it is too long, or no host is found. -/
  | reject (i : ι) (error : AppError) (hphase : s.phase i = .preparing) :
    HostStep world s none (s.goTo i (.returned (.error error)))
  /-- The client connects. -/
  | connect (i : ι) (hphase : s.phase i = .preparing)
    (hsize : (world.payload i).length ≤ maxRequestBytes) :
    HostStep world s none ((s.goTo i (.sending 0)).setChannel i ⟨[], false, [], false, false⟩)
  /-- Its time is over before it has sent anything. -/
  | expire (i : ι) (error : AppError) (hphase : s.phase i = .sending 0) :
    HostStep world s none ((s.goTo i (.returned (.error error))).close i)
  /-- It sends some bytes. -/
  | send (i : ι) (sent count : ℕ) (channel : Channel) (hphase : s.phase i = .sending sent)
    (hchannel : s.channel i = some channel) :
    HostStep world s none ((s.goTo i (.sending (sent + count))).setChannel i
      { channel with request := (world.payload i).take (sent + count) })
  /-- All is sent. -/
  | flush (i : ι) (sent : ℕ) (hphase : s.phase i = .sending sent)
    (hsent : (world.payload i).length ≤ sent) : HostStep world s none (s.goTo i .awaiting)
  /-- It cannot send, or waits no longer, or is gone. -/
  | giveUp (i : ι) (detail : String)
    (hphase : s.phase i = .awaiting ∨ ∃ sent, s.phase i = .sending sent) :
    HostStep world s none ((s.goTo i (.returned (.error (replyLost detail)))).close i)
  /-- It reads a reply. -/
  | receive (i : ι) (channel : Channel) (arrivals : List Arrival) (late : List Bool)
    (hphase : s.phase i = .awaiting) (hchannel : s.channel i = some channel)
    (harrivals : Delivers channel.reply channel.ended arrivals) :
    HostStep world s none ((s.goTo i (.returned (judgeReply world
      (readFrame maxReplyBytes ⟨[], arrivals, late⟩).1))).close i)
  /-- A host starts. -/
  | start (hhost : s.host = .down) : HostStep world s none { s with host := .idle }
  /-- It ends, or is killed. -/
  | stop : HostStep world s none s.stopHost
  /-- It accepts a connection. -/
  | accept (i : ι) (channel : Channel) (hhost : s.host = .idle)
    (hchannel : s.channel i = some channel) (hfresh : channel.accepted = false)
    (hopen : channel.ended = false) :
    HostStep world s none
      { s.setChannel i { channel with accepted := true } with host := .reading i }
  /-- It reads a request, and carries it out. -/
  | read (i : ι) (channel : Channel) (arrivals : List Arrival) (late : List Bool)
    (hhost : s.host = .reading i) (hchannel : s.channel i = some channel)
    (harrivals : Delivers channel.request channel.closed arrivals) :
    HostStep world s (hostRead s i world (readFrame maxRequestBytes ⟨[], arrivals, late⟩).1).2
      (hostRead s i world (readFrame maxRequestBytes ⟨[], arrivals, late⟩).1).1
  | write (i : ι) (channel : Channel) (rest : Bytes) (count : ℕ) (hhost : s.host = .replying i rest)
    (hchannel : s.channel i = some channel) :
    HostStep world s none (hostWrite s i channel rest count)
  /-- It drops the connection: the peer is another user, or the reply cannot be written. -/
  | drop (i : ι) (hhost : s.host = .reading i ∨ ∃ rest, s.host = .replying i rest) :
    HostStep world s none (s.endConnection i)

/-- **The beginning**: no client has connected, and there is no host. -/
def HostState.begun (desktop : σ) : HostState ι σ V :=
  ⟨fun _ => .preparing, fun _ => none, .down, desktop⟩

end CommandHost

end AgentDesktop
