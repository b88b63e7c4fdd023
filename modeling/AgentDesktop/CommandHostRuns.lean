import AgentDesktop.CommandHost
import AgentDesktop.CommandServe

/-!
# A forwarded command is carried out at most once

However the steps of any clients and of their host interleave, and wherever they stop, the request
of a client is carried out at most once, and whole. A client that is told what its request came to
is told what its own request came to. A client whose error says that nothing was delivered is
right: its request was not carried out, and never will be.

The argument follows one connection. What the host reads is a part of what the client sent, and
ends with a line feed only if it is all of it; the same holds of the reply. The host takes a
request without its end for refused only if the client has closed the connection, and then the
client reads no reply.
-/

namespace AgentDesktop

namespace CommandHost

variable {ι σ R V : Type}

/-! ## What is read of a line

A request is a line, and its line feed is its last byte. So a host that has read a line feed has
read all of the request, whatever was lost behind it; and a host that has read no line feed cannot
mistake a part of a request for a request. -/

/-- **A part of a line that ends with the line feed is the line.** -/
theorem eq_of_isPrefix_line {text bytes : Bytes} (htext : lineFeed ∉ text)
    (hbegins : bytes <+: text ++ [lineFeed]) (hlast : bytes.getLast? = some lineFeed) :
    bytes = text ++ [lineFeed] := by
  obtain ⟨before, rfl⟩ := List.getLast?_eq_some_iff.mp hlast
  obtain ⟨rest, hrest⟩ := hbegins
  rcases List.eq_nil_or_concat rest with rfl | ⟨rest', byte, rfl⟩
  · rwa [List.append_nil] at hrest
  · -- the line feed would be inside the text
    rw [List.concat_eq_append, ← List.append_assoc] at hrest
    have htext' := (List.append_inj' hrest rfl).1
    refine absurd ?_ htext
    rw [← htext']
    simp

/-- **A frame that is read without its end** comes from a side that has closed. -/
theorem closes_of_frameLoop {limit fuel : ℕ} {bytes frame : Bytes} {input input' : Input}
    (h : frameLoop limit fuel bytes input = (.ok frame, input'))
    (hdone : frameDone limit frame = false) : closes input.arrivals = true := by
  induction fuel generalizing bytes input with
  | zero => cases h
  | succ fuel ih =>
    unfold frameLoop at h
    cases hfill : input.fill with
    | mk result filled =>
      rw [hfill] at h
      cases result with
      | error error => cases h
      | ok available =>
        have hfills := Input.fill_ok hfill
        dsimp only at h
        by_cases havailable : available = []
        · exact (hfills.ended havailable).2
        · rw [if_neg havailable] at h
          split_ifs at h with hover
          · cases h
            rw [hdone] at hover
            cases hover
          · have hrest := ih h
            exact hfills.closes.symm.trans hrest

/-- **What the host makes of a part of a request**: it reads nothing, or all of it, or a part
without its end, which it refuses; and then the client has closed. -/
theorem readFrame_part {text frame : Bytes} {sent : Bytes} {closed : Bool}
    {arrivals : List Arrival} {late : List Bool} {input' : Input} {limit : ℕ}
    (htext : lineFeed ∉ text) (hsize : (text ++ [lineFeed]).length ≤ limit)
    (hsent : sent <+: text ++ [lineFeed]) (harrivals : Delivers sent closed arrivals)
    (h : readFrame limit ⟨[], arrivals, late⟩ = (.ok frame, input')) :
    frame <+: sent ∧ (frame.getLast? = some lineFeed → frame = text ++ [lineFeed]
        ∧ sent = text ++ [lineFeed])
      ∧ frame.length ≤ limit ∧ (frame.getLast? ≠ some lineFeed → closed = true) := by
  have hdata : frame <+: arrivedBytes arrivals := ⟨input'.data, (readFrame_ok h).2.symm⟩
  have hpart : frame <+: sent := hdata.trans harrivals.bytes
  have hlength : frame.length ≤ limit := (hpart.trans hsent).length_le.trans hsize
  refine ⟨hpart, fun hlast => ?_, hlength, fun hlast => ?_⟩
  · have hframe := eq_of_isPrefix_line htext (hpart.trans hsent) hlast
    refine ⟨hframe, hsent.eq_of_length_le ?_⟩
    rw [← hframe]
    exact hpart.length_le
  · refine (harrivals.closes ?_).1
    unfold readFrame at h
    split_ifs at h
    · cases h
    · refine closes_of_frameLoop h ?_
      unfold frameDone
      rw [Bool.or_eq_false_iff, beq_eq_false_iff_ne, decide_eq_false_iff_not, not_lt]
      exact ⟨hlast, hlength⟩

theorem judgeReply_error {world : HostWorld ι σ R V} {result : Except InputError Bytes}
    {error : AppError} (h : judgeReply world result = .error error) :
    ∃ detail, error = replyLost detail := by
  unfold judgeReply at h
  cases result with
  | error _ => exact ⟨_, (Except.error.inj h).symm⟩
  | ok frame =>
    dsimp only at h
    split_ifs at h
    · exact ⟨_, (Except.error.inj h).symm⟩
    · cases hparse : world.parse frame with
      | none =>
        rw [hparse] at h
        exact ⟨_, (Except.error.inj h).symm⟩
      | some value =>
        rw [hparse] at h
        cases h

theorem judgeReply_ok {world : HostWorld ι σ R V} {result : Except InputError Bytes} {value : V}
    (h : judgeReply world result = .ok value) :
    ∃ frame, result = .ok frame ∧ frame.getLast? = some lineFeed
      ∧ world.parse frame = some value := by
  unfold judgeReply at h
  cases result with
  | error _ => cases h
  | ok frame =>
    dsimp only at h
    split_ifs at h with hbad
    cases hparse : world.parse frame with
    | none =>
      rw [hparse] at h
      cases h
    | some parsed =>
      rw [hparse] at h
      exact ⟨frame, rfl, not_not.mp (not_or.mp hbad).1, hparse.trans (congrArg some
        (Except.ok.inj h))⟩

/-! ## What is known of a connection

The invariant says how what was done on a connection depends on what was sent there. It is stated
for the two ends apart, since each of them may stop at any time: a client that is gone has closed
its end, and what the host makes of it is a refusal. -/

/-- **What is known of a connection** and of what was done with it. The request and the reply are
each described by what was sent of them, and by what the side that reads has made of it; the
client, the host and the log are tied to these, and not to one another. -/
structure ChannelInvariant (world : HostWorld ι σ R V) (i : ι) (phase : ClientPhase V)
    (channel : Channel) (host : HostPhase ι) (log : List (Dispatched ι R)) : Prop where
  /-- The request is not too long. -/
  size : (world.payload i).length ≤ maxRequestBytes
  /-- A client that connected prepares no more. -/
  begun : phase ≠ .preparing
  /-- A part of the request was sent. -/
  sent : channel.request <+: world.payload i
  /-- So much of it as the client knows. -/
  sending : ∀ sent, phase = .sending sent → channel.request = (world.payload i).take sent
  /-- All of it, if the client waits. -/
  awaiting : phase = .awaiting → channel.request = world.payload i
  /-- A client that has closed is done. -/
  closed : channel.closed = true → ∃ result, phase = .returned result
  /-- Nothing is done with a connection before it is accepted. -/
  fresh : channel.accepted = false → log = [] ∧ channel.reply = [] ∧ host ≠ .reading i
    ∧ ∀ rest, host ≠ .replying i rest
  /-- Nor before the request is read. -/
  reading : host = .reading i → log = [] ∧ channel.reply = []
  /-- The request is carried out at most once, and then it was sent. -/
  dispatched : log = []
    ∨ channel.request = world.payload i ∧ ∃ response, log = [⟨i, world.payload i, response⟩]
  /-- What is written is what the request came to, unless the client has closed. -/
  replying : ∀ rest, host = .replying i rest → channel.closed = true
    ∨ ∃ response, log = [⟨i, world.payload i, response⟩]
      ∧ channel.reply ++ rest = world.line (.answered response)
  /-- So is what was written. -/
  reply : channel.reply = [] ∨ channel.closed = true
    ∨ ∃ response, log = [⟨i, world.payload i, response⟩]
      ∧ channel.reply <+: world.line (.answered response)
  /-- A client that failed has sent nothing, or says that it does not know. -/
  failed : ∀ error, phase = .returned (.error error) →
    channel.request = [] ∨ ∃ detail, error = replyLost detail
  /-- A client that was answered was answered so. -/
  answered : ∀ value, phase = .returned (.ok value) →
    ∃ response, log = [⟨i, world.payload i, response⟩]
      ∧ world.parse (world.line (.answered response)) = some value

/-- **What is known of a client.** -/
structure ClientInvariant (world : HostWorld ι σ R V) (i : ι) (phase : ClientPhase V)
    (channel : Option Channel) (host : HostPhase ι) (log : List (Dispatched ι R)) : Prop where
  /-- Without a connection, nothing is done. -/
  unconnected : channel = none → log = [] ∧ host ≠ .reading i ∧ (∀ rest, host ≠ .replying i rest)
    ∧ (phase = .preparing ∨ ∃ error, phase = .returned (.error error))
  /-- With one, this is known. -/
  connected : ∀ c ∈ channel, ChannelInvariant world i phase c host log

variable {world : HostWorld ι σ R V} {i : ι} {phase : ClientPhase V} {channel : Option Channel}
  {host host' : HostPhase ι} {log : List (Dispatched ι R)}

theorem ClientInvariant.elsewhere (h : ClientInvariant world i phase channel host log)
    (hreading : host' = .reading i → host = .reading i)
    (hreplying : ∀ rest, host' = .replying i rest → host = .replying i rest) :
    ClientInvariant world i phase channel host' log := by
  refine ⟨fun hnone => ?_, fun c hc => ?_⟩
  · obtain ⟨hlog, hread, hreply, hphase⟩ := h.unconnected hnone
    exact ⟨hlog, fun heq => hread (hreading heq), fun rest heq => hreply rest (hreplying rest heq),
      hphase⟩
  · have hchannel := h.connected c hc
    refine { hchannel with
      fresh := fun hfresh => ?_
      reading := fun heq => hchannel.reading (hreading heq)
      replying := fun rest heq => hchannel.replying rest (hreplying rest heq) }
    obtain ⟨hlog, hempty, hread, hreply⟩ := hchannel.fresh hfresh
    exact ⟨hlog, hempty, fun heq => hread (hreading heq),
      fun rest heq => hreply rest (hreplying rest heq)⟩

theorem ClientInvariant.end_channel (h : ClientInvariant world i phase channel host log) :
    ClientInvariant world i phase
      (channel.map (fun channel => { channel with ended := true })) host log := by
  refine ⟨fun hnone => h.unconnected (Option.map_eq_none_iff.mp hnone), fun c hc => ?_⟩
  obtain ⟨c', hc', rfl⟩ := Option.map_eq_some_iff.mp hc
  have hchannel := h.connected c' hc'
  exact { hchannel with }

theorem ClientInvariant.finish (h : ClientInvariant world i phase channel host log)
    {result : Except AppError V}
    (hfailed : ∀ c ∈ channel, ∀ error, result = .error error →
      c.request = [] ∨ ∃ detail, error = replyLost detail)
    (hanswered : ∀ value, result = .ok value → channel.isSome = true ∧
      ∃ response, log = [⟨i, world.payload i, response⟩]
        ∧ world.parse (world.line (.answered response)) = some value) :
    ClientInvariant world i (.returned result)
      (channel.map (fun channel => { channel with closed := true })) host log := by
  refine ⟨fun hnone => ?_, fun c hc => ?_⟩
  · obtain rfl := Option.map_eq_none_iff.mp hnone
    obtain ⟨hlog, hread, hreply, -⟩ := h.unconnected rfl
    refine ⟨hlog, hread, hreply, Or.inr ?_⟩
    cases result with
    | error error => exact ⟨error, rfl⟩
    | ok value => exact absurd (hanswered value rfl).1 Bool.false_ne_true
  · obtain ⟨c', hc', rfl⟩ := Option.map_eq_some_iff.mp hc
    have hchannel := h.connected c' hc'
    exact { hchannel with
      begun := by simp
      sending := fun _ heq => by cases heq
      awaiting := fun heq => by cases heq
      closed := fun _ => ⟨result, rfl⟩
      replying := fun _ _ => Or.inl rfl
      reply := Or.inr (Or.inl rfl)
      failed := fun error heq => hfailed c' hc' error (ClientPhase.returned.inj heq)
      answered := fun value heq => (hanswered value (ClientPhase.returned.inj heq)).2 }

theorem ClientInvariant.reject (h : ClientInvariant world i .preparing channel host log)
    (error : AppError) : ClientInvariant world i (.returned (.error error)) channel host log := by
  cases channel with
  | none =>
    obtain ⟨hlog, hread, hreply, -⟩ := h.unconnected rfl
    exact ⟨fun _ => ⟨hlog, hread, hreply, Or.inr ⟨error, rfl⟩⟩, fun c hc => by cases hc⟩
  | some c => exact absurd rfl (h.connected c rfl).begun

/-- **A client connects**: nothing is sent, and nothing is done. -/
theorem ClientInvariant.connect (h : ClientInvariant world i .preparing channel host log)
    (hsize : (world.payload i).length ≤ maxRequestBytes) :
    ClientInvariant world i (.sending 0) (some ⟨[], false, [], false, false⟩) host log := by
  cases channel with
  | some c => exact absurd rfl (h.connected c rfl).begun
  | none =>
    obtain ⟨hlog, hread, hreply, -⟩ := h.unconnected rfl
    refine ⟨fun hnone => (by cases hnone), fun c hc => ?_⟩
    obtain rfl := Option.some.inj hc
    exact {
      size := hsize
      begun := by simp
      sent := List.nil_prefix
      sending := fun sent heq => by cases heq; rfl
      awaiting := fun heq => by cases heq
      closed := fun hclosed => by cases hclosed
      fresh := fun _ => ⟨hlog, rfl, hread, hreply⟩
      reading := fun heq => absurd heq hread
      dispatched := Or.inl hlog
      replying := fun rest heq => absurd heq (hreply rest)
      reply := Or.inl rfl
      failed := fun _ heq => by cases heq
      answered := fun _ heq => by cases heq }

theorem ChannelInvariant.client {c : Channel} (h : ChannelInvariant world i phase c host log) :
    ClientInvariant world i phase (some c) host log := by
  refine ⟨fun hnone => (by cases hnone), fun c' hc' => ?_⟩
  obtain rfl := Option.some.inj hc'
  exact h

namespace ChannelInvariant

variable {c : Channel} {rest : Bytes}

theorem open_of_phase (h : ChannelInvariant world i phase c host log)
    (hphase : ∀ result, phase ≠ .returned result) : c.closed = false := by
  cases hclosed : c.closed with
  | false => rfl
  | true =>
    obtain ⟨result, heq⟩ := h.closed hclosed
    exact absurd heq (hphase result)

theorem send {sent : ℕ} (h : ChannelInvariant world i (.sending sent) c host log) (count : ℕ) :
    ChannelInvariant world i (.sending (sent + count))
      { c with request := (world.payload i).take (sent + count) } host log :=
  { h with
    begun := by simp
    sent := List.take_prefix _ _
    sending := fun _ heq => by cases heq; rfl
    awaiting := fun heq => by cases heq
    closed := fun hclosed =>
      absurd hclosed (by simp [h.open_of_phase (fun result => by simp)])
    dispatched := by
      refine h.dispatched.imp_right (fun ⟨hrequest, hresponse⟩ => ⟨?_, hresponse⟩)
      -- all was sent before, so there is no more to send
      rw [h.sending sent rfl] at hrequest
      exact List.take_of_length_le ((List.take_eq_self_iff _).mp hrequest |>.trans
        (Nat.le_add_right _ _))
    failed := fun _ heq => by cases heq
    answered := fun _ heq => by cases heq }

theorem flush {sent : ℕ} (h : ChannelInvariant world i (.sending sent) c host log)
    (hsent : (world.payload i).length ≤ sent) :
    ChannelInvariant world i .awaiting c host log :=
  { h with
    begun := by simp
    sending := fun _ heq => by cases heq
    awaiting := fun _ => (h.sending sent rfl).trans (List.take_of_length_le hsent)
    closed := fun hclosed =>
      absurd hclosed (by simp [h.open_of_phase (fun result => by simp)])
    failed := fun _ heq => by cases heq
    answered := fun _ heq => by cases heq }

theorem accept (h : ChannelInvariant world i phase c host log) (hfresh : c.accepted = false) :
    ChannelInvariant world i phase { c with accepted := true } (.reading i) log :=
  { h with
    fresh := fun haccepted => by cases haccepted
    reading := fun _ => ⟨(h.fresh hfresh).1, (h.fresh hfresh).2.1⟩
    replying := fun _ heq => by cases heq }

/-- **A frame without its end is refused**, and the client has closed. -/
theorem refuse (h : ChannelInvariant world i phase c (.reading i) log) (hclosed : c.closed = true)
    (rest : Bytes) : ChannelInvariant world i phase c (.replying i rest) log :=
  { h with
    fresh := fun hfresh => absurd rfl (h.fresh hfresh).2.2.1
    reading := fun heq => by cases heq
    replying := fun _ _ => Or.inl hclosed }

/-- **A request is carried out**: it was sent, and nothing was done with it before. -/
theorem dispatch (h : ChannelInvariant world i phase c (.reading i) log)
    (hsent : c.request = world.payload i) (response : R) :
    ChannelInvariant world i phase c (.replying i (world.line (.answered response)))
      (log ++ [⟨i, world.payload i, response⟩]) := by
  obtain ⟨rfl, hempty⟩ := h.reading rfl
  exact { h with
    fresh := fun hfresh => absurd rfl (h.fresh hfresh).2.2.1
    reading := fun heq => by cases heq
    dispatched := Or.inr ⟨hsent, response, rfl⟩
    replying := fun _ heq => by
      cases heq
      refine Or.inr ⟨response, rfl, ?_⟩
      rw [hempty, List.nil_append]
    reply := Or.inl hempty
    answered := fun value heq => by
      obtain ⟨_, hlog, -⟩ := h.answered value heq
      cases hlog }

theorem write (h : ChannelInvariant world i phase c (.replying i rest) log) (count : ℕ)
    (hhost : host = .idle ∨ host = .replying i (rest.drop count)) :
    ChannelInvariant world i phase { c with reply := c.reply ++ rest.take count } host log :=
  { h with
    fresh := fun hfresh => absurd rfl ((h.fresh hfresh).2.2.2 rest)
    reading := fun heq => by rcases hhost with rfl | rfl <;> cases heq
    replying := fun rest' heq => by
      rcases hhost with rfl | rfl
      · cases heq
      · cases heq
        refine (h.replying rest rfl).imp_right (fun ⟨response, hlog, hline⟩ => ⟨response, hlog, ?_⟩)
        rw [List.append_assoc, List.take_append_drop]
        exact hline
    reply := by
      refine Or.inr ((h.replying rest rfl).imp_right (fun ⟨response, hlog, hline⟩ =>
        ⟨response, hlog, ⟨rest.drop count, ?_⟩⟩))
      rw [List.append_assoc, List.take_append_drop]
      exact hline }

end ChannelInvariant

/-! ## Runs

A step concerns one client, and the connections of the others are left alone; so the invariant of
all clients is kept by what each step does on its own connection. -/

variable [DecidableEq ι]

/-- What was done for a client. -/
def logOf (i : ι) (events : List (Dispatched ι R)) : List (Dispatched ι R) :=
  events.filter (fun event => event.client = i)

/-- **What is known of all clients.** -/
def HostInvariant (world : HostWorld ι σ R V) (events : List (Dispatched ι R))
    (s : HostState ι σ V) : Prop :=
  ∀ i, ClientInvariant world i (s.phase i) (s.channel i) s.host (logOf i events)

/-- **A step that concerns one client** leaves the others alone. -/
structure Concerns (i : ι) (s s' : HostState ι σ V) : Prop where
  /-- The other clients are where they were. -/
  phase : ∀ other, other ≠ i → s'.phase other = s.phase other
  /-- So are their connections. -/
  channel : ∀ other, other ≠ i → s'.channel other = s.channel other
  /-- The host does not turn to another client. -/
  reading : ∀ other, other ≠ i → s'.host = .reading other → s.host = .reading other
  /-- Nor does it reply to one. -/
  replying : ∀ other, other ≠ i → ∀ rest, s'.host = .replying other rest →
    s.host = .replying other rest

theorem HostInvariant.concerns {events events' : List (Dispatched ι R)} {s s' : HostState ι σ V}
    (h : HostInvariant world events s) (hconcerns : Concerns i s s')
    (hlog : ∀ other, other ≠ i → logOf other events' = logOf other events)
    (hself : ClientInvariant world i (s'.phase i) (s'.channel i) s'.host (logOf i events')) :
    HostInvariant world events' s' := by
  intro other
  by_cases hother : other = i
  · rw [hother]
    exact hself
  · rw [hconcerns.phase other hother, hconcerns.channel other hother, hlog other hother]
    exact (h other).elsewhere (hconcerns.reading other hother) (hconcerns.replying other hother)

theorem concerns_client {s s' : HostState ι σ V} {phase : ClientPhase V}
    {channel : Option Channel} (hphase : s'.phase = Function.update s.phase i phase)
    (hchannel : s'.channel = Function.update s.channel i channel) (hhost : s'.host = s.host) :
    Concerns i s s' := by
  refine ⟨fun other hne => ?_, fun other hne => ?_, fun other _ heq => hhost ▸ heq,
    fun other _ rest heq => hhost ▸ heq⟩
  · rw [hphase, Function.update_of_ne hne]
  · rw [hchannel, Function.update_of_ne hne]

theorem concerns_host {s s' : HostState ι σ V} {channel : Option Channel}
    (hphase : s'.phase = s.phase) (hchannel : s'.channel = Function.update s.channel i channel)
    (hreading : ∀ other, s'.host = .reading other → other = i)
    (hreplying : ∀ other rest, s'.host = .replying other rest → other = i) : Concerns i s s' := by
  refine ⟨fun other _ => by rw [hphase], fun other hne => ?_,
    fun other hne heq => absurd (hreading other heq) hne,
    fun other hne rest heq => absurd (hreplying other rest heq) hne⟩
  rw [hchannel, Function.update_of_ne hne]

namespace HostInvariant

variable {events : List (Dispatched ι R)} {s : HostState ι σ V}

theorem endConnection (h : HostInvariant world events s) (i : ι) :
    HostInvariant world events (s.endConnection i) := by
  refine h.concerns (concerns_host rfl rfl (fun _ heq => by cases heq)
    (fun _ _ heq => by cases heq)) (fun _ _ => rfl) ?_
  show ClientInvariant world i (s.phase i) (Function.update s.channel i _ i) .idle _
  rw [Function.update_self]
  exact (h i).end_channel.elsewhere (fun heq => by cases heq) (fun _ heq => by cases heq)

theorem finish (h : HostInvariant world events s) {result : Except AppError V}
    (hfailed : ∀ c ∈ s.channel i, ∀ error, result = .error error →
      c.request = [] ∨ ∃ detail, error = replyLost detail)
    (hanswered : ∀ value, result = .ok value → (s.channel i).isSome = true ∧
      ∃ response, logOf i events = [⟨i, world.payload i, response⟩]
        ∧ world.parse (world.line (.answered response)) = some value) :
    HostInvariant world events ((s.goTo i (.returned result)).close i) := by
  refine h.concerns (concerns_client rfl rfl rfl) (fun _ _ => rfl) ?_
  show ClientInvariant world i (Function.update s.phase i _ i) (Function.update s.channel i _ i)
    s.host _
  rw [Function.update_self, Function.update_self]
  exact (h i).finish hfailed hanswered

theorem setChannel (h : HostInvariant world events s) {phase : ClientPhase V} {c : Channel}
    (hself : ClientInvariant world i phase (some c) s.host (logOf i events)) :
    HostInvariant world events ((s.goTo i phase).setChannel i c) := by
  refine h.concerns (concerns_client rfl rfl rfl) (fun _ _ => rfl) ?_
  show ClientInvariant world i (Function.update s.phase i _ i) (Function.update s.channel i _ i)
    s.host _
  rw [Function.update_self, Function.update_self]
  exact hself

theorem goTo (h : HostInvariant world events s) {phase : ClientPhase V}
    (hself : ClientInvariant world i phase (s.channel i) s.host (logOf i events)) :
    HostInvariant world events (s.goTo i phase) := by
  refine h.concerns (concerns_client rfl (Function.update_eq_self i s.channel).symm rfl)
    (fun _ _ => rfl) ?_
  show ClientInvariant world i (Function.update s.phase i _ i) (s.channel i) s.host _
  rw [Function.update_self]
  exact hself

theorem connected (h : HostInvariant world events s) {c : Channel} (hc : s.channel i = some c) :
    ChannelInvariant world i (s.phase i) c s.host (logOf i events) := (h i).connected c hc

/-- **The host reads a request**: it drops the connection, refuses what the client has cut, or
carries out the request of the client. -/
theorem hostRead (h : HostInvariant world events s) {c : Channel} {arrivals : List Arrival}
    {late : List Bool} (hhost : s.host = .reading i) (hc : s.channel i = some c)
    (harrivals : Delivers c.request c.closed arrivals) :
    HostInvariant world
      (events ++ (hostRead s i world
        (readFrame maxRequestBytes ⟨[], arrivals, late⟩).1).2.toList)
      (hostRead s i world (readFrame maxRequestBytes ⟨[], arrivals, late⟩).1).1 := by
  have hchannel := h.connected hc
  rw [hhost] at hchannel
  have hsame : (Function.update s.channel i (s.channel i)) = s.channel :=
    Function.update_eq_self i s.channel
  cases hread : readFrame maxRequestBytes ⟨[], arrivals, late⟩ with
  | mk result input' =>
    unfold CommandHost.hostRead
    cases result with
    | error error =>
      rw [Option.toList_none, List.append_nil]
      exact h.endConnection i
    | ok frame =>
      dsimp only
      by_cases hnil : frame = []
      · rw [if_pos hnil, Option.toList_none, List.append_nil]
        exact h.endConnection i
      · rw [if_neg hnil]
        obtain ⟨-, hwhole, hlength, hcut⟩ := readFrame_part (world.request_feed i) hchannel.size
          hchannel.sent harrivals hread
        by_cases hbad : (oversized frame || incomplete frame) = true
        · rw [if_pos hbad, Option.toList_none, List.append_nil]
          have hlast : frame.getLast? ≠ some lineFeed := by
            unfold oversized incomplete at hbad
            rw [decide_eq_false (not_lt.mpr hlength), Bool.false_or] at hbad
            exact bne_iff_ne.mp hbad
          refine h.concerns (concerns_host rfl hsame.symm
            (fun _ heq => by cases heq) (fun _ _ heq => by cases heq; rfl)) (fun _ _ => rfl) ?_
          show ClientInvariant world i (s.phase i) (s.channel i) (.replying i _) _
          rw [hc]
          exact (hchannel.refuse (hcut hlast) _).client
        · rw [if_neg hbad]
          have hlast : frame.getLast? = some lineFeed := by
            unfold incomplete at hbad
            rw [Bool.or_eq_true, not_or] at hbad
            simpa using hbad.2
          obtain ⟨rfl, hsent⟩ := hwhole hlast
          refine h.concerns (concerns_host rfl hsame.symm
            (fun _ heq => by cases heq) (fun _ _ heq => by cases heq; rfl)) (fun other hne => ?_) ?_
          · unfold logOf
            rw [List.filter_append, Option.toList_some, List.filter_cons_of_neg
              (by simpa using hne.symm), List.filter_nil, List.append_nil]
          · show ClientInvariant world i (s.phase i) (s.channel i) (.replying i _)
              (logOf i (events ++ [_]))
            rw [hc]
            unfold logOf
            rw [List.filter_append, List.filter_cons_of_pos (by simp), List.filter_nil]
            exact (hchannel.dispatch hsent _).client

theorem hostWrite (h : HostInvariant world events s) {c : Channel} {rest : Bytes}
    (hhost : s.host = .replying i rest) (hc : s.channel i = some c) (count : ℕ) :
    HostInvariant world events (hostWrite s i c rest count) := by
  have hchannel := h.connected hc
  rw [hhost] at hchannel
  unfold CommandHost.hostWrite
  dsimp only
  split_ifs
  · refine h.concerns (concerns_host rfl (Function.update_idem ..) (fun _ heq => by cases heq)
      (fun _ _ heq => by cases heq)) (fun _ _ => rfl) ?_
    show ClientInvariant world i (s.phase i)
      (Function.update (Function.update s.channel i _) i _ i) .idle _
    rw [Function.update_self]
    show ClientInvariant world i (s.phase i) ((Function.update s.channel i _ i).map _) .idle _
    rw [Function.update_self]
    exact (hchannel.write count (Or.inl rfl)).client.end_channel
  · refine h.concerns (concerns_host rfl rfl (fun _ heq => by cases heq)
      (fun _ _ heq => by cases heq; rfl)) (fun _ _ => rfl) ?_
    show ClientInvariant world i (s.phase i) (Function.update s.channel i _ i) (.replying i _) _
    rw [Function.update_self]
    exact (hchannel.write count (Or.inr rfl)).client

/-- **A client reads a reply**: what it makes of it is what its request came to. -/
theorem receive (h : HostInvariant world events s) {c : Channel} {arrivals : List Arrival}
    {late : List Bool} (hphase : s.phase i = .awaiting) (hc : s.channel i = some c)
    (harrivals : Delivers c.reply c.ended arrivals) :
    HostInvariant world events ((s.goTo i (.returned (judgeReply world
      (readFrame maxReplyBytes ⟨[], arrivals, late⟩).1))).close i) := by
  have hchannel := h.connected hc
  rw [hphase] at hchannel
  have hopen := hchannel.open_of_phase (fun result => by simp)
  refine h.finish (fun _ _ error herror => Or.inr (judgeReply_error herror))
    (fun value hvalue => ⟨by rw [hc]; rfl, ?_⟩)
  obtain ⟨frame, hframe, hlast, hparse⟩ := judgeReply_ok hvalue
  obtain ⟨input', hread⟩ : ∃ input', readFrame maxReplyBytes ⟨[], arrivals, late⟩
      = (.ok frame, input') := ⟨_, Prod.ext hframe rfl⟩
  have hpart : frame <+: c.reply :=
    List.IsPrefix.trans ⟨input'.data, (readFrame_ok hread).2.symm⟩ harrivals.bytes
  rcases hchannel.reply with hempty | hclosed | ⟨response, hlog, hline⟩
  · rw [hempty, List.prefix_nil] at hpart
    rw [hpart] at hlast
    cases hlast
  · rw [hopen] at hclosed
    cases hclosed
  · refine ⟨response, hlog, ?_⟩
    have hwhole := eq_of_isPrefix_line (world.render_feed _) (hpart.trans hline) hlast
    unfold HostWorld.line
    rw [← hwhole]
    exact hparse

theorem step (h : HostInvariant world events s) {event : Option (Dispatched ι R)}
    {s' : HostState ι σ V} (hstep : HostStep world s event s') :
    HostInvariant world (events ++ event.toList) s' := by
  cases hstep with
  | read i c arrivals late hhost hc harrivals => exact h.hostRead hhost hc harrivals
  | reject i error hphase =>
    rw [Option.toList_none, List.append_nil]
    refine h.goTo ?_
    have hself := h i
    rw [hphase] at hself
    exact hself.reject error
  | connect i hphase hsize =>
    rw [Option.toList_none, List.append_nil]
    refine h.setChannel ?_
    have hself := h i
    rw [hphase] at hself
    exact hself.connect hsize
  | expire i error hphase =>
    rw [Option.toList_none, List.append_nil]
    refine h.finish (fun c hc error' _ => Or.inl ?_) (fun value heq => by cases heq)
    have hchannel := h.connected hc
    exact hchannel.sending 0 hphase
  | send i sent count c hphase hc =>
    rw [Option.toList_none, List.append_nil]
    refine h.setChannel ?_
    have hchannel := h.connected hc
    rw [hphase] at hchannel
    exact (hchannel.send count).client
  | flush i sent hphase hsent =>
    rw [Option.toList_none, List.append_nil]
    refine h.goTo ?_
    cases hc : s.channel i with
    | none =>
      obtain ⟨-, -, -, hbefore⟩ := (h i).unconnected hc
      rw [hphase] at hbefore
      rcases hbefore with heq | ⟨_, heq⟩ <;> cases heq
    | some c =>
      have hchannel := h.connected hc
      rw [hphase] at hchannel
      exact (hchannel.flush hsent).client
  | giveUp i detail hphase =>
    rw [Option.toList_none, List.append_nil]
    exact h.finish (fun c hc error herror => Or.inr ⟨detail, (Except.error.inj herror).symm⟩)
      (fun value heq => by cases heq)
  | receive i c arrivals late hphase hc harrivals =>
    rw [Option.toList_none, List.append_nil]
    exact h.receive hphase hc harrivals
  | start hhost =>
    rw [Option.toList_none, List.append_nil]
    exact fun i => (h i).elsewhere (fun heq => by cases heq) (fun _ heq => by cases heq)
  | stop =>
    rw [Option.toList_none, List.append_nil]
    exact fun i => (h i).end_channel.elsewhere (fun heq => by cases heq)
      (fun _ heq => by cases heq)
  | accept i c hhost hc hfresh hopen =>
    rw [Option.toList_none, List.append_nil]
    refine h.concerns (concerns_host rfl rfl (fun _ heq => by cases heq; rfl)
      (fun _ _ heq => by cases heq)) (fun _ _ => rfl) ?_
    show ClientInvariant world i (s.phase i) (Function.update s.channel i _ i) (.reading i) _
    rw [Function.update_self]
    exact ((h.connected hc).accept hfresh).client
  | write i c rest count hhost hc =>
    rw [Option.toList_none, List.append_nil]
    exact h.hostWrite hhost hc count
  | drop i hhost =>
    rw [Option.toList_none, List.append_nil]
    exact h.endConnection i

end HostInvariant

/-- **At the beginning** nothing was done for anyone. -/
theorem hostInvariant_begun (world : HostWorld ι σ R V) (desktop : σ) :
    HostInvariant world [] (HostState.begun desktop) := by
  intro i
  refine ⟨fun _ => ⟨rfl, fun heq => ?_, fun _ heq => ?_, Or.inl rfl⟩, fun c hc => by cases hc⟩
  · cases heq
  · cases heq

/-- **A forwarded command is carried out at most once**, and whole: in every run of any clients
and their host, whatever is lost and wherever they stop. -/
theorem dispatched_at_most_once {desktop : σ} {events : List (Dispatched ι R)}
    {s : HostState ι σ V} (h : Runs (HostStep world) (.begun desktop) events s) (i : ι) :
    logOf i events = []
      ∨ ∃ response, logOf i events = [⟨i, world.payload i, response⟩] := by
  have hinvariant : HostInvariant world events s :=
    h.account (hostInvariant_begun world desktop) (fun _ _ _ _ hkept hstep => hkept.step hstep)
  cases hc : s.channel i with
  | none => exact Or.inl ((hinvariant i).unconnected hc).1
  | some c => exact (hinvariant.connected hc).dispatched.imp_right And.right

/-- **What a client is told is true**: a value is what its own request came to, and an error that
says that nothing was delivered comes from a client whose request was not carried out. -/
theorem returned_truthful {desktop : σ} {events : List (Dispatched ι R)} {s : HostState ι σ V}
    (h : Runs (HostStep world) (.begun desktop) events s) {i : ι} {result : Except AppError V}
    (hresult : s.phase i = .returned result) :
    (∀ value, result = .ok value → ∃ response, logOf i events = [⟨i, world.payload i, response⟩]
        ∧ world.parse (world.line (.answered response)) = some value)
      ∧ ∀ error : AdapterError, result = .error (.adapter error) →
        error.disposition = .notDelivered → logOf i events = [] := by
  have hinvariant : HostInvariant world events s :=
    h.account (hostInvariant_begun world desktop) (fun _ _ _ _ hkept hstep => hkept.step hstep)
  cases hc : s.channel i with
  | none =>
    obtain ⟨hlog, -, -, hphase⟩ := (hinvariant i).unconnected hc
    refine ⟨fun value hvalue => ?_, fun _ _ _ => hlog⟩
    rw [hresult, hvalue] at hphase
    rcases hphase with heq | ⟨_, heq⟩ <;> cases heq
  | some c =>
    have hchannel := hinvariant.connected hc
    refine ⟨fun value hvalue => hchannel.answered value (hvalue ▸ hresult),
      fun error herror hdisposition => ?_⟩
    rcases hchannel.failed _ (herror ▸ hresult) with hunsent | ⟨detail, hlost⟩
    · refine hchannel.dispatched.resolve_right (fun hdone => ?_)
      have hsent := hdone.1
      rw [hunsent] at hsent
      exact List.cons_ne_nil _ _ (List.append_eq_nil_iff.mp hsent.symm).2
    · obtain rfl := AppError.adapter.inj hlost
      cases hdisposition

/-- Commands that count how many there were; the clients ask for different ones. -/
def counting : HostWorld ℕ ℕ ℕ Bytes where
  request := fun i => if i = 0 then [91, 93] else [91, 49, 93]
  request_feed := fun i => by split_ifs <;> decide
  execute := fun count _ => (count, count + 1)
  render := fun _ => [123, 125]
  render_feed := fun _ => by decide
  parse := fun frame => some frame

/-- What the host carries out for two clients. -/
def dispatchedTwo : List (Dispatched ℕ ℕ) := [⟨0, [91, 93, 10], 0⟩, ⟨1, [91, 49, 93, 10], 1⟩]

/-- Two clients share a host. The first is answered; the host stops when it has carried out the
command of the second and not answered it yet. -/
theorem exists_answered : ∃ s : HostState ℕ ℕ Bytes,
    Runs (HostStep counting) (.begun 0) dispatchedTwo s
      ∧ s.phase 0 = .returned (.ok [123, 125, 10])
      ∧ s.phase 1 = .returned (.error (replyLost "connection closed")) := by
  have hstarted : Runs (HostStep counting) (HostState.begun (V := Bytes) 0) []
      { HostState.begun 0 with host := .idle } := Runs.refl.snoc (HostStep.start rfl)
  -- both connect and send, in turns
  have hsent := ((((hstarted.snoc (HostStep.connect 0 rfl (by decide))).snoc
    (HostStep.send 0 0 2 ⟨[], false, [], false, false⟩ rfl rfl)).snoc
    (HostStep.connect 1 rfl (by decide))).snoc
    (HostStep.send 1 0 4 ⟨[], false, [], false, false⟩ rfl rfl)).snoc
    (HostStep.send 0 2 1 ⟨[91, 93], false, [], false, false⟩ rfl rfl)
  have hread := ((hsent.snoc (HostStep.flush 0 3 rfl (by decide))).snoc
    (HostStep.accept 0 ⟨[91, 93, 10], false, [], false, false⟩ rfl rfl rfl rfl)).snoc
    (HostStep.read 0 ⟨[91, 93, 10], false, [], false, true⟩ [.received [91], .received [93, 10]] []
      rfl rfl ⟨⟨[], rfl⟩, fun h => by cases h⟩)
  have hdone := (hread.snoc (HostStep.write 0 ⟨[91, 93, 10], false, [], false, true⟩
    [123, 125, 10] 3 rfl rfl)).snoc
    (HostStep.receive 0 ⟨[91, 93, 10], false, [123, 125, 10], true, true⟩
      [.received [123], .received [125, 10]] [] rfl rfl ⟨⟨[], rfl⟩, fun h => by cases h⟩)
  have hsecond := ((hdone.snoc (HostStep.flush 1 4 rfl (by decide))).snoc
    (HostStep.accept 1 ⟨[91, 49, 93, 10], false, [], false, false⟩ rfl rfl rfl rfl)).snoc
    (HostStep.read 1 ⟨[91, 49, 93, 10], false, [], false, true⟩ [.received [91, 49, 93, 10]] []
      rfl rfl ⟨⟨[], rfl⟩, fun h => by cases h⟩)
  have hlost := (hsecond.snoc HostStep.stop).snoc
    (HostStep.giveUp 1 "connection closed" (Or.inl rfl))
  exact ⟨_, hlost, rfl, rfl⟩

theorem dispatched_at_most_once_answered :
    (∃ response, logOf 0 dispatchedTwo = [⟨0, counting.payload 0, response⟩])
      ∧ ∃ response, logOf 1 dispatchedTwo = [⟨1, counting.payload 1, response⟩] := by
  obtain ⟨s, hrun, -⟩ := exists_answered
  exact ⟨(dispatched_at_most_once hrun 0).resolve_left (by decide),
    (dispatched_at_most_once hrun 1).resolve_left (by decide)⟩

theorem returned_truthful_answered :
    (∃ response, logOf 0 dispatchedTwo = [⟨0, counting.payload 0, response⟩]
        ∧ counting.parse (counting.line (.answered response)) = some [123, 125, 10])
      ∧ ∃ error : AdapterError, replyLost "connection closed" = .adapter error
        ∧ error.disposition ≠ .notDelivered := by
  obtain ⟨s, hrun, hanswered, hlost⟩ := exists_answered
  refine ⟨(returned_truthful hrun hanswered).1 [123, 125, 10] rfl, _, rfl, fun hdisposition => ?_⟩
  -- the second command was carried out, so its client is not told otherwise
  exact absurd ((returned_truthful hrun hlost).2 _ rfl hdisposition) (by decide)

end CommandHost

end AgentDesktop
