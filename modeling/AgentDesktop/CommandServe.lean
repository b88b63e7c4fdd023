import AgentDesktop.CommandFrames

/-!
# A command host serves its input line by line

How the bytes of an input are cut into pieces does not matter: the frame that is read is the first
one of the whole input, and what it leaves is the rest. So a host carries out the lines of its
input, each once and in their order, and answers each before it reads on; it stops at the first
frame that is no request, at a reply that cannot be written, and when nothing comes in time.
-/

namespace AgentDesktop

namespace CommandHost

/-! ## One frame

The loop reads through a buffer and sees the input piece by piece. Its turns are described by the
bytes alone: what was taken, followed by what is left, is what was there. Then the frame is the one
of the whole input, wherever it was cut. -/

/-- **What a read of the buffer gives**: it is there, and stays there until it is consumed; it is
nothing only if the other side has closed. -/
structure Fills (input : Input) (available : Bytes) (input' : Input) : Prop where
  /-- Nothing is consumed. -/
  data : input'.data = input.data
  /-- The deadlines of the frames are left alone. -/
  late : input'.late = input.late
  /-- Whether the other side closes does not change. -/
  closes : CommandHost.closes input'.arrivals = CommandHost.closes input.arrivals
  /-- Nothing is given at the end only. -/
  ended : available = [] → input.data = [] ∧ CommandHost.closes input.arrivals = true
  /-- What is given is buffered. -/
  buffer : available ≠ [] → input'.buffer = available

theorem Input.fill_ok {input input' : Input} {available : Bytes}
    (h : input.fill = (.ok available, input')) : Fills input available input' := by
  unfold Input.fill at h
  split_ifs at h with hbuffer
  · cases h
    exact ⟨rfl, rfl, rfl, fun hnil => absurd hnil hbuffer, fun _ => rfl⟩
  · have hempty : input.buffer = [] := not_not.mp hbuffer
    obtain ⟨buffer, arrivals, late⟩ := input
    obtain rfl : buffer = [] := hempty
    cases arrivals with
    | nil => cases h
    | cons arrival rest =>
      cases arrival with
      | failed => cases h
      | silent => cases h
      | received chunk =>
        cases chunk with
        | nil =>
          cases h
          exact ⟨rfl, rfl, rfl, fun _ => ⟨rfl, rfl⟩, fun hne => absurd rfl hne⟩
        | cons byte chunk =>
          cases h
          exact ⟨rfl, rfl, rfl, fun hnil => absurd hnil (List.cons_ne_nil _ _), fun _ => rfl⟩

theorem take_takeCount (limit : ℕ) (bytes available : Bytes) :
    available.take (takeCount limit bytes available)
      = List.frame lineFeed (limit + 1 - bytes.length) available :=
  List.take_findIdx_eq_frame _ available

/-- **A frame is over exactly if it ends in what is there.** -/
theorem frameDone_iff {limit : ℕ} {bytes : Bytes} (hlength : bytes.length ≤ limit)
    {available : Bytes} (havailable : available ≠ []) :
    frameDone limit (bytes ++ List.frame lineFeed (limit + 1 - bytes.length) available) = true
      ↔ List.FrameEnds lineFeed (limit + 1 - bytes.length) available := by
  have hroom : limit + 1 - bytes.length ≠ 0 := by omega
  have hne : List.frame lineFeed (limit + 1 - bytes.length) available ≠ [] :=
    List.frame_ne_nil hroom havailable
  unfold frameDone
  rw [Bool.or_eq_true, beq_iff_eq, decide_eq_true_eq, List.getLast?_append_of_ne_nil _ hne,
    List.length_append]
  constructor
  · intro hdone
    by_contra hends
    obtain ⟨hmem, hshort⟩ := List.notMem_of_not_frameEnds hends
    rw [List.frame_of_notMem hmem hshort.le] at hdone
    rcases hdone with hlast | hlong
    · exact hmem (List.mem_of_getLast? hlast)
    · omega
  · intro hends
    rcases List.getLast?_frame hends with hlast | hfull
    · exact Or.inl hlast
    · exact Or.inr (by omega)

/-- **An input is prompt**: no deadline passes and no read fails before the other side closes. -/
structure Input.Prompt (input : Input) : Prop where
  /-- The other side closes. -/
  closes : closes input.arrivals = true
  /-- No deadline is over when a frame is begun. -/
  inTime : ∀ late ∈ input.late, late = false

theorem Input.Prompt.fill {input : Input} (h : input.Prompt) :
    ∃ available input', input.fill = (.ok available, input') ∧ CommandHost.closes input'.arrivals = true
      ∧ input'.late = input.late := by
  obtain ⟨hcloses, -⟩ := h
  unfold Input.fill
  split_ifs with hbuffer
  · exact ⟨_, _, rfl, hcloses, rfl⟩
  · obtain ⟨buffer, arrivals, late⟩ := input
    cases arrivals with
    | nil => cases hcloses
    | cons arrival rest =>
      cases arrival with
      | failed => cases hcloses
      | silent => cases hcloses
      | received chunk =>
        cases chunk with
        | nil => exact ⟨_, _, rfl, rfl, rfl⟩
        | cons byte chunk => exact ⟨_, _, rfl, hcloses, rfl⟩

/-- **One turn of the loop**: what is taken and what is left are what was there, and the frame of
the whole is what was taken, or is looked for behind it. -/
theorem frame_turn {limit : ℕ} {bytes available : Bytes} (hbytes : lineFeed ∉ bytes)
    (hlength : bytes.length ≤ limit) (havailable : available ≠ []) {taken : Bytes}
    (htaken : taken = List.frame lineFeed (limit + 1 - bytes.length) available) :
    if frameDone limit (bytes ++ taken) then
      ∀ more, List.frame lineFeed (limit + 1) (bytes ++ (available ++ more)) = bytes ++ taken
    else taken = available ∧ lineFeed ∉ bytes ++ taken ∧ (bytes ++ taken).length ≤ limit := by
  subst htaken
  have hdone := frameDone_iff hlength havailable
  split_ifs with hover
  · intro more
    rw [List.frame_append_of_notMem hbytes (hlength.trans (Nat.le_succ _)),
      List.frame_append_of_frameEnds (hdone.mp hover)]
  · obtain ⟨hmem, hshort⟩ := List.notMem_of_not_frameEnds (fun hends => hover (hdone.mpr hends))
    rw [List.frame_of_notMem hmem hshort.le]
    refine ⟨rfl, ?_, ?_⟩
    · rw [List.mem_append]
      exact not_or.mpr ⟨hbytes, hmem⟩
    · rw [List.length_append]
      omega

/-- **What the loop reads** is the first frame of what is there, and it leaves the rest. -/
theorem frameLoop_ok {limit : ℕ} {fuel : ℕ} {bytes frame : Bytes} {input input' : Input}
    (hbytes : lineFeed ∉ bytes) (hlength : bytes.length ≤ limit)
    (h : frameLoop limit fuel bytes input = (.ok frame, input')) :
    frame = List.frame lineFeed (limit + 1) (bytes ++ input.data)
      ∧ bytes ++ input.data = frame ++ input'.data ∧ input'.late = input.late := by
  induction fuel generalizing bytes input with
  | zero => cases h
  | succ fuel ih =>
    unfold frameLoop at h
    cases hfill : input.fill with
    | mk result filled =>
      rw [hfill] at h
      cases result with
      | error error => cases h
      | ok available =>
        obtain ⟨hdata, hlate, -, hnil, hbuffer⟩ := Input.fill_ok hfill
        dsimp only at h
        by_cases havailable : available = []
        · rw [if_pos havailable] at h
          cases h
          rw [hdata, (hnil havailable).1, List.append_nil,
            List.frame_of_notMem hbytes (hlength.trans (Nat.le_succ limit))]
          exact ⟨rfl, rfl, hlate⟩
        · rw [if_neg havailable] at h
          have hsplit : filled.data = available ++ arrivedBytes filled.arrivals := by
            unfold Input.data
            rw [hbuffer havailable]
          have hleft : bytes ++ input.data
              = bytes ++ available.take (takeCount limit bytes available)
                ++ (available.drop (takeCount limit bytes available)
                  ++ arrivedBytes filled.arrivals) := by
            rw [← hdata, hsplit, List.append_assoc, ← List.append_assoc (List.take _ _),
              List.take_append_drop]
          have hturn := frame_turn hbytes hlength havailable (take_takeCount limit bytes available)
          split_ifs at h hturn with hover
          · cases h
            refine ⟨?_, hleft, hlate⟩
            rw [← hdata, hsplit]
            exact (hturn _).symm
          · obtain ⟨-, hnotMem, hshort⟩ := hturn
            have hrest := ih hnotMem hshort h
            refine ⟨?_, ?_, hrest.2.2.trans hlate⟩
            · rw [hleft]
              exact hrest.1
            · rw [hleft]
              exact hrest.2.1

/-- **A prompt input gives a frame**: each turn takes a byte, so there are turns enough. -/
theorem frameLoop_prompt {limit : ℕ} {fuel : ℕ} {bytes : Bytes} {input : Input}
    (hbytes : lineFeed ∉ bytes) (hlength : bytes.length ≤ limit)
    (hfuel : limit + 1 < fuel + bytes.length) (hprompt : input.Prompt) :
    ∃ frame input', frameLoop limit fuel bytes input = (.ok frame, input') ∧ input'.Prompt := by
  induction fuel generalizing bytes input with
  | zero => omega
  | succ fuel ih =>
    obtain ⟨available, filled, hfill, hcloses, hlate⟩ := hprompt.fill
    unfold frameLoop
    rw [hfill]
    dsimp only
    by_cases havailable : available = []
    · rw [if_pos havailable]
      exact ⟨_, _, rfl, hcloses, hlate ▸ hprompt.inTime⟩
    · rw [if_neg havailable]
      have hturn := frame_turn hbytes hlength havailable (take_takeCount limit bytes available)
      split_ifs at hturn ⊢ with hover
      · exact ⟨_, _, rfl, hcloses, hlate ▸ hprompt.inTime⟩
      · obtain ⟨htaken, hnotMem, hshort⟩ := hturn
        refine ih hnotMem hshort ?_ ⟨hcloses, hlate ▸ hprompt.inTime⟩
        have hpositive := List.length_pos_iff.mpr havailable
        rw [List.length_append, htaken]
        omega

/-- **`read_frame` reads the first frame** of what is there, however it arrives, and leaves the
rest. -/
theorem readFrame_ok {limit : ℕ} {input input' : Input} {frame : Bytes}
    (h : readFrame limit input = (.ok frame, input')) :
    frame = List.frame lineFeed (limit + 1) input.data ∧ input.data = frame ++ input'.data := by
  unfold readFrame at h
  split_ifs at h
  · cases h
  · have hloop := frameLoop_ok (List.not_mem_nil) (Nat.zero_le limit) h
    exact ⟨hloop.1, hloop.2.1⟩

theorem readFrame_prompt (limit : ℕ) {input : Input} (hprompt : input.Prompt) :
    ∃ input', readFrame limit input
        = (.ok (List.frame lineFeed (limit + 1) input.data), input') ∧ input'.Prompt := by
  have htail : ({ input with late := input.late.tail } : Input).Prompt :=
    ⟨hprompt.closes, fun late hlate => hprompt.inTime late (List.mem_of_mem_tail hlate)⟩
  have hhead : input.late.headD false = false := by
    cases hlate : input.late with
    | nil => rfl
    | cons late rest => exact hprompt.inTime late (hlate ▸ List.mem_cons_self)
  obtain ⟨frame, input', hframe, hprompt'⟩ :=
    frameLoop_prompt (List.not_mem_nil) (Nat.zero_le limit) (Nat.lt_succ_self (limit + 1)) htail
  have hread : readFrame limit input = (.ok frame, input') := by
    unfold readFrame
    rw [hhead]
    exact hframe
  exact ⟨input', (readFrame_ok hread).1 ▸ hread, hprompt'⟩

/-! ## Serving

The log of a host is an inductive relation with the shape of its loop: a frame that is a request,
its reply, and the rest; or one of the reasons for which the host stops. The theorem that follows
says that there is no other run. -/

/-- **A request**: one line, with its end, that is not too long. -/
def IsRequest (bytes : Bytes) : Prop :=
  bytes.length ≤ maxRequestBytes ∧ ∃ text, lineFeed ∉ text ∧ bytes = text ++ [lineFeed]

/-- **A frame that is neither too long nor without its end is a request.** -/
theorem isRequest_frame {data : Bytes}
    (h : (oversized (List.frame lineFeed (maxRequestBytes + 1) data)
      || incomplete (List.frame lineFeed (maxRequestBytes + 1) data)) = false) :
    IsRequest (List.frame lineFeed (maxRequestBytes + 1) data) := by
  have hinner : lineFeed ∉ (List.frame lineFeed (maxRequestBytes + 1) data).dropLast :=
    List.notMem_dropLast_frame _ data
  generalize List.frame lineFeed (maxRequestBytes + 1) data = frame at h hinner ⊢
  obtain ⟨hlength, hlast⟩ := Bool.or_eq_false_iff.mp h
  have hlast : frame.getLast? = some lineFeed := by simpa [incomplete] using hlast
  refine ⟨not_lt.mp (by simpa [oversized] using hlength), frame.dropLast, hinner, ?_⟩
  obtain ⟨before, rfl⟩ := List.getLast?_eq_some_iff.mp hlast
  rw [List.dropLast_concat]

theorem IsRequest.accepted {bytes : Bytes} (h : IsRequest bytes) :
    (oversized bytes || incomplete bytes) = false := by
  obtain ⟨hlength, text, -, rfl⟩ := h
  unfold oversized incomplete
  rw [List.getLast?_concat, bne_self_eq_false, Bool.or_false, decide_eq_false_iff_not, not_lt]
  exact hlength

/-- **What a host has done** with the bytes of an input: it carried out its lines one by one, and
replied to each before it went on to the next. Only if something failed, or nothing came in time,
did it stop before the end or the first frame that is no request. -/
inductive ServeLog {R : Type} (undisturbed : Prop) : Bytes → List (HostEvent R) → Prop
  /-- There is nothing more. -/
  | ended : ServeLog undisturbed [] []
  /-- It stopped. -/
  | cut (h : ¬undisturbed) (data : Bytes) : ServeLog undisturbed data []
  /-- The next frame is no request: that is replied, and nothing else is done. -/
  | refused {data : Bytes} (written : Bool) (hdata : data ≠ [])
    (hframe : ¬IsRequest (List.frame lineFeed (maxRequestBytes + 1) data)) :
    ServeLog undisturbed data [.replied (.refused frameRefusal) written]
  /-- A request was carried out, and the reply is lost: nothing else is done. -/
  | lost (h : ¬undisturbed) {request rest : Bytes} (response : R) (hrequest : IsRequest request) :
    ServeLog undisturbed (request ++ rest)
      [.dispatched request, .replied (.answered response) false]
  /-- A request was carried out and answered. -/
  | answered {request rest : Bytes} {events : List (HostEvent R)} (response : R)
    (hrequest : IsRequest request) (hrest : ServeLog undisturbed rest events) :
    ServeLog undisturbed (request ++ rest)
      (.dispatched request :: .replied (.answered response) true :: events)

section Serve

variable {σ R : Type} (execute : σ → Bytes → R × σ) (write : σ → HostReply R → Bool × σ)

theorem serveInput_log_of {undisturbed : Prop} (fuel : ℕ) (input : Input) (s : σ)
    (hundisturbed : undisturbed →
      input.Prompt ∧ (∀ s reply, (write s reply).1 = true) ∧ input.data.length < fuel) :
    ServeLog undisturbed input.data (serveInput execute write fuel input s).1 := by
  induction fuel generalizing input s with
  | zero => exact .cut (fun h => absurd (hundisturbed h).2.2 (Nat.not_lt_zero _)) _
  | succ fuel ih =>
    show ServeLog _ _ (serveFrames _ execute write (fuel + 1) input s).1
    unfold serveFrames
    cases hread : readFrame maxRequestBytes input with
    | mk result input' =>
      cases result with
      | error error =>
        refine .cut (fun h => ?_) _
        obtain ⟨_, hframe, -⟩ := readFrame_prompt maxRequestBytes (hundisturbed h).1
        rw [hread] at hframe
        cases hframe
      | ok frame =>
        obtain ⟨hframe, hdata⟩ := readFrame_ok hread
        dsimp only
        by_cases hnil : frame = []
        · rw [if_pos hnil]
          have hempty : input.data = [] := by
            by_contra hne
            exact List.frame_ne_nil (Nat.succ_ne_zero _) hne (hframe.symm.trans hnil)
          rw [hempty]
          exact .ended
        · rw [if_neg hnil]
          by_cases hbad : (oversized frame || incomplete frame) = true
          · rw [if_pos hbad]
            refine .refused _ (fun hempty => hnil ?_) (fun hrequest => ?_)
            · rw [hframe, hempty, List.frame_nil]
            · rw [← hframe] at hrequest
              exact absurd hbad (by simp [hrequest.accepted])
          · rw [if_neg hbad]
            have hrequest : IsRequest frame := by
              rw [hframe]
              refine isRequest_frame ?_
              rw [← hframe]
              exact eq_false_of_ne_true hbad
            rw [hdata]
            split_ifs with hwritten
            · refine .answered _ hrequest (ih input' _ (fun h => ?_))
              obtain ⟨hprompt, hwrite, hfuel⟩ := hundisturbed h
              obtain ⟨input'', hframe', hprompt'⟩ := readFrame_prompt maxRequestBytes hprompt
              rw [hread] at hframe'
              obtain ⟨-, rfl⟩ := Prod.mk.inj hframe'
              refine ⟨hprompt', hwrite, ?_⟩
              rw [hdata, List.length_append] at hfuel
              have hpositive := List.length_pos_iff.mpr hnil
              omega
            · exact .lost (fun h => hwritten ((hundisturbed h).2.1 _ _)) _ hrequest

/-- **A host serves its input line by line**: whatever arrives and however it is cut, whatever the
requests come to and whichever replies cannot be written, it carries out the lines of its input in
their order, each once, and replies to each before the next. If everything arrives in time and all
replies are written, it stops only at the end or at the first frame that is no request. -/
theorem serveInput_log (fuel : ℕ) (input : Input) (s : σ) :
    ServeLog (input.Prompt ∧ (∀ s reply, (write s reply).1 = true) ∧ input.data.length < fuel)
      input.data (serveInput execute write fuel input s).1 :=
  serveInput_log_of execute write fuel input s id

/-- **How the input is cut does not matter**: two inputs of the same bytes that both arrive in time
are served in the same way, with the same requests, the same replies and the same end. -/
theorem serveInput_congr (fuel : ℕ) {input input' : Input} (s : σ) (hprompt : input.Prompt)
    (hprompt' : input'.Prompt) (hdata : input.data = input'.data) :
    serveInput execute write fuel input s = serveInput execute write fuel input' s := by
  induction fuel generalizing input input' s with
  | zero => rfl
  | succ fuel ih =>
    obtain ⟨left, hread, hleft⟩ := readFrame_prompt maxRequestBytes hprompt
    obtain ⟨left', hread', hleft'⟩ := readFrame_prompt maxRequestBytes hprompt'
    have hsplit := (readFrame_ok hread).2
    rw [hdata] at hread hsplit
    have hrest : left.data = left'.data :=
      List.append_cancel_left (hsplit.symm.trans (readFrame_ok hread').2)
    show serveFrames _ execute write (fuel + 1) input s
      = serveFrames _ execute write (fuel + 1) input' s
    unfold serveFrames
    rw [hread, hread']
    dsimp only
    split_ifs
    · rfl
    · rfl
    · rfl
    · have hmore := fun s => ih s hleft hleft' hrest
      unfold serveInput at hmore
      rw [hmore]
    · rfl

end Serve

/-- An input that arrives in pieces. -/
def pieces (chunks : List Bytes) : Input := ⟨[], chunks.map .received ++ [.received []], []⟩

theorem serveInput_congr_pieces :
    serveInput (fun count _ => (count, count + 1)) (fun count (_ : HostReply ℕ) => (true, count)) 9
        (pieces [[91, 93, 10, 91], [93], [10]]) 0
      = serveInput (fun count _ => (count, count + 1))
        (fun count (_ : HostReply ℕ) => (true, count)) 9
        (pieces [[91], [93, 10], [91, 93, 10]]) 0 :=
  serveInput_congr _ _ 9 0 ⟨rfl, fun _ hlate => by cases hlate⟩
    ⟨rfl, fun _ hlate => by cases hlate⟩ rfl

end CommandHost

end AgentDesktop
