import AgentDesktop.Session
import AgentDesktop.Util.Except
import AgentDesktop.Util.Runs

/-!
# Sessions that are changed at once

Ending a session and changing its cursor both read the manifest, and later replace
the whole file by what they made of their copy. No lock is held from the read to
the write, so the file may have been replaced in between: a change of the cursor
that read before an end writes the session back to life, and an end that read
before a change of the cursor undoes it.

Both happen only when the copy has been overtaken. When each write finds what its
copy relies on – a change of the cursor a session that has not ended, an end the
cursor it has read – an ended session stays ended until it is collected, and a
change of the cursor stays until the next one.
-/

namespace AgentDesktop

/-! ## Operations and their steps

An operation is two steps, a read and a write, with anything in between. Neither is undone by a
failure: a write that fails may have replaced the file, and the operation then returns an error
although it took effect. -/

/-- An operation on a session. -/
inductive SessionOp
  | setCursorOverlay (sessionId : String) (config : CursorOverlayConfig)
  | endSession (sessionId : String)
  | startSession (options : StartSessionOptions)

/-- The session an operation is given. -/
def SessionOp.sessionId : SessionOp → Option String
  | setCursorOverlay sessionId _ | endSession sessionId => some sessionId
  | startSession _ => none

/-- Where an operation is. -/
inductive SessionPhase
  /-- It has not begun. -/
  | idle
  /-- It is about to read the manifest. -/
  | reading (op : SessionOp)
  /-- It is about to write this manifest. -/
  | writing (op : SessionOp) (manifest : SessionManifest)
  /-- It is about to return this manifest. -/
  | returning (op : SessionOp) (manifest : SessionManifest)
  /-- It has returned. -/
  | succeeded (op : SessionOp) (manifest : SessionManifest)
  | failed (op : SessionOp)

/-- What happens to the manifests. -/
inductive SessionEvent (ι : Type)
  /-- An operation has replaced the file of a manifest. -/
  | wrote (party : ι) (op : SessionOp) (manifest : SessionManifest)
  /-- An end has found that the session has ended already. -/
  | found (party : ι) (op : SessionOp) (manifest : SessionManifest)
  /-- An operation has returned success. -/
  | returned (party : ι) (op : SessionOp) (manifest : SessionManifest)
  /-- `gc` has removed a session. -/
  | collected (sessionId : String)

/-- The manifests on disk, and where each operation is. The ids that have been given out are
recorded because they are not given out again. -/
structure Sessions (ι : Type) where
  files : String → Option SessionManifest
  /-- The operations. -/
  phase : ι → SessionPhase
  issued : List String

variable {ι : Type}

/-- Nothing has been started. -/
def Sessions.empty : Sessions ι := ⟨fun _ => none, fun _ => .idle, []⟩

section

variable [DecidableEq ι]

/-- An operation goes on. -/
def Sessions.withPhase (s : Sessions ι) (party : ι) (phase : SessionPhase) : Sessions ι :=
  { s with phase := Function.update s.phase party phase }

/-- A file is replaced or removed. -/
def Sessions.withFile (s : Sessions ι) (sessionId : String) (file : Option SessionManifest) :
    Sessions ι :=
  { s with files := Function.update s.files sessionId file }

@[simp] theorem Sessions.files_withPhase (s : Sessions ι) (party : ι) (phase : SessionPhase) :
    (s.withPhase party phase).files = s.files := rfl

@[simp] theorem Sessions.phase_withPhase (s : Sessions ι) (party : ι) (phase : SessionPhase) :
    (s.withPhase party phase).phase = Function.update s.phase party phase := rfl

omit [DecidableEq ι] in
@[simp] theorem Sessions.files_withFile (s : Sessions ι) (sessionId : String)
    (file : Option SessionManifest) :
    (s.withFile sessionId file).files = Function.update s.files sessionId file := rfl

omit [DecidableEq ι] in
@[simp] theorem Sessions.phase_withFile (s : Sessions ι) (sessionId : String)
    (file : Option SessionManifest) : (s.withFile sessionId file).phase = s.phase := rfl

/-- **A step of an operation**, or of `gc`. A read is of the file as it is; whatever fails before
the file is replaced changes nothing, and a write can fail after it has. An operation that
crashes takes no more steps. -/
inductive SessionStep : Sessions ι → Option (SessionEvent ι) → Sessions ι → Prop
  /-- An operation begins. -/
  | begin {s : Sessions ι} {party : ι} (op : SessionOp) (hidle : s.phase party = .idle) :
    SessionStep s none (s.withPhase party (.reading op))
  /-- It fails before it has anything to write. -/
  | refuse {s : Sessions ι} {party : ι} {op : SessionOp} (hreading : s.phase party = .reading op) :
    SessionStep s none (s.withPhase party (.failed op))
  /-- `set_cursor_overlay` reads the manifest. -/
  | readForOverlay {s : Sessions ι} {party : ι} {sessionId : String}
    {config : CursorOverlayConfig} {manifest : SessionManifest}
    (hreading : s.phase party = .reading (.setCursorOverlay sessionId config))
    (hupdate : cursorOverlayUpdate sessionId config (s.files sessionId) = .ok manifest) :
    SessionStep s none
      (s.withPhase party (.writing (.setCursorOverlay sessionId config) manifest))
  /-- `end_session` reads the manifest. -/
  | readForEnd {s : Sessions ι} {party : ι} {sessionId : String} {nowMillis : ℕ}
    {manifest : SessionManifest} (hreading : s.phase party = .reading (.endSession sessionId))
    (hupdate : endUpdate sessionId nowMillis (s.files sessionId) = .ok (manifest, true)) :
    SessionStep s none (s.withPhase party (.writing (.endSession sessionId) manifest))
  /-- `end_session` finds that the session has ended. -/
  | readEnded {s : Sessions ι} {party : ι} {sessionId : String} {nowMillis : ℕ}
    {manifest : SessionManifest} (hreading : s.phase party = .reading (.endSession sessionId))
    (hupdate : endUpdate sessionId nowMillis (s.files sessionId) = .ok (manifest, false)) :
    SessionStep s (some (.found party (.endSession sessionId) manifest))
      (s.withPhase party (.returning (.endSession sessionId) manifest))
  /-- `start_session` makes a manifest under a new id. -/
  | prepareStart {s : Sessions ι} {party : ι} {options : StartSessionOptions} {id : String}
    {nowMillis : ℕ} {manifest : SessionManifest}
    (hreading : s.phase party = .reading (.startSession options)) (hnew : id ∉ s.issued)
    (hstart : startManifest options id nowMillis = .ok manifest) :
    SessionStep s none { s.withPhase party (.writing (.startSession options) manifest) with
      issued := id :: s.issued }
  /-- `write_manifest` replaces the file, and may fail after that. -/
  | write {s : Sessions ι} {party : ι} {op : SessionOp} {manifest : SessionManifest}
    (answered : Bool) (hwriting : s.phase party = .writing op manifest)
    (hid : validateSessionId manifest.id = .ok ()) :
    SessionStep s (some (.wrote party op manifest))
      ((s.withFile manifest.id (some manifest.stored)).withPhase party
        (if answered then .returning op manifest else .failed op))
  /-- `write_manifest` fails with the file as it was. -/
  | writeFails {s : Sessions ι} {party : ι} {op : SessionOp} {manifest : SessionManifest}
    (hwriting : s.phase party = .writing op manifest) :
    SessionStep s none (s.withPhase party (.failed op))
  /-- An operation returns. -/
  | finish {s : Sessions ι} {party : ι} {op : SessionOp} {manifest : SessionManifest}
    (hreturning : s.phase party = .returning op manifest) :
    SessionStep s (some (.returned party op manifest))
      (s.withPhase party (.succeeded op manifest))
  /-- `gc` removes a session. -/
  | collect {s : Sessions ι} (sessionId : String) :
    SessionStep s (some (.collected sessionId)) (s.withFile sessionId none)

end

/-! ## Events -/

namespace SessionEvent

/-- The session ends with the event, or is found ended. -/
def Ends (party : ι) (sessionId : String) : SessionEvent ι → Prop
  | wrote party' (.endSession sessionId') _ | found party' (.endSession sessionId') _ =>
    party' = party ∧ sessionId' = sessionId
  | _ => False

/-- The cursor of the session is changed. -/
def SetsOverlay (sessionId : String) : SessionEvent ι → Prop
  | wrote _ (.setCursorOverlay sessionId' _) _ => sessionId' = sessionId
  | _ => False

end SessionEvent

/-- **A write is timely** when the file still is what the copy relies on: a change of the cursor
finds the session not ended, and an end finds the cursor that it writes back. -/
def Timely (files : String → Option SessionManifest) : SessionEvent ι → Prop
  | .wrote _ (.setCursorOverlay _ _) manifest =>
    ∀ current, files manifest.id = some current → current.endedAt = none
  | .wrote _ (.endSession _) manifest =>
    ∀ current, files manifest.id = some current →
      current.cursorOverlay = manifest.stored.cursorOverlay
  | _ => True

/-- A step whose write, if it is one, is timely. -/
def TimelyStep [DecidableEq ι] (s : Sessions ι) (event : Option (SessionEvent ι))
    (s' : Sessions ι) : Prop :=
  SessionStep s event s' ∧ ∀ e ∈ event, Timely s.files e

/-! ## What holds in every state

Nothing here depends on the order of the writes: an operation writes the manifest of its own
session, and a new session gets an id that was never given out. -/

/-- **The invariant** of the manifests: each is under its own id, and what an operation is about
to write is the manifest of its session. -/
structure Sessions.Consistent (s : Sessions ι) : Prop where
  /-- A manifest is under its id. -/
  named : ∀ sessionId manifest, s.files sessionId = some manifest → manifest.id = sessionId
  /-- Its id has been given out. -/
  known : ∀ sessionId manifest, s.files sessionId = some manifest → sessionId ∈ s.issued
  /-- So has that of a manifest that is about to be written. -/
  pending : ∀ party op manifest, s.phase party = .writing op manifest → manifest.id ∈ s.issued
  /-- It is the manifest of the session of the operation. -/
  target : ∀ party op manifest, s.phase party = .writing op manifest →
    ∀ sessionId ∈ op.sessionId, manifest.id = sessionId
  /-- An end writes a session that has ended. -/
  ending : ∀ party sessionId manifest,
    s.phase party = .writing (.endSession sessionId) manifest → manifest.isEnded
  /-- A session that is being started has no manifest, and no other operation has one for it. -/
  starting : ∀ party options manifest,
    s.phase party = .writing (.startSession options) manifest →
      s.files manifest.id = none
        ∧ ∀ other op manifest', s.phase other = .writing op manifest' →
          manifest'.id = manifest.id → other = party

namespace Sessions.Consistent

variable [DecidableEq ι] {s s' : Sessions ι}

omit [DecidableEq ι] in
theorem empty : (Sessions.empty : Sessions ι).Consistent := by
  constructor <;> simp [Sessions.empty]

theorem writing_cases {party other : ι} {phase : SessionPhase} {op : SessionOp}
    {manifest : SessionManifest}
    (h : (s.withPhase party phase).phase other = .writing op manifest) :
    (other = party ∧ phase = .writing op manifest)
      ∨ (other ≠ party ∧ s.phase other = .writing op manifest) := by
  unfold Sessions.withPhase at h
  by_cases heq : other = party
  · subst heq
    exact .inl ⟨rfl, by simpa using h⟩
  · exact .inr ⟨heq, by simpa [heq] using h⟩

/-- **An operation that does not get to write** keeps the invariant. -/
theorem leave (h : s.Consistent) (party : ι) {phase : SessionPhase}
    (hphase : ∀ op manifest, phase ≠ .writing op manifest) :
    (s.withPhase party phase).Consistent := by
  have hwriting : ∀ other op manifest, (s.withPhase party phase).phase other
      = .writing op manifest → s.phase other = .writing op manifest := by
    intro other op manifest hother
    rcases writing_cases hother with ⟨-, heq⟩ | ⟨-, hother⟩
    · exact absurd heq (hphase op manifest)
    · exact hother
  exact ⟨h.named, h.known, fun other op manifest ho => h.pending other op manifest
    (hwriting _ _ _ ho), fun other op manifest ho => h.target other op manifest
    (hwriting _ _ _ ho), fun other id manifest ho => h.ending other id manifest
    (hwriting _ _ _ ho), fun other options manifest ho =>
      ⟨(h.starting other options manifest (hwriting _ _ _ ho)).1,
        fun third op manifest' ht => (h.starting other options manifest
          (hwriting _ _ _ ho)).2 third op manifest' (hwriting _ _ _ ht)⟩⟩

/-- **An operation that has read its manifest** keeps the invariant. -/
theorem join (h : s.Consistent) {party : ι} {op : SessionOp} {sessionId : String}
    {read manifest : SessionManifest} (hop : op.sessionId = some sessionId)
    (hread : s.files sessionId = some read) (hid : manifest.id = read.id)
    (hended : ∀ id, op = .endSession id → manifest.isEnded) :
    (s.withPhase party (.writing op manifest)).Consistent := by
  have hsession : manifest.id = sessionId := hid.trans (h.named _ _ hread)
  have hpresent : s.files manifest.id ≠ none := by rw [hsession, hread]; exact nofun
  refine ⟨h.named, h.known, fun other op' manifest' ho => ?_, fun other op' manifest' ho => ?_,
    fun other id manifest' ho => ?_, fun other options manifest' ho => ?_⟩
  · rcases writing_cases ho with ⟨-, heq⟩ | ⟨-, ho⟩
    · obtain ⟨-, rfl⟩ := SessionPhase.writing.inj heq
      rw [hsession]
      exact h.known _ _ hread
    · exact h.pending _ _ _ ho
  · rcases writing_cases ho with ⟨-, heq⟩ | ⟨-, ho⟩
    · obtain ⟨rfl, rfl⟩ := SessionPhase.writing.inj heq
      intro id hmem
      rw [hsession]
      exact Option.some.inj (hop.symm.trans hmem)
    · exact h.target _ _ _ ho
  · rcases writing_cases ho with ⟨-, heq⟩ | ⟨-, ho⟩
    · obtain ⟨hop', rfl⟩ := SessionPhase.writing.inj heq
      exact hended id hop'
    · exact h.ending _ _ _ ho
  · rcases writing_cases ho with ⟨-, heq⟩ | ⟨-, ho⟩
    · obtain ⟨rfl, -⟩ := SessionPhase.writing.inj heq
      nomatch hop
    · obtain ⟨habsent, halone⟩ := h.starting _ _ _ ho
      refine ⟨habsent, fun third op' manifest'' ht heq' => ?_⟩
      rcases writing_cases ht with ⟨-, heq⟩ | ⟨-, ht⟩
      · obtain ⟨-, rfl⟩ := SessionPhase.writing.inj heq
        rw [heq'] at hpresent
        exact absurd habsent hpresent
      · exact halone third op' manifest'' ht heq'

theorem write (h : s.Consistent) {party : ι} {op : SessionOp} {manifest : SessionManifest}
    (hwriting : s.phase party = .writing op manifest) {phase : SessionPhase}
    (hphase : ∀ op manifest, phase ≠ .writing op manifest) :
    ((s.withFile manifest.id (some manifest.stored)).withPhase party phase).Consistent := by
  have hfiles : ∀ id found, (s.withFile manifest.id (some manifest.stored)).files id = some found →
      (id = manifest.id ∧ found = manifest.stored) ∨ s.files id = some found := by
    intro id found hfound
    unfold Sessions.withFile at hfound
    by_cases heq : id = manifest.id
    · subst heq
      exact .inl ⟨rfl, by simpa using hfound.symm⟩
    · exact .inr (by simpa [heq] using hfound)
  -- no operation but the one that has written is about to write
  have hother : ∀ other op' manifest', ((s.withFile manifest.id
      (some manifest.stored)).withPhase party phase).phase other = .writing op' manifest' →
        other ≠ party ∧ s.phase other = .writing op' manifest' := by
    intro other op' manifest' ho
    rcases writing_cases ho with ⟨-, heq⟩ | hkept
    · exact absurd heq (hphase op' manifest')
    · exact hkept
  refine ⟨fun id found hfound => ?_, fun id found hfound => ?_, fun other op' manifest' ho =>
    h.pending _ _ _ (hother _ _ _ ho).2, fun other op' manifest' ho =>
    h.target _ _ _ (hother _ _ _ ho).2, fun other id manifest' ho =>
    h.ending _ _ _ (hother _ _ _ ho).2, fun other options manifest' ho => ?_⟩
  · rcases hfiles id found hfound with ⟨rfl, rfl⟩ | hfound
    · exact manifest.stored_id
    · exact h.named _ _ hfound
  · rcases hfiles id found hfound with ⟨rfl, -⟩ | hfound
    · exact h.pending _ _ _ hwriting
    · exact h.known _ _ hfound
  · obtain ⟨hne, ho⟩ := hother _ _ _ ho
    obtain ⟨habsent, halone⟩ := h.starting _ _ _ ho
    have hid : manifest'.id ≠ manifest.id := fun heq =>
      hne (halone party op manifest hwriting heq.symm).symm
    refine ⟨?_, fun third op' manifest'' ht heq => halone third op' manifest'' (hother _ _ _ ht).2
      heq⟩
    show Function.update s.files manifest.id (some manifest.stored) manifest'.id = none
    rw [Function.update_of_ne hid]
    exact habsent

/-- **A session that is being started** keeps the invariant: its id is new. -/
theorem start (h : s.Consistent) {party : ι} {options : StartSessionOptions} {id : String}
    {manifest : SessionManifest} (hnew : id ∉ s.issued) (hid : manifest.id = id) :
    Sessions.Consistent { s.withPhase party (.writing (.startSession options) manifest) with
      issued := id :: s.issued } := by
  have hcases : ∀ other op manifest',
      (s.withPhase party (.writing (.startSession options) manifest)).phase other
        = .writing op manifest' →
      (other = party ∧ op = .startSession options ∧ manifest' = manifest)
        ∨ (s.phase other = .writing op manifest' ∧ manifest'.id ≠ manifest.id) := by
    intro other op manifest' ho
    rcases writing_cases ho with ⟨rfl, heq⟩ | ⟨-, ho⟩
    · obtain ⟨rfl, rfl⟩ := SessionPhase.writing.inj heq
      exact .inl ⟨rfl, rfl, rfl⟩
    · refine .inr ⟨ho, fun heq => hnew ?_⟩
      rw [← hid, ← heq]
      exact h.pending _ _ _ ho
  refine ⟨h.named, fun id' found hfound => List.mem_cons_of_mem _ (h.known id' found hfound),
    fun other op manifest' ho => ?_, fun other op manifest' ho => ?_,
    fun other id' manifest' ho => ?_, fun other options' manifest' ho => ?_⟩
  · rcases hcases _ _ _ ho with ⟨-, -, rfl⟩ | ⟨ho, -⟩
    · rw [hid]
      exact List.mem_cons_self
    · exact List.mem_cons_of_mem _ (h.pending _ _ _ ho)
  · rcases hcases _ _ _ ho with ⟨-, rfl, -⟩ | ⟨ho, -⟩
    · exact fun id' hmem => nomatch hmem
    · exact h.target _ _ _ ho
  · rcases hcases _ _ _ ho with ⟨-, hop, -⟩ | ⟨ho, -⟩
    · nomatch hop
    · exact h.ending _ _ _ ho
  · rcases hcases _ _ _ ho with ⟨rfl, -, rfl⟩ | ⟨ho, hne⟩
    · refine ⟨?_, fun third op manifest'' ht heq => ?_⟩
      · show s.files manifest'.id = none
        rw [hid]
        cases hfile : s.files id with
        | none => rfl
        | some found => exact absurd (h.known id found hfile) hnew
      · rcases hcases _ _ _ ht with ⟨hsame, -, -⟩ | ⟨-, hne⟩
        · exact hsame
        · exact absurd heq hne
    · obtain ⟨habsent, halone⟩ := h.starting _ _ _ ho
      refine ⟨habsent, fun third op manifest'' ht heq => ?_⟩
      rcases hcases _ _ _ ht with ⟨-, -, rfl⟩ | ⟨ht, -⟩
      · exact absurd heq.symm hne
      · exact halone third op manifest'' ht heq

omit [DecidableEq ι] in
theorem collect (h : s.Consistent) (sessionId : String) :
    (s.withFile sessionId none).Consistent := by
  have hfiles : ∀ id found, (s.withFile sessionId none).files id = some found →
      s.files id = some found := by
    intro id found hfound
    unfold Sessions.withFile at hfound
    by_cases heq : id = sessionId
    · subst heq
      simp at hfound
    · simpa [heq] using hfound
  refine ⟨fun id found hfound => h.named id found (hfiles id found hfound),
    fun id found hfound => h.known id found (hfiles id found hfound), h.pending, h.target,
    h.ending, fun party options manifest hp => ⟨?_, (h.starting party options manifest hp).2⟩⟩
  show Function.update s.files sessionId none manifest.id = none
  by_cases heq : manifest.id = sessionId
  · rw [heq, Function.update_self]
  · rw [Function.update_of_ne heq]
    exact (h.starting party options manifest hp).1

theorem step (h : s.Consistent) {event : Option (SessionEvent ι)} (hstep : SessionStep s event s') :
    s'.Consistent := by
  cases hstep with
  | begin op hidle => exact h.leave _ (fun _ _ heq => SessionPhase.noConfusion heq)
  | refuse hreading => exact h.leave _ (fun _ _ heq => SessionPhase.noConfusion heq)
  | readForOverlay hreading hupdate =>
    obtain ⟨read, config', hread, -, -, rfl⟩ := eq_of_cursorOverlayUpdate hupdate
    exact h.join rfl hread rfl (fun _ heq => SessionOp.noConfusion heq)
  | readForEnd hreading hupdate =>
    obtain ⟨read, hread, hended, ⟨hfalse, -⟩ | ⟨-, rfl⟩⟩ := eq_of_endUpdate hupdate
    · nomatch hfalse
    · exact h.join rfl hread rfl (fun _ _ => hended)
  | readEnded hreading hupdate => exact h.leave _ (fun _ _ heq => SessionPhase.noConfusion heq)
  | prepareStart hreading hnew hstart => exact h.start hnew (id_of_startManifest hstart)
  | write answered hwriting hid =>
    refine h.write hwriting (fun op manifest => ?_)
    split <;> exact fun heq => SessionPhase.noConfusion heq
  | writeFails hwriting => exact h.leave _ (fun _ _ heq => SessionPhase.noConfusion heq)
  | finish hreturning => exact h.leave _ (fun _ _ heq => SessionPhase.noConfusion heq)
  | collect sessionId => exact h.collect sessionId

end Sessions.Consistent

/-! ## What a timely step keeps

A write may overwrite what others have done since the read. Whether it does can be seen when it is
made, by comparing the file with the copy; a step that passes this comparison keeps the end and the
cursor of every session that it is not about. -/

section

variable [DecidableEq ι] {s s' : Sessions ι} {event : Option (SessionEvent ι)}

/-- The manifest of the session is there, and shows that it has ended. -/
def Sessions.EndedOn (sessionId : String) (s : Sessions ι) : Prop :=
  ∃ current, s.files sessionId = some current ∧ current.isEnded

/-- The manifest of the session is there, with this cursor. -/
def Sessions.OverlayOn (sessionId : String) (overlay : CursorOverlayConfig) (s : Sessions ι) :
    Prop :=
  ∃ current, s.files sessionId = some current ∧ current.cursorOverlay = overlay

/-- **What a step does to a file**: nothing, or it removes it, or it writes to it the manifest
of an operation. -/
theorem SessionStep.files_cases (h : SessionStep s event s') (sessionId : String) :
    s'.files sessionId = s.files sessionId
      ∨ event = some (.collected sessionId)
      ∨ ∃ party op manifest, event = some (.wrote party op manifest)
        ∧ s.phase party = .writing op manifest ∧ manifest.id = sessionId
        ∧ s'.files sessionId = some manifest.stored := by
  cases h with
  | begin op hidle => exact .inl rfl
  | refuse hreading => exact .inl rfl
  | readForOverlay hreading hupdate => exact .inl rfl
  | readForEnd hreading hupdate => exact .inl rfl
  | readEnded hreading hupdate => exact .inl rfl
  | prepareStart hreading hnew hstart => exact .inl rfl
  | @write party op manifest answered hwriting hid =>
    by_cases heq : sessionId = manifest.id
    · exact .inr (.inr ⟨party, op, manifest, rfl, hwriting, heq.symm, by
        simp [Sessions.withPhase, Sessions.withFile, heq]⟩)
    · exact .inl (by simp [Sessions.withPhase, Sessions.withFile, heq])
  | writeFails hwriting => exact .inl rfl
  | finish hreturning => exact .inl rfl
  | collect sessionId' =>
    by_cases heq : sessionId = sessionId'
    · exact .inr (.inl (by rw [heq]))
    · exact .inl (by simp [Sessions.withFile, heq])

/-- **An ended session stays ended** in a timely step that does not collect it: a change of the
cursor does not find it, an end writes that it has ended, and a start has another id. -/
theorem TimelyStep.endedOn (h : TimelyStep s event s') (hinv : s.Consistent) {sessionId : String}
    (hcollected : ∀ e ∈ event, e ≠ .collected sessionId) (hended : s.EndedOn sessionId) :
    s'.EndedOn sessionId := by
  obtain ⟨current, hcurrent, hend⟩ := hended
  rcases h.1.files_cases sessionId with hsame | hcollect | ⟨party, op, manifest, rfl, hwriting,
    rfl, hfile⟩
  · exact ⟨current, hsame.trans hcurrent, hend⟩
  · exact absurd rfl (hcollected _ hcollect)
  · have htimely := h.2 _ rfl
    refine ⟨manifest.stored, hfile, ?_⟩
    cases op with
    | setCursorOverlay id config =>
      have hopen : current.endedAt = none := htimely current hcurrent
      simp [SessionManifest.isEnded, hopen] at hend
    | endSession id =>
      have hmanifest := hinv.ending party id manifest hwriting
      simpa [SessionManifest.isEnded] using hmanifest
    | startSession options =>
      rw [(hinv.starting party options manifest hwriting).1] at hcurrent
      cases hcurrent

/-- **A cursor stays** in a timely step that neither changes it nor collects the session: an end
writes back the cursor it finds. -/
theorem TimelyStep.overlayOn (h : TimelyStep s event s') (hinv : s.Consistent)
    {sessionId : String} {overlay : CursorOverlayConfig}
    (hspoils : ∀ e ∈ event, e ≠ .collected sessionId ∧ ¬e.SetsOverlay sessionId)
    (hoverlay : s.OverlayOn sessionId overlay) : s'.OverlayOn sessionId overlay := by
  obtain ⟨current, hcurrent, rfl⟩ := hoverlay
  rcases h.1.files_cases sessionId with hsame | hcollect | ⟨party, op, manifest, rfl, hwriting,
    rfl, hfile⟩
  · exact ⟨current, hsame.trans hcurrent, rfl⟩
  · exact absurd rfl (hspoils _ hcollect).1
  · have htimely := h.2 _ rfl
    refine ⟨manifest.stored, hfile, ?_⟩
    cases op with
    | setCursorOverlay id config =>
      have htarget := hinv.target party _ manifest hwriting id rfl
      exact absurd htarget.symm (hspoils _ rfl).2
    | endSession id => exact (htimely current hcurrent).symm
    | startSession options =>
      rw [(hinv.starting party options manifest hwriting).1] at hcurrent
      cases hcurrent

theorem SessionStep.endedOn {e : SessionEvent ι} (h : SessionStep s (some e) s')
    (hinv : s.Consistent) {party : ι} {sessionId : String} (hends : e.Ends party sessionId) :
    s'.EndedOn sessionId := by
  cases h with
  | @readEnded party' id nowMillis manifest hreading hupdate =>
    obtain ⟨-, rfl⟩ : party' = party ∧ id = sessionId := hends
    obtain ⟨read, hread, hended, ⟨-, rfl⟩ | ⟨htrue, -⟩⟩ := eq_of_endUpdate hupdate
    · exact ⟨_, hread, hended⟩
    · nomatch htrue
  | @write party' op manifest answered hwriting hid =>
    cases op with
    | setCursorOverlay id config => exact hends.elim
    | endSession id =>
      obtain ⟨-, rfl⟩ : party' = party ∧ id = sessionId := hends
      have hmanifest := hinv.ending _ _ _ hwriting
      have htarget := hinv.target _ _ _ hwriting id rfl
      refine ⟨manifest.stored, ?_, by simpa [SessionManifest.isEnded] using hmanifest⟩
      simp [Sessions.withPhase, Sessions.withFile, htarget]
    | startSession options => exact hends.elim
  | finish hreturning => exact hends.elim
  | collect sessionId' => exact hends.elim

theorem SessionStep.overlayOn {party : ι} {sessionId : String} {config : CursorOverlayConfig}
    {manifest : SessionManifest}
    (h : SessionStep s (some (.wrote party (.setCursorOverlay sessionId config) manifest)) s')
    (hinv : s.Consistent) : s'.OverlayOn sessionId manifest.stored.cursorOverlay := by
  cases h with
  | write answered hwriting hid =>
    have htarget := hinv.target _ _ _ hwriting sessionId rfl
    refine ⟨manifest.stored, ?_, rfl⟩
    simp [Sessions.withPhase, Sessions.withFile, htarget]

/-- **An operation that returns has taken effect**: it has written, or was an end of an ended
session. -/
theorem SessionStep.effect_of_returning (h : SessionStep s event s') {party : ι} {op : SessionOp}
    {manifest : SessionManifest} (hreturning : s'.phase party = .returning op manifest) :
    s.phase party = .returning op manifest
      ∨ ∃ e ∈ event, e = .wrote party op manifest
        ∨ (e = .found party op manifest ∧ ∃ id, op = .endSession id) := by
  have hkept : ∀ {t : Sessions ι} {party' : ι} {phase : SessionPhase},
      phase ≠ .returning op manifest →
        (t.withPhase party' phase).phase party = .returning op manifest →
          t.phase party = .returning op manifest := by
    intro t party' phase hne ht
    unfold Sessions.withPhase at ht
    by_cases heq : party = party'
    · subst heq
      exact absurd (by simpa using ht) hne
    · simpa [heq] using ht
  cases h with
  | begin op' hidle => exact .inl (hkept (by simp) hreturning)
  | refuse hreading => exact .inl (hkept (by simp) hreturning)
  | readForOverlay hreading hupdate => exact .inl (hkept (by simp) hreturning)
  | readForEnd hreading hupdate => exact .inl (hkept (by simp) hreturning)
  | @readEnded party' id nowMillis found hreading hupdate =>
    by_cases heq : SessionPhase.returning (.endSession id) found = .returning op manifest
    · obtain ⟨rfl, rfl⟩ := SessionPhase.returning.inj heq
      by_cases hparty : party = party'
      · exact .inr ⟨_, rfl, .inr ⟨by rw [hparty], _, rfl⟩⟩
      · exact .inl (by simpa [Sessions.withPhase, hparty] using hreturning)
    · exact .inl (hkept heq hreturning)
  | prepareStart hreading hnew hstart => exact .inl (hkept (by simp) hreturning)
  | @write party' op' manifest' answered hwriting hid =>
    by_cases heq : (if answered then SessionPhase.returning op' manifest' else .failed op')
        = .returning op manifest
    · split_ifs at heq
      obtain ⟨rfl, rfl⟩ := SessionPhase.returning.inj heq
      by_cases hparty : party = party'
      · exact .inr ⟨_, rfl, .inl (by rw [hparty])⟩
      · exact .inl (by simpa [Sessions.withPhase, Sessions.withFile, hparty] using hreturning)
    · exact .inl (hkept heq hreturning)
  | writeFails hwriting => exact .inl (hkept (by simp) hreturning)
  | finish hreturning' => exact .inl (hkept (by simp) hreturning)
  | collect sessionId => exact .inl hreturning

/-! ## What a timely run keeps -/

/-- **What has returned has taken effect before**, in the same run. -/
theorem exists_effect {events : List (SessionEvent ι)}
    (hrun : Runs SessionStep .empty events s) {before after : List (SessionEvent ι)} {party : ι}
    {op : SessionOp} {manifest : SessionManifest}
    (hsplit : events = before ++ .returned party op manifest :: after) :
    ∃ e ∈ before, e = .wrote party op manifest
      ∨ (e = .found party op manifest ∧ ∃ id, op = .endSession id) := by
  subst hsplit
  obtain ⟨t, t', hbefore, hstep⟩ := hrun.exists_step
  have hreturning : t.phase party = .returning op manifest := by
    cases hstep with
    | finish hreturning => exact hreturning
  exact hbefore.exists_before (by simp [Sessions.empty])
    (fun u event u' hu hreturning => hu.effect_of_returning hreturning) hreturning

/-- **In a timely run an ended session stays ended, and no change of the cursor is lost**,
however the operations are interleaved and wherever they fail. An end that has returned has
taken effect, and unless the session is collected after that, its manifest shows that it has
ended. A change of the cursor that has returned has taken effect, and unless the cursor is
changed again or the session collected after that, the manifest shows it. -/
theorem timely_run_keeps {events : List (SessionEvent ι)}
    (hrun : Runs TimelyStep .empty events s) :
    (∀ before after party sessionId manifest,
      events = before ++ .returned party (.endSession sessionId) manifest :: after →
        ∃ earlier event later, before = earlier ++ event :: later ∧ event.Ends party sessionId
          ∧ ((∀ e ∈ later ++ after, e ≠ .collected sessionId) → s.EndedOn sessionId))
    ∧ ∀ before after party sessionId config manifest,
      events = before ++ .returned party (.setCursorOverlay sessionId config) manifest :: after →
        ∃ earlier later,
          before = earlier ++ .wrote party (.setCursorOverlay sessionId config) manifest :: later
          ∧ ((∀ e ∈ later ++ after, e ≠ .collected sessionId ∧ ¬e.SetsOverlay sessionId) →
            s.OverlayOn sessionId manifest.stored.cursorOverlay) := by
  have hsteps : Runs SessionStep .empty events s := hrun.mono (fun _ _ _ h => h.1)
  have hinv : ∀ t (event : Option (SessionEvent ι)) t', t.Consistent → TimelyStep t event t' →
      t'.Consistent := fun t event t' ht hstep => ht.step hstep.1
  refine ⟨fun before after party sessionId manifest hsplit => ?_,
    fun before after party sessionId config manifest hsplit => ?_⟩
  · obtain ⟨event, hmem, heffect⟩ := exists_effect hsteps hsplit
    obtain ⟨earlier, later, rfl⟩ := List.append_of_mem hmem
    have hends : event.Ends party sessionId := by
      rcases heffect with rfl | ⟨rfl, -⟩ <;> exact ⟨rfl, rfl⟩
    refine ⟨earlier, event, later, rfl, hends, fun hkept => ?_⟩
    refine hrun.ever_after .empty hinv
      (fun t e t' ht hstep (he : e.Ends party sessionId) => hstep.1.endedOn ht he)
      (fun t e t' ht hstep (hspoils : ∀ x ∈ e, ¬x = .collected sessionId) => hstep.endedOn ht hspoils)
      (by simpa using hsplit) hends (fun e he => ?_)
    · rcases List.mem_append.mp he with hlater | htail
      · exact hkept e (List.mem_append_left _ hlater)
      · rcases List.mem_cons.mp htail with rfl | hafter
        · simp
        · exact hkept e (List.mem_append_right _ hafter)
  · obtain ⟨event, hmem, heffect⟩ := exists_effect hsteps hsplit
    obtain ⟨earlier, later, rfl⟩ := List.append_of_mem hmem
    obtain rfl : event = .wrote party (.setCursorOverlay sessionId config) manifest := by
      rcases heffect with rfl | ⟨-, id, hop⟩
      · rfl
      · nomatch hop
    refine ⟨earlier, later, rfl, fun hkept => ?_⟩
    refine hrun.ever_after .empty hinv
      (fun t e t' ht hstep (he : e = .wrote party (.setCursorOverlay sessionId config) manifest) =>
        (he ▸ hstep.1).overlayOn ht)
      (fun t e t' ht hstep
        (hspoils : ∀ x ∈ e, ¬(x = .collected sessionId ∨ x.SetsOverlay sessionId)) =>
        hstep.overlayOn ht (fun x hx => not_or.mp (hspoils x hx)))
      (by simpa using hsplit) rfl (fun e he => not_or.mpr ?_)
    rcases List.mem_append.mp he with hlater | htail
    · exact hkept e (List.mem_append_left _ hlater)
    · rcases List.mem_cons.mp htail with rfl | hafter
      · exact ⟨by simp, id⟩
      · exact hkept e (List.mem_append_right _ hafter)

end

/-! ## A sample: an end and a change of the cursor at once -/

namespace Sample

/-- How the session is started. -/
def startOptions : StartSessionOptions := ⟨none, .on, .events⟩

/-- The session, started. -/
def openSession : SessionManifest := ⟨"run-1", none, 0, none, .on, .events, .default⟩

/-- A cursor that is shown. -/
def shownCursor : CursorOverlayConfig := ⟨true, none, 6, .default, false⟩

/-- The session with its cursor shown. -/
def shownSession : SessionManifest := { openSession with cursorOverlay := shownCursor }

/-- The session, ended. -/
def endedSession : SessionManifest := { openSession with endedAt := some 5 }

/-- Showing the cursor. -/
def showOp : SessionOp := .setCursorOverlay "run-1" shownCursor

/-- Ending the session. -/
def endOp : SessionOp := .endSession "run-1"

theorem validId : validateSessionId "run-1" = .ok () := by
  unfold validateSessionId
  rw [if_pos (by decide)]

theorem endUpdate_openSession {file : Option SessionManifest} (h : file = some openSession) :
    endUpdate "run-1" 5 file = .ok (endedSession, true) := by
  rw [h]
  rfl

theorem cursorOverlayUpdate_openSession {file : Option SessionManifest}
    (h : file = some openSession) :
    cursorOverlayUpdate "run-1" shownCursor file = .ok shownSession := by
  have hvalid : shownCursor.validated = .ok shownCursor :=
    Except.eq_ok_of_toOption (by decide +kernel)
  rw [h]
  simp only [cursorOverlayUpdate, hvalid]
  rfl

theorem exists_startedRun : ∃ s : Sessions ℕ, Runs TimelyStep .empty
      [.wrote 0 (.startSession startOptions) openSession,
        .returned 0 (.startSession startOptions) openSession] s
    ∧ s.files "run-1" = some openSession ∧ s.phase 1 = .idle ∧ s.phase 2 = .idle := by
  have h₀ : Runs TimelyStep (.empty : Sessions ℕ) [] .empty := .refl
  have h₁ := h₀.snoc ⟨@SessionStep.begin ℕ _ _ 0 (.startSession startOptions) rfl, by simp⟩
  have h₂ := h₁.snoc ⟨@SessionStep.prepareStart ℕ _ _ 0 startOptions "run-1" 0 openSession rfl
    (by simp [Sessions.withPhase, Sessions.empty]) rfl, by simp⟩
  have h₃ := h₂.snoc ⟨@SessionStep.write ℕ _ _ 0 _ openSession true rfl validId, by simp [Timely]⟩
  have h₄ := h₃.snoc ⟨@SessionStep.finish ℕ _ _ 0 _ openSession rfl, by simp [Timely]⟩
  exact ⟨_, h₄, rfl, rfl, rfl⟩

/-- The session, ended with its cursor shown. -/
def endedShown : SessionManifest := { shownSession with endedAt := some 5 }

/-- A change of the cursor and an end, one after the other. -/
def quietEvents : List (SessionEvent ℕ) :=
  [.wrote 0 (.startSession startOptions) openSession,
    .returned 0 (.startSession startOptions) openSession, .wrote 1 showOp shownSession,
    .returned 1 showOp shownSession, .wrote 2 endOp endedShown, .returned 2 endOp endedShown]

theorem exists_quietRun : ∃ s : Sessions ℕ, Runs TimelyStep .empty quietEvents s := by
  obtain ⟨s, hrun, hfile, hidle₁, hidle₂⟩ := exists_startedRun
  -- both begin, and the end reads what the change has written
  have h₁ := hrun.snoc ⟨@SessionStep.begin ℕ _ s 1 showOp hidle₁, by simp⟩
  have h₂ := h₁.snoc ⟨@SessionStep.begin ℕ _ _ 2 endOp (by simp [hidle₂]), by simp⟩
  have h₃ := h₂.snoc ⟨@SessionStep.readForOverlay ℕ _ _ 1 "run-1" shownCursor shownSession
    (by simp [showOp]) (cursorOverlayUpdate_openSession hfile), by simp⟩
  have h₄ := h₃.snoc ⟨@SessionStep.write ℕ _ _ 1 showOp shownSession true (by simp [showOp])
    validId, by
      intro e he
      obtain rfl : SessionEvent.wrote 1 showOp shownSession = e := Option.some.inj he
      intro current hcurrent
      obtain rfl : openSession = current := Option.some.inj (hfile.symm.trans hcurrent)
      rfl⟩
  have h₅ := h₄.snoc ⟨@SessionStep.finish ℕ _ _ 1 showOp shownSession (by simp), by simp [Timely]⟩
  have h₆ := h₅.snoc ⟨@SessionStep.readForEnd ℕ _ _ 2 "run-1" 5 endedShown
    (by simp [endOp]) rfl, by simp⟩
  have h₇ := h₆.snoc ⟨@SessionStep.write ℕ _ _ 2 endOp endedShown true (by simp [endOp]) validId,
    by
      -- the cursor that is written back is the one the file has
      intro e he
      obtain rfl : SessionEvent.wrote 2 endOp endedShown = e := Option.some.inj he
      intro current hcurrent
      obtain rfl : shownSession.stored = current := Option.some.inj hcurrent
      rfl⟩
  have h₈ := h₇.snoc ⟨@SessionStep.finish ℕ _ _ 2 endOp endedShown (by simp), by simp [Timely]⟩
  exact ⟨_, h₈⟩

/-- **An end that a change of the cursor overtakes**: both return, the change last, and the
session has not ended. -/
theorem exists_revivedRun : ∃ s : Sessions ℕ, Runs SessionStep .empty
      [.wrote 0 (.startSession startOptions) openSession,
        .returned 0 (.startSession startOptions) openSession, .wrote 2 endOp endedSession,
        .returned 2 endOp endedSession, .wrote 1 showOp shownSession,
        .returned 1 showOp shownSession] s
    ∧ s.files "run-1" = some shownSession := by
  obtain ⟨s, hrun, hfile, hidle₁, hidle₂⟩ := exists_startedRun
  have h₀ : Runs SessionStep .empty _ s := hrun.mono (fun _ _ _ h => h.1)
  have h₁ := h₀.snoc (@SessionStep.begin ℕ _ s 1 showOp hidle₁)
  have h₂ := h₁.snoc (@SessionStep.readForOverlay ℕ _ _ 1 "run-1" shownCursor shownSession
    (by simp [showOp]) (cursorOverlayUpdate_openSession hfile))
  have h₃ := h₂.snoc (@SessionStep.begin ℕ _ _ 2 endOp (by simp [hidle₂]))
  have h₄ := h₃.snoc (@SessionStep.readForEnd ℕ _ _ 2 "run-1" 5 endedSession
    (by simp [endOp]) (endUpdate_openSession hfile))
  have h₅ := h₄.snoc (@SessionStep.write ℕ _ _ 2 endOp endedSession true (by simp [endOp]) validId)
  have h₆ := h₅.snoc (@SessionStep.finish ℕ _ _ 2 endOp endedSession (by simp))
  have h₇ := h₆.snoc (@SessionStep.write ℕ _ _ 1 showOp shownSession true (by simp [showOp])
    validId)
  have h₈ := h₇.snoc (@SessionStep.finish ℕ _ _ 1 showOp shownSession (by simp))
  exact ⟨_, h₈, by simp [shownSession, openSession, shownCursor, SessionManifest.stored]⟩

/-- **A change of the cursor that an end overtakes**: both return, the end last, and the cursor
is as it was before. -/
theorem exists_undoneRun : ∃ s : Sessions ℕ, Runs SessionStep .empty
      [.wrote 0 (.startSession startOptions) openSession,
        .returned 0 (.startSession startOptions) openSession, .wrote 1 showOp shownSession,
        .returned 1 showOp shownSession, .wrote 2 endOp endedSession,
        .returned 2 endOp endedSession] s
    ∧ s.files "run-1" = some endedSession := by
  obtain ⟨s, hrun, hfile, hidle₁, hidle₂⟩ := exists_startedRun
  have h₀ : Runs SessionStep .empty _ s := hrun.mono (fun _ _ _ h => h.1)
  have h₁ := h₀.snoc (@SessionStep.begin ℕ _ s 2 endOp hidle₂)
  have h₂ := h₁.snoc (@SessionStep.readForEnd ℕ _ _ 2 "run-1" 5 endedSession
    (by simp [endOp]) (endUpdate_openSession hfile))
  have h₃ := h₂.snoc (@SessionStep.begin ℕ _ _ 1 showOp (by simp [hidle₁]))
  have h₄ := h₃.snoc (@SessionStep.readForOverlay ℕ _ _ 1 "run-1" shownCursor shownSession
    (by simp [showOp]) (cursorOverlayUpdate_openSession hfile))
  have h₅ := h₄.snoc (@SessionStep.write ℕ _ _ 1 showOp shownSession true (by simp [showOp])
    validId)
  have h₆ := h₅.snoc (@SessionStep.finish ℕ _ _ 1 showOp shownSession (by simp))
  have h₇ := h₆.snoc (@SessionStep.write ℕ _ _ 2 endOp endedSession true (by simp [endOp]) validId)
  have h₈ := h₇.snoc (@SessionStep.finish ℕ _ _ 2 endOp endedSession (by simp))
  exact ⟨_, h₈, by simp [endedSession, openSession, SessionManifest.stored,
    CursorOverlayConfig.default]⟩

end Sample

/-- The session whose cursor was changed and that was then ended, undisturbed, shows both. -/
theorem timely_run_keeps_sample :
    ∃ s : Sessions ℕ, Runs TimelyStep .empty Sample.quietEvents s
      ∧ s.EndedOn "run-1" ∧ s.OverlayOn "run-1" Sample.shownCursor := by
  obtain ⟨s, hrun⟩ := Sample.exists_quietRun
  obtain ⟨hends, hoverlays⟩ := timely_run_keeps hrun
  have hkeeps : ∀ e ∈ Sample.quietEvents, e ≠ .collected "run-1" := by
    simp [Sample.quietEvents]
  refine ⟨s, hrun, ?_, ?_⟩
  · obtain ⟨earlier, event, later, hbefore, -, hkept⟩ :=
      hends (Sample.quietEvents.take 5) [] 2 "run-1" Sample.endedShown rfl
    refine hkept (fun e he => hkeeps e (List.mem_of_mem_take (i := 5) ?_))
    rw [List.append_nil] at he
    rw [hbefore]
    exact List.mem_append_right _ (List.mem_cons_of_mem _ he)
  · obtain ⟨earlier, later, hbefore, hkept⟩ := hoverlays (Sample.quietEvents.take 2
      ++ [.wrote 1 Sample.showOp Sample.shownSession]) (Sample.quietEvents.drop 4) 1 "run-1"
        Sample.shownCursor Sample.shownSession rfl
    -- the change was written once
    obtain rfl : later = [] := by
      match earlier with
      | [] | [_] | [_, _] | _ :: _ :: _ :: _ => simp_all [Sample.quietEvents, Sample.showOp]
    refine hkept (fun e he => ?_)
    simp only [Sample.quietEvents, List.drop, List.nil_append, List.mem_cons, List.not_mem_nil,
      or_false] at he
    rcases he with rfl | rfl <;> simp [SessionEvent.SetsOverlay, Sample.endOp]

/-- **An end and a change of the cursor at once**: in one run the end has returned and the
session, which was not collected, has not ended; in another the change has returned before the
end, and is gone. -/
theorem concurrent_changes_lost :
    (∃ (s : Sessions ℕ) (events : List (SessionEvent ℕ)), Runs SessionStep .empty events s
        ∧ .returned 2 Sample.endOp Sample.endedSession ∈ events
        ∧ (∀ e ∈ events, e ≠ .collected "run-1")
        ∧ ∃ current, s.files "run-1" = some current ∧ current.endedAt = none)
    ∧ ∃ (s : Sessions ℕ) (before after : List (SessionEvent ℕ)), Runs SessionStep .empty
        (before ++ .returned 1 Sample.showOp Sample.shownSession :: after) s
        ∧ .returned 2 Sample.endOp Sample.endedSession ∈ after
        ∧ (∀ e ∈ after, e ≠ .collected "run-1" ∧ ¬e.SetsOverlay "run-1")
        ∧ ∃ current, s.files "run-1" = some current
          ∧ current.cursorOverlay ≠ Sample.shownCursor := by
  refine ⟨?_, ?_⟩
  · obtain ⟨s, hrun, hfile⟩ := Sample.exists_revivedRun
    exact ⟨s, _, hrun, by simp, by simp, _, hfile, rfl⟩
  · obtain ⟨s, hrun, hfile⟩ := Sample.exists_undoneRun
    refine ⟨s, [_, _, _], [_, _], hrun, by simp, ?_, _, hfile, by decide⟩
    simp [SessionEvent.SetsOverlay, Sample.endOp]

end AgentDesktop
