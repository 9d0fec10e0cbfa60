import Dlms.Profile.HdlcReopen

/-!
# Connecting a channel

A client writes a SNRM and waits for a frame that its session accepts. Two
frames are accepted by then: a UA, and a DM, which refuses the connection. The
call is over and in order with both, so that it says more than it should exactly
when a DM comes. A server waits for one frame and answers, and the answer is
only there to be built when a SNRM has come.

## Main definitions

* `dataLinkCall`: The call of a side that opens the link.
* `Refuses`: A DM from the peer.
* `NotRefused`: The frame that is taken for an answer is not a DM.

## Theorems

* `receiveFrame_awaitingConnection`: What a session that waits for a UA accepts.
* `connected_of_finished_iff`: When a call that returns ok has connected.
* `not_connected_of_finished`: A refused connect returns ok.
-/

namespace Dlms

namespace Profile

open Apdu (Bytes)
open Hdlc (HdlcFrame HdlcSession)
open Machine (Admits run transition)

/-- A frame refuses the connection that a session asks for. -/
structure Refuses (session : HdlcSession) (frame : HdlcFrame) : Prop where
  addresses : session.incomingAddressesMatch frame = true
  kind : frame.control.unnumberedKind = .ok .dm

section Sessions

variable (session : HdlcSession) (frame : HdlcFrame)

/-- Without a connection there is nothing to number or to acknowledge. -/
theorem receiveFrame_of_not_connected (hstate : session.state ≠ .connected)
    (hkind : frame.control.frameKind ≠ .unnumbered) :
    ∃ status, session.receiveFrame frame = (.error status, session) := by
  unfold HdlcSession.receiveFrame
  by_cases hmatch : session.incomingAddressesMatch frame = true
  · rw [hmatch, Bool.not_true, if_neg Bool.false_ne_true]
    cases hframe : frame.control.frameKind with
    | information =>
        dsimp only
        unfold HdlcSession.receiveInformationFrame
        rw [if_pos hstate]
        exact ⟨_, rfl⟩
    | supervisory =>
        dsimp only
        unfold HdlcSession.receiveSupervisoryFrame
        rw [if_pos hstate]
        exact ⟨_, rfl⟩
    | unnumbered => exact absurd hframe hkind
  · rw [Bool.not_eq_true] at hmatch
    rw [hmatch, Bool.not_false, if_pos rfl]
    exact ⟨_, rfl⟩

/-- A session that waits for a UA is not changed by a frame, or is connected by a
    UA, or is disconnected by a DM. -/
theorem receiveFrame_awaitingConnection (hrole : session.options.role = .client)
    (hstate : session.state = .awaitingConnection) :
    (¬Refuses session frame ∧ ∃ status, session.receiveFrame frame = (.error status, session)) ∨
      (¬Refuses session frame ∧ ∃ connected, session.receiveFrame frame = (.ok (), connected) ∧
        connected.state = .connected) ∨
      Refuses session frame ∧ ∃ refused, session.receiveFrame frame = (.ok (), refused) ∧
        refused.state = .disconnected := by
  have hnot : session.state ≠ .connected := by
    rw [hstate]
    decide
  by_cases hkind : frame.control.frameKind = .unnumbered
  · by_cases hmatch : session.incomingAddressesMatch frame = true
    · rw [session.receiveFrame_unnumbered frame hmatch hkind, HdlcSession.receiveUnnumberedFrame]
      -- Of the unnumbered frames a UA connects and a DM refuses; the others have no place here.
      have hother (kind : Hdlc.HdlcUnnumberedKind) (hdm : kind ≠ .dm)
          (hok : frame.control.unnumberedKind = .ok kind) : ¬Refuses session frame :=
        fun hrefuses => hdm (Except.ok.inj (hok.symm.trans hrefuses.kind))
      rcases hunnumbered : frame.control.unnumberedKind with status | kind
      · refine .inl ⟨fun hrefuses => ?_, status, rfl⟩
        cases hunnumbered.symm.trans hrefuses.kind
      · cases kind with
        | snrm =>
            rcases session.receiveSnrm_cases frame.information with
              ⟨-, hrefused⟩ | ⟨⟨hserver, -⟩, -⟩
            · exact .inl ⟨hother _ (by decide) hunnumbered, _, hrefused⟩
            · exact absurd (hrole.symm.trans hserver) (by decide)
        | ua =>
            rcases session.receiveUa_cases frame.information with
              ⟨-, hconnected⟩ | ⟨hawaits, -⟩ | ⟨⟨hawaits, -⟩, -⟩
            · exact .inr (.inl ⟨hother _ (by decide) hunnumbered, _, hconnected, rfl⟩)
            · exact absurd (hstate.symm.trans hawaits) (by decide)
            · exact absurd hstate hawaits
        | disc =>
            dsimp only
            rw [if_pos hnot]
            exact .inl ⟨hother _ (by decide) hunnumbered, _, rfl⟩
        | dm => exact .inr (.inr ⟨⟨hmatch, hunnumbered⟩, _, rfl, rfl⟩)
        | frmr => exact .inl ⟨hother _ (by decide) hunnumbered, _, rfl⟩
        | ui => exact .inl ⟨hother _ (by decide) hunnumbered, _, rfl⟩
    · refine .inl ⟨fun hrefuses => hmatch hrefuses.addresses, .invalidAddress, ?_⟩
      unfold HdlcSession.receiveFrame
      rw [Bool.not_eq_true] at hmatch
      rw [hmatch, Bool.not_false, if_pos rfl]
  · refine .inl ⟨fun hrefuses => ?_, receiveFrame_of_not_connected session frame hnot hkind⟩
    exact hkind (HdlcSession.unnumberedKind_eq_ok _ _ hrefuses.kind)

end Sessions

/-! ### The channel of a client -/

/-- A channel that waits for the answer to its SNRM. -/
structure AwaitsUa (channel : HdlcProfileChannel) : Prop where
  useSession : channel.options.hdlcUseSession = true
  role : channel.session.options.role = .client
  state : channel.session.state = .awaitingConnection

/-- It waits on as long as its session is the same. -/
theorem AwaitsUa.congr (channel after : HdlcProfileChannel) (h : AwaitsUa channel)
    (hoptions : after.options = channel.options) (hsession : after.session = channel.session) :
    AwaitsUa after := by
  refine ⟨?_, ?_, ?_⟩
  · rw [hoptions]
    exact h.useSession
  · rw [hsession]
    exact h.role
  · rw [hsession]
    exact h.state

section Client

variable (channel : HdlcProfileChannel)

/-- An information frame is refused before the session is connected. -/
theorem decodeFrameToPendingApdu_awaiting (frame : HdlcFrame) (h : AwaitsUa channel)
    (hkind : frame.control.frameKind = .information) :
    ∃ status after, channel.decodeFrameToPendingApdu frame = (.error status, after, []) ∧
      AwaitsUa after := by
  have hnot : channel.session.state ≠ .connected := by
    rw [h.state]
    decide
  rcases receiveFrame_of_not_connected channel.session frame hnot
    (by rw [hkind]; decide) with ⟨status, hrefused⟩
  unfold HdlcProfileChannel.decodeFrameToPendingApdu
  rw [h.useSession, Bool.not_true, if_neg Bool.false_ne_true]
  rcases channel.reassembler.pushFrame frame with ⟨pushed | completed, reassembler⟩
  · dsimp only
    by_cases hwrong : mapHdlcStatus pushed ≠ .needMoreData
    · rw [if_pos hwrong]
      exact ⟨_, _, rfl, h.congr _ _ rfl rfl⟩
    · rw [if_neg hwrong, hrefused]
      exact ⟨_, _, rfl, h.congr _ _ rfl rfl⟩
  · dsimp only
    rw [hrefused]
    exact ⟨_, _, rfl, h.congr _ _ rfl rfl⟩

/-- What a channel that waits for a UA makes of a frame. -/
theorem handleSessionControlFrame_awaiting (frame : HdlcFrame) (h : AwaitsUa channel) :
    (¬Refuses channel.session frame ∧ ∃ status after,
        channel.handleSessionControlFrame frame = (.error status, after, []) ∧ AwaitsUa after) ∨
      (¬Refuses channel.session frame ∧ ∃ after,
        channel.handleSessionControlFrame frame = (.ok (), after, []) ∧
          after.session.state = .connected) ∨
      Refuses channel.session frame ∧ ∃ after,
        channel.handleSessionControlFrame frame = (.ok (), after, []) ∧
          after.session.state = .disconnected := by
  unfold HdlcProfileChannel.handleSessionControlFrame
  by_cases hkind : frame.control.frameKind = .information
  · rw [if_pos hkind]
    refine .inl ⟨fun hrefuses => ?_, decodeFrameToPendingApdu_awaiting channel frame h hkind⟩
    have hunnumbered := HdlcSession.unnumberedKind_eq_ok _ _ hrefuses.kind
    exact absurd (hkind.symm.trans hunnumbered) (by decide)
  · rw [if_neg hkind]
    rcases receiveFrame_awaitingConnection channel.session frame h.role h.state with
      ⟨hnot, status, hrefused⟩ | ⟨hnot, connected, hreceived, hstate⟩ |
        ⟨hrefuses, refused, hreceived, hstate⟩
    · rw [hrefused]
      exact .inl ⟨hnot, _, _, rfl, h.congr _ _ rfl rfl⟩
    · rw [hreceived]
      exact .inr (.inl ⟨hnot, _, rfl, hstate⟩)
    · rw [hreceived]
      exact .inr (.inr ⟨hrefuses, _, rfl, hstate⟩)

end Client

/-! ### The calls -/

/-- The call of a side that opens the link. -/
def dataLinkCall (role : HdlcProfileRole) : Call :=
  match role with
  | .client => .connectDataLink
  | .server => .acceptDataLink

/-- The call is started and reads some octets, or fails to. -/
def openingEvents (role : HdlcProfileRole) (reads : List (Except ProfileStatus Bytes)) :
    List ChannelEvent :=
  .start (dataLinkCall role) :: reads.map .read

/-- A call that returns ok leaves the session connected. -/
def ConnectedIfOk (t : Machine.Transition ChannelEvent (Option CallResult × Bytes) UsedChannel) :
    Prop :=
  t.output.1 = some (.finished (.ok ())) → t.after.channel.session.state = .connected

/-- The frame that a waiting client takes for the answer does not refuse the
    connection. -/
def NotRefused (used : UsedChannel) (event : ChannelEvent) : Prop :=
  ∀ read frame request attempt, event = .read read → used.task = .awaitAnswer request attempt →
    (used.channel.nextFrame read).1 = .ok (some frame) → ¬Refuses used.channel.session frame

/-- The client waits for its answer, or the call is over. -/
def Connecting (used : UsedChannel) : Prop :=
  used.task = .idle ∨ ∃ request attempt, used.task = .awaitAnswer request attempt ∧
    AwaitsUa used.channel

/-- The server waits for its SNRM, or the call is over. -/
def Accepting (used : UsedChannel) : Prop :=
  used.task = .idle ∨ used.task = .acceptDataLink

section Steps

variable (used : UsedChannel)

/-- A channel in no call makes nothing of a read. -/
theorem useStep_idle (read : Except ProfileStatus Bytes) (h : used.task = .idle) :
    useStep (.read read) used = ((none, []), used) := by
  cases used with
  | mk channel task isOpen =>
      have htask : task = .idle := h
      rw [htask]
      rfl

/-- A failure to get the answer ends the call in an error, or it waits on. -/
theorem retryAnswer_cases (channel : HdlcProfileChannel) (request : Bytes) (attempt : Nat)
    (status : ProfileStatus) (written : Bytes) :
    retryAnswer channel request attempt status written =
        .finish channel (.error status) written ∨
      retryAnswer channel request attempt status written =
        { channel := channel
          task := .awaitAnswer request (attempt + 1)
          written := written ++ request } := by
  unfold retryAnswer
  split_ifs
  · exact .inl rfl
  · exact .inr rfl

/-- One read of a client that waits for its answer. -/
theorem continueTask_awaitAnswer (channel : HdlcProfileChannel) (request : Bytes) (attempt : Nat)
    (read : Except ProfileStatus Bytes) (h : AwaitsUa channel) :
    let turn := continueTask channel (.awaitAnswer request attempt) read
    (turn.task = .idle ∨ ∃ request attempt, turn.task = .awaitAnswer request attempt ∧
        AwaitsUa turn.channel) ∧
      ((turn.result = some (.finished (.ok ())) → turn.channel.session.state = .connected) ↔
        ∀ frame, (channel.nextFrame read).1 = .ok (some frame) →
          ¬Refuses channel.session frame) := by
  intro turn
  rcases channel.kept_nextFrame read with ⟨hoptions, hsession, -, -⟩
  have hafter := h.congr channel (channel.nextFrame read).2 hoptions hsession
  have hturn : turn =
      continueWith (channel.nextFrame read).2 (.awaitAnswer request attempt)
        (channel.nextFrame read).1 := rfl
  -- A failure is not ok, and what waits on has no result.
  have hfailed (after : HdlcProfileChannel) (status : ProfileStatus) (written : Bytes)
      (hwaits : AwaitsUa after)
      (hretry : turn = retryAnswer after request attempt status written) :
      (turn.task = .idle ∨ ∃ request attempt, turn.task = .awaitAnswer request attempt ∧
        AwaitsUa turn.channel) ∧ turn.result ≠ some (.finished (.ok ())) := by
    rcases retryAnswer_cases after request attempt status written with hover | hagain
    · rw [hretry, hover]
      refine ⟨.inl rfl, ?_⟩
      simp [Turn.finish]
    · rw [hretry, hagain]
      refine ⟨.inr ⟨_, _, rfl, hwaits⟩, ?_⟩
      simp
  rcases hnext : (channel.nextFrame read).1 with status | taken
  · rw [hnext] at hturn
    rcases hfailed _ status [] hafter hturn with ⟨htask, hresult⟩
    refine ⟨htask, iff_of_true (fun hok => absurd hok hresult) fun frame hframe => ?_⟩
    cases hframe
  · rw [hnext] at hturn
    cases taken with
    | none =>
        rw [hturn]
        refine ⟨.inr ⟨_, _, rfl, hafter⟩, iff_of_true (fun hok => ?_) fun frame hframe => ?_⟩
        · exact absurd hok (by simp [continueWith])
        · exact absurd hframe (by simp)
    | some frame =>
        have hframes : (∀ other, (Except.ok (some frame) : Except ProfileStatus _) =
            .ok (some other) → ¬Refuses channel.session other) ↔
            ¬Refuses channel.session frame := by
          constructor
          · intro hall
            exact hall frame rfl
          · intro hnot other hother
            rw [← Option.some.inj (Except.ok.inj hother)]
            exact hnot
        rw [hframes, ← hsession]
        rcases handleSessionControlFrame_awaiting _ frame hafter with
          ⟨hnot, status, after, hhandled, hwaits⟩ | ⟨hnot, after, hhandled, hstate⟩ |
            ⟨hrefuses, after, hhandled, hstate⟩
        · rw [continueWith, hhandled] at hturn
          rcases hfailed after status [] hwaits hturn with ⟨htask, hresult⟩
          exact ⟨htask, iff_of_true (fun hok => absurd hok hresult) hnot⟩
        · rw [continueWith, hhandled] at hturn
          rw [hturn]
          exact ⟨.inl rfl, iff_of_true (fun _ => hstate) hnot⟩
        · rw [continueWith, hhandled] at hturn
          rw [hturn]
          refine ⟨.inl rfl, iff_of_false (fun hconnected => ?_) (not_not.mpr hrefuses)⟩
          exact absurd (hstate.symm.trans (hconnected rfl)) (by decide)

/-- One read of a client. -/
theorem useStep_connecting (read : Except ProfileStatus Bytes) (h : Connecting used) :
    Connecting (useStep (.read read) used).2 ∧
      (ConnectedIfOk (transition useStep (.read read) used) ↔ NotRefused used (.read read)) := by
  rcases h with hidle | ⟨request, attempt, htask, hawaits⟩
  · have hstep := useStep_idle used read hidle
    rw [ConnectedIfOk, transition, hstep]
    refine ⟨.inl hidle, iff_of_true (fun hok => ?_) ?_⟩
    · cases hok
    · intro _ _ _ _ _ hother _
      cases hidle.symm.trans hother
  · have hturn := continueTask_awaitAnswer used.channel request attempt read hawaits
    rw [← htask] at hturn
    refine ⟨hturn.1, hturn.2.trans ?_⟩
    constructor
    · intro hall other frame _ _ hread _ hframe
      rw [← ChannelEvent.read.inj hread] at hframe
      exact hall frame hframe
    · intro hnot frame hframe
      exact hnot read frame request attempt rfl htask hframe

/-- One read of a server: its answer has connected the session, or nothing has
    been answered. -/
theorem useStep_accepting (read : Except ProfileStatus Bytes) (h : Accepting used) :
    Accepting (useStep (.read read) used).2 ∧
      ConnectedIfOk (transition useStep (.read read) used) := by
  rcases h with hidle | htask
  · have hstep := useStep_idle used read hidle
    rw [ConnectedIfOk, transition, hstep]
    refine ⟨.inl hidle, fun hok => ?_⟩
    cases hok
  · have hturn : continueTask used.channel used.task read =
        continueWith (used.channel.nextFrame read).2 .acceptDataLink
          (used.channel.nextFrame read).1 := by
      rw [htask]
      rfl
    rw [ConnectedIfOk, transition]
    unfold useStep
    dsimp only
    rw [hturn]
    -- A call that fails is over, and has not succeeded.
    have hfailed (after : HdlcProfileChannel) (status : ProfileStatus) (written : Bytes) :
        Accepting { used with
            channel := (Turn.finish after (.error status) written).channel
            task := (Turn.finish after (.error status) written).task } ∧
          ((Turn.finish after (.error status) written).result = some (.finished (.ok ())) →
            (Turn.finish after (.error status) written).channel.session.state = .connected) := by
      refine ⟨.inl rfl, fun hok => absurd hok ?_⟩
      simp [Turn.finish]
    rcases (used.channel.nextFrame read).1 with status | taken
    · exact hfailed _ _ _
    · cases taken with
      | none =>
          refine ⟨.inr rfl, fun hok => absurd hok ?_⟩
          simp [continueWith]
      | some frame =>
          rw [continueWith]
          rcases (used.channel.nextFrame read).2.handleSessionControlFrame frame with
            ⟨status | received, after, written⟩
          · exact hfailed _ _ _
          · dsimp only
            unfold answer
            -- The answer is built by the session, which is connected with it.
            rcases hbuilt : after.session.buildConnectResponse with ⟨status | output, session⟩
            · exact hfailed _ _ _
            · exact ⟨.inl rfl, fun _ =>
                (HdlcSession.buildConnectResponse_eq_ok _ _ _ hbuilt).1.connected⟩

end Steps

section Starts

variable (channel : HdlcProfileChannel) (isOpen : Bool)

/-- A call that ends with an error at once. -/
theorem finish_error (status : ProfileStatus) (written : Bytes) :
    (Turn.finish channel (.error status) written).task = .idle ∧
      (Turn.finish channel (.error status) written).result ≠ some (.finished (.ok ())) := by
  refine ⟨rfl, ?_⟩
  simp [Turn.finish]

/-- A client that connects has failed, or it waits for its answer. -/
theorem startOnStream_connectDataLink :
    let turn := startOnStream { channel := channel, isOpen := isOpen } .connectDataLink
    (turn.task = .idle ∨ ∃ request attempt, turn.task = .awaitAnswer request attempt ∧
        AwaitsUa turn.channel) ∧ turn.result ≠ some (.finished (.ok ())) := by
  intro turn
  have hturn : turn = startOnStream { channel := channel, isOpen := isOpen } .connectDataLink := rfl
  -- There are five ways to fail before the SNRM is written.
  have hfailed (after : HdlcProfileChannel) (status : ProfileStatus)
      (h : turn = .finish after (.error status) []) :
      (turn.task = .idle ∨ ∃ request attempt, turn.task = .awaitAnswer request attempt ∧
        AwaitsUa turn.channel) ∧ turn.result ≠ some (.finished (.ok ())) := by
    rw [h]
    exact ⟨.inl (finish_error after status []).1, (finish_error after status []).2⟩
  unfold startOnStream at hturn
  dsimp only at hturn
  by_cases huse : channel.options.hdlcUseSession = true
  · rw [huse, Bool.not_true, if_neg Bool.false_ne_true] at hturn
    by_cases hopen : isOpen = true
    · rw [hopen, Bool.not_true, if_neg Bool.false_ne_true] at hturn
      unfold startCall at hturn
      dsimp only at hturn
      by_cases hside : (!channel.options.hdlcUseSession) = true ∨
          channel.options.hdlcRole ≠ .client
      · rw [if_pos hside] at hturn
        exact hfailed _ _ hturn
      · rw [if_neg hside] at hturn
        rcases hensured : ensureSession channel with status | ensured
        · rw [hensured] at hturn
          exact hfailed _ _ hturn
        · rw [hensured] at hturn
          dsimp only at hturn
          rcases hrequest : ensured.session.buildConnectRequest with ⟨status | output, session⟩
          · rw [hrequest] at hturn
            exact hfailed _ _ hturn
          · rw [hrequest] at hturn
            rcases ensured.session.buildConnectRequestInternal_cases _ [] with
              ⟨status, hrefused⟩ | ⟨hrole, hstate, built, hbuilt⟩
            · cases hrequest.symm.trans hrefused
            -- The SNRM is out, and the session waits.
            · have hsession : session = { ensured.session.resetSequences with
                  state := .awaitingConnection } :=
                congrArg Prod.snd (hrequest.symm.trans hbuilt)
              have hsame : ensured.options = channel.options :=
                options_ensureSession channel ensured hensured
              rw [hturn]
              refine ⟨.inr ⟨_, _, rfl, ?_⟩, ?_⟩
              · rw [hsession]
                exact ⟨(congrArg (·.hdlcUseSession) hsame).trans huse, hrole, rfl⟩
              · simp
    · rw [Bool.not_eq_true] at hopen
      rw [hopen, Bool.not_false, if_pos rfl] at hturn
      exact hfailed _ _ hturn
  · rw [Bool.not_eq_true] at huse
    rw [huse, Bool.not_false, if_pos rfl] at hturn
    exact hfailed _ _ hturn

/-- A server that accepts has failed, or it waits for a SNRM. -/
theorem startOnStream_acceptDataLink :
    let turn := startOnStream { channel := channel, isOpen := isOpen } .acceptDataLink
    (turn.task = .idle ∨ turn.task = .acceptDataLink) ∧
      turn.result ≠ some (.finished (.ok ())) := by
  intro turn
  have hfailed (after : HdlcProfileChannel) (status : ProfileStatus)
      (h : turn = .finish after (.error status) []) :
      (turn.task = .idle ∨ turn.task = .acceptDataLink) ∧
        turn.result ≠ some (.finished (.ok ())) := by
    rw [h]
    exact ⟨.inl (finish_error after status []).1, (finish_error after status []).2⟩
  have hturn : turn = startOnStream { channel := channel, isOpen := isOpen } .acceptDataLink := rfl
  unfold startOnStream startCall at hturn
  dsimp only at hturn
  rcases hensured : ensureSession channel with status | ensured
  · rw [hensured] at hturn
    split_ifs at hturn
    · exact hfailed _ _ hturn
    · exact hfailed _ _ hturn
    · exact hfailed _ _ hturn
    · exact hfailed _ _ hturn
  · rw [hensured] at hturn
    split_ifs at hturn
    · exact hfailed _ _ hturn
    · exact hfailed _ _ hturn
    · exact hfailed _ _ hturn
    · rw [hturn]
      exact ⟨.inr rfl, by simp⟩

/-- A side that opens the link and returns ok is connected: a server always, and
    a client exactly when no DM is taken for the answer. -/
theorem connected_of_finished_iff (role : HdlcProfileRole)
    (reads : List (Except ProfileStatus Bytes)) :
    (∀ t ∈ run useStep (openingEvents role reads) { channel := channel, isOpen := isOpen },
        ConnectedIfOk t) ↔
      (role = .client → Admits useStep (fun _ used event => NotRefused used event) []
        (openingEvents role reads) { channel := channel, isOpen := isOpen }) := by
  have hread : ∀ event ∈ reads.map ChannelEvent.read, ∃ read, event = .read read := by
    intro event hevent
    rcases List.mem_map.mp hevent with ⟨read, -, rfl⟩
    exact ⟨read, rfl⟩
  cases role with
  | client =>
      -- The call starts without a result, and every read after it keeps the invariant.
      rcases startOnStream_connectDataLink channel isOpen with ⟨hstart, hresult⟩
      have hrun := Machine.forall_mem_iff_admits useStep Connecting (∃ read, · = .read read)
        ConnectedIfOk NotRefused
        (by
          rintro used _ ⟨read, rfl⟩ hconnecting -
          exact (useStep_connecting used read hconnecting).1)
        (by
          rintro used _ ⟨read, rfl⟩ hconnecting
          exact (useStep_connecting used read hconnecting).2)
        (reads.map .read)
        [transition useStep (.start .connectDataLink) { channel := channel, isOpen := isOpen }]
        (useStep (.start .connectDataLink) { channel := channel, isOpen := isOpen }).2 hread hstart
      constructor
      · intro hall _
        refine ⟨?_, hrun.mp fun t ht => hall t (List.mem_cons_of_mem _ ht)⟩
        intro read _ _ _ hevent
        cases hevent
      · intro hadmits t ht
        rcases List.mem_cons.mp ht with rfl | hlater
        · exact fun hok => absurd hok hresult
        · exact hrun.mpr (hadmits rfl).2 t hlater
  | server =>
      rcases startOnStream_acceptDataLink channel isOpen with ⟨hstart, hresult⟩
      have hrun := Machine.forall_mem_iff_admits useStep Accepting (∃ read, · = .read read)
        ConnectedIfOk (fun _ _ => True)
        (by
          rintro used _ ⟨read, rfl⟩ haccepting -
          exact (useStep_accepting used read haccepting).1)
        (by
          rintro used _ ⟨read, rfl⟩ haccepting
          exact iff_of_true (useStep_accepting used read haccepting).2 trivial)
        (reads.map .read) []
        (useStep (.start .acceptDataLink) { channel := channel, isOpen := isOpen }).2 hread hstart
      refine iff_of_true (fun t ht => ?_) (fun hrole => absurd hrole (by decide))
      rcases List.mem_cons.mp ht with rfl | hlater
      · exact fun hok => absurd hok hresult
      · exact hrun.mpr (Machine.admits_of_forall useStep _ (fun _ _ _ => trivial) _ _ _) t hlater

end Starts

/-! ### A meter that refuses -/

/-- The DM of a meter. -/
def refusal : Bytes :=
  Hdlc.frameBytes
    { segmented := false
      destination := readerSession.clientAddress
      source := readerSession.serverAddress
      control := Hdlc.dm
      information := [] }

/-- The connect that a meter refuses returns ok. -/
theorem not_connected_of_finished :
    ¬∀ t ∈ run useStep (openingEvents .client [.ok refusal])
        { channel := .create (readerOptions 65535), isOpen := true }, ConnectedIfOk t := by
  intro hall
  have hfinished : ∃ t ∈ run useStep (openingEvents .client [.ok refusal])
      { channel := .create (readerOptions 65535), isOpen := true },
      t.output.1 = some (.finished (.ok ())) ∧ t.after.channel.session.state ≠ .connected := by
    exact ⟨_, List.mem_cons_of_mem _ List.mem_cons_self, by decide +kernel, by decide +kernel⟩
  rcases hfinished with ⟨t, ht, hok, hstate⟩
  exact hstate (hall t ht hok)

end Profile

end Dlms
