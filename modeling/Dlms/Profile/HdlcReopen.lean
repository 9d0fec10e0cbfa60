import Dlms.Hdlc.Calls
import Dlms.Machine.Run
import Dlms.Profile.HdlcLink

/-!
# Closing a channel and opening it again

Closing a channel empties its decoder, its reassembler and its queues, and
leaves the session as it is. The session is made anew when the next link is
connected, but only if it is disconnected by then. A channel that is closed in
the middle of a connection, or while it waits for a UA, therefore never connects
again: its SNRM is refused by its own session.

The history of a channel is any list of events: calls, what they read, and
calls that end early because a write or a wait has failed.

## Main definitions

* `close`: What closing does.
* `UsedChannel`, `ChannelEvent`, `useStep`: A channel in use, and its history.
* `StartsAnew`: The next link starts anew.

## Theorems

* `connects_reads`: A UA that arrives in pieces and with failures in between.
* `startsAnew_iff`: A closed channel starts anew exactly when its session was
  disconnected.
* `not_startsAnew`: A connect whose UA never came, and a peer that vanished.
-/

namespace Dlms

namespace Profile

open Apdu (Bytes)
open Hdlc (Fits HdlcControl HdlcFrame HdlcSession HdlcSessionOptions HdlcStreamDecoder
  JustConnected frameBytes snrmControl)
open Machine (final run)

namespace HdlcProfileChannel

def close (channel : HdlcProfileChannel) : HdlcProfileChannel :=
  { channel with
    decoder := channel.decoder.reset
    reassembler := channel.reassembler.reset
    pendingHdlcFrames := []
    pendingApdus := [] }

end HdlcProfileChannel

/-! ### A channel in use -/

/-- A channel with the call that it is in, on a stream that is open or not. -/
structure UsedChannel where
  channel : HdlcProfileChannel
  task : Task := .idle
  isOpen : Bool := false
  deriving DecidableEq

inductive ChannelEvent where
  /-- The stream is opened, and is open then or not. -/
  | openStream (isOpen : Bool)
  /-- The channel is closed, with its stream or without. -/
  | close (isOpen : Bool)
  /-- The stream is lost. -/
  | lose
  | start (call : Call)
  /-- The call that is under way reads, or goes on without. -/
  | read (read : Except ProfileStatus Bytes)
  /-- It ends early, as its write or its wait has failed. -/
  | abandon

/-- The calls of the data link ask for an open stream. -/
def startOnStream (used : UsedChannel) (call : Call) : Turn :=
  match call with
  | .sendApdu _ | .receiveApdu => startCall used.channel call
  | _ =>
      if !used.channel.options.hdlcUseSession then
        .finish used.channel (.error .unsupportedFeature) []
      else if !used.isOpen then .finish used.channel (.error .notOpen) []
      else startCall used.channel call

/-- What an event writes and returns, and what it leaves. -/
def useStep (event : ChannelEvent) (used : UsedChannel) :
    (Option CallResult × Bytes) × UsedChannel :=
  let after (turn : Turn) : (Option CallResult × Bytes) × UsedChannel :=
    ((turn.result, turn.written), { used with channel := turn.channel, task := turn.task })
  match event with
  | .openStream isOpen => ((none, []), { used with isOpen := isOpen })
  | .close isOpen => ((none, []), { channel := used.channel.close, isOpen := isOpen })
  | .lose => ((none, []), { used with isOpen := false })
  | .start call =>
      if used.task = .idle then after (startOnStream used call) else ((none, []), used)
  | .read read => after (continueTask used.channel used.task read)
  | .abandon => ((none, []), { used with task := .idle })

def newChannel (options : ApduChannelOptions) : UsedChannel where
  channel := .create options

/-! ### What a link that starts anew does -/

/-- The octets that reads have brought. -/
def octetsOf : List (Except ProfileStatus Bytes) → Bytes
  | [] => []
  | .ok data :: reads => data ++ octetsOf reads
  | .error _ :: reads => octetsOf reads

/-- The reads that have brought nothing. -/
def failuresOf (reads : List (Except ProfileStatus Bytes)) : Nat :=
  reads.countP fun read =>
    match read with
    | .ok data => data.isEmpty
    | .error _ => true

/-- Octets that arrive within the retries of a channel, however they are cut. -/
structure Arrives (options : ApduChannelOptions) (octets : Bytes)
    (reads : List (Except ProfileStatus Bytes)) : Prop where
  octets : octetsOf reads = octets
  retriable : ∀ status, .error status ∈ reads → isRetriableReceiveStatus status = true
  retried : failuresOf reads ≤ options.hdlcRetryCount.toNat

/-- A UA from the server of a session, within the limits of the channel. -/
structure Answers (session : HdlcSession) (limits : Hdlc.HdlcCodecLimits) (frame : HdlcFrame) :
    Prop where
  addresses : session.incomingAddressesMatch frame = true
  kind : frame.control.unnumberedKind = .ok .ua
  fits : Fits frame limits

/-- The next link starts anew: it begins with a SNRM, and a UA to it leaves the
    session connected and counting from zero. -/
structure StartsAnew (options : ApduChannelOptions) (sessionOptions : HdlcSessionOptions)
    (used : UsedChannel) : Prop where
  snrm : ∃ field information, field.rawValue = snrmControl ∧
    (useStep (.start .connectDataLink) used).1.2 =
      frameBytes ((HdlcSession.create sessionOptions).outgoing field information)
  connected : ∀ ua reads, Answers (.create sessionOptions) sessionOptions.limits ua →
    Arrives options (frameBytes ua) reads →
      JustConnected
          (final useStep (.start .connectDataLink :: reads.map .read) used).channel.session ∧
        ∃ t ∈ run useStep (.start .connectDataLink :: reads.map .read) used,
          t.output.1 = some (.finished (.ok ()))

/-! ### The answer arrives -/

section Answer

variable (options : ApduChannelOptions) (sessionOptions : HdlcSessionOptions)

/-- A new session that has sent its SNRM. -/
def awaitingSession : HdlcSession :=
  { (HdlcSession.create sessionOptions).resetSequences with state := .awaitingConnection }

/-- Its channel, with some octets that wait. -/
def awaitingChannel (buffer : Bytes) : HdlcProfileChannel :=
  { HdlcProfileChannel.withSession options sessionOptions with
    decoder := { HdlcProfileChannel.makeDecoder sessionOptions.limits with buffer := buffer }
    session := awaitingSession sessionOptions }

/-- The channel while it waits for the answer to its SNRM. -/
def awaitingUse (buffer request : Bytes) (attempt : Nat) (isOpen : Bool) : UsedChannel where
  channel := awaitingChannel options sessionOptions buffer
  task := .awaitAnswer request attempt
  isOpen := isOpen

variable (buffer request : Bytes) (attempt : Nat) (isOpen : Bool)

/-- A read that brings nothing is tried again. -/
theorem useStep_failed (read : Except ProfileStatus Bytes) (status : ProfileStatus)
    (hread : read = .error status ∨ read = .ok [] ∧ status = .needMoreData)
    (hretriable : isRetriableReceiveStatus status = true)
    (hattempt : attempt < options.hdlcRetryCount.toNat) :
    (useStep (.read read) (awaitingUse options sessionOptions buffer request attempt isOpen)).2 =
      awaitingUse options sessionOptions buffer request (attempt + 1) isOpen := by
  have hnext : (awaitingChannel options sessionOptions buffer).nextFrame read =
      (.error status, awaitingChannel options sessionOptions buffer) := by
    rcases hread with rfl | ⟨rfl, rfl⟩
    · rfl
    · rfl
  have hnot : ¬((!isRetriableReceiveStatus status) = true ∨
      attempt ≥ options.hdlcRetryCount.toNat) := by
    rw [hretriable]
    rintro (hother | hmany)
    · exact absurd hother Bool.false_ne_true
    · omega
  simp only [useStep, awaitingUse, continueTask, hnext, continueWith, retryAnswer]
  rw [show (awaitingChannel options sessionOptions buffer).options = options from rfl,
    if_neg hnot]

/-- Octets of the answer that do not complete it wait with the others. -/
theorem useStep_partial (data buffer' : Bytes) (hdata : data ≠ [])
    (hpush : (awaitingChannel options sessionOptions buffer).decoder.push data =
      (.error .needMoreData, [],
        { HdlcProfileChannel.makeDecoder sessionOptions.limits with buffer := buffer' })) :
    (useStep (.read (.ok data))
        (awaitingUse options sessionOptions buffer request attempt isOpen)).2 =
      awaitingUse options sessionOptions buffer' request attempt isOpen := by
  cases data with
  | nil => exact absurd rfl hdata
  | cons first data =>
      have hnext : (awaitingChannel options sessionOptions buffer).nextFrame
          (.ok (first :: data)) = (.ok none, awaitingChannel options sessionOptions buffer') := by
        rw [HdlcProfileChannel.nextFrame,
          show (awaitingChannel options sessionOptions buffer).pendingHdlcFrames = [] from rfl]
        simp only [HdlcProfileChannel.receiveDecodedFrame, hpush]
        rfl
      simp [useStep, awaitingUse, continueTask, hnext, continueWith]

/-- The session accepts the answer. -/
theorem receiveFrame_answer (ua : HdlcFrame)
    (hua : Answers (.create sessionOptions) sessionOptions.limits ua) :
    ∃ connected, (awaitingSession sessionOptions).receiveFrame ua = (.ok (), connected) ∧
      JustConnected connected := by
  have hmatch : (awaitingSession sessionOptions).incomingAddressesMatch ua = true := hua.addresses
  have hkind := HdlcSession.unnumberedKind_eq_ok ua.control .ua hua.kind
  have hreceived : (awaitingSession sessionOptions).receiveFrame ua =
      (awaitingSession sessionOptions).receiveUa ua.information := by
    rw [HdlcSession.receiveFrame_unnumbered _ ua hmatch hkind, HdlcSession.receiveUnnumberedFrame,
      hua.kind]
  refine ⟨_, ?_, HdlcSession.justConnected_of_receiveUa (awaitingSession sessionOptions)
    ua.information rfl⟩
  rw [hreceived]
  rcases (awaitingSession sessionOptions).receiveUa_cases ua.information with
    ⟨-, hconnected⟩ | ⟨hstate, -⟩ | ⟨⟨hstate, -⟩, -⟩
  · rw [hconnected]
  · exact absurd hstate (by simp [awaitingSession])
  · exact absurd rfl hstate

/-- The octets that complete the answer connect the session. -/
theorem useStep_complete (data buffer' : Bytes) (ua : HdlcFrame) (hdata : data ≠ [])
    (hua : Answers (.create sessionOptions) sessionOptions.limits ua)
    (hpush : (awaitingChannel options sessionOptions buffer).decoder.push data =
      (.ok (), [ua],
        { HdlcProfileChannel.makeDecoder sessionOptions.limits with buffer := buffer' })) :
    ∃ after, useStep (.read (.ok data))
        (awaitingUse options sessionOptions buffer request attempt isOpen) =
          ((some (.finished (.ok ())), []), after) ∧
      after.task = .idle ∧ JustConnected after.channel.session := by
  rcases receiveFrame_answer sessionOptions ua hua with ⟨connected, hreceived, hjust⟩
  have hkind := HdlcSession.unnumberedKind_eq_ok ua.control .ua hua.kind
  cases data with
  | nil => exact absurd rfl hdata
  | cons first data =>
      -- The octets bring exactly the UA, which the session takes.
      have hnext : (awaitingChannel options sessionOptions buffer).nextFrame
          (.ok (first :: data)) =
            (.ok (some ua), awaitingChannel options sessionOptions buffer') := by
        rw [HdlcProfileChannel.nextFrame,
          show (awaitingChannel options sessionOptions buffer).pendingHdlcFrames = [] from rfl]
        simp only [HdlcProfileChannel.receiveDecodedFrame, hpush]
        rfl
      have hhandled : (awaitingChannel options sessionOptions buffer').handleSessionControlFrame
          ua = (.ok (), { awaitingChannel options sessionOptions buffer' with
            session := connected }, []) := by
        rw [HdlcProfileChannel.handleSessionControlFrame, if_neg (by rw [hkind]; decide)]
        rw [show (awaitingChannel options sessionOptions buffer').session =
          awaitingSession sessionOptions from rfl, hreceived]
      simp only [useStep, awaitingUse, continueTask, hnext, continueWith, hhandled, Turn.finish]
      exact ⟨_, rfl, rfl, hjust⟩

/-- A channel that is in no call reads nothing. -/
theorem final_reads_idle (used : UsedChannel) (reads : List (Except ProfileStatus Bytes))
    (hidle : used.task = .idle) : final useStep (reads.map .read) used = used := by
  induction reads with
  | nil => rfl
  | cons read reads ih =>
      have hread : (useStep (.read read) used).2 = used := by
        simp only [useStep, hidle, continueTask]
        rw [← hidle]
      rw [List.map_cons, final, hread]
      exact ih

/-- However the answer is cut, and whatever fails within the retries, it connects
    the session. The induction is on the reads still to come; the octets that
    wait in the decoder and those to come are the answer. -/
theorem connects_reads (ua : HdlcFrame) (reads : List (Except ProfileStatus Bytes))
    (hua : Answers (.create sessionOptions) sessionOptions.limits ua)
    (hoctets : buffer ++ octetsOf reads = frameBytes ua)
    (hwaiting : HdlcStreamDecoder.Waiting buffer [ua])
    (hretriable : ∀ status, .error status ∈ reads → isRetriableReceiveStatus status = true)
    (hretried : attempt + failuresOf reads ≤ options.hdlcRetryCount.toNat) :
    JustConnected (final useStep (reads.map .read)
        (awaitingUse options sessionOptions buffer request attempt isOpen)).channel.session ∧
      ∃ t ∈ run useStep (reads.map .read)
          (awaitingUse options sessionOptions buffer request attempt isOpen),
        t.output.1 = some (.finished (.ok ())) := by
  induction reads generalizing buffer attempt with
  | nil =>
      have hshort := hwaiting ua rfl
      rw [← hoctets, octetsOf, List.append_nil] at hshort
      exact absurd hshort (Nat.lt_irrefl _)
  | cons read reads ih =>
      have hlater : ∀ status, .error status ∈ reads → isRetriableReceiveStatus status = true :=
        fun status hmem => hretriable status (List.mem_cons_of_mem _ hmem)
      -- A failure uses up one of the retries.
      have hfailed (status : ProfileStatus)
          (hread : read = .error status ∨ read = .ok [] ∧ status = .needMoreData)
          (hstatus : isRetriableReceiveStatus status = true) :
          JustConnected (final useStep ((read :: reads).map .read)
              (awaitingUse options sessionOptions buffer request attempt isOpen)).channel.session ∧
            ∃ t ∈ run useStep ((read :: reads).map .read)
                (awaitingUse options sessionOptions buffer request attempt isOpen),
              t.output.1 = some (.finished (.ok ())) := by
        have hcount : failuresOf (read :: reads) = failuresOf reads + 1 := by
          rcases hread with rfl | ⟨rfl, -⟩
          · exact List.countP_cons_of_pos rfl
          · exact List.countP_cons_of_pos rfl
        have hsame : octetsOf (read :: reads) = octetsOf reads := by
          rcases hread with rfl | ⟨rfl, -⟩
          · rfl
          · rfl
        rw [hcount] at hretried
        rw [hsame] at hoctets
        have hstep := useStep_failed options sessionOptions buffer request attempt isOpen read
          status hread hstatus (by omega)
        rcases ih buffer (attempt + 1) hoctets hwaiting hlater (by omega) with
          ⟨hjust, t, ht, hresult⟩
        rw [List.map_cons, final, run, hstep]
        exact ⟨hjust, t, List.mem_cons_of_mem _ ht, hresult⟩
      cases read with
      | error status =>
          exact hfailed status (.inl rfl) (hretriable status List.mem_cons_self)
      | ok data =>
          by_cases hdata : data = []
          · rw [hdata] at hfailed ⊢
            exact hfailed .needMoreData (.inr ⟨rfl, rfl⟩) rfl
          · have hstream : buffer ++ data ++ octetsOf reads =
                HdlcStreamDecoder.streamBytes [ua] := by
              rw [List.append_assoc, HdlcStreamDecoder.streamBytes_cons]
              exact hoctets.trans (List.append_nil _).symm
            rcases HdlcStreamDecoder.push_frames sessionOptions.limits .ignoreUntilOpeningFlag
              (octetsOf reads) buffer data [ua]
              (fun frame hmem => by rw [List.mem_singleton.mp hmem]; exact hua.fits) hstream with
              ⟨found, left, buffer', hsplit, hpush, hrest, hnext⟩
            cases found with
            | nil =>
                have hleft : left = [ua] := hsplit.symm
                rw [hleft] at hrest hnext
                have hcount : failuresOf (.ok data :: reads) = failuresOf reads := by
                  rw [failuresOf, List.countP_cons_of_neg, failuresOf]
                  rw [List.isEmpty_iff]
                  exact hdata
                have hstep := useStep_partial options sessionOptions buffer request attempt isOpen
                  data buffer' hdata hpush
                rw [hcount] at hretried
                rcases ih buffer' attempt
                  (hrest.trans (List.append_nil _)) hnext hlater hretried with
                  ⟨hjust, t, ht, hresult⟩
                rw [List.map_cons, final, run, hstep]
                exact ⟨hjust, t, List.mem_cons_of_mem _ ht, hresult⟩
            | cons frame found =>
                rcases List.cons.inj hsplit with ⟨hframe, hnone⟩
                rw [← hframe, (List.append_eq_nil_iff.mp hnone.symm).1] at hpush
                rcases useStep_complete options sessionOptions buffer request attempt isOpen data
                  buffer' ua hdata hua hpush with ⟨after, hstep, hidle, hjust⟩
                refine ⟨?_, _, List.mem_cons_self, ?_⟩
                · rw [List.map_cons, final, hstep, final_reads_idle after reads hidle]
                  exact hjust
                · show (useStep _ _).1.1 = _
                  rw [hstep]

end Answer

/-! ### The next link -/

/-- A frame with little information has its place between the limits that a
    channel starts with. -/
theorem fits_of_short (frame : HdlcFrame) (limits : Hdlc.HdlcCodecLimits)
    (hlength : frame.information.length ≤ 23) (hframe : limits.maximumFrameSize = 2049)
    (hinformation : limits.maximumInformationFieldSize = 0) : Fits frame limits := by
  have hdestination := frame.destination.size_cases
  have hsource := frame.source.size_cases
  have hheader : Hdlc.headerSize frame =
      2 + frame.destination.encodedSize + frame.source.encodedSize + 1 := rfl
  have hmaximum : Hdlc.effectiveMaximumFrameSize limits = 2049 := by
    rw [Hdlc.effectiveMaximumFrameSize, hframe]
    rfl
  have hformat : Hdlc.formatFieldLength frame ≤
      Hdlc.headerSize frame + 2 + frame.information.length + 2 := by
    have hchecksum : (if frame.information = [] then 0 else 2) ≤ 2 := by
      split_ifs
      · exact Nat.zero_le _
      · exact le_rfl
    rw [Hdlc.formatFieldLength]
    omega
  refine ⟨?_, ?_, ?_⟩
  · rw [Hdlc.effectiveMaximumInformationFieldSize, hinformation, hmaximum,
      if_neg (not_not.mpr rfl), if_neg (by omega)]
    omega
  · rw [Hdlc.maximumFormatFieldLength]
    omega
  · rw [hmaximum, Hdlc.fullFrameSize]
    omega

section NextLink

variable (options : ApduChannelOptions) (sessionOptions : HdlcSessionOptions)
  (hoptions : makeHdlcSessionOptions options = .ok sessionOptions)
include hoptions

theorem role_of_makeHdlcSessionOptions :
    sessionOptions.role = toHdlcSessionRole options.hdlcRole ∧
      sessionOptions.limits.maximumFrameSize = 2049 ∧
      sessionOptions.limits.maximumInformationFieldSize = 0 := by
  unfold makeHdlcSessionOptions at hoptions
  split at hoptions
  · cases hoptions
  · split at hoptions
    · cases hoptions
    · rw [← Except.ok.inj hoptions]
      exact ⟨rfl, rfl, rfl⟩

/-- A new client can always send its SNRM. -/
theorem buildConnectRequest_create (hrole : options.hdlcRole = .client) :
    ∃ field information, field.rawValue = snrmControl ∧
      (HdlcSession.create sessionOptions).buildConnectRequest =
        (.ok (frameBytes ((HdlcSession.create sessionOptions).outgoing field information)),
          awaitingSession sessionOptions) := by
  rcases role_of_makeHdlcSessionOptions options sessionOptions hoptions with
    ⟨hsessionRole, hframeSize, hinformationSize⟩
  rw [hrole] at hsessionRole
  let created := HdlcSession.create sessionOptions
  let own := created.options.negotiationLimits
  let information : Bytes :=
    (if own != Hdlc.defaultHdlcSessionNegotiationLimits then
      Hdlc.encodeSnrmNegotiationBlock
        { maxInfoTx := own.maxInformationFieldLengthTransmit
          maxInfoRx := own.maxInformationFieldLengthReceive
          windowTx := own.windowSizeTransmit.toNat
          windowRx := own.windowSizeReceive.toNat }
    else []) ++ []
  -- The parameters are 23 octets at most, which every limit leaves room for.
  have hlength : information.length ≤ 23 := by
    simp only [information]
    split_ifs
    · exact le_rfl
    · exact Nat.zero_le _
  have hbuilt : created.buildFrame snrmControl information =
      .ok (frameBytes (created.outgoing Hdlc.snrm information)) :=
    created.buildFrame_of_fits Hdlc.snrm information
      (fits_of_short _ created.options.limits hlength hframeSize hinformationSize)
  have hclient : created.options.role = .client := hsessionRole
  have hdisconnected : created.state = .disconnected := rfl
  refine ⟨Hdlc.snrm, information, rfl, ?_⟩
  show created.buildConnectRequestInternal (own != Hdlc.defaultHdlcSessionNegotiationLimits) [] = _
  unfold HdlcSession.buildConnectRequestInternal
  rw [if_neg (not_not.mpr hclient), if_neg (not_not.mpr hdisconnected)]
  dsimp only
  rw [hbuilt]
  rfl

omit hoptions in
/-- A channel in session mode for a client, closed and opened again. -/
def reopened (closed : Bool) (used : UsedChannel) : UsedChannel :=
  final useStep [.close closed, .openStream true] used

variable (used : UsedChannel) (closed : Bool) (hused : used.channel.options = options)
  (huse : options.hdlcUseSession = true) (hrole : options.hdlcRole = .client)
include hused huse hrole

omit hoptions hrole in
theorem start_reopened : startOnStream (reopened closed used) .connectDataLink =
    startCall used.channel.close .connectDataLink := by
  have hopen : (reopened closed used).isOpen = true := rfl
  have hchannel : (reopened closed used).channel = used.channel.close := rfl
  have hsession : used.channel.close.options.hdlcUseSession = true := by
    show used.channel.options.hdlcUseSession = true
    rw [hused]
    exact huse
  simp [startOnStream, hopen, hchannel, hsession]

omit hoptions in
theorem startCall_connectDataLink : startCall used.channel.close .connectDataLink =
    match ensureSession used.channel.close with
    | .error status => .finish used.channel.close (.error status) []
    | .ok channel =>
        match channel.session.buildConnectRequest with
        | (.error status, session) =>
            .finish { channel with session := session } (.error (mapHdlcStatus status)) []
        | (.ok frameBytes, session) =>
            { channel := { channel with session := session }
              task := .awaitAnswer frameBytes 0
              written := frameBytes } := by
  have hpermitted : ¬((!used.channel.close.options.hdlcUseSession) = true ∨
      used.channel.close.options.hdlcRole ≠ .client) := by
    show ¬((!used.channel.options.hdlcUseSession) = true ∨
      used.channel.options.hdlcRole ≠ .client)
    rw [hused, huse, hrole]
    rintro (hother | hother)
    · exact absurd hother Bool.false_ne_true
    · exact hother rfl
  unfold startCall
  dsimp only
  exact (if_neg hpermitted).trans rfl

/-- A disconnected session is made anew, and its SNRM goes out. -/
theorem useStep_connect (hstate : used.channel.session.state = .disconnected) :
    ∃ field information, field.rawValue = snrmControl ∧
      useStep (.start .connectDataLink) (reopened closed used) =
        ((none, frameBytes ((HdlcSession.create sessionOptions).outgoing field information)),
          awaitingUse options sessionOptions []
            (frameBytes ((HdlcSession.create sessionOptions).outgoing field information)) 0
            true) := by
  rcases buildConnectRequest_create options sessionOptions hoptions hrole with
    ⟨field, information, hfield, hbuilt⟩
  have hensured : ensureSession used.channel.close =
      .ok (HdlcProfileChannel.withSession options sessionOptions) := by
    unfold ensureSession
    rw [show used.channel.close.options = options from hused, hoptions]
    dsimp only
    rw [if_pos (show used.channel.close.session.state = .disconnected from hstate)]
    rfl
  refine ⟨field, information, hfield, ?_⟩
  have hidle : (reopened closed used).task = .idle := rfl
  simp only [useStep]
  rw [if_pos hidle, start_reopened options used closed hused huse,
    startCall_connectDataLink options used hused huse hrole, hensured]
  dsimp only
  rw [show (HdlcProfileChannel.withSession options sessionOptions).session =
    HdlcSession.create sessionOptions from rfl, hbuilt]
  rfl

omit hoptions in
/-- Any other session refuses its own SNRM. -/
theorem written_connect (hstate : used.channel.session.state ≠ .disconnected) :
    (useStep (.start .connectDataLink) (reopened closed used)).1.2 = [] := by
  have hidle : (reopened closed used).task = .idle := rfl
  simp only [useStep]
  rw [if_pos hidle, start_reopened options used closed hused huse,
    startCall_connectDataLink options used hused huse hrole]
  unfold ensureSession
  cases makeHdlcSessionOptions used.channel.close.options with
  | error status => rfl
  | ok sessionOptions =>
      dsimp only
      rw [if_neg (show ¬used.channel.close.session.state = .disconnected from hstate)]
      dsimp only
      rcases used.channel.close.session.buildConnectRequestInternal_cases
        (used.channel.close.session.options.negotiationLimits !=
          Hdlc.defaultHdlcSessionNegotiationLimits) [] with
        ⟨status, hrefused⟩ | ⟨-, hdisconnected, -⟩
      · rw [HdlcSession.buildConnectRequest, hrefused]
        rfl
      · exact absurd hdisconnected hstate

/-- A closed channel starts anew exactly when its session was disconnected. -/
theorem startsAnew_reopened_iff :
    StartsAnew options sessionOptions (reopened closed used) ↔
      used.channel.session.state = .disconnected := by
  constructor
  · intro hanew
    by_contra hstate
    rcases hanew.snrm with ⟨field, information, -, hwritten⟩
    rw [written_connect options used closed hused huse hrole hstate,
      Hdlc.frameBytes_checked] at hwritten
    exact absurd hwritten (List.cons_ne_nil _ _).symm
  · intro hstate
    rcases useStep_connect options sessionOptions hoptions used closed hused huse hrole hstate with
      ⟨field, information, hfield, hstep⟩
    refine ⟨⟨field, information, hfield, by rw [hstep]⟩, ?_⟩
    intro ua reads hua harrives
    rcases connects_reads options sessionOptions [] _ 0 true ua reads hua harrives.octets
      (HdlcStreamDecoder.waiting_nil _) harrives.retriable
      (by rw [Nat.zero_add]; exact harrives.retried) with ⟨hjust, t, ht, hresult⟩
    rw [final, run, hstep]
    exact ⟨hjust, t, List.mem_cons_of_mem _ ht, hresult⟩

end NextLink

/-! ### The options stay -/

namespace HdlcProfileChannel

section Options

variable (channel : HdlcProfileChannel)

theorem options_buildSessionInformationFrame (information : Bytes) (segmented pollFinal : Bool) :
    (channel.buildSessionInformationFrame information segmented pollFinal).2.options =
      channel.options := by
  unfold buildSessionInformationFrame
  rcases channel.session.buildInformationFrame information pollFinal with
    ⟨status | frameBytes, session⟩
  · rfl
  · dsimp only
    split_ifs
    · rfl
    · cases Hdlc.decodeFrame frameBytes channel.hdlcLimits with
      | error status => rfl
      | ok decoded =>
          dsimp only
          cases Hdlc.encodeFrame { decoded with segmented := true } channel.hdlcLimits with
          | error status => rfl
          | ok bytes => rfl

theorem options_decodeCompleteInformationToPendingApdu (frame : HdlcFrame) :
    (channel.decodeCompleteInformationToPendingApdu frame).2.options = channel.options := by
  unfold decodeCompleteInformationToPendingApdu
  rcases Llc.decodeLpdu frame.information false with status | ⟨header, lsdu⟩
  · rfl
  · dsimp only
    split_ifs
    · rfl
    · rfl

theorem options_decodeFrameToPendingApdu (frame : HdlcFrame) :
    (channel.decodeFrameToPendingApdu frame).2.1.options = channel.options := by
  unfold decodeFrameToPendingApdu
  by_cases hsession : (!channel.options.hdlcUseSession) = true
  · rw [if_pos hsession]
    by_cases hsegmented : frame.segmented = true
    · rw [if_pos hsegmented]
    · rw [if_neg hsegmented]
      exact channel.options_decodeCompleteInformationToPendingApdu frame
  · rw [if_neg hsession]
    -- A segment that is not the last is acknowledged, the last one is decoded.
    rcases channel.reassembler.pushFrame frame with ⟨status | completed, reassembler⟩
    · dsimp only
      by_cases hmore : mapHdlcStatus status ≠ .needMoreData
      · rw [if_pos hmore]
      · rw [if_neg hmore]
        rcases channel.session.receiveFrame frame with ⟨status | received, session⟩
        · rfl
        · dsimp only
          cases session.buildReceiveReadyFrame true with
          | error status => rfl
          | ok bytes => rfl
    · dsimp only
      rcases channel.session.receiveFrame frame with ⟨status | received, session⟩
      · rfl
      · dsimp only
        by_cases hempty : completed.information = []
        · rw [if_pos hempty]
        · rw [if_neg hempty]
          exact options_decodeCompleteInformationToPendingApdu _ completed

theorem options_handleSessionControlFrame (frame : HdlcFrame) :
    (channel.handleSessionControlFrame frame).2.1.options = channel.options := by
  unfold handleSessionControlFrame
  by_cases hinformation : frame.control.frameKind = .information
  · rw [if_pos hinformation]
    exact channel.options_decodeFrameToPendingApdu frame
  · rw [if_neg hinformation]
    rcases channel.session.receiveFrame frame with ⟨status | received, session⟩
    · rfl
    · rfl

/-- A read is for the decoder and its queue. -/
theorem kept_receiveDecodedFrame (read : Except ProfileStatus Bytes) :
    (channel.receiveDecodedFrame read).2.options = channel.options ∧
      (channel.receiveDecodedFrame read).2.session = channel.session ∧
      (channel.receiveDecodedFrame read).2.reassembler = channel.reassembler ∧
      (channel.receiveDecodedFrame read).2.pendingApdus = channel.pendingApdus := by
  unfold receiveDecodedFrame
  rcases read with status | data
  · exact ⟨rfl, rfl, rfl, rfl⟩
  · cases data with
    | nil => exact ⟨rfl, rfl, rfl, rfl⟩
    | cons first data =>
        dsimp only
        rcases channel.decoder.push (first :: data) with ⟨status | pushed, frames, decoder⟩
        · dsimp only
          split_ifs
          · exact ⟨rfl, rfl, rfl, rfl⟩
          · exact ⟨rfl, rfl, rfl, rfl⟩
        · cases frames with
          | nil => exact ⟨rfl, rfl, rfl, rfl⟩
          | cons frame later => exact ⟨rfl, rfl, rfl, rfl⟩

theorem kept_nextFrame (read : Except ProfileStatus Bytes) :
    (channel.nextFrame read).2.options = channel.options ∧
      (channel.nextFrame read).2.session = channel.session ∧
      (channel.nextFrame read).2.reassembler = channel.reassembler ∧
      (channel.nextFrame read).2.pendingApdus = channel.pendingApdus := by
  unfold nextFrame
  cases channel.pendingHdlcFrames with
  | nil => exact channel.kept_receiveDecodedFrame read
  | cons frame later => exact ⟨rfl, rfl, rfl, rfl⟩

theorem options_nextFrame (read : Except ProfileStatus Bytes) :
    (channel.nextFrame read).2.options = channel.options :=
  (channel.kept_nextFrame read).1

end Options

end HdlcProfileChannel

section Options

variable (channel : HdlcProfileChannel)

theorem options_sendSegment (sending : Sending) (written : Bytes) :
    (sendSegment channel sending written).channel.options = channel.options := by
  have hbuilt (information : Bytes) (segmented pollFinal : Bool) :=
    channel.options_buildSessionInformationFrame information segmented pollFinal
  unfold sendSegment
  dsimp only
  split
  · rename_i status after h
    rw [Turn.finish, ← hbuilt, h]
  · rename_i frameBytes after h
    have hafter : after.options = channel.options := by
      rw [← hbuilt, h]
    by_cases hfinal : decide (sending.index + 1 = sending.frameCount) = true
    · rw [if_pos hfinal]
      exact hafter
    · rw [if_neg hfinal]
      exact hafter

theorem options_deliverApdu (written : Bytes) :
    (deliverApdu channel written).channel.options = channel.options := by
  unfold deliverApdu
  cases channel.pendingApdus with
  | nil => rfl
  | cons apdu later => rfl

theorem options_startSendSessionInformation (lpdu : Bytes) :
    (startSendSessionInformation channel lpdu).channel.options = channel.options := by
  unfold startSendSessionInformation
  by_cases hstate : channel.session.state ≠ .connected
  · rw [if_pos hstate]
    rfl
  · rw [if_neg hstate]

theorem options_startSendApdu (apdu : Bytes) :
    (startSendApdu channel apdu).channel.options = channel.options := by
  unfold startSendApdu
  by_cases hlarge : channel.options.maximumApduSize ≠ 0 ∧
      apdu.length > channel.options.maximumApduSize
  · rw [if_pos hlarge]
    rfl
  · rw [if_neg hlarge]
    dsimp only
    cases Llc.encodeLpdu (Llc.makeLlcHeader (toLlcDirection channel.options.hdlcDirection))
        apdu with
    | error status => rfl
    | ok lpdu =>
        dsimp only
        by_cases hsession : channel.options.hdlcUseSession = true
        · rw [if_pos hsession]
          exact options_startSendSessionInformation channel lpdu
        · rw [if_neg hsession]
          cases buildFrame channel lpdu with
          | error status => rfl
          | ok frameBytes => rfl

theorem options_ensureSession (ensured : HdlcProfileChannel)
    (h : ensureSession channel = .ok ensured) : ensured.options = channel.options := by
  unfold ensureSession at h
  cases hoptions : makeHdlcSessionOptions channel.options with
  | error status =>
      rw [hoptions] at h
      cases h
  | ok sessionOptions =>
      rw [hoptions] at h
      dsimp only at h
      split_ifs at h
      · rw [← Except.ok.inj h]
        rfl
      · rw [Except.ok.inj h]

theorem options_startCall (call : Call) :
    (startCall channel call).channel.options = channel.options := by
  -- No call writes to the options, and a session made anew keeps them.
  cases call with
  | sendApdu apdu => exact options_startSendApdu channel apdu
  | receiveApdu => exact options_deliverApdu channel []
  | connectDataLink =>
      unfold startCall
      dsimp only
      split_ifs
      · rfl
      · cases hensured : ensureSession channel with
        | error status => rfl
        | ok ensured =>
            rw [← options_ensureSession channel ensured hensured]
            dsimp only
            rcases ensured.session.buildConnectRequest with ⟨status | frameBytes, session⟩
            · rfl
            · rfl
  | acceptDataLink =>
      unfold startCall
      dsimp only
      split_ifs
      · rfl
      · cases hensured : ensureSession channel with
        | error status => rfl
        | ok ensured => exact options_ensureSession channel ensured hensured
  | disconnectDataLink =>
      unfold startCall
      dsimp only
      split_ifs
      · rfl
      · rcases channel.session.buildDisconnectRequest [] with ⟨status | frameBytes, session⟩
        · rfl
        · rfl
  | acceptDisconnectDataLink =>
      unfold startCall
      dsimp only
      split_ifs
      · rfl
      · rfl

theorem options_retryAnswer (frameBytes : Bytes) (attempt : Nat) (status : ProfileStatus)
    (written : Bytes) :
    (retryAnswer channel frameBytes attempt status written).channel.options =
      channel.options := by
  unfold retryAnswer
  split_ifs
  · rfl
  · rfl

theorem options_answer (built : Except Hdlc.HdlcStatus Bytes × HdlcSession) (written : Bytes) :
    (answer channel built written).channel.options = channel.options := by
  rcases built with ⟨status | frameBytes, session⟩
  · rfl
  · rfl

/-- A call that receives an APDU puts a frame together. -/
theorem options_continueWith_receiveApdu (frame : HdlcFrame) :
    (continueWith channel .receiveApdu (.ok (some frame))).channel.options = channel.options := by
  have hdecoded := channel.options_decodeFrameToPendingApdu frame
  rcases hresult : channel.decodeFrameToPendingApdu frame with
    ⟨status | decoded, after, written⟩
  · rw [hresult] at hdecoded
    simp only [continueWith, hresult]
    split_ifs
    · exact hdecoded
    · exact hdecoded
  · rw [hresult] at hdecoded
    simp only [continueWith, hresult]
    exact (options_deliverApdu after written).trans hdecoded

theorem options_continueWith (task : Task)
    (frame : Except ProfileStatus (Option HdlcFrame)) :
    (continueWith channel task frame).channel.options = channel.options := by
  rcases frame with status | read
  · cases task with
    | awaitAnswer frameBytes attempt => exact options_retryAnswer channel _ _ _ _
    | idle => rfl
    | receiveApdu => rfl
    | sendInformation sending => rfl
    | acceptDataLink => rfl
    | acceptDisconnectDataLink => rfl
  · cases read with
    | none => rfl
    | some frame =>
        by_cases hreceives : task = .receiveApdu
        · rw [hreceives]
          exact options_continueWith_receiveApdu channel frame
        -- A frame is handled by the session, and then the call goes on.
        have hhandled := channel.options_handleSessionControlFrame frame
        rcases hresult : channel.handleSessionControlFrame frame with
          ⟨status | handled, after, written⟩
        all_goals rw [hresult] at hhandled
        · cases task with
          | idle => rfl
          | receiveApdu => exact absurd rfl hreceives
          | awaitAnswer frameBytes attempt =>
              simp only [continueWith, hresult]
              exact (options_retryAnswer after frameBytes attempt status written).trans hhandled
          | _ =>
              simp only [continueWith, hresult]
              exact hhandled
        · cases task with
          | idle => rfl
          | receiveApdu => exact absurd rfl hreceives
          | sendInformation sending =>
              simp only [continueWith, hresult]
              exact (options_sendSegment after sending written).trans hhandled
          | awaitAnswer frameBytes attempt =>
              simp only [continueWith, hresult]
              exact hhandled
          | _ =>
              simp only [continueWith, hresult]
              exact (options_answer after _ written).trans hhandled

theorem options_continueTask (task : Task) (read : Except ProfileStatus Bytes) :
    (continueTask channel task read).channel.options = channel.options := by
  have hread (task : Task) : (continueWith (channel.nextFrame read).2 task
      (channel.nextFrame read).1).channel.options = channel.options :=
    (options_continueWith _ task _).trans (channel.options_nextFrame read)
  cases task with
  | idle => rfl
  | sendInformation sending =>
      unfold continueTask
      dsimp only
      split_ifs
      · exact options_sendSegment channel sending []
      · exact hread _
  | receiveApdu => exact hread _
  | awaitAnswer frameBytes attempt => exact hread _
  | acceptDataLink => exact hread _
  | acceptDisconnectDataLink => exact hread _

end Options

theorem options_startOnStream (used : UsedChannel) (call : Call) :
    (startOnStream used call).channel.options = used.channel.options := by
  unfold startOnStream
  cases call with
  | sendApdu apdu => exact options_startCall used.channel _
  | receiveApdu => exact options_startCall used.channel _
  | connectDataLink | acceptDataLink | disconnectDataLink | acceptDisconnectDataLink =>
      dsimp only
      split_ifs
      · rfl
      · rfl
      · exact options_startCall used.channel _

/-- The options of a channel are those it was made with. -/
theorem options_useStep (event : ChannelEvent) (used : UsedChannel) :
    (useStep event used).2.channel.options = used.channel.options := by
  cases event with
  | openStream isOpen => rfl
  | close isOpen => rfl
  | lose => rfl
  | start call =>
      unfold useStep
      dsimp only
      split_ifs
      · exact options_startOnStream used call
      · rfl
  | read read => exact options_continueTask used.channel used.task read
  | abandon => rfl

theorem options_final (options : ApduChannelOptions) (events : List ChannelEvent) :
    (final useStep events (newChannel options)).channel.options = options := by
  refine (Machine.invariant_run useStep (fun used => used.channel.options = options)
    (fun used event h => (options_useStep event used).trans h) events (newChannel options)
    ?_).2
  show (HdlcProfileChannel.create options).options = options
  unfold HdlcProfileChannel.create
  cases makeHdlcSessionOptions options with
  | error status => rfl
  | ok sessionOptions => rfl

/-! ### Any history -/

/-- Whatever a channel for a client in session mode has been through: closed and
    opened again it starts a link anew exactly when its session was disconnected
    when it was closed. -/
theorem startsAnew_iff (options : ApduChannelOptions) (sessionOptions : HdlcSessionOptions)
    (hoptions : makeHdlcSessionOptions options = .ok sessionOptions)
    (huse : options.hdlcUseSession = true) (hrole : options.hdlcRole = .client)
    (events : List ChannelEvent) (closed : Bool) :
    StartsAnew options sessionOptions
        (reopened closed (final useStep events (newChannel options))) ↔
      (final useStep events (newChannel options)).channel.session.state = .disconnected :=
  startsAnew_reopened_iff options sessionOptions hoptions _ closed (options_final options events)
    huse hrole

/-- The session of the reader. -/
def readerSession : HdlcSessionOptions :=
  (HdlcProfileChannel.create (readerOptions 65535)).session.options

theorem makeHdlcSessionOptions_reader :
    makeHdlcSessionOptions (readerOptions 65535) = .ok readerSession := by
  decide +kernel

/-- A connect that is answered with a DM. -/
def refusedHistory : List ChannelEvent :=
  [.openStream true, .start .connectDataLink,
   .read (.ok (frameBytes
     { segmented := false
       destination := readerSession.clientAddress
       source := readerSession.serverAddress
       control := Hdlc.dm
       information := [] }))]

theorem startsAnew_iff_refused :
    StartsAnew (readerOptions 65535) readerSession
        (reopened true (final useStep refusedHistory (newChannel (readerOptions 65535)))) ↔
      (final useStep refusedHistory (newChannel (readerOptions 65535))).channel.session.state =
        .disconnected :=
  startsAnew_iff (readerOptions 65535) readerSession makeHdlcSessionOptions_reader rfl rfl
    refusedHistory true

/-- A connect whose UA never comes. -/
def unansweredHistory : List ChannelEvent :=
  [.openStream true, .start .connectDataLink] ++ List.replicate 4 (.read (.error .timeout))

/-- A connected channel that loses its peer. -/
def vanishedHistory : List ChannelEvent :=
  [.openStream true, .start .connectDataLink,
   .read (.ok (frameBytes
     { segmented := false
       destination := readerSession.clientAddress
       source := readerSession.serverAddress
       control := Hdlc.ua
       information := [] })), .lose]

theorem state_unansweredHistory :
    (final useStep unansweredHistory (newChannel (readerOptions 65535))).channel.session.state =
      .awaitingConnection ∧
    (final useStep vanishedHistory (newChannel (readerOptions 65535))).channel.session.state =
      .connected := by
  decide +kernel

/-- Neither starts a link anew. -/
theorem not_startsAnew :
    ¬StartsAnew (readerOptions 65535) readerSession
        (reopened false (final useStep unansweredHistory (newChannel (readerOptions 65535)))) ∧
      ¬StartsAnew (readerOptions 65535) readerSession
        (reopened false (final useStep vanishedHistory (newChannel (readerOptions 65535)))) := by
  constructor
  · intro hanew
    have hstate := (startsAnew_reopened_iff _ readerSession makeHdlcSessionOptions_reader _ false
      (options_final _ unansweredHistory) rfl rfl).mp hanew
    rw [state_unansweredHistory.1] at hstate
    cases hstate
  · intro hanew
    have hstate := (startsAnew_reopened_iff _ readerSession makeHdlcSessionOptions_reader _ false
      (options_final _ vanishedHistory) rfl rfl).mp hanew
    rw [state_unansweredHistory.2] at hstate
    cases hstate

end Profile

end Dlms
