import Dlms.Profile.HdlcTurns

/-!
# An APDU in flight

While an APDU is on its way, six numbers say how far it has come: how many of
its segments are sent and handled, how many acknowledgements of them have been
looked at, where the numbers of both directions began, and which acknowledgements
of the APDU before have been looked at. The frames that an end has not looked at
follow from them, and so does what its next turn does.

The receiver acknowledges every segment but the last. The sender looks at an
acknowledgement only when its window is full, or when its next call receives, so
that some stay unread until then.

## Main definitions

* `Flight`: The six numbers.
* `SenderStage`, `ReceiverStage`: Where the calls of the ends stand.
* `InFlight`: The ends of a link with an APDU on its way, and others to come.

## Theorems

* `sender_turn`, `receiver_turn`: What a turn of an end leaves in flight.
* `eq_nil_of_atRest`: While an APDU is on its way, a turn can be taken.
-/

namespace Dlms

namespace Profile

open Apdu (Bytes)
open Hdlc (Fits HdlcFrame frameBytes)

/-- How far the transfer of one APDU is. -/
structure Flight where
  /-- Frames the sender had sent before. -/
  first : Nat
  /-- Frames the receiver has sent. -/
  back : Nat
  /-- Segments that are sent. -/
  sent : Nat
  /-- Segments that the receiver has looked at. -/
  handled : Nat
  /-- Segments that the sender knows to be handled. -/
  answered : Nat
  /-- Frames of the receiver that it knows to be received. -/
  seen : Nat

/-! ### Frames in a row -/

/-- The frames with the numbers from one on and before another. -/
def between (frame : Nat → HdlcFrame) (start stop : Nat) : List HdlcFrame :=
  (List.range' start (stop - start)).map frame

theorem between_of_le (frame : Nat → HdlcFrame) (start stop : Nat) (h : stop ≤ start) :
    between frame start stop = [] := by
  rw [between, Nat.sub_eq_zero_of_le h]
  rfl

theorem between_of_lt (frame : Nat → HdlcFrame) (start stop : Nat) (h : start < stop) :
    between frame start stop = frame start :: between frame (start + 1) stop := by
  rw [between, between, ← Nat.succ_sub_succ stop start, Nat.succ_sub h, List.range'_succ,
    List.map_cons]

theorem between_succ (frame : Nat → HdlcFrame) (start stop : Nat) (h : start ≤ stop) :
    between frame start (stop + 1) = between frame start stop ++ [frame stop] := by
  rw [between, between, Nat.succ_sub h, List.range'_concat, List.map_append, Nat.one_mul,
    Nat.add_sub_cancel' h]
  rfl

theorem lt_of_between (frame : Nat → HdlcFrame) (start stop : Nat) (first : HdlcFrame)
    (later : List HdlcFrame) (h : between frame start stop = first :: later) :
    start < stop ∧ first = frame start ∧ later = between frame (start + 1) stop := by
  by_cases hlt : start < stop
  · rw [between_of_lt frame start stop hlt] at h
    rcases List.cons.inj h with ⟨hfirst, hlater⟩
    exact ⟨hlt, hfirst.symm, hlater.symm⟩
  · rw [between_of_le frame start stop (Nat.not_lt.mp hlt)] at h
    cases h

/-! ### The ends -/

/-- Two established channels that speak to each other. -/
structure Joined (near far : HdlcProfileChannel) : Prop where
  nearEstablished : Established near
  farEstablished : Established far
  peers : Peers near far

theorem Joined.symm (near far : HdlcProfileChannel) (h : Joined near far) : Joined far near where
  nearEstablished := h.farEstablished
  farEstablished := h.nearEstablished
  peers := h.peers.symm

/-- The receivers can put the LPDUs of some APDUs together. -/
def Reassembles (receiver sender : ApduChannelOptions) : List Bytes → Prop
  | [] => True
  | apdu :: later =>
      apdu.length + Llc.llcHeaderSize ≤ reassemblyLimit receiver ∧
        Reassembles sender receiver later

/-- Acknowledgements that the sender of the last of some APDUs leaves unread. -/
def unreadAcknowledgements (near far : HdlcProfileChannel) : List Bytes → Nat
  | [] => 0
  | [apdu] => min (frameCount near apdu - 1) (window near - 1)
  | _ :: apdu :: later => unreadAcknowledgements far near (apdu :: later)

section Ends

variable (near far : HdlcProfileChannel) (apdus : List Bytes) (flight : Flight)

/-- The frames of the first of some APDUs. -/
def currentCount : List Bytes → Nat
  | [] => 0
  | apdu :: _ => frameCount near apdu

/-- The numbers of a flight, in their order and within the window. -/
structure Within : Prop where
  answered : flight.answered ≤ flight.handled
  handled : flight.handled ≤ flight.sent
  sent : flight.sent ≤ currentCount near apdus
  unfinished : apdus ≠ [] → flight.handled < currentCount near apdus
  window : flight.sent ≤ flight.answered + window near
  seen : flight.seen ≤ flight.back
  back : flight.back ≤ flight.seen + 7
  passed : 0 < flight.handled → flight.seen = flight.back

/-- What the sender has numbered. -/
def senderProgress (limit : Nat) (buffer : Bytes) (decoded : List HdlcFrame) : Progress where
  sent := flight.first + flight.sent
  received := flight.back
  acknowledged := flight.first + flight.answered
  informationLimit := limit
  buffer := buffer
  decoded := decoded
  assembling := none

/-- What the receiver has numbered and put together. -/
def receiverProgress (limit : Nat) (buffer : Bytes) (decoded : List HdlcFrame) : Progress where
  sent := flight.back
  received := flight.first + flight.handled
  acknowledged := flight.seen
  informationLimit := limit
  buffer := buffer
  decoded := decoded
  assembling := assembled near flight.first flight.back
    ((lpduOf near (apdus.headD [])).take (flight.handled * chunkSize near))

/-- The frames the sender has not looked at. -/
def senderFrames : List HdlcFrame :=
  between (receiveReadyFrame far) (flight.first + flight.answered + 1)
    (flight.first + flight.handled + 1)

/-- The frames the receiver has not looked at: acknowledgements of the APDU
    before, and segments. -/
def receiverFrames : List HdlcFrame :=
  between (receiveReadyFrame near) (flight.seen + 1) flight.back ++
    between (segmentFrame near (apdus.headD []) flight.first flight.back) flight.handled flight.sent

/-- Where the calls of the sender stand, and how those should end that have not
    ended. -/
inductive SenderStage (limit : Nat) : List Bytes → Task → List Call → List CallResult → Prop where
  | waiting (apdus : List Bytes) (hsent : flight.sent = 0) :
      SenderStage limit apdus .idle (exchangeCalls true apdus) (exchangeResults true apdus)
  | sending (apdu : Bytes) (later : List Bytes) (hsent : flight.sent < frameCount near apdu)
      (hanswered : flight.answered = flight.sent - window near)
      (hlimit : limit = chunkSize near) :
      SenderStage limit (apdu :: later) (.sendInformation (sendingAt near apdu flight.sent))
        (exchangeCalls false later) (exchangeResults true (apdu :: later))
  | finished (apdu : Bytes) (later : List Bytes) (hsent : flight.sent = frameCount near apdu)
      (hanswered : flight.answered = flight.sent - window near) :
      SenderStage limit (apdu :: later) .idle (exchangeCalls false later)
        (exchangeResults false later)
  | listening (apdu next : Bytes) (later : List Bytes)
      (hsent : flight.sent = frameCount near apdu) :
      SenderStage limit (apdu :: next :: later) .receiveApdu (exchangeCalls true later)
        (exchangeResults false (next :: later))

/-- Where the calls of the receiver stand. -/
inductive ReceiverStage (leftover : Nat) : List Bytes → Task → List Call → Prop where
  | waiting (apdus : List Bytes) (hhandled : flight.handled = 0)
      (hleftover : apdus = [] → flight.back - (flight.seen + 1) = leftover) :
      ReceiverStage leftover apdus .idle (exchangeCalls false apdus)
  | receiving (apdu : Bytes) (later : List Bytes) :
      ReceiverStage leftover (apdu :: later) .receiveApdu (exchangeCalls true later)

structure SenderEnd (results : List CallResult) (sender : ChannelEnd) (limit : Nat)
    (buffer : Bytes) (decoded : List HdlcFrame) : Prop where
  channel : sender.channel = underWay near (senderProgress flight limit buffer decoded)
  unread : Unread buffer decoded sender.inbox (senderFrames far flight)
  stage : ∃ owed, SenderStage near flight limit apdus sender.task sender.calls owed ∧
    sender.results ++ owed = results

structure ReceiverEnd (leftover : Nat) (results : List CallResult) (receiver : ChannelEnd)
    (limit : Nat) (buffer : Bytes) (decoded : List HdlcFrame) : Prop where
  channel : receiver.channel =
    underWay far (receiverProgress near apdus flight limit buffer decoded)
  unread : Unread buffer decoded receiver.inbox (receiverFrames near apdus flight)
  stage : ReceiverStage flight leftover apdus receiver.task receiver.calls
  results : receiver.results ++ exchangeResults false apdus = results

end Ends

/-- What is the same all through an exchange: how the calls of the two ends
    should end, whether all LPDUs can be put together, and how many
    acknowledgements stay unread. -/
structure Course where
  sending : List CallResult
  receiving : List CallResult
  reassembles : Prop
  leftover : Nat

/-- The course as the other end sees it. -/
def Course.swap (course : Course) : Course :=
  { course with sending := course.receiving, receiving := course.sending }

/-- The first of some APDUs is on its way, and the others are to come. -/
structure InFlight (near far : HdlcProfileChannel) (course : Course) (apdus : List Bytes)
    (flight : Flight) (sender receiver : ChannelEnd) : Prop where
  within : Within near apdus flight
  permitted : ∀ apdu ∈ apdus, Permitted near.options apdu ∧ Permitted far.options apdu
  reassembles : Reassembles far.options near.options apdus ↔ course.reassembles
  leftover : apdus ≠ [] → unreadAcknowledgements near far apdus = course.leftover
  sender : ∃ limit buffer decoded,
    SenderEnd near far apdus flight course.sending sender limit buffer decoded
  receiver : ∃ limit buffer decoded,
    ReceiverEnd near far apdus flight course.leftover course.receiving receiver limit buffer decoded

/-! ### What is left to do -/

/-- Octets and turns that a segment that is sent can still cost. -/
def segmentWork : Nat := frameSizeLimit + 2

/-- The same for a segment that is not sent. -/
def unsentWork : Nat := frameSizeLimit + segmentWork + 1

def apduWork (apdu : Bytes) : Nat := (apdu.length + 3) * unsentWork

/-- What is left to do is at most this. -/
def flightWork (near : HdlcProfileChannel) (apdus : List Bytes) (flight : Flight)
    (sender receiver : ChannelEnd) : Nat :=
  sender.inbox.length + receiver.inbox.length + sender.calls.length + receiver.calls.length +
    (flight.handled - flight.answered) + (flight.back - (flight.seen + 1)) +
    (flight.sent - flight.handled) * segmentWork +
    (currentCount near apdus - flight.sent) * unsentWork + (apdus.tail.map apduWork).sum

/-! ### Frames in flight -/

theorem fits_decoder (base : HdlcProfileChannel) (hbase : Established base) (frame : HdlcFrame)
    (hlength : frame.information.length ≤ informationSizeLimit) :
    Fits frame base.decoder.limits :=
  fits_of_length frame base.decoder.limits hbase.decoderFrame (.inl hbase.decoderInformation)
    hlength

/-- No frame is larger than the largest there is. -/
theorem length_frameBytes_le (base : HdlcProfileChannel) (hbase : Established base)
    (frame : HdlcFrame) (hlength : frame.information.length ≤ informationSizeLimit) :
    (frameBytes frame).length ≤ frameSizeLimit := by
  have hsize := (fits_decoder base hbase frame hlength).2.2
  rw [Hdlc.effectiveMaximumFrameSize, hbase.decoderFrame] at hsize
  rw [Hdlc.length_frameBytes]
  exact hsize

theorem fits_between (base : HdlcProfileChannel) (hbase : Established base)
    (frame : Nat → HdlcFrame) (start stop : Nat)
    (hlength : ∀ number, (frame number).information.length ≤ informationSizeLimit) :
    ∀ member ∈ between frame start stop, Fits member base.decoder.limits := by
  intro member hmember
  rcases List.mem_map.mp hmember with ⟨number, -, rfl⟩
  exact fits_decoder base hbase _ (hlength number)

section Frames

variable (near far : HdlcProfileChannel) (hjoined : Joined near far) (apdus : List Bytes)
  (flight : Flight)
include hjoined

theorem length_segment_le (apdu : Bytes) (index : Nat) :
    (segmentFrame near apdu flight.first flight.back index).information.length ≤
      informationSizeLimit :=
  Nat.le_trans (length_chunk_le near apdu index) hjoined.nearEstablished.informationAtMost

theorem fits_senderFrames :
    ∀ frame ∈ senderFrames far flight, Fits frame near.decoder.limits :=
  fits_between near hjoined.nearEstablished _ _ _ (fun _ => Nat.zero_le _)

theorem fits_receiverFrames :
    ∀ frame ∈ receiverFrames near apdus flight, Fits frame far.decoder.limits := by
  intro frame hframe
  rcases List.mem_append.mp hframe with hacknowledgement | hsegment
  · exact fits_between far hjoined.farEstablished _ _ _ (fun _ => Nat.zero_le _) frame
      hacknowledgement
  · exact fits_between far hjoined.farEstablished _ _ _
      (fun index => length_segment_le near far hjoined flight _ index) frame hsegment

end Frames

theorem turn_of_idle (near : ChannelEnd) (size : Nat) (call : Call) (calls : List Call)
    (htask : near.task = .idle) (hcalls : near.calls = call :: calls) :
    near.turn size =
      some (ChannelEnd.apply { near with calls := calls } (startCall near.channel call)) := by
  rw [ChannelEnd.turn, htask, hcalls]

theorem turn_of_finished (near : ChannelEnd) (size : Nat) (htask : near.task = .idle)
    (hcalls : near.calls = []) : near.turn size = none := by
  rw [ChannelEnd.turn, htask, hcalls]

theorem receive_nil (near : ChannelEnd) : near.receive [] = near := by
  rw [ChannelEnd.receive, List.append_nil]

/-- Once a call has ended otherwise than it should, the results are not those of
    the exchange. -/
theorem not_prefix_of_ne (results owed : List CallResult) (result expected : CallResult)
    (h : result ≠ expected) : ¬ results ++ [result] <+: results ++ expected :: owed := by
  rw [List.prefix_append_right_inj, List.cons_prefix_cons]
  exact fun hboth => h hboth.1

theorem deliverApdu_underWay (base : HdlcProfileChannel) (progress : Progress) (written : Bytes) :
    deliverApdu (underWay base progress) written =
      { channel := underWay base progress, task := .receiveApdu, written := written } := rfl

/-! ### A turn of the sender -/

section Sender

variable (near far : HdlcProfileChannel) (course : Course) (apdus : List Bytes) (flight : Flight)

/-- Where the calls of an end stand depends on its own numbers only. -/
theorem SenderStage.congr (flight' : Flight) (limit : Nat) (task : Task) (calls : List Call)
    (owed : List CallResult) (h : SenderStage near flight limit apdus task calls owed)
    (hsent : flight'.sent = flight.sent) (hanswered : flight'.answered = flight.answered) :
    SenderStage near flight' limit apdus task calls owed := by
  cases h with
  | waiting apdus hzero => exact .waiting apdus (hsent.trans hzero)
  | sending apdu later hless hwindow hlimit =>
      rw [← hsent] at hless ⊢
      exact .sending apdu later hless (by rw [hanswered, hsent]; exact hwindow) hlimit
  | finished apdu later hall hwindow =>
      exact .finished apdu later (hsent.trans hall) (by rw [hanswered, hsent]; exact hwindow)
  | listening apdu next later hall => exact .listening apdu next later (hsent.trans hall)

theorem ReceiverStage.congr (flight' : Flight) (leftover : Nat) (task : Task) (calls : List Call)
    (h : ReceiverStage flight leftover apdus task calls)
    (hhandled : flight'.handled = flight.handled) (hback : flight'.back = flight.back)
    (hseen : flight'.seen = flight.seen) :
    ReceiverStage flight' leftover apdus task calls := by
  cases h with
  | waiting apdus hzero hleftover =>
      exact .waiting apdus (hhandled.trans hzero) (by rw [hback, hseen]; exact hleftover)
  | receiving apdu later => exact .receiving apdu later

/-- A segment is on its way to the receiver. -/
theorem receiverEnd_of_sent (leftover : Nat) (results : List CallResult) (receiver : ChannelEnd)
    (limit : Nat) (buffer : Bytes) (decoded : List HdlcFrame) (answered : Nat)
    (h : ReceiverEnd near far apdus flight leftover results receiver limit buffer decoded)
    (hhandled : flight.handled ≤ flight.sent) :
    ReceiverEnd near far apdus { flight with sent := flight.sent + 1, answered := answered }
      leftover results
      (receiver.receive (frameBytes
        (segmentFrame near (apdus.headD []) flight.first flight.back flight.sent)))
      limit buffer decoded where
  channel := h.channel
  unread := by
    have hwritten := unread_write buffer decoded receiver.inbox _ h.unread
      (segmentFrame near (apdus.headD []) flight.first flight.back flight.sent)
    have hframes : receiverFrames near apdus
        { flight with sent := flight.sent + 1, answered := answered } =
          receiverFrames near apdus flight ++
            [segmentFrame near (apdus.headD []) flight.first flight.back flight.sent] := by
      simp only [receiverFrames]
      rw [between_succ _ _ _ hhandled, List.append_assoc]
    rw [hframes]
    exact hwritten
  stage := h.stage.congr apdus flight _ leftover _ _ rfl rfl rfl
  results := h.results

/-- The sender has gone on without a segment. -/
theorem inFlight_of_sender (sender receiver after : ChannelEnd)
    (h : InFlight near far course apdus flight sender receiver) (answered : Nat)
    (hmore : flight.answered ≤ answered) (hanswered : answered ≤ flight.handled)
    (limit : Nat) (buffer : Bytes) (decoded : List HdlcFrame) (owed : List CallResult)
    (hchannel : after.channel = underWay near
      (senderProgress { flight with answered := answered } limit buffer decoded))
    (hunread : Unread buffer decoded after.inbox
      (senderFrames far { flight with answered := answered }))
    (hstage : SenderStage near { flight with answered := answered } limit apdus after.task
      after.calls owed)
    (hresults : after.results ++ owed = course.sending) :
    InFlight near far course apdus { flight with answered := answered } after receiver := by
  -- Only what the sender has looked at changes.
  have hwithin := h.within
  rcases h.receiver with ⟨limit', buffer', decoded', hreceiver⟩
  exact
    { within :=
        { answered := hanswered
          handled := hwithin.handled
          sent := hwithin.sent
          unfinished := hwithin.unfinished
          window := Nat.le_trans hwithin.window (Nat.add_le_add_right hmore _)
          seen := hwithin.seen
          back := hwithin.back
          passed := hwithin.passed }
      permitted := h.permitted
      reassembles := h.reassembles
      leftover := h.leftover
      sender := ⟨limit, buffer, decoded, hchannel, hunread, owed, hstage, hresults⟩
      receiver := ⟨limit', buffer', decoded', hreceiver.channel, hreceiver.unread,
        hreceiver.stage.congr apdus flight _ course.leftover _ _ rfl rfl rfl, hreceiver.results⟩ }

variable (hjoined : Joined near far) (sender receiver : ChannelEnd)
include hjoined

/-- What the sender makes of the link with its next segment. -/
theorem inFlight_of_segment (apdu : Bytes) (later : List Bytes)
    (h : InFlight near far course (apdu :: later) flight sender receiver) (answered : Nat)
    (hanswered : answered ≤ flight.handled) (hless : flight.sent < frameCount near apdu)
    (hroom : flight.sent < answered + window near)
    (hwindow : answered = flight.sent + 1 - window near)
    (hcalls : sender.calls = exchangeCalls false later)
    (hresults : sender.results ++ exchangeResults true (apdu :: later) = course.sending)
    (inbox buffer : Bytes) (decoded : List HdlcFrame)
    (hunread : Unread buffer decoded inbox (senderFrames far { flight with answered := answered }))
    (next : ChannelEnd × Bytes)
    (hnext : next = ChannelEnd.apply { sender with inbox := inbox }
      (sendSegment (underWay near (senderProgress { flight with answered := answered }
        (chunkSize near) buffer decoded)) (sendingAt near apdu flight.sent) [])) :
    InFlight near far course (apdu :: later)
        { flight with sent := flight.sent + 1, answered := answered } next.1
        (receiver.receive next.2) ∧
      next.1.inbox = inbox ∧ next.1.calls = sender.calls ∧ next.2.length ≤ frameSizeLimit := by
  have hwithin := h.within
  have hhandled := hwithin.handled
  have hunfinished := hwithin.unfinished (List.cons_ne_nil apdu later)
  rw [currentCount] at hunfinished
  have hsent := sendSegment_underWay near apdu hjoined.nearEstablished
    (senderProgress { flight with answered := answered } (chunkSize near) buffer decoded)
    flight.first flight.sent hless rfl
    (by
      show flight.first + answered ≤ flight.first + flight.sent
      omega)
    (by
      show flight.first + flight.sent < flight.first + answered + window near
      omega) rfl []
  rw [hsent, List.nil_append] at hnext
  have hframe := length_frameBytes_le near hjoined.nearEstablished _
    (length_segment_le near far hjoined flight apdu flight.sent)
  have hwithin' : Within near (apdu :: later)
      { flight with sent := flight.sent + 1, answered := answered } :=
    { answered := hanswered
      handled := Nat.le_succ_of_le hhandled
      sent := hless
      unfinished := fun _ => hunfinished
      window := by
        show flight.sent + 1 ≤ answered + window near
        omega
      seen := hwithin.seen
      back := hwithin.back
      passed := hwithin.passed }
  rcases h.receiver with ⟨limit, rest, pending, hreceiver⟩
  have hreceived := receiverEnd_of_sent near far (apdu :: later) flight course.leftover
    course.receiving receiver limit rest pending answered hreceiver hhandled
  by_cases hlast : flight.sent + 1 = frameCount near apdu
  · -- The call ends with the last segment.
    rw [if_pos hlast] at hnext
    subst hnext
    refine ⟨⟨hwithin', h.permitted, h.reassembles, h.leftover,
      ⟨chunkSize near, buffer, decoded, rfl, hunread, exchangeResults false later, ?_, ?_⟩,
      ⟨limit, rest, pending, hreceived⟩⟩, rfl, rfl, hframe⟩
    · show SenderStage near _ _ _ .idle sender.calls _
      rw [hcalls]
      exact .finished apdu later hlast hwindow
    · rw [← hresults]
      exact List.append_assoc _ _ _
  · rw [if_neg hlast] at hnext
    subst hnext
    refine ⟨⟨hwithin', h.permitted, h.reassembles, h.leftover,
      ⟨chunkSize near, buffer, decoded, rfl, hunread, exchangeResults true (apdu :: later), ?_, ?_⟩,
      ⟨limit, rest, pending, hreceived⟩⟩, rfl, rfl, hframe⟩
    · have hmore : flight.sent + 1 < frameCount near apdu := by omega
      show SenderStage near _ _ _ (.sendInformation (sendingAt near apdu (flight.sent + 1)))
        sender.calls _
      rw [hcalls]
      exact .sending apdu later hmore hwindow rfl
    · rw [← hresults]
      exact congrArg (· ++ _) (List.append_nil _)

/-- A turn of a sender that has to read. -/
theorem sender_awaiting (limit : Nat) (buffer : Bytes) (decoded : List HdlcFrame)
    (hchannel : sender.channel = underWay near (senderProgress flight limit buffer decoded))
    (hawaits : awaitsFrame sender.channel sender.task = true)
    (hunread : Unread buffer decoded sender.inbox (senderFrames far flight))
    (size : Nat) (next : ChannelEnd × Bytes) (hturn : sender.turn size = some next) :
    ∃ buffer decoded inbox,
      (flight.answered < flight.handled ∧ inbox.length ≤ sender.inbox.length ∧
        Unread buffer decoded inbox
          (senderFrames far { flight with answered := flight.answered + 1 }) ∧
        next = ChannelEnd.apply { sender with inbox := inbox }
          (continueWith (underWay near (senderProgress flight limit buffer decoded)) sender.task
            (.ok (some (receiveReadyFrame far (flight.first + flight.answered + 1)))))) ∨
      inbox.length < sender.inbox.length ∧
        Unread buffer decoded inbox (senderFrames far flight) ∧
        next = ChannelEnd.apply { sender with inbox := inbox }
          (continueWith (underWay near (senderProgress flight limit buffer decoded)) sender.task
            (.ok none)) := by
  rcases turn_awaiting near sender _ _ hchannel hawaits hunread
    (fits_senderFrames near far hjoined flight) size next hturn with
    ⟨buffer', decoded', inbox, ⟨frame, frames, hframes, hread, hrest, hnext⟩ | hnone⟩
  · rcases lt_of_between _ _ _ _ _ hframes with ⟨hsome, rfl, rfl⟩
    exact ⟨buffer', decoded', inbox, .inl ⟨by omega, hread, hrest, hnext⟩⟩
  · exact ⟨buffer', decoded', inbox, .inr hnone⟩

/-- What the sender makes of an acknowledgement. -/
theorem acknowledged_sender (hwithin : Within near apdus flight)
    (hsome : flight.answered < flight.handled) :
    flight.first + flight.answered ≤ flight.first + flight.answered + 1 ∧
      flight.first + flight.answered + 1 ≤ flight.first + flight.sent ∧
      flight.first + flight.sent ≤ flight.first + flight.answered + 7 := by
  have hhandled := hwithin.handled
  have hwindow := hwithin.window
  have hmost : window near ≤ 7 := hjoined.nearEstablished.windowAtMost
  omega

/-- What a turn of the sender comes to: there is less to do, or the call has
    failed for an APDU that cannot be put together. -/
def SenderOutcome (receiver : ChannelEnd) (work : Nat) (next : ChannelEnd × Bytes) : Prop :=
  (∃ flight', InFlight near far course apdus flight' next.1 (receiver.receive next.2) ∧
      flightWork near apdus flight' next.1 (receiver.receive next.2) < work) ∨
    ¬ course.reassembles ∧ ¬ next.1.results <+: course.sending

/-- The call that sends an APDU begins. -/
theorem sender_begins (apdu : Bytes) (later : List Bytes)
    (h : InFlight near far course (apdu :: later) flight sender receiver) (hsent : flight.sent = 0)
    (htask : sender.task = .idle) (hcalls : sender.calls = exchangeCalls true (apdu :: later))
    (hresults : sender.results ++ exchangeResults true (apdu :: later) = course.sending)
    (size : Nat) (next : ChannelEnd × Bytes) (hturn : sender.turn size = some next) :
    SenderOutcome near far course (apdu :: later) receiver
      (flightWork near (apdu :: later) flight sender receiver) next := by
  have hpermitted := (h.permitted apdu List.mem_cons_self).1
  have hwithin := h.within
  rcases h.sender with ⟨limit, buffer, decoded, hsender⟩
  rw [turn_of_idle sender size _ _ htask hcalls, Option.some.injEq, startCall, hsender.channel]
    at hturn
  -- An APDU that no LPDU holds is refused at once, and cannot be put together either.
  by_cases hlength : apdu.length ≤ Llc.maximumLsduSize
  · rw [startSendApdu_underWay near apdu hjoined.nearEstablished _ hpermitted hlength] at hturn
    subst hturn
    have hpositive := frameCount_pos near apdu hjoined.nearEstablished
    have hanswered := hwithin.answered
    have hhandled := hwithin.handled
    have hstage : SenderStage near flight (chunkSize near) (apdu :: later)
        (.sendInformation (sendingAt near apdu flight.sent)) (exchangeCalls false later)
        (exchangeResults true (apdu :: later)) :=
      .sending apdu later (by omega) (by omega) rfl
    rw [hsent] at hstage
    rw [SenderOutcome, ChannelEnd.apply, receive_nil]
    refine .inl ⟨flight, ?_, ?_⟩
    · exact inFlight_of_sender near far course (apdu :: later) flight sender receiver _ h
        flight.answered (Nat.le_refl _) hanswered (chunkSize near) buffer decoded _ rfl
        hsender.unread hstage ((congrArg (· ++ _) (List.append_nil _)).trans hresults)
    · simp only [flightWork, hcalls, exchangeCalls, List.length_cons]
      omega
  · rcases startSendApdu_oversized near apdu (senderProgress flight limit buffer decoded)
      (Nat.not_le.mp hlength) with ⟨status, hfailed⟩
    rw [hfailed] at hturn
    subst hturn
    refine .inr ⟨?_, ?_⟩
    · rw [← h.reassembles, Reassembles]
      rintro ⟨hfits, -⟩
      have hlimit := (reassemblyLimit_bounds far.options).2
      rw [Llc.maximumLsduSize] at hlength
      omega
    · rw [← hresults]
      exact not_prefix_of_ne sender.results _ _ _ (by simp)

/-- The call that sends an APDU goes on: with a segment, or with an
    acknowledgement when the window is full. -/
theorem sender_sends (apdu : Bytes) (later : List Bytes)
    (h : InFlight near far course (apdu :: later) flight sender receiver)
    (hsent : flight.sent < frameCount near apdu)
    (hanswered : flight.answered = flight.sent - window near)
    (htask : sender.task = .sendInformation (sendingAt near apdu flight.sent))
    (hcalls : sender.calls = exchangeCalls false later)
    (buffer : Bytes) (decoded : List HdlcFrame)
    (hchannel : sender.channel =
      underWay near (senderProgress flight (chunkSize near) buffer decoded))
    (hunread : Unread buffer decoded sender.inbox (senderFrames far flight))
    (hresults : sender.results ++ exchangeResults true (apdu :: later) = course.sending)
    (size : Nat) (next : ChannelEnd × Bytes) (hturn : sender.turn size = some next) :
    SenderOutcome near far course (apdu :: later) receiver
      (flightWork near (apdu :: later) flight sender receiver) next := by
  have hwithin := h.within
  have hbehind := hwithin.answered
  have hhandled := hwithin.handled
  have hfull := hwithin.window
  have hwindow : 1 ≤ window near := hjoined.nearEstablished.windowPositive
  have hcan := canSend_underWay near hjoined.nearEstablished
    (senderProgress flight (chunkSize near) buffer decoded)
    (Nat.add_le_add_left (Nat.le_trans hbehind hhandled) flight.first)
    (by
      show flight.first + flight.sent ≤ flight.first + flight.answered + window near
      omega)
  -- A segment more costs its octets, which are fewer than were counted for it.
  have hsegment : ∀ answered inbox next, answered ≤ flight.handled → flight.answered ≤ answered →
      InFlight near far course (apdu :: later)
        { flight with sent := flight.sent + 1, answered := answered } (Prod.fst next)
        (receiver.receive next.2) ∧ next.1.inbox = inbox ∧ next.1.calls = sender.calls ∧
          next.2.length ≤ frameSizeLimit →
      inbox.length ≤ sender.inbox.length →
      SenderOutcome near far course (apdu :: later) receiver
        (flightWork near (apdu :: later) flight sender receiver) next := by
    rintro answered inbox next hknown hmore ⟨hflight, hinbox, hcalled, hwritten⟩ hread
    refine .inl ⟨_, hflight, ?_⟩
    simp only [flightWork, hinbox, hcalled, ChannelEnd.receive, List.length_append, currentCount,
      segmentWork, unsentWork, frameSizeLimit] at hwritten ⊢
    omega
  by_cases hroom : sender.channel.session.canSendInformationFrame = true
  · have hless : flight.sent < flight.answered + window near := by
      rw [hchannel, hcan] at hroom
      have hthis : flight.first + flight.sent < flight.first + flight.answered + window near :=
        hroom
      omega
    have hidle : sender.task ≠ .idle := by
      rw [htask]
      exact fun hcontra => Task.noConfusion hcontra
    rw [turn_of_task sender size hidle, htask, awaitsFrame, hroom, Bool.not_true, Bool.false_and,
      if_neg Bool.false_ne_true, Option.some.injEq, continueTask, if_pos hroom] at hturn
    have hflight := inFlight_of_segment near far course flight hjoined sender receiver apdu later h
      flight.answered hbehind hsent hless (by omega) hcalls hresults sender.inbox buffer decoded
      hunread next (hturn.symm.trans (congrArg (fun channel =>
        sender.apply (sendSegment channel (sendingAt near apdu flight.sent) [])) hchannel))
    exact hsegment flight.answered sender.inbox next hbehind (Nat.le_refl _) hflight (Nat.le_refl _)
  · -- The window is full, so the sender looks at an acknowledgement.
    have hless : flight.sent = flight.answered + window near := by
      have hnot : ¬ flight.first + flight.sent < flight.first + flight.answered + window near := by
        intro hthis
        rw [hchannel] at hroom
        exact hroom (hcan.mpr hthis)
      omega
    have hawaits : awaitsFrame sender.channel sender.task = true := by
      rw [Bool.not_eq_true] at hroom
      rw [htask, awaitsFrame, hroom]
      rfl
    rcases sender_awaiting near far flight hjoined sender _ buffer decoded hchannel hawaits hunread
      size next hturn with
      ⟨buffer, decoded, inbox, ⟨hsome, hread, hrest, hnext⟩ | ⟨hread, hrest, hnext⟩⟩
    · rcases acknowledged_sender near far (apdu :: later) flight hjoined hwithin hsome with
        ⟨hfrom, hto, hnear⟩
      have hready := handleSessionControlFrame_receiveReady near far hjoined.nearEstablished
        hjoined.peers (senderProgress flight (chunkSize near) buffer decoded) _ hfrom hto hnear
      rw [htask, continueWith] at hnext
      simp only [hready] at hnext
      have hflight := inFlight_of_segment near far course flight hjoined sender receiver apdu later
        h (flight.answered + 1) (by omega) hsent (by omega) (by omega) hcalls hresults inbox buffer
        decoded hrest next hnext
      exact hsegment (flight.answered + 1) inbox next (by omega) (Nat.le_succ _) hflight hread
    · rw [htask, continueWith] at hnext
      subst hnext
      rw [SenderOutcome, ChannelEnd.apply, receive_nil]
      refine .inl ⟨flight, ?_, ?_⟩
      · refine inFlight_of_sender near far course (apdu :: later) flight sender receiver _ h
          flight.answered (Nat.le_refl _) hbehind (chunkSize near) buffer decoded
          (exchangeResults true (apdu :: later)) rfl hrest ?_
          ((congrArg (· ++ _) (List.append_nil _)).trans hresults)
        show SenderStage near flight _ _ _ sender.calls _
        rw [hcalls]
        exact .sending apdu later hsent hanswered rfl
      · simp only [flightWork]
        omega

omit hjoined in
/-- The next call of the sender begins, which receives. -/
theorem sender_listens (apdu following : Bytes) (later : List Bytes)
    (h : InFlight near far course (apdu :: following :: later) flight sender receiver)
    (hsent : flight.sent = frameCount near apdu) (htask : sender.task = .idle)
    (hcalls : sender.calls = exchangeCalls false (following :: later))
    (hresults : sender.results ++ exchangeResults false (following :: later) = course.sending)
    (size : Nat) (next : ChannelEnd × Bytes) (hturn : sender.turn size = some next) :
    SenderOutcome near far course (apdu :: following :: later) receiver
      (flightWork near (apdu :: following :: later) flight sender receiver) next := by
  have hwithin := h.within
  rcases h.sender with ⟨limit, buffer, decoded, hsender⟩
  rw [turn_of_idle sender size _ _ htask hcalls, Option.some.injEq, startCall, hsender.channel,
    deliverApdu_underWay] at hturn
  subst hturn
  rw [SenderOutcome, ChannelEnd.apply, receive_nil]
  refine .inl ⟨flight, ?_, ?_⟩
  · exact inFlight_of_sender near far course (apdu :: following :: later) flight sender receiver _ h
      flight.answered (Nat.le_refl _) hwithin.answered limit buffer decoded _ rfl hsender.unread
      (.listening apdu following later hsent)
      ((congrArg (· ++ _) (List.append_nil _)).trans hresults)
  · simp only [flightWork, hcalls, exchangeCalls, List.length_cons]
    omega

/-- The call that receives passes over the acknowledgements of the APDU. -/
theorem sender_reads (apdu following : Bytes) (later : List Bytes)
    (h : InFlight near far course (apdu :: following :: later) flight sender receiver)
    (hsent : flight.sent = frameCount near apdu) (htask : sender.task = .receiveApdu)
    (hcalls : sender.calls = exchangeCalls true later)
    (hresults : sender.results ++ exchangeResults false (following :: later) = course.sending)
    (size : Nat) (next : ChannelEnd × Bytes) (hturn : sender.turn size = some next) :
    SenderOutcome near far course (apdu :: following :: later) receiver
      (flightWork near (apdu :: following :: later) flight sender receiver) next := by
  have hwithin := h.within
  have hbehind := hwithin.answered
  rcases h.sender with ⟨limit, buffer, decoded, hsender⟩
  have hawaits : awaitsFrame sender.channel sender.task = true := by
    rw [htask]
    rfl
  -- The call goes on receiving, whatever the number of acknowledgements.
  have hstage : ∀ answered, SenderStage near { flight with answered := answered } limit
      (apdu :: following :: later) .receiveApdu sender.calls
      (exchangeResults false (following :: later)) := by
    intro answered
    rw [hcalls]
    exact .listening apdu following later hsent
  rcases sender_awaiting near far flight hjoined sender limit buffer decoded hsender.channel hawaits
    hsender.unread size next hturn with
    ⟨buffer, decoded, inbox, ⟨hsome, hread, hrest, hnext⟩ | ⟨hread, hrest, hnext⟩⟩
  -- An acknowledgement of this APDU brings nothing, and is one frame less to look at.
  · rcases acknowledged_sender near far _ flight hjoined hwithin hsome with ⟨hfrom, hto, hnear⟩
    have hready := decodeFrameToPendingApdu_receiveReady near far hjoined.nearEstablished
      hjoined.peers (senderProgress flight limit buffer decoded) _ rfl hfrom hto hnear
    rw [htask, continueWith] at hnext
    simp only [hready, deliverApdu_underWay] at hnext
    subst hnext
    rw [SenderOutcome, ChannelEnd.apply, receive_nil]
    refine .inl ⟨{ flight with answered := flight.answered + 1 }, ?_, ?_⟩
    · exact inFlight_of_sender near far course _ flight sender receiver _ h (flight.answered + 1)
        (Nat.le_succ _) hsome limit buffer decoded _ rfl hrest (hstage _)
        ((congrArg (· ++ _) (List.append_nil _)).trans hresults)
    · simp only [flightWork]
      omega
  · rw [htask, continueWith] at hnext
    subst hnext
    rw [SenderOutcome, ChannelEnd.apply, receive_nil]
    refine .inl ⟨flight, ?_, ?_⟩
    · exact inFlight_of_sender near far course _ flight sender receiver _ h flight.answered
        (Nat.le_refl _) hbehind limit buffer decoded _ rfl hrest (hstage _)
        ((congrArg (· ++ _) (List.append_nil _)).trans hresults)
    · simp only [flightWork]
      omega

/-- A turn of the sender leaves less to do. -/
theorem sender_turn (h : InFlight near far course apdus flight sender receiver) (size : Nat)
    (next : ChannelEnd × Bytes) (hturn : sender.turn size = some next) :
    SenderOutcome near far course apdus receiver
      (flightWork near apdus flight sender receiver) next := by
  rcases h.sender with ⟨limit, buffer, decoded, hsender⟩
  rcases hsender.stage with ⟨owed, hstage, hresults⟩
  generalize htask : sender.task = task at hstage
  generalize hcalls : sender.calls = calls at hstage
  -- What a turn does goes by where the calls of the end stand.
  cases hstage with
  | waiting apdus hsent =>
      cases apdus with
      | nil =>
          rw [turn_of_finished sender size htask hcalls] at hturn
          cases hturn
      | cons apdu later =>
          exact sender_begins near far course flight hjoined sender receiver apdu later h hsent
            htask hcalls hresults size next hturn
  | sending apdu later hsent hanswered hlimit =>
      subst hlimit
      exact sender_sends near far course flight hjoined sender receiver apdu later h hsent hanswered
        htask hcalls buffer decoded hsender.channel hsender.unread hresults size next hturn
  | finished apdu later hsent hanswered =>
      cases later with
      | nil =>
          rw [turn_of_finished sender size htask hcalls] at hturn
          cases hturn
      | cons following later =>
          exact sender_listens near far course flight sender receiver apdu following later h
            hsent htask hcalls hresults size next hturn
  | listening apdu following later hsent =>
      exact sender_reads near far course flight hjoined sender receiver apdu following later h hsent
        htask hcalls hresults size next hturn

end Sender

/-! ### A turn of the receiver -/

section Receiver

variable (near far : HdlcProfileChannel) (course : Course) (apdus : List Bytes) (flight : Flight)

/-- The receiver has gone on without a segment. -/
theorem inFlight_of_receiver (sender receiver after : ChannelEnd)
    (h : InFlight near far course apdus flight sender receiver) (seen : Nat)
    (hmore : flight.seen ≤ seen) (hseen : seen ≤ flight.back)
    (hpassed : 0 < flight.handled → seen = flight.back) (limit : Nat) (buffer : Bytes)
    (decoded : List HdlcFrame)
    (hreceiver : ReceiverEnd near far apdus { flight with seen := seen } course.leftover
      course.receiving after limit buffer decoded) :
    InFlight near far course apdus { flight with seen := seen } sender after := by
  have hwithin := h.within
  rcases h.sender with ⟨limit', buffer', decoded', hsender⟩
  rcases hsender.stage with ⟨owed, hstage, hresults⟩
  exact
    { within :=
        { answered := hwithin.answered
          handled := hwithin.handled
          sent := hwithin.sent
          unfinished := hwithin.unfinished
          window := hwithin.window
          seen := hseen
          back := Nat.le_trans hwithin.back (Nat.add_le_add_right hmore 7)
          passed := hpassed }
      permitted := h.permitted
      reassembles := h.reassembles
      leftover := h.leftover
      sender := ⟨limit', buffer', decoded', hsender.channel, hsender.unread, owed,
        hstage.congr near apdus flight _ _ _ _ _ rfl rfl, hresults⟩
      receiver := ⟨limit, buffer, decoded, hreceiver⟩ }

/-- An acknowledgement is on its way to the sender. -/
theorem senderEnd_of_handled (results : List CallResult) (sender : ChannelEnd) (limit : Nat)
    (buffer : Bytes) (decoded : List HdlcFrame) (seen : Nat)
    (h : SenderEnd near far apdus flight results sender limit buffer decoded)
    (hanswered : flight.answered ≤ flight.handled) :
    SenderEnd near far apdus { flight with handled := flight.handled + 1, seen := seen } results
      (sender.receive (frameBytes (receiveReadyFrame far (flight.first + flight.handled + 1))))
      limit buffer decoded where
  channel := h.channel
  unread := by
    have hwritten := unread_write buffer decoded sender.inbox _ h.unread
      (receiveReadyFrame far (flight.first + flight.handled + 1))
    have hframes : senderFrames far { flight with handled := flight.handled + 1, seen := seen } =
        senderFrames far flight ++ [receiveReadyFrame far (flight.first + flight.handled + 1)] :=
      between_succ (receiveReadyFrame far) (flight.first + flight.answered + 1)
        (flight.first + flight.handled + 1) (by omega)
    rw [hframes]
    exact hwritten
  stage := by
    rcases h.stage with ⟨owed, hstage, hresults⟩
    exact ⟨owed, hstage.congr near apdus flight _ _ _ _ _ rfl rfl, hresults⟩

variable (hjoined : Joined near far) (sender receiver : ChannelEnd)

/-- The numbers of the next APDU, once all segments are handled. -/
def Flight.next : Flight where
  first := flight.back
  back := flight.first + (flight.handled + 1)
  sent := 0
  handled := 0
  answered := 0
  seen := flight.first + flight.answered

/-- The receiver of an APDU is to send the next one. -/
theorem senderEnd_next (apdu : Bytes) (later : List Bytes) (results : List CallResult)
    (after : ChannelEnd) (limit : Nat) (buffer : Bytes) (decoded : List HdlcFrame)
    (hall : flight.sent = flight.handled + 1)
    (hchannel : after.channel = underWay far (senderProgress flight.next limit buffer decoded))
    (hunread : Unread buffer decoded after.inbox (receiverFrames near (apdu :: later)
      { flight with handled := flight.handled + 1, seen := flight.back }))
    (htask : after.task = .idle) (hcalls : after.calls = exchangeCalls true later)
    (hresults : after.results ++ exchangeResults true later = results) :
    SenderEnd far near later flight.next results after limit buffer decoded where
  channel := hchannel
  unread := by
    have hnothing : receiverFrames near (apdu :: later)
        { flight with handled := flight.handled + 1, seen := flight.back } = [] := by
      rw [receiverFrames, between_of_le _ _ _ (Nat.le_succ _), between_of_le _ _ _ (by
        show flight.sent ≤ flight.handled + 1
        omega)]
      rfl
    have hnone : senderFrames near flight.next = [] :=
      between_of_le _ _ _ (Nat.le_refl _)
    rw [hnone]
    rw [hnothing] at hunread
    exact hunread
  stage := by
    refine ⟨exchangeResults true later, ?_, hresults⟩
    rw [htask, hcalls]
    exact .waiting later rfl

/-- The sender of an APDU is to receive the next one. -/
theorem receiverEnd_next (apdu : Bytes) (later : List Bytes) (leftover : Nat)
    (results : List CallResult) (sender : ChannelEnd) (limit : Nat) (buffer : Bytes)
    (decoded : List HdlcFrame)
    (h : SenderEnd near far (apdu :: later) flight results sender limit buffer decoded)
    (hall : flight.sent = flight.handled + 1) (hlast : flight.handled + 1 = frameCount near apdu)
    (hwindow : 1 ≤ window near)
    (hleftover : later = [] → min (frameCount near apdu - 1) (window near - 1) = leftover) :
    ReceiverEnd far near later flight.next leftover results sender limit buffer decoded := by
  rcases h.stage with ⟨owed, hstage, hresults⟩
  have hchannel : senderProgress flight limit buffer decoded =
      receiverProgress far later flight.next limit buffer decoded := by
    simp [senderProgress, receiverProgress, Flight.next, hall, assembled]
  have hframes : senderFrames far flight = receiverFrames far later flight.next := by
    have hnone : between (segmentFrame far (later.headD []) flight.next.first flight.next.back)
        flight.next.handled flight.next.sent = [] := between_of_le _ _ _ (Nat.le_refl _)
    rw [receiverFrames, hnone, List.append_nil]
    rfl
  have hreceiver : ∀ task calls, ReceiverStage flight.next leftover later task calls →
      exchangeResults false later = owed → sender.task = task → sender.calls = calls →
      ReceiverEnd far near later flight.next leftover results sender limit buffer decoded := by
    intro task calls hthen howed htask hcalls
    refine ⟨?_, ?_, ?_, ?_⟩
    · rw [← hchannel]
      exact h.channel
    · rw [← hframes]
      exact h.unread
    · rw [htask, hcalls]
      exact hthen
    · rw [howed]
      exact hresults
  generalize htask : sender.task = task at hstage
  generalize hcalls : sender.calls = calls at hstage
  cases hstage with
  | waiting apdus hsent => omega
  | sending apdu later hless hanswered hlimit => omega
  | finished apdu later hsent hanswered =>
      -- The acknowledgements it has not looked at stay unread for now.
      refine hreceiver _ _ (.waiting later rfl ?_) rfl htask hcalls
      intro hnone
      rw [← hleftover hnone]
      show flight.first + (flight.handled + 1) - (flight.first + flight.answered + 1) = _
      omega
  | listening apdu following later hsent =>
      exact hreceiver _ _ (.receiving following later) rfl htask hcalls

/-- The work for the next APDU was counted. -/
theorem currentCount_work (hbase : Established near) :
    currentCount near apdus * unsentWork + (apdus.tail.map apduWork).sum ≤
      (apdus.map apduWork).sum := by
  cases apdus with
  | nil => rw [currentCount, Nat.zero_mul, Nat.zero_add, List.tail_nil]
  | cons apdu later =>
      have hcount := Nat.mul_le_mul_right unsentWork (frameCount_le near apdu hbase)
      rw [currentCount, List.tail_cons, List.map_cons, List.sum_cons, apduWork]
      omega

/-- What a turn of the receiver comes to: there is less to do of this APDU or
    of the next one, which goes the other way, or the call has failed for an APDU
    that cannot be put together. -/
def ReceiverOutcome (sender : ChannelEnd) (work : Nat) (next : ChannelEnd × Bytes) : Prop :=
  (∃ flight', InFlight near far course apdus flight' (sender.receive next.2) next.1 ∧
      flightWork near apdus flight' (sender.receive next.2) next.1 < work) ∨
    (∃ flight', InFlight far near course.swap apdus.tail flight' next.1 (sender.receive next.2) ∧
      flightWork far apdus.tail flight' next.1 (sender.receive next.2) < work) ∨
    ¬ course.reassembles ∧ ¬ next.1.results <+: course.receiving

/-- The call that receives begins. -/
theorem receiver_begins (apdu : Bytes) (later : List Bytes)
    (h : InFlight near far course (apdu :: later) flight sender receiver)
    (htask : receiver.task = .idle) (hcalls : receiver.calls = exchangeCalls false (apdu :: later))
    (size : Nat) (next : ChannelEnd × Bytes) (hturn : receiver.turn size = some next) :
    ReceiverOutcome near far course (apdu :: later) sender
      (flightWork near (apdu :: later) flight sender receiver) next := by
  have hwithin := h.within
  rcases h.receiver with ⟨limit, buffer, decoded, hreceiver⟩
  rw [turn_of_idle receiver size _ _ htask hcalls, Option.some.injEq, startCall, hreceiver.channel,
    deliverApdu_underWay] at hturn
  subst hturn
  rw [ReceiverOutcome, ChannelEnd.apply, receive_nil]
  refine .inl ⟨flight, ?_, ?_⟩
  · exact inFlight_of_receiver near far course (apdu :: later) flight sender receiver _ h
      flight.seen (Nat.le_refl _) hwithin.seen hwithin.passed limit buffer decoded
      ⟨rfl, hreceiver.unread, .receiving apdu later,
        (congrArg (· ++ _) (List.append_nil _)).trans hreceiver.results⟩
  · simp only [flightWork, hcalls, exchangeCalls, List.length_cons]
    omega

/-- The frame that the receiver looks at next: an acknowledgement of the APDU
    before, or a segment. -/
theorem receiver_frame (apdu : Bytes) (later : List Bytes) (frame : HdlcFrame)
    (frames : List HdlcFrame) (hwithin : Within near (apdu :: later) flight)
    (hframes : receiverFrames near (apdu :: later) flight = frame :: frames) :
    (flight.handled = 0 ∧ flight.seen + 1 < flight.back ∧
        frame = receiveReadyFrame near (flight.seen + 1) ∧
        frames = receiverFrames near (apdu :: later) { flight with seen := flight.seen + 1 }) ∨
      flight.back ≤ flight.seen + 1 ∧ flight.handled < flight.sent ∧
        frame = segmentFrame near apdu flight.first flight.back flight.handled ∧
        frames = receiverFrames near (apdu :: later)
          { flight with handled := flight.handled + 1, seen := flight.back } := by
  have hpassed := hwithin.passed
  by_cases hready : flight.seen + 1 < flight.back
  · rw [receiverFrames, between_of_lt _ _ _ hready, List.cons_append] at hframes
    rcases List.cons.inj hframes with ⟨hframe, hlater⟩
    exact .inl ⟨by omega, hready, hframe.symm, hlater.symm⟩
  · rw [receiverFrames, between_of_le _ _ _ (Nat.not_lt.mp hready), List.nil_append] at hframes
    rcases lt_of_between _ _ _ _ _ hframes with ⟨hsome, hframe, hlater⟩
    refine .inr ⟨Nat.not_lt.mp hready, hsome, hframe, ?_⟩
    rw [hlater, receiverFrames, between_of_le _ _ _ (Nat.le_succ flight.back), List.nil_append]

include hjoined

/-- A turn of a receiver that has to read. -/
theorem receiver_awaiting (limit : Nat) (buffer : Bytes) (decoded : List HdlcFrame)
    (hchannel : receiver.channel =
      underWay far (receiverProgress near apdus flight limit buffer decoded))
    (htask : receiver.task = .receiveApdu)
    (hunread : Unread buffer decoded receiver.inbox (receiverFrames near apdus flight))
    (size : Nat) (next : ChannelEnd × Bytes) (hturn : receiver.turn size = some next) :
    ∃ buffer decoded inbox,
      (∃ frame frames, receiverFrames near apdus flight = frame :: frames ∧
        inbox.length ≤ receiver.inbox.length ∧ Unread buffer decoded inbox frames ∧
        next = ChannelEnd.apply { receiver with inbox := inbox }
          (continueWith (underWay far (receiverProgress near apdus flight limit buffer decoded))
            .receiveApdu (.ok (some frame)))) ∨
      inbox.length < receiver.inbox.length ∧
        Unread buffer decoded inbox (receiverFrames near apdus flight) ∧
        next = ChannelEnd.apply { receiver with inbox := inbox }
          (continueWith (underWay far (receiverProgress near apdus flight limit buffer decoded))
            .receiveApdu (.ok none)) := by
  have hawaits : awaitsFrame receiver.channel receiver.task = true := by
    rw [htask]
    rfl
  rcases turn_awaiting far receiver _ _ hchannel hawaits hunread
    (fits_receiverFrames near far hjoined apdus flight) size next hturn with
    ⟨buffer', decoded', inbox, hsome | hnone⟩
  · rw [htask] at hsome
    exact ⟨buffer', decoded', inbox, .inl hsome⟩
  · rw [htask] at hnone
    exact ⟨buffer', decoded', inbox, .inr hnone⟩

section Reading

variable (apdu : Bytes) (later : List Bytes)
  (h : InFlight near far course (apdu :: later) flight sender receiver)
  (hcalls : receiver.calls = exchangeCalls true later)
  (hresults : receiver.results ++ exchangeResults false (apdu :: later) = course.receiving)
  (limit : Nat) (buffer inbox : Bytes) (decoded : List HdlcFrame) (next : ChannelEnd × Bytes)
include h hcalls hresults

omit hjoined in
/-- The receiver has read a part of a frame. -/
theorem receiver_waits (hread : inbox.length < receiver.inbox.length)
    (hrest : Unread buffer decoded inbox (receiverFrames near (apdu :: later) flight))
    (hnext : next = ChannelEnd.apply { receiver with inbox := inbox }
      (continueWith
        (underWay far (receiverProgress near (apdu :: later) flight limit buffer decoded))
        .receiveApdu (.ok none))) :
    ReceiverOutcome near far course (apdu :: later) sender
      (flightWork near (apdu :: later) flight sender receiver) next := by
  have hwithin := h.within
  rw [continueWith] at hnext
  subst hnext
  rw [ReceiverOutcome, ChannelEnd.apply, receive_nil]
  refine .inl ⟨flight, ?_, ?_⟩
  · refine inFlight_of_receiver near far course (apdu :: later) flight sender receiver _ h
      flight.seen (Nat.le_refl _) hwithin.seen hwithin.passed limit buffer decoded
      ⟨rfl, hrest, ?_, (congrArg (· ++ _) (List.append_nil _)).trans hresults⟩
    show ReceiverStage flight course.leftover _ _ receiver.calls
    rw [hcalls]
    exact .receiving apdu later
  · simp only [flightWork]
    omega

/-- The receiver passes over an acknowledgement of the APDU before. -/
theorem receiver_passes (hhandled : flight.handled = 0) (hready : flight.seen + 1 < flight.back)
    (hread : inbox.length ≤ receiver.inbox.length)
    (hrest : Unread buffer decoded inbox
      (receiverFrames near (apdu :: later) { flight with seen := flight.seen + 1 }))
    (hnext : next = ChannelEnd.apply { receiver with inbox := inbox }
      (continueWith
        (underWay far (receiverProgress near (apdu :: later) flight limit buffer decoded))
        .receiveApdu (.ok (some (receiveReadyFrame near (flight.seen + 1)))))) :
    ReceiverOutcome near far course (apdu :: later) sender
      (flightWork near (apdu :: later) flight sender receiver) next := by
  have hwithin := h.within
  -- Nothing is being put together yet, and the acknowledgement adds nothing.
  have hnothing : (receiverProgress near (apdu :: later) flight limit buffer decoded).assembling =
      none := by
    simp [receiverProgress, hhandled, assembled]
  have hdecoded := decodeFrameToPendingApdu_receiveReady far near hjoined.farEstablished
    hjoined.peers.symm _ (flight.seen + 1) hnothing (Nat.le_succ _) (Nat.le_of_lt hready)
    hwithin.back
  rw [continueWith] at hnext
  simp only [hdecoded, deliverApdu_underWay] at hnext
  subst hnext
  rw [ReceiverOutcome, ChannelEnd.apply, receive_nil]
  refine .inl ⟨{ flight with seen := flight.seen + 1 }, ?_, ?_⟩
  · refine inFlight_of_receiver near far course (apdu :: later) flight sender receiver _ h
      (flight.seen + 1) (Nat.le_succ _) (Nat.le_of_lt hready) (by omega) limit buffer decoded
      ⟨rfl, hrest, ?_, (congrArg (· ++ _) (List.append_nil _)).trans hresults⟩
    show ReceiverStage _ course.leftover _ _ receiver.calls
    rw [hcalls]
    exact .receiving apdu later
  · simp only [flightWork]
    omega

/-! What it makes of a segment. -/

section Segment

variable (hpassed : flight.back ≤ flight.seen + 1) (hsome : flight.handled < flight.sent)
  (hread : inbox.length ≤ receiver.inbox.length)
  (hrest : Unread buffer decoded inbox (receiverFrames near (apdu :: later)
    { flight with handled := flight.handled + 1, seen := flight.back }))
  (hnext : next = ChannelEnd.apply { receiver with inbox := inbox }
    (continueWith (underWay far (receiverProgress near (apdu :: later) flight limit buffer decoded))
      .receiveApdu
      (.ok (some (segmentFrame near apdu flight.first flight.back flight.handled)))))

omit h hcalls hresults in
/-- The octets of the segments looked at are none only before the first. -/
theorem first_of_nothing
    (hnothing : (lpduOf near apdu).take (flight.handled * chunkSize near) = []) :
    flight.first + flight.handled = flight.first := by
  have hpositive : 0 < chunkSize near := hjoined.nearEstablished.informationPositive
  rcases List.take_eq_nil_iff.mp hnothing with hzero | hnone
  · rcases Nat.mul_eq_zero.mp hzero with hhandled | hsize
    · omega
    · omega
  · exact absurd hnone (lpduOf_ne_nil near apdu)

include hnext in
omit hcalls in
/-- There is no room for the segment. -/
theorem receiver_overflows
    (hover : ¬ ((lpduOf near apdu).take (flight.handled * chunkSize near)).length +
      (chunk near apdu flight.handled).length ≤ reassemblyLimit far.options) :
    ReceiverOutcome near far course (apdu :: later) sender
      (flightWork near (apdu :: later) flight sender receiver) next := by
  have hless := h.within.unfinished (List.cons_ne_nil apdu later)
  rcases decodeFrameToPendingApdu_overflow far near hjoined.farEstablished
    (receiverProgress near (apdu :: later) flight limit buffer decoded) flight.first flight.back
    ((lpduOf near apdu).take (flight.handled * chunkSize near)) (chunk near apdu flight.handled)
    (first_of_nothing near far flight hjoined apdu) rfl
    (chunk_ne_nil near apdu hjoined.nearEstablished _ hless)
    (length_segment_le near far hjoined flight apdu flight.handled)
    (!decide (flight.handled + 1 = frameCount near apdu)) (Nat.not_le.mp hover) with
    ⟨channel, hdecoded⟩
  rw [continueWith, segmentFrame] at hnext
  have hdecoded' : (underWay far (receiverProgress near (apdu :: later) flight limit buffer
      decoded)).decodeFrameToPendingApdu (informationFrame near (flight.first + flight.handled)
        flight.back (!decide (flight.handled + 1 = frameCount near apdu))
        (chunk near apdu flight.handled)) = (.error .payloadTooLarge, channel, []) := hdecoded
  simp only [hdecoded', reduceCtorEq, if_false] at hnext
  subst hnext
  refine .inr (.inr ⟨?_, ?_⟩)
  -- Every segment of an LPDU that fits has room.
  · rw [← h.reassembles, Reassembles]
    rintro ⟨hfits, -⟩
    rw [← List.length_append, take_append_chunk, List.length_take, length_lpduOf] at hover
    rw [Llc.llcHeaderSize] at hfits
    omega
  · rw [← hresults]
    exact not_prefix_of_ne receiver.results _ _ _ (by simp)

include hpassed hsome hread hrest hnext

/-- The segment is acknowledged, for more are to come. -/
theorem receiver_acknowledges (hmore : flight.handled + 1 ≠ frameCount near apdu)
    (hroom : ((lpduOf near apdu).take (flight.handled * chunkSize near)).length +
      (chunk near apdu flight.handled).length ≤ reassemblyLimit far.options) :
    ReceiverOutcome near far course (apdu :: later) sender
      (flightWork near (apdu :: later) flight sender receiver) next := by
  have hwithin := h.within
  have hless := hwithin.unfinished (List.cons_ne_nil apdu later)
  rw [currentCount] at hless
  have hdecoded := decodeFrameToPendingApdu_segment far near hjoined.farEstablished
    hjoined.peers.symm (receiverProgress near (apdu :: later) flight limit buffer decoded)
    flight.first flight.back ((lpduOf near apdu).take (flight.handled * chunkSize near))
    (chunk near apdu flight.handled) (first_of_nothing near far flight hjoined apdu) rfl
    (chunk_ne_nil near apdu hjoined.nearEstablished _ hless)
    (length_segment_le near far hjoined flight apdu flight.handled) hwithin.seen (Nat.le_refl _)
    hwithin.back hroom
  rw [take_append_chunk] at hdecoded
  -- The frame is the next segment, and not the last.
  have hdecoded' : (underWay far (receiverProgress near (apdu :: later) flight limit buffer
      decoded)).decodeFrameToPendingApdu (informationFrame near (flight.first + flight.handled)
        flight.back true (chunk near apdu flight.handled)) = _ := hdecoded
  rw [continueWith, segmentFrame, decide_eq_false hmore, Bool.not_false] at hnext
  simp only [hdecoded', if_true] at hnext
  subst hnext
  -- The sender has one frame more to look at, behind those it has.
  rcases h.sender with ⟨limit', buffer', decoded', hsender⟩
  have hframe := length_frameBytes_le far hjoined.farEstablished
    (receiveReadyFrame far (flight.first + flight.handled + 1)) (Nat.zero_le _)
  refine .inl ⟨{ flight with handled := flight.handled + 1, seen := flight.back }, ?_, ?_⟩
  · refine
      { within :=
          { answered := Nat.le_succ_of_le hwithin.answered
            handled := hsome
            sent := hwithin.sent
            unfinished := ?_
            window := hwithin.window
            seen := Nat.le_refl _
            back := Nat.le_add_right _ _
            passed := fun _ => rfl }
        permitted := h.permitted
        reassembles := h.reassembles
        leftover := h.leftover
        sender := ⟨limit', buffer', decoded',
          senderEnd_of_handled near far (apdu :: later) flight course.sending sender limit' buffer'
            decoded' flight.back hsender hwithin.answered⟩
        receiver := ⟨limit, buffer, decoded, rfl, hrest, ?_,
          (congrArg (· ++ _) (List.append_nil _)).trans hresults⟩ }
    · intro _
      show flight.handled + 1 < frameCount near apdu
      omega
    · show ReceiverStage _ course.leftover _ _ receiver.calls
      rw [hcalls]
      exact .receiving apdu later
  · simp only [flightWork, ChannelEnd.apply, ChannelEnd.receive, List.length_append, segmentWork,
      unsentWork, receiverProgress, frameSizeLimit] at hframe ⊢
    omega

/-- With the last segment the APDU is received, and the next one goes the other
    way. -/
theorem receiver_completes (hlast : flight.handled + 1 = frameCount near apdu)
    (hroom : ((lpduOf near apdu).take (flight.handled * chunkSize near)).length +
      (chunk near apdu flight.handled).length ≤ reassemblyLimit far.options) :
    ReceiverOutcome near far course (apdu :: later) sender
      (flightWork near (apdu :: later) flight sender receiver) next := by
  have hwithin := h.within
  -- The last segment was the last that was sent.
  have hall : flight.sent = flight.handled + 1 := by
    have hsent := hwithin.sent
    rw [currentCount] at hsent
    omega
  have hdecoded := decodeFrameToPendingApdu_last far near hjoined.farEstablished
    hjoined.peers.symm (receiverProgress near (apdu :: later) flight limit buffer decoded)
    flight.first flight.back ((lpduOf near apdu).take (flight.handled * chunkSize near))
    (chunk near apdu flight.handled) (first_of_nothing near far flight hjoined apdu) rfl
    (chunk_ne_nil near apdu hjoined.nearEstablished _ (by omega))
    (length_segment_le near far hjoined flight apdu flight.handled) hwithin.seen (Nat.le_refl _)
    hwithin.back (toLlcDirection near.options.hdlcDirection) apdu hroom
    ((take_append_chunk near apdu flight.handled).trans
      (take_last near apdu hjoined.nearEstablished flight.handled hlast))
    (h.permitted apdu List.mem_cons_self).2
  have hdecoded' : (underWay far (receiverProgress near (apdu :: later) flight limit buffer
      decoded)).decodeFrameToPendingApdu (informationFrame near (flight.first + flight.handled)
        flight.back false (chunk near apdu flight.handled)) = _ := hdecoded
  rw [continueWith, segmentFrame, decide_eq_true hlast, Bool.not_true] at hnext
  simp only [hdecoded', deliverApdu] at hnext
  subst hnext
  -- Sender and receiver change places, and what the old sender has not looked at is left over.
  rcases h.sender with ⟨limit', buffer', decoded', hsender⟩
  have hwindow : 1 ≤ window near := hjoined.nearEstablished.windowPositive
  have hmost : window near ≤ 7 := hjoined.nearEstablished.windowAtMost
  have hbehind := hwithin.answered
  have hfull := hwithin.window
  have hfits : apdu.length + Llc.llcHeaderSize ≤ reassemblyLimit far.options := by
    rw [← List.length_append, take_append_chunk,
      take_last near apdu hjoined.nearEstablished flight.handled hlast, length_lpduOf] at hroom
    exact hroom
  have hreassembles := h.reassembles
  rw [Reassembles] at hreassembles
  rw [ReceiverOutcome, ChannelEnd.apply, receive_nil]
  refine .inr (.inl ⟨flight.next, ?_, ?_⟩)
  · refine
      { within :=
          { answered := Nat.le_refl _
            handled := Nat.le_refl _
            sent := Nat.zero_le _
            unfinished := ?_
            window := Nat.zero_le _
            seen := Nat.add_le_add_left (Nat.le_succ_of_le hbehind) _
            back := ?_
            passed := fun hmore => absurd hmore (Nat.lt_irrefl 0) }
        permitted := fun following hmember =>
          (h.permitted following (List.mem_cons_of_mem _ hmember)).symm
        reassembles := ?_
        leftover := ?_
        sender := ⟨limit, buffer, decoded, senderEnd_next near far flight apdu later
          course.receiving _ limit buffer decoded hall rfl hrest rfl hcalls ?_⟩
        receiver := ⟨limit', buffer', decoded', receiverEnd_next near far flight apdu later
          course.leftover course.sending sender limit' buffer' decoded' hsender hall hlast hwindow
          ?_⟩ }
    · intro hmore
      rw [List.tail_cons] at hmore
      rcases List.exists_cons_of_ne_nil hmore with ⟨following, rest, rfl⟩
      exact frameCount_pos far following hjoined.farEstablished
    · show flight.first + (flight.handled + 1) ≤ flight.first + flight.answered + 7
      omega
    · exact (and_iff_right hfits).symm.trans hreassembles
    · intro hmore
      rw [List.tail_cons] at hmore
      rcases List.exists_cons_of_ne_nil hmore with ⟨following, rest, rfl⟩
      exact h.leftover (List.cons_ne_nil _ _)
    · rw [← hresults, List.append_assoc]
      rfl
    · intro hnone
      rw [hnone] at h
      exact h.leftover (List.cons_ne_nil _ _)
  · have hcount := currentCount_work far later hjoined.farEstablished
    simp only [flightWork, Flight.next, List.tail_cons, segmentWork, unsentWork, currentCount,
      frameSizeLimit] at hcount ⊢
    omega


end Segment

end Reading

/-- A turn of the receiver leaves less to do, unless its call fails. -/
theorem receiver_turn (h : InFlight near far course apdus flight sender receiver) (size : Nat)
    (next : ChannelEnd × Bytes) (hturn : receiver.turn size = some next) :
    ReceiverOutcome near far course apdus sender
      (flightWork near apdus flight sender receiver) next := by
  rcases h.receiver with ⟨limit, buffer, decoded, hreceiver⟩
  have hresults := hreceiver.results
  have hstage := hreceiver.stage
  generalize htask : receiver.task = task at hstage
  generalize hcalls : receiver.calls = calls at hstage
  -- It waits for its call to begin, or for a frame.
  cases hstage with
  | waiting apdus hhandled hleftover =>
      cases apdus with
      | nil =>
          rw [turn_of_finished receiver size htask hcalls] at hturn
          cases hturn
      | cons apdu later =>
          exact receiver_begins near far course flight sender receiver apdu later h htask hcalls
            size next hturn
  | receiving apdu later =>
      rcases receiver_awaiting near far (apdu :: later) flight hjoined receiver limit buffer decoded
        hreceiver.channel htask hreceiver.unread size next hturn with
        ⟨buffer, decoded, inbox, ⟨frame, frames, hframes, hread, hrest, hnext⟩ |
          ⟨hread, hrest, hnext⟩⟩
      -- First come the acknowledgements of the APDU before, then the segments.
      · rcases receiver_frame near flight apdu later frame frames h.within hframes with
          ⟨hhandled, hready, rfl, rfl⟩ | ⟨hpassed, hsome, rfl, rfl⟩
        · exact receiver_passes near far course flight hjoined sender receiver apdu later h hcalls
            hresults limit buffer inbox decoded next hhandled hready hread hrest hnext
        · by_cases hroom : ((lpduOf near apdu).take (flight.handled * chunkSize near)).length +
              (chunk near apdu flight.handled).length ≤ reassemblyLimit far.options
          · by_cases hlast : flight.handled + 1 = frameCount near apdu
            · exact receiver_completes near far course flight hjoined sender receiver apdu later h
                hcalls hresults limit buffer inbox decoded next hpassed hsome hread hrest hnext
                hlast hroom
            · exact receiver_acknowledges near far course flight hjoined sender receiver apdu later
                h hcalls hresults limit buffer inbox decoded next hpassed hsome hread hrest hnext
                hlast hroom
          · exact receiver_overflows near far course flight hjoined sender receiver apdu later h
              hresults limit buffer inbox decoded next hnext hroom
      · exact receiver_waits near far course flight sender receiver apdu later h hcalls hresults
          limit buffer inbox decoded next hread hrest hnext

/-- A link where no turn can be taken has no APDU on its way. -/
theorem eq_nil_of_atRest (h : InFlight near far course apdus flight sender receiver) (size : Nat)
    (hsender : sender.turn size = none) (hreceiver : receiver.turn size = none) : apdus = [] := by
  have hwithin := h.within
  rcases h.receiver with ⟨limit, buffer, decoded, hreceiving⟩
  have hstage := hreceiving.stage
  generalize htask : receiver.task = task at hstage
  generalize hcalls : receiver.calls = calls at hstage
  cases hstage with
  | waiting apdus hhandled hleftover =>
      -- The receiver can begin its call.
      cases apdus with
      | nil => rfl
      | cons apdu later =>
          rw [turn_of_idle receiver size _ _ htask hcalls] at hreceiver
          cases hreceiver
  | receiving apdu later =>
      have hawaits : awaitsFrame receiver.channel receiver.task = true := by
        rw [htask]
        rfl
      have hlooked := eq_nil_of_blocked far receiver _ _ hreceiving.channel hawaits
        hreceiving.unread size hreceiver
      -- All segments that are sent are handled, so there are some that are not sent.
      have hhandled : flight.sent ≤ flight.handled := by
        rw [receiverFrames, List.append_eq_nil_iff] at hlooked
        rw [← Nat.not_lt]
        intro hless
        rw [between_of_lt _ _ _ hless] at hlooked
        exact absurd hlooked.2 (List.cons_ne_nil _ _)
      have hunfinished := hwithin.unfinished (List.cons_ne_nil apdu later)
      rw [currentCount] at hunfinished
      have hwindow : 1 ≤ window near := hjoined.nearEstablished.windowPositive
      rcases h.sender with ⟨limit', buffer', decoded', hsending⟩
      rcases hsending.stage with ⟨owed, hstage', hresults⟩
      generalize htask' : sender.task = task' at hstage'
      generalize hcalls' : sender.calls = calls' at hstage'
      cases hstage' with
      | waiting apdus hsent =>
          rw [turn_of_idle sender size _ _ htask' hcalls'] at hsender
          cases hsender
      | finished apdu later hsent hanswered => omega
      | listening apdu following later hsent => omega
      | sending apdu later hsent hanswered hlimit =>
          have hidle : sender.task ≠ .idle := by
            rw [htask']
            exact fun hcontra => Task.noConfusion hcontra
          by_cases hawaits' : awaitsFrame sender.channel sender.task = true
          · -- The window is full, but everything that was sent is acknowledged.
            have hlooked' := eq_nil_of_blocked near sender _ _ hsending.channel hawaits'
              hsending.unread size hsender
            have hanswered' : flight.handled ≤ flight.answered := by
              rw [← Nat.not_lt]
              intro hless
              rw [senderFrames, between_of_lt _ _ _ (by omega)] at hlooked'
              exact absurd hlooked' (List.cons_ne_nil _ _)
            have hcan := canSend_underWay near hjoined.nearEstablished
              (senderProgress flight limit' buffer' decoded')
              (Nat.add_le_add_left (Nat.le_trans hwithin.answered hwithin.handled) flight.first)
              (by
                show flight.first + flight.sent ≤ flight.first + flight.answered + window near
                have hfull := hwithin.window
                omega)
            rw [htask', awaitsFrame, hsending.channel, Bool.not_eq_true', ← Bool.not_eq_true,
              hcan] at hawaits'
            have hfull : ¬ flight.first + flight.sent <
                flight.first + flight.answered + window near := hawaits'
            omega
          · rw [turn_of_task sender size hidle, Bool.eq_false_iff.mpr hawaits', Bool.false_and,
              if_neg Bool.false_ne_true] at hsender
            cases hsender

end Receiver

end Profile

end Dlms
