import Dlms.Machine.Fifo
import Dlms.Profile.HdlcChannel

/-!
# A connected channel under way

What changes in a connected channel while APDUs go to and fro is little: three
numbers, of which the session keeps the remainders, the segments put together
so far, and what has been read but not looked at. A channel under way is a
connected one with these put in, and what is done between two reads is said
here in terms of them.

## Main definitions

* `Progress`, `underWay`: What changes, and the channel with it.
* `Established`: What a connected channel has to be.
* `informationFrame`, `receiveReadyFrame`: The frames of such a channel.
* `Unread`: The frames an end has not looked at.

## Theorems

* `buildSegment_underWay`, `buildReceiveReady_underWay`: What it sends.
* `receiveFrame_receiveReady`, `receiveFrame_informationFrame`: What it makes of
  the frames of its peer.
* `nextFrame_of_decoded`, `nextFrame_of_read`: What a read brings.
-/

namespace Dlms

namespace Profile

open Apdu (Bytes)
open Hdlc (Continues Fits HdlcControl HdlcFrame HdlcReassembler HdlcSession HdlcStreamDecoder
  carriesInformation_octet
  carriesReceiveReady_octet decodeFrame_of_fits effectiveMaximumFrameSize
  effectiveMaximumInformationFieldSize effectiveMaximumReassembledInformationSize encodeFrame_eq_ok
  formatFieldLength frameBytes fullFrameSize headerSize makeInformationControl
  makeReceiveReadyControl maximumFormatFieldLength nextSequence pushFrame_pending
  sequence_of_receiveReady sequences_of_information)
open Hdlc.HdlcStreamDecoder (Waiting push_frames streamBytes streamBytes_append streamBytes_cons
  waiting_nil)

/-! ### The frames of a channel -/

/-- The sequence number of a true number. -/
def sequenceOf (number : Nat) : UInt8 := UInt8.ofNat (number % 8)

theorem toNat_sequenceOf (number : Nat) : (sequenceOf number).toNat = number % 8 := by
  rw [sequenceOf, UInt8.toNat_ofNat']
  omega

theorem sequenceOf_lt (number : Nat) : (sequenceOf number).toNat < 8 := by
  rw [toNat_sequenceOf]
  exact Nat.mod_lt _ (by decide)

theorem nextSequence_sequenceOf (number : Nat) :
    nextSequence (sequenceOf number) = sequenceOf (number + 1) := by
  rw [← UInt8.toNat_inj, HdlcSession.toNat_nextSequence _ number (toNat_sequenceOf number),
    toNat_sequenceOf]

def informationControl (number acknowledged : Nat) (pollFinal : Bool) : HdlcControl where
  rawValue := makeInformationControl (sequenceOf number) (sequenceOf acknowledged) pollFinal
  accepted := (carriesInformation_octet _ _ (sequenceOf_lt number) (sequenceOf_lt acknowledged)
    pollFinal).1

def receiveReadyControl (acknowledged : Nat) (pollFinal : Bool) : HdlcControl where
  rawValue := makeReceiveReadyControl (sequenceOf acknowledged) pollFinal
  accepted := (carriesReceiveReady_octet _ (sequenceOf_lt acknowledged) pollFinal).1

variable (base : HdlcProfileChannel)

/-- The information frame with this number; the last segment is the final one. -/
def informationFrame (number acknowledged : Nat) (segmented : Bool) (information : Bytes) :
    HdlcFrame where
  segmented := segmented
  destination := base.session.remoteAddress
  source := base.session.localAddress
  control := informationControl number acknowledged (!segmented)
  information := information

def receiveReadyFrame (acknowledged : Nat) : HdlcFrame where
  segmented := false
  destination := base.session.remoteAddress
  source := base.session.localAddress
  control := receiveReadyControl acknowledged true
  information := []

theorem frameKind_receiveReadyFrame (acknowledged : Nat) :
    (receiveReadyFrame base acknowledged).control.frameKind = .supervisory :=
  (sequence_of_receiveReady (receiveReadyControl acknowledged true) (sequenceOf acknowledged)
    (carriesReceiveReady_octet _ (sequenceOf_lt acknowledged) true)).1

/-! ### What changes -/

/-- What changes of a channel in an exchange. -/
structure Progress where
  /-- Information frames sent. -/
  sent : Nat
  /-- Information frames received. -/
  received : Nat
  /-- Information frames sent that are known to be received. -/
  acknowledged : Nat
  /-- The limit that the last LPDU sent has set. -/
  informationLimit : Nat
  buffer : Bytes
  decoded : List HdlcFrame
  assembling : Option HdlcFrame

/-- A connected channel with what has changed. -/
def underWay (progress : Progress) : HdlcProfileChannel :=
  { base with
    hdlcLimits := { base.hdlcLimits with
      maximumInformationFieldSize := progress.informationLimit }
    decoder := { base.decoder with buffer := progress.buffer }
    reassembler := { base.reassembler with pendingFrame := progress.assembling }
    session := { base.session with
      sendSequence := sequenceOf progress.sent
      receiveSequence := sequenceOf progress.received
      acknowledgeSequence := sequenceOf progress.acknowledged }
    pendingHdlcFrames := progress.decoded
    pendingApdus := [] }

/-- Octets of the largest frame. -/
def frameSizeLimit : Nat := 2049

def informationSizeLimit : Nat := 2030

/-- A channel in session mode whose session is connected, with sizes and windows
    within their bounds. -/
structure Established : Prop where
  useSession : base.options.hdlcUseSession = true
  connected : base.session.state = .connected
  informationPositive : 1 ≤ base.session.negotiatedLimits.maxInformationFieldLengthTransmit
  informationAtMost :
    base.session.negotiatedLimits.maxInformationFieldLengthTransmit ≤ informationSizeLimit
  windowPositive : 1 ≤ base.session.windowSizeTransmit.toNat
  windowAtMost : base.session.windowSizeTransmit.toNat ≤ 7
  sessionFrame : base.session.options.limits.maximumFrameSize = frameSizeLimit
  sessionInformation : base.session.options.limits.maximumInformationFieldSize = 0 ∨
    base.session.options.limits.maximumInformationFieldSize =
      base.session.negotiatedLimits.maxInformationFieldLengthTransmit
  channelFrame : base.hdlcLimits.maximumFrameSize = frameSizeLimit
  decoderFrame : base.decoder.limits.maximumFrameSize = frameSizeLimit
  decoderInformation : base.decoder.limits.maximumInformationFieldSize = 0
  reassembly : effectiveMaximumReassembledInformationSize base.reassembler.limits =
    reassemblyLimit base.options

/-- Two channels that speak to each other. -/
structure Peers (near far : HdlcProfileChannel) : Prop where
  toFar : near.session.remoteAddress = far.session.localAddress
  toNear : far.session.remoteAddress = near.session.localAddress

theorem Peers.symm (near far : HdlcProfileChannel) (h : Peers near far) : Peers far near where
  toFar := h.toNear
  toNear := h.toFar

/-- A frame with no more information than the largest there is has its place
    between limits that say nothing smaller. -/
theorem fits_of_length (frame : HdlcFrame) (limits : Hdlc.HdlcCodecLimits)
    (hframe : limits.maximumFrameSize = frameSizeLimit)
    (hinformation : limits.maximumInformationFieldSize = 0 ∨
      frame.information.length ≤ limits.maximumInformationFieldSize)
    (hlength : frame.information.length ≤ informationSizeLimit) : Fits frame limits := by
  have hdestination := frame.destination.size_cases
  have hsource := frame.source.size_cases
  have hheader : headerSize frame ≤ 11 := by
    rw [headerSize]
    omega
  have hformat : formatFieldLength frame ≤ headerSize frame + 2 + frame.information.length + 2 := by
    rw [formatFieldLength]
    split_ifs <;> omega
  have hsize : effectiveMaximumFrameSize limits = 2049 := by
    rw [effectiveMaximumFrameSize, hframe]
    rfl
  rw [informationSizeLimit] at hlength
  refine ⟨?_, ?_, ?_⟩
  · rw [effectiveMaximumInformationFieldSize, hsize]
    split_ifs <;> omega
  · rw [maximumFormatFieldLength]
    omega
  · rw [fullFrameSize, hsize]
    omega

section Established

variable (hbase : Established base) (progress : Progress)
include hbase

/-! ### What it sends -/

theorem canSend_underWay (hacknowledged : progress.acknowledged ≤ progress.sent)
    (hwindow : progress.sent ≤
      progress.acknowledged + base.session.windowSizeTransmit.toNat) :
    (underWay base progress).session.canSendInformationFrame = true ↔
      progress.sent < progress.acknowledged + base.session.windowSizeTransmit.toNat := by
  have hmost := hbase.windowAtMost
  have hdistance := Machine.sub_of_mod 8 7 (by omega) progress.acknowledged progress.sent
    hacknowledged (by omega)
  rw [HdlcSession.canSendInformationFrame, decide_eq_true_eq, UInt8.lt_iff_toNat_lt,
    HdlcSession.toNat_distance]
  simp only [underWay, toNat_sequenceOf]
  omega

/-- A segment goes out under the next number. -/
theorem buildSegment_underWay (information : Bytes) (segmented : Bool)
    (hacknowledged : progress.acknowledged ≤ progress.sent)
    (hroom : progress.sent < progress.acknowledged + base.session.windowSizeTransmit.toNat)
    (hlength : information.length ≤
      base.session.negotiatedLimits.maxInformationFieldLengthTransmit)
    (hlimit : progress.informationLimit =
      base.session.negotiatedLimits.maxInformationFieldLengthTransmit) :
    (underWay base progress).buildSessionInformationFrame information segmented (!segmented) =
      (.ok (frameBytes
          (informationFrame base progress.sent progress.received segmented information)),
        underWay base { progress with sent := progress.sent + 1 }) := by
  have hcan := (canSend_underWay base hbase progress hacknowledged (by omega)).mpr hroom
  have hmost := hbase.informationAtMost
  have hsession : Fits ((underWay base progress).session.outgoing
      (informationControl progress.sent progress.received (!segmented)) information)
        base.session.options.limits := by
    refine fits_of_length _ _ hbase.sessionFrame ?_ (Nat.le_trans hlength hmost)
    rcases hbase.sessionInformation with hnone | hsome
    · exact .inl hnone
    · exact .inr (by rw [hsome]; exact hlength)
  have hinformation := HdlcSession.buildInformationFrame_of_fits (underWay base progress).session
    (informationControl progress.sent progress.received (!segmented)) information (!segmented)
    hbase.connected hcan rfl hsession
  unfold HdlcProfileChannel.buildSessionInformationFrame
  rw [hinformation]
  simp only [underWay, nextSequence_sequenceOf]
  cases segmented with
  | false => rfl
  | true =>
      -- The frame goes through the decoder and back.
      have hchannel : ∀ more, Fits
          { (underWay base progress).session.outgoing
              (informationControl progress.sent progress.received false) information with
            segmented := more }
          { base.hdlcLimits with maximumInformationFieldSize := progress.informationLimit } := by
        intro more
        refine fits_of_length _ _ hbase.channelFrame (.inr ?_) (Nat.le_trans hlength hmost)
        show information.length ≤ progress.informationLimit
        rw [hlimit]
        exact hlength
      have hplain : Fits ((underWay base progress).session.outgoing
          (informationControl progress.sent progress.received false) information)
          { base.hdlcLimits with maximumInformationFieldSize := progress.informationLimit } :=
        hchannel false
      have hdecoded := decodeFrame_of_fits _ _ hplain
      have hencoded := (encodeFrame_eq_ok _ _ _).mpr ⟨hchannel true, rfl⟩
      simp only [Bool.not_true, Bool.false_eq_true, if_false]
      simp only [underWay] at hdecoded hencoded ⊢
      rw [hdecoded]
      simp only
      rw [hencoded]
      rfl

theorem buildReceiveReady_underWay :
    (underWay base progress).session.buildReceiveReadyFrame true =
      .ok (frameBytes (receiveReadyFrame base progress.received)) := by
  have hfits : Fits ((underWay base progress).session.outgoing
      (receiveReadyControl progress.received true) []) base.session.options.limits :=
    fits_of_length _ _ hbase.sessionFrame (.inr (Nat.zero_le _)) (Nat.zero_le _)
  exact HdlcSession.buildReceiveReadyFrame_of_fits (underWay base progress).session
    (receiveReadyControl progress.received true) true hbase.connected rfl hfits

end Established

/-! ### What it makes of the frames of its peer -/

theorem reassemblyLimit_bounds (options : ApduChannelOptions) :
    65535 ≤ reassemblyLimit options ∧ reassemblyLimit options < 2 ^ 64 := by
  have hwrapped := Nat.mod_lt (options.maximumApduSize + 3) (Nat.two_pow_pos 64)
  have hlimit : (if options.maximumApduSize = 0 then (65535 : Nat)
      else (options.maximumApduSize + 3) % 2 ^ 64) < 2 ^ 64 := by
    split_ifs with hzero
    · decide
    · exact hwrapped
  simp only [reassemblyLimit, sizeSum, Hdlc.defaultHdlcCodecLimits]
  split_ifs <;> omega

/-- What has been put together of an LPDU, under its first frame. -/
def assembled (far : HdlcProfileChannel) (number acknowledged : Nat) (octets : Bytes) :
    Option HdlcFrame :=
  if octets = [] then none else some (informationFrame far number acknowledged true octets)

section Receiving

variable (far : HdlcProfileChannel) (hbase : Established base) (hpeers : Peers base far)
  (progress : Progress)

/-- A number between those acknowledged and those sent is accepted. -/
theorem acknowledges_underWay (number : Nat) (hbehind : progress.acknowledged ≤ number)
    (hahead : number ≤ progress.sent) (hwindow : progress.sent ≤ progress.acknowledged + 7) :
    (underWay base progress).session.acknowledges (sequenceOf number) = true := by
  have hnumber := Machine.sub_of_mod 8 7 (by omega) progress.acknowledged number hbehind (by omega)
  have hsent := Machine.sub_of_mod 8 7 (by omega) progress.acknowledged progress.sent (by omega)
    hwindow
  rw [HdlcSession.acknowledges, decide_eq_true_eq, UInt8.le_iff_toNat_le,
    HdlcSession.toNat_distance, HdlcSession.toNat_distance]
  simp only [underWay, toNat_sequenceOf]
  omega

section Session

include hbase hpeers

theorem receiveFrame_receiveReady (number : Nat) (hbehind : progress.acknowledged ≤ number)
    (hahead : number ≤ progress.sent) (hwindow : progress.sent ≤ progress.acknowledged + 7) :
    (underWay base progress).session.receiveFrame (receiveReadyFrame far number) =
      (.ok (), (underWay base { progress with acknowledged := number }).session) := by
  have hacknowledges := acknowledges_underWay base progress number hbehind hahead hwindow
  rcases sequence_of_receiveReady (receiveReadyControl number true) (sequenceOf number)
    (carriesReceiveReady_octet _ (sequenceOf_lt number) true) with ⟨hkind, hready, hnumber⟩
  have hmatch : (underWay base progress).session.incomingAddressesMatch
      (receiveReadyFrame far number) = true := by
    rw [HdlcSession.incomingAddressesMatch, Bool.and_eq_true, beq_iff_eq, beq_iff_eq]
    exact ⟨hpeers.toNear, hpeers.toFar.symm⟩
  rw [← hnumber] at hacknowledges
  rw [HdlcSession.receiveFrame_of_acknowledges _ _ hmatch hbase.connected hkind hready
    hacknowledges]
  simp [underWay, receiveReadyFrame, hnumber]

theorem receiveFrame_informationFrame (number : Nat) (segmented : Bool) (information : Bytes)
    (hbehind : progress.acknowledged ≤ number) (hahead : number ≤ progress.sent)
    (hwindow : progress.sent ≤ progress.acknowledged + 7) :
    (underWay base progress).session.receiveFrame
        (informationFrame far progress.received number segmented information) =
      (.ok (), (underWay base
        { progress with
          acknowledged := number
          received := progress.received + 1 }).session) := by
  have hacknowledges := acknowledges_underWay base progress number hbehind hahead hwindow
  rcases sequences_of_information (informationControl progress.received number (!segmented)) _ _
    (carriesInformation_octet _ _ (sequenceOf_lt progress.received) (sequenceOf_lt number)
      (!segmented)) with ⟨hkind, hsend, hnumber⟩
  have hmatch : (underWay base progress).session.incomingAddressesMatch
      (informationFrame far progress.received number segmented information) = true := by
    rw [HdlcSession.incomingAddressesMatch, Bool.and_eq_true, beq_iff_eq, beq_iff_eq]
    exact ⟨hpeers.toNear, hpeers.toFar.symm⟩
  rw [← hnumber] at hacknowledges
  rw [HdlcSession.receiveFrame_of_expected _ _ hmatch hbase.connected hkind hsend hacknowledges]
  simp [underWay, informationFrame, hnumber, nextSequence_sequenceOf]

theorem handleSessionControlFrame_receiveReady (number : Nat)
    (hbehind : progress.acknowledged ≤ number) (hahead : number ≤ progress.sent)
    (hwindow : progress.sent ≤ progress.acknowledged + 7) :
    (underWay base progress).handleSessionControlFrame (receiveReadyFrame far number) =
      (.ok (), underWay base { progress with acknowledged := number }, []) := by
  have hreceived := receiveFrame_receiveReady base far hbase hpeers progress number hbehind hahead
    hwindow
  have hkind := frameKind_receiveReadyFrame far number
  unfold HdlcProfileChannel.handleSessionControlFrame
  rw [hkind, if_neg (by decide), hreceived]
  rfl

/-- A call that receives an APDU passes over an acknowledgement. -/
theorem decodeFrameToPendingApdu_receiveReady (number : Nat)
    (hassembling : progress.assembling = none) (hbehind : progress.acknowledged ≤ number)
    (hahead : number ≤ progress.sent) (hwindow : progress.sent ≤ progress.acknowledged + 7) :
    (underWay base progress).decodeFrameToPendingApdu (receiveReadyFrame far number) =
      (.ok (), underWay base { progress with acknowledged := number }, []) := by
  have hreceived := receiveFrame_receiveReady base far hbase hpeers progress number hbehind hahead
    hwindow
  have hpushed : (underWay base progress).reassembler.pushFrame (receiveReadyFrame far number) =
      (.ok (receiveReadyFrame far number), (underWay base progress).reassembler) := by
    have hnone : (underWay base progress).reassembler.pendingFrame = none := hassembling
    unfold HdlcReassembler.pushFrame
    rw [hnone]
    simp [receiveReadyFrame]
  have hsession : (underWay base progress).options.hdlcUseSession = true := hbase.useSession
  unfold HdlcProfileChannel.decodeFrameToPendingApdu
  rw [hsession, if_neg (by decide), hpushed]
  simp only
  rw [hreceived]
  simp only [receiveReadyFrame, if_true]
  rfl

omit hpeers in
/-- A segment more is put behind the octets of the first ones, as long as there
    is room for it. -/
theorem pushFrame_assembled (first acknowledged number : Nat) (octets information : Bytes)
    (segmented : Bool) (hfirst : octets = [] → number = first)
    (hassembling : progress.assembling = assembled far first acknowledged octets)
    (hsome : information ≠ []) (hlength : information.length ≤ informationSizeLimit) :
    ∃ completed : HdlcFrame, completed.information = octets ++ information ∧
      (underWay base progress).reassembler.pushFrame
          (informationFrame far number acknowledged segmented information) =
        if octets.length + information.length > reassemblyLimit base.options then
          (.error .segmentationOverflow, { limits := base.reassembler.limits })
        else if segmented then
          (.error .segmentationIncomplete,
            { limits := base.reassembler.limits
              pendingFrame := assembled far first acknowledged (octets ++ information) })
        else (.ok completed, { limits := base.reassembler.limits }) := by
  have hlimit := reassemblyLimit_bounds base.options
  have hmaximum := hbase.reassembly
  have hpending : (underWay base progress).reassembler =
      { limits := base.reassembler.limits
        pendingFrame := assembled far first acknowledged octets } := by
    rw [← hassembling]
    rfl
  rw [informationSizeLimit] at hlength
  have hshort : (informationFrame far number acknowledged segmented information).information.length
      ≤ effectiveMaximumReassembledInformationSize base.reassembler.limits := by
    rw [hmaximum]
    exact Nat.le_trans hlength (by omega)
  by_cases hoctets : octets = []
  · -- The first frame of an LPDU: it stays as it is.
    subst hoctets
    refine ⟨informationFrame far number acknowledged segmented information, rfl, ?_⟩
    rw [hpending, assembled, if_pos rfl, hfirst rfl, if_neg (by rw [List.length_nil]; omega),
      List.nil_append, assembled, if_neg hsome]
    unfold HdlcReassembler.pushFrame
    simp only
    rw [hfirst rfl] at hshort
    rw [if_neg (by omega)]
    cases segmented with
    | false => rfl
    | true => rfl
  · -- A later one: its octets are added to those of the first.
    refine ⟨{ informationFrame far first acknowledged true (octets ++ information) with
      segmented := false }, rfl, ?_⟩
    have hcontinues : Continues (informationFrame far first acknowledged true octets)
        (informationFrame far number acknowledged segmented information) := by
      refine ⟨rfl, rfl, ?_⟩
      have hkind := fun number more => (sequences_of_information
        (informationControl number acknowledged more) _ _ (carriesInformation_octet _ _
          (sequenceOf_lt number) (sequenceOf_lt acknowledged) more)).1
      exact (hkind number (!segmented)).trans (hkind first false).symm
    have hmore : octets ++ information ≠ [] := by
      simp [hoctets]
    rw [hpending, assembled, if_neg hoctets, pushFrame_pending _ _ _ hcontinues (by omega) hshort,
      hmaximum, assembled, if_neg hmore]
    rfl

section Segment

variable (first acknowledged : Nat) (octets information : Bytes)
  (hfirst : octets = [] → progress.received = first)
  (hassembling : progress.assembling = assembled far first acknowledged octets)
  (hsome : information ≠ []) (hlength : information.length ≤ informationSizeLimit)
  (hbehind : progress.acknowledged ≤ acknowledged) (hahead : acknowledged ≤ progress.sent)
  (hwindow : progress.sent ≤ progress.acknowledged + 7)

include hfirst hassembling hsome hlength

omit hpeers in
/-- A segment for which there is no room ends the call. -/
theorem decodeFrameToPendingApdu_overflow (segmented : Bool)
    (hover : octets.length + information.length > reassemblyLimit base.options) :
    ∃ channel, (underWay base progress).decodeFrameToPendingApdu
        (informationFrame far progress.received acknowledged segmented information) =
      (.error .payloadTooLarge, channel, []) := by
  rcases pushFrame_assembled base far hbase progress first acknowledged progress.received octets
    information segmented hfirst hassembling hsome hlength with ⟨completed, -, hpushed⟩
  have hsession : (underWay base progress).options.hdlcUseSession = true := hbase.useSession
  unfold HdlcProfileChannel.decodeFrameToPendingApdu
  rw [hsession, if_neg (by decide), hpushed, if_pos hover]
  exact ⟨_, rfl⟩

include hbehind hahead hwindow

/-- A segment that is not the last one is acknowledged. -/
theorem decodeFrameToPendingApdu_segment
    (hroom : octets.length + information.length ≤ reassemblyLimit base.options) :
    (underWay base progress).decodeFrameToPendingApdu
        (informationFrame far progress.received acknowledged true information) =
      (.error .needMoreData,
        underWay base
          { progress with
            received := progress.received + 1
            acknowledged := acknowledged
            assembling := assembled far first acknowledged (octets ++ information) },
        frameBytes (receiveReadyFrame base (progress.received + 1))) := by
  -- The reassembler takes the segment, the session accepts its number, and the acknowledgement is
  -- built.
  rcases pushFrame_assembled base far hbase progress first acknowledged progress.received octets
    information true hfirst hassembling hsome hlength with ⟨completed, -, hpushed⟩
  have hreceived := receiveFrame_informationFrame base far hbase hpeers progress acknowledged true
    information hbehind hahead hwindow
  have hready := buildReceiveReady_underWay base hbase
    { progress with
      received := progress.received + 1
      acknowledged := acknowledged
      assembling := assembled far first acknowledged (octets ++ information) }
  have hsession : (underWay base progress).options.hdlcUseSession = true := hbase.useSession
  unfold HdlcProfileChannel.decodeFrameToPendingApdu
  rw [hsession, if_neg (by decide), hpushed, if_neg (by omega), if_pos rfl]
  simp only [mapHdlcStatus, ne_eq, not_true_eq_false, if_false, hreceived]
  rw [show (underWay base { progress with
      acknowledged := acknowledged
      received := progress.received + 1 }).session.buildReceiveReadyFrame true =
    .ok (frameBytes (receiveReadyFrame base (progress.received + 1))) from hready]
  rfl

/-- The last segment brings the APDU. -/
theorem decodeFrameToPendingApdu_last (direction : Llc.LlcDirection) (apdu : Bytes)
    (hroom : octets.length + information.length ≤ reassemblyLimit base.options)
    (hlpdu : octets ++ information = Llc.lpduBytes direction apdu)
    (hpermitted : base.options.maximumApduSize = 0 ∨ apdu.length ≤ base.options.maximumApduSize) :
    (underWay base progress).decodeFrameToPendingApdu
        (informationFrame far progress.received acknowledged false information) =
      (.ok (),
        { underWay base
            { progress with
              received := progress.received + 1
              acknowledged := acknowledged
              assembling := none } with
          pendingApdus := [apdu] }, []) := by
  rcases pushFrame_assembled base far hbase progress first acknowledged progress.received octets
    information false hfirst hassembling hsome hlength with ⟨completed, hcompleted, hpushed⟩
  have hreceived := receiveFrame_informationFrame base far hbase hpeers progress acknowledged false
    information hbehind hahead hwindow
  -- What was put together is the LPDU that was cut up.
  have hdecoded : Llc.decodeLpdu completed.information false =
      .ok (Llc.makeLlcHeader direction, apdu) := by
    rw [hcompleted, hlpdu]
    exact Llc.decodeLpdu_lpduBytes direction apdu false
  have hnonempty : completed.information ≠ [] := by
    rw [hcompleted, hlpdu]
    exact List.cons_ne_nil _ _
  have hsession : (underWay base progress).options.hdlcUseSession = true := hbase.useSession
  have hsmall : ¬ ((underWay base progress).options.maximumApduSize ≠ 0 ∧
      apdu.length > (underWay base progress).options.maximumApduSize) := by
    show ¬ (base.options.maximumApduSize ≠ 0 ∧ apdu.length > base.options.maximumApduSize)
    omega
  unfold HdlcProfileChannel.decodeFrameToPendingApdu
  rw [hsession, if_neg (by decide), hpushed, if_neg (by omega), if_neg (by decide)]
  simp only [hreceived]
  rw [if_neg hnonempty]
  unfold HdlcProfileChannel.decodeCompleteInformationToPendingApdu
  simp only [hdecoded]
  rw [if_neg hsmall]
  rfl

end Segment

end Session

end Receiving

/-! ### What a read brings -/

/-- The frames an end has not looked at: some are decoded, the octets of the
    others are in its decoder or still in the stream. -/
def Unread (buffer : Bytes) (decoded : List HdlcFrame) (inbox : Bytes)
    (frames : List HdlcFrame) : Prop :=
  ∃ later, frames = decoded ++ later ∧ buffer ++ inbox = streamBytes later ∧ Waiting buffer later

/-- An end with nothing decoded and nothing in its stream has looked at all. -/
theorem eq_nil_of_unread (buffer : Bytes) (frames : List HdlcFrame)
    (h : Unread buffer [] [] frames) : frames = [] := by
  rcases h with ⟨later, hframes, hstream, hwaiting⟩
  rw [List.nil_append] at hframes
  rw [List.append_nil] at hstream
  cases later with
  | nil => exact hframes
  | cons frame later =>
      -- The frame would be in the buffer as a whole.
      have hshort := hwaiting frame (by rw [List.head?_cons, Option.mem_def])
      rw [hstream, streamBytes_cons, List.length_append] at hshort
      omega

/-- What the peer writes comes last. -/
theorem unread_write (buffer : Bytes) (decoded : List HdlcFrame) (inbox : Bytes)
    (frames : List HdlcFrame) (h : Unread buffer decoded inbox frames) (written : HdlcFrame) :
    Unread buffer decoded (inbox ++ frameBytes written) (frames ++ [written]) := by
  rcases h with ⟨later, hframes, hstream, hwaiting⟩
  refine ⟨later ++ [written], ?_, ?_, ?_⟩
  · rw [hframes, List.append_assoc]
  · rw [← List.append_assoc, hstream, streamBytes_append, streamBytes_cons]
    exact congrArg _ (List.append_nil _).symm
  · cases later with
    | cons frame later => exact hwaiting
    | nil =>
        have hempty := (List.append_eq_nil_iff.mp hstream).1
        rw [hempty]
        exact waiting_nil _

section Reading

variable (progress : Progress) (inbox : Bytes) (frames : List HdlcFrame)

/-- A frame that has been decoded already. -/
theorem nextFrame_of_decoded (read : Except ProfileStatus Bytes) (frame : HdlcFrame)
    (later : List HdlcFrame) (hdecoded : progress.decoded = frame :: later) :
    (underWay base progress).nextFrame read =
      (.ok (some frame), underWay base { progress with decoded := later }) := by
  have hpending : (underWay base progress).pendingHdlcFrames = frame :: later := hdecoded
  unfold HdlcProfileChannel.nextFrame
  rw [hpending]
  rfl

/-- A read brings the first frame that has not been looked at, or a part of it. -/
theorem nextFrame_of_read (size : Nat) (hdecoded : progress.decoded = [])
    (hunread : Unread progress.buffer progress.decoded inbox frames)
    (hfits : ∀ frame ∈ frames, Fits frame base.decoder.limits) (hsome : inbox.take size ≠ []) :
    ∃ buffer decoded, (∃ frame later, frames = frame :: later ∧
        (underWay base progress).nextFrame (.ok (inbox.take size)) =
          (.ok (some frame), underWay base
            { progress with buffer := buffer, decoded := decoded }) ∧
        Unread buffer decoded (inbox.drop size) later) ∨
      (underWay base progress).nextFrame (.ok (inbox.take size)) =
          (.ok none, underWay base { progress with buffer := buffer, decoded := decoded }) ∧
        Unread buffer decoded (inbox.drop size) frames := by
  rcases hunread with ⟨later, hframes, hstream, hwaiting⟩
  rw [hdecoded, List.nil_append] at hframes
  subst hframes
  -- The octets read so far and those still to come are those of the frames, in order.
  have hcut : progress.buffer ++ inbox.take size ++ inbox.drop size = streamBytes frames := by
    rw [List.append_assoc, List.take_append_drop, hstream]
  rcases push_frames base.decoder.limits base.decoder.noisePolicy (inbox.drop size)
    progress.buffer (inbox.take size) frames hfits hcut with
    ⟨found, left, buffer, hfound, hpushed, hrest, hleft⟩
  have hpending : (underWay base progress).pendingHdlcFrames = [] := hdecoded
  have hpush : (underWay base progress).decoder.push (inbox.take size) = _ := hpushed
  unfold HdlcProfileChannel.nextFrame
  rw [hpending]
  simp only
  unfold HdlcProfileChannel.receiveDecodedFrame
  cases htaken : inbox.take size with
  | nil => exact absurd htaken hsome
  | cons first data =>
      rw [htaken] at hpush
      simp only [hpush]
      cases found with
      | nil =>
          refine ⟨buffer, [], .inr ⟨?_, left, hfound, hrest, hleft⟩⟩
          simp only [HdlcStreamDecoder.pushStatus, List.isEmpty_nil, if_true, mapHdlcStatus]
          rw [← hdecoded]
          rfl
      | cons frame found =>
          refine ⟨buffer, found, .inl ⟨frame, found ++ left, hfound, ?_, left, rfl, hrest, hleft⟩⟩
          simp only [HdlcStreamDecoder.pushStatus, List.isEmpty_cons, Bool.false_eq_true, if_false]
          rw [hpending, List.nil_append]
          rfl

end Reading

end Profile

end Dlms
