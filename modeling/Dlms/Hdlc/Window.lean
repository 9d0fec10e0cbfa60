import Dlms.Hdlc.Connection
import Dlms.Machine.Fifo
import Dlms.Machine.Run

/-!
# The sliding window

Two connected sessions send each other information frames and receive-ready
frames over queues that lose frames and deliver some twice in a row. The
sessions know each other's frames by numbers modulo eight and acknowledge
several at once, on their own information frames too.

Behind the remainders stand true numbers: how many frames an end has sent, how
many it has accepted, and how many of its own it knows to be accepted. A frame
on its way has a true number as well, and acknowledges a true number of frames.
Both grow along a queue, an acknowledgement lies between what is known and what
was accepted, and a frame is at most one behind what its receiver expects. With
a window below eight, the number expected is then the only one in sight with
its remainder.

Frames are octets here. An end may decode with limits of its own, and what it
cannot decode it does not see.

## Main definitions

* `Endpoint`, `Link`: The two ends, each with what is on its way to it.
* `EndpointAction`, `linkStep`: What may happen.
* `Opened`: Two ends that have just been connected.
* `Synchronous`: What holds between the two ends.

## Theorems

* `synchronous_act`: Whatever happens keeps it.
* `window_safety`: What is accepted is a prefix of what was sent, and the window
  is kept.
-/

namespace Dlms

namespace Hdlc

open Machine (run final invariant_run eq_of_mod_eq sub_of_mod)
open Machine.Fifo (lose duplicate)

/-- One end of a link: its session, the frames on their way to it, and what its
    user has seen. -/
structure Endpoint where
  session : HdlcSession
  limits : HdlcCodecLimits
  inbox : List Bytes := []
  /-- The information of the frames it has built. -/
  sent : List Bytes := []
  /-- The information of the frames it has accepted. -/
  accepted : List Bytes := []
  /-- How many frames it knows to be accepted. -/
  acknowledged : Nat := 0

inductive EndpointAction where
  | sendInformation (information : Bytes) (pollFinal : Bool)
  | sendReceiveReady (pollFinal : Bool)
  | lose (index : Nat)
  | duplicate (index : Nat)
  | deliver
  deriving DecidableEq, Repr

/-- The frame at the front of the queue comes in. -/
def deliverFrame (near : Endpoint) (bytes : Bytes) : Endpoint :=
  match decodeFrame bytes near.limits with
  | .error _ => near
  | .ok frame =>
      match near.session.receiveFrame frame with
      | (.error _, session) => { near with session := session }
      | (.ok (), session) =>
          { near with
            session := session
            accepted :=
              if frame.control.frameKind = .information then near.accepted ++ [frame.information]
              else near.accepted
            acknowledged := near.acknowledged +
              (HdlcSession.distance session.acknowledgeSequence
                near.session.acknowledgeSequence).toNat }

/-- What happens at one end; what it sends is on its way to the other. -/
def act (action : EndpointAction) (near far : Endpoint) : Endpoint × Endpoint :=
  match action with
  | .sendInformation information pollFinal =>
      match near.session.buildInformationFrame information pollFinal with
      | (.error _, session) => ({ near with session := session }, far)
      | (.ok output, session) =>
          ({ near with session := session, sent := near.sent ++ [information] },
            { far with inbox := far.inbox ++ [output] })
  | .sendReceiveReady pollFinal =>
      match near.session.buildReceiveReadyFrame pollFinal with
      | .error _ => (near, far)
      | .ok output => (near, { far with inbox := far.inbox ++ [output] })
  | .lose index => ({ near with inbox := lose index near.inbox }, far)
  | .duplicate index => ({ near with inbox := duplicate index near.inbox }, far)
  | .deliver =>
      match near.inbox with
      | [] => (near, far)
      | bytes :: inbox => (deliverFrame { near with inbox := inbox } bytes, far)

/-- Two sessions and what is between them. -/
structure Link where
  client : Endpoint
  server : Endpoint

/-- Something happens at one of the ends. -/
def linkStep (action : HdlcSessionRole × EndpointAction) (link : Link) : Unit × Link :=
  match action.1 with
  | .client =>
      let ends := act action.2 link.client link.server
      ((), { client := ends.1, server := ends.2 })
  | .server =>
      let ends := act action.2 link.server link.client
      ((), { client := ends.2, server := ends.1 })

/-! ### What holds at each end and between the two -/

/-- The sequence numbers are remainders of the true numbers, and the window is
    kept. -/
structure Numbered (near : Endpoint) : Prop where
  sendSequence : near.session.sendSequence.toNat = near.sent.length % 8
  receiveSequence : near.session.receiveSequence.toNat = near.accepted.length % 8
  acknowledgeSequence : near.session.acknowledgeSequence.toNat = near.acknowledged % 8
  windowPositive : 0 < near.session.windowSizeTransmit.toNat
  windowBelow : near.session.windowSizeTransmit.toNat < 8
  window : near.sent.length ≤ near.acknowledged + near.session.windowSizeTransmit.toNat

/-- The true numbers of a frame on its way: its own, if it carries information,
    and how many frames it acknowledges. -/
structure Label where
  number : Option Nat
  acknowledged : Nat

/-- The frame carries these numbers as remainders, and the information that was
    sent under its own. -/
def Carries (sent : List Bytes) (label : Label) (bytes : Bytes) : Prop :=
  ∃ frame : HdlcFrame, bytes = frameBytes frame ∧
    formatFieldLength frame ≤ maximumFormatFieldLength ∧
    match label.number with
    | none => CarriesReceiveReady (UInt8.ofNat (label.acknowledged % 8)) frame.control.rawValue
    | some number =>
        CarriesInformation (UInt8.ofNat (number % 8)) (UInt8.ofNat (label.acknowledged % 8))
          frame.control.rawValue ∧ sent[number]? = some frame.information

/-- A frame that comes later has no smaller numbers. -/
def InOrder (first second : Label) : Prop :=
  first.acknowledged ≤ second.acknowledged ∧
    ∀ number ∈ first.number, ∀ later ∈ second.number, number ≤ later

/-- What is on its way to one end from the other. -/
structure Incoming (near far : Endpoint) (labels : List Label) : Prop where
  carries : List.Forall₂ (Carries far.sent) labels near.inbox
  inOrder : labels.Pairwise InOrder
  acknowledges : ∀ label ∈ labels, near.acknowledged ≤ label.acknowledged ∧
    label.acknowledged ≤ far.accepted.length
  expected : ∀ label ∈ labels, ∀ number ∈ label.number, near.accepted.length ≤ number + 1

/-- What two ends know of each other, with true numbers. -/
structure Synchronous (near far : Endpoint) : Prop where
  numberedNear : Numbered near
  numberedFar : Numbered far
  acknowledgedNear : near.acknowledged ≤ far.accepted.length
  acknowledgedFar : far.acknowledged ≤ near.accepted.length
  acceptedNear : near.accepted <+: far.sent
  acceptedFar : far.accepted <+: near.sent
  incomingNear : ∃ labels, Incoming near far labels
  incomingFar : ∃ labels, Incoming far near labels

theorem Synchronous.symm (near far : Endpoint) (h : Synchronous near far) :
    Synchronous far near where
  numberedNear := h.numberedFar
  numberedFar := h.numberedNear
  acknowledgedNear := h.acknowledgedFar
  acknowledgedFar := h.acknowledgedNear
  acceptedNear := h.acceptedFar
  acceptedFar := h.acceptedNear
  incomingNear := h.incomingFar
  incomingFar := h.incomingNear

/-! ### Sending -/

section Labels

variable (sent : List Bytes) (labels : List Label) (inbox : List Bytes)
  (h : List.Forall₂ (Carries sent) labels inbox)
include h

/-- The number of a frame on its way is one of a frame that was sent. -/
theorem number_lt_of_carries (label : Label) (hlabel : label ∈ labels) (number : Nat)
    (hnumber : number ∈ label.number) : number < sent.length := by
  induction h with
  | nil => exact absurd hlabel List.not_mem_nil
  | cons hhead htail ih =>
      rcases List.mem_cons.mp hlabel with rfl | hlater
      · rcases hhead with ⟨frame, -, -, hcarried⟩
        rw [Option.mem_def.mp hnumber] at hcarried
        exact (List.getElem?_eq_some_iff.mp hcarried.2).1
      · exact ih hlater

/-- A frame more that is sent changes nothing for those on their way. -/
theorem carries_of_sent (information : Bytes) :
    List.Forall₂ (Carries (sent ++ [information])) labels inbox := by
  refine h.imp ?_
  intro label bytes hcarries
  rcases hcarries with ⟨frame, hbytes, hlength, hcarried⟩
  refine ⟨frame, hbytes, hlength, ?_⟩
  cases hnumber : label.number with
  | none =>
      rw [hnumber] at hcarried
      exact hcarried
  | some number =>
      rw [hnumber] at hcarried
      have hlt := (List.getElem?_eq_some_iff.mp hcarried.2).1
      refine ⟨hcarried.1, ?_⟩
      rw [List.getElem?_append_left hlt]
      exact hcarried.2

end Labels

/-- A remainder is the sequence number it belongs to. -/
theorem ofNat_of_toNat (sequence : UInt8) (number : Nat) (h : sequence.toNat = number % 8) :
    UInt8.ofNat (number % 8) = sequence := by
  rw [← h, UInt8.ofNat_toNat]

/-- What is sent last goes to the end of the queue. -/
theorem incoming_push (near far : Endpoint) (labels : List Label) (label : Label) (bytes : Bytes)
    (h : Incoming near far labels) (hcarries : Carries far.sent label bytes)
    (hknown : near.acknowledged ≤ far.accepted.length)
    (hacknowledged : label.acknowledged = far.accepted.length)
    (hnumber : ∀ number ∈ label.number, near.accepted.length ≤ number + 1 ∧
      ∀ earlier ∈ labels, ∀ other ∈ earlier.number, other ≤ number) :
    Incoming { near with inbox := near.inbox ++ [bytes] } far (labels ++ [label]) where
  carries := List.rel_append h.carries (List.Forall₂.cons hcarries List.Forall₂.nil)
  inOrder := by
    rw [List.pairwise_append]
    -- The new frame is in order behind every earlier one: it acknowledges the most, and its number
    -- is the largest.
    refine ⟨h.inOrder, List.pairwise_singleton _ _, ?_⟩
    intro earlier hearlier last hlast
    rw [List.mem_singleton.mp hlast]
    refine ⟨?_, ?_⟩
    · rw [hacknowledged]
      exact (h.acknowledges earlier hearlier).2
    · intro other hother number hthis
      exact (hnumber number hthis).2 earlier hearlier other hother
  acknowledges := by
    intro other hother
    rcases List.mem_append.mp hother with hearlier | hlast
    · exact h.acknowledges other hearlier
    · rw [List.mem_singleton.mp hlast, hacknowledged]
      exact ⟨hknown, Nat.le_refl _⟩
  expected := by
    intro other hother number hthis
    rcases List.mem_append.mp hother with hearlier | hlast
    · exact h.expected other hearlier number hthis
    · rw [List.mem_singleton.mp hlast] at hthis
      exact (hnumber number hthis).1

/-- An end that may send has room in its window. -/
theorem lt_of_canSend (near : Endpoint) (hnumbered : Numbered near)
    (hsent : near.acknowledged ≤ near.sent.length)
    (hcan : near.session.canSendInformationFrame = true) :
    near.sent.length < near.acknowledged + near.session.windowSizeTransmit.toNat := by
  have hbelow := hnumbered.windowBelow
  have hwindow := hnumbered.window
  have hdistance := sub_of_mod 8 7 (by omega) near.acknowledged near.sent.length hsent (by omega)
  rw [HdlcSession.canSendInformationFrame, decide_eq_true_eq, UInt8.lt_iff_toNat_lt,
    HdlcSession.toNat_distance, hnumbered.sendSequence, hnumbered.acknowledgeSequence] at hcan
  omega

section Send

variable (near far : Endpoint) (h : Synchronous near far) (pollFinal : Bool)
include h

theorem synchronous_sendInformation (information : Bytes) :
    Synchronous (act (.sendInformation information pollFinal) near far).1
      (act (.sendInformation information pollFinal) near far).2 := by
  simp only [act]
  rcases HdlcSession.buildInformationFrame_cases near.session information pollFinal with
    ⟨status, hbuilt⟩ | ⟨hcan, field, hfield, hfits, hbuilt⟩
  · rw [hbuilt]
    exact h
  · rw [hbuilt]
    have hnear := h.numberedNear
    have hroom := lt_of_canSend near hnear
      (Nat.le_trans h.acknowledgedNear h.acceptedFar.length_le) hcan
    rcases h.incomingFar with ⟨labels, hincoming⟩
    rcases h.incomingNear with ⟨others, hothers⟩
    have hsend := hnear.sendSequence
    have hreceive := hnear.receiveSequence
    -- The new frame carries the number of frames sent before it.
    have hcarries : Carries (near.sent ++ [information])
        { number := some near.sent.length, acknowledged := near.accepted.length }
        (frameBytes (near.session.outgoing field information)) := by
      refine ⟨_, rfl, hfits.2.1, ?_, ?_⟩
      · rw [ofNat_of_toNat _ _ hsend, ofNat_of_toNat _ _ hreceive]
        show CarriesInformation _ _ field.rawValue
        rw [hfield]
        exact carriesInformation_octet _ _ (by omega) (by omega) pollFinal
      · exact List.getElem?_concat_length
    exact
      { numberedNear :=
          { sendSequence := by
              rw [List.length_append]
              exact HdlcSession.toNat_nextSequence _ _ hsend
            receiveSequence := hreceive
            acknowledgeSequence := hnear.acknowledgeSequence
            windowPositive := hnear.windowPositive
            windowBelow := hnear.windowBelow
            window := by
              rw [List.length_append]
              exact hroom }
        numberedFar := ⟨h.numberedFar.1, h.numberedFar.2, h.numberedFar.3, h.numberedFar.4,
          h.numberedFar.5, h.numberedFar.6⟩
        acknowledgedNear := h.acknowledgedNear
        acknowledgedFar := h.acknowledgedFar
        acceptedNear := h.acceptedNear
        acceptedFar := h.acceptedFar.trans (List.prefix_append _ _)
        incomingNear := ⟨others, hothers.1, hothers.2, hothers.3, hothers.4⟩
        incomingFar := by
          have hsame : Incoming far { near with
              session := { near.session with
                sendSequence := nextSequence near.session.sendSequence }
              sent := near.sent ++ [information] } labels :=
            ⟨carries_of_sent _ _ _ hincoming.carries information, hincoming.inOrder,
              hincoming.acknowledges, hincoming.expected⟩
          refine ⟨_, incoming_push _ _ _ _ _ hsame hcarries h.acknowledgedFar rfl ?_⟩
          intro number hnumber
          rw [← Option.some.inj (Option.mem_def.mp hnumber)]
          have hprefix := h.acceptedFar.length_le
          refine ⟨by omega, ?_⟩
          intro earlier hearlier other hother
          exact Nat.le_of_lt
            (number_lt_of_carries _ _ _ hincoming.carries earlier hearlier other hother) }

theorem synchronous_sendReceiveReady :
    Synchronous (act (.sendReceiveReady pollFinal) near far).1
      (act (.sendReceiveReady pollFinal) near far).2 := by
  simp only [act]
  cases hbuilt : near.session.buildReceiveReadyFrame pollFinal with
  | error status => exact h
  | ok output =>
      rcases HdlcSession.buildReceiveReadyFrame_eq_ok near.session pollFinal output hbuilt with
        ⟨field, hfield, hfits, rfl⟩
      have hreceive := h.numberedNear.receiveSequence
      rcases h.incomingFar with ⟨labels, hincoming⟩
      rcases h.incomingNear with ⟨others, hothers⟩
      -- A receive-ready frame carries no number, but acknowledges all that was accepted.
      have hcarries : Carries near.sent
          { number := none, acknowledged := near.accepted.length }
          (frameBytes (near.session.outgoing field [])) := by
        refine ⟨_, rfl, hfits.2.1, ?_⟩
        show CarriesReceiveReady _ field.rawValue
        rw [ofNat_of_toNat _ _ hreceive, hfield]
        exact carriesReceiveReady_octet _ (by omega) pollFinal
      exact
        { numberedNear := h.numberedNear
          numberedFar := ⟨h.numberedFar.1, h.numberedFar.2, h.numberedFar.3, h.numberedFar.4,
            h.numberedFar.5, h.numberedFar.6⟩
          acknowledgedNear := h.acknowledgedNear
          acknowledgedFar := h.acknowledgedFar
          acceptedNear := h.acceptedNear
          acceptedFar := h.acceptedFar
          incomingNear := ⟨others, hothers.1, hothers.2, hothers.3, hothers.4⟩
          incomingFar := by
            refine ⟨_, incoming_push _ _ _ _ _ hincoming hcarries h.acknowledgedFar rfl ?_⟩
            intro number hnumber
            exact absurd hnumber (by simp [Option.mem_def]) }

end Send

/-! ### The queue -/

/-- Nothing but its queue has changed at an end. -/
theorem synchronous_inbox (near far : Endpoint) (h : Synchronous near far) (inbox : List Bytes)
    (labels : List Label) (hincoming : Incoming { near with inbox := inbox } far labels) :
    Synchronous { near with inbox := inbox } far where
  numberedNear := ⟨h.numberedNear.1, h.numberedNear.2, h.numberedNear.3, h.numberedNear.4,
    h.numberedNear.5, h.numberedNear.6⟩
  numberedFar := h.numberedFar
  acknowledgedNear := h.acknowledgedNear
  acknowledgedFar := h.acknowledgedFar
  acceptedNear := h.acceptedNear
  acceptedFar := h.acceptedFar
  incomingNear := ⟨labels, hincoming⟩
  incomingFar := by
    rcases h.incomingFar with ⟨others, hothers⟩
    exact ⟨others, hothers.1, hothers.2, hothers.3, hothers.4⟩

theorem synchronous_lose (near far : Endpoint) (h : Synchronous near far) (index : Nat) :
    Synchronous { near with inbox := lose index near.inbox } far := by
  rcases h.incomingNear with ⟨labels, hincoming⟩
  refine synchronous_inbox near far h _ (lose index labels) ?_
  exact
    { carries := Machine.Fifo.forall₂_lose _ index _ _ hincoming.carries
      inOrder := Machine.Fifo.pairwise_lose _ index _ hincoming.inOrder
      acknowledges := fun label hlabel =>
        hincoming.acknowledges label (Machine.Fifo.mem_lose index labels label hlabel)
      expected := fun label hlabel =>
        hincoming.expected label (Machine.Fifo.mem_lose index labels label hlabel) }

/-- A frame has the same numbers the second time. -/
theorem inOrder_refl (label : Label) : InOrder label label := by
  refine ⟨Nat.le_refl _, ?_⟩
  intro number hnumber later hlater
  rw [Option.mem_def.mp hnumber] at hlater
  rw [Option.some.inj (Option.mem_def.mp hlater)]

theorem synchronous_duplicate (near far : Endpoint) (h : Synchronous near far) (index : Nat) :
    Synchronous { near with inbox := duplicate index near.inbox } far := by
  rcases h.incomingNear with ⟨labels, hincoming⟩
  refine synchronous_inbox near far h _ (duplicate index labels) ?_
  exact
    { carries := Machine.Fifo.forall₂_duplicate _ index _ _ hincoming.carries
      inOrder := Machine.Fifo.pairwise_duplicate _ inOrder_refl index _ hincoming.inOrder
      acknowledges := fun label hlabel =>
        hincoming.acknowledges label (Machine.Fifo.mem_duplicate index labels label hlabel)
      expected := fun label hlabel =>
        hincoming.expected label (Machine.Fifo.mem_duplicate index labels label hlabel) }

/-! ### Receiving -/

section Receive

variable (near far : Endpoint) (h : Synchronous near far) (rest : List Label)
  (hincoming : Incoming near far rest) (label : Label)
  (hacknowledges : near.acknowledged ≤ label.acknowledged ∧
    label.acknowledged ≤ far.accepted.length)
  (hinOrder : ∀ later ∈ rest, InOrder label later)
include h hacknowledges

/-- The acknowledgement of a frame counts on from what is known. -/
theorem acknowledged_add_distance :
    near.acknowledged + (HdlcSession.distance (UInt8.ofNat (label.acknowledged % 8))
      near.session.acknowledgeSequence).toNat = label.acknowledged := by
  have hbelow := h.numberedNear.windowBelow
  have hwindow := h.numberedNear.window
  have hsent := h.acceptedFar.length_le
  have hdistance := sub_of_mod 8 7 (by omega) near.acknowledged label.acknowledged
    hacknowledges.1 (by omega)
  rw [HdlcSession.toNat_distance, h.numberedNear.acknowledgeSequence, UInt8.toNat_ofNat']
  omega

include hincoming hinOrder

/-- An end that takes the acknowledgement of a frame knows more of its own frames
    to be accepted. -/
theorem synchronous_acknowledge :
    Synchronous
      { near with
        session := { near.session with
          acknowledgeSequence := UInt8.ofNat (label.acknowledged % 8) }
        acknowledged := label.acknowledged } far where
  numberedNear :=
    { sendSequence := h.numberedNear.sendSequence
      receiveSequence := h.numberedNear.receiveSequence
      acknowledgeSequence := by
        show (UInt8.ofNat (label.acknowledged % 8)).toNat = label.acknowledged % 8
        rw [UInt8.toNat_ofNat']
        omega
      windowPositive := h.numberedNear.windowPositive
      windowBelow := h.numberedNear.windowBelow
      window := Nat.le_trans h.numberedNear.window
        (Nat.add_le_add_right hacknowledges.1 _) }
  numberedFar := h.numberedFar
  acknowledgedNear := hacknowledges.2
  acknowledgedFar := h.acknowledgedFar
  acceptedNear := h.acceptedNear
  acceptedFar := h.acceptedFar
  -- What is still on its way acknowledges no less than the frame that was taken.
  incomingNear := by
    refine ⟨rest, hincoming.1, hincoming.2, ?_, hincoming.4⟩
    intro later hlater
    exact ⟨(hinOrder later hlater).1, (hincoming.acknowledges later hlater).2⟩
  incomingFar := by
    rcases h.incomingFar with ⟨others, hothers⟩
    exact ⟨others, hothers.1, hothers.2, hothers.3, hothers.4⟩

/-- An end that accepts the frame it expects has accepted what was sent next. -/
theorem synchronous_accept (information : Bytes)
    (hnumber : label.number = some near.accepted.length)
    (hsent : far.sent[near.accepted.length]? = some information) :
    Synchronous
      { near with
        session := { near.session with
          acknowledgeSequence := UInt8.ofNat (label.acknowledged % 8)
          receiveSequence := nextSequence near.session.receiveSequence }
        accepted := near.accepted ++ [information]
        acknowledged := label.acknowledged } far := by
  have hprefix : near.accepted ++ [information] <+: far.sent := by
    rcases h.acceptedNear with ⟨others, hothers⟩
    rw [← hothers, List.getElem?_append_right (Nat.le_refl _), Nat.sub_self] at hsent
    cases others with
    | nil => exact absurd hsent (by simp)
    | cons next others =>
        rw [List.getElem?_cons_zero, Option.some.injEq] at hsent
        rw [← hothers, hsent]
        exact ⟨others, by rw [List.append_assoc]; rfl⟩
  have hlength : (near.accepted ++ [information]).length = near.accepted.length + 1 := by
    rw [List.length_append]
    rfl
  -- The later frames have no smaller numbers than the one that was expected.
  have hexpected : Incoming
      { near with
        session := { near.session with
          receiveSequence := nextSequence near.session.receiveSequence }
        accepted := near.accepted ++ [information] } far rest := by
    refine ⟨hincoming.1, hincoming.2, hincoming.3, ?_⟩
    intro later hlater number hthis
    have horder := (hinOrder later hlater).2 _ (Option.mem_def.mpr hnumber) number hthis
    show (near.accepted ++ [information]).length ≤ number + 1
    omega
  have haccepted : Synchronous
      { near with
        session := { near.session with
          receiveSequence := nextSequence near.session.receiveSequence }
        accepted := near.accepted ++ [information] } far :=
    { numberedNear :=
        { sendSequence := h.numberedNear.sendSequence
          receiveSequence := by
            rw [hlength]
            exact HdlcSession.toNat_nextSequence _ _ h.numberedNear.receiveSequence
          acknowledgeSequence := h.numberedNear.acknowledgeSequence
          windowPositive := h.numberedNear.windowPositive
          windowBelow := h.numberedNear.windowBelow
          window := h.numberedNear.window }
      numberedFar := h.numberedFar
      acknowledgedNear := h.acknowledgedNear
      acknowledgedFar := by
        have hknown := h.acknowledgedFar
        rw [hlength]
        omega
      acceptedNear := hprefix
      acceptedFar := h.acceptedFar
      incomingNear := ⟨rest, hexpected⟩
      incomingFar := by
        rcases h.incomingFar with ⟨others, hothers⟩
        refine ⟨others, hothers.1, hothers.2, ?_, hothers.4⟩
        intro other hother
        have hknown := (hothers.acknowledges other hother).2
        refine ⟨(hothers.acknowledges other hother).1, ?_⟩
        rw [hlength]
        omega }
  exact synchronous_acknowledge _ far haccepted rest hexpected label hacknowledges hinOrder

/-- The frame at the front comes in: it is not seen, refused, taken as an
    acknowledgement, or accepted. -/
theorem synchronous_deliverFrame (bytes : Bytes) (hcarries : Carries far.sent label bytes)
    (hexpected : ∀ number ∈ label.number, near.accepted.length ≤ number + 1) :
    Synchronous (deliverFrame near bytes) far := by
  rcases hcarries with ⟨frame, rfl, hlength, hcarried⟩
  have hdecoded : (∃ status, decodeFrame (frameBytes frame) near.limits = .error status) ∨
      decodeFrame (frameBytes frame) near.limits = .ok frame := by
    rw [decodeFrame_frameBytes frame near.limits hlength]
    split_ifs
    · exact .inl ⟨_, rfl⟩
    · exact .inl ⟨_, rfl⟩
    · exact .inr rfl
  rcases hdecoded with ⟨status, hdecoded⟩ | hdecoded
  · rw [deliverFrame, hdecoded]
    exact h
  · have hcount := acknowledged_add_distance near far h label hacknowledges
    rw [deliverFrame, hdecoded]
    -- A frame of the peer is a receive-ready frame or carries information, by its label.
    cases hnumber : label.number with
    | none =>
        rw [hnumber] at hcarried
        rcases sequence_of_receiveReady frame.control _ hcarried with ⟨hkind, -, hreceive⟩
        rcases HdlcSession.receiveFrame_supervisory near.session frame hkind with
          ⟨status, hreceived⟩ | hreceived
        · simp only [hreceived]
          exact h
        · have hnotInformation : ¬ frame.control.frameKind = .information := by
            rw [hkind]
            decide
          simp only [hreceived, hnotInformation, if_false, hreceive, hcount]
          exact synchronous_acknowledge near far h rest hincoming label hacknowledges hinOrder
    | some number =>
        rw [hnumber] at hcarried
        rcases sequences_of_information frame.control _ _ hcarried.1 with
          ⟨hkind, hsend, hreceive⟩
        rcases HdlcSession.receiveFrame_information near.session frame hkind with
          ⟨status, hreceived⟩ | ⟨hagrees, hreceived⟩
        · simp only [hreceived]
          exact h
        · -- The number agrees modulo eight, so it is the number expected.
          have hsame : number = near.accepted.length := by
            have hlt := (List.getElem?_eq_some_iff.mp hcarried.2).1
            have hbelow := h.numberedFar.windowBelow
            have hwindow := h.numberedFar.window
            have hknown := h.acknowledgedFar
            have hmod : number % 8 = near.accepted.length % 8 := by
              have hvalue := congrArg UInt8.toNat (hsend.symm.trans hagrees)
              rw [UInt8.toNat_ofNat', h.numberedNear.receiveSequence] at hvalue
              omega
            exact eq_of_mod_eq 8 7 (by omega) (by omega) number near.accepted.length
              (hexpected number (Option.mem_def.mpr hnumber)) (by omega) hmod
          simp only [hreceived, hkind, if_true, hreceive, hcount]
          rw [hsame] at hnumber hcarried
          exact synchronous_accept near far h rest hincoming label hacknowledges hinOrder
            frame.information hnumber hcarried.2

end Receive

theorem synchronous_deliver (near far : Endpoint) (h : Synchronous near far) :
    Synchronous (act .deliver near far).1 (act .deliver near far).2 := by
  simp only [act]
  cases hinbox : near.inbox with
  | nil => exact h
  | cons bytes inbox =>
      rcases h.incomingNear with ⟨labels, hincoming⟩
      have hcarries := hincoming.carries
      rw [hinbox] at hcarries
      cases labels with
      | nil => cases hcarries
      | cons label rest =>
          rcases List.forall₂_cons.mp hcarries with ⟨hhead, htail⟩
          rcases List.pairwise_cons.mp hincoming.inOrder with ⟨hlabel, hrest⟩
          have hleft : Incoming { near with inbox := inbox } far rest :=
            { carries := htail
              inOrder := hrest
              acknowledges := fun other hother =>
                hincoming.acknowledges other (List.mem_cons_of_mem _ hother)
              expected := fun other hother =>
                hincoming.expected other (List.mem_cons_of_mem _ hother) }
          exact synchronous_deliverFrame { near with inbox := inbox } far
            (synchronous_inbox near far h inbox rest hleft) rest hleft label
            (hincoming.acknowledges label List.mem_cons_self) hlabel bytes hhead
            (hincoming.expected label List.mem_cons_self)

/-! ### Every run -/

/-- Whatever happens at an end keeps the two ends synchronous. -/
theorem synchronous_act (action : EndpointAction) (near far : Endpoint)
    (h : Synchronous near far) :
    Synchronous (act action near far).1 (act action near far).2 := by
  cases action with
  | sendInformation information pollFinal =>
      exact synchronous_sendInformation near far h pollFinal information
  | sendReceiveReady pollFinal => exact synchronous_sendReceiveReady near far h pollFinal
  | lose index => exact synchronous_lose near far h index
  | duplicate index => exact synchronous_duplicate near far h index
  | deliver => exact synchronous_deliver near far h

theorem synchronous_linkStep (link : Link) (action : HdlcSessionRole × EndpointAction)
    (h : Synchronous link.client link.server) :
    Synchronous (linkStep action link).2.client (linkStep action link).2.server := by
  rcases action with ⟨side, action⟩
  cases side with
  | client => exact synchronous_act action _ _ h
  | server => exact (synchronous_act action _ _ h.symm).symm

/-- Two ends that have just been connected: nothing was sent, and the windows are
    between one and seven. -/
structure Opened (near : Endpoint) : Prop where
  connected : near.session.state = .connected
  sendSequence : near.session.sendSequence = 0
  receiveSequence : near.session.receiveSequence = 0
  acknowledgeSequence : near.session.acknowledgeSequence = 0
  windowPositive : 1 ≤ near.session.windowSizeTransmit.toNat
  windowAtMost : near.session.windowSizeTransmit.toNat ≤ 7
  inbox : near.inbox = []
  sent : near.sent = []
  accepted : near.accepted = []
  acknowledged : near.acknowledged = 0

theorem numbered_of_opened (near : Endpoint) (h : Opened near) : Numbered near where
  sendSequence := by rw [h.sendSequence, h.sent]; rfl
  receiveSequence := by rw [h.receiveSequence, h.accepted]; rfl
  acknowledgeSequence := by rw [h.acknowledgeSequence, h.acknowledged]; rfl
  windowPositive := h.windowPositive
  windowBelow := by have hmost := h.windowAtMost; omega
  window := by rw [h.sent]; exact Nat.zero_le _

theorem incoming_of_opened (near far : Endpoint) (h : Opened near) : Incoming near far [] where
  carries := by rw [h.inbox]; exact List.Forall₂.nil
  inOrder := List.Pairwise.nil
  acknowledges := fun _ hlabel => absurd hlabel List.not_mem_nil
  expected := fun _ hlabel => absurd hlabel List.not_mem_nil

theorem synchronous_of_opened (near far : Endpoint) (hnear : Opened near) (hfar : Opened far) :
    Synchronous near far where
  numberedNear := numbered_of_opened near hnear
  numberedFar := numbered_of_opened far hfar
  acknowledgedNear := by rw [hnear.acknowledged]; exact Nat.zero_le _
  acknowledgedFar := by rw [hfar.acknowledged]; exact Nat.zero_le _
  acceptedNear := by rw [hnear.accepted]; exact List.nil_prefix
  acceptedFar := by rw [hfar.accepted]; exact List.nil_prefix
  incomingNear := ⟨[], incoming_of_opened near far hnear⟩
  incomingFar := ⟨[], incoming_of_opened far near hfar⟩

/-- A session fresh from the exchange of SNRM and UA opens an end, whatever
    limits the end decodes with. -/
theorem opened_of_justConnected (session : HdlcSession) (limits : HdlcCodecLimits)
    (h : JustConnected session) (hpositive : 1 ≤ session.windowSizeTransmit.toNat)
    (hmost : session.windowSizeTransmit.toNat ≤ 7) :
    Opened { session := session, limits := limits } where
  connected := h.connected
  sendSequence := h.sendSequence
  receiveSequence := h.receiveSequence
  acknowledgeSequence := h.acknowledgeSequence
  windowPositive := hpositive
  windowAtMost := hmost
  inbox := rfl
  sent := rfl
  accepted := rfl
  acknowledged := rfl

/-- In every state that two connected ends reach, whatever they send and however
    their queues lose and double frames: what an end has accepted is a prefix of
    what the other has sent, what it knows to be accepted is accepted, and it
    has no more frames unacknowledged than its window holds. -/
theorem window_safety (link : Link) (hclient : Opened link.client) (hserver : Opened link.server)
    (actions : List (HdlcSessionRole × EndpointAction)) :
    let reached := final linkStep actions link
    reached.server.accepted <+: reached.client.sent ∧
      reached.client.accepted <+: reached.server.sent ∧
      reached.client.acknowledged ≤ reached.server.accepted.length ∧
      reached.server.acknowledged ≤ reached.client.accepted.length ∧
      reached.client.sent.length ≤
        reached.client.acknowledged + reached.client.session.windowSizeTransmit.toNat ∧
      reached.server.sent.length ≤
        reached.server.acknowledged + reached.server.session.windowSizeTransmit.toNat := by
  have hreached := (invariant_run linkStep
    (fun link => Synchronous link.client link.server)
    (fun link action h => synchronous_linkStep link action h) actions link
    (synchronous_of_opened _ _ hclient hserver)).2
  exact ⟨hreached.acceptedFar, hreached.acceptedNear, hreached.acknowledgedNear,
    hreached.acknowledgedFar, hreached.numberedNear.window, hreached.numberedFar.window⟩

/-! ### A link of its own -/

theorem bounded_client : 16 ≤ maximumRawValue HdlcAddress.initial.encodedSize := by decide

theorem bounded_server : 1 ≤ maximumRawValue HdlcAddress.initial.encodedSize := by decide

/-- A client that proposes to send seven frames and to receive three. -/
def meterClient : HdlcSession :=
  HdlcSession.create
    { role := .client
      clientAddress := { HdlcAddress.initial with rawValue := 16, bounded := bounded_client }
      serverAddress := { HdlcAddress.initial with rawValue := 1, bounded := bounded_server }
      limits := defaultHdlcCodecLimits
      negotiationLimits :=
        { maxInformationFieldLengthTransmit := 256
          maxInformationFieldLengthReceive := 256
          windowSizeTransmit := 7
          windowSizeReceive := 3 } }

/-- A server that can receive five frames and send as many. -/
def meterServer : HdlcSession :=
  HdlcSession.create
    { meterClient.options with
      role := .server
      negotiationLimits :=
        { maxInformationFieldLengthTransmit := 128
          maxInformationFieldLengthReceive := 128
          windowSizeTransmit := 5
          windowSizeReceive := 5 } }

/-- Two frames and one that is lost, doubled and out of turn, with an
    acknowledgement of the first that is delivered twice. -/
def meterActions : List (HdlcSessionRole × EndpointAction) :=
  [(.client, .sendInformation [1] false), (.client, .sendInformation [2] false),
    (.client, .sendInformation [3] true), (.server, .duplicate 0), (.server, .deliver),
    (.server, .deliver), (.server, .lose 0), (.server, .deliver),
    (.server, .sendInformation [9] false), (.client, .duplicate 0), (.client, .deliver),
    (.client, .deliver), (.client, .sendReceiveReady false), (.server, .deliver)]

/-- The windows that the two agree on are five and three. -/
theorem window_safety_meter : ∃ client server : HdlcSession,
    connectSessions defaultHdlcCodecLimits defaultHdlcCodecLimits meterClient meterServer =
        some (client, server) ∧
      client.windowSizeTransmit = 5 ∧ server.windowSizeTransmit = 3 ∧
      let reached := final linkStep meterActions
        { client := { session := client, limits := defaultHdlcCodecLimits }
          server := { session := server, limits := defaultHdlcCodecLimits } }
      reached.server.accepted <+: reached.client.sent ∧
        reached.client.sent.length ≤
          reached.client.acknowledged + reached.client.session.windowSizeTransmit.toNat := by
  have hsome : (connectSessions defaultHdlcCodecLimits defaultHdlcCodecLimits meterClient
      meterServer).isSome = true := by decide +kernel
  rcases Option.isSome_iff_exists.mp hsome with ⟨⟨client, server⟩, hends⟩
  have hwindows : ((connectSessions defaultHdlcCodecLimits defaultHdlcCodecLimits meterClient
      meterServer).map fun ends => (ends.1.windowSizeTransmit, ends.2.windowSizeTransmit)) =
        some (5, 3) := by decide +kernel
  rw [hends, Option.map_some, Option.some.injEq, Prod.mk.injEq] at hwindows
  rcases justConnected_of_connectSessions _ _ _ _ _ _ hends with ⟨hclient, hserver⟩
  refine ⟨client, server, hends, hwindows.1, hwindows.2, ?_⟩
  have hsafe := window_safety
    { client := { session := client, limits := defaultHdlcCodecLimits }
      server := { session := server, limits := defaultHdlcCodecLimits } }
    (opened_of_justConnected client _ hclient (by rw [hwindows.1]; decide)
      (by rw [hwindows.1]; decide))
    (opened_of_justConnected server _ hserver (by rw [hwindows.2]; decide)
      (by rw [hwindows.2]; decide)) meterActions
  exact ⟨hsafe.1, hsafe.2.2.2.2.1⟩

end Hdlc

end Dlms
