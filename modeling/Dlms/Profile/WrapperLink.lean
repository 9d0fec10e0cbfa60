import Dlms.Codec.Queue
import Dlms.Machine.Duplex
import Dlms.Machine.Run
import Dlms.Profile.WrapperChannel
import Dlms.Wrapper.Framing

/-!
# Two wrapper channels on one connection

Two channels, and the octets on their way to each of them. Either of them sends
and receives whenever it likes. A call that receives reads until a frame is
there, and a read gets any of the octets that are on the way, in order, or none
when there are none yet. A caller that brings a buffer that is too small learns
how large it has to be, and may ask again.

For the two callers the connection is a pair of queues: every APDU that was sent
arrives once, unchanged and in order, however the octets are cut and however the
calls of both sides follow each other.

## Main definitions

* `WrapperPorts`, `sendApdu`: What is sent.
* `fill`, `receive`, `receiveInto`: A call that receives.
* `TcpLink`, `linkStep`: The connection.

## Theorems

* `stands_linkStep`: What is on the way stands for a queue.
* `link_is_queue`: The connection is a pair of queues.
-/

namespace Dlms

namespace Profile

open Apdu (Bytes)
open Codec (Carries drain)
open Machine (Side Transition run final transition)
open Wrapper (WrapperCodecLimits WrapperFrame WrapperFrameBuffer WrapperStreamDecoder encodeWpdu
  encodeWpdu_eq_ok wpduBytes)
open Wrapper.WrapperStreamDecoder (wrapperRound incremental_wrapperRound wrapperRound_wpduBytes)

/-- The ports among the options of a channel. -/
structure WrapperPorts where
  localWrapperPort : UInt16
  remoteWrapperPort : UInt16
  deriving DecidableEq, Repr

/-- The octets that the next read gets, of those that are on the way. Without
    any the read fails, as the stream does then. -/
def readSome (idle : ProfileStatus) (size : Nat) (wire : Bytes) :
    Except ProfileStatus Bytes × Bytes :=
  if wire = [] then (.error idle, wire) else (.ok (wire.take size), wire.drop size)

namespace WrapperTcpProfileChannel

variable (channel : WrapperTcpProfileChannel)

/-- The octets that are written to the stream. -/
def sendApdu (ports : WrapperPorts) (apdu : Bytes) : Except ProfileStatus Bytes :=
  if channel.options.maximumApduSize ≠ 0 ∧ apdu.length > channel.options.maximumApduSize then
    .error .payloadTooLarge
  else
    match encodeWpdu
        { sourcePort := ports.localWrapperPort
          destinationPort := ports.remoteWrapperPort
          data := apdu } channel.wrapperLimits with
    | .error status => .error (mapWrapperStatus status)
    | .ok wpdu => .ok wpdu

def readBufferSize : Nat :=
  if channel.options.scratchBufferSize = 0 then 2048 else channel.options.scratchBufferSize

/-- Read until a frame waits. Each read gets so many octets more than one as the
    stream has for it, as long as the buffer has room for them. -/
def fill (idle : ProfileStatus) (chunks : List Nat) (channel : WrapperTcpProfileChannel)
    (wire : Bytes) : Except ProfileStatus Unit × WrapperTcpProfileChannel × Bytes :=
  match chunks with
  | [] =>
      if channel.pendingFrames.isEmpty then (.error idle, channel, wire)
      else (.ok (), channel, wire)
  | chunk :: chunks =>
      if channel.pendingFrames.isEmpty then
        let (read, wire) := readSome idle (min (chunk + 1) channel.readBufferSize) wire
        match channel.receiveNextFrame read with
        | (some (.error status), channel) => (.error status, channel, wire)
        | (some (.ok ()), channel) => fill idle chunks channel wire
        | (none, channel) => fill idle chunks channel wire
      else (.ok (), channel, wire)

/-- The first frame that waits is taken out. -/
def takeFirst : Except ProfileStatus Bytes × WrapperTcpProfileChannel :=
  match channel.pendingFrames with
  | [] => (.error .internalError, channel)
  | frame :: later => (.ok frame.data, { channel with pendingFrames := later })

/-- The same into a buffer, and how large it has to be. A frame that does not
    fit waits on. -/
def copyFirstPendingFrame (size : Nat) :
    Except ProfileStatus Bytes × Nat × WrapperTcpProfileChannel :=
  match channel.pendingFrames with
  | [] => (.error .internalError, 0, channel)
  | frame :: later =>
      if size < frame.data.length then (.error .outputBufferTooSmall, frame.data.length, channel)
      else (.ok frame.data, frame.data.length, { channel with pendingFrames := later })

def receive (idle : ProfileStatus) (chunks : List Nat) (wire : Bytes) :
    Except ProfileStatus Bytes × WrapperTcpProfileChannel × Bytes :=
  match fill idle chunks channel wire with
  | (.error status, channel, wire) => (.error status, channel, wire)
  | (.ok (), channel, wire) => (channel.takeFirst.1, channel.takeFirst.2, wire)

def receiveInto (idle : ProfileStatus) (size : Nat) (chunks : List Nat) (wire : Bytes) :
    Except ProfileStatus Bytes × Nat × WrapperTcpProfileChannel × Bytes :=
  match fill idle chunks channel wire with
  | (.error status, channel, wire) => (.error status, 0, channel, wire)
  | (.ok (), channel, wire) =>
      let out := channel.copyFirstPendingFrame size
      (out.1, out.2.1, out.2.2, wire)

end WrapperTcpProfileChannel

open WrapperTcpProfileChannel (fill)

/-! ### The connection -/

/-- Two channels and the octets between them. -/
structure TcpLink where
  channel : Side → WrapperTcpProfileChannel
  /-- The octets on their way to a side. -/
  wire : Side → Bytes

inductive LinkAction where
  | send (side : Side) (apdu : Bytes)
  | receive (side : Side) (chunks : List Nat)
  | receiveInto (side : Side) (size : Nat) (chunks : List Nat)
  deriving DecidableEq

inductive LinkAnswer where
  | sent (result : Except ProfileStatus Unit)
  | received (result : Except ProfileStatus Bytes)
  | copied (result : Except ProfileStatus Bytes) (writtenSize : Nat)

def TcpLink.create (options : Side → ApduChannelOptions) : TcpLink where
  channel := fun side => .create (options side)
  wire := fun _ => []

/-- A side has read and goes on with its channel. -/
def TcpLink.updated (link : TcpLink) (side : Side) (channel : WrapperTcpProfileChannel)
    (wire : Bytes) : TcpLink where
  channel := Function.update link.channel side channel
  wire := Function.update link.wire side wire

section Link

variable (ports : Side → WrapperPorts) (idle : ProfileStatus)

def linkStep (action : LinkAction) (link : TcpLink) : LinkAnswer × TcpLink :=
  match action with
  | .send side apdu =>
      match (link.channel side).sendApdu (ports side) apdu with
      | .error status => (.sent (.error status), link)
      | .ok wpdu =>
          (.sent (.ok ()),
            { link with
              wire := Function.update link.wire side.other (link.wire side.other ++ wpdu) })
  | .receive side chunks =>
      let out := (link.channel side).receive idle chunks (link.wire side)
      (.received out.1, link.updated side out.2.1 out.2.2)
  | .receiveInto side size chunks =>
      let out := (link.channel side).receiveInto idle size chunks (link.wire side)
      (.copied out.1 out.2.1, link.updated side out.2.2.1 out.2.2.2)

/-- The APDU that a transition has sent to a side. -/
def sentTo (side : Side) (t : Transition LinkAction LinkAnswer TcpLink) : Option Bytes :=
  match t.input, t.output with
  | .send sender apdu, .sent (.ok ()) => if sender.other = side then some apdu else none
  | _, _ => none

/-- The APDU that a side has taken. -/
def takenBy (side : Side) (t : Transition LinkAction LinkAnswer TcpLink) : Option Bytes :=
  match t.input, t.output with
  | .receive receiver _, .received (.ok apdu) => if receiver = side then some apdu else none
  | .receiveInto receiver _ _, .copied (.ok apdu) _ => if receiver = side then some apdu else none
  | _, _ => none

/-! ### One side -/

/-- The frames that a channel has and those on their way to it, as a queue of
    APDUs. -/
structure StandsForQueue (limits : WrapperCodecLimits) (channel : WrapperTcpProfileChannel)
    (wire : Bytes) (queue : List Bytes) : Prop where
  sends : channel.wrapperLimits = limits
  receives : channel.decoder.limits = limits
  carries : ∃ frames, Carries (wrapperRound limits) channel.pendingFrames channel.decoder.buffer
    wire frames ∧ frames.map (fun frame => frame.data) = queue

variable {limits : WrapperCodecLimits} {channel : WrapperTcpProfileChannel} {wire : Bytes}
  {queue : List Bytes}

theorem readBufferSize_pos (channel : WrapperTcpProfileChannel) : 0 < channel.readBufferSize := by
  unfold WrapperTcpProfileChannel.readBufferSize
  split_ifs with hsize
  · decide
  · exact Nat.pos_of_ne_zero hsize

/-- One read of a channel in which no frame waits. -/
theorem stands_receiveNextFrame (h : StandsForQueue limits channel wire queue)
    (piece rest : Bytes) (hwire : wire = piece ++ rest) (hpiece : piece ≠ []) :
    ∃ channel', (channel.receiveNextFrame (.ok piece) = (none, channel') ∨
        channel.receiveNextFrame (.ok piece) = (some (.ok ()), channel')) ∧
      StandsForQueue limits channel' rest queue := by
  rcases h with ⟨hlimits, hdecoder, frames, hcarries, hframes⟩
  rw [hwire] at hcarries
  rcases hcarries.read (incremental_wrapperRound limits) piece rest with
    ⟨found, kept, hdrain, hafter⟩
  have hpush : channel.decoder.push piece =
      (WrapperStreamDecoder.pushStatus found, found,
        { channel.decoder with buffer := kept }) := by
    rw [WrapperStreamDecoder.push_eq, hdecoder, hdrain]
    rfl
  cases piece with
  | nil => exact absurd rfl hpiece
  | cons first piece =>
      simp only [WrapperTcpProfileChannel.receiveNextFrame, hpush]
      cases found with
      | nil =>
          rw [List.append_nil] at hafter
          exact ⟨_, .inl rfl, hlimits, hdecoder, frames, hafter, hframes⟩
      | cons frame found =>
          exact ⟨_, .inr rfl, hlimits, hdecoder, frames, hafter, hframes⟩

/-- A call reads until a frame waits, or fails as the stream does. With as many
    reads as there are octets it fails only when nothing is on the way. -/
theorem stands_fill (chunks : List Nat) (channel : WrapperTcpProfileChannel) (wire : Bytes)
    (h : StandsForQueue limits channel wire queue) :
    ∃ channel' wire', StandsForQueue limits channel' wire' queue ∧
      ((fill idle chunks channel wire = (.ok (), channel', wire') ∧ channel'.pendingFrames ≠ []) ∨
        fill idle chunks channel wire = (.error idle, channel', wire') ∧
          (wire.length ≤ chunks.length → queue = [])) := by
  induction chunks generalizing channel wire with
  | nil =>
      refine ⟨channel, wire, h, ?_⟩
      unfold fill
      cases hpending : channel.pendingFrames with
      | nil =>
          rw [List.isEmpty_nil, if_pos rfl]
          refine .inr ⟨rfl, fun hlength => ?_⟩
          -- Nothing is on the way, so all there is waits.
          rcases h.carries with ⟨frames, hcarries, hframes⟩
          rw [List.eq_nil_of_length_eq_zero (Nat.le_zero.mp hlength), hpending] at hcarries
          rw [← hframes, hcarries.pending_of_empty.1, List.map_nil]
      | cons frame later =>
          rw [List.isEmpty_cons, if_neg Bool.false_ne_true]
          exact .inl ⟨rfl, List.cons_ne_nil frame later⟩
  | cons chunk chunks ih =>
      unfold fill
      cases hpending : channel.pendingFrames with
      | cons frame later =>
          rw [List.isEmpty_cons, if_neg Bool.false_ne_true]
          refine ⟨channel, wire, h, .inl ⟨rfl, ?_⟩⟩
          rw [hpending]
          exact List.cons_ne_nil frame later
      | nil =>
          rw [List.isEmpty_nil, if_pos rfl, readSome]
          by_cases hwire : wire = []
          · rw [if_pos hwire]
            simp only [WrapperTcpProfileChannel.receiveNextFrame]
            refine ⟨channel, wire, h, .inr ⟨rfl, fun _ => ?_⟩⟩
            rcases h.carries with ⟨frames, hcarries, hframes⟩
            rw [hwire, hpending] at hcarries
            rw [← hframes, hcarries.pending_of_empty.1, List.map_nil]
          · rw [if_neg hwire]
            dsimp only
            have hbuffer := readBufferSize_pos channel
            have hsize : 0 < min (chunk + 1) channel.readBufferSize := by omega
            generalize min (chunk + 1) channel.readBufferSize = size at hsize ⊢
            have hpiece : wire.take size ≠ [] := by
              rw [ne_eq, List.take_eq_nil_iff, not_or]
              exact ⟨by omega, hwire⟩
            rcases stands_receiveNextFrame h (wire.take size) (wire.drop size)
              (List.take_append_drop size wire).symm hpiece with
                ⟨channel', hread, hafter⟩
            have hfewer : wire.length ≤ chunks.length + 1 →
                (wire.drop size).length ≤ chunks.length := by
              intro hlength
              rw [List.length_drop]
              omega
            rcases ih channel' (wire.drop size) hafter with
              ⟨last, left, hlast, hcall⟩
            refine ⟨last, left, hlast, ?_⟩
            rcases hread with hread | hread
            · rw [hread]
              exact hcall.imp id fun hidle => ⟨hidle.1, fun hlength => hidle.2 (hfewer hlength)⟩
            · rw [hread]
              exact hcall.imp id fun hidle => ⟨hidle.1, fun hlength => hidle.2 (hfewer hlength)⟩

/-- The frame in front is the APDU in front. -/
theorem stands_first (h : StandsForQueue limits channel wire queue) (frame : WrapperFrameBuffer)
    (later : List WrapperFrameBuffer) (hpending : channel.pendingFrames = frame :: later) :
    ∃ rest, queue = frame.data :: rest ∧
      StandsForQueue limits { channel with pendingFrames := later } wire rest := by
  rcases h with ⟨hlimits, hdecoder, frames, hcarries, hframes⟩
  rw [hpending] at hcarries
  rcases hcarries.take with ⟨others, hothers, hafter⟩
  refine ⟨others.map fun frame => frame.data, ?_, hlimits, hdecoder, others, hafter, rfl⟩
  rw [← hframes, hothers, List.map_cons]

/-- A call takes the APDU in front, or leaves the queue as it is. -/
theorem stands_receive (chunks : List Nat) (h : StandsForQueue limits channel wire queue) :
    (∃ apdu rest channel' wire', queue = apdu :: rest ∧
        channel.receive idle chunks wire = (.ok apdu, channel', wire') ∧
        StandsForQueue limits channel' wire' rest) ∨
      ∃ channel' wire', channel.receive idle chunks wire = (.error idle, channel', wire') ∧
        StandsForQueue limits channel' wire' queue ∧
        (wire.length ≤ chunks.length → queue = []) := by
  rcases stands_fill idle chunks channel wire h with
    ⟨channel', wire', hafter, ⟨hfill, hwaits⟩ | ⟨hfill, hnone⟩⟩
  · rcases hpending : channel'.pendingFrames with _ | ⟨frame, later⟩
    · exact absurd hpending hwaits
    · rcases stands_first hafter frame later hpending with ⟨rest, hqueue, hrest⟩
      refine .inl ⟨_, rest, _, wire', hqueue, ?_, hrest⟩
      simp [WrapperTcpProfileChannel.receive, hfill, WrapperTcpProfileChannel.takeFirst, hpending]
  · refine .inr ⟨channel', wire', ?_, hafter, hnone⟩
    simp [WrapperTcpProfileChannel.receive, hfill]

/-- The same into a buffer. With too small a one the queue is left as it is. -/
theorem stands_receiveInto (size : Nat) (chunks : List Nat)
    (h : StandsForQueue limits channel wire queue) :
    (∃ apdu rest channel' wire', queue = apdu :: rest ∧
        channel.receiveInto idle size chunks wire = (.ok apdu, apdu.length, channel', wire') ∧
        StandsForQueue limits channel' wire' rest) ∨
      ∃ status writtenSize channel' wire',
        channel.receiveInto idle size chunks wire =
          (.error status, writtenSize, channel', wire') ∧
        StandsForQueue limits channel' wire' queue ∧
        (status = idle ∨ status = .outputBufferTooSmall ∧
          ∃ apdu, queue.head? = some apdu ∧ size < writtenSize ∧ writtenSize = apdu.length) := by
  rcases stands_fill idle chunks channel wire h with
    ⟨channel', wire', hafter, ⟨hfill, hwaits⟩ | ⟨hfill, hnone⟩⟩
  · rcases hpending : channel'.pendingFrames with _ | ⟨frame, later⟩
    · exact absurd hpending hwaits
    · rcases stands_first hafter frame later hpending with ⟨rest, hqueue, hrest⟩
      by_cases hsmall : size < frame.data.length
      · refine .inr ⟨.outputBufferTooSmall, frame.data.length, channel', wire', ?_, hafter,
          .inr ⟨rfl, frame.data, by rw [hqueue, List.head?_cons], hsmall, rfl⟩⟩
        simp [WrapperTcpProfileChannel.receiveInto, hfill,
          WrapperTcpProfileChannel.copyFirstPendingFrame, hpending, hsmall]
      · refine .inl ⟨_, rest, _, wire', hqueue, ?_, hrest⟩
        simp [WrapperTcpProfileChannel.receiveInto, hfill,
          WrapperTcpProfileChannel.copyFirstPendingFrame, hpending, hsmall]
  · refine .inr ⟨idle, 0, channel', wire', ?_, hafter, .inl rfl⟩
    simp [WrapperTcpProfileChannel.receiveInto, hfill]

/-- What is sent joins the end of the queue of the other side. -/
theorem stands_send (sender : WrapperTcpProfileChannel) (ports : WrapperPorts) (apdu wpdu : Bytes)
    (hsent : sender.sendApdu ports apdu = .ok wpdu) (hlimits : sender.wrapperLimits = limits)
    (h : StandsForQueue limits channel wire queue) :
    StandsForQueue limits channel (wire ++ wpdu) (queue ++ [apdu]) := by
  unfold WrapperTcpProfileChannel.sendApdu at hsent
  rw [hlimits] at hsent
  split at hsent
  · cases hsent
  · cases hencode : encodeWpdu
        { sourcePort := ports.localWrapperPort
          destinationPort := ports.remoteWrapperPort
          data := apdu } limits with
    | error status =>
        rw [hencode] at hsent
        cases hsent
    | ok encoded =>
        rw [hencode] at hsent
        have hencoded : encoded = wpdu := Except.ok.inj hsent
        subst hencoded
        rcases (encodeWpdu_eq_ok _ limits _).mp hencode with ⟨hfits, hbytes⟩
        rcases h with ⟨hown, hdecoder, frames, hcarries, hframes⟩
        have hfound := wrapperRound_wpduBytes limits _ [] hfits
        rw [List.append_nil, ← hbytes] at hfound
        refine ⟨hown, hdecoder, _,
          hcarries.send (incremental_wrapperRound limits) encoded _ hfound, ?_⟩
        rw [List.map_append, hframes]
        rfl

/-! ### Every run -/

/-- The two queues that a connection stands for. -/
def LinkStands (limits : WrapperCodecLimits) (link : TcpLink) (queue : Side → List Bytes) : Prop :=
  ∀ side, StandsForQueue limits (link.channel side) (link.wire side) (queue side)

/-- A call that receives fails as the stream does, or for want of room. -/
def LinkAnswer.Expected (answer : LinkAnswer) : Prop :=
  match answer with
  | .received (.error status) => status = idle
  | .copied (.error status) _ => status = idle ∨ status = .outputBufferTooSmall
  | _ => True

theorem linkStands_create (options : Side → ApduChannelOptions)
    (h : makeWrapperLimits (options .left) = makeWrapperLimits (options .right)) :
    LinkStands (makeWrapperLimits (options .left)) (.create options) fun _ => [] := by
  intro side
  have hlimits : makeWrapperLimits (options side) = makeWrapperLimits (options .left) := by
    cases side with
    | left => rfl
    | right => exact h.symm
  refine ⟨hlimits, hlimits, [], ?_, rfl⟩
  exact Carries.nil _ (incremental_wrapperRound _)

/-- A side that reads leaves the other one as it was. -/
theorem linkStands_updated {link : TcpLink} {queue : Side → List Bytes}
    (h : LinkStands limits link queue) (side : Side) (after : List Bytes)
    (hside : StandsForQueue limits channel wire after) :
    LinkStands limits (link.updated side channel wire) (Function.update queue side after) := by
  intro other
  by_cases hother : other = side
  · subst hother
    simp only [TcpLink.updated, Function.update_self]
    exact hside
  · simp only [TcpLink.updated, Function.update_of_ne hother]
    exact h other

/-- A transition moves a queue: an APDU that is sent joins its end, and one that
    is taken was its first. -/
def Moves (t : Transition LinkAction LinkAnswer TcpLink) (queue after : Side → List Bytes) :
    Prop :=
  ∀ side, queue side ++ (sentTo side t).toList = (takenBy side t).toList ++ after side

theorem moves_nothing (t : Transition LinkAction LinkAnswer TcpLink) (queue : Side → List Bytes)
    (hsent : ∀ side, sentTo side t = none) (htaken : ∀ side, takenBy side t = none) :
    Moves t queue queue := by
  intro side
  rw [hsent, htaken, Option.toList, List.append_nil, List.nil_append]

theorem moves_sent (t : Transition LinkAction LinkAnswer TcpLink) (queue : Side → List Bytes)
    (receiver : Side) (apdu : Bytes)
    (hsent : ∀ side, sentTo side t = if receiver = side then some apdu else none)
    (htaken : ∀ side, takenBy side t = none) :
    Moves t queue (Function.update queue receiver (queue receiver ++ [apdu])) := by
  intro side
  rw [hsent, htaken, Option.toList, List.nil_append]
  by_cases hside : receiver = side
  · subst hside
    rw [if_pos rfl, Function.update_self]
    rfl
  · rw [if_neg hside, Function.update_of_ne (Ne.symm hside)]
    exact List.append_nil _

theorem moves_taken (t : Transition LinkAction LinkAnswer TcpLink) (queue : Side → List Bytes)
    (receiver : Side) (apdu : Bytes) (rest : List Bytes) (hqueue : queue receiver = apdu :: rest)
    (hsent : ∀ side, sentTo side t = none)
    (htaken : ∀ side, takenBy side t = if receiver = side then some apdu else none) :
    Moves t queue (Function.update queue receiver rest) := by
  intro side
  rw [hsent, htaken, Option.toList, List.append_nil]
  by_cases hside : receiver = side
  · subst hside
    rw [if_pos rfl, Function.update_self]
    exact hqueue
  · rw [if_neg hside, Function.update_of_ne (Ne.symm hside)]
    rfl

/-- Every action moves the two queues. -/
theorem stands_linkStep (action : LinkAction) (link : TcpLink) (queue : Side → List Bytes)
    (h : LinkStands limits link queue) :
    ∃ after, LinkStands limits (linkStep ports idle action link).2 after ∧
      Moves (transition (linkStep ports idle) action link) queue after ∧
      (linkStep ports idle action link).1.Expected idle := by
  cases action with
  | send sender apdu =>
      simp only [transition, linkStep]
      cases hsent : (link.channel sender).sendApdu (ports sender) apdu with
      | error status =>
          exact ⟨queue, h, moves_nothing _ _ (fun _ => rfl) (fun _ => rfl), trivial⟩
      | ok wpdu =>
          refine ⟨_, fun side => ?_,
            moves_sent _ queue sender.other apdu (fun _ => rfl) (fun _ => rfl), trivial⟩
          by_cases hside : side = sender.other
          · subst hside
            simp only [Function.update_self]
            exact stands_send (link.channel sender) (ports sender) apdu wpdu hsent
              (h sender).sends (h sender.other)
          · simp only [Function.update_of_ne hside]
            exact h side
  | receive receiver chunks =>
      simp only [transition, linkStep]
      rcases stands_receive idle chunks (h receiver) with
        ⟨apdu, rest, channel', wire', hqueue, hout, hafter⟩ |
          ⟨channel', wire', hout, hafter, -⟩
      · rw [hout]
        exact ⟨_, linkStands_updated h receiver rest hafter,
          moves_taken _ queue receiver apdu rest hqueue (fun _ => rfl) (fun _ => rfl), trivial⟩
      · rw [hout]
        have hkept := linkStands_updated h receiver (queue receiver) hafter
        rw [Function.update_eq_self] at hkept
        exact ⟨queue, hkept, moves_nothing _ _ (fun _ => rfl) (fun _ => rfl), rfl⟩
  | receiveInto receiver size chunks =>
      simp only [transition, linkStep]
      rcases stands_receiveInto idle size chunks (h receiver) with
        ⟨apdu, rest, channel', wire', hqueue, hout, hafter⟩ |
          ⟨status, writtenSize, channel', wire', hout, hafter, hstatus⟩
      · rw [hout]
        exact ⟨_, linkStands_updated h receiver rest hafter,
          moves_taken _ queue receiver apdu rest hqueue (fun _ => rfl) (fun _ => rfl), trivial⟩
      · rw [hout]
        have hkept := linkStands_updated h receiver (queue receiver) hafter
        rw [Function.update_eq_self] at hkept
        exact ⟨queue, hkept, moves_nothing _ _ (fun _ => rfl) (fun _ => rfl),
          hstatus.imp id fun hsmall => hsmall.1⟩

/-- What has been sent to a side is what it has taken and what is on its way. -/
structure LinkHistory (limits : WrapperCodecLimits)
    (history : List (Transition LinkAction LinkAnswer TcpLink)) (link : TcpLink)
    (queue : Side → List Bytes) : Prop where
  stands : LinkStands limits link queue
  queue : ∀ side, history.filterMap (sentTo side) =
    history.filterMap (takenBy side) ++ queue side
  expected : ∀ t ∈ history, t.output.Expected idle

theorem filterMap_append_one {α β : Type} (f : α → Option β) (items : List α) (item : α) :
    (items ++ [item]).filterMap f = items.filterMap f ++ (f item).toList := by
  rw [List.filterMap_append]
  cases hitem : f item with
  | none => simp [hitem, Option.toList]
  | some value => simp [hitem, Option.toList]

theorem history_linkStep (history : List (Transition LinkAction LinkAnswer TcpLink))
    (link : TcpLink) (action : LinkAction)
    (h : ∃ queue, LinkHistory idle limits history link queue) :
    ∃ queue, LinkHistory idle limits
      (history ++ [transition (linkStep ports idle) action link])
      (linkStep ports idle action link).2 queue := by
  rcases h with ⟨queue, hstands, hqueue, hexpected⟩
  rcases stands_linkStep ports idle action link queue hstands with
    ⟨after, hafter, hmoves, hanswer⟩
  refine ⟨after, hafter, fun side => ?_, fun t ht => ?_⟩
  · rw [filterMap_append_one, filterMap_append_one, hqueue side, List.append_assoc, hmoves side,
      List.append_assoc]
  · rcases List.mem_append.mp ht with hold | hnew
    · exact hexpected t hold
    · rw [List.mem_singleton.mp hnew]
      exact hanswer

/-- What the two callers see of a connection: what has been sent to a side is
    what it has taken, in order, and what it takes next as soon as all the octets
    are read. -/
structure ActsAsQueues (history : List (Transition LinkAction LinkAnswer TcpLink))
    (link : TcpLink) : Prop where
  expected : ∀ t ∈ history, t.output.Expected idle
  arrives : ∀ side, ∃ outstanding,
    history.filterMap (sentTo side) = history.filterMap (takenBy side) ++ outstanding ∧
      ∀ chunks, (link.wire side).length ≤ chunks.length →
        ((link.channel side).receive idle chunks (link.wire side)).1 =
          outstanding.head?.elim (.error idle) .ok

/-- Two channels with the same limits are a pair of queues, whatever the two
    sides do in whatever order and however the octets are cut. -/
theorem link_is_queue (options : Side → ApduChannelOptions)
    (h : makeWrapperLimits (options .left) = makeWrapperLimits (options .right))
    (actions : List LinkAction) :
    ActsAsQueues idle (run (linkStep ports idle) actions (.create options))
      (final (linkStep ports idle) actions (.create options)) := by
  have hstart : ∃ queue, LinkHistory idle (makeWrapperLimits (options .left)) []
      (.create options) queue :=
    ⟨fun _ => [], linkStands_create options h, fun _ => rfl,
      fun _ ht => absurd ht List.not_mem_nil⟩
  rcases Machine.holds_of_every_step (linkStep ports idle)
    (fun history link => ∃ queue, LinkHistory idle (makeWrapperLimits (options .left)) history
      link queue)
    (fun history link action hbefore => history_linkStep ports idle history link action hbefore)
    actions (.create options) hstart with ⟨queue, hstands, hqueue, hexpected⟩
  refine ⟨hexpected, fun side => ⟨queue side, hqueue side, fun chunks hchunks => ?_⟩⟩
  rcases stands_receive idle chunks (hstands side) with
    ⟨apdu, rest, channel', wire', hfirst, hout, -⟩ | ⟨channel', wire', hout, -, hnone⟩
  · rw [hout, hfirst]
    rfl
  · rw [hout, hnone hchunks]
    rfl

end Link

/-! ### A request and its response -/

/-- The client's and the management logical device's port. -/
def meterPorts (side : Side) : WrapperPorts :=
  match side with
  | .left => { localWrapperPort := 16, remoteWrapperPort := 1 }
  | .right => { localWrapperPort := 1, remoteWrapperPort := 16 }

/-- Two requests are on the way before the first one is read, which is cut in
    its header; the response is looked at with too small a buffer first. -/
def meterActions : List LinkAction :=
  [.send .left [0xC0], .send .left [0xC0, 0x01], .receive .right [2], .receive .right [40],
    .send .right [0xC4], .receiveInto .left 0 [40], .receiveInto .left 8 [40]]

theorem link_is_queue_meter :
    ActsAsQueues .wouldBlock
      (run (linkStep meterPorts .wouldBlock) meterActions (.create fun _ => {}))
      (final (linkStep meterPorts .wouldBlock) meterActions (.create fun _ => {})) :=
  link_is_queue meterPorts .wouldBlock (fun _ => {}) rfl meterActions

end Profile

end Dlms
