import Dlms.Profile.HdlcLink
import Dlms.Profile.HdlcProgress

/-!
# Turns of a channel under way

What the turns of an end do that has to read, and of one that sends the segments
of an APDU. A segment has a number in its LPDU, and begins before the end of it.

## Main definitions

* `frameCount`, `chunk`: The segments of an APDU.
* `sendingAt`, `segmentFrame`: The loop over them, and their frames.

## Theorems

* `lt_frameCount_iff`: Which segments there are.
* `eq_nil_of_blocked`, `turn_awaiting`: What a turn does that has to read.
* `startSendApdu_underWay`, `sendSegment_underWay`: What a turn does that sends.
-/

namespace Dlms

namespace Profile

open Apdu (Bytes)
open Hdlc (Fits HdlcFrame frameBytes)

/-! ### The segments of an APDU -/

section Segments

variable (near : HdlcProfileChannel)

def chunkSize : Nat := near.session.negotiatedLimits.maxInformationFieldLengthTransmit

def window : Nat := near.session.windowSizeTransmit.toNat

variable (apdu : Bytes)

def lpduOf : Bytes := Llc.lpduBytes (toLlcDirection near.options.hdlcDirection) apdu

def frameCount : Nat := ((lpduOf near apdu).length + chunkSize near - 1) / chunkSize near

def chunk (index : Nat) : Bytes :=
  ((lpduOf near apdu).drop (index * chunkSize near)).take (chunkSize near)

theorem length_lpduOf : (lpduOf near apdu).length = apdu.length + 3 := rfl

theorem lpduOf_ne_nil : lpduOf near apdu ≠ [] := List.cons_ne_nil _ _

theorem length_chunk_le (index : Nat) : (chunk near apdu index).length ≤ chunkSize near := by
  rw [chunk, List.length_take]
  exact Nat.min_le_left _ _

/-- The octets up to a segment, and the segment. -/
theorem take_append_chunk (index : Nat) :
    (lpduOf near apdu).take (index * chunkSize near) ++ chunk near apdu index =
      (lpduOf near apdu).take ((index + 1) * chunkSize near) := by
  rw [chunk, Nat.succ_mul, List.take_add]

variable (hbase : Established near)
include hbase

/-- A segment begins before the end of the LPDU. -/
theorem lt_frameCount_iff (index : Nat) :
    index < frameCount near apdu ↔ index * chunkSize near < (lpduOf near apdu).length := by
  have hpositive : 0 < chunkSize near := hbase.informationPositive
  have hsucc := Nat.succ_mul index (chunkSize near)
  rw [frameCount, ← Nat.succ_le_iff, Nat.le_div_iff_mul_le hpositive]
  omega

theorem frameCount_pos : 0 < frameCount near apdu := by
  rw [lt_frameCount_iff near apdu hbase 0, Nat.zero_mul, length_lpduOf]
  omega

theorem frameCount_le : frameCount near apdu ≤ apdu.length + 3 := by
  have hpositive : 1 ≤ chunkSize near := hbase.informationPositive
  rw [← Nat.not_lt, lt_frameCount_iff near apdu hbase, length_lpduOf]
  exact Nat.not_lt.mpr (Nat.le_mul_of_pos_right _ hpositive)

theorem chunk_ne_nil (index : Nat) (h : index < frameCount near apdu) :
    chunk near apdu index ≠ [] := by
  have hpositive : 1 ≤ chunkSize near := hbase.informationPositive
  rw [lt_frameCount_iff near apdu hbase] at h
  rw [← List.length_pos_iff, chunk, List.length_take, List.length_drop]
  omega

/-- With its last segment the LPDU is complete. -/
theorem take_last (index : Nat) (h : index + 1 = frameCount near apdu) :
    (lpduOf near apdu).take ((index + 1) * chunkSize near) = lpduOf near apdu := by
  have hend := lt_frameCount_iff near apdu hbase (index + 1)
  rw [List.take_of_length_le]
  omega

end Segments

/-! ### Turns that read -/

section Turns

theorem readSize_pos (options : ApduChannelOptions) (size : Nat) : 0 < readSize options size := by
  rw [readSize, readBufferSize]
  split_ifs <;> omega

theorem continueTask_of_awaits (channel : HdlcProfileChannel) (task : Task)
    (read : Except ProfileStatus Bytes) (h : awaitsFrame channel task = true) :
    continueTask channel task read =
      continueWith (channel.nextFrame read).2 task (channel.nextFrame read).1 := by
  cases task with
  | idle => exact absurd h Bool.false_ne_true
  | sendInformation sending =>
      have hcannot : channel.session.canSendInformationFrame = false := by
        rw [awaitsFrame, Bool.not_eq_true'] at h
        exact h
      rw [continueTask, hcannot, if_neg Bool.false_ne_true]
  | receiveApdu => rfl
  | awaitAnswer frameBytes attempt => rfl
  | acceptDataLink => rfl
  | acceptDisconnectDataLink => rfl

theorem task_ne_idle_of_awaits (channel : HdlcProfileChannel) (task : Task)
    (h : awaitsFrame channel task = true) : task ≠ .idle := by
  rintro rfl
  exact absurd h Bool.false_ne_true

theorem turn_of_task (near : ChannelEnd) (size : Nat) (h : near.task ≠ .idle) :
    near.turn size =
      if awaitsFrame near.channel near.task && near.channel.pendingHdlcFrames.isEmpty then
        if near.inbox.isEmpty then none
        else some (ChannelEnd.apply
          { near with inbox := near.inbox.drop (readSize near.channel.options size) }
          (continueTask near.channel near.task
            (.ok (near.inbox.take (readSize near.channel.options size)))))
      else some (near.apply (continueTask near.channel near.task (.ok []))) := by
  unfold ChannelEnd.turn
  cases htask : near.task with
  | idle => exact absurd htask h
  | sendInformation sending => rfl
  | receiveApdu => rfl
  | awaitAnswer frameBytes attempt => rfl
  | acceptDataLink => rfl
  | acceptDisconnectDataLink => rfl

variable (base : HdlcProfileChannel) (near : ChannelEnd) (progress : Progress)
  (frames : List HdlcFrame) (hchannel : near.channel = underWay base progress)
  (hawaits : awaitsFrame near.channel near.task = true)
  (hunread : Unread progress.buffer progress.decoded near.inbox frames)
include hchannel hawaits hunread

/-- An end that has to read and cannot has looked at all frames. -/
theorem eq_nil_of_blocked (size : Nat) (hturn : near.turn size = none) : frames = [] := by
  rw [turn_of_task near size (task_ne_idle_of_awaits _ _ hawaits), hawaits, Bool.true_and] at hturn
  by_cases hdecoded : near.channel.pendingHdlcFrames.isEmpty = true
  · rw [if_pos hdecoded] at hturn
    by_cases hinbox : near.inbox.isEmpty = true
    · rw [List.isEmpty_iff] at hdecoded hinbox
      have hnone : progress.decoded = [] := by
        rw [hchannel] at hdecoded
        exact hdecoded
      rw [hnone, hinbox] at hunread
      exact eq_nil_of_unread progress.buffer frames hunread
    · rw [if_neg hinbox] at hturn
      cases hturn
  · rw [if_neg hdecoded] at hturn
    cases hturn

/-- A turn of an end that has to read goes on with the first frame it has not
    looked at, or has read a part of it. -/
theorem turn_awaiting (hfits : ∀ frame ∈ frames, Fits frame base.decoder.limits) (size : Nat)
    (next : ChannelEnd × Bytes) (hturn : near.turn size = some next) :
    ∃ buffer decoded inbox,
      (∃ frame later, frames = frame :: later ∧ inbox.length ≤ near.inbox.length ∧
        Unread buffer decoded inbox later ∧
        next = ChannelEnd.apply { near with inbox := inbox }
          (continueWith (underWay base { progress with buffer := buffer, decoded := decoded })
            near.task (.ok (some frame)))) ∨
      inbox.length < near.inbox.length ∧ Unread buffer decoded inbox frames ∧
        next = ChannelEnd.apply { near with inbox := inbox }
          (continueWith (underWay base { progress with buffer := buffer, decoded := decoded })
            near.task (.ok none)) := by
  rw [turn_of_task near size (task_ne_idle_of_awaits _ _ hawaits), hawaits, Bool.true_and] at hturn
  by_cases hdecoded : near.channel.pendingHdlcFrames.isEmpty = true
  · rw [if_pos hdecoded] at hturn
    by_cases hinbox : near.inbox.isEmpty = true
    · rw [if_pos hinbox] at hturn
      cases hturn
    · -- Some octets are read.
      rw [if_neg hinbox, Option.some.injEq, continueTask_of_awaits _ _ _ hawaits, hchannel] at hturn
      rw [hchannel, List.isEmpty_iff] at hdecoded
      generalize hcount : readSize (underWay base progress).options size = count at hturn
      have hpositive := readSize_pos (underWay base progress).options size
      rw [hcount] at hpositive
      have hlength : 0 < near.inbox.length := by
        rw [List.isEmpty_iff] at hinbox
        exact List.length_pos_iff.mpr hinbox
      have hsome : near.inbox.take count ≠ [] := by
        rw [← List.length_pos_iff, List.length_take]
        omega
      have hdrop : (near.inbox.drop count).length < near.inbox.length := by
        rw [List.length_drop]
        omega
      rcases nextFrame_of_read base progress near.inbox frames count hdecoded hunread hfits hsome
        with ⟨buffer, decoded, ⟨frame, later, hframes, hnext, hlater⟩ | ⟨hnext, hsame⟩⟩
      · rw [hnext] at hturn
        exact ⟨buffer, decoded, near.inbox.drop count, .inl ⟨frame, later, hframes, by omega,
          hlater, hturn.symm⟩⟩
      · rw [hnext] at hturn
        exact ⟨buffer, decoded, near.inbox.drop count, .inr ⟨hdrop, hsame, hturn.symm⟩⟩
  · -- A frame was decoded together with an earlier one.
    rw [if_neg hdecoded, Option.some.injEq, continueTask_of_awaits _ _ _ hawaits, hchannel] at hturn
    rw [hchannel, List.isEmpty_iff] at hdecoded
    rcases List.exists_cons_of_ne_nil hdecoded with ⟨frame, decoded, hcons⟩
    rw [nextFrame_of_decoded base progress _ frame decoded hcons] at hturn
    rcases hunread with ⟨later, hframes, hstream, hwaiting⟩
    rw [show progress.decoded = frame :: decoded from hcons, List.cons_append] at hframes
    exact ⟨progress.buffer, decoded, near.inbox, .inl ⟨frame, decoded ++ later, hframes,
      Nat.le_refl _, ⟨later, rfl, hstream, hwaiting⟩, hturn.symm⟩⟩

end Turns

/-! ### Turns that send -/

section Sending

variable (near : HdlcProfileChannel) (apdu : Bytes)

/-- The loop of a call that sends an APDU, before a segment. -/
def sendingAt (index : Nat) : Sending where
  lpdu := lpduOf near apdu
  chunkSize := chunkSize near
  frameCount := frameCount near apdu
  index := index
  offset := index * chunkSize near

/-- The frame of a segment. -/
def segmentFrame (first acknowledged index : Nat) : HdlcFrame :=
  informationFrame near (first + index) acknowledged (!decide (index + 1 = frameCount near apdu))
    (chunk near apdu index)

/-- A segment that is built goes out; the loop ends with the last one. -/
theorem sendSegment_of_built (channel after : HdlcProfileChannel) (sending : Sending)
    (written bytes : Bytes) (hsome : sending.lpdu ≠ [])
    (hbuilt : channel.buildSessionInformationFrame
      ((sending.lpdu.drop sending.offset).take
        (min sending.chunkSize (sending.lpdu.length - sending.offset)))
      (!decide (sending.index + 1 = sending.frameCount))
      (decide (sending.index + 1 = sending.frameCount)) = (.ok bytes, after)) :
    sendSegment channel sending written =
      if sending.index + 1 = sending.frameCount then
        .finish after (.ok ()) (written ++ bytes)
      else
        { channel := after
          task := .sendInformation { sending with
            index := sending.index + 1
            offset := sending.offset +
              min sending.chunkSize (sending.lpdu.length - sending.offset) }
          written := written ++ bytes } := by
  unfold sendSegment
  simp [hsome, hbuilt]

variable (hbase : Established near) (progress : Progress)
include hbase

theorem startSendApdu_underWay (hpermitted : Permitted near.options apdu)
    (hlength : apdu.length ≤ Llc.maximumLsduSize) :
    startSendApdu (underWay near progress) apdu =
      { channel := underWay near { progress with informationLimit := chunkSize near }
        task := .sendInformation (sendingAt near apdu 0) } := by
  have hsmall : ¬ ((underWay near progress).options.maximumApduSize ≠ 0 ∧
      apdu.length > (underWay near progress).options.maximumApduSize) := by
    show ¬ (near.options.maximumApduSize ≠ 0 ∧ apdu.length > near.options.maximumApduSize)
    rw [Permitted] at hpermitted
    omega
  have hencoded := Llc.encodeLpdu_makeLlcHeader (toLlcDirection near.options.hdlcDirection) apdu
    hlength
  have hsession : (underWay near progress).options.hdlcUseSession = true := hbase.useSession
  have hstate : (underWay near progress).session.state = .connected := hbase.connected
  have hlimit : (underWay near progress).session.negotiatedLimits.maxInformationFieldLengthTransmit
      ≠ 0 := Nat.ne_of_gt hbase.informationPositive
  unfold startSendApdu
  rw [if_neg hsmall]
  simp only
  rw [show Llc.encodeLpdu (Llc.makeLlcHeader (toLlcDirection
    (underWay near progress).options.hdlcDirection)) apdu = .ok (lpduOf near apdu) from hencoded]
  simp only
  rw [hsession, if_pos rfl, startSendSessionInformation, if_neg (not_not.mpr hstate)]
  simp only
  rw [if_neg hlimit, if_neg (lpduOf_ne_nil near apdu)]
  simp only [sendingAt, Nat.zero_mul]
  rfl

omit hbase in
/-- An APDU that leaves no room for a header in the numbers of sizes. -/
theorem startSendApdu_oversized (hlength : Llc.maximumLsduSize < apdu.length) :
    ∃ status, startSendApdu (underWay near progress) apdu =
      .finish (underWay near progress) (.error status) [] := by
  have hencoded : ∀ header, Llc.encodeLpdu header apdu = .error .lsduTooLarge := by
    intro header
    rw [Llc.encodeLpdu, if_pos hlength]
  unfold startSendApdu
  by_cases hlarge : (underWay near progress).options.maximumApduSize ≠ 0 ∧
      apdu.length > (underWay near progress).options.maximumApduSize
  · rw [if_pos hlarge]
    exact ⟨_, rfl⟩
  · rw [if_neg hlarge]
    simp only [hencoded]
    exact ⟨_, rfl⟩

/-- The next segment is sent; with the last one the call ends. -/
theorem sendSegment_underWay (first index : Nat) (hindex : index < frameCount near apdu)
    (hsent : progress.sent = first + index) (hacknowledged : progress.acknowledged ≤ progress.sent)
    (hroom : progress.sent < progress.acknowledged + window near)
    (hlimit : progress.informationLimit = chunkSize near) (written : Bytes) :
    sendSegment (underWay near progress) (sendingAt near apdu index) written =
      if index + 1 = frameCount near apdu then
        .finish (underWay near { progress with sent := progress.sent + 1 }) (.ok ())
          (written ++ frameBytes (segmentFrame near apdu first progress.received index))
      else
        { channel := underWay near { progress with sent := progress.sent + 1 }
          task := .sendInformation (sendingAt near apdu (index + 1))
          written :=
            written ++ frameBytes (segmentFrame near apdu first progress.received index) } := by
  have hbuilt := buildSegment_underWay near hbase progress (chunk near apdu index)
    (!decide (index + 1 = frameCount near apdu)) hacknowledged hroom
    (length_chunk_le near apdu index) hlimit
  rw [Bool.not_not, hsent] at hbuilt
  -- What is left of the LPDU may be less than a segment, but never nothing.
  have hbegin := (lt_frameCount_iff near apdu hbase index).mp hindex
  have htake : ((lpduOf near apdu).drop (index * chunkSize near)).take
      (min (chunkSize near) ((lpduOf near apdu).length - index * chunkSize near)) =
        chunk near apdu index := by
    rw [chunk, ← List.length_drop, ← List.take_eq_take_min]
  have hsegment := sendSegment_of_built (underWay near progress) _ (sendingAt near apdu index)
    written _ (lpduOf_ne_nil near apdu) ((congrArg (fun information =>
      (underWay near progress).buildSessionInformationFrame information _ _) htake).trans hbuilt)
  rw [hsegment, hsent]
  by_cases hlast : (sendingAt near apdu index).index + 1 = (sendingAt near apdu index).frameCount
  · have hend : index + 1 = frameCount near apdu := hlast
    rw [if_pos hlast, if_pos hend]
    rfl
  · -- A segment that is not the last one is as large as a segment can be.
    have hmore : ¬ index + 1 = frameCount near apdu := hlast
    have hnext := (lt_frameCount_iff near apdu hbase (index + 1)).mp (by omega)
    have hsize : min (chunkSize near) ((lpduOf near apdu).length - index * chunkSize near) =
        chunkSize near := by
      rw [Nat.succ_mul] at hnext
      omega
    have hoffset : index * chunkSize near +
        min (chunkSize near) ((lpduOf near apdu).length - index * chunkSize near) =
          (index + 1) * chunkSize near := by
      rw [hsize, Nat.succ_mul]
    rw [if_neg hlast, if_neg hmore]
    simp only [sendingAt, hoffset]
    rfl

end Sending

end Profile

end Dlms
