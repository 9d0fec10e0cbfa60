import Dlms.Hdlc.Agreement

/-!
# The parameters in an information field

A block of parameters stands at the start of the information of a SNRM or of its answer, and user
information may stand behind it. The parser goes over the octets with a position, and reads what
is at it. A read outside of the octets has no result here, so that a parser that always has one
reads inside.

The sizes are written in two octets and the windows in four, of which only the lowest is used: a
session holds its windows in one octet.

## Main definitions

* `parseParametersAt`, `parseSnrmInfoFieldAt`: The parser at a position.
* `Recovers`: A block is parsed to what it was made of, with the octets behind it left over.

## Theorems

* `parseParametersAt_eq`, `parseSnrmInfoFieldAt_eq`: It reads inside, and says what the parser of
  the session does.
* `recovers_iff`: Which parameters come back.
* `parseSnrmInfoFieldAt_block`: All of it.
* `not_recovers_window`: A window of two octets.
-/

namespace Dlms

namespace Hdlc

open Codec (beValue beValueFrom)

/-! ### The parser at a position -/

/-- A number of some octets. It is kept in 32 bits. -/
def parseBeValueAt (data : Bytes) : Nat → Nat → Nat → Option Nat
  | 0, _, result => some result
  | len + 1, pos, result => do
      let octet ← data[pos]?
      parseBeValueAt data len (pos + 1) (result * 256 % 2 ^ 32 + octet.toNat)

/-- The parameter of a tag. -/
def setParameter (tag : UInt8) (value : Nat) (params : SnrmParams) : Option SnrmParams :=
  match tag.toNat with
  | 0x05 => some { params with maxInfoTx := value }
  | 0x06 => some { params with maxInfoRx := value }
  | 0x07 => some { params with windowTx := value }
  | 0x08 => some { params with windowRx := value }
  | _ => none

/-- The loop over the parameters of a group, up to its end. -/
def parseParametersAt (data : Bytes) (stop pos : Nat) (params : SnrmParams) :
    Option (Except HdlcStatus SnrmParams) :=
  if _h : pos < stop then
    -- The two octets in front of a value are read only where the group has both.
    if pos + 2 > stop then some (.error .invalidFrameFormat)
    else do
      let tag ← data[pos]?
      let valueLength ← data[pos + 1]?
      if valueLength = 0 ∨ valueLength.toNat > 4 ∨ pos + 2 + valueLength.toNat > stop then
        some (.error .invalidFrameFormat)
      else do
        let value ← parseBeValueAt data valueLength.toNat (pos + 2) 0
        match setParameter tag value params with
        | none => some (.error .unsupportedFeature)
        | some params => parseParametersAt data stop (pos + 2 + valueLength.toNat) params
  else some (.ok params)
termination_by stop - pos

/-- The parameters of an information field, and how many octets they take. -/
def parseSnrmInfoFieldAt (data : Bytes) : Option (Except HdlcStatus (SnrmParams × Nat)) :=
  if data.length = 0 then some (.ok (defaultSnrmParams, 0))
  else if data.length < 3 then some (.ok (defaultSnrmParams, 0))
  else do
    let first ← data[0]?
    if first ≠ 0x81 then some (.ok (defaultSnrmParams, 0))
    else do
      let second ← data[1]?
      if second ≠ 0x80 then some (.ok (defaultSnrmParams, 0))
      else do
        let groupLength ← data[2]?
        if 3 + groupLength.toNat > data.length then some (.error .invalidFrameFormat)
        else do
          let parsed ← parseParametersAt data (3 + groupLength.toNat) 3 defaultSnrmParams
          match parsed with
          | .error status => some (.error status)
          | .ok params => some (.ok (params, 3 + groupLength.toNat))

/-! ### Reading inside -/

section Inside

variable (data : Bytes)

/-- A number of four octets at most is read inside and kept whole. -/
theorem parseBeValueAt_eq (len pos result : Nat) (hpos : pos + len ≤ data.length) (hlen : len ≤ 4)
    (hresult : result < 256 ^ (4 - len)) :
    parseBeValueAt data len pos result = some (beValueFrom result ((data.drop pos).take len)) := by
  induction len generalizing pos result with
  | zero => rfl
  | succ len ih =>
      have hinside : pos < data.length := by omega
      have hoctet := (data[pos]).toNat_lt
      have hpower : 256 ^ (4 - len) = 256 ^ (4 - (len + 1)) * 256 := by
        rw [← pow_succ]
        congr 1
        omega
      have hsmall : 256 ^ (4 - len) ≤ 256 ^ 4 := Nat.pow_le_pow_right (by decide) (by omega)
      have hshift : result * 256 % 2 ^ 32 = result * 256 := Nat.mod_eq_of_lt (by omega)
      rw [parseBeValueAt, List.getElem?_eq_getElem hinside]
      simp only [Option.bind_eq_bind, Option.bind_some]
      rw [hshift, ih (pos + 1) (result * 256 + (data[pos]).toNat) (by omega) (by omega) (by omega),
        List.drop_eq_getElem_cons hinside, List.take_succ_cons, beValueFrom]

/-- The same for a number of a group. -/
theorem parseBeValueAt_group (stop len pos : Nat) (hstop : stop ≤ data.length)
    (hpos : pos + len ≤ stop) (hlen : len ≤ 4) :
    parseBeValueAt data len pos 0 = some (beValue (((data.take stop).drop pos).take len)) := by
  rw [parseBeValueAt_eq data len pos 0 (by omega) hlen (Nat.pow_pos (by decide)), List.drop_take,
    List.take_take, Nat.min_eq_left (by omega)]
  rfl

/-- What is read of a group is one of the octets. -/
theorem getElem?_group (stop pos : Nat) (h : pos < (data.take stop).length) :
    data[pos]? = some (data.take stop)[pos] := by
  rw [List.getElem_take]
  exact List.getElem?_eq_getElem _

/-- A parameter, and those behind it. -/
theorem parseParameters_cons (fuel : Nat) (tag valueLength : UInt8) (rest : Bytes)
    (params : SnrmParams) :
    parseParameters (fuel + 1) (tag :: valueLength :: rest) params =
      if valueLength = 0 ∨ valueLength.toNat > 4 ∨ valueLength.toNat > rest.length then
        .error .invalidFrameFormat
      else
        match setParameter tag (beValue (rest.take valueLength.toNat)) params with
        | none => .error .unsupportedFeature
        | some params => parseParameters fuel (rest.drop valueLength.toNat) params := by
  rw [parseParameters]
  by_cases hvalue : valueLength = 0 ∨ valueLength.toNat > 4 ∨ valueLength.toNat > rest.length
  · rw [if_pos hvalue, if_pos hvalue]
  · rw [if_neg hvalue, if_neg hvalue]
    unfold setParameter
    dsimp only
    generalize tag.toNat = number
    -- One case for each tag, and one for all others.
    split
    · rfl
    · rfl
    · rfl
    · rfl
    · simp [*]

/-- The loop reads inside a group that is, and does what the parser of the list does. The induction
    is on the fuel of the latter. -/
theorem parseParametersAt_eq (stop : Nat) (hstop : stop ≤ data.length) (fuel pos : Nat)
    (params : SnrmParams) (hpos : pos ≤ stop) (hfuel : stop - pos ≤ fuel) :
    parseParametersAt data stop pos params =
      some (parseParameters fuel ((data.take stop).drop pos) params) := by
  have hlength : (data.take stop).length = stop := by
    rw [List.length_take]
    omega
  induction fuel generalizing pos params with
  | zero =>
      have hend : (data.take stop).drop pos = [] := List.drop_of_length_le (by omega)
      rw [parseParametersAt, dif_neg (by omega), hend, parseParameters]
  | succ fuel ih =>
      rw [parseParametersAt]
      by_cases hend : pos < stop
      · rw [dif_pos hend]
        have hfirst : pos < (data.take stop).length := by omega
        by_cases hone : pos + 2 > stop
        · have hlast : (data.take stop).drop (pos + 1) = [] :=
            List.drop_of_length_le (by omega)
          rw [if_pos hone, List.drop_eq_getElem_cons hfirst, hlast]
          rfl
        · have hsecond : pos + 1 < (data.take stop).length := by omega
          rw [if_neg hone, getElem?_group data stop pos hfirst,
            getElem?_group data stop (pos + 1) hsecond, List.drop_eq_getElem_cons hfirst,
            List.drop_eq_getElem_cons hsecond, parseParameters_cons]
          generalize (data.take stop)[pos] = tag
          generalize (data.take stop)[pos + 1] = valueLength
          have hbound : valueLength.toNat > ((data.take stop).drop (pos + 1 + 1)).length ↔
              pos + 2 + valueLength.toNat > stop := by
            rw [List.length_drop, hlength]
            omega
          have hsame := or_congr_right (a := valueLength = 0)
            (or_congr_right (a := valueLength.toNat > 4) hbound)
          simp only [Option.bind_eq_bind, Option.bind_some]
          by_cases hvalue : valueLength = 0 ∨ valueLength.toNat > 4 ∨
              pos + 2 + valueLength.toNat > stop
          · rw [if_pos hvalue, if_pos (hsame.mpr hvalue)]
          · rw [if_neg hvalue, if_neg fun hrefused => hvalue (hsame.mp hrefused)]
            rw [not_or, not_or] at hvalue
            have hfits : pos + 2 + valueLength.toNat ≤ stop := Nat.le_of_not_lt hvalue.2.2
            have hshort : valueLength.toNat ≤ 4 := Nat.le_of_not_lt hvalue.2.1
            rw [parseBeValueAt_group data stop _ _ hstop hfits hshort, Option.bind_some,
              List.drop_drop]
            cases setParameter tag
                (beValue (((data.take stop).drop (pos + 1 + 1)).take valueLength.toNat)) params with
            | none => rfl
            | some params => exact ih (pos + 2 + valueLength.toNat) params hfits (by omega)
      · have hnone : (data.take stop).drop pos = [] := List.drop_of_length_le (by omega)
        rw [dif_neg hend, hnone, parseParameters]

/-- A field with the header of a block has the parameters of the block, and any other has none. -/
theorem parseSnrmInfoField_cons (first second groupLength : UInt8) (rest : Bytes) :
    parseSnrmInfoField (first :: second :: groupLength :: rest) =
      if first = 0x81 ∧ second = 0x80 then
        if groupLength.toNat > rest.length then .error .invalidFrameFormat
        else
          match parseParameters groupLength.toNat (rest.take groupLength.toNat)
              defaultSnrmParams with
          | .error status => .error status
          | .ok params => .ok (params, 3 + groupLength.toNat)
      else .ok (defaultSnrmParams, 0) := by
  unfold parseSnrmInfoField
  split
  · next heq =>
      simp only [List.cons.injEq] at heq
      rcases heq with ⟨rfl, rfl, rfl, rfl⟩
      by_cases hlong : groupLength.toNat > rest.length
      · rw [if_pos hlong, if_pos ⟨rfl, rfl⟩, if_pos hlong]
      · rw [if_neg hlong, if_pos ⟨rfl, rfl⟩, if_neg hlong]
        dsimp only
        rw [List.length_take, Nat.min_eq_left (Nat.le_of_not_lt hlong)]
        cases parseParameters groupLength.toNat (rest.take groupLength.toNat)
            defaultSnrmParams with
        | error status => rfl
        | ok params => rfl
  · next hother =>
      rw [if_neg]
      rintro ⟨rfl, rfl⟩
      exact hother groupLength rest rfl

theorem parseSnrmInfoField_short (h : data.length < 3) :
    parseSnrmInfoField data = .ok (defaultSnrmParams, 0) := by
  unfold parseSnrmInfoField
  split
  · simp only [List.length_cons] at h
    omega
  · rfl

/-- The parser has a result for all octets, which is that of the parser of the session: it ends,
    and all that it reads is inside. -/
theorem parseSnrmInfoFieldAt_eq : parseSnrmInfoFieldAt data = some (parseSnrmInfoField data) := by
  unfold parseSnrmInfoFieldAt
  by_cases hshort : data.length < 3
  · rw [parseSnrmInfoField_short data hshort, if_pos hshort, ite_self]
  match data with
  | [] | [_] | [_, _] =>
      simp only [List.length_cons, List.length_nil] at hshort
      omega
  | first :: second :: groupLength :: rest =>
      have hlength : (first :: second :: groupLength :: rest).length = rest.length + 3 := rfl
      rw [parseSnrmInfoField_cons, if_neg (by omega), if_neg hshort, hlength]
      simp only [List.getElem?_cons_zero, List.getElem?_cons_succ, Option.bind_eq_bind,
        Option.bind_some]
      by_cases hfirst : first = 0x81
      · by_cases hsecond : second = 0x80
        · rw [if_neg (not_not.mpr hfirst), if_neg (not_not.mpr hsecond),
            if_pos (And.intro hfirst hsecond)]
          by_cases hlong : groupLength.toNat > rest.length
          · rw [if_pos (by omega), if_pos hlong]
          -- The group is inside, so the loop is the one over its octets.
          · have hgroup := parseParametersAt_eq (first :: second :: groupLength :: rest)
              (3 + groupLength.toNat) (by omega) groupLength.toNat 3 defaultSnrmParams (by omega)
              (by omega)
            have hoctets : ((first :: second :: groupLength :: rest).take
                (3 + groupLength.toNat)).drop 3 = rest.take groupLength.toNat := by
              rw [List.drop_take, Nat.add_sub_cancel_left]
              rfl
            rw [if_neg (by omega), if_neg hlong, hgroup, hoctets, Option.bind_some]
            cases parseParameters groupLength.toNat (rest.take groupLength.toNat)
                defaultSnrmParams with
            | error status => rfl
            | ok params => rfl
        · rw [if_neg (not_not.mpr hfirst), if_pos hsecond, if_neg fun h => hsecond h.2]
      · rw [if_pos hfirst, if_neg fun h => hfirst h.1]

end Inside

/-! ### A block that comes back -/

/-- The block of some parameters, with user information behind it, is parsed to the parameters,
    and what it does not take is the user information. -/
def Recovers (params : SnrmParams) (userInformation : Bytes) : Prop :=
  ∃ consumed,
    parseSnrmInfoFieldAt (encodeSnrmNegotiationBlock params ++ userInformation) =
      some (.ok (params, consumed)) ∧
    (encodeSnrmNegotiationBlock params ++ userInformation).drop consumed = userInformation

/-- Sizes of two octets and windows of one come back, and no others. -/
theorem recovers_iff (params : SnrmParams) (userInformation : Bytes) :
    Recovers params userInformation ↔
      params.maxInfoTx < 65536 ∧ params.maxInfoRx < 65536 ∧
        params.windowTx < 256 ∧ params.windowRx < 256 := by
  have hsent : sentParams params = params ↔
      params.maxInfoTx < 65536 ∧ params.maxInfoRx < 65536 ∧
        params.windowTx < 256 ∧ params.windowRx < 256 := by
    rcases params with ⟨maxInfoTx, maxInfoRx, windowTx, windowRx⟩
    simp only [sentParams, SnrmParams.mk.injEq]
    omega
  rw [← hsent]
  unfold Recovers
  rw [parseSnrmInfoFieldAt_eq, parseSnrmInfoField_block]
  simp only [Option.some.injEq, Except.ok.injEq, Prod.mk.injEq]
  constructor
  · rintro ⟨consumed, ⟨hparams, -⟩, -⟩
    exact hparams
  · intro hparams
    exact ⟨23, ⟨hparams, rfl⟩, rfl⟩

/-- The windows of a session are octets, so that the blocks that it encodes, for a SNRM or for the
    answer to one, have no others. -/
theorem windows_lt (client : HdlcSession) (proposed : SnrmParams)
    (own : HdlcSessionNegotiationLimits) :
    ((ownParams client).windowTx < 256 ∧ (ownParams client).windowRx < 256) ∧
      (negotiateParams proposed own).windowTx < 256 ∧
        (negotiateParams proposed own).windowRx < 256 := by
  have htransmit := own.windowSizeTransmit.toNat_lt
  have hreceive := own.windowSizeReceive.toNat_lt
  exact ⟨⟨UInt8.toNat_lt _, UInt8.toNat_lt _⟩,
    Nat.lt_of_le_of_lt (Nat.min_le_right _ _) hreceive,
    Nat.lt_of_le_of_lt (Nat.min_le_right _ _) htransmit⟩

/-- A block comes back with the octets behind it exactly when its sizes have two octets and its
    windows one, as those of a session have; and whatever octets it is given, the parser ends and
    reads inside of them. -/
theorem parseSnrmInfoFieldAt_block :
    (∀ params userInformation, Recovers params userInformation ↔
      params.maxInfoTx < 65536 ∧ params.maxInfoRx < 65536 ∧
        params.windowTx < 256 ∧ params.windowRx < 256) ∧
    (∀ client proposed own,
      ((ownParams client).windowTx < 256 ∧ (ownParams client).windowRx < 256) ∧
        (negotiateParams proposed own).windowTx < 256 ∧
          (negotiateParams proposed own).windowRx < 256) ∧
    ∀ data, parseSnrmInfoFieldAt data = some (parseSnrmInfoField data) :=
  ⟨recovers_iff, windows_lt, parseSnrmInfoFieldAt_eq⟩

/-- A window of 256 is encoded as zero. -/
theorem not_recovers_window :
    ¬∀ (params : SnrmParams) (userInformation : Bytes),
      params.maxInfoTx < 65536 → params.maxInfoRx < 65536 → params.windowTx < 65536 →
        params.windowRx < 65536 → Recovers params userInformation := by
  intro hall
  have hrecovers := hall { defaultSnrmParams with windowTx := 256 } [] (by decide) (by decide)
    (by decide) (by decide)
  exact absurd ((recovers_iff _ _).mp hrecovers).2.2.1 (by decide)

end Hdlc

end Dlms
