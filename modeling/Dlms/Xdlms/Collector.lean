import Dlms.Xdlms.SetTransfer

/-!
# Collecting the blocks of a value

What a server does with the datablocks of a SET or of an ACTION, without the
service around it. A collector is opened by a first block, takes the blocks
that carry the next number and the invoke id of the first, and delivers the
bytes of all of them with the last one. Everything else closes it.

The server may refuse a block for reasons of its own, so that one step is a
relation. Next to the collector runs what a listener would have written down,
the blocks received since the last first block, and `Assembled` says what the
two have to do with each other. A delivery then carries these blocks and
nothing else.

## Main definitions

* `BlockEvent`, `Received`: A datablock, and the datablocks since a first one.
* `Consecutive`: Blocks in the order of their numbers, the last one alone
  marked last.
* `Collector`, `Takes`: The collector and its step.
* `Assembled`: What a collector has in hand is what was received.
* `Complete`: What a delivery is.

## Theorems

* `consecutive_concat`: One more block in order.
* `assembled_of_takes`: A step keeps the bytes in order.
* `complete_of_takes`: A delivery is what was received.
-/

namespace Dlms

namespace Xdlms

open Apdu (Bytes DataBlock)

/-! ### Blocks in order -/

/-- The bytes of the blocks, one after the other. -/
def rawDataOf (blocks : List DataBlock) : Bytes := (blocks.map (·.rawData)).flatten

theorem rawDataOf_concat (blocks : List DataBlock) (block : DataBlock) :
    rawDataOf (blocks ++ [block]) = rawDataOf blocks ++ block.rawData := by
  simp [rawDataOf, List.flatten_append]

/-- Blocks with the numbers one, two and so on, as far as a number of 32 bits
    counts, and no block marked last before the last. -/
structure Consecutive (blocks : List DataBlock) : Prop where
  numbers : blocks.map (·.blockNumber) = (List.range blocks.length).map blockNumber
  marks : ∀ block ∈ blocks.dropLast, block.lastBlock = false

theorem consecutive_nil : Consecutive [] where
  numbers := rfl
  marks := fun _ h => absurd h List.not_mem_nil

/-- Blocks in order of which none is the last go on with the next number. -/
theorem consecutive_concat (blocks : List DataBlock) (block : DataBlock)
    (h : Consecutive blocks) (hmore : ∀ earlier ∈ blocks, earlier.lastBlock = false)
    (hnumber : block.blockNumber = blockNumber blocks.length) :
    Consecutive (blocks ++ [block]) where
  numbers := by
    rw [List.map_append, h.numbers, List.length_append, List.length_singleton, List.range_succ,
      List.map_append]
    simp [hnumber]
  marks := by
    rw [List.dropLast_concat]
    exact hmore

/-! ### What is received -/

section Collect

variable {ξ : Type}

/-- A datablock of a request: one that opens a transfer to a descriptor, or one
    that follows. -/
inductive BlockEvent (ξ : Type) where
  | first (descriptor : ξ) (invokeId : UInt8) (block : DataBlock)
  | following (invokeId : UInt8) (block : DataBlock)
  deriving Repr

/-- The datablocks since a first one, each with the invoke id it came with. -/
structure Received (ξ : Type) where
  descriptor : ξ
  datablocks : List (UInt8 × DataBlock)
  deriving Repr

namespace Received

def blocks (received : Received ξ) : List DataBlock := received.datablocks.map Prod.snd

def extend : Option (Received ξ) → BlockEvent ξ → Option (Received ξ)
  | _, .first descriptor invokeId block => some ⟨descriptor, [(invokeId, block)]⟩
  | none, .following _ _ => none
  | some received, .following invokeId block =>
      some { received with datablocks := received.datablocks ++ [(invokeId, block)] }

/-- What was received since the last first block of a list of events. -/
def since (events : List (BlockEvent ξ)) : Option (Received ξ) := events.foldl extend none

theorem since_concat (events : List (BlockEvent ξ)) (event : BlockEvent ξ) :
    since (events ++ [event]) = extend (since events) event := by
  rw [since, List.foldl_append]
  rfl

/-- The same of the events of a history that grows by one. -/
theorem since_filterMap_concat {τ : Type} (eventOf : τ → Option (BlockEvent ξ)) (history : List τ)
    (t : τ) : since ((history ++ [t]).filterMap eventOf) =
      (eventOf t).elim (since (history.filterMap eventOf))
        (extend (since (history.filterMap eventOf))) := by
  rw [List.filterMap_append]
  cases hevent : eventOf t with
  | none =>
      simp [hevent, Option.elim_none]
  | some event =>
      simp [hevent, since_concat, Option.elim_some]

end Received

/-- A value that is handed on. -/
structure Delivery (ξ : Type) where
  descriptor : ξ
  invokeId : UInt8
  data : Bytes

/-- The delivery carries exactly the blocks received: all with its invoke id, in
    the order of their numbers and up to one that is marked last, and no more
    bytes than the limit. -/
structure Complete (limit : Nat) (received : Received ξ) (delivery : Delivery ξ) : Prop where
  descriptor : delivery.descriptor = received.descriptor
  invokeIds : ∀ datablock ∈ received.datablocks, datablock.1 = delivery.invokeId
  consecutive : Consecutive received.blocks
  ended : ∃ block, received.blocks.getLast? = some block ∧ block.lastBlock = true
  data : delivery.data = rawDataOf received.blocks
  bounded : delivery.data.length ≤ limit

/-! ### The collector -/

/-- The blocks of one transfer, put together so far. -/
structure Collector (ξ : Type) where
  active : Bool
  invokeId : UInt8
  limit : Nat
  descriptor : ξ
  nextBlockNumber : UInt32
  data : Bytes

/-- What a collector may do with a datablock, or without one, and what it hands
    on then. -/
inductive Takes (limit : Nat) :
    Option (BlockEvent ξ) → Collector ξ → Collector ξ → Option (Delivery ξ) → Prop
  | same (before after : Collector ξ) (h : after = before) : Takes limit none before after none
  | refused (event : BlockEvent ξ) (before after : Collector ξ) (h : after.active = false) :
      Takes limit (some event) before after none
  | opened (descriptor : ξ) (invokeId : UInt8) (block : DataBlock) (before after : Collector ξ)
      (hnumber : block.blockNumber = 1) (hmore : block.lastBlock = false)
      (hsize : block.rawData.length ≤ limit)
      (h : after = ⟨true, invokeId, limit, descriptor, 2, block.rawData⟩) :
      Takes limit (some (.first descriptor invokeId block)) before after none
  | only (descriptor : ξ) (invokeId : UInt8) (block : DataBlock) (before after : Collector ξ)
      (hnumber : block.blockNumber = 1) (hlast : block.lastBlock = true)
      (hsize : block.rawData.length ≤ limit) (h : after.active = false) :
      Takes limit (some (.first descriptor invokeId block)) before after
        (some ⟨descriptor, invokeId, block.rawData⟩)
  | continued (block : DataBlock) (before after : Collector ξ) (hactive : before.active = true)
      (hnumber : block.blockNumber = before.nextBlockNumber) (hmore : block.lastBlock = false)
      (hsize : before.data.length + block.rawData.length ≤ before.limit)
      (h : after = { before with
        data := before.data ++ block.rawData
        nextBlockNumber := before.nextBlockNumber + 1 }) :
      Takes limit (some (.following before.invokeId block)) before after none
  | completed (block : DataBlock) (before after : Collector ξ) (hactive : before.active = true)
      (hnumber : block.blockNumber = before.nextBlockNumber) (hlast : block.lastBlock = true)
      (hsize : before.data.length + block.rawData.length ≤ before.limit)
      (h : after.active = false) :
      Takes limit (some (.following before.invokeId block)) before after
        (some ⟨before.descriptor, before.invokeId, before.data ++ block.rawData⟩)

/-- A collector that is open has in hand what was received since the last first
    block, and waits for the next number. -/
structure Assembled (limit : Nat) (received : Received ξ) (collector : Collector ξ) : Prop where
  limit : collector.limit = limit
  descriptor : collector.descriptor = received.descriptor
  invokeIds : ∀ datablock ∈ received.datablocks, datablock.1 = collector.invokeId
  consecutive : Consecutive received.blocks
  more : ∀ block ∈ received.blocks, block.lastBlock = false
  nextBlockNumber : collector.nextBlockNumber = blockNumber received.blocks.length
  data : collector.data = rawDataOf received.blocks

/-- The same of what may be there. -/
def AssembledSince (limit : Nat) (received : Option (Received ξ)) (collector : Collector ξ) :
    Prop :=
  collector.active = true →
    ∃ transfer, received = some transfer ∧ Assembled limit transfer collector

section Steps

variable (limit : Nat) (received : Received ξ) (block : DataBlock)

theorem consecutive_singleton (hnumber : block.blockNumber = 1) : Consecutive [block] :=
  consecutive_concat [] block consecutive_nil (fun _ h => absurd h List.not_mem_nil) hnumber

/-- A first block that is not the last opens the collector with its bytes. -/
theorem assembled_of_opened (descriptor : ξ) (invokeId : UInt8) (hnumber : block.blockNumber = 1)
    (hmore : block.lastBlock = false) :
    Assembled limit ⟨descriptor, [(invokeId, block)]⟩
      ⟨true, invokeId, limit, descriptor, 2, block.rawData⟩ where
  limit := rfl
  descriptor := rfl
  invokeIds := fun datablock h => by rw [List.mem_singleton.mp h]
  consecutive := consecutive_singleton block hnumber
  more := fun earlier h => by rw [List.mem_singleton.mp h]; exact hmore
  nextBlockNumber := rfl
  data := (List.append_nil _).symm

variable (collector : Collector ξ) (h : Assembled limit received collector)
include h

/-- A block is taken under the invoke id of those before it. -/
theorem invokeIds_of_following :
    ∀ datablock ∈ received.datablocks ++ [(collector.invokeId, block)],
      datablock.1 = collector.invokeId := by
  intro datablock hmem
  rcases List.mem_append.mp hmem with hearlier | hthis
  · exact h.invokeIds datablock hearlier
  · rw [List.mem_singleton.mp hthis]

/-- The next block adds its bytes to the others. -/
theorem data_of_following :
    collector.data ++ block.rawData = rawDataOf ({ received with
      datablocks :=
        received.datablocks ++ [(collector.invokeId, block)] } : Received ξ).blocks := by
  rw [Received.blocks, List.map_append]
  simp only [List.map_cons, List.map_nil, rawDataOf_concat, h.data]
  rfl

variable (hnumber : block.blockNumber = collector.nextBlockNumber)
include hnumber

theorem consecutive_of_following :
    Consecutive ({ received with
      datablocks :=
        received.datablocks ++ [(collector.invokeId, block)] } : Received ξ).blocks := by
  rw [h.nextBlockNumber] at hnumber
  rw [Received.blocks, List.map_append]
  exact consecutive_concat received.blocks block h.consecutive h.more hnumber

/-- A block that is not the last leaves the collector waiting for more. -/
theorem assembled_of_continued (hmore : block.lastBlock = false) :
    Assembled limit
      { received with datablocks := received.datablocks ++ [(collector.invokeId, block)] }
      { collector with
        data := collector.data ++ block.rawData
        nextBlockNumber := collector.nextBlockNumber + 1 } where
  limit := h.limit
  descriptor := h.descriptor
  invokeIds := invokeIds_of_following limit received block collector h
  consecutive := consecutive_of_following limit received block collector h hnumber
  more := by
    intro earlier hmem
    rw [Received.blocks, List.map_append] at hmem
    rcases List.mem_append.mp hmem with hearlier | hthis
    · exact h.more earlier hearlier
    · rw [List.mem_singleton.mp hthis]
      exact hmore
  -- The numbers count the blocks from one on, and go round together with them.
  nextBlockNumber := by
    rw [h.nextBlockNumber, blockNumber_succ]
    simp [Received.blocks]
  data := data_of_following limit received block collector h

/-- The last block completes them. -/
theorem complete_of_completed (hlast : block.lastBlock = true)
    (hsize : collector.data.length + block.rawData.length ≤ collector.limit) :
    Complete limit
      { received with datablocks := received.datablocks ++ [(collector.invokeId, block)] }
      ⟨collector.descriptor, collector.invokeId, collector.data ++ block.rawData⟩ where
  descriptor := h.descriptor
  invokeIds := invokeIds_of_following limit received block collector h
  consecutive := consecutive_of_following limit received block collector h hnumber
  ended := by
    refine ⟨block, ?_, hlast⟩
    rw [Received.blocks, List.map_append]
    simp
  data := data_of_following limit received block collector h
  bounded := by
    rw [List.length_append, ← h.limit]
    exact hsize

end Steps

section Takes

variable (limit : Nat) (received : Option (Received ξ)) (event : Option (BlockEvent ξ))
  (before after : Collector ξ) (delivery : Option (Delivery ξ))
  (htakes : Takes limit event before after delivery)
  (h : AssembledSince limit received before)
include htakes h

/-- A step keeps the bytes of the collector those that were received. -/
theorem assembled_of_takes :
    AssembledSince limit (event.elim received (Received.extend received)) after := by
  intro hopen
  cases htakes with
  | same _ _ hsame =>
      rw [hsame] at hopen ⊢
      exact h hopen
  | refused _ _ _ hclosed => exact absurd (hopen.symm.trans hclosed) (by decide)
  | opened descriptor invokeId block _ _ hnumber hmore _ hafter =>
      rw [hafter]
      exact ⟨_, rfl, assembled_of_opened limit block descriptor invokeId hnumber hmore⟩
  | only _ _ _ _ _ _ _ _ hclosed => exact absurd (hopen.symm.trans hclosed) (by decide)
  | continued block _ _ hactive hnumber hmore _ hafter =>
      rcases h hactive with ⟨transfer, hreceived, hassembled⟩
      rw [hafter, hreceived]
      exact ⟨_, rfl, assembled_of_continued limit transfer block before hassembled hnumber hmore⟩
  | completed _ _ _ _ _ _ _ hclosed => exact absurd (hopen.symm.trans hclosed) (by decide)

/-- A step that delivers delivers what was received. -/
theorem complete_of_takes (delivered : Delivery ξ) (hdelivery : delivery = some delivered) :
    ∃ transfer, event.elim received (Received.extend received) = some transfer ∧
      Complete limit transfer delivered := by
  subst hdelivery
  cases htakes with
  | only descriptor invokeId block _ _ hnumber hlast hsize _ =>
      refine ⟨_, rfl, ?_⟩
      exact
        { descriptor := rfl
          invokeIds := fun datablock hmem => by rw [List.mem_singleton.mp hmem]
          consecutive := consecutive_singleton block hnumber
          ended := ⟨block, rfl, hlast⟩
          data := (List.append_nil _).symm
          bounded := hsize }
  | completed block _ _ hactive hnumber hlast hsize _ =>
      rcases h hactive with ⟨transfer, hreceived, hassembled⟩
      rw [hreceived]
      exact ⟨_, rfl, complete_of_completed limit transfer block before hassembled hnumber hlast
        hsize⟩

end Takes

end Collect

end Xdlms

end Dlms
