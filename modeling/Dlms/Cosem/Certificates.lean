import Dlms.Cosem.DataItems
import Dlms.Machine.Run
import Mathlib.Data.List.Pairwise

/-!
# Certificates of the security setup object

The object keeps its certificates in a store. A store has its entries in a list and
identifies an entry by the entity that holds the certificate, the type of its use and the
system title of the entity. An import with the same three values takes the place of the
entry that has them. Export and removal name an entry by these values, or by its serial
number and issuer.

The method that imports a certificate is given its octets and nothing else, and it does not
look into them. So all entries that it makes are for the same entity, type and title, and
each import takes the place of the one before it.

## Main definitions

* `InMemoryCosemCertificateStore`: The store, with no two entries for the same holder.
* `CertificateObject`, `CertificateCall`, `invokeMethod`: The object and its three methods.
* `Watched`, `watchedStep`: The object with the certificates it has been given.
* `KeepsImported`: Every certificate it has been given is in the store.

## Theorems

* `distinct_putEntry`: An import keeps the holders distinct.
* `keepsImported_step_iff`: When a method call keeps the certificates.
* `certificatesKept_iff`: When a run does.
-/

namespace Dlms

namespace Cosem

open Codec
open Apdu (Bytes)
open Machine (Admits Transition run)

/-! ### Entries -/

def certificateEntityOther : UInt8 := 3

def certificateTypeOther : UInt8 := 3

def systemTitleSize : Nat := 8

structure CertificateInfoEntry where
  entity : UInt8
  type : UInt8
  systemTitle : Bytes
  serialNumber : Bytes := []
  issuer : Bytes := []
  subject : Bytes := []
  subjectAltName : Bytes := []
  rawCertificate : Bytes := []
  deriving DecidableEq

/-- The entries are for the same entity, the same use and the same title. -/
def SameHolder (entry other : CertificateInfoEntry) : Prop :=
  entry.entity = other.entity ∧ entry.type = other.type ∧ entry.systemTitle = other.systemTitle

instance (entry other : CertificateInfoEntry) : Decidable (SameHolder entry other) :=
  inferInstanceAs (Decidable (_ ∧ _ ∧ _))

/-- Put an entry in the place of the one for the same holder, or at the end. -/
def putEntry : List CertificateInfoEntry → CertificateInfoEntry → List CertificateInfoEntry
  | [], entry => [entry]
  | first :: rest, entry =>
      if SameHolder first entry then entry :: rest else first :: putEntry rest entry

theorem SameHolder.symm (entry other : CertificateInfoEntry) (h : SameHolder entry other) :
    SameHolder other entry :=
  ⟨h.1.symm, h.2.1.symm, h.2.2.symm⟩

theorem SameHolder.trans (entry other third : CertificateInfoEntry) (h : SameHolder entry other)
    (h' : SameHolder other third) : SameHolder entry third :=
  ⟨h.1.trans h'.1, h.2.1.trans h'.2.1, h.2.2.trans h'.2.2⟩

/-- What is in the list afterwards. -/
theorem mem_putEntry_of_mem (entries : List CertificateInfoEntry)
    (entry other : CertificateInfoEntry) (h : other ∈ putEntry entries entry) :
    other = entry ∨ other ∈ entries := by
  induction entries with
  | nil => exact Or.inl (List.mem_singleton.mp h)
  | cons first rest ih =>
      by_cases hsame : SameHolder first entry
      · rw [putEntry, if_pos hsame] at h
        exact (List.mem_cons.mp h).imp id (List.mem_cons_of_mem first)
      · rw [putEntry, if_neg hsame] at h
        rcases List.mem_cons.mp h with rfl | hrest
        · exact Or.inr List.mem_cons_self
        · exact (ih hrest).imp id (List.mem_cons_of_mem first)

theorem mem_putEntry_self (entries : List CertificateInfoEntry) (entry : CertificateInfoEntry) :
    entry ∈ putEntry entries entry := by
  induction entries with
  | nil => exact List.mem_singleton.mpr rfl
  | cons first rest ih =>
      rw [putEntry]
      split_ifs
      · exact List.mem_cons_self
      · exact List.mem_cons_of_mem first ih

/-- An import keeps the holders distinct. The induction is on the list: behind the entry that
    is replaced there is none for its holder. -/
theorem distinct_putEntry (entries : List CertificateInfoEntry) (entry : CertificateInfoEntry)
    (h : entries.Pairwise fun first second => ¬SameHolder first second) :
    (putEntry entries entry).Pairwise fun first second => ¬SameHolder first second := by
  induction entries with
  | nil => exact List.pairwise_singleton _ _
  | cons first rest ih =>
      rw [List.pairwise_cons] at h
      by_cases hsame : SameHolder first entry
      · rw [putEntry, if_pos hsame, List.pairwise_cons]
        -- The new entry stands where the old one did, and has the same holder.
        exact ⟨fun other hother hentry =>
          h.1 other hother (SameHolder.trans _ _ _ hsame hentry), h.2⟩
      -- The first entry is for another holder, so it stays apart from the new one as well.
      · rw [putEntry, if_neg hsame, List.pairwise_cons]
        refine ⟨fun other hother hfirst => ?_, ih h.2⟩
        rcases mem_putEntry_of_mem rest entry other hother with rfl | hrest
        · exact hsame hfirst
        · exact h.1 other hrest hfirst

/-! ### The store -/

/-- How an entry is named: by its holder, or by its number and issuer. -/
inductive CertificateSelector where
  | byEntity (entity type : UInt8) (systemTitle : Bytes)
  | bySerial (serialNumber issuer : Bytes)

/-- The entry has the values of the selector. -/
def CertificateSelector.names : CertificateSelector → CertificateInfoEntry → Bool
  | byEntity entity type systemTitle, entry =>
      entry.entity == entity && entry.type == type && entry.systemTitle == systemTitle
  | bySerial serialNumber issuer, entry =>
      entry.serialNumber == serialNumber && entry.issuer == issuer

/-- The store in memory. No two of its entries are for the same holder. -/
structure InMemoryCosemCertificateStore where
  entries : List CertificateInfoEntry
  distinct : entries.Pairwise fun first second => ¬SameHolder first second

namespace InMemoryCosemCertificateStore

def empty : InMemoryCosemCertificateStore := ⟨[], .nil⟩

variable (store : InMemoryCosemCertificateStore)

def importEntry (entry : CertificateInfoEntry) : InMemoryCosemCertificateStore :=
  ⟨putEntry store.entries entry, distinct_putEntry _ _ store.distinct⟩

/-- The certificate of the first entry that is chosen. -/
def exportFirst (chosen : CertificateInfoEntry → Bool) : Except CosemStatus Bytes :=
  match store.entries.find? chosen with
  | some entry => .ok entry.rawCertificate
  | none => .error .objectError

/-- The first entry that is chosen is taken out. -/
def removeFirst (chosen : CertificateInfoEntry → Bool) :
    Except CosemStatus InMemoryCosemCertificateStore :=
  if store.entries.any chosen then
    .ok ⟨store.entries.eraseP chosen, store.distinct.sublist List.eraseP_sublist⟩
  else .error .objectError

def exportByEntity (entity type : UInt8) (systemTitle : Bytes) : Except CosemStatus Bytes :=
  store.exportFirst (CertificateSelector.byEntity entity type systemTitle).names

def exportBySerial (serialNumber issuer : Bytes) : Except CosemStatus Bytes :=
  store.exportFirst (CertificateSelector.bySerial serialNumber issuer).names

def removeByEntity (entity type : UInt8) (systemTitle : Bytes) :
    Except CosemStatus InMemoryCosemCertificateStore :=
  store.removeFirst (CertificateSelector.byEntity entity type systemTitle).names

def removeBySerial (serialNumber issuer : Bytes) :
    Except CosemStatus InMemoryCosemCertificateStore :=
  store.removeFirst (CertificateSelector.bySerial serialNumber issuer).names

/-- The export that a selector asks for. -/
def exportSelected : CertificateSelector → Except CosemStatus Bytes
  | .byEntity entity type systemTitle => store.exportByEntity entity type systemTitle
  | .bySerial serialNumber issuer => store.exportBySerial serialNumber issuer

/-- The removal that a selector asks for. -/
def removeSelected :
    CertificateSelector → Except CosemStatus InMemoryCosemCertificateStore
  | .byEntity entity type systemTitle => store.removeByEntity entity type systemTitle
  | .bySerial serialNumber issuer => store.removeBySerial serialNumber issuer

theorem removeSelected_eq (selector : CertificateSelector) :
    store.removeSelected selector = store.removeFirst selector.names := by
  cases selector <;> rfl

end InMemoryCosemCertificateStore

/-! ### The methods -/

/-- What stands behind the header of a selector of a kind. -/
def readSelectorPayload (kind : UInt8) (selectorFields : Nat) : DataReader CertificateSelector :=
  if kind = 0 then
    if selectorFields ≠ 3 then refuse
    else do
      let entity ← readEnumValue
      let type ← readEnumValue
      let systemTitle ← readSizedOctetString systemTitleSize
      pure (.byEntity entity type systemTitle)
  else if kind = 1 then
    if selectorFields ≠ 2 then refuse
    else do
      let serialNumber ← readBufferOctetString
      let issuer ← readBufferOctetString
      pure (.bySerial serialNumber issuer)
  else refuse

def readCertificateSelector : DataReader CertificateSelector := do
  readStructureHeader 2
  let kind ← readEnumValue
  readExpectedTag structureTag
  let selectorFields ← readLength
  readSelectorPayload kind selectorFields

/-- The entry of a certificate that is imported: nothing is known but its octets. -/
def importedEntry (rawCertificate : Bytes) : CertificateInfoEntry where
  entity := certificateEntityOther
  type := certificateTypeOther
  systemTitle := List.replicate systemTitleSize 0
  rawCertificate := rawCertificate

/-- The part of a security setup object that its certificates are about. -/
structure CertificateObject where
  version : UInt8
  certificateStore : Option InMemoryCosemCertificateStore

/-- Methods 6, 7 and 8. -/
inductive CertificateMethod where
  | importCertificate
  | exportCertificate
  | removeCertificate
  deriving DecidableEq

/-- One of the three methods, and its input. -/
structure CertificateCall where
  method : CertificateMethod
  input : Bytes
  deriving DecidableEq

/-- A status of the store is the status of the method. -/
def storeStatus {α : Type} (result : Except CosemStatus α) : Except WriteFailure α :=
  result.mapError .status

/-- What a method does with the store: its output, and the store afterwards. -/
def invokeStoreMethod (call : CertificateCall) (store : InMemoryCosemCertificateStore) :
    Except WriteFailure (Bytes × InMemoryCosemCertificateStore) :=
  match call.method with
  | .importCertificate => do
      let rawCertificate ← decodePayload readBufferOctetString call.input
      pure ([], store.importEntry (importedEntry rawCertificate))
  | .exportCertificate => do
      let selector ← decodePayload readCertificateSelector call.input
      let rawCertificate ← storeStatus (store.exportSelected selector)
      pure (appendOctetString rawCertificate, store)
  | .removeCertificate => do
      let selector ← decodePayload readCertificateSelector call.input
      let store ← storeStatus (store.removeSelected selector)
      pure ([], store)

/-- A method call: what it returns, and the object afterwards. -/
def invokeMethod (call : CertificateCall) (object : CertificateObject) :
    Except WriteFailure Bytes × CertificateObject :=
  if object.version < 1 then (.error (.status .methodNotFound), object)
  else
    match object.certificateStore with
    | none => (.error (.status .unsupportedFeature), object)
    | some store =>
        match invokeStoreMethod call store with
        | .error failure => (.error failure, object)
        | .ok (output, store) => (.ok output, { object with certificateStore := some store })

/-- The entries of the store. -/
def CertificateObject.listed (object : CertificateObject) : List CertificateInfoEntry :=
  match object.certificateStore with
  | none => []
  | some store => store.entries

/-! ### The certificates that were given -/

/-- The object, and the certificates whose import succeeded and that no removal has named
    with success since. -/
structure Watched where
  object : CertificateObject
  imported : List Bytes

/-- What a call that succeeds does to these certificates. -/
def importedAfter (call : CertificateCall) (imported : List Bytes) : List Bytes :=
  match call.method with
  | .importCertificate =>
      match decodePayload readBufferOctetString call.input with
      | .ok rawCertificate => rawCertificate :: imported
      | .error _ => imported
  | .exportCertificate => imported
  | .removeCertificate =>
      match decodePayload readCertificateSelector call.input with
      | .ok selector => imported.filter fun raw => !selector.names (importedEntry raw)
      | .error _ => imported

def watchedStep (call : CertificateCall) (state : Watched) :
    Except WriteFailure Bytes × Watched :=
  match invokeMethod call state.object with
  | (.error failure, object) => (.error failure, { state with object })
  | (.ok output, object) =>
      (.ok output, { object, imported := importedAfter call state.imported })

/-- Every certificate that was given and not removed is in the list of the store. -/
def KeepsImported (state : Watched) : Prop :=
  ∀ raw ∈ state.imported, importedEntry raw ∈ state.object.listed

/-- The call imports no certificate next to a different one. -/
def NoOtherImport (state : Watched) (call : CertificateCall) : Prop :=
  call.method = .importCertificate → ∀ raw,
    decodePayload readBufferOctetString call.input = .ok raw → ∀ other ∈ state.imported, other = raw

/-- Certificates have been given to an object with a store only. -/
def GivenToStore (state : Watched) : Prop :=
  state.imported = [] ∨ ¬state.object.version < 1 ∧ state.object.certificateStore ≠ none

/-! ### One call -/

theorem importedEntry_injective (raw other : Bytes) (h : importedEntry raw = importedEntry other) :
    raw = other :=
  congrArg CertificateInfoEntry.rawCertificate h

/-- All entries that the method makes are for the same holder. -/
theorem sameHolder_importedEntry (raw other : Bytes) :
    SameHolder (importedEntry raw) (importedEntry other) :=
  ⟨rfl, rfl, rfl⟩

/-- So the store has one of them at most. -/
theorem eq_of_mem_importedEntry (store : InMemoryCosemCertificateStore) (raw other : Bytes)
    (h : importedEntry raw ∈ store.entries) (h' : importedEntry other ∈ store.entries) :
    raw = other := by
  have hsymm : Std.Symm fun first second => ¬SameHolder first second :=
    ⟨fun _ _ hne hsame => hne (SameHolder.symm _ _ hsame)⟩
  -- Two of them would be entries for one holder.
  by_contra hne
  have hentries : importedEntry raw ≠ importedEntry other :=
    fun heq => hne (importedEntry_injective raw other heq)
  exact store.distinct.forall h h' hentries (sameHolder_importedEntry raw other)

theorem watchedStep_of_detached (call : CertificateCall) (state : Watched)
    (h : state.object.version < 1 ∨ state.object.certificateStore = none) :
    (watchedStep call state).2 = state := by
  by_cases hversion : state.object.version < 1
  · rw [watchedStep, invokeMethod, if_pos hversion]
  · rw [watchedStep, invokeMethod, if_neg hversion, h.resolve_left hversion]

/-- With a store, the state afterwards is what the method makes of the store. -/
theorem watchedStep_of_attached (call : CertificateCall) (state : Watched)
    (store : InMemoryCosemCertificateStore) (hversion : ¬state.object.version < 1)
    (hstore : state.object.certificateStore = some store) :
    (watchedStep call state).2 =
      match invokeStoreMethod call store with
      | .error _ => state
      | .ok (_, store) =>
          { object := { state.object with certificateStore := some store }
            imported := importedAfter call state.imported } := by
  rw [watchedStep, invokeMethod, if_neg hversion, hstore]
  dsimp only
  rcases invokeStoreMethod call store with failure | ⟨output, store'⟩
  · rfl
  · rfl

theorem givenToStore_step (call : CertificateCall) (state : Watched) (h : GivenToStore state) :
    GivenToStore (watchedStep call state).2 := by
  by_cases hversion : state.object.version < 1
  · rwa [watchedStep_of_detached call state (Or.inl hversion)]
  cases hstore : state.object.certificateStore with
  | none => rwa [watchedStep_of_detached call state (Or.inr hstore)]
  | some store =>
      rw [watchedStep_of_attached call state store hversion hstore]
      rcases invokeStoreMethod call store with failure | ⟨output, store'⟩
      · exact h
      -- A method that succeeds leaves a store behind.
      · exact Or.inr ⟨hversion, Option.some_ne_none store'⟩

/-- An import puts its certificate into the store, and every other one that was given is gone. -/
theorem keepsImported_import_iff (object : CertificateObject)
    (store : InMemoryCosemCertificateStore) (raw : Bytes) (imported : List Bytes) :
    KeepsImported
        { object := { object with certificateStore := some (store.importEntry (importedEntry raw)) }
          imported := raw :: imported } ↔
      ∀ other ∈ imported, other = raw := by
  have hself : importedEntry raw ∈ (store.importEntry (importedEntry raw)).entries :=
    mem_putEntry_self _ _
  constructor
  · intro h other hother
    exact eq_of_mem_importedEntry _ _ _ (h other (List.mem_cons_of_mem raw hother)) hself
  · intro h other hother
    rcases List.mem_cons.mp hother with rfl | hrest
    · exact hself
    · rw [h other hrest]
      exact hself

/-- A removal leaves the certificates that it does not name. -/
theorem keepsImported_remove (state : Watched) (store store' : InMemoryCosemCertificateStore)
    (selector : CertificateSelector) (hstore : state.object.certificateStore = some store)
    (hremoved : store.removeSelected selector = .ok store') (h : KeepsImported state) :
    KeepsImported
      { object := { state.object with certificateStore := some store' }
        imported := state.imported.filter fun raw => !selector.names (importedEntry raw) } := by
  intro raw hraw
  rw [List.mem_filter] at hraw
  have hlisted := h raw hraw.1
  rw [CertificateObject.listed, hstore] at hlisted
  rw [store.removeSelected_eq, InMemoryCosemCertificateStore.removeFirst] at hremoved
  split_ifs at hremoved with hany
  rw [← Except.ok.inj hremoved]
  -- The entry is not one that the removal was for, so it is not the one taken out.
  have hother : ¬selector.names (importedEntry raw) = true := by
    have hnot := hraw.2
    simp only [Bool.not_eq_true'] at hnot
    rw [hnot]
    exact Bool.false_ne_true
  exact (List.mem_eraseP_of_neg hother).mpr hlisted

theorem store_of_export (store store' : InMemoryCosemCertificateStore) (input output : Bytes)
    (h : invokeStoreMethod ⟨.exportCertificate, input⟩ store = .ok (output, store')) :
    store' = store := by
  simp only [invokeStoreMethod, bind, Except.bind] at h
  split at h
  · cases h
  · split at h
    · cases h
    · exact (Prod.mk.inj (Except.ok.inj h)).2.symm

theorem store_of_remove (store store' : InMemoryCosemCertificateStore) (input output : Bytes)
    (h : invokeStoreMethod ⟨.removeCertificate, input⟩ store = .ok (output, store')) :
    ∃ selector, decodePayload readCertificateSelector input = .ok selector ∧
      store.removeSelected selector = .ok store' := by
  simp only [invokeStoreMethod, bind, Except.bind] at h
  cases hselector : decodePayload readCertificateSelector input with
  | error failure =>
      rw [hselector] at h
      cases h
  | ok selector =>
      simp only [hselector] at h
      cases hremoved : store.removeSelected selector with
      | error status =>
          simp [hremoved, storeStatus, Except.mapError] at h
      | ok removed =>
          simp only [hremoved, storeStatus, Except.mapError] at h
          rw [(Prod.mk.inj (Except.ok.inj h)).2] at hremoved
          exact ⟨selector, rfl, hremoved⟩

/-- A call keeps the certificates exactly when it does not import one next to a different
    one. -/
theorem keepsImported_step_iff (call : CertificateCall) (state : Watched)
    (hgiven : GivenToStore state) (h : KeepsImported state) :
    KeepsImported (watchedStep call state).2 ↔ NoOtherImport state call := by
  by_cases hdetached : state.object.version < 1 ∨ state.object.certificateStore = none
  · -- Nothing was given, and nothing changes.
    rw [watchedStep_of_detached call state hdetached]
    refine ⟨fun _ _ raw _ other hother => ?_, fun _ => h⟩
    rcases hgiven with hnone | ⟨hversion, hstore⟩
    · rw [hnone] at hother
      exact absurd hother List.not_mem_nil
    · exact absurd hdetached (not_or.mpr ⟨hversion, hstore⟩)
  rw [not_or] at hdetached
  rcases Option.ne_none_iff_exists'.mp hdetached.2 with ⟨store, hstore⟩
  rw [watchedStep_of_attached call state store hdetached.1 hstore]
  -- What is left is what each of the methods does with the store.
  rcases call with ⟨method, input⟩
  cases method with
  | importCertificate =>
      cases hraw : decodePayload readBufferOctetString input with
      | error failure =>
          simp only [invokeStoreMethod, hraw, bind, Except.bind, NoOtherImport, reduceCtorEq,
            IsEmpty.forall_iff, implies_true, iff_true]
          exact h
      | ok raw =>
          simp only [invokeStoreMethod, hraw, bind, Except.bind, pure, Except.pure, importedAfter]
          -- The import itself: what was there has to be the same certificate.
          rw [keepsImported_import_iff]
          simp [NoOtherImport, hraw, forall_eq']
  | exportCertificate =>
      have hallowed : NoOtherImport state ⟨.exportCertificate, input⟩ :=
        fun hmethod => absurd hmethod nofun
      refine ⟨fun _ => hallowed, fun _ => ?_⟩
      rcases hout : invokeStoreMethod ⟨.exportCertificate, input⟩ store with
        failure | ⟨output, store'⟩
      · exact h
      -- An export changes nothing, neither the store nor what was given.
      · rw [store_of_export store store' input output hout]
        intro raw hraw
        have hlisted := h raw hraw
        rwa [CertificateObject.listed, hstore] at hlisted
  | removeCertificate =>
      have hallowed : NoOtherImport state ⟨.removeCertificate, input⟩ :=
        fun hmethod => absurd hmethod nofun
      refine ⟨fun _ => hallowed, fun _ => ?_⟩
      rcases hout : invokeStoreMethod ⟨.removeCertificate, input⟩ store with
        failure | ⟨output, store'⟩
      · exact h
      · rcases store_of_remove store store' input output hout with ⟨selector, hselector, hremoved⟩
        simp only [importedAfter, hselector]
        exact keepsImported_remove state store store' selector hstore hremoved h

/-! ### Runs -/

/-- In a run from any store, every certificate stays in the list from its import to a removal
    that names it, exactly when no import comes while a different certificate is there. -/
theorem certificatesKept_iff (object : CertificateObject) (calls : List CertificateCall) :
    (∀ t ∈ run watchedStep calls ⟨object, []⟩, KeepsImported t.after) ↔
      Admits watchedStep (fun _ state call => NoOtherImport state call) [] calls ⟨object, []⟩ :=
  Machine.forall_after_iff_admits watchedStep GivenToStore KeepsImported NoOtherImport
    (fun state call hgiven => givenToStore_step call state hgiven)
    (fun state call hgiven h => keepsImported_step_iff call state hgiven h) calls [] ⟨object, []⟩
    (Or.inl rfl) fun _ hraw => absurd hraw List.not_mem_nil

/-- An object with an empty store. -/
def newCertificateObject : CertificateObject := ⟨1, some InMemoryCosemCertificateStore.empty⟩

def importCall (raw : Bytes) : CertificateCall := ⟨.importCertificate, appendOctetString raw⟩

/-- The second import takes the place of the first certificate. -/
theorem not_certificatesKept_twoImports :
    ¬∀ t ∈ run watchedStep [importCall [0x01], importCall [0x02]] ⟨newCertificateObject, []⟩,
      KeepsImported t.after := by
  intro h
  have hlost := h _ (List.mem_cons_of_mem _ List.mem_cons_self) [0x01]
    (List.mem_cons_of_mem _ List.mem_cons_self)
  exact absurd hlost (by decide)

end Cosem

end Dlms
