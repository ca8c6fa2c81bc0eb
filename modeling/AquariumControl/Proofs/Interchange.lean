import AquariumControl.Proofs.Files
import AquariumControl.Proofs.StoreCalls

/-!
# Media that can be exchanged

Two media that are maps from the same pairs and hold the same values cannot be told apart by calls,
nor by a store that is kept on one or the other.  For plain names this holds of a freshly mounted
card and an empty flash, although the one is a tree of files and the other a flat table.

* `Storage.Agree` — two such media; calls on both are answered alike and leave them so.
* `StoreEdit` — what changes a store, and `ConfigStore.edit_eq` — that each of these changes is one
  call to the medium or none.
* `ConfigStore.AnswersAlike` — every operation of two stores ends alike.
* `Card.answers_like_flash` — a card and flash, and stores on them, through any sequence of calls.
-/

set_option autoImplicit false

namespace AquariumControl

namespace Storage

variable {τ τ' : Type} [Storage τ] [Storage τ'] {Used : String → String → Prop} {m : τ} {m' : τ'}

/-- Both media are maps from these pairs, and they hold the same. -/
def Agree (Used : String → String → Prop) (m : τ) (m' : τ') : Prop :=
  ∃ (Good : τ → Prop) (value : τ → String → String → Option (List UInt8)) (Good' : τ' → Prop)
    (value' : τ' → String → String → Option (List UInt8)),
    Tells Used Good value ∧ Tells Used Good' value' ∧ Good m ∧ Good' m' ∧
      ∀ space key, Used space key → value m space key = value' m' space key

namespace Agree

variable (h : Agree Used m m')
include h

theorem answer {c : MediumCall} (hc : Used c.space c.key) :
    Storage.answer m c = Storage.answer m' c := by
  obtain ⟨Good, value, Good', value', htells, htells', hgood, hgood', hsame⟩ := h
  rw [htells.answer hgood hc, htells'.answer hgood' hc, hsame _ _ hc]

theorem next {c : MediumCall} (hc : Used c.space c.key) :
    Agree Used (Storage.next m c) (Storage.next m' c) := by
  obtain ⟨Good, value, Good', value', htells, htells', hgood, hgood', hsame⟩ := h
  refine ⟨Good, value, Good', value', htells, htells', htells.good hgood hc,
    htells'.good hgood' hc, fun space key hpair => ?_⟩
  rw [htells.value hgood hc hpair, htells'.value hgood' hc hpair, hsame space key hpair]

theorem read {space key : String} (hp : Used space key) (capacity : Nat) :
    (Storage.read m space key capacity).1 = (Storage.read m' space key capacity).1 :=
  MediumAnswer.found.inj (h.answer (c := .read space key capacity) hp)

theorem write {space key : String} (hp : Used space key) (bytes : List UInt8) :
    (Storage.write m space key bytes).answer = (Storage.write m' space key bytes).answer :=
  MediumAnswer.done.inj (h.answer (c := .write space key bytes) hp)

theorem delete {space key : String} (hp : Used space key) :
    (Storage.delete m space key).answer = (Storage.delete m' space key).answer :=
  MediumAnswer.done.inj (h.answer (c := .delete space key) hp)

end Agree

end Storage

/-! ## Keys of a store -/

theorem size_decimal : ∀ i : Fin 128, (toString i.val).utf8ByteSize ≤ 3 := by
  decide +kernel

/-- The keys of objects are plain, also that of an object without a place. -/
theorem Label.plainKey_text (l : Label) : PlainKey l.text := by
  obtain ⟨tag, id⟩ := l
  cases id with
  | unassigned =>
    rw [show text ⟨tag, .unassigned⟩ = "" from rfl]
    exact ⟨by decide, by decide, by decide, by decide⟩
  | slot i =>
    have hchars : ∀ ch ∈ (text ⟨tag, .slot i⟩).toList, ch.isAlphanum = true := by
      intro ch hch
      rw [toList_text] at hch
      rcases List.mem_append.mp hch with hletter | hdigit
      · cases tag <;> (rw [List.mem_singleton.mp hletter]; rfl)
      · rw [Char.isAlphanum, Nat.isDigit_of_mem_toDigits (by decide) (by decide) hdigit,
          Bool.or_true]
    have hsize : (text ⟨tag, .slot i⟩).utf8ByteSize ≤ 4 := by
      have hletter : tag.letter.utf8ByteSize = 1 := by cases tag <;> rfl
      have hdigits := size_decimal i
      show (tag.letter ++ toString i.val).utf8ByteSize ≤ 4
      rw [String.utf8ByteSize_append]
      omega
    exact ⟨by omega, fun h => absurd (hchars _ h) (by decide),
      fun h => absurd (hchars _ h) (by decide), fun h => absurd (hchars _ h) (by decide)⟩

theorem plainKey_recordKey : PlainKey SystemConfig.recordKey :=
  ⟨by decide, by decide, by decide, by decide⟩

/-! ## Changes of a store -/

/-- What changes a store. -/
inductive StoreEdit
  /-- A call to the medium itself. -/
  | medium (c : MediumCall)
  | writeRecord (key : String) (r : Record)
  /-- Storing an object, or trying to: it may have no record. -/
  | save (key : Label) (record : Except CodecError Record)
  | forget (key : Label)
  | saveConfig (config : SystemConfig)

namespace StoreEdit

/-- The names that are given are plain. -/
def Plain : StoreEdit → Prop
  | medium c => AquariumControl.Plain c.space c.key
  | writeRecord key _ => PlainKey key
  | _ => True

/-- The call that is made to the medium, in the space of the store. -/
def call? (space : String) : StoreEdit → Option MediumCall
  | medium c => some c
  | writeRecord key r => some (.write space key r.encode)
  | save _ (.error _) => none
  | save key (.ok r) => some (.write space key.text r.encode)
  | forget key => some (.delete space key.text)
  | saveConfig config =>
    match config.validate with
    | .error _ => none
    | .ok () => some (.write space SystemConfig.recordKey config.stored.encode)

theorem plain_call {space : String} (hspace : Volume.IsName space) {e : StoreEdit} (he : e.Plain)
    {c : MediumCall} (hc : e.call? space = some c) : AquariumControl.Plain c.space c.key := by
  cases e with
  | medium c' =>
    cases hc
    exact he
  | writeRecord key r =>
    cases hc
    exact ⟨hspace, he⟩
  | save key record =>
    cases record with
    | error e => cases hc
    | ok r =>
      cases hc
      exact ⟨hspace, key.plainKey_text⟩
  | forget key =>
    cases hc
    exact ⟨hspace, key.plainKey_text⟩
  | saveConfig config =>
    rw [call?] at hc
    split at hc
    · cases hc
    · cases hc
      exact ⟨hspace, plainKey_recordKey⟩

end StoreEdit

namespace ConfigStore

variable {τ τ' : Type} [Storage τ] [Storage τ']

/-- The store after a change. -/
def edit (s : ConfigStore τ) : StoreEdit → ConfigStore τ
  | .medium c => { s with storage := Storage.next s.storage c }
  | .writeRecord key r => (s.writeRecord key r).state
  | .save key record => (s.save key record).state
  | .forget key => (s.forget key).state
  | .saveConfig config => (s.saveConfig config).state

/-- The store after changes. -/
def edited (s : ConfigStore τ) (edits : List StoreEdit) : ConfigStore τ :=
  edits.foldl edit s

/-- **A change is one call to the medium, or none.** -/
theorem edit_eq (s : ConfigStore τ) (e : StoreEdit) :
    s.edit e = { s with
      storage := ((e.call? s.space).map (Storage.next s.storage)).getD s.storage } := by
  cases e with
  | medium c => rfl
  | writeRecord key r => exact s.state_writeRecord key r
  | save key record =>
    cases record with
    | error e => rfl
    | ok r => exact s.state_writeRecord key.text r
  | forget key => rfl
  | saveConfig config =>
    rw [edit, StoreEdit.call?]
    split
    · next hinvalid =>
      rw [saveConfig_of_invalid hinvalid]
      rfl
    · next hvalid =>
      rw [(saveConfig_of_valid hvalid s).2, state_writeRecord]
      rfl

/-- Every operation ends alike on both stores. -/
structure AnswersAlike (s : ConfigStore τ) (s' : ConfigStore τ') : Prop where
  readRecord : ∀ {key}, PlainKey key → (s.readRecord key).1 = (s'.readRecord key).1
  writeRecord : ∀ {key}, PlainKey key → ∀ r,
    (s.writeRecord key r).answer = (s'.writeRecord key r).answer
  save : ∀ key record, (s.save key record).answer = (s'.save key record).answer
  restore : ∀ {α : Type} (key : Label) (kind : UInt8) (take : Record → Except CodecError α)
    (object : α),
    (s.restore key kind take object).answer = (s'.restore key kind take object).answer ∧
      (s.restore key kind take object).state = (s'.restore key kind take object).state
  forget : ∀ key, (s.forget key).answer = (s'.forget key).answer
  loadConfig : (s.loadConfig).1 = (s'.loadConfig).1
  saveConfig : ∀ config, (s.saveConfig config).answer = (s'.saveConfig config).answer

/-- How restoring ends depends on the record that is found. -/
theorem restore_congr {s : ConfigStore τ} {s' : ConfigStore τ'} {α : Type} {key : Label}
    (hfound : (s.readRecord key.text).1 = (s'.readRecord key.text).1) (kind : UInt8)
    (take : Record → Except CodecError α) (object : α) :
    (s.restore key kind take object).answer = (s'.restore key kind take object).answer ∧
      (s.restore key kind take object).state = (s'.restore key kind take object).state := by
  rw [restore, restore]
  generalize s.readRecord key.text = found at hfound ⊢
  generalize s'.readRecord key.text = found' at hfound ⊢
  obtain ⟨found, journal⟩ := found
  obtain ⟨_, journal'⟩ := found'
  cases hfound
  rcases found with fault | _ | r
  · exact ⟨rfl, rfl⟩
  · exact ⟨rfl, rfl⟩
  · dsimp only
    split
    · split <;> exact ⟨rfl, rfl⟩
    · exact ⟨rfl, rfl⟩

/-- Both stores use the same space, on media that agree. -/
structure Agree (s : ConfigStore τ) (s' : ConfigStore τ') : Prop where
  space : s'.space = s.space
  isName : Volume.IsName s.space
  storage : Storage.Agree Plain s.storage s'.storage

namespace Agree

variable {s : ConfigStore τ} {s' : ConfigStore τ'}

/-- **One change** on both stores leaves them so. -/
theorem edit (h : s.Agree s') {e : StoreEdit} (he : e.Plain) : (s.edit e).Agree (s'.edit e) := by
  rw [edit_eq, edit_eq, h.space]
  refine ⟨rfl, h.isName, ?_⟩
  cases hcall : e.call? s.space with
  | none => exact h.storage
  | some c => exact h.storage.next (e.plain_call h.isName he hcall)

/-- **Any changes** do. -/
theorem edited (h : s.Agree s') {edits : List StoreEdit} (hplain : ∀ e ∈ edits, e.Plain) :
    (s.edited edits).Agree (s'.edited edits) := by
  induction edits generalizing s s' with
  | nil => exact h
  | cons e rest ih =>
    exact ih (h.edit (hplain e List.mem_cons_self)) fun d hd => hplain d (List.mem_cons_of_mem _ hd)

/-- **Every operation ends alike.** -/
theorem answersAlike (h : s.Agree s') : AnswersAlike s s' := by
  have hread : ∀ {key}, PlainKey key → (s.readRecord key).1 = (s'.readRecord key).1 := by
    intro key hkey
    show recordOf (Storage.read s.storage s.space key recordCapacity).1 =
      recordOf (Storage.read s'.storage s'.space key recordCapacity).1
    rw [h.space, h.storage.read ⟨h.isName, hkey⟩]
  have hwrite : ∀ {key}, PlainKey key → ∀ r,
      (s.writeRecord key r).answer = (s'.writeRecord key r).answer := by
    intro key hkey r
    rw [answer_writeRecord, answer_writeRecord, h.space, h.storage.write ⟨h.isName, hkey⟩]
  refine ⟨hread, hwrite, ?_, ?_, ?_, ?_, ?_⟩
  · intro key record
    cases record with
    | error e => rfl
    | ok r => exact hwrite key.plainKey_text r
  · intro α key kind take object
    exact restore_congr (hread key.plainKey_text) kind take object
  · intro key
    show (Storage.delete s.storage s.space key.text).answer.mapError Fault.storage =
      (Storage.delete s'.storage s'.space key.text).answer.mapError Fault.storage
    rw [h.space, h.storage.delete ⟨h.isName, key.plainKey_text⟩]
  · rw [loadConfig_eq, loadConfig_eq, hread plainKey_recordKey]
  · intro config
    cases hvalid : config.validate with
    | error e => rw [saveConfig_of_invalid hvalid, saveConfig_of_invalid hvalid]
    | ok _ =>
      rw [(saveConfig_of_valid hvalid s).1, (saveConfig_of_valid hvalid s').1,
        hwrite plainKey_recordKey]

end Agree

end ConfigStore

/-! ## Card and flash -/

/-- Plain names are apart: a key without a colon overlaps no other. -/
theorem Plain.apart : Flash.Apart Plain := by
  rintro space key space' key' hp - (⟨middle, -, rfl⟩ | ⟨-, rfl⟩)
  · exact hp.key.noColon (by simp)
  · exact hp.key.noColon (by simp)

/-- **A card answers like flash.**  Let a freshly mounted card and an empty flash be given the same
calls, with any plain names, in any order.  At every step both give the same answer, that of a map
from pairs: there is nothing to be found where nothing is held, a buffer that is too short is
refused, and to delete what is not held succeeds.  So stores in the same space of both, after any
changes, end every operation alike. -/
theorem Card.answers_like_flash {c : Card} (hc : c.Fresh) :
    (∀ (front : List MediumCall) (call : MediumCall),
      (∀ d ∈ call :: front, Plain d.space d.key) →
        Storage.answer (Storage.after c front) call =
            Storage.answer (Storage.after Flash.empty front) call ∧
          Storage.answer (Storage.after c front) call =
            call.expected (held front call.space call.key)) ∧
    ∀ space, Volume.IsName space → ∀ edits : List StoreEdit, (∀ e ∈ edits, e.Plain) →
      ConfigStore.AnswersAlike ((⟨c, space⟩ : ConfigStore Card).edited edits)
        ((⟨Flash.empty, space⟩ : ConfigStore Flash).edited edits) := by
  obtain ⟨base, htidy, hempty⟩ := hc.tidy
  refine ⟨fun front call hplain => ?_, fun space hspace edits hplain => ?_⟩
  · have hcard := (Card.tells base).answer_after htidy (fun _ _ _ => hempty _ _) hplain
    have hflash := (Flash.tells Plain.apart).answer_after (m := Flash.empty) trivial
      (fun _ _ _ => rfl) hplain
    exact ⟨hcard.trans hflash.symm, hcard⟩
  · have hagree : (⟨c, space⟩ : ConfigStore Card).Agree (⟨Flash.empty, space⟩ : ConfigStore Flash) :=
      ⟨rfl, hspace, _, _, _, _, Card.tells base, Flash.tells Plain.apart, htidy, trivial,
        fun space key _ => hempty space key⟩
    exact (hagree.edited hplain).answersAlike

/-- What a user of two spaces asks of a medium at first. -/
def firstCalls : List MediumCall :=
  [.read "tank" "C0" 8, .delete "tank" "C0", .write "tank" "C0" [9, 8, 7],
    .write "tank::2" "C0" [5], .write "tank" "C0" [1, 2]]

/-- A value that was replaced by a shorter one is too long for a buffer of one byte, and a
configuration is found beside it. -/
theorem Card.short_buffer_is_refused :
    Card.empty.Fresh ∧
    (∀ d ∈ MediumCall.read "tank" "C0" 1 :: firstCalls, Plain d.space d.key) ∧
    Storage.answer (Storage.after Card.empty firstCalls) (.read "tank" "C0" 1) =
      .found (.error .bufferTooSmall) ∧
    Volume.IsName "tank" ∧
    (∀ e ∈ [StoreEdit.medium (.write "tank" "C0" [1, 2]), .saveConfig ConfigStore.slow],
      e.Plain) ∧
    (((⟨Card.empty, "tank"⟩ : ConfigStore Card).edited
      [.medium (.write "tank" "C0" [1, 2]), .saveConfig ConfigStore.slow]).loadConfig).1 =
        .ok ConfigStore.slow := by
  have htank : Volume.IsName "tank" :=
    ⟨by decide, by decide, by decide, by decide, by decide, by decide⟩
  have hkey : PlainKey "C0" := ⟨by decide, by decide, by decide, by decide⟩
  have hfirst : Plain "tank" "C0" := ⟨htank, hkey⟩
  have hsecond : Plain "tank::2" "C0" :=
    ⟨⟨by decide, by decide, by decide, by decide, by decide, by decide⟩, hkey⟩
  have hcalls : ∀ d ∈ MediumCall.read "tank" "C0" 1 :: firstCalls, Plain d.space d.key := by
    simp only [firstCalls, List.forall_mem_cons]
    exact ⟨hfirst, hfirst, hfirst, hfirst, hsecond, hfirst, List.forall_mem_nil _⟩
  have hedits : ∀ e ∈ [StoreEdit.medium (.write "tank" "C0" [1, 2]),
      .saveConfig ConfigStore.slow], e.Plain := by
    simp only [List.forall_mem_cons]
    exact ⟨hfirst, trivial, List.forall_mem_nil _⟩
  obtain ⟨hanswers, hstores⟩ := Card.answers_like_flash Card.fresh_empty
  refine ⟨Card.fresh_empty, hcalls, (hanswers firstCalls _ hcalls).2, htank, hedits, ?_⟩
  -- On flash, where the stores can be computed.
  rw [(hstores "tank" htank _ hedits).loadConfig]
  decide +kernel

end AquariumControl
