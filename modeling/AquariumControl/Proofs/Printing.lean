import Mathlib.Algebra.GroupWithZero.Nat
import Mathlib.Data.List.Basic
import Mathlib.Data.List.Infix
import AquariumControl.Telemetry

/-!
# Printed samples

A batch is printed in lines of limited size.  The samples fill the lines from the front: one that
does not fit any more starts the next line, and one that is too long for every line leaves a part of
its text there.

* `Telemetry.append_cases` — what becomes of a text that is appended piece by piece.
* `Telemetry.Filled` — lines that are filled from the front.  `Telemetry.pack_cons`,
  `Telemetry.exists_filled` — one sample, and all of them: the lines show the samples group by
  group.
* `Telemetry.text_eq_of_front` — no text of a sample is the beginning of another, so a text that is
  found in a line is the text of a sample shown there (`Telemetry.occurrences_lineOf`).
* `Telemetry.samples_are_printed_whole` — the lines of a batch.
-/

set_option autoImplicit false

namespace AquariumControl

namespace Telemetry

/-! ## What stands in a line of a sample -/

/-- The text of a sample: the sensor and the value. -/
def text (s : Sample) : String :=
  String.join (pieces s)

/-- What of a sample stands in a line that holds nothing yet. -/
def shown (s : Sample) : String :=
  (append "" (pieces s)).1

/-- A text is appended whole, or the pieces from its front that fit. -/
theorem append_cases {line : String} (hline : line.utf8ByteSize ≤ lineCapacity)
    (ps : List String) :
    (line.utf8ByteSize + (String.join ps).utf8ByteSize ≤ lineCapacity ∧
      append line ps = (line ++ String.join ps, true)) ∨
    (lineCapacity < line.utf8ByteSize + (String.join ps).utf8ByteSize ∧
      ∃ kept rest, String.join ps = kept ++ rest ∧
        (line ++ kept).utf8ByteSize ≤ lineCapacity ∧ append line ps = (line ++ kept, false)) := by
  induction ps generalizing line with
  | nil => exact .inl ⟨by simpa using hline, by simp [append]⟩
  | cons p rest ih =>
    rw [append, String.join_cons, String.utf8ByteSize_append, ← Nat.add_assoc]
    split
    · next hfits =>
      rw [← String.utf8ByteSize_append] at hfits ⊢
      rcases ih hfits with ⟨hle, happend⟩ | ⟨hlt, kept, more, hjoin, hle, happend⟩
      · exact .inl ⟨hle, by rw [happend, String.append_assoc]⟩
      · refine .inr ⟨hlt, p ++ kept, more, by rw [hjoin, String.append_assoc], ?_, ?_⟩
        · rwa [← String.append_assoc]
        · rw [happend, String.append_assoc]
    · next hover =>
      refine .inr ⟨by omega, "", p ++ String.join rest, by simp, by simpa using hline, by simp⟩

/-- The same for a sample and an empty line. -/
theorem shown_cases (s : Sample) :
    ((text s).utf8ByteSize ≤ lineCapacity ∧ shown s = text s) ∨
    (lineCapacity < (text s).utf8ByteSize ∧ (shown s).utf8ByteSize ≤ lineCapacity ∧
      ∃ rest, text s = shown s ++ rest) := by
  have hempty : ("" : String).utf8ByteSize ≤ lineCapacity := Nat.zero_le _
  have hcases := append_cases hempty (pieces s)
  simp only [String.utf8ByteSize_empty, Nat.zero_add, String.empty_append] at hcases
  rcases hcases with ⟨hle, happend⟩ | ⟨hlt, kept, rest, hjoin, hle, happend⟩
  · exact .inl ⟨hle, congrArg Prod.fst happend⟩
  · have hshown : shown s = kept := congrArg Prod.fst happend
    rw [hshown]
    exact .inr ⟨hlt, hle, rest, hjoin⟩

/-- A sample that fits into a line is shown whole. -/
theorem shown_of_fits {s : Sample} (h : (text s).utf8ByteSize ≤ lineCapacity) :
    shown s = text s := by
  rcases shown_cases s with ⟨-, hshown⟩ | ⟨hlt, -⟩
  · exact hshown
  · exact absurd h (Nat.not_le_of_lt hlt)

/-- Of a sample that fits into no line a part is missing. -/
theorem shown_of_not_fits {s : Sample} (h : lineCapacity < (text s).utf8ByteSize) :
    ∃ rest, rest ≠ "" ∧ text s = shown s ++ rest := by
  rcases shown_cases s with ⟨hle, -⟩ | ⟨-, hle, rest, htext⟩
  · exact absurd hle (Nat.not_le_of_lt h)
  · refine ⟨rest, ?_, htext⟩
    rintro rfl
    rw [htext, String.append_empty] at h
    exact absurd hle (Nat.not_le_of_lt h)

theorem size_shown_le (s : Sample) : (shown s).utf8ByteSize ≤ lineCapacity := by
  rcases shown_cases s with ⟨hle, hshown⟩ | ⟨-, hle, -⟩
  · rwa [hshown]
  · exact hle

theorem shown_front (s : Sample) : (shown s).toList <+: (text s).toList := by
  rcases shown_cases s with ⟨-, hshown⟩ | ⟨-, -, rest, htext⟩
  · rw [hshown]
  · rw [htext, String.toList_append]
    exact List.prefix_append _ _

/-- The first piece fits into every line. -/
theorem shown_eq (s : Sample) : ∃ more, shown s = " S" ++ more := by
  have hfirst : shown s =
      (append " S" (s.sensor.text :: "=" :: Decimal.fixed 2 s.value)).1 := rfl
  rw [hfirst]
  have hfits : (" S" : String).utf8ByteSize ≤ lineCapacity := by decide
  rcases append_cases hfits (s.sensor.text :: "=" :: Decimal.fixed 2 s.value) with
    ⟨-, happend⟩ | ⟨-, kept, rest, -, -, happend⟩
  · exact ⟨_, congrArg Prod.fst happend⟩
  · exact ⟨kept, congrArg Prod.fst happend⟩

/-! ## Filling lines -/

/-- The line that shows some samples. -/
def lineOf (group : List Sample) : String :=
  String.join (group.map shown)

/-- A group is followed by one that begins with a sample for which there was no room any more. -/
def Follows (group next : List Sample) : Prop :=
  ∃ s ∈ next.head?, lineCapacity < (lineOf group).utf8ByteSize + (text s).utf8ByteSize

/-- **Lines filled from the front**: the samples in their order, no line too long, none ended before
it was full, and none empty but before a sample that fits into no line. -/
structure Filled (batch : List Sample) (groups : List (List Sample)) : Prop where
  flatten_eq : groups.flatten = batch
  size_le : ∀ g ∈ groups, (lineOf g).utf8ByteSize ≤ lineCapacity
  greedy : groups.IsChain Follows
  ne_nil : [] ∈ groups → ∃ s ∈ batch, lineCapacity < (text s).utf8ByteSize

theorem lineOf_append_singleton (group : List Sample) (s : Sample) :
    lineOf (group ++ [s]) = lineOf group ++ shown s := by
  simp [lineOf, String.join_append]

/-- **One sample**: it goes to the line, or starts the next one. -/
theorem pack_cons {group : List Sample} (hgroup : (lineOf group).utf8ByteSize ≤ lineCapacity)
    (s : Sample) (rest : List (List String)) :
    (lineOf group).utf8ByteSize + (text s).utf8ByteSize ≤ lineCapacity ∧
        pack (lineOf group) (pieces s :: rest) = pack (lineOf (group ++ [s])) rest ∨
      lineCapacity < (lineOf group).utf8ByteSize + (text s).utf8ByteSize ∧
        pack (lineOf group) (pieces s :: rest) = lineOf group :: pack (lineOf [s]) rest := by
  rw [pack]
  rcases append_cases hgroup (pieces s) with
    ⟨hle, happend⟩ | ⟨hlt, kept, more, -, -, happend⟩
  · have hfits : (text s).utf8ByteSize ≤ lineCapacity := Nat.le_trans (Nat.le_add_left _ _) hle
    refine .inl ⟨hle, ?_⟩
    rw [happend, lineOf_append_singleton, shown_of_fits hfits]
    rfl
  · refine .inr ⟨hlt, ?_⟩
    rw [happend]
    simp [lineOf, shown, String.join_cons]

theorem lineOf_ne_empty {group : List Sample} (h : group ≠ []) : lineOf group ≠ "" := by
  obtain ⟨s, rest, rfl⟩ := List.exists_cons_of_ne_nil h
  obtain ⟨more, hmore⟩ := shown_eq s
  rw [lineOf, List.map_cons, String.join_cons, hmore, Ne, String.append_eq_empty_iff,
    String.append_eq_empty_iff]
  rintro ⟨⟨hfirst, -⟩, -⟩
  exact absurd hfirst (by decide)

namespace Filled

/-- One line. -/
theorem single {group : List Sample} (hgroup : (lineOf group).utf8ByteSize ≤ lineCapacity)
    (hne : group ≠ []) : Filled group [group] where
  flatten_eq := List.flatten_singleton
  size_le := List.forall_mem_singleton.mpr hgroup
  greedy := List.IsChain.singleton _
  ne_nil hnil := absurd (List.mem_singleton.mp hnil).symm hne

/-- One line more, which is ended for want of room. -/
theorem cons {group taken rest : List Sample} {s : Sample} {others : List (List Sample)}
    (h : Filled (s :: rest) ((s :: taken) :: others))
    (hgroup : (lineOf group).utf8ByteSize ≤ lineCapacity)
    (hlt : lineCapacity < (lineOf group).utf8ByteSize + (text s).utf8ByteSize) :
    Filled (group ++ s :: rest) (group :: (s :: taken) :: others) where
  flatten_eq := by rw [List.flatten_cons, h.flatten_eq]
  size_le := List.forall_mem_cons.mpr ⟨hgroup, h.size_le⟩
  greedy := List.isChain_cons_cons.mpr ⟨⟨s, rfl, hlt⟩, h.greedy⟩
  ne_nil hnil := by
    rcases List.mem_cons.mp hnil with rfl | hnil
    · -- an empty line has room for every sample but one that is too long
      rw [lineOf, List.map_nil, String.join_nil, String.utf8ByteSize_empty, Nat.zero_add] at hlt
      exact ⟨s, List.mem_cons_self, hlt⟩
    · obtain ⟨s', hs', hlong⟩ := h.ne_nil hnil
      exact ⟨s', List.mem_append_right _ hs', hlong⟩

end Filled

/-- **All samples**: the line in hand takes some of them, and the others fill lines of their own. -/
theorem exists_filled {group : List Sample}
    (hgroup : (lineOf group).utf8ByteSize ≤ lineCapacity) {rest : List Sample}
    (hsome : group ≠ [] ∨ rest ≠ []) :
    ∃ taken others, Filled (group ++ rest) ((group ++ taken) :: others) ∧
      pack (lineOf group) (rest.map pieces) = ((group ++ taken) :: others).map lineOf := by
  induction rest generalizing group with
  | nil =>
    have hne : group ≠ [] := hsome.resolve_right fun h => h rfl
    refine ⟨[], [], ?_, ?_⟩
    · rw [List.append_nil]
      exact .single hgroup hne
    · rw [List.map_nil, pack, if_neg (by rw [String.isEmpty_iff]; exact lineOf_ne_empty hne)]
      simp
  | cons s rest ih =>
    rw [List.map_cons]
    rcases pack_cons hgroup s (rest.map pieces) with ⟨hle, hpack⟩ | ⟨hlt, hpack⟩
    · have hnext : (lineOf (group ++ [s])).utf8ByteSize ≤ lineCapacity := by
        rw [lineOf_append_singleton, String.utf8ByteSize_append,
          shown_of_fits (Nat.le_trans (Nat.le_add_left _ _) hle)]
        exact hle
      obtain ⟨taken, others, hfilled, hlines⟩ := ih hnext (.inl (by simp))
      refine ⟨s :: taken, others, ?_, ?_⟩
      · simpa using hfilled
      · rw [hpack, hlines, List.append_assoc]
        rfl
    · have hnext : (lineOf [s]).utf8ByteSize ≤ lineCapacity := by
        simpa [lineOf, String.join_cons] using size_shown_le s
      obtain ⟨taken, others, hfilled, hlines⟩ := ih hnext (.inl (by simp))
      refine ⟨[], ([s] ++ taken) :: others, ?_, ?_⟩
      · rw [List.append_nil]
        exact hfilled.cons hgroup hlt
      · rw [hpack, hlines, List.append_nil]
        rfl

/-- The lines of a batch. -/
def lines (batch : List Sample) : List String :=
  pack "" (batch.map pieces)

/-- **The lines of a batch are filled from the front.** -/
theorem exists_groups (batch : List Sample) :
    ∃ groups, Filled batch groups ∧ lines batch = groups.map lineOf := by
  cases batch with
  | nil =>
    exact ⟨[], ⟨rfl, fun _ h => absurd h List.not_mem_nil, List.IsChain.nil,
      fun h => absurd h List.not_mem_nil⟩, rfl⟩
  | cons s rest =>
    have hempty : (lineOf []).utf8ByteSize ≤ lineCapacity := Nat.zero_le _
    obtain ⟨taken, others, hfilled, hlines⟩ :=
      exists_filled hempty (.inr (List.cons_ne_nil s rest))
    exact ⟨_, hfilled, hlines⟩

/-! ## Texts tell themselves apart -/

/-- Digits and signs. -/
def Numeral (cs : List Char) : Prop :=
  ∀ c ∈ cs, c.isDigit = true ∨ c = '-'

theorem Numeral.notMem {cs : List Char} (h : Numeral cs) {c : Char} (hdigit : c.isDigit = false)
    (hsign : c ≠ '-') : c ∉ cs := by
  intro hmem
  rcases h c hmem with hc | hc
  · rw [hdigit] at hc
    cases hc
  · exact hsign hc

theorem Numeral.append {cs ds : List Char} (hcs : Numeral cs) (hds : Numeral ds) :
    Numeral (cs ++ ds) :=
  fun c hc => (List.mem_append.mp hc).elim (hcs c) (hds c)

theorem numeral_repr (n : Nat) : Numeral n.repr.toList := by
  intro c hc
  rw [Nat.toList_repr] at hc
  exact .inl (Nat.isDigit_of_mem_toDigits (by decide) (by decide) hc)

theorem numeral_sensor (id : SlotId) : Numeral id.text.toList := by
  cases id with
  | unassigned =>
    show Numeral "-1".toList
    simp [Numeral]
  | slot i => exact numeral_repr i.val

/-- What a value looks like: a word, or a number with two decimals. -/
inductive ValueText : List Char → Prop
  | word {cs : List Char} (h : cs ∈ ["NaN".toList, "inf".toList, "-inf".toList]) : ValueText cs
  | decimal {whole : List Char} {d e : Char} (hwhole : Numeral whole) (hd : d.isDigit = true)
      (he : e.isDigit = true) : ValueText (whole ++ '.' :: [d, e])

theorem toList_padded {n : Nat} (h : n < 100) :
    ∃ d e, (Decimal.padded 2 n).toList = [d, e] ∧ d.isDigit = true ∧ e.isDigit = true := by
  have hdigits : ∀ c ∈ (Decimal.padded 2 n).toList, c.isDigit = true := by
    intro c hc
    rw [Decimal.padded, String.toList_append, String.toList_ofList] at hc
    rcases List.mem_append.mp hc with hc | hc
    · rw [List.eq_of_mem_replicate hc]
      rfl
    · rw [show (toString n).toList = Nat.toDigits 10 n from Nat.toList_repr] at hc
      exact Nat.isDigit_of_mem_toDigits (by decide) (by decide) hc
  have hlength : (Decimal.padded 2 n).toList.length = 2 := by
    have hle : (toString n).length ≤ 2 := by
      rw [← String.length_toList, show (toString n).toList = Nat.toDigits 10 n from Nat.toList_repr]
      exact (Nat.length_toDigits_le_iff (by decide) (by decide)).mpr h
    rw [String.length_toList, Decimal.padded, String.length_append, String.length_ofList,
      List.length_replicate]
    omega
  obtain ⟨d, e, hde⟩ := List.length_eq_two.mp hlength
  rw [hde] at hdigits
  exact ⟨d, e, hde, hdigits d (by simp), hdigits e (by simp)⟩

/-- The pieces of a value. -/
theorem fixed_cases (v : Binary64) :
    Decimal.fixed 2 v = ["NaN"] ∨ ∃ sign ∈ [[], ["-"]], Decimal.fixed 2 v = sign ++ ["inf"] ∨
      ∃ units : Nat, Decimal.fixed 2 v =
        sign ++ [(units / 100).repr, ".", Decimal.padded 2 (units % 100)] := by
  rw [Decimal.fixed]
  split
  · exact .inl rfl
  · refine .inr ⟨if v.isNegative then ["-"] else [], ?_, ?_⟩
    · cases v.isNegative <;> simp
    · cases v.scaled? with
      | none => exact .inl rfl
      | some s => exact .inr ⟨Decimal.fixedUnits 2 s, rfl⟩

theorem valueText_fixed (v : Binary64) : ValueText (String.join (Decimal.fixed 2 v)).toList := by
  rcases fixed_cases v with hfixed | ⟨sign, hsign, hfixed | ⟨units, hfixed⟩⟩
  · rw [hfixed]
    exact .word (by decide)
  · have hwords : ∀ sign ∈ [[], ["-"]],
        (String.join (sign ++ ["inf"])).toList ∈ ["NaN".toList, "inf".toList, "-inf".toList] := by
      decide
    rw [hfixed]
    exact .word (hwords sign hsign)
  · obtain ⟨d, e, hpadded, hd, he⟩ := toList_padded (Nat.mod_lt units (show 0 < 100 by decide))
    have hnumeral : Numeral ((String.join sign).toList ++ (units / 100).repr.toList) := by
      refine Numeral.append ?_ (numeral_repr _)
      revert sign
      simp [Numeral]
    have htext : (String.join (Decimal.fixed 2 v)).toList =
        ((String.join sign).toList ++ (units / 100).repr.toList) ++ '.' :: [d, e] := by
      rw [hfixed, String.join_append, String.join_cons, String.join_cons, String.join_cons,
        String.join_nil, String.append_empty, String.toList_append, String.toList_append,
        String.toList_append, hpadded, List.append_assoc]
      rfl
    rw [htext]
    exact .decimal hnumeral hd he

/-- No blank stands in a value. -/
theorem ValueText.notMem {cs : List Char} (h : ValueText cs) : ' ' ∉ cs := by
  cases h with
  | word h =>
    revert cs
    decide
  | @decimal whole d e hwhole hd he =>
    have hdigit : ∀ c : Char, c.isDigit = true → ' ' ≠ c := by
      rintro c hc rfl
      exact absurd hc (by decide)
    have hblank : ' ' ∉ whole := hwhole.notMem (by decide) (by decide)
    simp [hblank, hdigit d hd, hdigit e he]

/-- What stands before the first mark, and what after it. -/
theorem prefix_of_mark {α : Type} {mark : α} {front front' back back' : List α}
    (hfront : mark ∉ front) (hfront' : mark ∉ front')
    (h : front ++ mark :: back <+: front' ++ mark :: back') : front = front' ∧ back <+: back' := by
  induction front generalizing front' with
  | nil =>
    cases front' with
    | nil => exact ⟨rfl, (List.cons_prefix_cons.mp h).2⟩
    | cons c rest =>
      rw [List.nil_append, List.cons_append, List.cons_prefix_cons] at h
      exact absurd (h.1 ▸ List.mem_cons_self) hfront'
  | cons c rest ih =>
    cases front' with
    | nil =>
      rw [List.nil_append, List.cons_append, List.cons_prefix_cons] at h
      exact absurd (h.1 ▸ List.mem_cons_self) hfront
    | cons c' rest' =>
      rw [List.cons_append, List.cons_append, List.cons_prefix_cons] at h
      obtain ⟨rfl, hrest⟩ := h
      obtain ⟨rfl, hback⟩ := ih (List.not_mem_of_not_mem_cons hfront)
        (List.not_mem_of_not_mem_cons hfront') hrest
      exact ⟨rfl, hback⟩

/-- No value is the beginning of another. -/
theorem ValueText.eq_of_front {cs ds : List Char} (hcs : ValueText cs) (hds : ValueText ds)
    (h : cs <+: ds) : cs = ds := by
  have hwords : ∀ cs ∈ ["NaN".toList, "inf".toList, "-inf".toList],
      '.' ∉ cs ∧ ∃ c ∈ cs, c.isDigit = false ∧ c ≠ '-' ∧ c ≠ '.' := by simp
  have hdigit : ∀ c d : Char, c.isDigit = false → d.isDigit = true → c ≠ d := by
    rintro c d hc hd rfl
    cases hc.symm.trans hd
  cases hcs with
  | word hword =>
    cases hds with
    | word hword' =>
      have hall : ∀ cs ∈ ["NaN".toList, "inf".toList, "-inf".toList],
          ∀ ds ∈ ["NaN".toList, "inf".toList, "-inf".toList], cs <+: ds → cs = ds := by decide
      exact hall cs hword ds hword' h
    | @decimal whole d e hwhole hd he =>
      -- a word has a letter, and a decimal has none
      obtain ⟨-, c, hc, hletter, hsign, hpoint⟩ := hwords cs hword
      have hmem := h.mem hc
      simp [hwhole.notMem hletter hsign, hpoint, hdigit c d hletter hd, hdigit c e hletter he]
        at hmem
  | @decimal whole d e hwhole hd he =>
    cases hds with
    | word hword => exact absurd (h.mem (by simp)) (hwords ds hword).1
    | @decimal whole' d' e' hwhole' hd' he' =>
      have hpoint : ∀ {cs : List Char}, Numeral cs → '.' ∉ cs :=
        fun h => h.notMem (by decide) (by decide)
      obtain ⟨rfl, hdecimals⟩ := prefix_of_mark (hpoint hwhole) (hpoint hwhole') h
      rw [hdecimals.eq_of_length rfl]

theorem toList_text (s : Sample) :
    (text s).toList = ' ' :: 'S' ::
      (s.sensor.text.toList ++ '=' :: (String.join (Decimal.fixed 2 s.value)).toList) := by
  rw [text, pieces, String.join_cons, String.join_cons, String.join_cons, String.toList_append,
    String.toList_append, String.toList_append]
  rfl

/-- **No text is the beginning of another.** -/
theorem text_eq_of_front {s s' : Sample} (h : (text s).toList <+: (text s').toList) :
    text s = text s' := by
  have hsensor : ∀ id : SlotId, '=' ∉ id.text.toList :=
    fun id => (numeral_sensor id).notMem (by decide) (by decide)
  rw [toList_text, toList_text, List.cons_prefix_cons, List.cons_prefix_cons] at h
  obtain ⟨hid, hvalue⟩ := prefix_of_mark (hsensor _) (hsensor _) h.2.2
  rw [← String.toList_inj, toList_text, toList_text, hid,
    (valueText_fixed s.value).eq_of_front (valueText_fixed s'.value) hvalue]

/-! ## Where a text stands -/

/-- The number of places in a line where a text begins. -/
def occurrences (t line : String) : Nat :=
  line.toList.tails.countP t.toList.isPrefixOf

/-- What is shown begins with the only blank in it. -/
theorem toList_shown (s : Sample) : ∃ cs, (shown s).toList = ' ' :: cs ∧ ' ' ∉ cs := by
  obtain ⟨more, hmore⟩ := shown_eq s
  have hshown : (shown s).toList = ' ' :: 'S' :: more.toList := by
    rw [hmore, String.toList_append]
    rfl
  refine ⟨_, hshown, fun hblank => ?_⟩
  have hprefix := shown_front s
  rw [hshown, toList_text, List.cons_prefix_cons] at hprefix
  have hmem := hprefix.2.mem hblank
  rw [List.mem_cons, List.mem_append, List.mem_cons] at hmem
  rcases hmem with hS | hid | hmark | hvalue
  · exact absurd hS (by decide)
  · exact (numeral_sensor s.sensor).notMem (by decide) (by decide) hid
  · exact absurd hmark (by decide)
  · exact (valueText_fixed s.value).notMem hvalue

theorem countP_tails_append {p : List Char → Bool} {cs : List Char}
    (h : ∀ c ∈ cs, ∀ l, p (c :: l) = false) (rest : List Char) :
    (cs ++ rest).tails.countP p = rest.tails.countP p := by
  induction cs with
  | nil => rfl
  | cons c cs ih =>
    have hhead : ¬ p (c :: (cs ++ rest)) = true := by
      rw [h c List.mem_cons_self]
      exact Bool.false_ne_true
    rw [List.cons_append, List.tails_cons, List.countP_cons_of_neg hhead,
      ih fun d hd => h d (List.mem_cons_of_mem _ hd)]

/-- A word that continues with a blank or not at all begins with no longer word. -/
theorem prefix_of_prefix_append {cs ds rest : List Char} (hcs : ' ' ∉ cs)
    (hrest : ∀ c ∈ rest.head?, c = ' ') (h : cs <+: ds ++ rest) : cs <+: ds := by
  rcases List.prefix_or_prefix_of_prefix h (List.prefix_append ds rest) with hle | ⟨more, rfl⟩
  · exact hle
  · rw [List.prefix_append_right_inj] at h
    cases more with
    | nil => rw [List.append_nil]
    | cons c more =>
      obtain ⟨tail, rfl⟩ := h
      obtain rfl := hrest c rfl
      exact absurd (List.mem_append_right _ List.mem_cons_self) hcs

theorem toList_lineOf_cons (x : Sample) (rest : List Sample) :
    (lineOf (x :: rest)).toList = (shown x).toList ++ (lineOf rest).toList := by
  rw [lineOf, List.map_cons, String.join_cons, String.toList_append]
  rfl

theorem head?_lineOf (group : List Sample) : ∀ c ∈ (lineOf group).toList.head?, c = ' ' := by
  cases group with
  | nil =>
    intro c hc
    cases hc
  | cons s rest =>
    obtain ⟨cs, hcs, -⟩ := toList_shown s
    rw [toList_lineOf_cons, hcs]
    intro c hc
    exact (Option.some.inj hc).symm

/-- A line begins with a text if that is the text of its first sample. -/
theorem text_front_lineOf_iff {s : Sample} (hs : (text s).utf8ByteSize ≤ lineCapacity) (x : Sample)
    (rest : List Sample) :
    (text s).toList <+: (lineOf (x :: rest)).toList ↔ text x = text s := by
  rw [toList_lineOf_cons]
  constructor
  · intro h
    obtain ⟨ts, hts, hblank⟩ := toList_shown s
    obtain ⟨cs, hcs, -⟩ := toList_shown x
    rw [shown_of_fits hs] at hts
    rw [hts, hcs, List.cons_append, List.cons_prefix_cons] at h
    have hshown : (text s).toList <+: (shown x).toList := by
      rw [hts, hcs, List.cons_prefix_cons]
      exact ⟨rfl, prefix_of_prefix_append hblank (head?_lineOf rest) h.2⟩
    exact (text_eq_of_front (hshown.trans (shown_front x))).symm
  · intro h
    rw [← h, shown_of_fits (h ▸ hs)]
    exact List.prefix_append _ _

/-- **A text stands in a line as often as there are samples with this text in its group.** -/
theorem occurrences_lineOf {s : Sample} (hs : (text s).utf8ByteSize ≤ lineCapacity)
    (group : List Sample) :
    occurrences (text s) (lineOf group) = group.countP fun x => text x = text s := by
  obtain ⟨ts, hts, -⟩ := toList_shown s
  rw [shown_of_fits hs] at hts
  induction group with
  | nil =>
    rw [occurrences, hts]
    rfl
  | cons x rest ih =>
    obtain ⟨cs, hcs, hblank⟩ := toList_shown x
    have hline : (lineOf (x :: rest)).toList = ' ' :: (cs ++ (lineOf rest).toList) := by
      rw [toList_lineOf_cons, hcs]
      rfl
    have hfront : (text s).toList.isPrefixOf (' ' :: (cs ++ (lineOf rest).toList)) = true ↔
        text x = text s := by
      rw [List.isPrefixOf_iff_prefix, ← hline]
      exact text_front_lineOf_iff hs x rest
    -- within what is shown of a sample there is no blank, so no other text begins there
    have hinside : ∀ c ∈ cs, ∀ l, (text s).toList.isPrefixOf (c :: l) = false := by
      intro c hc l
      have hne : ' ' ≠ c := fun hsame => hblank (hsame ▸ hc)
      rw [hts, ← Bool.not_eq_true, List.isPrefixOf_iff_prefix, List.cons_prefix_cons]
      exact fun h => hne h.1
    rw [occurrences, hline, List.tails_cons, List.countP_cons, countP_tails_append hinside,
      List.countP_cons]
    simp only [hfront, decide_eq_true_eq]
    rw [← ih, occurrences]

/-! ## Printed batches -/

theorem join_lineOf (groups : List (List Sample)) :
    String.join (groups.map lineOf) = String.join (groups.flatten.map shown) := by
  induction groups with
  | nil => rfl
  | cons g rest ih =>
    rw [List.map_cons, String.join_cons, ih, List.flatten_cons, List.map_append,
      String.join_append]
    rfl

/-- **Printing loses and splits nothing that fits.**  No line holds more than 256 bytes of samples,
and the samples stand there in their order, group by group, each in one line.  A sample whose text
takes at most 256 bytes is shown whole, and a group ends only where the text of the next sample
would take its line beyond 256 bytes.  So such a text begins at as many places in the lines as there
are samples with this text: what a longer one leaves of itself neither damages it nor looks like it.
If all samples fit, the lines together are all the texts together, and no line is empty. -/
theorem samples_are_printed_whole (batch : List Sample) :
    (printed batch).map Notice.line = (lines batch).map (fun l => ⟨.info, "TELEM |" ++ l⟩) ∧
    (∀ l ∈ lines batch, l.utf8ByteSize ≤ 256) ∧
    (∃ groups : List (List Sample), groups.flatten = batch ∧
      lines batch = groups.map (fun g => String.join (g.map shown)) ∧
      (∀ s, (text s).utf8ByteSize ≤ 256 → shown s = text s) ∧
      (∀ s, 256 < (text s).utf8ByteSize → ∃ rest, rest ≠ "" ∧ text s = shown s ++ rest) ∧
      groups.IsChain fun g next => ∃ s ∈ next.head?,
        256 < (String.join (g.map shown)).utf8ByteSize + (text s).utf8ByteSize) ∧
    (∀ s, (text s).utf8ByteSize ≤ 256 →
      ((lines batch).map (occurrences (text s))).sum = batch.countP fun x => text x = text s) ∧
    ((∀ s ∈ batch, (text s).utf8ByteSize ≤ 256) →
      String.join (lines batch) = String.join (batch.map text) ∧ ∀ l ∈ lines batch, l ≠ "") := by
  obtain ⟨groups, hfilled, hlines⟩ := exists_groups batch
  refine ⟨?_, ?_, ⟨groups, hfilled.flatten_eq, hlines, fun s hs => shown_of_fits hs,
    fun s hs => shown_of_not_fits hs, hfilled.greedy⟩, fun s hs => ?_,
    fun hall => ⟨?_, ?_⟩⟩
  · rw [printed, List.map_map]
    rfl
  · rw [hlines]
    exact List.forall_mem_map.mpr hfilled.size_le
  · rw [hlines, List.map_map, ← hfilled.flatten_eq, List.countP_flatten]
    exact congrArg List.sum (List.map_congr_left fun g _ => occurrences_lineOf hs g)
  · have hshown : batch.map shown = batch.map text :=
      List.map_congr_left fun s hs => shown_of_fits (hall s hs)
    rw [hlines, join_lineOf, hfilled.flatten_eq, hshown]
  · rw [hlines]
    intro l hl hempty
    obtain ⟨g, hg, rfl⟩ := List.mem_map.mp hl
    have hnil : g = [] := Decidable.byContradiction fun hne => lineOf_ne_empty hne hempty
    obtain ⟨s, hs, hlong⟩ := hfilled.ne_nil (hnil ▸ hg)
    exact absurd (hall s hs) (Nat.not_le_of_lt hlong)

/-- One and a half degrees at sensor 3. -/
def cold : Sample := ⟨.ofNat 3, ⟨0x3FF8000000000000⟩, 0⟩

/-- `10 ^ 252` degrees at sensor 1, which is broken. -/
def broken : Sample := ⟨.ofNat 1, ⟨0x74417571DDF6C814⟩, 0⟩

/-- Two and a quarter degrees at sensor 2. -/
def mild : Sample := ⟨.ofNat 2, ⟨0x4002000000000000⟩, 0⟩

/-- The value of the broken sensor fits into no line; only the sensor is named, in a line of its
own, which the next sample joins. -/
theorem broken_sensor_spares_its_neighbours :
    256 < (text broken).utf8ByteSize ∧
      (text mild).utf8ByteSize ≤ 256 ∧
      lines [cold, broken, mild] = [" S3=1.50", " S1= S2=2.25"] ∧
      ((lines [cold, broken, mild]).map (occurrences (text mild))).sum = 1 ∧
      (∀ s ∈ [cold, mild], (text s).utf8ByteSize ≤ 256) ∧
      String.join (lines [cold, mild]) = " S3=1.50 S2=2.25" := by
  have hmild : (text mild).utf8ByteSize ≤ 256 := by decide +kernel
  have hall : ∀ s ∈ [cold, mild], (text s).utf8ByteSize ≤ 256 := by decide +kernel
  obtain ⟨-, -, -, honce, -⟩ := samples_are_printed_whole [cold, broken, mild]
  obtain ⟨-, -, -, -, hfit⟩ := samples_are_printed_whole [cold, mild]
  exact ⟨by decide +kernel, hmild, by decide +kernel, (honce mild hmild).trans (by decide +kernel),
    hall, (hfit hall).1.trans (by decide +kernel)⟩

end Telemetry

end AquariumControl
