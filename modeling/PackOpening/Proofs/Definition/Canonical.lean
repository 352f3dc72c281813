import PackOpening.Proofs.Definition.Accepted
import PackOpening.Proofs.Text.Joined
import PackOpening.Proofs.Text.Small

/-!
Printing slots and reading them again.

Slots are printed without blanks, and nothing in a printed token is changed by trimming it or by
lowercasing it. So the marks fall where the slots and their entries end, every token is read as what
it was printed from, and a definition printed from slots compiles to these slots. What any
definition compiles to can be printed like this.
-/
namespace PackOpening.Definition

open PackOpening.Text PackOpening.Numeric

/-- A set code that reading leaves as it is. It may hold braces. -/
structure IsCanonicalCode (code : Text) : Prop where
  present : code ≠ []
  trimmed : trim code = code
  small : lowercase code = code
  unmarked : .char ',' ∉ code ∧ .char ';' ∉ code ∧ .char ':' ∉ code

/-- A slot whose entries share a hundred and name their sets in a way that reading leaves as it
is. -/
structure IsCanonical (slot : Slot) : Prop extends SharesHundred slot where
  codes : ∀ entry ∈ slot.entries, ∀ code, entry.setCode = some code → IsCanonicalCode code

/-- The rarity token of an entry. -/
def rarityText (entry : SlotEntry) : Text :=
  match entry.setCode with
  | none => [.char entry.rarity.letter]
  | some code => code ++ [.char ':'] ++ [.char entry.rarity.letter]

def shareText (entry : SlotEntry) : Text := ofChars (intDigits entry.probability)

def entryText (entry : SlotEntry) : Text := rarityText entry ++ [.char ','] ++ shareText entry

def slotText (slot : Slot) : Text := List.intercalate [.char ','] (slot.entries.map entryText)

def slotsText (slots : List Slot) : Text := List.intercalate [.char ';'] (slots.map slotText)

/-- A definition of some slots, in braces. -/
def printed (slots : List Slot) : Text := [.char '\x7b'] ++ slotsText slots ++ [.char '\x7d']

/-- A token that stays whole and as it is. -/
structure IsPlain (token : Text) : Prop where
  tight : IsTight token
  small : ∀ c ∈ token, IsSmall c
  unmarked : ∀ c ∈ token, c ≠ .char ',' ∧ c ≠ .char ';'

theorem IsPlain.kept {token : Text} (plain : IsPlain token) : lowercase (trim token) = token := by
  rw [plain.tight.trim_eq, lowercase_eq_self_iff]
  exact plain.small

section

variable {entry : SlotEntry}

theorem isPlain_rarityText
    (codes : ∀ code, entry.setCode = some code → IsCanonicalCode code) :
    IsPlain (rarityText entry) := by
  have letter : IsPlain [.char entry.rarity.letter] := by
    have plain : ∀ c ∈ ([.char entry.rarity.letter] : Text),
        isBlank c = false ∧ IsSmall c ∧ c ≠ .char ',' ∧ c ≠ .char ';' := by
      cases entry.rarity <;> decide
    exact ⟨isTight_of_forall (List.cons_ne_nil _ _) fun c there => (plain c there).1,
      fun c there => (plain c there).2.1, fun c there => (plain c there).2.2⟩
  unfold rarityText
  cases named : entry.setCode with
  | none => exact letter
  | some code =>
    have canonical := codes code named
    have colon : IsSmall (.char ':') := by decide
    refine ⟨(isTight_of_trim_eq canonical.present canonical.trimmed).append _ letter.tight, ?_, ?_⟩
    · intro c member
      rcases List.mem_append.1 member with front | last
      · rcases List.mem_append.1 front with inside | mark
        · exact lowercase_eq_self_iff.1 canonical.small c inside
        · rwa [List.mem_singleton.1 mark]
      · exact letter.small c last
    · intro c member
      rcases List.mem_append.1 member with front | last
      · rcases List.mem_append.1 front with inside | mark
        · obtain ⟨comma, semicolon, _⟩ := canonical.unmarked
          exact ⟨fun same => comma (same ▸ inside), fun same => semicolon (same ▸ inside)⟩
        · rw [List.mem_singleton.1 mark]
          decide
      · exact letter.unmarked c last

/-- A rarity token names the letter and the set code that it was printed from. -/
theorem names_rarityText (codes : ∀ code, entry.setCode = some code → IsCanonicalCode code) :
    letterOf (rarityText entry) = [.char entry.rarity.letter] ∧
      codeOf (rarityText entry) = entry.setCode := by
  have alone : trim [.char entry.rarity.letter] = [.char entry.rarity.letter] ∧
      .char ':' ∉ ([.char entry.rarity.letter] : Text) := by
    cases entry.rarity <;> decide
  cases named : entry.setCode with
  | none =>
    have text : rarityText entry = [.char entry.rarity.letter] := by simp only [rarityText, named]
    rw [text, letterOf, if_neg alone.2]
    exact ⟨alone.1, if_neg fun colon => alone.2 colon.1⟩
  | some code =>
    have text : rarityText entry = code ++ .char ':' :: [.char entry.rarity.letter] := by
      simp only [rarityText, named, List.append_assoc, List.singleton_append]
    have canonical := codes code named
    have before : ∀ c ∈ code, decide (c ≠ .char ':') = true := fun c inside =>
      decide_eq_true fun same => canonical.unmarked.2.2 (same ▸ inside)
    have colon : .char ':' ∈ rarityText entry := by simp [text]
    have front : (rarityText entry).takeWhile (· ≠ .char ':') = code := by
      rw [text, List.takeWhile_append_of_pos before]
      exact List.append_nil code
    have back : ((rarityText entry).dropWhile (· ≠ .char ':')).tail =
        [.char entry.rarity.letter] := by
      rw [text, List.dropWhile_append_of_pos before]
      rfl
    rw [letterOf, if_pos colon, back, codeOf, front, canonical.trimmed,
      if_pos ⟨colon, canonical.present⟩]
    exact ⟨alone.1, rfl⟩

/-- Numbers up to a hundred are printed as percentages of their value. -/
theorem shareText_reads (bounds : 1 ≤ entry.probability ∧ entry.probability ≤ 100) :
    IsPlain (shareText entry) ∧ IsPercentage (shareText entry) ∧
      entry.probability = ofAsciiDigits (shareText entry) := by
  have checked : ∀ n : Nat, n < 101 → 1 ≤ n → IsPercentage (ofChars (intDigits n)) ∧
      ofAsciiDigits (ofChars (intDigits n)) = n ∧ ∀ c ∈ ofChars (intDigits n),
        isBlank c = false ∧ IsSmall c ∧ c ≠ .char ',' ∧ c ≠ .char ';' := by
    decide
  obtain ⟨n, same⟩ : ∃ n : Nat, entry.probability = n := ⟨entry.probability.toNat, by omega⟩
  obtain ⟨percentage, value, plain⟩ := checked n (by omega) (by omega)
  rw [shareText, same, value]
  refine ⟨⟨isTight_of_forall ?_ fun c there => (plain c there).1,
    fun c there => (plain c there).2.1, fun c there => (plain c there).2.2⟩, percentage, rfl⟩
  exact List.ne_nil_of_length_pos percentage.1.1

end

/-- The tokens of a printed slot, two for each entry. -/
def printedTokens (entries : List SlotEntry) : List Text :=
  entries.flatMap fun entry => [rarityText entry, shareText entry]

/-- The mark between two entries is the one inside of each. -/
theorem intercalate_entryText (entries : List SlotEntry) :
    List.intercalate [.char ','] (entries.map entryText) =
      List.intercalate [.char ','] (printedTokens entries) := by
  induction entries with
  | nil => rfl
  | cons entry rest ih =>
    cases rest with
    | nil => simp [printedTokens, entryText]
    | cons second others =>
      have tokens : printedTokens (entry :: second :: others) =
          rarityText entry :: shareText entry :: rarityText second :: shareText second ::
            printedTokens others := rfl
      rw [List.map_cons, List.map_cons, List.intercalate_cons_cons, ← List.map_cons, ih, tokens,
        List.intercalate_cons_cons, List.intercalate_cons_cons, entryText]
      simp only [List.append_assoc]
      rfl

theorem reads_printedTokens {entries : List SlotEntry}
    (bounds : ∀ entry ∈ entries, 1 ≤ entry.probability ∧ entry.probability ≤ 100)
    (codes : ∀ entry ∈ entries, ∀ code, entry.setCode = some code → IsCanonicalCode code) :
    Reads (printedTokens entries) entries := by
  induction entries with
  | nil => exact .nil
  | cons entry rest ih =>
    obtain ⟨letter, code⟩ := names_rarityText (codes entry List.mem_cons_self)
    obtain ⟨_, percentage, share⟩ := shareText_reads (bounds entry List.mem_cons_self)
    exact .cons ⟨letter, share, code.symm⟩ percentage
      (ih (fun other there => bounds other (List.mem_cons_of_mem _ there))
        fun other there => codes other (List.mem_cons_of_mem _ there))

section

variable {slot : Slot} (canonical : IsCanonical slot)

include canonical

theorem isPlain_of_mem_printedTokens {token : Text} (member : token ∈ printedTokens slot.entries) :
    IsPlain token := by
  obtain ⟨entry, inside, token_mem⟩ := List.mem_flatMap.1 member
  rcases List.mem_cons.1 token_mem with rfl | last
  · exact isPlain_rarityText (canonical.codes entry inside)
  · rw [List.mem_singleton.1 last]
    exact (shareText_reads (canonical.bounds entry inside)).1

theorem printedTokens_ne_nil : printedTokens slot.entries ≠ [] := by
  cases given : slot.entries with
  | nil => exact absurd given canonical.entries_ne_nil
  | cons entry rest => exact List.cons_ne_nil _ _

theorem isTight_slotText : IsTight (slotText slot) := by
  rw [slotText, intercalate_entryText]
  exact isTight_intercalate _ (printedTokens_ne_nil canonical) fun token member =>
    (isPlain_of_mem_printedTokens canonical member).tight

/-- A printed slot falls into the tokens that it was printed from. -/
theorem tokens_slotText : tokens (slotText slot) = printedTokens slot.entries := by
  have unmarked : ∀ token ∈ printedTokens slot.entries, .char ',' ∉ token :=
    fun token member inside =>
      ((isPlain_of_mem_printedTokens canonical member).unmarked _ inside).1 rfl
  have kept : ∀ token ∈ printedTokens slot.entries, lowercase (trim token) = id token :=
    fun token member => (isPlain_of_mem_printedTokens canonical member).kept
  rw [tokens, slotText, intercalate_entryText,
    pieces_intercalate (printedTokens_ne_nil canonical) unmarked, List.map_congr_left kept,
    List.map_id]

/-- A printed slot spells the slot. -/
theorem spells_slotText : Spells (slotText slot) slot := by
  rw [spells_iff, (isTight_slotText canonical).trim_eq, tokens_slotText canonical]
  exact ⟨reads_printedTokens canonical.bounds canonical.codes, canonical.total⟩

theorem outcome_slotText : outcome (slotText slot) = .slot slot := by
  have read := slot?_eq_some_iff.2 (spells_slotText canonical)
  cases made : outcome (slotText slot) with
  | slot own =>
    rw [made] at read
    rw [Option.some.inj read]
  | blank => rw [made] at read; cases read
  | fault fault => rw [made] at read; cases read

theorem not_mem_slotText : .char ';' ∉ slotText slot := by
  intro member
  rw [slotText, intercalate_entryText] at member
  rcases mem_of_mem_intercalate member with between | ⟨token, there, inside⟩
  · cases List.mem_singleton.1 between
  · exact ((isPlain_of_mem_printedTokens canonical there).unmarked _ inside).2 rfl

end

section

variable {slots : List Slot}

theorem isTight_slotsText (present : slots ≠ []) (canonical : ∀ slot ∈ slots, IsCanonical slot) :
    IsTight (slotsText slots) := by
  refine isTight_intercalate _ (by simpa using present) fun text member => ?_
  obtain ⟨slot, inside, rfl⟩ := List.mem_map.1 member
  exact isTight_slotText (canonical slot inside)

/-- Of the braces only the outer ones are taken off. -/
theorem unwrapped_printed (present : slots ≠ []) (canonical : ∀ slot ∈ slots, IsCanonical slot) :
    unwrapped (printed slots) = slotsText slots := by
  have braces : IsTight [.char '\x7b'] ∧ IsTight [.char '\x7d'] :=
    ⟨isTight_of_forall (List.cons_ne_nil _ _) (by decide),
      isTight_of_forall (List.cons_ne_nil _ _) (by decide)⟩
  have whole : trim (printed slots) = printed slots := (braces.1.append _ braces.2).trim_eq
  have opening : (printed slots).head? = some (.char '\x7b') := rfl
  have inside : (printed slots).tail = slotsText slots ++ [.char '\x7d'] := rfl
  have closing : (slotsText slots ++ [CodePoint.char '\x7d']).getLast? = some (.char '\x7d') := by
    simp
  unfold unwrapped
  rw [whole]
  simp only [opening, if_true, inside, closing, List.dropLast_concat]
  exact (isTight_slotsText present canonical).trim_eq

theorem compile_printed (present : slots ≠ []) (canonical : ∀ slot ∈ slots, IsCanonical slot) :
    compile (printed slots) = ⟨slots, []⟩ := by
  have unmarked : ∀ text ∈ slots.map slotText, .char ';' ∉ text := by
    intro text member
    obtain ⟨slot, inside, rfl⟩ := List.mem_map.1 member
    exact not_mem_slotText (canonical slot inside)
  have outcomes : (piecesOf (printed slots)).map outcome = slots.map Outcome.slot := by
    rw [piecesOf, unwrapped_printed present canonical, slotsText,
      pieces_intercalate (by simpa using present) unmarked, List.map_map]
    exact List.map_congr_left fun slot inside => outcome_slotText (canonical slot inside)
  have given : (slots.map Outcome.slot).filterMap Outcome.slot? = slots := by
    rw [List.filterMap_map]
    exact List.filterMap_some
  have faultless : faultsFrom 1 (slots.map Outcome.slot) = [] :=
    (faultsFrom_eq_nil_iff 1 _).2 fun o member => by
      obtain ⟨slot, _, rfl⟩ := List.mem_map.1 member
      rfl
  rw [compile_eq, unwrapped_printed present canonical,
    if_neg (isTight_slotsText present canonical).present, outcomes, ofOutcomes, given, faultless]
  simp [present]

end

theorem of_codeOf_eq_some {token code : Text} (named : codeOf token = some code) :
    code = trim (token.takeWhile (· ≠ .char ':')) ∧ code ≠ [] := by
  unfold codeOf at named
  dsimp only at named
  split at named
  · next given =>
    obtain rfl := Option.some.inj named
    exact ⟨rfl, given.2⟩
  · cases named

/-- A set code that is read off a token of a definition can be printed and read again. -/
theorem isCanonicalCode_of_codeOf {piece token code : Text} (unmarked : .char ';' ∉ piece)
    (member : token ∈ tokens (trim piece)) (named : codeOf token = some code) :
    IsCanonicalCode code := by
  obtain ⟨raw, there, rfl⟩ := List.mem_map.1 member
  obtain ⟨same, present⟩ := of_codeOf_eq_some named
  have before {c : CodePoint} (inside : c ∈ code) :
      c ∈ lowercase (trim raw) ∧ c ≠ .char ':' := by
    rw [same] at inside
    have ahead := mem_of_mem_trim inside
    exact ⟨(List.takeWhile_subset _) ahead, by simpa using List.mem_takeWhile_imp ahead⟩
  -- the marks come before the letters, so lowercasing cannot have brought them in
  have early {c : CodePoint} (low : c.code < 0x61) (inside : c ∈ code) : c ∈ raw :=
    mem_of_mem_trim (mem_of_mem_lowercase low (before inside).1)
  refine ⟨present, by rw [same, trim_trim], ?_, fun comma => ?_, fun semicolon => ?_,
    fun colon => ?_⟩
  · exact lowercase_eq_self_iff.2 fun c inside => isSmall_of_mem_lowercase (before inside).1
  · exact (of_mem_pieces there (early (by decide) comma)).2 rfl
  · exact unmarked (mem_of_mem_trim (of_mem_pieces there (early (by decide) semicolon)).1)
  · exact (before colon).2 rfl

theorem isCanonical_of_mem_compile {text : Text} {slot : Slot}
    (member : slot ∈ (compile text).slots) : IsCanonical slot := by
  obtain ⟨piece, there, spelled⟩ := exists_spells_of_mem_compile member
  have unmarked : .char ';' ∉ piece := fun inside => (of_mem_pieces there inside).2 rfl
  refine ⟨spelled.sharesHundred, fun entry inside code named => ?_⟩
  obtain ⟨paired, placed⟩ := reads_iff.1 (spells_iff.1 spelled).1
  obtain ⟨i, at_i⟩ := List.mem_iff_getElem?.1 inside
  have low : 2 * i < (tokens (trim piece)).length := by
    have := (List.getElem?_eq_some_iff.1 at_i).1
    omega
  have token : (tokens (trim piece)).getD (2 * i) [] ∈ tokens (trim piece) := by
    rw [List.getD_eq_getElem _ _ low]
    exact List.getElem_mem low
  exact isCanonicalCode_of_codeOf unmarked token ((placed i entry at_i).1.2.2.symm.trans named)

/-- Compiling, printing and compiling again gives the same slots and no error. This holds for every
list of slots that are canonical, and a definition compiles to no others. -/
theorem compile_printed_compile :
    (∀ text, ∀ slot ∈ (compile text).slots, IsCanonical slot) ∧
    (∀ slots, slots ≠ [] → (∀ slot ∈ slots, IsCanonical slot) →
      compile (printed slots) = ⟨slots, []⟩) ∧
    ∀ text, (compile text).slots ≠ [] →
      compile (printed (compile text).slots) = ⟨(compile text).slots, []⟩ := by
  have canonical (text : Text) : ∀ slot ∈ (compile text).slots, IsCanonical slot :=
    fun _ => isCanonical_of_mem_compile
  exact ⟨canonical, fun _ => compile_printed, fun text present =>
    compile_printed present (canonical text)⟩

/-- Slots with a code in braces, which stands right behind the opening brace, and slots read from a
text with blanks, capitals, a leading zero and an empty piece. -/
theorem compile_printed_compile_braces :
    let slots : List Slot := [⟨[⟨.common, 100, some "\x7bx\x7d"⟩]⟩]
    let text : Text := " NEO : R , 75,m,025 ; ; u,100\x7d"
    (slots ≠ [] ∧ (∀ slot ∈ slots, IsCanonical slot) ∧
      printed slots = ("\x7b\x7bx\x7d:c,100\x7d" : Text) ∧ compile (printed slots) = ⟨slots, []⟩) ∧
    (compile text).slots ≠ [] ∧
      printed (compile text).slots = ("\x7bneo:r,75,m,25;u,100\x7d" : Text) ∧
      compile (printed (compile text).slots) = ⟨(compile text).slots, []⟩ := by
  intro slots text
  have braces : IsCanonicalCode "\x7bx\x7d" :=
    ⟨by decide, by decide, by decide +kernel, by decide⟩
  have canonical : ∀ slot ∈ slots, IsCanonical slot := by
    intro slot member
    obtain rfl := List.mem_singleton.1 member
    refine ⟨⟨by simp, by decide, by decide⟩, fun entry inside code named => ?_⟩
    obtain rfl := List.mem_singleton.1 inside
    obtain rfl := Option.some.inj named
    exact braces
  have present : (compile text).slots ≠ [] := by decide +kernel
  obtain ⟨_, anew, again⟩ := compile_printed_compile
  exact ⟨⟨by simp [slots], canonical, by decide +kernel, anew slots (by simp [slots]) canonical⟩,
    present, by decide +kernel, again text present⟩

end PackOpening.Definition
