import PackOpening.Proofs.Definition.Accepted

/-!
Faults of definitions, stated by the places of the tokens.

Among the tokens of a piece, rarities are expected at even places and percentages at odd ones, and
a percentage is missed where the tokens end behind a rarity. What a piece is blamed for is the
fault at the least place; only a piece with none is blamed for its sum.

Pieces are settled apart: what each of them gives depends on its own text and its number, and the
slots and the errors of a definition are collected from the pieces in their order. The number in
front of an error tells which piece it belongs to.
-/
namespace PackOpening.Definition

open PackOpening.Text PackOpening.Numeric

/-- A rarity token as an error quotes it: without its set code. -/
def quotedOf (token : Text) : Text :=
  if .char ':' ∈ token then trim (token.dropWhile (· ≠ .char ':')).tail else token

/-- What is wrong at a place among the tokens. The place behind the last token is at fault where a
percentage is due there. -/
def faultAt? (tokens : List Text) (place : Nat) : Option SlotFault :=
  match tokens[place]? with
  | some token =>
    if place % 2 = 0 then if IsRarity token then none else some (.unknownRarity (quotedOf token))
    else if IsPercentage token then none else some (.badProbability token)
  | none =>
    if place = tokens.length ∧ place % 2 = 1 then
      some (.missingProbability (quotedOf (tokens.getD (place - 1) [])))
    else none

/-- No place among the tokens is at fault. -/
def Faultless (tokens : List Text) : Prop := ∀ place, faultAt? tokens place = none

/-- What is wrong at the first place that is at fault. -/
def FirstFault (tokens : List Text) (fault : SlotFault) : Prop :=
  ∃ place, faultAt? tokens place = some fault ∧ ∀ earlier < place, faultAt? tokens earlier = none

/-- What a piece that is not blank is blamed for: its first token at fault, or its sum if there is
none. -/
inductive HasFault (piece : Text) : SlotFault → Prop where
  | token {fault : SlotFault} : FirstFault (tokens (trim piece)) fault → HasFault piece fault
  | total {sum : Nat} : Faultless (tokens (trim piece)) →
      shared (tokens (trim piece)) ((tokens (trim piece)).length / 2) = sum → sum ≠ 100 →
      HasFault piece (.wrongTotal sum)

/-- How a piece is blamed, behind its number. -/
def wording : SlotFault → Text
  | .unknownRarity token =>
    "unknown rarity \"" ++ token ++ "\". Use c, u, r, or m. (Optional set prefix: setcode:r)"
  | .missingProbability token => "missing probability after rarity \"" ++ token ++ "\"."
  | .badProbability token => "invalid probability \"" ++ token ++ "\". Must be 1-100."
  | .wrongTotal total =>
    "probabilities sum to " ++ ofChars (intDigits total) ++ "%, must be 100%."

/-- How the errors of the piece with a number begin. -/
def slotPrefix (number : Nat) : Text := "Slot " ++ ofChars (digitsOf number) ++ ": "

/-- What a piece adds to the two lists of a compiled definition. -/
inductive Contribution where
  | nothing
  | slot (slot : Slot)
  | error (message : Text)
  deriving DecidableEq, Repr

namespace Contribution

def slot? : Contribution → Option Slot
  | slot s => some s
  | _ => none

def error? : Contribution → Option Text
  | error message => some message
  | _ => none

end Contribution

/-- A blank piece adds nothing, a good one the slot that it spells, and any other the error for its
fault. -/
inductive Contributes (number : Nat) (piece : Text) : Contribution → Prop where
  | blank : trim piece = [] → Contributes number piece .nothing
  | slot {slot : Slot} : Spells piece slot → Contributes number piece (.slot slot)
  | fault {fault : SlotFault} : trim piece ≠ [] → HasFault piece fault →
      Contributes number piece (.error (slotPrefix number ++ wording fault))

/-- What the piece at a place has added: its slot stands between those of the good pieces before and
after it, and the errors that begin with its number are its own. -/
structure ContributesAt (text : Text) (place : Nat) (c : Contribution) : Prop where
  slots : ∃ before after, (compile text).slots = before ++ c.slot?.toList ++ after ∧
    before.length = ((piecesOf text).take place).countP (fun piece => IsGood piece) ∧
    after.length = ((piecesOf text).drop (place + 1)).countP fun piece => IsGood piece
  errors : (compile text).errors.filter (fun error => slotPrefix (place + 1) <+: error) =
    c.error?.toList

section Tokens

variable {tokens : List Text} {fault known : SlotFault} {place : Nat}

theorem splitCode_snd (token : Text) : (splitCode token).2 = quotedOf token := by
  by_cases colon : .char ':' ∈ token
  · simp [splitCode, cut_eq, quotedOf, colon]
  · simp [splitCode, cut_eq, quotedOf, colon]

/-- A token without capitals either names no rarity and is none, or it is one and names one. -/
theorem rarity_cases {token : Text} (small : ∀ c ∈ token, c.isCapital = false) :
    (¬ IsRarity token ∧ Rarity.ofCode? (quotedOf token) = none) ∨
    (IsRarity token ∧ ∃ rarity, Rarity.ofCode? (quotedOf token) = some rarity) := by
  rw [← splitCode_snd]
  cases named : Rarity.ofCode? (splitCode token).2 with
  | some rarity =>
    have letter := (ofCode?_splitCode small rarity).1 named
    exact Or.inr ⟨⟨rarity, by cases rarity <;> decide, letter⟩, rarity, rfl⟩
  | none =>
    refine Or.inl ⟨?_, rfl⟩
    rintro ⟨rarity, _, letter⟩
    rw [(ofCode?_splitCode small rarity).2 letter] at named
    cases named

theorem percentage?_eq_none_iff (token : Text) :
    percentage? token = none ↔ ¬ IsPercentage token := by
  rw [Option.eq_none_iff_forall_ne_some]
  simp only [ne_eq, percentage?_eq_some_iff]
  exact ⟨fun all percentage => all _ ⟨percentage, rfl⟩, fun none _ given => none given.1⟩

/-- Two tokens in front move the places of the others by two. -/
theorem faultAt?_pair (first second : Text) (rest : List Text) (place : Nat) :
    faultAt? (first :: second :: rest) (place + 2) = faultAt? rest place := by
  have parity : (place + 2) % 2 = place % 2 := by omega
  have same : place + 2 = rest.length + 1 + 1 ↔ place = rest.length := by omega
  unfold faultAt?
  rw [List.getElem?_cons_succ, List.getElem?_cons_succ, parity]
  cases there : rest[place]? with
  | some token => rfl
  | none =>
    simp only [List.length_cons, same]
    split
    · next last =>
      -- the place is odd, so the token before it is among the rest
      obtain ⟨before, rfl⟩ : ∃ before, place = before + 1 := ⟨place - 1, by omega⟩
      rfl
    · rfl

theorem firstFault_iff_of_known (here : faultAt? tokens place = some known)
    (before : ∀ earlier < place, faultAt? tokens earlier = none) :
    FirstFault tokens fault ↔ fault = known := by
  constructor
  · rintro ⟨other, there, first⟩
    have same : other = place := by
      rcases Nat.lt_trichotomy other place with less | same | more
      · rw [before other less] at there
        cases there
      · exact same
      · rw [first place more] at here
        cases here
    rw [same, here] at there
    exact (Option.some.inj there).symm
  · rintro rfl
    exact ⟨place, here, before⟩

/-- Behind a pair without fault the search goes on. -/
theorem firstFault_pair {first second : Text} {rest : List Text} (rarity : IsRarity first)
    (percentage : IsPercentage second) :
    FirstFault (first :: second :: rest) fault ↔ FirstFault rest fault := by
  have clear : ∀ place < 2, faultAt? (first :: second :: rest) place = none := by
    intro place low
    obtain rfl | rfl : place = 0 ∨ place = 1 := by omega
    · simp [faultAt?, rarity]
    · simp [faultAt?, percentage]
  constructor
  · rintro ⟨place, here, before⟩
    have beyond : 2 ≤ place := by
      by_contra low
      rw [clear place (by omega)] at here
      cases here
    obtain ⟨place, rfl⟩ := Nat.exists_eq_add_of_le' beyond
    refine ⟨place, by rwa [faultAt?_pair] at here, fun earlier less => ?_⟩
    rw [← faultAt?_pair first second]
    exact before (earlier + 2) (by omega)
  · rintro ⟨place, here, before⟩
    refine ⟨place + 2, by rwa [faultAt?_pair], fun earlier less => ?_⟩
    rcases Nat.lt_or_ge earlier 2 with low | beyond
    · exact clear earlier low
    · obtain ⟨earlier, rfl⟩ := Nat.exists_eq_add_of_le' beyond
      rw [faultAt?_pair]
      exact before earlier (by omega)

theorem firstFault_of_not_isRarity {first : Text} {rest : List Text} (unknown : ¬ IsRarity first) :
    FirstFault (first :: rest) fault ↔ fault = .unknownRarity (quotedOf first) :=
  @firstFault_iff_of_known _ _ _ 0 (by simp [faultAt?, unknown]) (by simp)

theorem firstFault_single {first : Text} (rarity : IsRarity first) :
    FirstFault [first] fault ↔ fault = .missingProbability (quotedOf first) :=
  @firstFault_iff_of_known _ _ _ 1 (by simp [faultAt?]) (by simp [faultAt?, rarity])

theorem firstFault_of_not_isPercentage {first second : Text} {rest : List Text}
    (rarity : IsRarity first) (bad : ¬ IsPercentage second) :
    FirstFault (first :: second :: rest) fault ↔ fault = .badProbability second :=
  @firstFault_iff_of_known _ _ _ 1 (by simp [faultAt?, bad]) (by simp [faultAt?, rarity])

theorem not_firstFault_nil : ¬ FirstFault [] fault := by
  rintro ⟨place, here, _⟩
  simp [faultAt?] at here
  omega

/-- Reading tokens without capitals stops at the first fault. -/
theorem entries_eq_error_iff : ∀ {tokens : List Text} {fault : SlotFault},
    (∀ token ∈ tokens, ∀ c ∈ token, c.isCapital = false) →
      (entries tokens = .error fault ↔ FirstFault tokens fault)
  | [], fault, _ => by simp [entries, not_firstFault_nil]
  | [first], fault, small => by
    rcases rarity_cases (small first List.mem_cons_self) with ⟨unknown, named⟩ | ⟨known, _, named⟩
    · simp [entries, splitCode_snd, named, firstFault_of_not_isRarity unknown, eq_comm]
    · simp [entries, splitCode_snd, named, firstFault_single known, eq_comm]
  | first :: second :: rest, fault, small => by
    have onward : ∀ token ∈ rest, ∀ c ∈ token, c.isCapital = false := fun token member =>
      small token (List.mem_cons_of_mem _ (List.mem_cons_of_mem _ member))
    rcases rarity_cases (small first List.mem_cons_self) with ⟨unknown, named⟩ | ⟨known, _, named⟩
    · simp [entries, splitCode_snd, named, firstFault_of_not_isRarity unknown, eq_comm]
    · cases share : percentage? second with
      | none =>
        have bad := (percentage?_eq_none_iff second).1 share
        simp [entries, splitCode_snd, named, share, firstFault_of_not_isPercentage known bad,
          eq_comm]
      | some value =>
        have percentage := ((percentage?_eq_some_iff second value).1 share).1
        rw [firstFault_pair known percentage, ← entries_eq_error_iff onward]
        cases read : entries rest with
        | error other => simp [entries, splitCode_snd, named, share, read]
        | ok others => simp [entries, splitCode_snd, named, share, read]

/-- Tokens without fault are those that no first fault is found among. -/
theorem faultless_iff : Faultless tokens ↔ ∀ fault, ¬ FirstFault tokens fault := by
  constructor
  · rintro faultless fault ⟨place, here, _⟩
    rw [faultless place] at here
    cases here
  · intro none place
    -- the least place at fault up to this one would be the first
    induction place using Nat.strongRecOn with
    | ind place before =>
      cases here : faultAt? tokens place with
      | none => rfl
      | some fault => exact absurd ⟨place, here, before⟩ (none fault)

/-- Tokens without capitals and without fault can be read. -/
theorem faultless_iff_reads (small : ∀ token ∈ tokens, ∀ c ∈ token, c.isCapital = false) :
    Faultless tokens ↔ ∃ es, Reads tokens es := by
  rw [faultless_iff]
  simp only [← entries_eq_error_iff small, ← entries_eq_ok_iff small]
  cases entries tokens with
  | error fault => simp
  | ok es => simp

end Tokens

/-- Reading a piece fails with what it is blamed for. -/
theorem readSlot_eq_error_iff {piece : Text} {fault : SlotFault} :
    readSlot (trim piece) = .error fault ↔ HasFault piece fault := by
  have small := tokens_small (trim piece)
  cases read : entries (tokens (trim piece)) with
  | error first =>
    have found : FirstFault (tokens (trim piece)) first := (entries_eq_error_iff small).1 read
    have same {other : SlotFault} : FirstFault (tokens (trim piece)) other ↔ first = other := by
      rw [← entries_eq_error_iff small, read, Except.error.injEq]
    simp only [readSlot, read, Except.error.injEq]
    constructor
    · rintro rfl
      exact .token found
    · rintro (other | ⟨faultless, _, _⟩)
      · exact same.1 other
      · exact absurd found (faultless_iff.1 faultless first)
  | ok es =>
    have reads : Reads (tokens (trim piece)) es := (entries_eq_ok_iff small).1 read
    have half : (tokens (trim piece)).length / 2 = es.length := by
      have := (reads_iff.1 reads).1
      omega
    have faultless : Faultless (tokens (trim piece)) := (faultless_iff_reads small).2 ⟨es, reads⟩
    simp only [readSlot, read, reads.total]
    constructor
    · intro failed
      split at failed
      · cases failed
      · next other =>
        cases failed
        exact .total faultless (by rw [half]) (by exact_mod_cast other)
    · rintro (first | ⟨_, rfl, other⟩)
      · exact absurd first (faultless_iff.1 faultless fault)
      · rw [half] at other ⊢
        rw [if_neg (by exact_mod_cast other)]

/-- Of several faults the first is told, and a set code is not quoted. -/
example : outcome "r,60,neo:x,0,m" = .fault (.unknownRarity "x") := by decide +kernel

/-- What an outcome adds to the two lists. -/
def Outcome.contribution (number : Nat) : Outcome → Contribution
  | .blank => .nothing
  | .slot s => .slot s
  | .fault f => .error (slotPrefix number ++ f.message)

theorem Outcome.slot?_contribution (number : Nat) (o : Outcome) :
    (o.contribution number).slot? = o.slot? := by
  cases o <;> rfl

theorem Outcome.error?_contribution (number : Nat) (o : Outcome) :
    (o.contribution number).error? = o.fault?.map fun f => slotPrefix number ++ f.message := by
  cases o <;> rfl

theorem message_eq_wording (fault : SlotFault) : fault.message = wording fault := by
  cases fault <;> rfl

/-- What a piece contributes is settled by its own text and its number. -/
theorem contributes_iff {number : Nat} {piece : Text} {c : Contribution} :
    Contributes number piece c ↔ c = (outcome piece).contribution number := by
  have blank_iff : outcome piece = .blank ↔ trim piece = [] := by
    by_cases blank : trim piece = []
    · simp [outcome, blank]
    · cases read : readSlot (trim piece) <;> simp [outcome, blank, read]
  constructor
  · rintro (blank | spelled | ⟨present, blamed⟩)
    · rw [blank_iff.2 blank]
      rfl
    · have read := readSlot_iff_spells.2 spelled
      simp [outcome, trim_ne_nil_of_isGood spelled.1, read, Outcome.contribution]
    · simp [outcome, present, readSlot_eq_error_iff.2 blamed, Outcome.contribution,
        message_eq_wording]
  · rintro rfl
    by_cases blank : trim piece = []
    · rw [blank_iff.2 blank]
      exact .blank blank
    · cases read : readSlot (trim piece) with
      | ok slot =>
        simp only [outcome, List.isEmpty_iff, blank, if_false, read]
        exact .slot (readSlot_iff_spells.1 read)
      | error fault =>
        simp only [outcome, List.isEmpty_iff, blank, if_false, read, Outcome.contribution,
          message_eq_wording]
        exact .fault blank (readSlot_eq_error_iff.1 read)

theorem inSlot_message (number : Nat) (fault : SlotFault) :
    (DefinitionFault.inSlot number fault).message = slotPrefix number ++ fault.message := by
  simp [DefinitionFault.message, slotPrefix, List.append_assoc]

/-- What pieces add whose first has the given number. -/
def contributions (ps : List Text) (number : Nat) : List Contribution :=
  (ps.zipIdx number).map fun numbered => (outcome numbered.1).contribution numbered.2

theorem contributions_cons (piece : Text) (rest : List Text) (number : Nat) :
    contributions (piece :: rest) number =
      (outcome piece).contribution number :: contributions rest (number + 1) :=
  rfl

/-- Every piece adds what it contributes under its own number. -/
theorem forall₂_contributes (ps : List Text) (number : Nat) :
    List.Forall₂ (fun numbered c => Contributes numbered.2 numbered.1 c) (ps.zipIdx number)
      (contributions ps number) := by
  unfold contributions
  rw [List.forall₂_map_right_iff, List.forall₂_same]
  exact fun _ _ => contributes_iff.2 rfl

theorem filterMap_slot?_contributions (ps : List Text) (number : Nat) :
    (contributions ps number).filterMap Contribution.slot? =
      (ps.map outcome).filterMap Outcome.slot? := by
  induction ps generalizing number with
  | nil => rfl
  | cons piece rest ih =>
    simp only [contributions_cons, List.map_cons, List.filterMap_cons,
      Outcome.slot?_contribution, ih]

theorem filterMap_error?_contributions (ps : List Text) (number : Nat) :
    (contributions ps number).filterMap Contribution.error? =
      (faultsFrom number (ps.map outcome)).map DefinitionFault.message := by
  induction ps generalizing number with
  | nil => rfl
  | cons piece rest ih =>
    simp only [contributions_cons, List.map_cons, List.filterMap_cons,
      Outcome.error?_contribution, ih]
    cases outcome piece with
    | fault f => simp [faultsFrom, Outcome.fault?, inSlot_message]
    | blank => rfl
    | slot s => rfl

/-- Slots and faults together are as many as the pieces that are not blank. -/
theorem length_slots_add_length_faults (ps : List Text) (number : Nat) :
    ((ps.map outcome).filterMap Outcome.slot?).length +
      (faultsFrom number (ps.map outcome)).length = ps.countP fun piece => trim piece ≠ [] := by
  induction ps generalizing number with
  | nil => rfl
  | cons piece rest ih =>
    have counted := ih (number + 1)
    rw [List.map_cons, List.countP_cons]
    rcases outcome_cases piece with ⟨blank, made⟩ | ⟨slot, spelled, made⟩ | ⟨present, _, f, made⟩
    · rw [made, if_neg (by simpa using blank)]
      exact counted
    · rw [made, if_pos (by simpa using trim_ne_nil_of_isGood spelled.1)]
      simp only [List.filterMap_cons, Outcome.slot?, faultsFrom, List.length_cons]
      omega
    · rw [made, if_pos (by simpa using present)]
      simp only [List.filterMap_cons, Outcome.slot?, faultsFrom, List.length_cons]
      omega

/-- Where a piece is not blank, the errors are those of the pieces. -/
theorem errors_compile {text : Text} (given : ∃ piece ∈ piecesOf text, trim piece ≠ []) :
    (compile text).errors =
      (faultsFrom 1 ((piecesOf text).map outcome)).map DefinitionFault.message := by
  have filled : 0 < (piecesOf text).countP fun piece => trim piece ≠ [] := by
    simpa [List.countP_pos_iff] using given
  have counted := length_slots_add_length_faults (piecesOf text) 1
  rw [errors, compile_eq, if_neg]
  · unfold ofOutcomes
    dsimp only
    split
    · next none =>
      simp only [Bool.and_eq_true, List.isEmpty_iff] at none
      simp only [none.1, none.2, List.length_nil] at counted
      omega
    · rfl
  · intro empty
    obtain ⟨piece, member, present⟩ := given
    rw [piecesOf_eq_of_empty empty, List.mem_singleton] at member
    subst member
    exact present rfl

section Numbers

theorem digitsOf_injective {m n : Nat} (same : digitsOf m = digitsOf n) : m = n := by
  have read := congrArg (fun digits => Nat.ofDigitChars 10 digits 0) same
  simpa [digitsOf] using read

/-- The digits of a number end where a text that does not begin with a digit does. -/
theorem takeWhile_digits (n : Nat) (rest : Text) :
    (ofChars (digitsOf n) ++ (.char ':' :: rest)).takeWhile CodePoint.isAsciiDigit =
      ofChars (digitsOf n) := by
  have digits : ∀ c ∈ ofChars (digitsOf n), CodePoint.isAsciiDigit c = true := by
    intro c member
    obtain ⟨digit, digits, rfl⟩ := List.mem_map.1 member
    exact @Nat.isDigit_of_mem_toDigits 10 n digit (by decide) (by decide) digits
  rw [List.takeWhile_append_of_pos digits]
  exact List.append_nil _

/-- An error begins with the number of its own piece only. -/
theorem slotPrefix_isPrefix_iff {m n : Nat} {message : Text} :
    slotPrefix m <+: slotPrefix n ++ message ↔ m = n := by
  constructor
  · rintro ⟨rest, whole⟩
    have same : ofChars (digitsOf m) ++ (.char ':' :: .char ' ' :: rest) =
        ofChars (digitsOf n) ++ (.char ':' :: .char ' ' :: message) := by
      simp only [slotPrefix, List.append_assoc] at whole
      exact List.append_cancel_left whole
    have digits := congrArg (List.takeWhile CodePoint.isAsciiDigit) same
    rw [takeWhile_digits, takeWhile_digits] at digits
    exact digitsOf_injective (ofChars_injective digits)
  · rintro rfl
    exact List.prefix_append _ _

/-- Pieces with later numbers do not make errors that begin with an earlier one. -/
theorem filter_errors_of_lt {number early : Nat} (less : early < number)
    (outcomes : List Outcome) :
    ((faultsFrom number outcomes).map DefinitionFault.message).filter
      (fun error => slotPrefix early <+: error) = [] := by
  induction outcomes generalizing number with
  | nil => rfl
  | cons o rest ih =>
    have onward := ih (Nat.lt_succ_of_lt less)
    cases o with
    | blank => exact onward
    | slot s => exact onward
    | fault f =>
      rw [faultsFrom, List.map_cons, List.filter_cons_of_neg, onward]
      rw [decide_eq_true_iff, inSlot_message, slotPrefix_isPrefix_iff]
      omega

/-- Of the errors of pieces, those that begin with a number are those of the piece with it. -/
theorem filter_errors (outcomes : List Outcome) (number place : Nat) :
    ((faultsFrom number outcomes).map DefinitionFault.message).filter
      (fun error => slotPrefix (number + place) <+: error) =
      ((outcomes[place]?.bind Outcome.fault?).map fun f =>
        slotPrefix (number + place) ++ f.message).toList := by
  induction outcomes generalizing number place with
  | nil => rfl
  | cons o rest ih =>
    cases place with
    | zero =>
      rw [Nat.add_zero]
      have onward := filter_errors_of_lt (Nat.lt_succ_self number) rest
      cases o with
      | blank => exact onward
      | slot s => exact onward
      | fault f =>
        rw [faultsFrom, List.map_cons, List.filter_cons_of_pos, onward]
        · simp [Outcome.fault?, inSlot_message]
        · rw [decide_eq_true_iff, inSlot_message, slotPrefix_isPrefix_iff]
    | succ place =>
      have onward := ih (number + 1) place
      rw [Nat.succ_add_eq_add_succ] at onward
      cases o with
      | blank => exact onward
      | slot s => exact onward
      | fault f =>
        rw [faultsFrom, List.map_cons, List.filter_cons_of_neg, onward, List.getElem?_cons_succ]
        rw [decide_eq_true_iff, inSlot_message, slotPrefix_isPrefix_iff]
        omega

/-- Blank pieces alone make an error without a number. -/
theorem filter_errors_of_blank {text : Text} (blank : ∀ piece ∈ piecesOf text, trim piece = [])
    (number : Nat) :
    (compile text).errors.filter (fun error => slotPrefix number <+: error) = [] := by
  have whole : (compile text).errors = [DefinitionFault.empty.message] ∨
      (compile text).errors = [DefinitionFault.noSlots.message] := by
    have counted := length_slots_add_length_faults (piecesOf text) 1
    have none : (piecesOf text).countP (fun piece => trim piece ≠ []) = 0 := by
      simpa [List.countP_eq_zero] using blank
    rw [none, Nat.add_eq_zero_iff, List.length_eq_zero_iff, List.length_eq_zero_iff] at counted
    rw [errors, compile_eq]
    split
    · exact Or.inl rfl
    · rw [ofOutcomes, counted.1, counted.2]
      exact Or.inr rfl
  have apart {message : Text} (other : message.head? ≠ some (.char 'S')) :
      ¬ slotPrefix number <+: message := by
    rintro ⟨rest, rfl⟩
    exact other rfl
  rcases whole with whole | whole
  · rw [whole, List.filter_cons_of_neg (by simpa using apart (by decide)), List.filter_nil]
  · rw [whole, List.filter_cons_of_neg (by simpa using apart (by decide)), List.filter_nil]

end Numbers

/-- A list of pieces gives as many slots as there are good ones among them. -/
theorem length_filterMap_slot? (ps : List Text) :
    ((ps.map outcome).filterMap Outcome.slot?).length = ps.countP fun piece => IsGood piece := by
  rw [← (forall₂_spells ps).length_eq, List.countP_eq_length_filter]

theorem contributesAt {text piece : Text} {place : Nat}
    (there : (piecesOf text)[place]? = some piece) :
    ContributesAt text place ((outcome piece).contribution (place + 1)) := by
  refine ⟨⟨(((piecesOf text).take place).map outcome).filterMap Outcome.slot?,
    (((piecesOf text).drop (place + 1)).map outcome).filterMap Outcome.slot?, ?_,
    length_filterMap_slot? _, length_filterMap_slot? _⟩, ?_⟩
  · obtain ⟨low, rfl⟩ := List.getElem?_eq_some_iff.1 there
    have parted : piecesOf text = (piecesOf text).take place ++
        [(piecesOf text)[place]] ++ (piecesOf text).drop (place + 1) := by
      simp
    rw [Outcome.slot?_contribution, slots_compile]
    conv_lhs => rw [parted]
    rw [List.map_append, List.map_append, List.filterMap_append, List.filterMap_append]
    congr 2
  · by_cases given : ∃ piece ∈ piecesOf text, trim piece ≠ []
    · rw [errors_compile given, Nat.add_comm place 1, filter_errors, Outcome.error?_contribution,
        List.getElem?_map, there]
      rfl
    · have blank : ∀ piece ∈ piecesOf text, trim piece = [] := by simpa using given
      rw [filter_errors_of_blank blank]
      simp [outcome, blank piece (List.mem_of_getElem? there), Outcome.contribution,
        Contribution.error?]

/-- No fault of a token is worded like that of a sum. -/
theorem wording_ne_of_firstFault {ts : List Text} {fault : SlotFault} (first : FirstFault ts fault)
    (sum : Int) : wording fault ≠ wording (.wrongTotal sum) := by
  intro same
  have letter : (wording fault).head? = some (.char 'p') := by
    rw [same]
    rfl
  obtain ⟨place, here, _⟩ := first
  cases fault with
  | wrongTotal total =>
    unfold faultAt? at here
    split at here
    · split at here
      · split at here <;> cases here
      · split at here <;> cases here
    · split at here <;> cases here
  | unknownRarity token =>
    have begins : some (CodePoint.char 'u') = some (.char 'p') := letter
    exact absurd begins (by decide)
  | missingProbability token =>
    have begins : some (CodePoint.char 'm') = some (.char 'p') := letter
    exact absurd begins (by decide)
  | badProbability token =>
    have begins : some (CodePoint.char 'i') = some (.char 'p') := letter
    exact absurd begins (by decide)

theorem wording_wrongTotal_injective {m n : Nat}
    (same : wording (.wrongTotal m) = wording (.wrongTotal n)) : m = n := by
  have digits := ofChars_injective (List.append_cancel_left (List.append_cancel_right same))
  have plain (k : Nat) : intDigits k = digitsOf k := by simp [intDigits]
  rw [plain, plain] at digits
  exact digitsOf_injective digits

/-- A piece is blamed for its sum exactly when no token is at fault and the sum is no hundred. -/
theorem contributes_wrongTotal_iff {number sum : Nat} {piece : Text} :
    Contributes number piece
        (.error (slotPrefix number ++ wording (.wrongTotal sum))) ↔
      trim piece ≠ [] ∧ Faultless (tokens (trim piece)) ∧
        shared (tokens (trim piece)) ((tokens (trim piece)).length / 2) = sum ∧ sum ≠ 100 := by
  constructor
  · intro given
    generalize made : Contribution.error _ = c at given
    cases given with
    | blank => cases made
    | slot => cases made
    | fault present blamed =>
      have same := List.append_cancel_left (Contribution.error.inj made)
      cases blamed with
      | token first => exact absurd same.symm (wording_ne_of_firstFault first sum)
      | total faultless total other =>
        obtain rfl := wording_wrongTotal_injective same
        exact ⟨present, faultless, total, other⟩
  · rintro ⟨present, faultless, total, other⟩
    exact .fault present (.total faultless total other)

/-- Each piece of a definition contributes by itself. Its text and its number settle whether that is
a slot, an error or nothing. Unless all pieces are blank, the slots and the errors are what the
pieces contribute, in their order, one for each that is not blank. And a piece that has the same
place in two definitions leaves the same in both, whatever the other pieces are. -/
theorem compile_settles_pieces_apart :
    (∀ number piece, ∃! c, Contributes number piece c) ∧
    (∀ number piece (sum : Nat),
      Contributes number piece
          (.error (slotPrefix number ++ wording (.wrongTotal sum))) ↔
        trim piece ≠ [] ∧ Faultless (tokens (trim piece)) ∧
          shared (tokens (trim piece)) ((tokens (trim piece)).length / 2) = sum ∧ sum ≠ 100) ∧
    (∀ text, (∃ piece ∈ piecesOf text, trim piece ≠ []) →
      ∃ cs, List.Forall₂ (fun numbered c => Contributes numbered.2 numbered.1 c)
          ((piecesOf text).zipIdx 1) cs ∧
        (compile text).slots = cs.filterMap Contribution.slot? ∧
        (compile text).errors = cs.filterMap Contribution.error? ∧
        (compile text).slots.length + (compile text).errors.length =
          (piecesOf text).countP fun piece => trim piece ≠ []) ∧
    ∀ text text' place piece, (piecesOf text)[place]? = some piece →
      (piecesOf text')[place]? = some piece →
      ∃ c, Contributes (place + 1) piece c ∧ ContributesAt text place c ∧
        ContributesAt text' place c := by
  refine ⟨fun number piece => ?_, fun _ _ _ => contributes_wrongTotal_iff, fun text given => ?_,
    fun text text' place piece there there' => ?_⟩
  · exact ⟨_, contributes_iff.2 rfl, fun _ other => contributes_iff.1 other⟩
  · refine ⟨_, forall₂_contributes (piecesOf text) 1, ?_, ?_, ?_⟩
    · rw [filterMap_slot?_contributions, slots_compile]
    · rw [filterMap_error?_contributions, errors_compile given]
    · rw [slots_compile, errors_compile given, List.length_map, length_slots_add_length_faults]
  · exact ⟨_, contributes_iff.2 rfl, contributesAt there, contributesAt there'⟩

/-- Good, blank and faulty pieces in turn, and one of them among others. -/
theorem compile_settles_pieces_apart_mixed :
    let text : Text := "c,100; ;x,0,y;neo:U,50,m;r,60,q,40;r,60,u,30;r,0,u,100"
    let text' : Text := "\x7bc,99;;x,0,y\x7d"
    (compile text).slots.length + (compile text).errors.length = 6 ∧
      ∃ c, Contributes 3 "x,0,y" c ∧ ContributesAt text 2 c ∧ ContributesAt text' 2 c := by
  intro text text'
  have given : ∃ piece ∈ piecesOf text, trim piece ≠ [] := by decide +kernel
  obtain ⟨_, _, collected, apart⟩ := compile_settles_pieces_apart
  obtain ⟨_, _, _, _, counted⟩ := collected text given
  refine ⟨counted.trans (by decide +kernel), ?_⟩
  exact apart text text' 2 "x,0,y" (by decide +kernel) (by decide +kernel)

end PackOpening.Definition
