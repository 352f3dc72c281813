import PackOpening.Proofs.Json.RoundTrip

/-!
Which values are refused when they are printed, and which when they are read.

Both is so exactly if a value is nested too deep or one of its integers is too long, though the room
need not be the same. What stands in front of the first part at fault is read as usual, and the
fault ends the reading.
-/
namespace PackOpening.Json

open PackOpening.Numeric PackOpening.Text

/-- Reading fails, if not for want of steps. -/
def FailsValue (need room : Nat) (text : Text) : Prop :=
  ∀ steps, need ≤ steps → ∃ fault, readValue steps room text = .error fault

@[inherit_doc FailsValue]
def FailsItems (need room : Nat) (text : Text) : Prop :=
  ∀ steps, need ≤ steps → ∃ fault, readItems steps room text = .error fault

@[inherit_doc FailsValue]
def FailsMembers (need room : Nat) (text : Text) : Prop :=
  ∀ steps, need ≤ steps → ∃ fault, readMembers steps room text = .error fault

section Rules

variable {need need' room : Nat} {text next : Text} {value : Json} {name : Text}

theorem FailsValue.mono (fails : FailsValue need room text) (le : need ≤ need') :
    FailsValue need' room text :=
  fun steps enough => fails steps (Nat.le_trans le enough)

theorem FailsItems.mono (fails : FailsItems need room text) (le : need ≤ need') :
    FailsItems need' room text :=
  fun steps enough => fails steps (Nat.le_trans le enough)

theorem FailsMembers.mono (fails : FailsMembers need room text) (le : need ≤ need') :
    FailsMembers need' room text :=
  fun steps enough => fails steps (Nat.le_trans le enough)

theorem FailsValue.number {c : Char} {fault : Fault} (starts : StartsNumber c)
    (read : readAtom (.char c :: text) = .error fault) : FailsValue 1 room (.char c :: text)
  | steps + 1, _ => by
    have quote := starts.ne (d := '"') rfl (by decide)
    have list := starts.ne (d := '[') rfl (by decide)
    have record := starts.ne (d := '\x7b') rfl (by decide)
    refine ⟨fault, ?_⟩
    rw [readValue, read] <;> simp [quote, list, record]

theorem FailsValue.list_no_room : FailsValue 1 0 (.char '[' :: text)
  | _ + 1, _ => ⟨_, rfl⟩

theorem FailsValue.record_no_room : FailsValue 1 0 (.char '\x7b' :: text)
  | _ + 1, _ => ⟨_, rfl⟩

theorem FailsItems.here (fails : FailsValue need room text) : FailsItems (need + 1) room text
  | steps + 1, enough => by
    obtain ⟨fault, failed⟩ := fails steps (Nat.le_of_succ_le_succ enough)
    exact ⟨fault, by simp only [readItems, failed, bind, Except.bind]⟩

theorem FailsItems.later (start : skipLayout next = next)
    (reads : ReadsValue need room text value (.char ',' :: .char ' ' :: next))
    (fails : FailsItems need room next) : FailsItems (need + 1) room text
  | steps + 1, enough => by
    have enough := Nat.le_of_succ_le_succ enough
    obtain ⟨fault, failed⟩ := fails steps enough
    rw [readItems_behind start (reads steps enough), failed]
    exact ⟨fault, rfl⟩

theorem FailsMembers.here (start : skipLayout next = next)
    (named : ReadsText need text name (.char ':' :: .char ' ' :: next))
    (fails : FailsValue need room next) : FailsMembers (need + 1) room (.char '"' :: text)
  | steps + 1, enough => by
    have colon : skipLayout (.char ':' :: .char ' ' :: next) = .char ':' :: .char ' ' :: next := rfl
    have skipped : skipLayout (.char ' ' :: next) = next := start
    have enough := Nat.le_of_succ_le_succ enough
    obtain ⟨fault, failed⟩ := fails steps enough
    exact ⟨fault, by
      simp only [readMembers, named _ steps enough, failed, bind, Except.bind, colon, skipped]⟩

theorem FailsMembers.later {behind : Text} (start : skipLayout next = next)
    (start' : skipLayout behind = behind)
    (named : ReadsText need text name (.char ':' :: .char ' ' :: next))
    (reads : ReadsValue need room next value (.char ',' :: .char ' ' :: behind))
    (fails : FailsMembers need room behind) :
    FailsMembers (need + 1) room (.char '"' :: text)
  | steps + 1, enough => by
    have enough := Nat.le_of_succ_le_succ enough
    obtain ⟨fault, failed⟩ := fails steps enough
    rw [readMembers_behind start start' (named · steps enough) (reads steps enough), failed]
    exact ⟨fault, rfl⟩

theorem FailsValue.list (start : skipLayout text = text) (first : text.head? ≠ some (.char ']'))
    (fails : FailsItems need room text) : FailsValue (need + 1) (room + 1) (.char '[' :: text)
  | steps + 1, enough => by
    obtain ⟨fault, failed⟩ := fails steps (Nat.le_of_succ_le_succ enough)
    rw [readValue_list start first, failed]
    exact ⟨fault, rfl⟩

theorem FailsValue.record (fails : FailsMembers need room (.char '"' :: text)) :
    FailsValue (need + 1) (room + 1) (.char '\x7b' :: .char '"' :: text)
  | steps + 1, enough => by
    obtain ⟨fault, failed⟩ := fails steps (Nat.le_of_succ_le_succ enough)
    rw [readValue_record, failed]
    exact ⟨fault, rfl⟩

end Rules

/-- Whether a value is not nested too deep for some room, and holds no integer that is too long. -/
def Fits (room : Nat) (j : Json) : Prop := depth j ≤ room ∧ isBrief j = true

instance (room : Nat) (j : Json) : Decidable (Fits room j) :=
  inferInstanceAs (Decidable (depth j ≤ room ∧ isBrief j = true))

/-- What fits holds nothing that does not. -/
theorem Fits.member {room : Nat} {members : List (Text × Json)} {member : Text × Json}
    (fits : Fits room (.obj members)) (there : member ∈ members) : Fits room member.2 :=
  ⟨depthOfMembers_le_iff.1 (Nat.le_of_succ_le fits.1) member there,
    haveBrief_iff.1 fits.2 member there⟩

section Printing

theorem digitFault?_eq_none_iff {n : Int} : digitFault? n = none ↔ isBrief (.int n) = true := by
  simp [digitFault?, isBrief]

mutual

/-- A value is printed exactly if it fits. -/
theorem printFault?_eq_none_iff : ∀ {room : Nat} {j : Json},
    printFault? room j = none ↔ Fits room j
  | _, .null | _, .bool _ | _, .float _ | _, .str _ => by
    simp [printFault?, Fits, depth, isBrief]
  | room, .int n => by
    rw [printFault?, digitFault?_eq_none_iff]
    exact (and_iff_right (Nat.zero_le room)).symm
  | 0, .arr _ | 0, .obj _ => by simp [printFault?, Fits, depth]
  | room + 1, .arr items => by
    rw [printFault?, printFaultItems?_eq_none_iff]
    simp [Fits, depth, isBrief]
  | room + 1, .obj members => by
    rw [printFault?, printFaultMembers?_eq_none_iff]
    simp [Fits, depth, isBrief]

theorem printFaultItems?_eq_none_iff : ∀ {room : Nat} {items : List Json},
    printFaultItems? room items = none ↔ depthOfItems items ≤ room ∧ areBrief items = true
  | _, [] => by simp [printFaultItems?, depthOfItems, areBrief]
  | room, item :: rest => by
    rw [printFaultItems?, Option.or_eq_none_iff, printFault?_eq_none_iff,
      printFaultItems?_eq_none_iff, depthOfItems, Nat.max_le, areBrief, Bool.and_eq_true]
    exact and_and_and_comm

theorem printFaultMembers?_eq_none_iff : ∀ {room : Nat} {members : List (Text × Json)},
    printFaultMembers? room members = none ↔
      depthOfMembers members ≤ room ∧ haveBrief members = true
  | _, [] => by simp [printFaultMembers?, depthOfMembers, haveBrief]
  | room, (_, value) :: rest => by
    rw [printFaultMembers?, Option.or_eq_none_iff, printFault?_eq_none_iff,
      printFaultMembers?_eq_none_iff, depthOfMembers, Nat.max_le, haveBrief, Bool.and_eq_true]
    exact and_and_and_comm

end

end Printing

-- The parts in front of the first one that does not fit are read by `readsValue_render`, within the
-- same number of steps.
mutual

/-- A printed value that does not fit is refused. -/
theorem failsValue_render : ∀ (j : Json) {room : Nat} {rest : Text}, ¬ Fits room j → Ends rest →
    FailsValue (2 * (render j).length) room (ofChars (render j) ++ rest)
  | .null, room, _, wide, _ => absurd ⟨Nat.zero_le room, rfl⟩ wide
  | .bool _, room, _, wide, _ => absurd ⟨Nat.zero_le room, rfl⟩ wide
  | .float _, room, _, wide, _ => absurd ⟨Nat.zero_le room, rfl⟩ wide
  | .str _, room, _, wide, _ => absurd ⟨Nat.zero_le room, rfl⟩ wide
  | .int n, room, rest, wide, ends => by
    have long : digitLimit < (digitsOf n.natAbs).length := by
      by_contra short
      exact wide ⟨Nat.zero_le room, decide_eq_true (Nat.not_lt.1 short)⟩
    have read := readAtom_intDigits n ends
    rw [if_pos long] at read
    obtain ⟨c, others, start, starts⟩ := intDigits_starts n
    rw [start] at read
    rw [render, start]
    exact (FailsValue.number starts read).mono (by simp; omega)
  | .arr items, 0, rest, _, _ => by
    rw [ofChars_list]
    exact FailsValue.list_no_room.mono (by simp [render]; omega)
  | .arr [], room + 1, _, wide, _ => absurd ⟨Nat.succ_le_succ (Nat.zero_le room), rfl⟩ wide
  | .arr (item :: others), room + 1, rest, wide, _ => by
    have fails := failsItems_render (item :: others) room rest (by simp) fun fit =>
      wide ⟨Nat.succ_le_succ fit.1, fit.2⟩
    have start := skipLayout_renderItems item others (.char ']' :: rest)
    have first := head?_renderItems item others (.char ']' :: rest)
    rw [ofChars_list]
    refine (FailsValue.list start first fails).mono ?_
    simp only [render, List.length_cons, List.length_append]
    omega
  | .obj members, 0, rest, _, _ => by
    rw [ofChars_record]
    exact FailsValue.record_no_room.mono (by simp [render]; omega)
  | .obj [], room + 1, _, wide, _ => absurd ⟨Nat.succ_le_succ (Nat.zero_le room), rfl⟩ wide
  | .obj ((name, value) :: others), room + 1, rest, wide, _ => by
    have fails := failsMembers_render ((name, value) :: others) room rest (by simp)
      fun fit => wide ⟨Nat.succ_le_succ fit.1, fit.2⟩
    obtain ⟨text, start⟩ := renderMembers_cons name value others (.char '\x7d' :: rest)
    rw [start] at fails
    rw [ofChars_record, start]
    refine (FailsValue.record fails).mono ?_
    simp only [render, List.length_cons, List.length_append]
    omega

theorem failsItems_render : ∀ (items : List Json) (room : Nat) (rest : Text), items ≠ [] →
    ¬ (depthOfItems items ≤ room ∧ areBrief items = true) →
    FailsItems (2 * (renderItems items).length + 1) room
      (ofChars (renderItems items) ++ .char ']' :: rest)
  | [item], room, rest, _, wide => by
    simp only [depthOfItems, areBrief, Nat.max_zero, Bool.and_true] at wide
    exact FailsItems.here (failsValue_render item wide (.list rest))
  | item :: next :: others, room, rest, _, wide => by
    have start := skipLayout_renderItems next others (.char ']' :: rest)
    have ends := Ends.item (.char ' ' :: (ofChars (renderItems (next :: others)) ++
      .char ']' :: rest))
    have length := length_items item next others
    rw [ofChars_items]
    by_cases fits : Fits room item
    · obtain ⟨item', reads, _⟩ := readsValue_render item fits.1 fits.2 ends
      refine FailsItems.later start (reads.mono (by omega))
        ((failsItems_render (next :: others) room rest (by simp) fun fit => wide ?_).mono
          (by omega))
      rw [depthOfItems, Nat.max_le, areBrief, Bool.and_eq_true]
      exact ⟨⟨fits.1, fit.1⟩, fits.2, fit.2⟩
    · exact FailsItems.here ((failsValue_render item fits ends).mono (by omega))

theorem failsMembers_render : ∀ (members : List (Text × Json)) (room : Nat) (rest : Text),
    members ≠ [] → ¬ (depthOfMembers members ≤ room ∧ haveBrief members = true) →
    FailsMembers (2 * (renderMembers members).length + 1) room
      (ofChars (renderMembers members) ++ .char '\x7d' :: rest)
  | [(name, value)], room, rest, _, wide => by
    simp only [depthOfMembers, haveBrief, Nat.max_zero, Bool.and_true] at wide
    obtain ⟨name', named, _⟩ := readsText_quoted name (.char ':' :: .char ' ' ::
      (ofChars (render value) ++ .char '\x7d' :: rest))
    have start := skipLayout_render value (.char '\x7d' :: rest)
    have length := length_member name value
    rw [ofChars_member]
    exact FailsMembers.here start (named.mono (by omega))
      ((failsValue_render value wide (.record rest)).mono (by omega))
  | (name, value) :: next :: others, room, rest, _, wide => by
    let behind := ofChars (renderMembers (next :: others)) ++ .char '\x7d' :: rest
    obtain ⟨name', named, _⟩ := readsText_quoted name (.char ':' :: .char ' ' ::
      (ofChars (render value) ++ .char ',' :: .char ' ' :: behind))
    have start := skipLayout_render value (.char ',' :: .char ' ' :: behind)
    have start' : skipLayout behind = behind := skipLayout_renderMembers next others _
    have ends := Ends.item (.char ' ' :: behind)
    have length := length_members name value next others
    rw [ofChars_members]
    by_cases fits : Fits room value
    · obtain ⟨value', reads, _⟩ := readsValue_render value fits.1 fits.2 ends
      refine FailsMembers.later start start' (named.mono (by omega)) (reads.mono (by omega))
        ((failsMembers_render (next :: others) room rest (by simp) fun fit => wide ?_).mono
          (by omega))
      rw [depthOfMembers, Nat.max_le, haveBrief, Bool.and_eq_true]
      exact ⟨⟨fits.1, fit.1⟩, fits.2, fit.2⟩
    · exact FailsMembers.here start (named.mono (by omega))
        ((failsValue_render value fits ends).mono (by omega))

end

/-- A printed value is read exactly if it fits. -/
theorem read_render_iff {j : Json} {room : Nat} :
    (∃ j', read room (ofChars (render j)) = .ok j') ↔ Fits room j := by
  constructor
  · rintro ⟨j', read⟩
    by_contra wide
    have fails := failsValue_render j wide .text
    rw [List.append_nil] at fails
    obtain ⟨fault, failed⟩ := fails (2 * (ofChars (render j)).length + 2) (by simp [ofChars])
    obtain ⟨within, start⟩ := read_render_eq room j
    rw [within, readWithin, start, failed] at read
    cases read
  · intro fits
    obtain ⟨j', read, _⟩ := read_render fits.1 fits.2
    exact ⟨j', read⟩

/-- Lists in lists. -/
def nested : Nat → Json
  | 0 => .arr []
  | n + 1 => .arr [nested n]

theorem depth_nested (n : Nat) : depth (nested n) = n + 1 := by
  induction n with
  | zero => rfl
  | succ n ih => simp [nested, depth, depthOfItems, ih]

theorem isBrief_nested (n : Nat) : isBrief (nested n) = true := by
  induction n with
  | zero => rfl
  | succ n ih => simp [nested, isBrief, areBrief, ih]

theorem length_digitsOf_tenTo {count : Nat} (positive : 0 < count) :
    count < (digitsOf (tenTo count)).length := by
  by_contra short
  have small := (Nat.length_toDigits_le_iff (by decide) positive).1 (Nat.not_lt.1 short)
  exact absurd small (Nat.lt_irrefl _)

/-- There are integers of too many digits. -/
theorem exists_not_isBrief : ∃ n : Nat, isBrief (.int n) = false := by
  obtain ⟨n, long⟩ : ∃ n : Nat, digitLimit < (digitsOf n).length :=
    ⟨tenTo digitLimit, length_digitsOf_tenTo (by decide)⟩
  exact ⟨n, decide_eq_false (Nat.not_le.2 long)⟩

end PackOpening.Json
