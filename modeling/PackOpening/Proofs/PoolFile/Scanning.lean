import PackOpening.PoolFile.Scan
import PackOpening.Proofs.Pool.Grouping
import PackOpening.Proofs.Text.Order

/-!
What a scan of a folder comes to.

Every entry whose name fits is tried once, in the order of the names. What it comes to is decided by
the entry alone: a loaded file gives its name and all of its cards, any other gives a fault and no
card. One step adds exactly this to what was found before, so a whole scan puts together what its
entries give, set by set.
-/
namespace PackOpening.PoolFile

open PackOpening.Text

/-- A name that ends as those of pool files do. -/
def IsPoolName (name : Text) : Prop := ∃ stem, name = stem ++ (".json" : Text)

theorem hasPoolName_iff {name : Text} : hasPoolName name = true ↔ IsPoolName name := by
  rw [hasPoolName, List.isSuffixOf_iff_suffix]
  exact exists_congr fun stem => eq_comm

instance : DecidablePred IsPoolName := fun _ => decidable_of_iff _ hasPoolName_iff

section

variable (room : Nat) (entry : Text × Node)

/-- The name of an entry that can be loaded. -/
def loaded? : Option Text :=
  match ofNode room entry.2 with
  | .ok _ => some entry.1
  | .error _ => none

/-- The name and the fault of an entry that cannot be loaded. -/
def refused? : Option (Text × Fault) :=
  match ofNode room entry.2 with
  | .ok _ => none
  | .error fault => some (entry.1, fault)

/-- The cards of a set that an entry gives: none unless it can be loaded. -/
def cardsFor (code : Text) : List Card :=
  match ofNode room entry.2 with
  | .ok cards => cards.filter fun c => c.setCode == code
  | .error _ => []

end

theorem ofNode_of_refused {room : Nat} {entry : Text × Node} {name : Text} {fault : Fault}
    (refused : refused? room entry = some (name, fault)) : ofNode room entry.2 = .error fault := by
  unfold refused? at refused
  split at refused
  · cases refused
  · next read =>
    cases refused
    exact read

section Reasons

/-- What is wrong with an encoded text at its first bad byte. -/
def decodingReason (total : Nat) (fault : Utf8.Fault) : String :=
  let start := total - fault.left
  let last := start + fault.size - 1
  let byte := String.ofList (Utf8.byteDigits fault.first)
  let stretch := if fault.size = 1 then s!"byte 0x{byte} in position {start}"
    else s!"bytes in position {start}-{last}"
  let about := match fault.reason with
    | .badStart => "invalid start byte"
    | .badContinuation => "invalid continuation byte"
    | .unexpectedEnd => "unexpected end of data"
  s!"'utf-8' codec can't decode {stretch}: {about}"

/-- A complaint about the place behind the first part of a text. -/
def complaint (about : String) (before : Text) : String :=
  let line := before.count (.char '\n') + 1
  let column := (before.reverse.takeWhile (· != .char '\n')).length + 1
  let offset := before.length
  s!"{about}: line {line} column {column} (char {offset})"

/-- What is wrong with a text that should spell data. -/
def parsingReason (text : Text) (fault : Json.Fault) : String :=
  let before := text.take (text.length - fault.left)
  match fault.cause with
  | .byteOrderMark => complaint "Unexpected UTF-8 BOM (decode using utf-8-sig)" before
  | .expectedValue => complaint "Expecting value" before
  | .expectedName => complaint "Expecting property name enclosed in double quotes" before
  | .expectedColon => complaint "Expecting ':' delimiter" before
  | .expectedComma => complaint "Expecting ',' delimiter" before
  | .extraData => complaint "Extra data" before
  | .unterminatedText => complaint "Unterminated string starting at" before
  | .controlCharacter => complaint "Invalid control character at" before
  | .badEscape => complaint "Invalid \\escape" before
  | .badUnitEscape => complaint "Invalid \\uXXXX escape" before
  | .tooManyDigits count =>
    let limit := 4300
    s!"Exceeds the limit ({limit} digits) for integer string conversion: value has {count}" ++
      " digits; use sys.set_int_max_str_digits() to increase the limit"
  | .nestedTooDeep container =>
    let kind := match container with
      | .list => "array"
      | .record => "object"
    s!"maximum recursion depth exceeded while decoding a JSON {kind} from a unicode string"

/-- What is wrong with an item of the list of cards. -/
def cardReason : Card.ExportFault → String
  | .notAnObject .null => "'NoneType' object is not subscriptable"
  | .notAnObject .truth => "'bool' object is not subscriptable"
  | .notAnObject .integer => "'int' object is not subscriptable"
  | .notAnObject .number => "'float' object is not subscriptable"
  | .notAnObject .text => "string indices must be integers, not 'str'"
  | .notAnObject .list => "list indices must be integers or slices, not str"
  | .missingId => "'id'"
  | .flawed flaws =>
    let count := flaws.length
    if count = 1 then s!"{count} validation error for Card"
    else s!"{count} validation errors for Card"

/-- Why an entry shown under a path could not be loaded. Only a folder cannot be opened. -/
def reason (path : Text) : Fault → Text
  | .access _ => "[Errno 21] Is a directory: " ++ quoted path
  | .undecodable fault total => decodingReason total fault
  | .unreadable fault text => parsingReason text fault
  | .notAList => path ++ (": expected a list of cards" : Text)
  | .badCard index fault =>
    path ++ ": card #" ++ ofChars (Numeric.digitsOf index) ++ " is malformed (" ++
      cardReason fault ++ ")"

/-- The line that reports a refused entry of a folder shown under the given name. -/
def reportLine (shownFolder : Text) (refused : Text × Fault) : Text :=
  refused.1 ++ (": " : Text) ++ reason (shownFolder ++ "/" ++ refused.1) refused.2

theorem toString_nat (n : Nat) : toString n = String.ofList (Numeric.digitsOf n) := rfl

theorem toString_text (s : String) : toString s = s := rfl

theorem decodingReason_eq (total : Nat) (fault : Utf8.Fault) :
    fault.message total = decodingReason total fault := by
  unfold Utf8.Fault.message decodingReason
  simp only [toString_nat, toString_text, Numeric.digitsOf]
  cases fault.reason
  · simp only [Utf8.Reason.message]
  · simp only [Utf8.Reason.message]
  · simp only [Utf8.Reason.message]

theorem complaint_eq (text : Text) (fault : Json.Fault) (about : String) :
    about ++ ": line " ++ String.ofList (Numeric.digitsOf (fault.place text).line) ++ " column " ++
        String.ofList (Numeric.digitsOf (fault.place text).column) ++ " (char " ++
        String.ofList (Numeric.digitsOf (fault.place text).offset) ++ ")" =
      complaint about (text.take (text.length - fault.left)) := by
  simp only [complaint, toString_nat, toString_text, Json.Fault.place, Json.Place.after]

theorem parsingReason_eq (text : Text) (fault : Json.Fault) :
    fault.message text = parsingReason text fault := by
  obtain ⟨cause, left⟩ := fault
  cases cause with
  | tooManyDigits count =>
    unfold Json.Fault.message Json.Cause.message parsingReason
    simp only [toString_nat, toString_text, Json.digitLimit]
  | nestedTooDeep container =>
    unfold Json.Fault.message Json.Cause.message parsingReason
    cases container with
    | list => simp only [Json.Container.name, toString_text]
    | record => simp only [Json.Container.name, toString_text]
  | _ => exact complaint_eq text _ _

theorem cardReason_eq (fault : Card.ExportFault) : fault.message = cardReason fault := by
  cases fault with
  | notAnObject found => cases found <;> rfl
  | missingId => rfl
  | flawed flaws =>
    unfold Card.ExportFault.message Card.flawCount cardReason
    simp only [toString_nat, toString_text]
    split
    · rfl
    · rfl

theorem cardsFrom_ne_access {fault : Path.Fault} (items : List Json) (index : Nat) :
    cardsFrom index items ≠ .error (.access fault) := by
  induction items generalizing index with
  | nil => exact nofun
  | cons item rest ih =>
    have later := ih (index + 1)
    unfold cardsFrom
    split
    · exact nofun
    · split
      · next refused => rwa [← refused]
      · exact nofun

/-- Of all that is found in a folder, only a folder cannot be opened. -/
theorem eq_isFolder_of_ofNode {room : Nat} {node : Node} {fault : Path.Fault}
    (refused : ofNode room node = .error (.access fault)) : fault = .isFolder := by
  cases node with
  | folder entries =>
    cases refused
    rfl
  | file bytes =>
    rw [ofNode] at refused
    unfold ofBytes ofText ofData at refused
    split at refused
    · cases refused
    · split at refused
      · cases refused
      · split at refused
        · cases refused
        · exact absurd refused (cardsFrom_ne_access _ _)

/-- What is reported of an entry is why it was refused. -/
theorem message_eq_reason {room : Nat} {node : Node} {fault : Fault}
    (refused : ofNode room node = .error fault) (path : Text) :
    fault.message path path = reason path fault := by
  cases fault with
  | access fault =>
    rw [eq_isFolder_of_ofNode refused]
    rfl
  | undecodable fault total => exact congrArg Text.ofString (decodingReason_eq total fault)
  | unreadable fault text => exact congrArg Text.ofString (parsingReason_eq text fault)
  | notAList => rfl
  | badCard index fault => simp only [Fault.message, reason, cardReason_eq]

end Reasons

namespace Scan

variable {room : Nat} {before after : Scan} {name : Text} {node : Node}
  {tried : List (Text × Node)}

/-- Trying some entries adds the names, the faults and the cards that they give. -/
structure Adds (room : Nat) (tried : List (Text × Node)) (before after : Scan) : Prop where
  files : after.files = before.files ++ tried.filterMap (loaded? room)
  faults : after.faults = before.faults ++ tried.filterMap (refused? room)
  of : ∀ code, after.pools.of code = before.pools.of code ++ tried.flatMap (cardsFor room · code)
  tidy : before.pools.IsTidy → after.pools.IsTidy

theorem adds_nil : Adds room [] before before :=
  ⟨by simp, by simp, by simp, id⟩

theorem adds_of_add (added : before.add name (ofNode room node) = .ok after) :
    Adds room [(name, node)] before after := by
  cases read : ofNode room node with
  | ok cards =>
    rw [read] at added
    cases added
    have grouped := Pool.isTidy_bySet cards
    refine ⟨by simp [loaded?, read], by simp [refused?, read], fun code => ?_, fun tidy => ?_⟩
    · simp [SetPools.of_join _ grouped.once, Pool.of_bySet, cardsFor, read]
    · exact tidy.join grouped
  | error fault =>
    rw [read, add] at added
    split at added
    · cases added
    · cases added
      exact ⟨by simp [loaded?, read], by simp [refused?, read], by simp [cardsFor, read], id⟩

theorem Adds.trans {middle : Scan} {later : List (Text × Node)}
    (first : Adds room tried before middle) (second : Adds room later middle after) :
    Adds room (tried ++ later) before after := by
  refine ⟨?_, ?_, fun code => ?_, fun tidy => second.tidy (first.tidy tidy)⟩
  · rw [second.files, first.files, List.filterMap_append, List.append_assoc]
  · rw [second.faults, first.faults, List.filterMap_append, List.append_assoc]
  · rw [second.of, first.of, List.flatMap_append, List.append_assoc]

theorem adds_of_addAll (added : before.addAll room tried = .ok after) :
    Adds room tried before after := by
  induction tried generalizing before with
  | nil =>
    cases added
    exact adds_nil
  | cons entry rest ih =>
    obtain ⟨name, node⟩ := entry
    unfold addAll at added
    split at added
    · cases added
    · next middle step => exact (adds_of_add step).trans (ih added)

/-- No file stops the scan but one that is nested too deep. -/
theorem exists_addAll_eq_ok (readable : ∀ entry ∈ tried, ∀ fault,
      ofNode room entry.2 = .error fault → fault.breach? = none) (before : Scan) :
    ∃ after, before.addAll room tried = .ok after := by
  induction tried generalizing before with
  | nil => exact ⟨before, rfl⟩
  | cons entry rest ih =>
    obtain ⟨name, node⟩ := entry
    have onward := ih fun entry member => readable entry (List.mem_cons_of_mem _ member)
    unfold addAll
    cases read : ofNode room node with
    | ok cards => exact onward _
    | error fault =>
      have none := readable _ List.mem_cons_self fault read
      simp only [add, none]
      exact onward _

end Scan

/-- The entries that are tried are those whose names fit. -/
theorem candidates_perm (entries : List (Text × Node)) :
    (candidates entries).Perm (entries.filter fun entry => IsPoolName entry.1) := by
  have fits : (fun entry : Text × Node => hasPoolName entry.1) =
      fun entry => decide (IsPoolName entry.1) :=
    funext fun entry => Bool.eq_iff_iff.2 (by simp [hasPoolName_iff])
  rw [← fits]
  exact List.mergeSort_perm _ _

/-- Each entry gives its name either to the loaded files or to the refused ones. -/
theorem names_perm (room : Nat) (tried : List (Text × Node)) :
    (tried.filterMap (loaded? room) ++ (tried.filterMap (refused? room)).map Prod.fst).Perm
      (tried.map Prod.fst) := by
  induction tried with
  | nil => exact .refl []
  | cons entry rest ih =>
    cases read : ofNode room entry.2 with
    | ok cards => simpa [loaded?, refused?, read] using ih
    | error fault =>
      simp only [loaded?, refused?, read, List.filterMap_cons, List.map_cons]
      exact List.perm_middle.trans (ih.cons _)

/-- A scan loses nothing, lists nothing twice and takes a file as a whole or not at all. Whatever
files and folders are there, as long as no file that is tried is nested too deep, it comes to an
end. The entries whose names fit are settled in the order of their names: those that can be loaded
are listed as loaded, each of the others has one line in the errors, and no other name is listed
anywhere. The pool of a set holds the cards of that set in the loaded files, file by file, and a set
is listed if there are any. -/
theorem scan_settles_every_entry (room : Nat) (shownFolder : Text) (entries : List (Text × Node))
    (readable : ∀ entry ∈ entries, IsPoolName entry.1 → ∀ fault,
      ofNode room entry.2 = .error fault → fault.breach? = none) :
    ∃ (scan : Scan) (tried : List (Text × Node)), scanThrough room entries = .ok scan ∧
      tried.Perm (entries.filter fun entry => IsPoolName entry.1) ∧
      (tried.map Prod.fst).Pairwise (· ≤ ·) ∧
      scan.files = tried.filterMap (loaded? room) ∧
      scan.errors shownFolder = (tried.filterMap (refused? room)).map (reportLine shownFolder) ∧
      (scan.files ++ (tried.filterMap (refused? room)).map Prod.fst).Perm (tried.map Prod.fst) ∧
      (scan.pools.map Prod.fst).Nodup ∧
      ∀ code, scan.pools.of code = tried.flatMap (cardsFor room · code) ∧
        (code ∈ scan.pools.map Prod.fst ↔ tried.flatMap (cardsFor room · code) ≠ []) := by
  have fitting := candidates_perm entries
  have readable' : ∀ entry ∈ candidates entries, ∀ fault,
      ofNode room entry.2 = .error fault → fault.breach? = none := by
    intro entry member
    obtain ⟨there, fits⟩ := List.mem_filter.1 (fitting.mem_iff.1 member)
    exact readable entry there (of_decide_eq_true fits)
  obtain ⟨scan, scanned⟩ := Scan.exists_addAll_eq_ok readable' Scan.empty
  have adds := Scan.adds_of_addAll scanned
  have tidy := adds.tidy SetPools.isTidy_nil
  have files : scan.files = (candidates entries).filterMap (loaded? room) := adds.files
  have faults : scan.faults = (candidates entries).filterMap (refused? room) := adds.faults
  have pool (code : Text) :
      scan.pools.of code = (candidates entries).flatMap (cardsFor room · code) := adds.of code
  refine ⟨scan, candidates entries, scanned, fitting, Text.pairwise_mergeSort_inOrder _ _, files,
    ?_, ?_, tidy.once, fun code => ⟨pool code, ?_⟩⟩
  · rw [Scan.errors, faults]
    refine List.map_congr_left fun (name, fault) member => ?_
    obtain ⟨entry, _, refused⟩ := List.mem_filterMap.1 member
    simp only [reportLine, message_eq_reason (ofNode_of_refused refused)]
  · rw [files]
    exact names_perm room _
  · rw [← pool, tidy.listed_iff]

/-- A file whose second card has no id gives nothing, although its first card is sound. A folder
with a fitting name is refused as well, and the two sound files share a set. -/
theorem scan_settles_every_entry_late_fault :
    let file (text : String) : Node := .file (text.toList.map fun c => UInt8.ofNat c.toNat)
    let first := file "\x7b\"data\":[\x7b\"id\":\"1\",\"set\":\"s\"\x7d]\x7d"
    let second := file "[\x7b\"id\":\"2\",\"set\":\"s\"\x7d,\x7b\"id\":\"3\",\"set\":\"t\"\x7d]"
    let faulty := file "[\x7b\"id\":\"4\",\"set\":\"s\"\x7d,\x7b\"set\":\"s\"\x7d]"
    let entries : List (Text × Node) := [("a.json", first), ("b.json", second),
      ("c.json", faulty), ("d", file ""), ("d.json", .folder [])]
    (∀ entry ∈ entries, IsPoolName entry.1 → ∀ fault,
      ofNode 3 entry.2 = .error fault → fault.breach? = none) ∧
    ∃ (scan : Scan) (tried : List (Text × Node)), scanThrough 3 entries = .ok scan ∧
      scan.files = tried.filterMap (loaded? 3) ∧
      scan.pools.of "s" = tried.flatMap (cardsFor 3 · "s") ∧
      (scan.files, (scan.pools.of "s").map Card.id, (scan.pools.of "t").map Card.id) =
        ((["a.json", "b.json"], ["1", "2"], ["3"]) : List Text × List Text × List Text) := by
  intro file first second faulty entries
  have settled : ∀ entry ∈ entries, (match ofNode 3 entry.2 with
      | .ok _ => none
      | .error fault => fault.breach?) = none := by
    decide +kernel
  have readable : ∀ entry ∈ entries, IsPoolName entry.1 → ∀ fault,
      ofNode 3 entry.2 = .error fault → fault.breach? = none := by
    intro entry member _ fault refused
    simpa [refused] using settled entry member
  have ordered : (entries.filter fun entry => hasPoolName entry.1).Pairwise
      fun a b => Text.inOrder a.1 b.1 = true := by
    decide +kernel
  obtain ⟨scan, tried, scanned, _, _, files, _, _, _, pools⟩ :=
    scan_settles_every_entry 3 "pools" entries readable
  have found : (scanThrough 3 entries).toOption.map (fun scan =>
      (scan.files, (scan.pools.of "s").map Card.id, (scan.pools.of "t").map Card.id)) =
      some ((["a.json", "b.json"], ["1", "2"], ["3"]) : List Text × List Text × List Text) := by
    rw [scanThrough, candidates, List.mergeSort_of_pairwise ordered]
    decide +kernel
  rw [scanned] at found
  exact ⟨readable, scan, tried, scanned, files, (pools "s").1, Option.some.inj found⟩

end PackOpening.PoolFile
