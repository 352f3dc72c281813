import PackOpening.Text.CodePoint

/-!
Named values in the order in which the names were first given. A name given again keeps its place
and takes the later value.
-/
namespace PackOpening.Named

variable {α : Type}

/-- Gives a name its value: in place if the name is there, and otherwise at the end. -/
def put (name : Text) (value : α) : List (Text × α) → List (Text × α)
  | [] => [(name, value)]
  | (n, v) :: rest => if n = name then (name, value) :: rest else (n, v) :: put name value rest

/-- Carries out a sequence of assignments. -/
def update (members assignments : List (Text × α)) : List (Text × α) :=
  assignments.foldl (fun members (name, value) => put name value members) members

/-- The names after an assignment: the old ones, and the new one if it was not among them. -/
theorem map_fst_put (name : Text) (value : α) (members : List (Text × α)) :
    (put name value members).map Prod.fst =
      if name ∈ members.map Prod.fst then members.map Prod.fst
      else members.map Prod.fst ++ [name] := by
  induction members with
  | nil => simp [put]
  | cons m rest ih =>
    obtain ⟨n, v⟩ := m
    by_cases h : n = name
    · subst h; simp [put]
    · have h' : ¬ name = n := fun e => h e.symm
      simp only [put, h, if_false, List.map_cons, ih, List.mem_cons, h', false_or]
      split <;> simp_all

theorem lookup_put_self (name : Text) (value : α) (members : List (Text × α)) :
    (put name value members).lookup name = some value := by
  induction members with
  | nil => simp [put]
  | cons m rest ih =>
    obtain ⟨n, v⟩ := m
    by_cases h : n = name
    · subst h; simp [put]
    · have h' : (name == n) = false := by simpa using fun e => h e.symm
      simp [put, h, List.lookup_cons, h', ih]

theorem lookup_put_of_ne {name other : Text} (h : other ≠ name) (value : α)
    (members : List (Text × α)) :
    (put name value members).lookup other = members.lookup other := by
  induction members with
  | nil =>
    have h' : (other == name) = false := by simpa using h
    simp [put, List.lookup_cons, h']
  | cons m rest ih =>
    obtain ⟨n, v⟩ := m
    by_cases hn : n = name
    · subst hn
      have h' : (other == n) = false := by simpa using h
      simp [put, List.lookup_cons, h']
    · simp only [put, hn, if_false, List.lookup_cons, ih]

end PackOpening.Named
