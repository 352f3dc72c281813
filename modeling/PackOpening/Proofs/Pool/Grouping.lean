import PackOpening.Pool.Basic

/-!
Cards grouped by set, and groups put behind each other.

Grouping and putting together list every set once, and none without cards. The cards of one set keep
their order: grouping takes them out of the list as they stand, and putting pools together puts
those of the second behind those of the first.
-/
namespace PackOpening

namespace Named

variable {α : Type}

theorem lookup_put (name other : Text) (value : α) (members : List (Text × α)) :
    (put name value members).lookup other =
      if other = name then some value else members.lookup other := by
  by_cases same : other = name
  · rw [if_pos same, same, lookup_put_self]
  · rw [if_neg same, lookup_put_of_ne same]

theorem mem_put_iff {name other : Text} {value : α} {members : List (Text × α)} :
    other ∈ (put name value members).map Prod.fst ↔
      other ∈ members.map Prod.fst ∨ other = name := by
  rw [map_fst_put]
  split
  · next there =>
    constructor
    · exact Or.inl
    · rintro (member | rfl)
      · exact member
      · exact there
  · rw [List.mem_append, List.mem_singleton]

theorem nodup_put {name : Text} {value : α} {members : List (Text × α)}
    (once : (members.map Prod.fst).Nodup) : ((put name value members).map Prod.fst).Nodup := by
  rw [map_fst_put]
  split
  · exact once
  · next fresh =>
    refine List.nodup_append.2 ⟨once, by simp, ?_⟩
    rintro other there _ last rfl
    exact fresh (List.mem_singleton.1 last ▸ there)

theorem lookup_eq_none_of_not_mem {name : Text} {members : List (Text × α)}
    (absent : name ∉ members.map Prod.fst) : members.lookup name = none :=
  List.lookup_eq_none_iff.2 fun member there => by
    simpa using fun same => absent (List.mem_map.2 ⟨member, there, same.symm⟩)

/-- Of assignments with distinct names, each reaches its own name only. -/
theorem lookup_update {assignments : List (Text × α)}
    (once : (assignments.map Prod.fst).Nodup) (members : List (Text × α)) (name : Text) :
    (update members assignments).lookup name =
      (assignments.lookup name).or (members.lookup name) := by
  induction assignments generalizing members with
  | nil => rfl
  | cons assignment rest ih =>
    obtain ⟨first, value⟩ := assignment
    obtain ⟨fresh, once⟩ := List.nodup_cons.1 once
    have onward := ih once (put first value members)
    rw [update, List.foldl_cons, ← update, onward, lookup_put]
    by_cases same : name = first
    · subst same
      simp [lookup_eq_none_of_not_mem fresh]
    · have distinct : (name == first) = false := by simpa using same
      rw [if_neg same, List.lookup_cons, distinct]

theorem nodup_update {members : List (Text × α)} (once : (members.map Prod.fst).Nodup)
    (assignments : List (Text × α)) : ((update members assignments).map Prod.fst).Nodup := by
  induction assignments generalizing members with
  | nil => exact once
  | cons assignment rest ih => exact ih (nodup_put once)

theorem mem_of_mem_put {name : Text} {value : α} {member : Text × α} {members : List (Text × α)}
    (there : member ∈ put name value members) : member ∈ members ∨ member = (name, value) := by
  induction members with
  | nil => exact .inr (List.mem_singleton.1 there)
  | cons first rest ih =>
    obtain ⟨n, v⟩ := first
    unfold put at there
    split at there
    · rcases List.mem_cons.1 there with rfl | behind
      · exact .inr rfl
      · exact .inl (List.mem_cons_of_mem _ behind)
    · rcases List.mem_cons.1 there with rfl | behind
      · exact .inl List.mem_cons_self
      · exact (ih behind).imp_left (List.mem_cons_of_mem _)

/-- Assignments bring no members but themselves. -/
theorem mem_of_mem_update {members assignments : List (Text × α)} {member : Text × α}
    (there : member ∈ update members assignments) : member ∈ members ∨ member ∈ assignments := by
  induction assignments generalizing members with
  | nil => exact .inl there
  | cons assignment rest ih =>
    rcases ih there with put | later
    · rcases mem_of_mem_put put with old | rfl
      · exact .inl old
      · exact .inr List.mem_cons_self
    · exact .inr (List.mem_cons_of_mem _ later)

/-- Of distinct names each stands for one value. -/
theorem lookup_eq_some_iff {members : List (Text × α)} (once : (members.map Prod.fst).Nodup)
    {name : Text} {value : α} : members.lookup name = some value ↔ (name, value) ∈ members := by
  induction members with
  | nil => simp
  | cons first rest ih =>
    obtain ⟨n, v⟩ := first
    obtain ⟨fresh, once⟩ := List.nodup_cons.1 once
    by_cases same : name = n
    · subst same
      have absent : (name, value) ∉ rest := fun there => fresh (List.mem_map.2 ⟨_, there, rfl⟩)
      simp [absent, eq_comm]
    · have distinct : (name == n) = false := by simpa using same
      simp [List.lookup_cons, distinct, ih once, same]

theorem put_of_not_mem {name : Text} {members : List (Text × α)}
    (fresh : name ∉ members.map Prod.fst) (value : α) :
    put name value members = members ++ [(name, value)] := by
  induction members with
  | nil => rfl
  | cons member rest ih =>
    rw [List.map_cons, List.mem_cons, not_or] at fresh
    rw [put, if_neg (Ne.symm fresh.1), ih fresh.2]
    rfl

theorem update_eq_append {members assignments : List (Text × α)}
    (once : ((members ++ assignments).map Prod.fst).Nodup) :
    update members assignments = members ++ assignments := by
  induction assignments generalizing members with
  | nil => simp [update]
  | cons assignment rest ih =>
    obtain ⟨name, value⟩ := assignment
    have fresh : name ∉ members.map Prod.fst := by
      rw [List.map_append, List.map_cons, List.nodup_append] at once
      exact fun member => once.2.2 name member name List.mem_cons_self rfl
    have shape : members ++ (name, value) :: rest = members ++ [(name, value)] ++ rest := by simp
    have step : update members ((name, value) :: rest) = update (put name value members) rest := rfl
    rw [shape] at once
    rw [step, put_of_not_mem fresh, ih once, shape]

/-- Assignments with distinct names, made one after the other to nothing, are all kept. -/
theorem update_nil {assignments : List (Text × α)} (once : (assignments.map Prod.fst).Nodup) :
    update [] assignments = assignments :=
  update_eq_append (by simpa using once)

/-- An assignment that is not made again later is found. -/
theorem lookup_update_of_last {name : Text} (value : α) (members before : List (Text × α))
    {after : List (Text × α)} (last : name ∉ after.map Prod.fst) :
    (update members (before ++ (name, value) :: after)).lookup name = some value := by
  have kept : ∀ {members : List (Text × α)}, members.lookup name = some value →
      (update members after).lookup name = some value := by
    clear members
    induction after with
    | nil => exact id
    | cons assignment rest ih =>
      intro members found
      rw [List.map_cons, List.mem_cons, not_or] at last
      refine ih last.2 ?_
      rw [lookup_put, if_neg last.1, found]
  rw [update, List.foldl_append, List.foldl_cons]
  exact kept (lookup_put_self name value _)

end Named

namespace SetPools

variable {pools more : SetPools} {cards : List Card} {code other : Text}

theorem of_cons (code other : Text) (cards : List Card) (rest : SetPools) :
    SetPools.of ((code, cards) :: rest) other = if other = code then cards else rest.of other := by
  by_cases same : other = code
  · simp [SetPools.of, same]
  · have distinct : (other == code) = false := by simpa using same
    simp [SetPools.of, List.lookup_cons, distinct, same]

theorem of_eq_nil_of_not_mem (absent : code ∉ pools.map Prod.fst) : pools.of code = [] := by
  rw [SetPools.of, Named.lookup_eq_none_of_not_mem absent]
  rfl

/-- A set gets the cards behind its own; the others keep theirs. -/
theorem of_extend (pools : SetPools) (code other : Text) (cards : List Card) :
    (pools.extend code cards).of other =
      pools.of other ++ if other = code then cards else [] := by
  unfold extend SetPools.of
  rw [Named.lookup_put]
  split
  · next same => rw [same, Option.getD_some]
  · rw [List.append_nil]

/-- Every set is listed once, and it is listed if it has cards. -/
structure IsTidy (pools : SetPools) : Prop where
  once : (pools.map Prod.fst).Nodup
  listed_iff : ∀ code, code ∈ pools.map Prod.fst ↔ pools.of code ≠ []

theorem isTidy_nil : IsTidy [] := ⟨List.nodup_nil, fun code => by simp [SetPools.of]⟩

theorem IsTidy.extend (tidy : pools.IsTidy) (present : cards ≠ []) :
    (pools.extend code cards).IsTidy := by
  refine ⟨Named.nodup_put tidy.once, fun other => ?_⟩
  rw [SetPools.extend, Named.mem_put_iff, ← SetPools.extend, of_extend, tidy.listed_iff]
  by_cases same : other = code
  · simp [same, present]
  · simp [same]

theorem IsTidy.lookup_eq (tidy : pools.IsTidy) (code : Text) :
    pools.lookup code = if pools.of code = [] then none else some (pools.of code) := by
  split
  · next empty =>
    exact Named.lookup_eq_none_of_not_mem fun listed => (tidy.listed_iff code).1 listed empty
  · next stocked =>
    cases found : pools.lookup code with
    | none => exact absurd (by rw [SetPools.of, found]; rfl) stocked
    | some cards => rw [SetPools.of, found, Option.getD_some]

theorem of_eq_of_mem (once : (pools.map Prod.fst).Nodup) (member : (code, cards) ∈ pools) :
    pools.of code = cards := by
  induction pools with
  | nil => cases member
  | cons pool rest ih =>
    obtain ⟨first, found⟩ := pool
    obtain ⟨fresh, once⟩ := List.nodup_cons.1 once
    rw [of_cons]
    rcases List.mem_cons.1 member with here | onward
    · cases here
      rw [if_pos rfl]
    · have listed : code ∈ rest.map Prod.fst := List.mem_map.2 ⟨_, onward, rfl⟩
      have distinct : code ≠ first := by
        rintro rfl
        exact fresh listed
      rw [if_neg distinct, ih once onward]

theorem IsTidy.ne_nil_of_mem (tidy : pools.IsTidy) (member : (code, cards) ∈ pools) :
    cards ≠ [] := by
  rw [← of_eq_of_mem tidy.once member]
  exact (tidy.listed_iff code).1 (List.mem_map.2 ⟨_, member, rfl⟩)

theorem of_join (pools : SetPools) (once : (more.map Prod.fst).Nodup) (other : Text) :
    (pools.join more).of other = pools.of other ++ more.of other := by
  induction more generalizing pools with
  | nil => simp [SetPools.join, SetPools.of]
  | cons pool rest ih =>
    obtain ⟨code, cards⟩ := pool
    obtain ⟨fresh, once⟩ := List.nodup_cons.1 once
    have onward := ih (pools.extend code cards) once
    rw [SetPools.join, List.foldl_cons, ← SetPools.join, onward, of_extend, of_cons,
      List.append_assoc]
    by_cases same : other = code
    · rw [if_pos same, if_pos same, same, of_eq_nil_of_not_mem fresh, List.append_nil]
    · rw [if_neg same, if_neg same, List.nil_append]

theorem IsTidy.join (tidy : pools.IsTidy) (tidy' : more.IsTidy) : (pools.join more).IsTidy := by
  have stocked : ∀ pool ∈ more, pool.2 ≠ [] := fun _ => tidy'.ne_nil_of_mem
  clear tidy'
  induction more generalizing pools with
  | nil => exact tidy
  | cons pool rest ih =>
    exact ih (tidy.extend (stocked pool List.mem_cons_self))
      fun pool there => stocked pool (List.mem_cons_of_mem _ there)

end SetPools

namespace Pool

/-- Grouping goes on from the pools of the cards before. -/
theorem of_foldl_extend (cards : List Card) (pools : SetPools) (code : Text) :
    SetPools.of (cards.foldl (fun pools card => pools.extend card.setCode [card]) pools) code =
      pools.of code ++ cards.filter fun c => c.setCode == code := by
  induction cards generalizing pools with
  | nil => simp
  | cons card rest ih =>
    rw [List.foldl_cons, ih, SetPools.of_extend, List.append_assoc]
    by_cases same : card.setCode = code
    · simp [same]
    · have distinct : ¬ code = card.setCode := fun e => same e.symm
      simp [same, distinct]

theorem of_bySet (cards : List Card) (code : Text) :
    (bySet cards).of code = cards.filter fun c => c.setCode == code := by
  rw [bySet, of_foldl_extend]
  rfl

theorem isTidy_bySet (cards : List Card) : (bySet cards).IsTidy := by
  suffices onward : ∀ pools : SetPools, pools.IsTidy →
      SetPools.IsTidy (cards.foldl (fun pools card => pools.extend card.setCode [card]) pools) from
    onward [] SetPools.isTidy_nil
  induction cards with
  | nil => exact fun _ tidy => tidy
  | cons card rest ih => exact fun pools tidy => ih _ (tidy.extend (List.cons_ne_nil _ _))

end Pool
end PackOpening
